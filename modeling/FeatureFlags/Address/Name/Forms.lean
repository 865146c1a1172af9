namespace FeatureFlags.Address.Name

/-!
# Plain forms

What stands for a character in a folded name where that is not its lower case:
ligatures, circled and squared forms, presentation forms, radicals and the like
are written out. The forms of neighbouring characters stand in one text with bars
between them.
-/

/-- The plain forms of the code points from the first to the last one, with bars between them. -/
structure FormRow where
  first : Nat
  last : Nat
  forms : String

/-- The plain forms of the characters of the lower half of the basic plane. -/
def lowerRows : List FormRow := [
    ⟨0xA0, 0xA0, " "⟩,
    ⟨0xA8, 0xA8, " \u0308"⟩,
    ⟨0xAA, 0xAA, "a"⟩,
    ⟨0xAF, 0xAF, " \u0304"⟩,
    ⟨0xB2, 0xB5, "2|3| \u0301|μ"⟩,
    ⟨0xB8, 0xBA, " \u0327|1|o"⟩,
    ⟨0xBC, 0xBE, "1⁄4|1⁄2|3⁄4"⟩,
    ⟨0x132, 0x133, "ij|ij"⟩,
    ⟨0x13F, 0x140, "l·|l·"⟩,
    ⟨0x149, 0x149, "\u02bcn"⟩,
    ⟨0x17F, 0x17F, "s"⟩,
    ⟨0x1C4, 0x1CC, "dž|dž|dž|lj|lj|lj|nj|nj|nj"⟩,
    ⟨0x1F1, 0x1F3, "dz|dz|dz"⟩,
    ⟨0x2B0, 0x2B8, "h|ɦ|j|r|ɹ|ɻ|ʁ|w|y"⟩,
    ⟨0x2D8, 0x2DD, " \u0306| \u0307| \u030a| \u0328| \u0303| \u030b"⟩,
    ⟨0x2E0, 0x2E4, "ɣ|l|s|x|ʕ"⟩,
    ⟨0x340, 0x341, "\u0300|\u0301"⟩,
    ⟨0x343, 0x345, "\u0313|\u0308\u0301|ι"⟩,
    ⟨0x374, 0x374, "\u02b9"⟩,
    ⟨0x37A, 0x37A, " ι"⟩,
    ⟨0x37E, 0x37E, ";"⟩,
    ⟨0x384, 0x385, " \u0301| \u0308\u0301"⟩,
    ⟨0x387, 0x387, "·"⟩,
    ⟨0x3D0, 0x3D6, "β|θ|υ|ύ|ϋ|φ|π"⟩,
    ⟨0x3F0, 0x3F2, "κ|ρ|σ"⟩,
    ⟨0x3F5, 0x3F5, "ε"⟩,
    ⟨0x3F9, 0x3F9, "σ"⟩,
    ⟨0x587, 0x587, "եւ"⟩,
    ⟨0x675, 0x678, "\u0627\u0674|\u0648\u0674|\u06c7\u0674|\u064a\u0674"⟩,
    ⟨0x958, 0x95F, "क\u093c|ख\u093c|ग\u093c|ज\u093c|ड\u093c|ढ\u093c|फ\u093c|य\u093c"⟩,
    ⟨0x9DC, 0x9DD, "ড\u09bc|ঢ\u09bc"⟩,
    ⟨0x9DF, 0x9DF, "য\u09bc"⟩,
    ⟨0xA33, 0xA33, "ਲ\u0a3c"⟩,
    ⟨0xA36, 0xA36, "ਸ\u0a3c"⟩,
    ⟨0xA59, 0xA5B, "ਖ\u0a3c|ਗ\u0a3c|ਜ\u0a3c"⟩,
    ⟨0xA5E, 0xA5E, "ਫ\u0a3c"⟩,
    ⟨0xB5C, 0xB5D, "ଡ\u0b3c|ଢ\u0b3c"⟩,
    ⟨0xE33, 0xE33, "\u0e4d\u0e32"⟩,
    ⟨0xEB3, 0xEB3, "\u0ecd\u0eb2"⟩,
    ⟨0xEDC, 0xEDD, "\u0eab\u0e99|\u0eab\u0ea1"⟩,
    ⟨0xF0C, 0xF0C, "\u0f0b"⟩,
    ⟨0xF43, 0xF43, "\u0f42\u0fb7"⟩,
    ⟨0xF4D, 0xF4D, "\u0f4c\u0fb7"⟩,
    ⟨0xF52, 0xF52, "\u0f51\u0fb7"⟩,
    ⟨0xF57, 0xF57, "\u0f56\u0fb7"⟩,
    ⟨0xF5C, 0xF5C, "\u0f5b\u0fb7"⟩,
    ⟨0xF69, 0xF69, "\u0f40\u0fb5"⟩,
    ⟨0xF73, 0xF73, "\u0f71\u0f72"⟩,
    ⟨0xF75, 0xF78, "\u0f71\u0f74|\u0fb2\u0f80|\u0fb2\u0f71\u0f80|\u0fb3\u0f80"⟩,
    ⟨0xF79, 0xF79, "\u0fb3\u0f71\u0f80"⟩,
    ⟨0xF81, 0xF81, "\u0f71\u0f80"⟩,
    ⟨0xF93, 0xF93, "\u0f92\u0fb7"⟩,
    ⟨0xF9D, 0xF9D, "\u0f9c\u0fb7"⟩,
    ⟨0xFA2, 0xFA2, "\u0fa1\u0fb7"⟩,
    ⟨0xFA7, 0xFA7, "\u0fa6\u0fb7"⟩,
    ⟨0xFAC, 0xFAC, "\u0fab\u0fb7"⟩,
    ⟨0xFB9, 0xFB9, "\u0f90\u0fb5"⟩,
    ⟨0x10FC, 0x10FC, "ნ"⟩,
    ⟨0x1C80, 0x1C88, "в|д|о|с|т|т|ъ|ѣ|ꙋ"⟩,
    ⟨0x1D2C, 0x1D2E, "a|æ|b"⟩,
    ⟨0x1D30, 0x1D32, "d|e|ǝ"⟩,
    ⟨0x1D3C, 0x1D4D, "o|ȣ|p|r|t|u|w|a|ɐ|ɑ|ᴂ|b|d|e|ə|ɛ|ɜ|g"⟩,
    ⟨0x1D4F, 0x1D6A, "k|m|ŋ|o|ɔ|ᴖ|ᴗ|p|t|u|ᴝ|ɯ|v|ᴥ|β|γ|δ|φ|χ|i|r|u|v|β|γ|ρ|φ|χ"⟩,
    ⟨0x1D78, 0x1D78, "н"⟩,
    ⟨0x1D9B, 0x1DAD, "ɒ|c|ɕ|ð|ɜ|f|ɟ|ɡ|ɥ|ɨ|ɩ|ɪ|ᵻ|ʝ|ɭ|ᶅ|ʟ|ɱ|ɰ"⟩,
    ⟨0x1DB2, 0x1DBF, "ɸ|ʂ|ʃ|ƫ|ʉ|ʊ|ᴜ|ʋ|ʌ|z|ʐ|ʑ|ʒ|θ"⟩,
    ⟨0x1E9A, 0x1E9B, "a\u02be|ṡ"⟩,
    ⟨0x1F71, 0x1F71, "ά"⟩,
    ⟨0x1F73, 0x1F73, "έ"⟩,
    ⟨0x1F75, 0x1F75, "ή"⟩,
    ⟨0x1F77, 0x1F77, "ί"⟩,
    ⟨0x1F79, 0x1F79, "ό"⟩,
    ⟨0x1F7B, 0x1F7B, "ύ"⟩,
    ⟨0x1F7D, 0x1F7D, "ώ"⟩,
    ⟨0x1F80, 0x1F96, "ἀι|ἁι|ἂι|ἃι|ἄι|ἅι|ἆι|ἇι|ἀι|ἁι|ἂι|ἃι|ἄι|ἅι|ἆι|ἇι|ἠι|ἡι|ἢι|ἣι|ἤι|ἥι|ἦι"⟩,
    ⟨0x1F97, 0x1FAD, "ἧι|ἠι|ἡι|ἢι|ἣι|ἤι|ἥι|ἦι|ἧι|ὠι|ὡι|ὢι|ὣι|ὤι|ὥι|ὦι|ὧι|ὠι|ὡι|ὢι|ὣι|ὤι|ὥι"⟩,
    ⟨0x1FAE, 0x1FAF, "ὦι|ὧι"⟩,
    ⟨0x1FB2, 0x1FB4, "ὰι|αι|άι"⟩,
    ⟨0x1FB7, 0x1FB7, "ᾶι"⟩,
    ⟨0x1FBB, 0x1FC4, "ά|αι| \u0313|ι| \u0313| \u0342| \u0308\u0342|ὴι|ηι|ήι"⟩,
    ⟨0x1FC7, 0x1FC7, "ῆι"⟩,
    ⟨0x1FC9, 0x1FC9, "έ"⟩,
    ⟨0x1FCB, 0x1FCF, "ή|ηι| \u0313\u0300| \u0313\u0301| \u0313\u0342"⟩,
    ⟨0x1FD3, 0x1FD3, "ΐ"⟩,
    ⟨0x1FDB, 0x1FDB, "ί"⟩,
    ⟨0x1FDD, 0x1FDF, " \u0314\u0300| \u0314\u0301| \u0314\u0342"⟩,
    ⟨0x1FE3, 0x1FE3, "ΰ"⟩,
    ⟨0x1FEB, 0x1FEB, "ύ"⟩,
    ⟨0x1FED, 0x1FEF, " \u0308\u0300| \u0308\u0301|\x60"⟩,
    ⟨0x1FF2, 0x1FF4, "ὼι|ωι|ώι"⟩,
    ⟨0x1FF7, 0x1FF7, "ῶι"⟩,
    ⟨0x1FF9, 0x1FF9, "ό"⟩,
    ⟨0x1FFB, 0x1FFE, "ώ|ωι| \u0301| \u0314"⟩,
    ⟨0x2000, 0x200A, " | | | | | | | | | | "⟩,
    ⟨0x2011, 0x2011, "‐"⟩,
    ⟨0x2017, 0x2017, " \u0333"⟩,
    ⟨0x202F, 0x202F, " "⟩,
    ⟨0x2033, 0x2034, "′′|′′′"⟩,
    ⟨0x2036, 0x2037, "‵‵|‵‵‵"⟩,
    ⟨0x203C, 0x203C, "!!"⟩,
    ⟨0x203E, 0x203E, " \u0305"⟩,
    ⟨0x2047, 0x2049, "??|?!|!?"⟩,
    ⟨0x2057, 0x2057, "′′′′"⟩,
    ⟨0x205F, 0x205F, " "⟩,
    ⟨0x2070, 0x2071, "0|i"⟩,
    ⟨0x207A, 0x207F, "+|−|=|(|)|n"⟩,
    ⟨0x208A, 0x208E, "+|−|=|(|)"⟩,
    ⟨0x2090, 0x2095, "a|e|o|x|ə|h"⟩,
    ⟨0x209A, 0x209C, "p|s|t"⟩,
    ⟨0x20A8, 0x20A8, "rs"⟩,
    ⟨0x2100, 0x2103, "a/c|a/s|c|°c"⟩,
    ⟨0x2105, 0x2107, "c/o|c/u|ɛ"⟩,
    ⟨0x2109, 0x2113, "°f|g|h|h|h|h|ħ|i|i|l|l"⟩,
    ⟨0x2115, 0x2116, "n|no"⟩,
    ⟨0x2119, 0x211D, "p|q|r|r|r"⟩,
    ⟨0x2120, 0x2122, "sm|tel|tm"⟩,
    ⟨0x2124, 0x2124, "z"⟩,
    ⟨0x2128, 0x2128, "z"⟩,
    ⟨0x212C, 0x212D, "b|c"⟩,
    ⟨0x212F, 0x2131, "e|e|f"⟩,
    ⟨0x2133, 0x2134, "m|o"⟩,
    ⟨0x2139, 0x2139, "i"⟩,
    ⟨0x213B, 0x2140, "fax|π|γ|γ|π|∑"⟩,
    ⟨0x2145, 0x2149, "d|d|e|i|j"⟩,
    ⟨0x2150, 0x2161, "1⁄7|1⁄9|1⁄10|1⁄3|2⁄3|1⁄5|2⁄5|3⁄5|4⁄5|1⁄6|5⁄6|1⁄8|3⁄8|5⁄8|7⁄8|1⁄|i|ii"⟩,
    ⟨0x2162, 0x2178, "iii|iv|v|vi|vii|viii|ix|x|xi|xii|l|c|d|m|i|ii|iii|iv|v|vi|vii|viii|ix"⟩,
    ⟨0x2179, 0x217F, "x|xi|xii|l|c|d|m"⟩,
    ⟨0x2189, 0x2189, "0⁄3"⟩,
    ⟨0x222C, 0x222D, "∫∫|∫∫∫"⟩,
    ⟨0x222F, 0x2230, "∮∮|∮∮∮"⟩,
    ⟨0x2329, 0x232A, "〈|〉"⟩,
    ⟨0x2469, 0x247C, "10|11|12|13|14|15|16|17|18|19|20|(1)|(2)|(3)|(4)|(5)|(6)|(7)|(8)|(9)"⟩,
    ⟨0x247D, 0x2487, "(10)|(11)|(12)|(13)|(14)|(15)|(16)|(17)|(18)|(19)|(20)"⟩,
    ⟨0x249C, 0x24AC, "(a)|(b)|(c)|(d)|(e)|(f)|(g)|(h)|(i)|(j)|(k)|(l)|(m)|(n)|(o)|(p)|(q)"⟩,
    ⟨0x24AD, 0x24B5, "(r)|(s)|(t)|(u)|(v)|(w)|(x)|(y)|(z)"⟩,
    ⟨0x24EA, 0x24EA, "0"⟩,
    ⟨0x2A0C, 0x2A0C, "∫∫∫∫"⟩,
    ⟨0x2A74, 0x2A76, "::=|==|==="⟩,
    ⟨0x2ADC, 0x2ADC, "⫝\u0338"⟩,
    ⟨0x2C7C, 0x2C7D, "j|v"⟩,
    ⟨0x2D6F, 0x2D6F, "ⵡ"⟩,
    ⟨0x2E9F, 0x2E9F, "母"⟩,
    ⟨0x2EF3, 0x2EF3, "龟"⟩,
    ⟨0x2F00, 0x2F16, "一|丨|丶|丿|乙|亅|二|亠|人|儿|入|八|冂|冖|冫|几|凵|刀|力|勹|匕|匚|匸"⟩,
    ⟨0x2F17, 0x2F2D, "十|卜|卩|厂|厶|又|口|囗|土|士|夂|夊|夕|大|女|子|宀|寸|小|尢|尸|屮|山"⟩,
    ⟨0x2F2E, 0x2F44, "巛|工|己|巾|干|幺|广|廴|廾|弋|弓|彐|彡|彳|心|戈|戶|手|支|攴|文|斗|斤"⟩,
    ⟨0x2F45, 0x2F5B, "方|无|日|曰|月|木|欠|止|歹|殳|毋|比|毛|氏|气|水|火|爪|父|爻|爿|片|牙"⟩,
    ⟨0x2F5C, 0x2F72, "牛|犬|玄|玉|瓜|瓦|甘|生|用|田|疋|疒|癶|白|皮|皿|目|矛|矢|石|示|禸|禾"⟩,
    ⟨0x2F73, 0x2F89, "穴|立|竹|米|糸|缶|网|羊|羽|老|而|耒|耳|聿|肉|臣|自|至|臼|舌|舛|舟|艮"⟩,
    ⟨0x2F8A, 0x2FA0, "色|艸|虍|虫|血|行|衣|襾|見|角|言|谷|豆|豕|豸|貝|赤|走|足|身|車|辛|辰"⟩,
    ⟨0x2FA1, 0x2FB7, "辵|邑|酉|釆|里|金|長|門|阜|隶|隹|雨|靑|非|面|革|韋|韭|音|頁|風|飛|食"⟩,
    ⟨0x2FB8, 0x2FCE, "首|香|馬|骨|高|髟|鬥|鬯|鬲|鬼|魚|鳥|鹵|鹿|麥|麻|黃|黍|黑|黹|黽|鼎|鼓"⟩,
    ⟨0x2FCF, 0x2FD5, "鼠|鼻|齊|齒|龍|龜|龠"⟩]

/-- The plain forms of the characters of the Chinese, Japanese and Korean blocks. -/
def easternRows : List FormRow := [
    ⟨0x3000, 0x3000, " "⟩,
    ⟨0x3002, 0x3002, "."⟩,
    ⟨0x3036, 0x3036, "〒"⟩,
    ⟨0x3038, 0x303A, "十|卄|卅"⟩,
    ⟨0x309B, 0x309C, " \u3099| \u309a"⟩,
    ⟨0x309F, 0x309F, "より"⟩,
    ⟨0x30FF, 0x30FF, "コト"⟩,
    ⟨0x3131, 0x3139, "\u1100|\u1101|\u11aa|\u1102|\u11ac|\u11ad|\u1103|\u1104|\u1105"⟩,
    ⟨0x3140, 0x3144, "\u111a|\u1106|\u1107|\u1108|\u1121"⟩,
    ⟨0x3165, 0x316E, "\u1114|\u1115|\u11c7|\u11c8|\u11cc|\u11ce|\u11d3|\u11d7|\u11d9|\u111c"⟩,
    ⟨0x316F, 0x3177, "\u11dd|\u11df|\u111d|\u111e|\u1120|\u1122|\u1123|\u1127|\u1129"⟩,
    ⟨0x317D, 0x3186, "\u1132|\u1136|\u1140|\u1147|\u114c|\u11f1|\u11f2|\u1157|\u1158|\u1159"⟩,
    ⟨0x3187, 0x318E, "\u1184|\u1185|\u1188|\u1191|\u1192|\u1194|\u119e|\u11a1"⟩,
    ⟨0x3192, 0x319F, "一|二|三|四|上|中|下|甲|乙|丙|丁|天|地|人"⟩,
    ⟨0x3200, 0x3206, "(\u1100)|(\u1102)|(\u1103)|(\u1105)|(\u1106)|(\u1107)|(\u1109)"⟩,
    ⟨0x3207, 0x320D, "(\u110b)|(\u110c)|(\u110e)|(\u110f)|(\u1110)|(\u1111)|(\u1112)"⟩,
    ⟨0x320E, 0x3214, "(\uac00)|(\ub098)|(\ub2e4)|(\ub77c)|(\ub9c8)|(\ubc14)|(\uc0ac)"⟩,
    ⟨0x3215, 0x321B, "(\uc544)|(\uc790)|(\ucc28)|(\uce74)|(\ud0c0)|(\ud30c)|(\ud558)"⟩,
    ⟨0x321C, 0x321E, "(\uc8fc)|(\uc624\uc804)|(\uc624\ud6c4)"⟩,
    ⟨0x3220, 0x322D, "(一)|(二)|(三)|(四)|(五)|(六)|(七)|(八)|(九)|(十)|(月)|(火)|(水)|(木)"⟩,
    ⟨0x322E, 0x323B, "(金)|(土)|(日)|(株)|(有)|(社)|(名)|(特)|(財)|(祝)|(労)|(代)|(呼)|(学)"⟩,
    ⟨0x323C, 0x3247, "(監)|(企)|(資)|(協)|(祭)|(休)|(自)|(至)|問|幼|文|箏"⟩,
    ⟨0x3250, 0x3262, "pte|21|22|23|24|25|26|27|28|29|30|31|32|33|34|35|\u1100|\u1102|\u1103"⟩,
    ⟨0x3263, 0x3268, "\u1105|\u1106|\u1107|\u1109|\u110b|\u110c"⟩,
    ⟨0x326E, 0x3277, "\uac00|\ub098|\ub2e4|\ub77c|\ub9c8|\ubc14|\uc0ac|\uc544|\uc790|\ucc28"⟩,
    ⟨0x3278, 0x327E, "\uce74|\ud0c0|\ud30c|\ud558|\ucc38\uace0|\uc8fc\uc758|\uc6b0"⟩,
    ⟨0x3280, 0x3296, "一|二|三|四|五|六|七|八|九|十|月|火|水|木|金|土|日|株|有|社|名|特|財"⟩,
    ⟨0x3297, 0x32AD, "祝|労|秘|男|女|適|優|印|注|項|休|写|正|上|中|下|左|右|医|宗|学|監|企"⟩,
    ⟨0x32AE, 0x32C3, "資|協|夜|36|37|38|39|40|41|42|43|44|45|46|47|48|49|50|1月|2月|3月|4月"⟩,
    ⟨0x32C4, 0x32D6, "5月|6月|7月|8月|9月|10月|11月|12月|hg|erg|ev|ltd|ア|イ|ウ|エ|オ|カ|キ"⟩,
    ⟨0x32D7, 0x32E3, "ク|ケ|コ|サ|シ|ス|セ|ソ|タ|チ|ツ|テ|ト"⟩,
    ⟨0x32EA, 0x32ED, "ヒ|フ|ヘ|ホ"⟩,
    ⟨0x32F3, 0x32F4, "ヤ|ユ"⟩,
    ⟨0x32FF, 0x3306, "令和|アパ\u30fcト|アルファ|アンペア|ア\u30fcル|イニング|インチ|ウォン"⟩,
    ⟨0x3307, 0x330C, "エスク\u30fcド|エ\u30fcカ\u30fc|オンス|オ\u30fcム|カイリ|カラット"⟩,
    ⟨0x330D, 0x3313, "カロリ\u30fc|ガロン|ガンマ|ギガ|ギニ\u30fc|キュリ\u30fc|ギルダ\u30fc"⟩,
    ⟨0x3314, 0x3319, "キロ|キログラム|キロメ\u30fcトル|キロワット|グラム|グラムトン"⟩,
    ⟨0x331A, 0x331F, "クルゼイロ|クロ\u30fcネ|ケ\u30fcス|コルナ|コ\u30fcポ|サイクル"⟩,
    ⟨0x3320, 0x3328, "サンチ\u30fcム|シリング|センチ|セント|ダ\u30fcス|デシ|ドル|トン|ナノ"⟩,
    ⟨0x3329, 0x332E, "ノット|ハイツ|パ\u30fcセント|パ\u30fcツ|バ\u30fcレル|ピアストル"⟩,
    ⟨0x332F, 0x3335, "ピクル|ピコ|ビル|ファラッド|フィ\u30fcト|ブッシェル|フラン"⟩,
    ⟨0x3336, 0x333C, "ヘクタ\u30fcル|ペソ|ペニヒ|ヘルツ|ペンス|ペ\u30fcジ|ベ\u30fcタ"⟩,
    ⟨0x333D, 0x3344, "ポイント|ボルト|ホン|ポンド|ホ\u30fcル|ホ\u30fcン|マイクロ|マイル"⟩,
    ⟨0x3345, 0x334C, "マッハ|マルク|マンション|ミクロン|ミリ|ミリバ\u30fcル|メガ|メガトン"⟩,
    ⟨0x334D, 0x3353, "メ\u30fcトル|ヤ\u30fcド|ヤ\u30fcル|ユアン|リットル|リラ|ルピ\u30fc"⟩,
    ⟨0x3354, 0x335F, "ル\u30fcブル|レム|レントゲン|ワット|0点|1点|2点|3点|4点|5点|6点|7点"⟩,
    ⟨0x3360, 0x336D, "8点|9点|10点|11点|12点|13点|14点|15点|16点|17点|18点|19点|20点|21点"⟩,
    ⟨0x336E, 0x337E, "22点|23点|24点|hpa|da|au|bar|ov|pc|dm|dm2|dm3|iu|平成|昭和|大正|明治"⟩,
    ⟨0x337F, 0x3391, "株式会社|pa|na|μa|ma|ka|kb|mb|gb|cal|kcal|pf|nf|μf|μg|mg|kg|hz|khz"⟩,
    ⟨0x3392, 0x33A5, "mhz|ghz|thz|μl|ml|dl|kl|fm|nm|μm|mm|cm|km|mm2|cm2|m2|km2|mm3|cm3|m3"⟩,
    ⟨0x33A6, 0x33B7, "km3|m∕s|m∕s2|pa|kpa|mpa|gpa|rad|rad∕s|rad∕s2|ps|ns|μs|ms|pv|nv|μv|mv"⟩,
    ⟨0x33B8, 0x33C1, "kv|mv|pw|nw|μw|mw|kw|mw|kω|mω"⟩,
    ⟨0x33C3, 0x33C6, "bq|cc|cd|c∕kg"⟩,
    ⟨0x33C8, 0x33D7, "db|gy|ha|hp|in|kk|km|kt|lm|ln|log|lx|mb|mil|mol|ph"⟩,
    ⟨0x33D9, 0x33EA, "ppm|pr|sr|sv|wb|v∕m|a∕m|1日|2日|3日|4日|5日|6日|7日|8日|9日|10日|11日"⟩,
    ⟨0x33EB, 0x33F8, "12日|13日|14日|15日|16日|17日|18日|19日|20日|21日|22日|23日|24日|25日"⟩,
    ⟨0x33F9, 0x33FF, "26日|27日|28日|29日|30日|31日|gal"⟩,
    ⟨0xA69C, 0xA69D, "ъ|ь"⟩,
    ⟨0xA770, 0xA770, "ꝯ"⟩,
    ⟨0xA7F1, 0xA7F4, "s|c|f|q"⟩,
    ⟨0xA7F8, 0xA7F9, "ħ|œ"⟩,
    ⟨0xAB5C, 0xAB5F, "ꜧ|ꬷ|ɫ|ꭒ"⟩,
    ⟨0xAB69, 0xAB69, "ʍ"⟩,
    ⟨0xF900, 0xF916, "豈|更|車|賈|滑|串|句|龜|龜|契|金|喇|奈|懶|癩|羅|蘿|螺|裸|邏|樂|洛|烙"⟩,
    ⟨0xF917, 0xF92D, "珞|落|酪|駱|亂|卵|欄|爛|蘭|鸞|嵐|濫|藍|襤|拉|臘|蠟|廊|朗|浪|狼|郎|來"⟩,
    ⟨0xF92E, 0xF944, "冷|勞|擄|櫓|爐|盧|老|蘆|虜|路|露|魯|鷺|碌|祿|綠|菉|錄|鹿|論|壟|弄|籠"⟩,
    ⟨0xF945, 0xF95B, "聾|牢|磊|賂|雷|壘|屢|樓|淚|漏|累|縷|陋|勒|肋|凜|凌|稜|綾|菱|陵|讀|拏"⟩,
    ⟨0xF95C, 0xF972, "樂|諾|丹|寧|怒|率|異|北|磻|便|復|不|泌|數|索|參|塞|省|葉|說|殺|辰|沈"⟩,
    ⟨0xF973, 0xF989, "拾|若|掠|略|亮|兩|凉|梁|糧|良|諒|量|勵|呂|女|廬|旅|濾|礪|閭|驪|麗|黎"⟩,
    ⟨0xF98A, 0xF9A0, "力|曆|歷|轢|年|憐|戀|撚|漣|煉|璉|秊|練|聯|輦|蓮|連|鍊|列|劣|咽|烈|裂"⟩,
    ⟨0xF9A1, 0xF9B7, "說|廉|念|捻|殮|簾|獵|令|囹|寧|嶺|怜|玲|瑩|羚|聆|鈴|零|靈|領|例|禮|醴"⟩,
    ⟨0xF9B8, 0xF9CE, "隸|惡|了|僚|寮|尿|料|樂|燎|療|蓼|遼|龍|暈|阮|劉|杻|柳|流|溜|琉|留|硫"⟩,
    ⟨0xF9CF, 0xF9E5, "紐|類|六|戮|陸|倫|崙|淪|輪|律|慄|栗|率|隆|利|吏|履|易|李|梨|泥|理|痢"⟩,
    ⟨0xF9E6, 0xF9FC, "罹|裏|裡|里|離|匿|溺|吝|燐|璘|藺|隣|鱗|麟|林|淋|臨|立|笠|粒|狀|炙|識"⟩,
    ⟨0xF9FD, 0xFA0D, "什|茶|刺|切|度|拓|糖|宅|洞|暴|輻|行|降|見|廓|兀|嗀"⟩,
    ⟨0xFA10, 0xFA10, "塚"⟩,
    ⟨0xFA12, 0xFA12, "晴"⟩,
    ⟨0xFA15, 0xFA1E, "凞|猪|益|礼|神|祥|福|靖|精|羽"⟩,
    ⟨0xFA20, 0xFA20, "蘒"⟩,
    ⟨0xFA22, 0xFA22, "諸"⟩,
    ⟨0xFA25, 0xFA26, "逸|都"⟩,
    ⟨0xFA2A, 0xFA40, "飯|飼|館|鶴|郞|隷|侮|僧|免|勉|勤|卑|喝|嘆|器|塀|墨|層|屮|悔|慨|憎|懲"⟩,
    ⟨0xFA41, 0xFA57, "敏|既|暑|梅|海|渚|漢|煮|爫|琢|碑|社|祉|祈|祐|祖|祝|禍|禎|穀|突|節|練"⟩,
    ⟨0xFA58, 0xFA6D, "縉|繁|署|者|臭|艹|艹|著|褐|視|謁|謹|賓|贈|辶|逸|難|響|頻|恵|𤋮|舘"⟩,
    ⟨0xFA70, 0xFA86, "並|况|全|侀|充|冀|勇|勺|喝|啕|喙|嗢|塚|墳|奄|奔|婢|嬨|廒|廙|彩|徭|惘"⟩,
    ⟨0xFA87, 0xFA9D, "慎|愈|憎|慠|懲|戴|揄|搜|摒|敖|晴|朗|望|杖|歹|殺|流|滛|滋|漢|瀞|煮|瞧"⟩,
    ⟨0xFA9E, 0xFAB4, "爵|犯|猪|瑱|甆|画|瘝|瘟|益|盛|直|睊|着|磌|窱|節|类|絛|練|缾|者|荒|華"⟩,
    ⟨0xFAB5, 0xFACB, "蝹|襁|覆|視|調|諸|請|謁|諾|諭|謹|變|贈|輸|遲|醙|鉶|陼|難|靖|韛|響|頋"⟩,
    ⟨0xFACC, 0xFAD9, "頻|鬒|龜|𢡊|𢡄|𣏕|㮝|䀘|䀹|𥉉|𥳐|𧻓|齃|龎"⟩]

/-- The plain forms of all characters after those. -/
def upperRows : List FormRow := [
    ⟨0xFB00, 0xFB06, "ff|fi|fl|ffi|ffl|st|st"⟩,
    ⟨0xFB13, 0xFB17, "մն|մե|մի|վն|մխ"⟩,
    ⟨0xFB1D, 0xFB1D, "\u05d9\u05b4"⟩,
    ⟨0xFB1F, 0xFB27, "\u05f2\u05b7|\u05e2|\u05d0|\u05d3|\u05d4|\u05db|\u05dc|\u05dd|\u05e8"⟩,
    ⟨0xFB28, 0xFB2C, "\u05ea|+|\u05e9\u05c1|\u05e9\u05c2|\u05e9\u05bc\u05c1"⟩,
    ⟨0xFB2D, 0xFB30, "\u05e9\u05bc\u05c2|\u05d0\u05b7|\u05d0\u05b8|\u05d0\u05bc"⟩,
    ⟨0xFB31, 0xFB35, "\u05d1\u05bc|\u05d2\u05bc|\u05d3\u05bc|\u05d4\u05bc|\u05d5\u05bc"⟩,
    ⟨0xFB36, 0xFB36, "\u05d6\u05bc"⟩,
    ⟨0xFB38, 0xFB3C, "\u05d8\u05bc|\u05d9\u05bc|\u05da\u05bc|\u05db\u05bc|\u05dc\u05bc"⟩,
    ⟨0xFB3E, 0xFB3E, "\u05de\u05bc"⟩,
    ⟨0xFB40, 0xFB41, "\u05e0\u05bc|\u05e1\u05bc"⟩,
    ⟨0xFB43, 0xFB44, "\u05e3\u05bc|\u05e4\u05bc"⟩,
    ⟨0xFB46, 0xFB4A, "\u05e6\u05bc|\u05e7\u05bc|\u05e8\u05bc|\u05e9\u05bc|\u05ea\u05bc"⟩,
    ⟨0xFB4B, 0xFB4F, "\u05d5\u05b9|\u05d1\u05bf|\u05db\u05bf|\u05e4\u05bf|\u05d0\u05dc"⟩,
    ⟨0xFB50, 0xFB59, "\u0671|\u0671|\u067b|\u067b|\u067b|\u067b|\u067e|\u067e|\u067e|\u067e"⟩,
    ⟨0xFB5A, 0xFB63, "\u0680|\u0680|\u0680|\u0680|\u067a|\u067a|\u067a|\u067a|\u067f|\u067f"⟩,
    ⟨0xFB64, 0xFB6D, "\u067f|\u067f|\u0679|\u0679|\u0679|\u0679|\u06a4|\u06a4|\u06a4|\u06a4"⟩,
    ⟨0xFB6E, 0xFB77, "\u06a6|\u06a6|\u06a6|\u06a6|\u0684|\u0684|\u0684|\u0684|\u0683|\u0683"⟩,
    ⟨0xFB78, 0xFB81, "\u0683|\u0683|\u0686|\u0686|\u0686|\u0686|\u0687|\u0687|\u0687|\u0687"⟩,
    ⟨0xFB82, 0xFB8B, "\u068d|\u068d|\u068c|\u068c|\u068e|\u068e|\u0688|\u0688|\u0698|\u0698"⟩,
    ⟨0xFB8C, 0xFB95, "\u0691|\u0691|\u06a9|\u06a9|\u06a9|\u06a9|\u06af|\u06af|\u06af|\u06af"⟩,
    ⟨0xFB96, 0xFB9F, "\u06b3|\u06b3|\u06b3|\u06b3|\u06b1|\u06b1|\u06b1|\u06b1|\u06ba|\u06ba"⟩,
    ⟨0xFBA0, 0xFBA9, "\u06bb|\u06bb|\u06bb|\u06bb|\u06c0|\u06c0|\u06c1|\u06c1|\u06c1|\u06c1"⟩,
    ⟨0xFBAA, 0xFBB1, "\u06be|\u06be|\u06be|\u06be|\u06d2|\u06d2|\u06d3|\u06d3"⟩,
    ⟨0xFBD3, 0xFBDC, "\u06ad|\u06ad|\u06ad|\u06ad|\u06c7|\u06c7|\u06c6|\u06c6|\u06c8|\u06c8"⟩,
    ⟨0xFBDD, 0xFBE5, "\u06c7\u0674|\u06cb|\u06cb|\u06c5|\u06c5|\u06c9|\u06c9|\u06d0|\u06d0"⟩,
    ⟨0xFBE6, 0xFBEC, "\u06d0|\u06d0|\u0649|\u0649|\u0626\u0627|\u0626\u0627|\u0626\u06d5"⟩,
    ⟨0xFBED, 0xFBF1, "\u0626\u06d5|\u0626\u0648|\u0626\u0648|\u0626\u06c7|\u0626\u06c7"⟩,
    ⟨0xFBF2, 0xFBF6, "\u0626\u06c6|\u0626\u06c6|\u0626\u06c8|\u0626\u06c8|\u0626\u06d0"⟩,
    ⟨0xFBF7, 0xFBFB, "\u0626\u06d0|\u0626\u06d0|\u0626\u0649|\u0626\u0649|\u0626\u0649"⟩,
    ⟨0xFBFC, 0xFC02, "\u06cc|\u06cc|\u06cc|\u06cc|\u0626\u062c|\u0626\u062d|\u0626\u0645"⟩,
    ⟨0xFC03, 0xFC07, "\u0626\u0649|\u0626\u064a|\u0628\u062c|\u0628\u062d|\u0628\u062e"⟩,
    ⟨0xFC08, 0xFC0C, "\u0628\u0645|\u0628\u0649|\u0628\u064a|\u062a\u062c|\u062a\u062d"⟩,
    ⟨0xFC0D, 0xFC11, "\u062a\u062e|\u062a\u0645|\u062a\u0649|\u062a\u064a|\u062b\u062c"⟩,
    ⟨0xFC12, 0xFC16, "\u062b\u0645|\u062b\u0649|\u062b\u064a|\u062c\u062d|\u062c\u0645"⟩,
    ⟨0xFC17, 0xFC1B, "\u062d\u062c|\u062d\u0645|\u062e\u062c|\u062e\u062d|\u062e\u0645"⟩,
    ⟨0xFC1C, 0xFC20, "\u0633\u062c|\u0633\u062d|\u0633\u062e|\u0633\u0645|\u0635\u062d"⟩,
    ⟨0xFC21, 0xFC25, "\u0635\u0645|\u0636\u062c|\u0636\u062d|\u0636\u062e|\u0636\u0645"⟩,
    ⟨0xFC26, 0xFC2A, "\u0637\u062d|\u0637\u0645|\u0638\u0645|\u0639\u062c|\u0639\u0645"⟩,
    ⟨0xFC2B, 0xFC2F, "\u063a\u062c|\u063a\u0645|\u0641\u062c|\u0641\u062d|\u0641\u062e"⟩,
    ⟨0xFC30, 0xFC34, "\u0641\u0645|\u0641\u0649|\u0641\u064a|\u0642\u062d|\u0642\u0645"⟩,
    ⟨0xFC35, 0xFC39, "\u0642\u0649|\u0642\u064a|\u0643\u0627|\u0643\u062c|\u0643\u062d"⟩,
    ⟨0xFC3A, 0xFC3E, "\u0643\u062e|\u0643\u0644|\u0643\u0645|\u0643\u0649|\u0643\u064a"⟩,
    ⟨0xFC3F, 0xFC43, "\u0644\u062c|\u0644\u062d|\u0644\u062e|\u0644\u0645|\u0644\u0649"⟩,
    ⟨0xFC44, 0xFC48, "\u0644\u064a|\u0645\u062c|\u0645\u062d|\u0645\u062e|\u0645\u0645"⟩,
    ⟨0xFC49, 0xFC4D, "\u0645\u0649|\u0645\u064a|\u0646\u062c|\u0646\u062d|\u0646\u062e"⟩,
    ⟨0xFC4E, 0xFC52, "\u0646\u0645|\u0646\u0649|\u0646\u064a|\u0647\u062c|\u0647\u0645"⟩,
    ⟨0xFC53, 0xFC57, "\u0647\u0649|\u0647\u064a|\u064a\u062c|\u064a\u062d|\u064a\u062e"⟩,
    ⟨0xFC58, 0xFC5C, "\u064a\u0645|\u064a\u0649|\u064a\u064a|\u0630\u0670|\u0631\u0670"⟩,
    ⟨0xFC5D, 0xFC61, "\u0649\u0670| \u064c\u0651| \u064d\u0651| \u064e\u0651| \u064f\u0651"⟩,
    ⟨0xFC62, 0xFC66, " \u0650\u0651| \u0651\u0670|\u0626\u0631|\u0626\u0632|\u0626\u0645"⟩,
    ⟨0xFC67, 0xFC6B, "\u0626\u0646|\u0626\u0649|\u0626\u064a|\u0628\u0631|\u0628\u0632"⟩,
    ⟨0xFC6C, 0xFC70, "\u0628\u0645|\u0628\u0646|\u0628\u0649|\u0628\u064a|\u062a\u0631"⟩,
    ⟨0xFC71, 0xFC75, "\u062a\u0632|\u062a\u0645|\u062a\u0646|\u062a\u0649|\u062a\u064a"⟩,
    ⟨0xFC76, 0xFC7A, "\u062b\u0631|\u062b\u0632|\u062b\u0645|\u062b\u0646|\u062b\u0649"⟩,
    ⟨0xFC7B, 0xFC7F, "\u062b\u064a|\u0641\u0649|\u0641\u064a|\u0642\u0649|\u0642\u064a"⟩,
    ⟨0xFC80, 0xFC84, "\u0643\u0627|\u0643\u0644|\u0643\u0645|\u0643\u0649|\u0643\u064a"⟩,
    ⟨0xFC85, 0xFC89, "\u0644\u0645|\u0644\u0649|\u0644\u064a|\u0645\u0627|\u0645\u0645"⟩,
    ⟨0xFC8A, 0xFC8E, "\u0646\u0631|\u0646\u0632|\u0646\u0645|\u0646\u0646|\u0646\u0649"⟩,
    ⟨0xFC8F, 0xFC93, "\u0646\u064a|\u0649\u0670|\u064a\u0631|\u064a\u0632|\u064a\u0645"⟩,
    ⟨0xFC94, 0xFC98, "\u064a\u0646|\u064a\u0649|\u064a\u064a|\u0626\u062c|\u0626\u062d"⟩,
    ⟨0xFC99, 0xFC9D, "\u0626\u062e|\u0626\u0645|\u0626\u0647|\u0628\u062c|\u0628\u062d"⟩,
    ⟨0xFC9E, 0xFCA2, "\u0628\u062e|\u0628\u0645|\u0628\u0647|\u062a\u062c|\u062a\u062d"⟩,
    ⟨0xFCA3, 0xFCA7, "\u062a\u062e|\u062a\u0645|\u062a\u0647|\u062b\u0645|\u062c\u062d"⟩,
    ⟨0xFCA8, 0xFCAC, "\u062c\u0645|\u062d\u062c|\u062d\u0645|\u062e\u062c|\u062e\u0645"⟩,
    ⟨0xFCAD, 0xFCB1, "\u0633\u062c|\u0633\u062d|\u0633\u062e|\u0633\u0645|\u0635\u062d"⟩,
    ⟨0xFCB2, 0xFCB6, "\u0635\u062e|\u0635\u0645|\u0636\u062c|\u0636\u062d|\u0636\u062e"⟩,
    ⟨0xFCB7, 0xFCBB, "\u0636\u0645|\u0637\u062d|\u0638\u0645|\u0639\u062c|\u0639\u0645"⟩,
    ⟨0xFCBC, 0xFCC0, "\u063a\u062c|\u063a\u0645|\u0641\u062c|\u0641\u062d|\u0641\u062e"⟩,
    ⟨0xFCC1, 0xFCC5, "\u0641\u0645|\u0642\u062d|\u0642\u0645|\u0643\u062c|\u0643\u062d"⟩,
    ⟨0xFCC6, 0xFCCA, "\u0643\u062e|\u0643\u0644|\u0643\u0645|\u0644\u062c|\u0644\u062d"⟩,
    ⟨0xFCCB, 0xFCCF, "\u0644\u062e|\u0644\u0645|\u0644\u0647|\u0645\u062c|\u0645\u062d"⟩,
    ⟨0xFCD0, 0xFCD4, "\u0645\u062e|\u0645\u0645|\u0646\u062c|\u0646\u062d|\u0646\u062e"⟩,
    ⟨0xFCD5, 0xFCD9, "\u0646\u0645|\u0646\u0647|\u0647\u062c|\u0647\u0645|\u0647\u0670"⟩,
    ⟨0xFCDA, 0xFCDE, "\u064a\u062c|\u064a\u062d|\u064a\u062e|\u064a\u0645|\u064a\u0647"⟩,
    ⟨0xFCDF, 0xFCE3, "\u0626\u0645|\u0626\u0647|\u0628\u0645|\u0628\u0647|\u062a\u0645"⟩,
    ⟨0xFCE4, 0xFCE8, "\u062a\u0647|\u062b\u0645|\u062b\u0647|\u0633\u0645|\u0633\u0647"⟩,
    ⟨0xFCE9, 0xFCED, "\u0634\u0645|\u0634\u0647|\u0643\u0644|\u0643\u0645|\u0644\u0645"⟩,
    ⟨0xFCEE, 0xFCF1, "\u0646\u0645|\u0646\u0647|\u064a\u0645|\u064a\u0647"⟩,
    ⟨0xFCF2, 0xFCF5, "\u0640\u064e\u0651|\u0640\u064f\u0651|\u0640\u0650\u0651|\u0637\u0649"⟩,
    ⟨0xFCF6, 0xFCFA, "\u0637\u064a|\u0639\u0649|\u0639\u064a|\u063a\u0649|\u063a\u064a"⟩,
    ⟨0xFCFB, 0xFCFF, "\u0633\u0649|\u0633\u064a|\u0634\u0649|\u0634\u064a|\u062d\u0649"⟩,
    ⟨0xFD00, 0xFD04, "\u062d\u064a|\u062c\u0649|\u062c\u064a|\u062e\u0649|\u062e\u064a"⟩,
    ⟨0xFD05, 0xFD09, "\u0635\u0649|\u0635\u064a|\u0636\u0649|\u0636\u064a|\u0634\u062c"⟩,
    ⟨0xFD0A, 0xFD0E, "\u0634\u062d|\u0634\u062e|\u0634\u0645|\u0634\u0631|\u0633\u0631"⟩,
    ⟨0xFD0F, 0xFD13, "\u0635\u0631|\u0636\u0631|\u0637\u0649|\u0637\u064a|\u0639\u0649"⟩,
    ⟨0xFD14, 0xFD18, "\u0639\u064a|\u063a\u0649|\u063a\u064a|\u0633\u0649|\u0633\u064a"⟩,
    ⟨0xFD19, 0xFD1D, "\u0634\u0649|\u0634\u064a|\u062d\u0649|\u062d\u064a|\u062c\u0649"⟩,
    ⟨0xFD1E, 0xFD22, "\u062c\u064a|\u062e\u0649|\u062e\u064a|\u0635\u0649|\u0635\u064a"⟩,
    ⟨0xFD23, 0xFD27, "\u0636\u0649|\u0636\u064a|\u0634\u062c|\u0634\u062d|\u0634\u062e"⟩,
    ⟨0xFD28, 0xFD2C, "\u0634\u0645|\u0634\u0631|\u0633\u0631|\u0635\u0631|\u0636\u0631"⟩,
    ⟨0xFD2D, 0xFD31, "\u0634\u062c|\u0634\u062d|\u0634\u062e|\u0634\u0645|\u0633\u0647"⟩,
    ⟨0xFD32, 0xFD36, "\u0634\u0647|\u0637\u0645|\u0633\u062c|\u0633\u062d|\u0633\u062e"⟩,
    ⟨0xFD37, 0xFD3B, "\u0634\u062c|\u0634\u062d|\u0634\u062e|\u0637\u0645|\u0638\u0645"⟩,
    ⟨0xFD3C, 0xFD3D, "\u0627\u064b|\u0627\u064b"⟩,
    ⟨0xFD50, 0xFD52, "\u062a\u062c\u0645|\u062a\u062d\u062c|\u062a\u062d\u062c"⟩,
    ⟨0xFD53, 0xFD55, "\u062a\u062d\u0645|\u062a\u062e\u0645|\u062a\u0645\u062c"⟩,
    ⟨0xFD56, 0xFD58, "\u062a\u0645\u062d|\u062a\u0645\u062e|\u062c\u0645\u062d"⟩,
    ⟨0xFD59, 0xFD5B, "\u062c\u0645\u062d|\u062d\u0645\u064a|\u062d\u0645\u0649"⟩,
    ⟨0xFD5C, 0xFD5E, "\u0633\u062d\u062c|\u0633\u062c\u062d|\u0633\u062c\u0649"⟩,
    ⟨0xFD5F, 0xFD61, "\u0633\u0645\u062d|\u0633\u0645\u062d|\u0633\u0645\u062c"⟩,
    ⟨0xFD62, 0xFD64, "\u0633\u0645\u0645|\u0633\u0645\u0645|\u0635\u062d\u062d"⟩,
    ⟨0xFD65, 0xFD67, "\u0635\u062d\u062d|\u0635\u0645\u0645|\u0634\u062d\u0645"⟩,
    ⟨0xFD68, 0xFD6A, "\u0634\u062d\u0645|\u0634\u062c\u064a|\u0634\u0645\u062e"⟩,
    ⟨0xFD6B, 0xFD6D, "\u0634\u0645\u062e|\u0634\u0645\u0645|\u0634\u0645\u0645"⟩,
    ⟨0xFD6E, 0xFD70, "\u0636\u062d\u0649|\u0636\u062e\u0645|\u0636\u062e\u0645"⟩,
    ⟨0xFD71, 0xFD73, "\u0637\u0645\u062d|\u0637\u0645\u062d|\u0637\u0645\u0645"⟩,
    ⟨0xFD74, 0xFD76, "\u0637\u0645\u064a|\u0639\u062c\u0645|\u0639\u0645\u0645"⟩,
    ⟨0xFD77, 0xFD79, "\u0639\u0645\u0645|\u0639\u0645\u0649|\u063a\u0645\u0645"⟩,
    ⟨0xFD7A, 0xFD7C, "\u063a\u0645\u064a|\u063a\u0645\u0649|\u0641\u062e\u0645"⟩,
    ⟨0xFD7D, 0xFD7F, "\u0641\u062e\u0645|\u0642\u0645\u062d|\u0642\u0645\u0645"⟩,
    ⟨0xFD80, 0xFD82, "\u0644\u062d\u0645|\u0644\u062d\u064a|\u0644\u062d\u0649"⟩,
    ⟨0xFD83, 0xFD85, "\u0644\u062c\u062c|\u0644\u062c\u062c|\u0644\u062e\u0645"⟩,
    ⟨0xFD86, 0xFD88, "\u0644\u062e\u0645|\u0644\u0645\u062d|\u0644\u0645\u062d"⟩,
    ⟨0xFD89, 0xFD8B, "\u0645\u062d\u062c|\u0645\u062d\u0645|\u0645\u062d\u064a"⟩,
    ⟨0xFD8C, 0xFD8E, "\u0645\u062c\u062d|\u0645\u062c\u0645|\u0645\u062e\u062c"⟩,
    ⟨0xFD8F, 0xFD8F, "\u0645\u062e\u0645"⟩,
    ⟨0xFD92, 0xFD94, "\u0645\u062c\u062e|\u0647\u0645\u062c|\u0647\u0645\u0645"⟩,
    ⟨0xFD95, 0xFD97, "\u0646\u062d\u0645|\u0646\u062d\u0649|\u0646\u062c\u0645"⟩,
    ⟨0xFD98, 0xFD9A, "\u0646\u062c\u0645|\u0646\u062c\u0649|\u0646\u0645\u064a"⟩,
    ⟨0xFD9B, 0xFD9D, "\u0646\u0645\u0649|\u064a\u0645\u0645|\u064a\u0645\u0645"⟩,
    ⟨0xFD9E, 0xFDA0, "\u0628\u062e\u064a|\u062a\u062c\u064a|\u062a\u062c\u0649"⟩,
    ⟨0xFDA1, 0xFDA3, "\u062a\u062e\u064a|\u062a\u062e\u0649|\u062a\u0645\u064a"⟩,
    ⟨0xFDA4, 0xFDA6, "\u062a\u0645\u0649|\u062c\u0645\u064a|\u062c\u062d\u0649"⟩,
    ⟨0xFDA7, 0xFDA9, "\u062c\u0645\u0649|\u0633\u062e\u0649|\u0635\u062d\u064a"⟩,
    ⟨0xFDAA, 0xFDAC, "\u0634\u062d\u064a|\u0636\u062d\u064a|\u0644\u062c\u064a"⟩,
    ⟨0xFDAD, 0xFDAF, "\u0644\u0645\u064a|\u064a\u062d\u064a|\u064a\u062c\u064a"⟩,
    ⟨0xFDB0, 0xFDB2, "\u064a\u0645\u064a|\u0645\u0645\u064a|\u0642\u0645\u064a"⟩,
    ⟨0xFDB3, 0xFDB5, "\u0646\u062d\u064a|\u0642\u0645\u062d|\u0644\u062d\u0645"⟩,
    ⟨0xFDB6, 0xFDB8, "\u0639\u0645\u064a|\u0643\u0645\u064a|\u0646\u062c\u062d"⟩,
    ⟨0xFDB9, 0xFDBB, "\u0645\u062e\u064a|\u0644\u062c\u0645|\u0643\u0645\u0645"⟩,
    ⟨0xFDBC, 0xFDBE, "\u0644\u062c\u0645|\u0646\u062c\u062d|\u062c\u062d\u064a"⟩,
    ⟨0xFDBF, 0xFDC1, "\u062d\u062c\u064a|\u0645\u062c\u064a|\u0641\u0645\u064a"⟩,
    ⟨0xFDC2, 0xFDC4, "\u0628\u062d\u064a|\u0643\u0645\u0645|\u0639\u062c\u0645"⟩,
    ⟨0xFDC5, 0xFDC7, "\u0635\u0645\u0645|\u0633\u062e\u064a|\u0646\u062c\u064a"⟩,
    ⟨0xFDF0, 0xFDF2, "\u0635\u0644\u06d2|\u0642\u0644\u06d2|\u0627\u0644\u0644\u0647"⟩,
    ⟨0xFDF3, 0xFDF4, "\u0627\u0643\u0628\u0631|\u0645\u062d\u0645\u062f"⟩,
    ⟨0xFDF5, 0xFDF6, "\u0635\u0644\u0639\u0645|\u0631\u0633\u0648\u0644"⟩,
    ⟨0xFDF7, 0xFDF9, "\u0639\u0644\u064a\u0647|\u0648\u0633\u0644\u0645|\u0635\u0644\u0649"⟩,
    ⟨0xFDFA, 0xFDFA, "\u0635\u0644\u0649 \u0627\u0644\u0644\u0647 \u0639\u0644\u064a\u0647 \u0648\u0633\u0644\u0645"⟩,
    ⟨0xFDFB, 0xFDFC, "\u062c\u0644 \u062c\u0644\u0627\u0644\u0647|\u0631\u06cc\u0627\u0644"⟩,
    ⟨0xFE10, 0xFE11, ",|、"⟩,
    ⟨0xFE13, 0xFE18, ":|;|!|?|〖|〗"⟩,
    ⟨0xFE31, 0xFE40, "—|–|_|_|(|)|\x7b|\x7d|〔|〕|【|】|《|》|〈|〉"⟩,
    ⟨0xFE47, 0xFE51, "[|]| \u0305| \u0305| \u0305| \u0305|_|_|_|,|、"⟩,
    ⟨0xFE54, 0xFE66, ";|:|?|!|—|(|)|\x7b|\x7d|〔|〕|#|&|*|+|-|<|>|="⟩,
    ⟨0xFE68, 0xFE6B, "\\|$|%|@"⟩,
    ⟨0xFE70, 0xFE72, " \u064b|\u0640\u064b| \u064c"⟩,
    ⟨0xFE74, 0xFE74, " \u064d"⟩,
    ⟨0xFE76, 0xFE7B, " \u064e|\u0640\u064e| \u064f|\u0640\u064f| \u0650|\u0640\u0650"⟩,
    ⟨0xFE7C, 0xFE83, " \u0651|\u0640\u0651| \u0652|\u0640\u0652|\u0621|\u0622|\u0622|\u0623"⟩,
    ⟨0xFE84, 0xFE8D, "\u0623|\u0624|\u0624|\u0625|\u0625|\u0626|\u0626|\u0626|\u0626|\u0627"⟩,
    ⟨0xFE8E, 0xFE97, "\u0627|\u0628|\u0628|\u0628|\u0628|\u0629|\u0629|\u062a|\u062a|\u062a"⟩,
    ⟨0xFE98, 0xFEA1, "\u062a|\u062b|\u062b|\u062b|\u062b|\u062c|\u062c|\u062c|\u062c|\u062d"⟩,
    ⟨0xFEA2, 0xFEAB, "\u062d|\u062d|\u062d|\u062e|\u062e|\u062e|\u062e|\u062f|\u062f|\u0630"⟩,
    ⟨0xFEAC, 0xFEB5, "\u0630|\u0631|\u0631|\u0632|\u0632|\u0633|\u0633|\u0633|\u0633|\u0634"⟩,
    ⟨0xFEB6, 0xFEBF, "\u0634|\u0634|\u0634|\u0635|\u0635|\u0635|\u0635|\u0636|\u0636|\u0636"⟩,
    ⟨0xFEC0, 0xFEC9, "\u0636|\u0637|\u0637|\u0637|\u0637|\u0638|\u0638|\u0638|\u0638|\u0639"⟩,
    ⟨0xFECA, 0xFED3, "\u0639|\u0639|\u0639|\u063a|\u063a|\u063a|\u063a|\u0641|\u0641|\u0641"⟩,
    ⟨0xFED4, 0xFEDD, "\u0641|\u0642|\u0642|\u0642|\u0642|\u0643|\u0643|\u0643|\u0643|\u0644"⟩,
    ⟨0xFEDE, 0xFEE7, "\u0644|\u0644|\u0644|\u0645|\u0645|\u0645|\u0645|\u0646|\u0646|\u0646"⟩,
    ⟨0xFEE8, 0xFEF1, "\u0646|\u0647|\u0647|\u0647|\u0647|\u0648|\u0648|\u0649|\u0649|\u064a"⟩,
    ⟨0xFEF2, 0xFEF7, "\u064a|\u064a|\u064a|\u0644\u0622|\u0644\u0622|\u0644\u0623"⟩,
    ⟨0xFEF8, 0xFEFC, "\u0644\u0623|\u0644\u0625|\u0644\u0625|\u0644\u0627|\u0644\u0627"⟩,
    ⟨0xFF5F, 0xFF75, "⦅|⦆|.|「|」|、|・|ヲ|ァ|ィ|ゥ|ェ|ォ|ャ|ュ|ョ|ッ|\u30fc|ア|イ|ウ|エ|オ"⟩,
    ⟨0xFF76, 0xFF84, "カ|キ|ク|ケ|コ|サ|シ|ス|セ|ソ|タ|チ|ツ|テ|ト"⟩,
    ⟨0xFF8B, 0xFF8E, "ヒ|フ|ヘ|ホ"⟩,
    ⟨0xFF94, 0xFF95, "ヤ|ユ"⟩,
    ⟨0xFF9C, 0xFF9F, "ワ|ン|\u3099|\u309a"⟩,
    ⟨0xFFA1, 0xFFA9, "\u1100|\u1101|\u11aa|\u1102|\u11ac|\u11ad|\u1103|\u1104|\u1105"⟩,
    ⟨0xFFB0, 0xFFB4, "\u111a|\u1106|\u1107|\u1108|\u1121"⟩,
    ⟨0xFFDA, 0xFFDC, "\u1173|\u1174|\u1175"⟩,
    ⟨0xFFE0, 0xFFE6, "¢|£|¬| \u0304|¦|¥|₩"⟩,
    ⟨0xFFE8, 0xFFE8, "│"⟩,
    ⟨0xFFED, 0xFFEE, "■|○"⟩,
    ⟨0x10781, 0x10785, "\u02d0|\u02d1|æ|ʙ|ɓ"⟩,
    ⟨0x10787, 0x107A6, "ʣ|ꭦ|ʥ|ʤ|ɖ|ɗ|ᶑ|ɘ|ɞ|ʩ|ɤ|ɢ|ɠ|ʛ|ħ|ʜ|ɧ|ʄ|ʪ|ʫ|ɬ|𝼄|ꞎ|ɮ|𝼅|ʎ|𝼆|ø|ɶ|ɷ|q|ɺ"⟩,
    ⟨0x107A7, 0x107B0, "𝼈|ɽ|ɾ|ʀ|ʨ|ʦ|ꭧ|ʧ|ʈ|ⱱ"⟩,
    ⟨0x107B2, 0x107BA, "ʏ|ʡ|ʢ|ʘ|ǀ|ǁ|ǂ|𝼊|𝼞"⟩,
    ⟨0x1D15E, 0x1D164, "𝅗𝅥|𝅘𝅥|𝅘𝅥𝅮|𝅘𝅥𝅯|𝅘𝅥𝅰|𝅘𝅥𝅱|𝅘𝅥𝅲"⟩,
    ⟨0x1D1BB, 0x1D1C0, "𝆹𝅥|𝆺𝅥|𝆹𝅥𝅮|𝆺𝅥𝅮|𝆹𝅥𝅯|𝆺𝅥𝅯"⟩,
    ⟨0x1D49C, 0x1D49C, "a"⟩,
    ⟨0x1D49E, 0x1D49F, "c|d"⟩,
    ⟨0x1D4A2, 0x1D4A2, "g"⟩,
    ⟨0x1D4A5, 0x1D4A6, "j|k"⟩,
    ⟨0x1D4BB, 0x1D4BB, "f"⟩,
    ⟨0x1D504, 0x1D505, "a|b"⟩,
    ⟨0x1D538, 0x1D539, "a|b"⟩,
    ⟨0x1D546, 0x1D546, "o"⟩,
    ⟨0x1D6A4, 0x1D6A5, "ı|ȷ"⟩,
    ⟨0x1D6B9, 0x1D6B9, "θ"⟩,
    ⟨0x1D6C1, 0x1D6C1, "∇"⟩,
    ⟨0x1D6D3, 0x1D6D3, "σ"⟩,
    ⟨0x1D6DB, 0x1D6E1, "∂|ε|θ|κ|φ|ρ|π"⟩,
    ⟨0x1D6F3, 0x1D6F3, "θ"⟩,
    ⟨0x1D6FB, 0x1D6FB, "∇"⟩,
    ⟨0x1D70D, 0x1D70D, "σ"⟩,
    ⟨0x1D715, 0x1D71B, "∂|ε|θ|κ|φ|ρ|π"⟩,
    ⟨0x1D72D, 0x1D72D, "θ"⟩,
    ⟨0x1D735, 0x1D735, "∇"⟩,
    ⟨0x1D747, 0x1D747, "σ"⟩,
    ⟨0x1D74F, 0x1D755, "∂|ε|θ|κ|φ|ρ|π"⟩,
    ⟨0x1D767, 0x1D767, "θ"⟩,
    ⟨0x1D76F, 0x1D76F, "∇"⟩,
    ⟨0x1D781, 0x1D781, "σ"⟩,
    ⟨0x1D789, 0x1D78F, "∂|ε|θ|κ|φ|ρ|π"⟩,
    ⟨0x1D7A1, 0x1D7A1, "θ"⟩,
    ⟨0x1D7A9, 0x1D7A9, "∇"⟩,
    ⟨0x1D7BB, 0x1D7BB, "σ"⟩,
    ⟨0x1D7C3, 0x1D7CB, "∂|ε|θ|κ|φ|ρ|π|ϝ|ϝ"⟩,
    ⟨0x1E039, 0x1E03B, "к|л|м"⟩,
    ⟨0x1E047, 0x1E050, "ы|э|ю|ꚉ|ә|і|ј|ө|ү|ӏ"⟩,
    ⟨0x1E05A, 0x1E05E, "к|л|о|п|с"⟩,
    ⟨0x1E065, 0x1E06D, "ъ|ы|ґ|і|ѕ|џ|ҫ|ꙑ|ұ"⟩,
    ⟨0x1EE00, 0x1EE03, "\u0627|\u0628|\u062c|\u062f"⟩,
    ⟨0x1EE05, 0x1EE09, "\u0648|\u0632|\u062d|\u0637|\u064a"⟩,
    ⟨0x1EE0E, 0x1EE17, "\u0633|\u0639|\u0641|\u0635|\u0642|\u0631|\u0634|\u062a|\u062b|\u062e"⟩,
    ⟨0x1EE18, 0x1EE1F, "\u0630|\u0636|\u0638|\u063a|\u066e|\u06ba|\u06a1|\u066f"⟩,
    ⟨0x1EE21, 0x1EE22, "\u0628|\u062c"⟩,
    ⟨0x1EE24, 0x1EE24, "\u0647"⟩,
    ⟨0x1EE27, 0x1EE27, "\u062d"⟩,
    ⟨0x1EE29, 0x1EE29, "\u064a"⟩,
    ⟨0x1EE2E, 0x1EE32, "\u0633|\u0639|\u0641|\u0635|\u0642"⟩,
    ⟨0x1EE34, 0x1EE37, "\u0634|\u062a|\u062b|\u062e"⟩,
    ⟨0x1EE39, 0x1EE39, "\u0636"⟩,
    ⟨0x1EE3B, 0x1EE3B, "\u063a"⟩,
    ⟨0x1EE42, 0x1EE42, "\u062c"⟩,
    ⟨0x1EE47, 0x1EE47, "\u062d"⟩,
    ⟨0x1EE49, 0x1EE49, "\u064a"⟩,
    ⟨0x1EE4B, 0x1EE4B, "\u0644"⟩,
    ⟨0x1EE4D, 0x1EE4F, "\u0646|\u0633|\u0639"⟩,
    ⟨0x1EE51, 0x1EE52, "\u0635|\u0642"⟩,
    ⟨0x1EE54, 0x1EE54, "\u0634"⟩,
    ⟨0x1EE57, 0x1EE57, "\u062e"⟩,
    ⟨0x1EE59, 0x1EE59, "\u0636"⟩,
    ⟨0x1EE5B, 0x1EE5B, "\u063a"⟩,
    ⟨0x1EE5D, 0x1EE5D, "\u06ba"⟩,
    ⟨0x1EE5F, 0x1EE5F, "\u066f"⟩,
    ⟨0x1EE61, 0x1EE62, "\u0628|\u062c"⟩,
    ⟨0x1EE64, 0x1EE64, "\u0647"⟩,
    ⟨0x1EE67, 0x1EE6A, "\u062d|\u0637|\u064a|\u0643"⟩,
    ⟨0x1EE6C, 0x1EE72, "\u0645|\u0646|\u0633|\u0639|\u0641|\u0635|\u0642"⟩,
    ⟨0x1EE74, 0x1EE77, "\u0634|\u062a|\u062b|\u062e"⟩,
    ⟨0x1EE79, 0x1EE7C, "\u0636|\u0638|\u063a|\u066e"⟩,
    ⟨0x1EE7E, 0x1EE7E, "\u06a1"⟩,
    ⟨0x1EE80, 0x1EE89, "\u0627|\u0628|\u062c|\u062f|\u0647|\u0648|\u0632|\u062d|\u0637|\u064a"⟩,
    ⟨0x1EE8B, 0x1EE94, "\u0644|\u0645|\u0646|\u0633|\u0639|\u0641|\u0635|\u0642|\u0631|\u0634"⟩,
    ⟨0x1EE95, 0x1EE9B, "\u062a|\u062b|\u062e|\u0630|\u0636|\u0638|\u063a"⟩,
    ⟨0x1EEA1, 0x1EEA3, "\u0628|\u062c|\u062f"⟩,
    ⟨0x1EEA5, 0x1EEA9, "\u0648|\u0632|\u062d|\u0637|\u064a"⟩,
    ⟨0x1EEAB, 0x1EEB4, "\u0644|\u0645|\u0646|\u0633|\u0639|\u0641|\u0635|\u0642|\u0631|\u0634"⟩,
    ⟨0x1EEB5, 0x1EEBB, "\u062a|\u062b|\u062e|\u0630|\u0636|\u0638|\u063a"⟩,
    ⟨0x1F101, 0x1F10A, "0,|1,|2,|3,|4,|5,|6,|7,|8,|9,"⟩,
    ⟨0x1F110, 0x1F120, "(a)|(b)|(c)|(d)|(e)|(f)|(g)|(h)|(i)|(j)|(k)|(l)|(m)|(n)|(o)|(p)|(q)"⟩,
    ⟨0x1F121, 0x1F12E, "(r)|(s)|(t)|(u)|(v)|(w)|(x)|(y)|(z)|〔s〕|c|r|cd|wz"⟩,
    ⟨0x1F14A, 0x1F14F, "hv|mv|sd|ss|ppv|wc"⟩,
    ⟨0x1F16A, 0x1F16C, "mc|md|mr"⟩,
    ⟨0x1F190, 0x1F190, "dj"⟩,
    ⟨0x1F200, 0x1F202, "ほか|ココ|サ"⟩,
    ⟨0x1F210, 0x1F226, "手|字|双|デ|二|多|解|天|交|映|無|料|前|後|再|新|初|終|生|販|声|吹|演"⟩,
    ⟨0x1F227, 0x1F23B, "投|捕|一|三|遊|左|中|右|指|走|打|禁|空|合|満|有|月|申|割|営|配"⟩,
    ⟨0x1F240, 0x1F248, "〔本〕|〔三〕|〔二〕|〔安〕|〔点〕|〔打〕|〔盗〕|〔勝〕|〔敗〕"⟩,
    ⟨0x1F250, 0x1F251, "得|可"⟩,
    ⟨0x2F800, 0x2F816, "丽|丸|乁|𠄢|你|侮|侻|倂|偺|備|僧|像|㒞|𠘺|免|兔|兤|具|𠔜|㒹|內|再|𠕋"⟩,
    ⟨0x2F817, 0x2F82D, "冗|冤|仌|冬|况|𩇟|凵|刃|㓟|刻|剆|割|剷|㔕|勇|勉|勤|勺|包|匆|北|卉|卑"⟩,
    ⟨0x2F82E, 0x2F844, "博|即|卽|卿|卿|卿|𠨬|灰|及|叟|𠭣|叫|叱|吆|咞|吸|呈|周|咢|哶|唐|啓|啣"⟩,
    ⟨0x2F845, 0x2F85B, "善|善|喙|喫|喳|嗂|圖|嘆|圗|噑|噴|切|壮|城|埴|堍|型|堲|報|墬|𡓤|売|壷"⟩,
    ⟨0x2F85C, 0x2F872, "夆|多|夢|奢|𡚨|𡛪|姬|娛|娧|姘|婦|㛮|㛼|嬈|嬾|嬾|𡧈|寃|寘|寧|寳|𡬘|寿"⟩,
    ⟨0x2F873, 0x2F889, "将|当|尢|㞁|屠|屮|峀|岍|𡷤|嵃|𡷦|嵮|嵫|嵼|巡|巢|㠯|巽|帨|帽|幩|㡢|𢆃"⟩,
    ⟨0x2F88A, 0x2F8A0, "㡼|庰|庳|庶|廊|𪎒|廾|𢌱|𢌱|舁|弢|弢|㣇|𣊸|𦇚|形|彫|㣣|徚|忍|志|忹|悁"⟩,
    ⟨0x2F8A1, 0x2F8B7, "㤺|㤜|悔|𢛔|惇|慈|慌|慎|慌|慺|憎|憲|憤|憯|懞|懲|懶|成|戛|扝|抱|拔|捐"⟩,
    ⟨0x2F8B8, 0x2F8CE, "𢬌|挽|拼|捨|掃|揤|𢯱|搢|揅|掩|㨮|摩|摾|撝|摷|㩬|敏|敬|𣀊|旣|書|晉|㬙"⟩,
    ⟨0x2F8CF, 0x2F8E5, "暑|㬈|㫤|冒|冕|最|暜|肭|䏙|朗|望|朡|杞|杓|𣏃|㭉|柺|枅|桒|梅|𣑭|梎|栟"⟩,
    ⟨0x2F8E6, 0x2F8FC, "椔|㮝|楂|榣|槪|檨|𣚣|櫛|㰘|次|𣢧|歔|㱎|歲|殟|殺|殻|𣪍|𡴋|𣫺|汎|𣲼|沿"⟩,
    ⟨0x2F8FD, 0x2F913, "泍|汧|洖|派|海|流|浩|浸|涅|𣴞|洴|港|湮|㴳|滋|滇|𣻑|淹|潮|𣽞|𣾎|濆|瀹"⟩,
    ⟨0x2F914, 0x2F92A, "瀞|瀛|㶖|灊|災|灷|炭|𠔥|煅|𤉣|熜|𤎫|爨|爵|牐|𤘈|犀|犕|𤜵|𤠔|獺|王|㺬"⟩,
    ⟨0x2F92B, 0x2F941, "玥|㺸|㺸|瑇|瑜|瑱|璅|瓊|㼛|甤|𤰶|甾|𤲒|異|𢆟|瘐|𤾡|𤾸|𥁄|㿼|䀈|直|𥃳"⟩,
    ⟨0x2F942, 0x2F958, "𥃲|𥄙|𥄳|眞|真|真|睊|䀹|瞋|䁆|䂖|𥐝|硎|碌|磌|䃣|𥘦|祖|𥚚|𥛅|福|秫|䄯"⟩,
    ⟨0x2F959, 0x2F96F, "穀|穊|穏|𥥼|𥪧|𥪧|竮|䈂|𥮫|篆|築|䈧|𥲀|糒|䊠|糨|糣|紀|𥾆|絣|䌁|緇|縂"⟩,
    ⟨0x2F970, 0x2F986, "繅|䌴|𦈨|𦉇|䍙|𦋙|罺|𦌾|羕|翺|者|𦓚|𦔣|聠|𦖨|聰|𣍟|䏕|育|脃|䐋|脾|媵"⟩,
    ⟨0x2F987, 0x2F99D, "𦞧|𦞵|𣎓|𣎜|舁|舄|辞|䑫|芑|芋|芝|劳|花|芳|芽|苦|𦬼|若|茝|荣|莭|茣|莽"⟩,
    ⟨0x2F99E, 0x2F9B4, "菧|著|荓|菊|菌|菜|𦰶|𦵫|𦳕|䔫|蓱|蓳|蔖|𧏊|蕤|𦼬|䕝|䕡|𦾱|𧃒|䕫|虐|虜"⟩,
    ⟨0x2F9B5, 0x2F9CB, "虧|虩|蚩|蚈|蜎|蛢|蝹|蜨|蝫|螆|䗗|蟡|蠁|䗹|衠|衣|𧙧|裗|裞|䘵|裺|㒻|𧢮"⟩,
    ⟨0x2F9CC, 0x2F9E2, "𧥦|䚾|䛇|誠|諭|變|豕|𧲨|貫|賁|贛|起|𧼯|𠠄|跋|趼|跰|𠣞|軔|輸|𨗒|𨗭|邔"⟩,
    ⟨0x2F9E3, 0x2F9F9, "郱|鄑|𨜮|鄛|鈸|鋗|鋘|鉼|鏹|鐕|𨯺|開|䦕|閷|𨵷|䧦|雃|嶲|霣|𩅅|𩈚|䩮|䩶"⟩,
    ⟨0x2F9FA, 0x2FA10, "韠|𩐊|䪲|𩒖|頋|頋|頩|𩖶|飢|䬳|餩|馧|駂|駾|䯎|𩬰|鬒|鱀|鳽|䳎|䳭|鵧|𪃎"⟩,
    ⟨0x2FA11, 0x2FA1D, "䳸|𪄅|𪈎|𪊑|麻|䵖|黹|黾|鼅|鼏|鼖|鼻|𪘀"⟩]

/-- The plain forms of all characters that have one. -/
def formRows : List FormRow :=
  lowerRows ++ easternRows ++ upperRows

end FeatureFlags.Address.Name
