import FeatureFlags.Address.Escape
import FeatureFlags.Address.Name.Forms
import FeatureFlags.Text.Composition
import FeatureFlags.Text.Lowercase
import FeatureFlags.Text.Visible

namespace FeatureFlags.Address.Name

/-!
# Folded names

Names that are meant to be the same are folded to one form: lower case, plain
forms in place of styled ones, no characters without an appearance, marks
composed. Characters that no name may have make the whole name unusable.
-/

/-- The code points that are left out of a name. -/
def omittedRanges : Text.CodePointRanges := [
    (0xAD, 0xAD), (0x34F, 0x34F), (0x115F, 0x1160), (0x17B4, 0x17B5), (0x180B, 0x180F),
    (0x200B, 0x200B), (0x2060, 0x2064), (0x206A, 0x206F), (0x3164, 0x3164), (0xFE00, 0xFE0F),
    (0xFEFF, 0xFEFF), (0xFFA0, 0xFFA0), (0x1BCA0, 0x1BCA3), (0x1D173, 0x1D17A),
    (0xE0100, 0xE01EF)]

/-- The visible code points that no name may have. -/
def unusableRanges : Text.CodePointRanges := [
    (0x2024, 0x2026), (0x2488, 0x249B), (0x2FF0, 0x2FFF), (0x31EF, 0x31EF), (0x33C2, 0x33C2),
    (0x33C7, 0x33C7), (0x33D8, 0x33D8), (0xFE12, 0xFE12), (0xFE19, 0xFE19), (0xFE30, 0xFE30),
    (0xFE52, 0xFE52), (0xFFFC, 0xFFFD), (0x1F100, 0x1F100)]

/-- Runs of styled characters whose plain forms lie at one distance. -/
def styledRuns : List Text.CodePointRun := [
    ⟨0x13F8, 0x13FD, 1, -0x8⟩, ⟨0x1D33, 0x1D3A, 1, -0x1CCC⟩, ⟨0x1DAE, 0x1DB1, 1, -0x1B3C⟩,
    ⟨0x2074, 0x2079, 1, -0x2040⟩, ⟨0x2080, 0x2089, 1, -0x2050⟩, ⟨0x2096, 0x2099, 1, -0x202B⟩,
    ⟨0x2135, 0x2138, 1, -0x1B65⟩, ⟨0x2460, 0x2468, 1, -0x242F⟩, ⟨0x24B6, 0x24CF, 1, -0x2455⟩,
    ⟨0x24D0, 0x24E9, 1, -0x246F⟩, ⟨0x313A, 0x313F, 1, -0x1F8A⟩, ⟨0x3145, 0x314E, 1, -0x203C⟩,
    ⟨0x314F, 0x3163, 1, -0x1FEE⟩, ⟨0x3178, 0x317C, 1, -0x204D⟩, ⟨0x3269, 0x326D, 1, -0x215B⟩,
    ⟨0x32E4, 0x32E9, 1, -0x21A⟩, ⟨0x32EE, 0x32F2, 1, -0x210⟩, ⟨0x32F5, 0x32FA, 1, -0x20D⟩,
    ⟨0x32FB, 0x32FE, 1, -0x20C⟩, ⟨0xAB70, 0xABBF, 1, -0x97D0⟩, ⟨0xFE41, 0xFE44, 1, -0xCE35⟩,
    ⟨0xFF01, 0xFF20, 1, -0xFEE0⟩, ⟨0xFF21, 0xFF3A, 1, -0xFEC0⟩, ⟨0xFF3B, 0xFF5E, 1, -0xFEE0⟩,
    ⟨0xFF85, 0xFF8A, 1, -0xCEBB⟩, ⟨0xFF8F, 0xFF93, 1, -0xCEB1⟩, ⟨0xFF96, 0xFF9B, 1, -0xCEAE⟩,
    ⟨0xFFAA, 0xFFAF, 1, -0xEDFA⟩, ⟨0xFFB5, 0xFFBE, 1, -0xEEAC⟩, ⟨0xFFC2, 0xFFC7, 1, -0xEE61⟩,
    ⟨0xFFCA, 0xFFCF, 1, -0xEE63⟩, ⟨0xFFD2, 0xFFD7, 1, -0xEE65⟩, ⟨0xFFE9, 0xFFEC, 1, -0xDE59⟩,
    ⟨0x1CCD6, 0x1CCEF, 1, -0x1CC75⟩, ⟨0x1CCF0, 0x1CCF9, 1, -0x1CCC0⟩,
    ⟨0x1D400, 0x1D419, 1, -0x1D39F⟩, ⟨0x1D41A, 0x1D433, 1, -0x1D3B9⟩,
    ⟨0x1D434, 0x1D44D, 1, -0x1D3D3⟩, ⟨0x1D44E, 0x1D454, 1, -0x1D3ED⟩,
    ⟨0x1D456, 0x1D467, 1, -0x1D3ED⟩, ⟨0x1D468, 0x1D481, 1, -0x1D407⟩,
    ⟨0x1D482, 0x1D49B, 1, -0x1D421⟩, ⟨0x1D4A9, 0x1D4AC, 1, -0x1D43B⟩,
    ⟨0x1D4AE, 0x1D4B5, 1, -0x1D43B⟩, ⟨0x1D4B6, 0x1D4B9, 1, -0x1D455⟩,
    ⟨0x1D4BD, 0x1D4C3, 1, -0x1D455⟩, ⟨0x1D4C5, 0x1D4CF, 1, -0x1D455⟩,
    ⟨0x1D4D0, 0x1D4E9, 1, -0x1D46F⟩, ⟨0x1D4EA, 0x1D503, 1, -0x1D489⟩,
    ⟨0x1D507, 0x1D50A, 1, -0x1D4A3⟩, ⟨0x1D50D, 0x1D514, 1, -0x1D4A3⟩,
    ⟨0x1D516, 0x1D51C, 1, -0x1D4A3⟩, ⟨0x1D51E, 0x1D537, 1, -0x1D4BD⟩,
    ⟨0x1D53B, 0x1D53E, 1, -0x1D4D7⟩, ⟨0x1D540, 0x1D544, 1, -0x1D4D7⟩,
    ⟨0x1D54A, 0x1D550, 1, -0x1D4D7⟩, ⟨0x1D552, 0x1D56B, 1, -0x1D4F1⟩,
    ⟨0x1D56C, 0x1D585, 1, -0x1D50B⟩, ⟨0x1D586, 0x1D59F, 1, -0x1D525⟩,
    ⟨0x1D5A0, 0x1D5B9, 1, -0x1D53F⟩, ⟨0x1D5BA, 0x1D5D3, 1, -0x1D559⟩,
    ⟨0x1D5D4, 0x1D5ED, 1, -0x1D573⟩, ⟨0x1D5EE, 0x1D607, 1, -0x1D58D⟩,
    ⟨0x1D608, 0x1D621, 1, -0x1D5A7⟩, ⟨0x1D622, 0x1D63B, 1, -0x1D5C1⟩,
    ⟨0x1D63C, 0x1D655, 1, -0x1D5DB⟩, ⟨0x1D656, 0x1D66F, 1, -0x1D5F5⟩,
    ⟨0x1D670, 0x1D689, 1, -0x1D60F⟩, ⟨0x1D68A, 0x1D6A3, 1, -0x1D629⟩,
    ⟨0x1D6A8, 0x1D6B8, 1, -0x1D2F7⟩, ⟨0x1D6BA, 0x1D6C0, 1, -0x1D2F7⟩,
    ⟨0x1D6C2, 0x1D6D2, 1, -0x1D311⟩, ⟨0x1D6D4, 0x1D6DA, 1, -0x1D311⟩,
    ⟨0x1D6E2, 0x1D6F2, 1, -0x1D331⟩, ⟨0x1D6F4, 0x1D6FA, 1, -0x1D331⟩,
    ⟨0x1D6FC, 0x1D70C, 1, -0x1D34B⟩, ⟨0x1D70E, 0x1D714, 1, -0x1D34B⟩,
    ⟨0x1D71C, 0x1D72C, 1, -0x1D36B⟩, ⟨0x1D72E, 0x1D734, 1, -0x1D36B⟩,
    ⟨0x1D736, 0x1D746, 1, -0x1D385⟩, ⟨0x1D748, 0x1D74E, 1, -0x1D385⟩,
    ⟨0x1D756, 0x1D766, 1, -0x1D3A5⟩, ⟨0x1D768, 0x1D76E, 1, -0x1D3A5⟩,
    ⟨0x1D770, 0x1D780, 1, -0x1D3BF⟩, ⟨0x1D782, 0x1D788, 1, -0x1D3BF⟩,
    ⟨0x1D790, 0x1D7A0, 1, -0x1D3DF⟩, ⟨0x1D7A2, 0x1D7A8, 1, -0x1D3DF⟩,
    ⟨0x1D7AA, 0x1D7BA, 1, -0x1D3F9⟩, ⟨0x1D7BC, 0x1D7C2, 1, -0x1D3F9⟩,
    ⟨0x1D7CE, 0x1D7D7, 1, -0x1D79E⟩, ⟨0x1D7D8, 0x1D7E1, 1, -0x1D7A8⟩,
    ⟨0x1D7E2, 0x1D7EB, 1, -0x1D7B2⟩, ⟨0x1D7EC, 0x1D7F5, 1, -0x1D7BC⟩,
    ⟨0x1D7F6, 0x1D7FF, 1, -0x1D7C6⟩, ⟨0x1E030, 0x1E038, 1, -0x1DC00⟩,
    ⟨0x1E03C, 0x1E046, 1, -0x1DBFE⟩, ⟨0x1E051, 0x1E059, 1, -0x1DC21⟩,
    ⟨0x1E05F, 0x1E064, 1, -0x1DC1C⟩, ⟨0x1EE0A, 0x1EE0D, 1, -0x1E7C7⟩,
    ⟨0x1EE2A, 0x1EE2D, 1, -0x1E7E7⟩, ⟨0x1F130, 0x1F149, 1, -0x1F0CF⟩,
    ⟨0x1FBF0, 0x1FBF9, 1, -0x1FBC0⟩]

/-- The two joiners, which shape the letters around them. -/
def isJoiner (c : Char) : Bool :=
  c = '\u200c' || c = '\u200d'

/-- The capital letters of Cherokee, which are the plain form of the small ones. -/
def isCherokee (c : Char) : Bool :=
  0x13A0 ≤ c.toNat && c.toNat ≤ 0x13F5

/-- The parts of a text between bars. -/
def betweenBars : List Char → List (List Char)
  | [] => [[]]
  | '|' :: rest => [] :: betweenBars rest
  | c :: rest =>
      match betweenBars rest with
      | [] => [[c]]
      | part :: parts => (c :: part) :: parts

/-- The plain form of a character that has one in a table. -/
def plainForm? (c : Char) : Option (List Char) :=
  match styledRuns.find? fun run => run.covers c.toNat with
  | some run => some [Char.ofNat (run.image c.toNat)]
  | none =>
      match formRows.find? fun row => row.first ≤ c.toNat && c.toNat ≤ row.last with
      | some row => (betweenBars row.forms.toList)[c.toNat - row.first]?
      | none => none

/-- The folded form of a character, unless no name may have it. -/
def foldChar? (c : Char) : Option (List Char) :=
  if omittedRanges.has c.toNat then
    some []
  else
    match plainForm? c with
    | some form => some form
    | none =>
        if isJoiner c ∨ isCherokee c then
          some [c]
        else if c.toNat < 0x80 ∨ (Text.isVisible c ∧ !unusableRanges.has c.toNat) then
          some (Text.lowerChar c)
        else
          none

/-- The ASCII characters that a name must not have. -/
def isForbidden (c : Char) : Bool :=
  isControl c ||
    c ∈ [' ', '#', '%', '/', ':', '<', '>', '?', '@', '[', '\\', ']', '^', '|']

/-- The folded form of a name. -/
def fold? (text : List Char) : Option (List Char) := do
  let forms ← text.mapM foldChar?
  let folded := Text.composed forms.flatten
  if folded.any isForbidden then none else some folded

/-- Whether a text is its own folded form. -/
def isFolded (text : List Char) : Bool :=
  text.all (fun c => foldChar? c = some [c]) && fold? text = some text

end FeatureFlags.Address.Name
