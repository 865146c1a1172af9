import FeatureFlags.Proofs.Json.Spelling
import FeatureFlags.Proofs.Number.Nearest
import FeatureFlags.Proofs.Text.Blanks

namespace FeatureFlags.Number

/-!
# Spellings of numbers

The grammar of numbers in plain text: three words with a sign or without, and decimals with
digits before a point, after it, or both. A decimal stands for the number that is nearest to
it. The reader takes a text apart, refuses foreign letters and then accepts more words than
the grammar has; it still accepts the texts of the grammar and no others.
-/

open FeatureFlags.Json (IsDigits SpellsSign)

/-! ## The grammar -/

/-- The spellings of the digits of a decimal, of which some must be there. -/
inductive SpellsMantissa : List Char → List Char → List Char → Prop where
  | whole
      {whole : List Char} :
      IsDigits whole →
      SpellsMantissa whole [] whole
  | pointed
      {whole fraction : List Char} :
      IsDigits whole →
      (∀ c ∈ fraction, c.isDigit = true) →
      SpellsMantissa whole fraction (whole ++ '.' :: fraction)
  | fraction
      {fraction : List Char} :
      IsDigits fraction →
      SpellsMantissa [] fraction ('.' :: fraction)

/-- The spellings of an exponent, which may be lacking. -/
inductive SpellsExponent : ℤ → List Char → Prop where
  | lacking :
      SpellsExponent 0 []
  | mark
      {mark : Char}
      {negative : Bool}
      {sign digits : List Char} :
      mark = 'e' ∨ mark = 'E' →
      SpellsSign negative sign →
      IsDigits digits →
      SpellsExponent
        (if negative then -(Nat.ofDigitChars 10 digits 0 : ℤ) else Nat.ofDigitChars 10 digits 0)
        (mark :: (sign ++ digits))

/-- The spellings of a decimal. -/
inductive SpellsDecimal : Decimal → List Char → Prop where
  | parts
      {negative : Bool}
      {whole fraction : List Char}
      {exponent : ℤ}
      {sign mantissa exponentText : List Char} :
      SpellsSign negative sign →
      SpellsMantissa whole fraction mantissa →
      SpellsExponent exponent exponentText →
      SpellsDecimal ⟨negative, whole, fraction, exponent⟩ (sign ++ (mantissa ++ exponentText))

/-- The texts that stand for a number: words in one case only, and decimals nearest to it. -/
inductive SpellsNumber : Binary64 → List Char → Prop where
  | infinity :
      SpellsNumber (.infinite false) "Infinity".toList
  | plusInfinity :
      SpellsNumber (.infinite false) "+Infinity".toList
  | minusInfinity :
      SpellsNumber (.infinite true) "-Infinity".toList
  | nan :
      SpellsNumber .nan "NaN".toList
  | decimal
      {numeral : Decimal}
      {number : Binary64}
      {text : List Char} :
      SpellsDecimal numeral text →
      IsNearest numeral.negative numeral.value number →
      SpellsNumber number text

/-! ## Reading decimals -/

/-- A sign is read up to what does not begin with one. -/
theorem readSign_append
    {negative : Bool}
    {sign rest : List Char}
    (signed : SpellsSign negative sign)
    (noSign : ∀ c ∈ rest.head?, c ≠ '-' ∧ c ≠ '+') :
    readSign (sign ++ rest) = (negative, rest) := by
  cases signed with
  | none =>
      cases rest with
      | nil => rfl
      | cons c more =>
          obtain ⟨notMinus, notPlus⟩ := noSign c rfl
          simp [readSign, notMinus, notPlus]
  | plus | minus =>
      rfl

/-- What is read as a sign is one. -/
theorem exists_spellsSign_readSign (text : List Char) :
    ∃ sign, SpellsSign (readSign text).1 sign ∧ text = sign ++ (readSign text).2 := by
  unfold readSign
  split
  next rest => exact ⟨['-'], .minus, rfl⟩
  next rest => exact ⟨['+'], .plus, rfl⟩
  next => exact ⟨[], .none, rfl⟩

/-- What is read as digits is digits, in front of the rest. -/
theorem readDigits_spec (text : List Char) :
    (∀ c ∈ (readDigits text).1, c.isDigit = true) ∧
      text = (readDigits text).1 ++ (readDigits text).2 :=
  ⟨fun _ member => List.mem_takeWhile_imp member, List.takeWhile_append_dropWhile.symm⟩

theorem eq_sign_of_mem
    {negative : Bool}
    {sign : List Char}
    (signed : SpellsSign negative sign) :
    ∀ c ∈ sign, c = '-' ∨ c = '+' := by
  cases signed with
  | none => exact List.forall_mem_nil _
  | plus => exact List.forall_mem_singleton.mpr (.inr rfl)
  | minus => exact List.forall_mem_singleton.mpr (.inl rfl)

theorem ne_sign_of_isDigit
    {c : Char}
    (isDigit : c.isDigit = true) :
    c ≠ '-' ∧ c ≠ '+' := by
  constructor
  · rintro rfl
    cases isDigit
  · rintro rfl
    cases isDigit

theorem readExponent?_eq_some_iff
    {exponent : ℤ}
    {text : List Char} :
    readExponent? text = some exponent ↔ SpellsExponent exponent text := by
  constructor
  · intro isRead
    cases text with
    | nil =>
        obtain rfl := Option.some.inj isRead
        exact .lacking
    | cons mark text =>
        obtain ⟨sign, signed, isText⟩ := exists_spellsSign_readSign text
        obtain ⟨areDigits, isRest⟩ := readDigits_spec (readSign text).2
        simp only [readExponent?] at isRead
        split at isRead
        next isMark =>
          split at isRead
          next => cases isRead
          next ends =>
            simp only [Bool.not_eq_true, Bool.or_eq_false_iff, Bool.not_eq_false',
              List.isEmpty_iff, List.isEmpty_eq_false_iff] at ends
            obtain ⟨someDigits, atEnd⟩ := ends
            rw [atEnd, List.append_nil] at isRest
            rw [isText, isRest]
            obtain rfl := Option.some.inj isRead
            rw [naturalOfDigits_eq_ofDigitChars]
            exact .mark isMark signed ⟨someDigits, areDigits⟩
        next => cases isRead
  · intro spelled
    cases spelled with
    | lacking => rfl
    | @mark mark negative sign digits isMark signed areDigits =>
        have begins : ∀ c ∈ digits.head?, c ≠ '-' ∧ c ≠ '+' := fun c first =>
          ne_sign_of_isDigit (areDigits.digits c (List.mem_of_head? first))
        have signRead := readSign_append signed begins
        have nothingFollows : ∀ c ∈ ([] : List Char).head?, c.isDigit = false :=
          fun c isFirst => absurd isFirst (Option.not_mem_none c)
        have parts := readDigits_append areDigits.digits nothingFollows
        have nonempty : digits.isEmpty = false := by simpa using areDigits.nonempty
        rw [List.append_nil] at parts
        simp [readExponent?, isMark, signRead, parts, nonempty, naturalOfDigits_eq_ofDigitChars]

/-- A text that spells an exponent begins with its mark, unless there is none. -/
theorem SpellsExponent.first
    {exponent : ℤ}
    {text : List Char}
    (spelled : SpellsExponent exponent text) :
    ∀ c ∈ text.head?, c = 'e' ∨ c = 'E' := by
  cases spelled with
  | lacking => exact fun c isFirst => absurd isFirst (Option.not_mem_none c)
  | mark isMark => exact fun c first => Option.some.inj first ▸ isMark

theorem SpellsExponent.not_isDigit_first
    {exponent : ℤ}
    {text : List Char}
    (spelled : SpellsExponent exponent text) :
    ∀ c ∈ text.head?, c.isDigit = false := by
  intro c first
  rcases spelled.first c first with rfl | rfl <;> rfl

/-- The digits of a mantissa are told apart from an exponent that follows them. -/
theorem SpellsMantissa.read_append
    {whole fraction mantissa exponentText : List Char}
    {exponent : ℤ}
    (spelled : SpellsMantissa whole fraction mantissa)
    (exponentSpelled : SpellsExponent exponent exponentText) :
    (readDigits (mantissa ++ exponentText)).1 = whole ∧
      readFraction (readDigits (mantissa ++ exponentText)).2 = (fraction, exponentText) := by
  have ends := exponentSpelled.not_isDigit_first
  have pointed
      {digits : List Char}
      (areDigits : ∀ c ∈ digits, c.isDigit = true) :
      readFraction ('.' :: (digits ++ exponentText)) = (digits, exponentText) :=
    readDigits_append areDigits ends
  cases spelled with
  | whole areDigits =>
      rw [readDigits_append areDigits.digits ends]
      refine ⟨rfl, ?_⟩
      cases exponentText with
      | nil => rfl
      | cons c rest =>
          have notPoint : c ≠ '.' := by
            rcases exponentSpelled.first c rfl with rfl | rfl <;> decide
          simp [readFraction, notPoint]
  | @pointed whole fraction areDigits areFraction =>
      have point : ∀ c ∈ ('.' :: (fraction ++ exponentText)).head?, c.isDigit = false := by
        simp
      rw [List.append_assoc, List.cons_append, readDigits_append areDigits.digits point]
      exact ⟨rfl, pointed areFraction⟩
  | fraction areDigits =>
      exact ⟨rfl, pointed areDigits.digits⟩

/-- What is read as the digits of a decimal spells a mantissa, unless there are none at all. -/
theorem exists_spellsMantissa_read
    (text : List Char)
    (someDigits :
      ((readDigits text).1.isEmpty && (readFraction (readDigits text).2).1.isEmpty) = false) :
    ∃ mantissa,
      SpellsMantissa (readDigits text).1 (readFraction (readDigits text).2).1 mantissa ∧
        text = mantissa ++ (readFraction (readDigits text).2).2 := by
  obtain ⟨areDigits, isText⟩ := readDigits_spec text
  generalize (readDigits text).1 = whole at *
  generalize (readDigits text).2 = rest at *
  unfold readFraction at *
  split at *
  next fractional =>
    obtain ⟨areFraction, isFraction⟩ := readDigits_spec fractional
    generalize (readDigits fractional).1 = fraction at *
    generalize (readDigits fractional).2 = exponentText at *
    subst isText isFraction
    by_cases noWhole : whole = []
    · subst noWhole
      have nonempty : fraction ≠ [] := by simpa using someDigits
      exact ⟨_, .fraction ⟨nonempty, areFraction⟩, rfl⟩
    · refine ⟨_, .pointed ⟨noWhole, areDigits⟩ areFraction, ?_⟩
      rw [List.append_assoc, List.cons_append]
  next =>
    have nonempty : whole ≠ [] := by simpa using someDigits
    exact ⟨_, .whole ⟨nonempty, areDigits⟩, isText⟩

theorem SpellsMantissa.nonempty
    {whole fraction mantissa : List Char}
    (spelled : SpellsMantissa whole fraction mantissa) :
    (whole.isEmpty && fraction.isEmpty) = false := by
  cases spelled with
  | whole areDigits => simpa using areDigits.nonempty
  | pointed areDigits => simp [areDigits.nonempty]
  | fraction areDigits => simpa using areDigits.nonempty

theorem SpellsMantissa.noSign
    {whole fraction mantissa : List Char}
    (spelled : SpellsMantissa whole fraction mantissa)
    (rest : List Char) :
    ∀ c ∈ (mantissa ++ rest).head?, c ≠ '-' ∧ c ≠ '+' := by
  have ofDigits
      {digits : List Char}
      (areDigits : IsDigits digits)
      (more : List Char) :
      ∀ c ∈ (digits ++ more).head?, c ≠ '-' ∧ c ≠ '+' := by
    intro c first
    rw [List.head?_append_of_ne_nil _ areDigits.nonempty] at first
    exact ne_sign_of_isDigit (areDigits.digits c (List.mem_of_head? first))
  cases spelled with
  | whole areDigits =>
      exact ofDigits areDigits rest
  | pointed areDigits =>
      rw [List.append_assoc]
      exact ofDigits areDigits _
  | fraction areDigits =>
      simp

/-- The reader of decimals accepts the spellings of decimals, and takes them apart. -/
theorem Decimal.read?_eq_some_iff
    {numeral : Decimal}
    {text : List Char} :
    Decimal.read? text = some numeral ↔ SpellsDecimal numeral text := by
  constructor
  · intro isRead
    obtain ⟨sign, signed, isText⟩ := exists_spellsSign_readSign text
    simp only [Decimal.read?] at isRead
    split at isRead
    next => cases isRead
    next someDigits =>
      obtain ⟨exponent, exponentRead, rfl⟩ := Option.map_eq_some_iff.mp isRead
      obtain ⟨mantissa, mantissaSpelled, isRest⟩ :=
        exists_spellsMantissa_read (readSign text).2 (Bool.eq_false_iff.mpr someDigits)
      have spelled :=
        SpellsDecimal.parts signed mantissaSpelled (readExponent?_eq_some_iff.mp exponentRead)
      rwa [← isRest, ← isText] at spelled
  · intro spelled
    cases spelled with
    | @parts _ _ _ _ _ _ exponentText signed mantissaSpelled exponentSpelled =>
        have signRead := readSign_append signed (mantissaSpelled.noSign exponentText)
        obtain ⟨wholeRead, fractionRead⟩ := mantissaSpelled.read_append exponentSpelled
        have exponentRead := readExponent?_eq_some_iff.mpr exponentSpelled
        have someDigits := mantissaSpelled.nonempty
        simp [Decimal.read?, signRead, wholeRead, fractionRead, exponentRead, someDigits]

/-! ## Reading numbers -/

/-- The characters of decimals. -/
def IsDecimalCharacter (c : Char) : Prop :=
  c.isDigit = true ∨ c = '-' ∨ c = '+' ∨ c = '.' ∨ c = 'e' ∨ c = 'E'

theorem SpellsMantissa.characters
    {whole fraction mantissa : List Char}
    (spelled : SpellsMantissa whole fraction mantissa) :
    ∀ c ∈ mantissa, IsDecimalCharacter c := by
  have point : IsDecimalCharacter '.' := .inr (.inr (.inr (.inl rfl)))
  cases spelled with
  | whole areDigits =>
      exact fun c member => .inl (areDigits.digits c member)
  | pointed areDigits areFraction =>
      exact
        List.forall_mem_append.mpr
          ⟨fun c member => .inl (areDigits.digits c member),
            List.forall_mem_cons.mpr ⟨point, fun c member => .inl (areFraction c member)⟩⟩
  | fraction areDigits =>
      exact List.forall_mem_cons.mpr ⟨point, fun c member => .inl (areDigits.digits c member)⟩

theorem isDecimalCharacter_of_mem_sign
    {negative : Bool}
    {sign : List Char}
    (signed : SpellsSign negative sign) :
    ∀ c ∈ sign, IsDecimalCharacter c := by
  intro c member
  rcases eq_sign_of_mem signed c member with rfl | rfl
  · exact .inr (.inl rfl)
  · exact .inr (.inr (.inl rfl))

theorem SpellsDecimal.characters
    {numeral : Decimal}
    {text : List Char}
    (spelled : SpellsDecimal numeral text) :
    ∀ c ∈ text, IsDecimalCharacter c := by
  cases spelled with
  | @parts _ _ _ _ sign mantissa exponentText signed mantissaSpelled exponentSpelled =>
      have exponential : ∀ c ∈ exponentText, IsDecimalCharacter c := by
        cases exponentSpelled with
        | lacking => exact List.forall_mem_nil _
        | mark isMark signed areDigits =>
            have isDigits : ∀ c ∈ _, IsDecimalCharacter c := fun c member =>
              .inl (areDigits.digits c member)
            exact
              List.forall_mem_cons.mpr
                ⟨.inr (.inr (.inr (.inr isMark))),
                  List.forall_mem_append.mpr ⟨isDecimalCharacter_of_mem_sign signed, isDigits⟩⟩
      exact
        List.forall_mem_append.mpr
          ⟨isDecimalCharacter_of_mem_sign signed,
            List.forall_mem_append.mpr ⟨mantissaSpelled.characters, exponential⟩⟩

theorem IsDecimalCharacter.isBlank_eq_false
    {c : Char}
    (isCharacter : IsDecimalCharacter c) :
    Text.isBlank c = false := by
  rcases isCharacter with isDigit | rfl | rfl | rfl | rfl | rfl
  · exact Text.isBlank_of_isDigit isDigit
  all_goals decide +kernel

theorem not_isAlpha_of_isDigit
    {c : Char}
    (isDigit : c.isDigit = true) :
    c.isAlpha = false := by
  simp only [Char.isDigit, Bool.and_eq_true, decide_eq_true_eq, ge_iff_le, UInt32.le_iff_toNat_le]
    at isDigit
  rw [Bool.eq_false_iff]
  intro isAlpha
  change
    (decide (65 ≤ c.val ∧ c.val ≤ 90) || decide (97 ≤ c.val) && decide (c.val ≤ 122)) = true
    at isAlpha
  simp only [Bool.or_eq_true, Bool.and_eq_true, decide_eq_true_eq, UInt32.le_iff_toNat_le]
    at isAlpha
  obtain ⟨-, high⟩ := isDigit
  change c.toNat ≤ 57 at high
  change (65 ≤ c.toNat ∧ c.toNat ≤ 90) ∨ (97 ≤ c.toNat ∧ c.toNat ≤ 122) at isAlpha
  omega

theorem IsDecimalCharacter.isForeignLetter_eq_false
    {c : Char}
    (isCharacter : IsDecimalCharacter c) :
    isForeignLetter c = false := by
  rcases isCharacter with isDigit | rfl | rfl | rfl | rfl | rfl
  · simp [isForeignLetter, not_isAlpha_of_isDigit isDigit]
  all_goals rfl

/-- The words for infinity and `nan` have an `n`, which is a foreign letter in either case. -/
theorem isForeignLetter_of_toLower
    {c : Char}
    (isLetter : c.toLower = 'n') :
    isForeignLetter c = true := by
  unfold Char.toLower at isLetter
  split at isLetter
  next isUpper =>
    have code : c.val + 32 = 110 := congrArg Char.val isLetter
    obtain rfl : c = 'N' := Char.ext (show c.val = 78 by grind)
    rfl
  next =>
    subst isLetter
    rfl

/-- Where no letter is foreign, the general reader finds nothing but decimals. -/
theorem Spelled.read?_of_no_foreignLetter
    {text : List Char}
    (noForeignLetter : text.any isForeignLetter = false) :
    Spelled.read? text = (Decimal.read? text).map .decimal := by
  obtain ⟨sign, -, isText⟩ := exists_spellsSign_readSign text
  have noWord
      {word : List Char}
      (hasLetter : 'n' ∈ word) :
      (readSign text).2.map Char.toLower ≠ word := by
    rintro rfl
    obtain ⟨c, member, isLetter⟩ := List.mem_map.mp hasLetter
    have inText : c ∈ text := isText ▸ List.mem_append_right sign member
    have isForeign := isForeignLetter_of_toLower isLetter
    rw [List.any_eq_false] at noForeignLetter
    exact noForeignLetter c inText isForeign
  simp only [Spelled.read?]
  rw [if_neg, if_neg]
  · exact noWord (by decide)
  · rintro (isInf | isInfinity)
    · exact noWord (by decide) isInf
    · exact noWord (by decide) isInfinity

namespace Binary64

/-- A text that is read as a decimal is read as its number. -/
theorem ofText?_of_read?
    {numeral : Decimal}
    {text : String}
    (isRead : Decimal.read? (Text.trim text.toList) = some numeral) :
    ofText? text = some numeral.toBinary64 := by
  have isNo
      (word : String)
      (isNumeral : Decimal.read? word.toList = none) :
      Text.trim text.toList ≠ word.toList := by
    intro same
    rw [same, isNumeral] at isRead
    cases isRead
  have notInfinity := isNo "Infinity" (by decide +kernel)
  have notPlusInfinity := isNo "+Infinity" (by decide +kernel)
  have notMinusInfinity := isNo "-Infinity" (by decide +kernel)
  have notNan := isNo "NaN" (by decide +kernel)
  have noForeignLetter : (Text.trim text.toList).any isForeignLetter = false := by
    rw [List.any_eq_false]
    intro c member
    have isCharacter := (Decimal.read?_eq_some_iff.mp isRead).characters c member
    simp [isCharacter.isForeignLetter_eq_false]
  unfold ofText?
  dsimp only
  rw [if_neg (not_or.mpr ⟨notInfinity, notPlusInfinity⟩), if_neg notMinusInfinity, if_neg notNan,
    noForeignLetter, if_neg Bool.false_ne_true, Spelled.read?_of_no_foreignLetter noForeignLetter,
    isRead]
  rfl

/-- A text is read as a number exactly if, once it is trimmed, it is a spelling of that number. -/
theorem ofText?_eq_some_iff
    (text : String)
    (number : Binary64) :
    ofText? text = some number ↔ SpellsNumber number (Text.trim text.toList) := by
  constructor
  · intro isRead
    unfold ofText? at isRead
    dsimp only at isRead
    split at isRead
    next isInfinity =>
      obtain rfl := Option.some.inj isRead
      rcases isInfinity with isPlain | isSigned
      · exact isPlain ▸ .infinity
      · exact isSigned ▸ .plusInfinity
    split at isRead
    next isInfinity =>
      obtain rfl := Option.some.inj isRead
      exact isInfinity ▸ .minusInfinity
    split at isRead
    next isNan =>
      obtain rfl := Option.some.inj isRead
      exact isNan ▸ .nan
    split at isRead
    next => cases isRead
    next noForeignLetter =>
      rw [Spelled.read?_of_no_foreignLetter (Bool.eq_false_iff.mpr noForeignLetter), Option.map_map,
        Option.map_eq_some_iff] at isRead
      obtain ⟨numeral, numeralRead, rfl⟩ := isRead
      exact .decimal (Decimal.read?_eq_some_iff.mp numeralRead) numeral.isNearest_toBinary64
  · intro spelled
    generalize isTrimmed : Text.trim text.toList = trimmed at spelled
    cases spelled with
    | infinity | plusInfinity | minusInfinity | nan =>
        simp [ofText?, isTrimmed]
    | @decimal numeral _ _ decimal nearest =>
        have isRead := Decimal.read?_eq_some_iff.mpr decimal
        rw [ofText?_of_read? (isTrimmed ▸ isRead), numeral.isNearest_toBinary64.unique nearest]

end Binary64

theorem SpellsDecimal.ne_nil
    {numeral : Decimal}
    {text : List Char}
    (spelled : SpellsDecimal numeral text) :
    text ≠ [] := by
  cases spelled with
  | parts _ mantissaSpelled =>
      cases mantissaSpelled with
      | whole areDigits => simp [areDigits.nonempty]
      | pointed | fraction => simp

/-- A number is spelled without blanks. -/
theorem SpellsNumber.isBlank_eq_false
    {number : Binary64}
    {text : List Char}
    (spelled : SpellsNumber number text) :
    ∀ c ∈ text, Text.isBlank c = false := by
  cases spelled with
  | infinity | plusInfinity | minusInfinity | nan =>
      exact Text.forall_isBlank_eq_false (by decide +kernel)
  | decimal decimal => exact fun c member => (decimal.characters c member).isBlank_eq_false

theorem SpellsNumber.ne_nil
    {number : Binary64}
    {text : List Char}
    (spelled : SpellsNumber number text) :
    text ≠ [] := by
  cases spelled with
  | infinity | plusInfinity | minusInfinity | nan => simp
  | decimal decimal => exact decimal.ne_nil

/--
A text is read as a number exactly if it is a spelling of that number with nothing but
blanks around it.
-/
theorem Binary64.ofText?_exact
    (text : String)
    (number : Binary64) :
    ofText? text = some number ↔
      ∃ before spelling after,
        text.toList = before ++ (spelling ++ after) ∧
          (∀ c ∈ before, Text.isBlank c = true) ∧
          (∀ c ∈ after, Text.isBlank c = true) ∧
          SpellsNumber number spelling := by
  rw [ofText?_eq_some_iff]
  constructor
  · intro spelled
    obtain ⟨before, after, isText, blanksBefore, blanksAfter⟩ :=
      Text.exists_eq_append_trim text.toList
    exact ⟨before, _, after, isText, blanksBefore, blanksAfter, spelled⟩
  · rintro ⟨before, spelling, after, isText, blanksBefore, blanksAfter, spelled⟩
    rw [isText,
      Text.trim_append_append spelled.isBlank_eq_false spelled.ne_nil blanksBefore blanksAfter]
    exact spelled

/-- Minus five: the blanks around it are trimmed, and no digit stands before the point. -/
example :
    Binary64.ofText? " -.5e+1\n" = some (.finite true (5 * 2 ^ 50) (-50) (by decide)) := by
  decide +kernel

/-- Nearly numbers: no digits, an exponent without them, another word, another base. -/
example :
    [".", "1e", "+", "inf", "nan", "e5", "0x1", "1_0"].all (Binary64.ofText? · |>.isNone) = true := by
  decide +kernel

end FeatureFlags.Number
