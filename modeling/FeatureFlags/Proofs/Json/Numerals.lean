import FeatureFlags.Proofs.Json.Writing
import FeatureFlags.Proofs.Number.Spelling

namespace FeatureFlags.Json

/-!
# Numerals of numbers

The numerals of documents are decimal ones, and every finite number is written as such a
numeral. Read as a decimal, it gives the number back, whatever its size is.
-/

open FeatureFlags.Number
  (Binary64 Decimal Expansion NumeralStyle decimalDigits hasDigits_shortest isDigit_of_mem_zeros
    naturalOfDigits naturalOfDigits_append naturalOfDigits_decimalDigits
    naturalOfDigits_eq_ofDigitChars naturalOfDigits_replicate_zero SpellsDecimal SpellsMantissa)

/-! ## Numerals as decimals -/

/-- The decimal that a numeral is, its value being left exact. -/
def Numeral.toDecimal (numeral : Numeral) : Decimal :=
  ⟨numeral.negative, numeral.whole, numeral.fraction.getD [], numeral.exponentValue⟩

/-- A text that spells a numeral spells the decimal that the numeral is. -/
theorem SpellsNumeral.spellsDecimal
    {numeral : Numeral}
    {text : List Char}
    (spelled : SpellsNumeral numeral text) :
    SpellsDecimal numeral.toDecimal text := by
  cases spelled with
  | @parts negative whole fraction exponent fractionText exponentText areDigits _ fractionSpelled
      exponentSpelled =>
      have signed : SpellsSign negative (if negative then ['-'] else []) := by
        cases negative with
        | false => exact .none
        | true => exact .minus
      have mantissa : SpellsMantissa whole (fraction.getD []) (whole ++ fractionText) := by
        cases fractionSpelled with
        | lacking =>
            rw [List.append_nil]
            exact .whole areDigits
        | point fractionDigits =>
            exact .pointed areDigits fractionDigits.digits
      have exponential :
          Number.SpellsExponent (Numeral.exponentValue ⟨negative, whole, fraction, exponent⟩) exponentText := by
        cases exponentSpelled with
        | lacking => exact .lacking
        | @mark _ lowered _ _ isMark signed exponentDigits =>
            have spelled := Number.SpellsExponent.mark isMark signed exponentDigits
            rw [← naturalOfDigits_eq_ofDigitChars] at spelled
            cases lowered <;> exact spelled
      rw [← List.append_assoc whole]
      exact .parts signed mantissa exponential

/-! ## Expansions as numerals -/

/--
A numeral whose digits are those of an expansion, but for zeros before and after them, is
worth as much as the expansion if the zeros after them are scaled away.
-/
theorem value_toDecimal_of_digits
    {numeral : Numeral}
    {expansion : Expansion}
    {before after : ℕ}
    (digits :
      numeral.whole ++ numeral.fraction.getD [] =
        List.replicate before '0' ++ (expansion.digits ++ List.replicate after '0'))
    (scale :
      numeral.exponentValue - (numeral.fraction.getD []).length + after =
        expansion.point - expansion.digits.length) :
    numeral.toDecimal.value = expansion.value := by
  have natural : numeral.toDecimal.coefficient = naturalOfDigits expansion.digits * 10 ^ after := by
    rw [Decimal.coefficient, show numeral.toDecimal.whole = numeral.whole from rfl,
      show numeral.toDecimal.fraction = numeral.fraction.getD [] from rfl, digits,
      naturalOfDigits_append, naturalOfDigits_append, naturalOfDigits_replicate_zero,
      naturalOfDigits_replicate_zero, List.length_replicate]
    omega
  have sameScale : after + numeral.toDecimal.scale = expansion.point - expansion.digits.length := by
    rw [← scale, add_comm]
    rfl
  rw [Decimal.value_eq, Expansion.value, natural, ← sameScale, zpow_add₀ (by norm_num), zpow_natCast]
  push_cast
  ring

/-- Whether a magnitude is written as a numeral that is worth as much as an expansion. -/
structure Numeral.IsWritten
    (numeral : Numeral)
    (expansion : Expansion)
    (magnitude : List Char) :
    Prop where
  spelled :
    SpellsNumeral numeral ((if numeral.negative then ['-'] else []) ++ magnitude)
  value_eq :
    numeral.toDecimal.value = expansion.value

/-- The exponent that is written where one digit stands before the point. -/
def writtenExponent (point : ℤ) : Bool × List Char :=
  (decide (point - 1 < 0), decimalDigits (point - 1).natAbs)

theorem spellsExponent_writtenExponent (point : ℤ) :
    SpellsExponent (some (writtenExponent point))
      ('e' :: (if point - 1 < 0 then '-' else '+') :: decimalDigits (point - 1).natAbs) := by
  unfold writtenExponent
  by_cases lowered : point - 1 < 0
  · simpa [lowered] using SpellsExponent.mark (.inl rfl) .minus (isDigits_decimalDigits _)
  · simpa [lowered] using SpellsExponent.mark (.inl rfl) .plus (isDigits_decimalDigits _)

theorem exponentValue_writtenExponent
    (negative : Bool)
    (whole : List Char)
    (fraction : Option (List Char))
    (point : ℤ) :
    (Numeral.mk negative whole fraction (some (writtenExponent point))).exponentValue =
      point - 1 := by
  unfold writtenExponent
  by_cases lowered : point - 1 < 0
  · simp only [Numeral.exponentValue, lowered, decide_true, naturalOfDigits_decimalDigits]
    omega
  · simp only [Numeral.exponentValue, lowered, decide_false, naturalOfDigits_decimalDigits]
    omega

section Expansions

variable
  {expansion : Expansion}
  (hasDigits : expansion.HasDigits)
  (negative : Bool)

include hasDigits

/-- The form with an exponent is a numeral with one. -/
theorem exists_isWritten_scientific :
    ∃ whole fraction exponent,
      (Numeral.mk negative whole fraction (some exponent)).IsWritten expansion
        expansion.scientific := by
  obtain ⟨digits, point⟩ := expansion
  obtain ⟨nonempty, isDigit, -⟩ := hasDigits
  obtain ⟨first, rest, rfl⟩ := List.exists_cons_of_ne_nil nonempty
  have firstDigits : IsDigits [first] := by
    refine ⟨nofun, fun c member => ?_⟩
    obtain rfl := List.mem_singleton.mp member
    exact isDigit c List.mem_cons_self
  have noLeadingZero : [first].head? = some '0' → [first] = ['0'] := by
    intro begins
    rw [List.head?_cons, Option.some.injEq] at begins
    rw [begins]
  have exponentSpelled := spellsExponent_writtenExponent point
  have exponentValue := exponentValue_writtenExponent negative [first]
  cases rest with
  | nil =>
      refine ⟨[first], none, writtenExponent point, ?_, ?_⟩
      · exact .parts firstDigits noLeadingZero .lacking exponentSpelled
      · refine @value_toDecimal_of_digits _ _ 0 0 (by simp) ?_
        rw [exponentValue]
        simp
  | cons second more =>
      have restDigits : IsDigits (second :: more) :=
        ⟨nofun, fun c member => isDigit c (List.mem_cons_of_mem _ member)⟩
      refine ⟨[first], some (second :: more), writtenExponent point, ?_, ?_⟩
      · exact .parts firstDigits noLeadingZero (.point restDigits) exponentSpelled
      · refine @value_toDecimal_of_digits _ _ 0 0 (by simp) ?_
        rw [exponentValue]
        simp
        omega

/-- Below one, a zero stands before the point, and more of them may stand after it. -/
theorem exists_isWritten_positional_below_one (belowOne : expansion.point ≤ 0) :
    ∃ whole fraction,
      (Numeral.mk negative whole (some fraction) none).IsWritten expansion
        expansion.positional := by
  have zeroDigits : IsDigits ['0'] := ⟨by simp, by simp⟩
  have fractionDigits :
      IsDigits (List.replicate (-expansion.point).toNat '0' ++ expansion.digits) := by
    refine ⟨fun empty => hasDigits.ne_nil (List.append_eq_nil_iff.mp empty).2, ?_⟩
    intro c member
    rcases List.mem_append.mp member with isZero | isDigit
    · exact isDigit_of_mem_zeros isZero
    · exact hasDigits.isDigit c isDigit
  refine ⟨['0'], List.replicate (-expansion.point).toNat '0' ++ expansion.digits, ?_, ?_⟩
  · have spelled :=
      @SpellsNumeral.parts negative _ _ _ _ _ zeroDigits (fun _ => rfl) (.point fractionDigits)
        .lacking
    simpa [Expansion.positional, belowOne] using spelled
  · refine @value_toDecimal_of_digits _ _ ((-expansion.point).toNat + 1) 0 ?_ ?_
    · simp [List.replicate_succ]
    · simp [Numeral.exponentValue]
      omega

/-- The point may stand among the digits. -/
theorem exists_isWritten_positional_inside
    (aboveOne : 0 < expansion.point)
    (pointed : expansion.point < expansion.digits.length) :
    ∃ whole fraction,
      (Numeral.mk negative whole (some fraction) none).IsWritten expansion
        expansion.positional := by
  obtain ⟨count, isCount⟩ := Int.eq_ofNat_of_zero_le (Int.le_of_lt aboveOne)
  have wholeDigits : IsDigits (expansion.digits.take count) := by
    refine ⟨?_, fun c member => hasDigits.isDigit c (List.mem_of_mem_take member)⟩
    intro empty
    rcases List.take_eq_nil_iff.mp empty with noCount | noDigits
    · omega
    · exact hasDigits.ne_nil noDigits
  have fractionDigits : IsDigits (expansion.digits.drop count) := by
    refine ⟨?_, fun c member => hasDigits.isDigit c (List.mem_of_mem_drop member)⟩
    intro empty
    have := List.drop_eq_nil_iff.mp empty
    omega
  have noLeadingZero :
      (expansion.digits.take count).head? = some '0' → expansion.digits.take count = ['0'] := by
    intro begins
    rw [List.head?_take, if_neg (by omega)] at begins
    rw [hasDigits.leading begins] at pointed
    exact absurd pointed (by decide)
  refine ⟨expansion.digits.take count, expansion.digits.drop count, ?_, ?_⟩
  · have spelled :=
      @SpellsNumeral.parts negative _ _ _ _ _ wholeDigits noLeadingZero (.point fractionDigits)
        .lacking
    have notBelow : count ≠ 0 := by omega
    have notWhole : ¬ expansion.digits.length ≤ count := by omega
    simpa [Expansion.positional, isCount, notBelow, notWhole] using spelled
  · refine @value_toDecimal_of_digits _ _ 0 0 (by simp) ?_
    simp [Numeral.exponentValue]
    omega

/-- A whole number is written without a fraction, or with a zero as its fraction. -/
theorem exists_isWritten_positional_whole
    (isWhole : expansion.digits.length ≤ expansion.point) :
    ∃ whole,
      (Numeral.mk negative whole none none).IsWritten expansion expansion.positional ∧
        (Numeral.mk negative whole (some ['0']) none).IsWritten expansion
          (expansion.positional ++ ['.', '0']) := by
  have someDigits := List.length_pos_iff.mpr hasDigits.ne_nil
  have notBelow : ¬ expansion.point ≤ 0 := by omega
  set zeros := (expansion.point - expansion.digits.length).toNat with isZeros
  have written : expansion.positional = expansion.digits ++ List.replicate zeros '0' := by
    simp [Expansion.positional, notBelow, isWhole, isZeros]
  have wholeDigits : IsDigits (expansion.digits ++ List.replicate zeros '0') := by
    refine ⟨fun empty => hasDigits.ne_nil (List.append_eq_nil_iff.mp empty).1, ?_⟩
    intro c member
    rcases List.mem_append.mp member with isDigit | isZero
    · exact hasDigits.isDigit c isDigit
    · exact isDigit_of_mem_zeros isZero
  have noLeadingZero :
      (expansion.digits ++ List.replicate zeros '0').head? = some '0' →
        expansion.digits ++ List.replicate zeros '0' = ['0'] := by
    intro begins
    rw [List.head?_append_of_ne_nil _ hasDigits.ne_nil] at begins
    rw [isZeros, hasDigits.leading begins]
    rfl
  refine ⟨expansion.digits ++ List.replicate zeros '0', ⟨?_, ?_⟩, ⟨?_, ?_⟩⟩
  · have spelled :=
      @SpellsNumeral.parts negative _ _ _ _ _ wholeDigits noLeadingZero .lacking .lacking
    simpa [written] using spelled
  · refine @value_toDecimal_of_digits _ _ 0 zeros (by simp) ?_
    simp [Numeral.exponentValue]
    omega
  · have zeroDigits : IsDigits ['0'] := ⟨by simp, by simp⟩
    have spelled :=
      @SpellsNumeral.parts negative _ _ _ _ _ wholeDigits noLeadingZero (.point zeroDigits)
        .lacking
    simpa [written] using spelled
  · refine @value_toDecimal_of_digits _ _ 0 (zeros + 1) ?_ ?_
    · simp [List.replicate_succ']
    · simp [Numeral.exponentValue]
      omega

end Expansions

/-! ## Numbers as numerals -/

/-- Whether a style marks a whole number in no way, or by a zero after a point. -/
def MarksByZero (style : NumeralStyle) : Prop :=
  style.wholeMark = [] ∨ style.wholeMark = ['.', '0']

variable {style : NumeralStyle}

/--
What is written for an expansion is a numeral that is worth as much. If the style marks
whole numbers, the numeral has a fraction or an exponent.
-/
theorem exists_isWritten_write
    {expansion : Expansion}
    (hasDigits : expansion.HasDigits)
    (negative : Bool)
    (marks : MarksByZero style) :
    ∃ numeral : Numeral,
      numeral.negative = negative ∧
        numeral.IsWritten expansion (style.write expansion) ∧
        (style.wholeMark ≠ [] → numeral.isWhole = false) := by
  unfold NumeralStyle.write
  split
  next =>
    obtain ⟨_, _, _, written⟩ := exists_isWritten_scientific hasDigits negative
    exact ⟨_, rfl, written, fun _ => by simp [Numeral.isWhole]⟩
  next =>
    split
    next isWhole =>
      obtain ⟨_, unmarked, marked⟩ := exists_isWritten_positional_whole hasDigits negative isWhole
      rcases marks with noMark | mark
      · rw [noMark, List.append_nil]
        exact ⟨_, rfl, unmarked, fun hasMark => absurd rfl hasMark⟩
      · rw [mark]
        exact ⟨_, rfl, marked, fun _ => rfl⟩
    next notWhole =>
      have pointed : expansion.point < expansion.digits.length := Int.not_le.mp notWhole
      by_cases belowOne : expansion.point ≤ 0
      · obtain ⟨_, _, written⟩ := exists_isWritten_positional_below_one hasDigits negative belowOne
        exact ⟨_, rfl, written, fun _ => rfl⟩
      · obtain ⟨_, _, written⟩ :=
          exists_isWritten_positional_inside hasDigits negative (Int.not_le.mp belowOne) pointed
        exact ⟨_, rfl, written, fun _ => rfl⟩

/--
A finite number is written as a numeral that is read as the number. If the style marks
whole numbers, the numeral has a fraction or an exponent.
-/
theorem exists_spellsNumeral_write
    {number : Binary64}
    (finite : number.isFinite = true)
    (marks : MarksByZero style) :
    ∃ numeral : Numeral,
      SpellsNumeral numeral (number.write style).toList ∧
        numeral.toDecimal.toBinary64 = number ∧
        (style.wholeMark ≠ [] → numeral.isWhole = false) := by
  cases number with
  | nan | infinite =>
      cases finite
  | finite negative mantissa exponent canonical =>
      obtain ⟨numeral, rfl, written, notWhole⟩ :=
        exists_isWritten_write (hasDigits_shortest style.tie canonical.1) negative marks
      refine ⟨numeral, ?_, ?_, notWhole⟩
      · have spelled := written.spelled
        rw [Binary64.write, String.toList_ofList]
        cases isNegative : numeral.negative <;> simpa [isNegative] using spelled
      · exact Decimal.toBinary64_of_value_eq_shortest canonical written.value_eq

/-- What is written for a finite number is read as the number. -/
theorem read?_write
    {number : Binary64}
    (finite : number.isFinite = true)
    (marks : MarksByZero style) :
    (Decimal.read? (number.write style).toList).map Decimal.toBinary64 = some number := by
  obtain ⟨numeral, spelled, same, -⟩ := exists_spellsNumeral_write finite marks
  rw [Decimal.read?_eq_some_iff.mpr spelled.spellsDecimal, Option.map_some, same]

/-- Different finite numbers are written differently. -/
theorem write_injective_of_isFinite
    {left right : Binary64}
    (leftFinite : left.isFinite = true)
    (rightFinite : right.isFinite = true)
    (marks : MarksByZero style)
    (same : left.write style = right.write style) :
    left = right := by
  have leftRead := read?_write leftFinite marks
  rw [same, read?_write rightFinite marks] at leftRead
  exact (Option.some.inj leftRead).symm

end FeatureFlags.Json
