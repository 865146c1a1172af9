import FeatureFlags.Proofs.Json.Numerals

namespace FeatureFlags

/-!
# Numbers in plain text

A text that spells a numeral is read as the number nearest to it, for it has no blanks to
trim and is none of the words for the other numbers. So every number is read back from its
plain text, and an integer that fits a word is read from its digits as it is converted.
-/

namespace Json

/-! ## Numerals of integers -/

namespace Numeral

open FeatureFlags.Number (Decimal Ratio)

theorem coefficient_toDecimal_ofInt (n : ℤ) : (ofInt n).toDecimal.coefficient = n.natAbs := by
  simp [ofInt, toDecimal, Decimal.coefficient]

theorem value_toDecimal_ofInt (n : ℤ) : (ofInt n).toDecimal.value = n.natAbs := by
  rw [Decimal.value_eq, coefficient_toDecimal_ofInt]
  simp [ofInt, toDecimal, Decimal.scale, exponentValue]

/-- The decimal of an integer that fits a word is within the range of the reader. -/
theorem value_ratio_toDecimal_ofInt
    {n : ℤ}
    (notZero : n.natAbs ≠ 0)
    (fits : n.natAbs < 2 ^ 64) :
    (ofInt n).toDecimal.ratio.value = (Ratio.mk n.natAbs 1).value := by
  have atLeastOne : (1 : ℚ) ≤ n.natAbs := by exact_mod_cast Nat.one_le_iff_ne_zero.mpr notZero
  have below : (n.natAbs : ℚ) < 2 ^ 64 := by exact_mod_cast fits
  rw [Ratio.value_natural, Decimal.value_ratio, value_toDecimal_ofInt]
  · rw [value_toDecimal_ofInt]
    exact (zpow_le_one_of_nonpos₀ (by norm_num) (by norm_num)).trans atLeastOne
  · rw [value_toDecimal_ofInt]
    calc
      (n.natAbs : ℚ) < 2 ^ 64 := below
      _ ≤ 10 ^ (20 : ℤ) := by norm_num
      _ ≤ 10 ^ (310 : ℤ) := zpow_le_zpow_right₀ (by norm_num) (by norm_num)

end Numeral

end Json

namespace Number.Binary64

open FeatureFlags.Json (Numeral SpellsNumeral)

/-! ## Reading -/

/-- A text that spells a numeral is read as the number nearest to it. -/
theorem ofText?_of_spellsNumeral
    {numeral : Numeral}
    {text : String}
    (spelled : SpellsNumeral numeral text.toList) :
    ofText? text = some numeral.toDecimal.toBinary64 := by
  have decimal := spelled.spellsDecimal
  apply ofText?_of_read?
  rw [Text.trim_eq_self fun c member => (decimal.characters c member).isBlank_eq_false]
  exact Decimal.read?_eq_some_iff.mpr decimal

/-- Every number, with its sign if it is a zero, is read back from its plain text. -/
theorem ofText?_toText (number : Binary64) : ofText? number.toText = some number := by
  cases number with
  | nan =>
      decide +kernel
  | infinite negative =>
      cases negative <;> decide +kernel
  | finite negative mantissa exponent canonical =>
      obtain ⟨numeral, spelled, same, -⟩ :=
        @Json.exists_spellsNumeral_write plainStyle (.finite negative mantissa exponent canonical) rfl
          (.inl rfl)
      rw [toText, ofText?_of_spellsNumeral spelled, same]

/-- The digits of an integer that fits a word are read as the integer is converted. -/
theorem ofText?_repr
    {n : ℤ}
    (fits : n.natAbs < 2 ^ 64) :
    ofText? n.repr = some (ofInt n) := by
  rw [ofText?_of_spellsNumeral (Json.spellsNumeral_repr n), Option.some.injEq]
  rcases eq_or_ne n.natAbs 0 with isZero | notZero
  · rw [Decimal.toBinary64_of_coefficient_eq_zero ((Numeral.coefficient_toDecimal_ofInt n).trans isZero)]
    obtain rfl := Int.natAbs_eq_zero.mp isZero
    rfl
  · have exact := Numeral.value_ratio_toDecimal_ofInt notZero fits
    have positive : 0 < (Numeral.ofInt n).toDecimal.ratio.value := by
      rw [exact, Ratio.value_natural]
      exact_mod_cast Nat.pos_of_ne_zero notZero
    rw [Decimal.toBinary64, ofInt, ofRatio, ofRatio, Ratio.round_congr positive exact]
    rfl

end Number.Binary64

end FeatureFlags
