import FeatureFlags.Proofs.Number.Shortest

namespace FeatureFlags.Number

/-!
# Decimals that are read as a number

A decimal is read as the number in whose interval it lies, and its magnitude is computed
exactly as long as it is one that the format can tell from zero and from infinity.
-/

/-- The number of a canonical pair is that pair with its sign. -/
theorem Binary64.ofScaled_of_canonical
    {mantissa : ℕ}
    {exponent : ℤ}
    (canonical : binary64.Canonical mantissa exponent)
    (negative : Bool) :
    ofScaled negative (mantissa, exponent) = .finite negative mantissa exponent canonical :=
  dif_pos canonical

/-- Half of the smallest positive number is not below the smallest magnitude that is computed. -/
theorem ten_zpow_le_two_zpow : (10 : ℚ) ^ (-330 : ℤ) ≤ 2 ^ (-1075 : ℤ) := by
  have powers : 2 ^ 1075 ≤ 10 ^ 330 := by decide +kernel
  rw [zpow_neg, zpow_neg, zpow_ofNat, zpow_ofNat]
  refine inv_anti₀ (by positivity) ?_
  exact_mod_cast powers

/-- What is rounded to infinity is above the largest magnitude that is computed. -/
theorem two_zpow_lt_ten_zpow : (2 : ℚ) ^ (1024 : ℤ) < 10 ^ (310 : ℤ) := by
  have powers : 2 ^ 1024 < 10 ^ 310 := by decide +kernel
  rw [zpow_ofNat, zpow_ofNat]
  exact_mod_cast powers

namespace Decimal

variable {numeral : Decimal}

/--
The rational that a decimal stands for, without its sign: what its digits write before and
after the point, shifted by the exponent.
-/
def value (numeral : Decimal) : ℚ :=
  (Nat.ofDigitChars 10 numeral.whole 0 +
      Nat.ofDigitChars 10 numeral.fraction 0 / 10 ^ numeral.fraction.length) *
    10 ^ numeral.exponent

/-- The digits are read as one natural, which the places after the point scale down. -/
theorem value_eq (numeral : Decimal) :
    numeral.value = numeral.coefficient * 10 ^ numeral.scale := by
  have ten : (10 : ℚ) ≠ 0 := by norm_num
  rw [value, coefficient, scale, naturalOfDigits_append, naturalOfDigits_eq_ofDigitChars,
    naturalOfDigits_eq_ofDigitChars, zpow_sub₀ ten, zpow_natCast]
  push_cast
  field_simp

theorem value_ratioOf
    (coefficient : ℕ)
    (scale : ℤ) :
    (ratioOf coefficient scale).value = coefficient * 10 ^ scale := by
  rw [zpow_eq_div (by norm_num)]
  simp [Ratio.value, ratioOf, mul_div_assoc]

theorem coefficient_pos_of_value_pos (positive : 0 < numeral.value) : 0 < numeral.coefficient := by
  rcases Nat.eq_zero_or_pos numeral.coefficient with zero | positiveCoefficient
  · simp [value_eq, zero] at positive
  · exact positiveCoefficient

/-- The digits and the scale of a positive decimal tell between which powers of ten it is. -/
theorem value_bounds
    (positive : 0 < numeral.value)
    {leading : ℤ}
    (isLeading : (decimalDigits numeral.coefficient).length + numeral.scale = leading) :
    (10 : ℚ) ^ (leading - 1) ≤ numeral.value ∧ numeral.value < 10 ^ leading := by
  have coefficientPos := coefficient_pos_of_value_pos positive
  obtain ⟨count, length⟩ :=
    Nat.exists_eq_add_one.mpr
      (List.length_pos_of_ne_nil (decimalDigits_ne_nil numeral.coefficient))
  have low := pow_le_of_length_decimalDigits coefficientPos length
  have high := lt_pow_length_decimalDigits numeral.coefficient
  have ten : (10 : ℚ) ≠ 0 := by norm_num
  subst isLeading
  rw [length] at high ⊢
  constructor
  · rw [value_eq, show ((count + 1 : ℕ) : ℤ) + numeral.scale - 1 = count + numeral.scale by omega,
      zpow_add₀ ten, zpow_natCast]
    gcongr
    exact_mod_cast low
  · rw [value_eq, zpow_add₀ ten, zpow_natCast]
    gcongr
    exact_mod_cast high

/-- A magnitude that is neither huge nor tiny is computed exactly. -/
theorem value_ratio
    (low : (10 : ℚ) ^ (-330 : ℤ) ≤ numeral.value)
    (high : numeral.value < 10 ^ (310 : ℤ)) :
    numeral.ratio.value = numeral.value := by
  have positive : 0 < numeral.value := lt_of_lt_of_le (by positivity) low
  have coefficientPos := coefficient_pos_of_value_pos positive
  obtain ⟨leading, isLeading⟩ :
      ∃ leading : ℤ, (decimalDigits numeral.coefficient).length + numeral.scale = leading :=
    ⟨_, rfl⟩
  obtain ⟨atLeast, below⟩ := value_bounds positive isLeading
  have notHuge : leading - 1 < 310 :=
    (zpow_lt_zpow_iff_right₀ (by norm_num)).mp (atLeast.trans_lt high)
  have notTiny : -330 < leading :=
    (zpow_lt_zpow_iff_right₀ (by norm_num)).mp (low.trans_lt below)
  unfold ratio
  dsimp only
  rw [isLeading, if_neg coefficientPos.ne', if_neg (by omega), if_neg (by omega), value_ratioOf,
    value_eq]

/-- A decimal in the interval of a number is read as the number, with the sign of the decimal. -/
theorem toBinary64_of_holds
    {mantissa : ℕ}
    {exponent : ℤ}
    (canonical : binary64.Canonical mantissa exponent)
    (positive : 0 < mantissa)
    (holds : (RoundingInterval.of mantissa exponent).Holds numeral.value) :
    numeral.toBinary64 = .finite numeral.negative mantissa exponent canonical := by
  obtain ⟨low, high, -⟩ := holds.bounds positive
  obtain ⟨belowLimit, atLeastLowest, atMostHighest, -⟩ := id canonical
  replace belowLimit : mantissa + 1 ≤ 2 ^ 53 := belowLimit
  have mantissaLow : (1 : ℚ) ≤ mantissa := by exact_mod_cast positive
  have mantissaHigh : (mantissa : ℚ) + 1 ≤ 2 ^ 53 := by exact_mod_cast belowLimit
  have unitLow : (2 : ℚ) ^ (-1074 : ℤ) ≤ 2 ^ exponent :=
    zpow_le_zpow_right₀ one_le_two atLeastLowest
  have unitHigh : (2 : ℚ) ^ exponent ≤ 2 ^ (971 : ℤ) :=
    zpow_le_zpow_right₀ one_le_two atMostHighest
  have notTiny : (10 : ℚ) ^ (-330 : ℤ) ≤ numeral.value :=
    calc
      (10 : ℚ) ^ (-330 : ℤ) ≤ 2 ^ (-1075 : ℤ) := ten_zpow_le_two_zpow
      _ = 2 ^ (-1 : ℤ) * 2 ^ (-1074 : ℤ) := zpow_add₀ two_ne_zero (-1) (-1074)
      _ ≤ ((mantissa : ℚ) - 1 / 2) * 2 ^ exponent := by
        refine mul_le_mul ?_ unitLow (two_zpow_pos (-1074)).le (by linarith only [mantissaLow])
        rw [zpow_neg_one]
        linarith only [mantissaLow]
      _ ≤ numeral.value := low
  have notHuge : numeral.value < 10 ^ (310 : ℤ) :=
    calc
      numeral.value ≤ ((mantissa : ℚ) + 1 / 2) * 2 ^ exponent := high
      _ ≤ 2 ^ (53 : ℤ) * 2 ^ (971 : ℤ) := by
        refine mul_le_mul ?_ unitHigh (two_zpow_pos exponent).le (two_zpow_pos 53).le
        rw [zpow_ofNat]
        linarith only [mantissaHigh]
      _ = 2 ^ (1024 : ℤ) := (zpow_add₀ two_ne_zero 53 971).symm
      _ < 10 ^ (310 : ℤ) := two_zpow_lt_ten_zpow
  have exact := value_ratio notTiny notHuge
  rw [toBinary64, Binary64.ofRatio, round_eq_of_holds canonical positive (exact.symm ▸ holds),
    Binary64.ofScaled_of_canonical canonical]

/-- A decimal of zeros is read as the zero with its sign. -/
theorem toBinary64_of_coefficient_eq_zero (isZero : numeral.coefficient = 0) :
    numeral.toBinary64 = .zero numeral.negative := by
  have noRatio : numeral.ratio = ⟨0, 1⟩ := by
    unfold ratio
    dsimp only
    rw [if_pos isZero]
  rw [toBinary64, noRatio]
  rfl

/-- A decimal that is worth as much as the shortest one of a number is read as the number. -/
theorem toBinary64_of_value_eq_shortest
    {tie : Tie}
    {mantissa : ℕ}
    {exponent : ℤ}
    (canonical : binary64.Canonical mantissa exponent)
    (same : numeral.value = (shortest tie mantissa exponent).value) :
    numeral.toBinary64 = .finite numeral.negative mantissa exponent canonical := by
  rcases Nat.eq_zero_or_pos mantissa with rfl | positive
  · have isLowest : exponent = -1074 := by
      obtain ⟨-, -, -, atLeast | isLowest⟩ := canonical
      · exact absurd atLeast (by decide)
      · exact isLowest
    subst isLowest
    have noValue : numeral.value = 0 := same.trans Expansion.value_zero
    have isZero : numeral.coefficient = 0 := by
      simpa [value_eq, zpow_ne_zero] using noValue
    rw [toBinary64_of_coefficient_eq_zero isZero]
    exact Binary64.ofScaled_of_canonical canonical numeral.negative
  · refine toBinary64_of_holds canonical positive ?_
    rw [same]
    exact holds_shortest tie positive canonical.1

end Decimal

end FeatureFlags.Number
