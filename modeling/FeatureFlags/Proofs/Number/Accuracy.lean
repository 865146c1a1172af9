import FeatureFlags.Proofs.Number.Decimals
import Mathlib.Data.Rat.Floor

namespace FeatureFlags.Number

/-!
# Accuracy

What arithmetic on finite numbers that are not negative gives, as rationals: naturals below
`2 ^ 53` are held exactly, a product or a quotient in the normal range is wrong by at most
one part in `2 ^ 53`, and the floor is that of the rational.
-/

/-! ## Rounding errors -/

namespace Ratio

variable {ratio : Ratio}

/-- The nearest natural is at most half a unit away. -/
theorem abs_nearest_sub_le (positive : 0 < ratio.denominator) :
    |(ratio.nearest : ℚ) - ratio.value| ≤ 1 / 2 := by
  obtain ⟨numerator, denominator⟩ := ratio
  simp only at positive
  have positiveRat : (0 : ℚ) < denominator := by exact_mod_cast positive
  have division := Nat.div_add_mod numerator denominator
  have remainderLt := Nat.mod_lt numerator positive
  simp only [nearest, value]
  generalize numerator / denominator = quotient at *
  generalize numerator % denominator = remainder at *
  have shape : (numerator : ℚ) / denominator = quotient + remainder / denominator := by
    rw [← division]
    push_cast
    field_simp
  have notNegative : (0 : ℚ) ≤ remainder / denominator := by positivity
  have lessThanOne : (remainder : ℚ) / denominator < 1 := by
    rw [div_lt_one positiveRat]
    exact_mod_cast remainderLt
  have half (twice : 2 * remainder ≤ denominator) : (remainder : ℚ) / denominator ≤ 1 / 2 := by
    rw [div_le_iff₀ positiveRat]
    have twiceRat : (2 * remainder : ℚ) ≤ denominator := by exact_mod_cast twice
    linarith
  have otherHalf (twice : denominator ≤ 2 * remainder) :
      1 / 2 ≤ (remainder : ℚ) / denominator := by
    rw [le_div_iff₀ positiveRat]
    have twiceRat : (denominator : ℚ) ≤ 2 * remainder := by exact_mod_cast twice
    linarith
  rw [shape, abs_le]
  split
  next below =>
    have atMostHalf := half below.le
    constructor <;> linarith
  next notBelow =>
    have atLeastHalf := otherHalf (not_lt.mp notBelow)
    split
    next above =>
      push_cast
      constructor <;> linarith
    next notAbove =>
      -- A tie: the quotient or the next natural, whichever is even.
      have atMostHalf := half (not_lt.mp notAbove)
      rcases Nat.mod_two_eq_zero_or_one quotient with even | odd
      · rw [even]
        push_cast
        constructor <;> linarith
      · rw [odd]
        push_cast
        constructor <;> linarith

end Ratio

/-- A magnitude that a canonical pair stands for is rounded to that pair. -/
theorem round_eq_of_value_eq
    {ratio : Ratio}
    {mantissa : ℕ}
    {exponent : ℤ}
    (canonical : binary64.Canonical mantissa exponent)
    (positive : 0 < mantissa)
    (exact : ratio.value = mantissa * 2 ^ exponent) :
    binary64.round ratio = (mantissa, exponent) := by
  have unit := two_zpow_pos exponent
  have noDistance : |ratio.value - mantissa * 2 ^ exponent| = 0 := by
    rw [exact, sub_self, abs_zero]
  refine round_eq_of_holds canonical positive
    (RoundingInterval.holds_of_near positive ?_ fun _ => ?_)
  · rw [noDistance]
    linarith
  · rw [noDistance]
    linarith

/-- A natural at most half a unit from what lies between two naturals lies between them. -/
private theorem natural_bounds_of_near
    {n low high : ℕ}
    {value : ℚ}
    (near : |(n : ℚ) - value| ≤ 1 / 2)
    (isLow : (low : ℚ) ≤ value)
    (isHigh : value < high) :
    low ≤ n ∧ n ≤ high := by
  obtain ⟨nearLow, nearHigh⟩ := abs_le.mp near
  constructor
  · by_contra below
    have : (n : ℚ) + 1 ≤ low := by exact_mod_cast not_le.mp below
    linarith
  · by_contra above
    have : (high : ℚ) + 1 ≤ n := by exact_mod_cast not_le.mp above
    linarith

/-- Two rationals that differ by at most one part of the second in `2 ^ 53`. -/
def Near (approximation value : ℚ) : Prop :=
  |approximation - value| ≤ value / 2 ^ 53

/-- The rationals in which no precision is lost, neither near zero nor near infinity. -/
structure InNormalRange (value : ℚ) : Prop where
  low : (2 : ℚ) ^ (-1022 : ℤ) ≤ value
  high : value < 2 ^ (1023 : ℤ)

/-- In the normal range, rounding is wrong by at most one part in `2 ^ 53`. -/
theorem exists_round_eq
    {ratio : Ratio}
    (inRange : InNormalRange ratio.value) :
    ∃ mantissa exponent,
      binary64.round ratio = (mantissa, exponent) ∧
        binary64.Canonical mantissa exponent ∧
        Near (mantissa * 2 ^ exponent) ratio.value := by
  obtain ⟨low, high⟩ := inRange
  have positive : 0 < ratio.value := (two_zpow_pos _).trans_le low
  obtain ⟨binadeLow, binadeHigh⟩ := Ratio.binaryExponent_spec positive
  have notTiny : -1022 < ratio.binaryExponent + 1 :=
    (zpow_lt_zpow_iff_right₀ one_lt_two).mp (low.trans_lt binadeHigh)
  have notHuge : ratio.binaryExponent < 1023 :=
    (zpow_lt_zpow_iff_right₀ one_lt_two).mp (binadeLow.trans_lt high)
  obtain ⟨exponent, isExponent⟩ :
      ∃ exponent, ratio.binaryExponent = exponent + 52 :=
    ⟨ratio.binaryExponent - 52, by ring⟩
  rw [isExponent, zpow_add₀ two_ne_zero, zpow_ofNat] at binadeLow
  rw [isExponent, add_assoc, zpow_add₀ two_ne_zero, show (52 + 1 : ℤ) = 53 by norm_num,
    zpow_ofNat] at binadeHigh
  have unit := two_zpow_pos exponent
  have rounded :=
    round_of_nearest positive (show max (-1074) (ratio.binaryExponent - 52) = exponent by omega) rfl
  have near := Ratio.abs_nearest_sub_le (denominator_inUnits_pos positive exponent)
  rw [Ratio.value_inUnits] at near
  generalize (ratio.inUnits exponent).nearest = nearest at rounded near
  -- Measured in places, the ratio lies in the binade, and so does the nearest natural.
  obtain ⟨nearestLow, nearestHigh⟩ : 2 ^ 52 ≤ nearest ∧ nearest ≤ 2 ^ 53 := by
    refine natural_bounds_of_near near ?_ ?_
    · rw [le_div_iff₀ unit]
      push_cast
      linarith
    · rw [div_lt_iff₀ unit]
      push_cast
      linarith
  have error : Near (nearest * 2 ^ exponent) ratio.value := by
    have scaled :
        (nearest : ℚ) * 2 ^ exponent - ratio.value =
          (nearest - ratio.value / 2 ^ exponent) * 2 ^ exponent := by
      field_simp
    calc
      |(nearest : ℚ) * 2 ^ exponent - ratio.value|
        = |(nearest : ℚ) - ratio.value / 2 ^ exponent| * 2 ^ exponent := by
          rw [scaled, abs_mul, abs_of_pos unit]
      _ ≤ 1 / 2 * 2 ^ exponent := by gcongr
      _ = 2 ^ exponent * 2 ^ 52 / 2 ^ 53 := by ring
      _ ≤ ratio.value / 2 ^ 53 := by gcongr
  by_cases carry : nearest = 2 ^ 53
  · -- The next binade begins: its lowest mantissa with the next exponent is the same number.
    have same : ((2 ^ 52 : ℕ) : ℚ) * 2 ^ (exponent + 1) = (nearest : ℚ) * 2 ^ exponent := by
      rw [carry, zpow_add_one₀ two_ne_zero]
      push_cast
      ring
    rw [if_pos carry] at rounded
    refine ⟨2 ^ 52, exponent + 1, rounded, ⟨by decide, ?_, ?_, .inl le_rfl⟩, by rwa [same]⟩
    · change -1074 ≤ exponent + 1
      omega
    · change exponent + 1 ≤ 971
      omega
  · rw [if_neg carry] at rounded
    refine ⟨nearest, exponent, rounded, ⟨?_, ?_, ?_, .inl nearestLow⟩, error⟩
    · exact lt_of_le_of_ne nearestHigh carry
    · change -1074 ≤ exponent
      omega
    · change exponent ≤ 971
      omega

/-! ## Represented rationals -/

namespace Binary64

/-- A finite number without a negative sign, and the rational that it stands for. -/
def Represents
    (number : Binary64)
    (value : ℚ) :
    Prop :=
  ∃ mantissa exponent canonical,
    number = .finite false mantissa exponent canonical ∧ value = mantissa * 2 ^ exponent

theorem cast_unitsPerOne : ((unitsPerOne : ℕ) : ℚ) = 2 ^ (1074 : ℤ) := by
  rw [unitsPerOne, cast_twoTo, zpow_ofNat]

theorem cast_magnitude
    (mantissa : ℕ)
    {exponent : ℤ}
    (atLeastLowest : -1074 ≤ exponent) :
    ((magnitude mantissa exponent : ℕ) : ℚ) = mantissa * 2 ^ exponent * 2 ^ (1074 : ℤ) := by
  have places : ((exponent - binary64.lowest).toNat : ℤ) = exponent + 1074 := by
    change ((exponent - -1074).toNat : ℤ) = exponent + 1074
    omega
  rw [magnitude, Nat.cast_mul, cast_twoTo, ← zpow_natCast, places, zpow_add₀ two_ne_zero,
    mul_assoc]

namespace Represents

variable
  {number : Binary64}
  {value : ℚ}

theorem nonneg (represents : number.Represents value) : 0 ≤ value := by
  obtain ⟨mantissa, exponent, -, -, rfl⟩ := represents
  positivity

/-- Counted in smallest positive numbers, a number is its rational times their count in one. -/
theorem units_eq (represents : number.Represents value) :
    ∃ units : ℕ, number.units = units ∧ (units : ℚ) = value * 2 ^ (1074 : ℤ) := by
  obtain ⟨mantissa, exponent, canonical, rfl, rfl⟩ := represents
  exact ⟨magnitude mantissa exponent, rfl, cast_magnitude mantissa canonical.2.1⟩

theorem natAbs_units (represents : number.Represents value) :
    ((number.units.natAbs : ℕ) : ℚ) = value * 2 ^ (1074 : ℤ) := by
  obtain ⟨units, isUnits, isValue⟩ := represents.units_eq
  rw [isUnits, Int.natAbs_natCast, isValue]

/-- The floor of a number is that of its rational. -/
theorem floor_eq (represents : number.Represents value) :
    number.floor = ⌊value⌋ := by
  obtain ⟨units, isUnits, isValue⟩ := represents.units_eq
  have quotient : value = ((units : ℤ) : ℚ) / (unitsPerOne : ℕ) := by
    rw [cast_unitsPerOne, Int.cast_natCast, isValue,
      mul_div_cancel_right₀ _ (two_zpow_pos 1074).ne']
  rw [Binary64.floor, isUnits, quotient, Rat.floor_intCast_div_natCast]

end Represents

/-- A ratio in the normal range becomes a number that is near to it. -/
theorem exists_ofRatio
    {ratio : Ratio}
    (inRange : InNormalRange ratio.value) :
    ∃ approximation,
      (ofRatio false ratio).Represents approximation ∧ Near approximation ratio.value := by
  obtain ⟨mantissa, exponent, rounded, canonical, error⟩ :=
    exists_round_eq inRange
  refine ⟨mantissa * 2 ^ exponent, ⟨mantissa, exponent, canonical, ?_, rfl⟩, error⟩
  rw [ofRatio, rounded, ofScaled_of_canonical canonical]

section Arithmetic

variable
  {left right : Binary64}
  {leftValue rightValue : ℚ}

/-- A product is the exact one, rounded once. -/
theorem Represents.exists_mul_eq
    (isLeft : left.Represents leftValue)
    (isRight : right.Represents rightValue) :
    ∃ ratio : Ratio,
      left.mul right = ofRatio false ratio ∧
        0 < ratio.denominator ∧ ratio.value = leftValue * rightValue := by
  refine
    ⟨⟨left.units.natAbs * right.units.natAbs, unitsPerOne * unitsPerOne⟩, ?_,
      Nat.mul_pos (twoTo_pos 1074) (twoTo_pos 1074), ?_⟩
  · obtain ⟨mantissa, exponent, canonical, rfl, -⟩ := isLeft
    obtain ⟨otherMantissa, otherExponent, otherCanonical, rfl, -⟩ := isRight
    rfl
  · have unit := two_zpow_pos 1074
    rw [Ratio.value, Nat.cast_mul, Nat.cast_mul, isLeft.natAbs_units, isRight.natAbs_units,
      cast_unitsPerOne]
    field_simp

/-- A quotient is the exact one, rounded once. -/
theorem Represents.exists_div_eq
    (isLeft : left.Represents leftValue)
    (isRight : right.Represents rightValue)
    (notZero : rightValue ≠ 0) :
    ∃ ratio : Ratio,
      left.div right = ofRatio false ratio ∧
        0 < ratio.denominator ∧ ratio.value = leftValue / rightValue := by
  have unit := two_zpow_pos 1074
  refine ⟨⟨left.units.natAbs, right.units.natAbs⟩, ?_, ?_, ?_⟩
  · obtain ⟨mantissa, exponent, canonical, rfl, -⟩ := isLeft
    obtain ⟨otherMantissa, otherExponent, otherCanonical, rfl, isRightValue⟩ := isRight
    have mantissaNotZero : otherMantissa ≠ 0 := by
      rintro rfl
      exact notZero (by rw [isRightValue, Nat.cast_zero, zero_mul])
    simp only [div, isZero, beq_iff_eq, mantissaNotZero, if_false]
    rfl
  · have unitsNotZero : ((right.units.natAbs : ℕ) : ℚ) ≠ 0 := by
      rw [isRight.natAbs_units]
      exact mul_ne_zero notZero unit.ne'
    exact Nat.pos_of_ne_zero (Nat.cast_ne_zero.mp unitsNotZero)
  · rw [Ratio.value, isLeft.natAbs_units, isRight.natAbs_units,
      mul_div_mul_right _ _ unit.ne']

/-- A product in the normal range is near to the product of the rationals. -/
theorem exists_mul
    (isLeft : left.Represents leftValue)
    (isRight : right.Represents rightValue)
    (inRange : InNormalRange (leftValue * rightValue)) :
    ∃ approximation,
      (left.mul right).Represents approximation ∧
        Near approximation (leftValue * rightValue) := by
  obtain ⟨ratio, isRounded, -, exact⟩ := isLeft.exists_mul_eq isRight
  rw [← exact] at inRange ⊢
  rw [isRounded]
  exact exists_ofRatio inRange

/-- A quotient in the normal range is near to the quotient of the rationals. -/
theorem exists_div
    (isLeft : left.Represents leftValue)
    (isRight : right.Represents rightValue)
    (inRange : InNormalRange (leftValue / rightValue)) :
    ∃ approximation,
      (left.div right).Represents approximation ∧
        Near approximation (leftValue / rightValue) := by
  have notZero : rightValue ≠ 0 := by
    rintro rfl
    rw [div_zero] at inRange
    exact absurd inRange.low (not_le.mpr (two_zpow_pos _))
  obtain ⟨ratio, isRounded, -, exact⟩ := isLeft.exists_div_eq isRight notZero
  rw [← exact] at inRange ⊢
  rw [isRounded]
  exact exists_ofRatio inRange

end Arithmetic

/-- A natural below `2 ^ 53` is held exactly. -/
theorem represents_ofNat
    {n : ℕ}
    (small : n < 2 ^ 53) :
    (ofNat n).Represents n := by
  rcases Nat.eq_zero_or_pos n with rfl | positive
  · exact ⟨0, -1074, by decide, rfl, by simp⟩
  · have log : n.log2 < 53 := (Nat.log2_lt positive.ne').mpr small
    have shift : 2 ^ n.log2 * 2 ^ (52 - n.log2) = 2 ^ 52 := by
      rw [← pow_add, Nat.add_sub_cancel' (by omega)]
    have canonical : binary64.Canonical (n * 2 ^ (52 - n.log2)) ((n.log2 : ℤ) - 52) := by
      refine ⟨?_, ?_, ?_, .inl ?_⟩
      · change n * 2 ^ (52 - n.log2) < 2 ^ 53
        calc
          n * 2 ^ (52 - n.log2) < 2 ^ (n.log2 + 1) * 2 ^ (52 - n.log2) := by
            gcongr
            exact Nat.lt_log2_self
          _ = 2 ^ 53 := by rw [pow_succ, mul_right_comm, shift, ← pow_succ]
      · change (-1074 : ℤ) ≤ n.log2 - 52
        omega
      · change (n.log2 : ℤ) - 52 ≤ 971
        omega
      · change 2 ^ 52 ≤ n * 2 ^ (52 - n.log2)
        rw [← shift]
        gcongr
        exact Nat.log2_self_le positive.ne'
    have exact : (n : ℚ) = (n * 2 ^ (52 - n.log2) : ℕ) * 2 ^ ((n.log2 : ℤ) - 52) := by
      have places : (n.log2 : ℤ) - 52 = -((52 - n.log2 : ℕ) : ℤ) := by omega
      rw [places, zpow_neg, zpow_natCast, Nat.cast_mul, Nat.cast_pow, Nat.cast_ofNat,
        mul_inv_cancel_right₀ (by positivity)]
    refine ⟨_, _, canonical, ?_, exact⟩
    have value : Ratio.value ⟨n, 1⟩ = (n * 2 ^ (52 - n.log2) : ℕ) * 2 ^ ((n.log2 : ℤ) - 52) := by
      rw [← exact, Ratio.value, Nat.cast_one, div_one]
    rw [ofNat, ofRatio, round_eq_of_value_eq canonical (by positivity) value,
      ofScaled_of_canonical canonical]

end Binary64

end FeatureFlags.Number
