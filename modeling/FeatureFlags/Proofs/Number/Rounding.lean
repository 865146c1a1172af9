import FeatureFlags.Number.Shortest
import Mathlib.Algebra.Order.Field.Power
import Mathlib.Algebra.Order.Ring.Rat
import Mathlib.Data.Rat.Cast.Order
import Mathlib.Tactic.FieldSimp
import Mathlib.Tactic.Linarith
import Mathlib.Tactic.NormNum
import Mathlib.Tactic.Positivity
import Mathlib.Tactic.Ring

namespace FeatureFlags.Number

/-!
# Rounding to the nearest number

Rounding is computed on pairs of naturals. Here the pairs are taken as rationals, and the
rounding of a rational is found: every number of the format has an interval of magnitudes
around it, and whatever lies in the interval is rounded to the number.
-/

/-! ## Powers -/

/-- An integer power is a quotient of two natural ones, one of which is one. -/
theorem zpow_eq_div
    {base : ℚ}
    (notZero : base ≠ 0)
    (exponent : ℤ) :
    base ^ exponent = base ^ exponent.toNat / base ^ (-exponent).toNat := by
  have split : exponent = (exponent.toNat : ℤ) - ((-exponent).toNat : ℤ) := by omega
  conv_lhs => rw [split, zpow_sub₀ notZero, zpow_natCast, zpow_natCast]

@[simp] theorem cast_twoTo (exponent : ℕ) : ((twoTo exponent : ℕ) : ℚ) = 2 ^ exponent := by
  simp [twoTo]

@[simp] theorem cast_tenTo (exponent : ℕ) : ((tenTo exponent : ℕ) : ℚ) = 10 ^ exponent := by
  simp [tenTo]

theorem two_zpow_pos (exponent : ℤ) : (0 : ℚ) < 2 ^ exponent :=
  zpow_pos (by norm_num) exponent

namespace Ratio

/-! ## Ratios as rationals -/

/-- The rational that a ratio stands for. -/
def value (ratio : Ratio) : ℚ :=
  ratio.numerator / ratio.denominator

variable {ratio : Ratio}

theorem numerator_pos_of_value_pos (positive : 0 < ratio.value) : 0 < ratio.numerator := by
  rcases Nat.eq_zero_or_pos ratio.numerator with zero | positiveNumerator
  · simp [value, zero] at positive
  · exact positiveNumerator

theorem denominator_pos_of_value_pos (positive : 0 < ratio.value) : 0 < ratio.denominator := by
  rcases Nat.eq_zero_or_pos ratio.denominator with zero | positiveDenominator
  · simp [value, zero] at positive
  · exact positiveDenominator

/-- Measured in units, a ratio is divided by the unit. -/
theorem value_inUnits
    (ratio : Ratio)
    (exponent : ℤ) :
    (ratio.inUnits exponent).value = ratio.value / 2 ^ exponent := by
  rw [zpow_eq_div two_ne_zero]
  unfold inUnits
  split
  next positive =>
    have noNegative : (-exponent).toNat = 0 := by omega
    simp [value, noNegative, div_mul_eq_div_div]
  next negative =>
    have noPositive : exponent.toNat = 0 := by omega
    simp [value, noPositive, div_eq_mul_inv, mul_right_comm]

/-- The binary exponent of a positive ratio is that of the power of two below it. -/
theorem binaryExponent_spec (positive : 0 < ratio.value) :
    (2 : ℚ) ^ ratio.binaryExponent ≤ ratio.value ∧
      ratio.value < 2 ^ (ratio.binaryExponent + 1) := by
  have numeratorPos := numerator_pos_of_value_pos positive
  have denominatorPos := denominator_pos_of_value_pos positive
  have denominatorPosRat : (0 : ℚ) < ratio.denominator := by exact_mod_cast denominatorPos
  set guess : ℤ := (ratio.numerator.log2 : ℤ) - ratio.denominator.log2 with isGuess
  have bounds (n : ℕ) (isPositive : 0 < n) :
      (2 : ℚ) ^ (n.log2 : ℤ) ≤ n ∧ (n : ℚ) < 2 ^ ((n.log2 : ℤ) + 1) := by
    have below := Nat.log2_self_le isPositive.ne'
    have above := Nat.lt_log2_self (n := n)
    exact ⟨by exact_mod_cast below, by exact_mod_cast above⟩
  obtain ⟨numeratorLow, numeratorHigh⟩ := bounds _ numeratorPos
  obtain ⟨denominatorLow, denominatorHigh⟩ := bounds _ denominatorPos
  have belowNext : ratio.value < 2 ^ (guess + 1) := by
    rw [value, div_lt_iff₀ denominatorPosRat]
    calc
      (ratio.numerator : ℚ) < 2 ^ ((ratio.numerator.log2 : ℤ) + 1) := numeratorHigh
      _ = 2 ^ (guess + 1) * 2 ^ (ratio.denominator.log2 : ℤ) := by
        rw [← zpow_add₀ two_ne_zero]
        congr 1
        omega
      _ ≤ 2 ^ (guess + 1) * ratio.denominator := by gcongr
  have aboveLast : (2 : ℚ) ^ (guess - 1) < ratio.value := by
    rw [value, lt_div_iff₀ denominatorPosRat]
    calc
      (2 : ℚ) ^ (guess - 1) * ratio.denominator
        < 2 ^ (guess - 1) * 2 ^ ((ratio.denominator.log2 : ℤ) + 1) := by gcongr
      _ = 2 ^ (ratio.numerator.log2 : ℤ) := by
        rw [← zpow_add₀ two_ne_zero]
        congr 1
        omega
      _ ≤ ratio.numerator := numeratorLow
  have scaledPos : 0 < (ratio.inUnits guess).value := by
    rw [value_inUnits]
    exact div_pos positive (two_zpow_pos guess)
  have atLeastOne :
      (ratio.inUnits guess).denominator ≤ (ratio.inUnits guess).numerator ↔
        (2 : ℚ) ^ guess ≤ ratio.value := by
    have scaledDenominatorPos : (0 : ℚ) < (ratio.inUnits guess).denominator := by
      exact_mod_cast denominator_pos_of_value_pos scaledPos
    rw [← one_mul ((2 : ℚ) ^ guess), ← le_div_iff₀ (two_zpow_pos guess), ← value_inUnits, value,
      le_div_iff₀ scaledDenominatorPos, one_mul, Nat.cast_le]
  unfold binaryExponent
  dsimp only
  rw [← isGuess]
  split
  next isAtLeast =>
    exact ⟨atLeastOne.mp isAtLeast, belowNext⟩
  next isLess =>
    rw [sub_add_cancel]
    exact ⟨aboveLast.le, not_le.mp (isLess ∘ atLeastOne.mpr)⟩

/-- A ratio between two neighbouring powers of two has the exponent of the lower one. -/
theorem binaryExponent_eq
    {exponent : ℤ}
    (low : (2 : ℚ) ^ exponent ≤ ratio.value)
    (high : ratio.value < 2 ^ (exponent + 1)) :
    ratio.binaryExponent = exponent := by
  have positive : 0 < ratio.value := (two_zpow_pos exponent).trans_le low
  obtain ⟨ownLow, ownHigh⟩ := binaryExponent_spec positive
  have notAbove : ratio.binaryExponent < exponent + 1 :=
    (zpow_lt_zpow_iff_right₀ one_lt_two).mp (ownLow.trans_lt high)
  have notBelow : exponent < ratio.binaryExponent + 1 :=
    (zpow_lt_zpow_iff_right₀ one_lt_two).mp (low.trans_lt ownHigh)
  omega

/-- A ratio below a power of two has a lower exponent. -/
theorem binaryExponent_lt
    {exponent : ℤ}
    (positive : 0 < ratio.value)
    (high : ratio.value < 2 ^ exponent) :
    ratio.binaryExponent < exponent :=
  (zpow_lt_zpow_iff_right₀ one_lt_two).mp ((binaryExponent_spec positive).1.trans_lt high)

/-- The nearest natural is the one that is at most half a unit away, the even one of two. -/
theorem nearest_eq
    (positive : 0 < ratio.denominator)
    {n : ℕ}
    (low : (n : ℚ) - 1 / 2 ≤ ratio.value)
    (high : ratio.value ≤ n + 1 / 2)
    (odd : n % 2 = 1 → (n : ℚ) - 1 / 2 ≠ ratio.value ∧ ratio.value ≠ n + 1 / 2) :
    ratio.nearest = n := by
  obtain ⟨numerator, denominator⟩ := ratio
  simp only [value] at low high odd positive
  have positiveRat : (0 : ℚ) < denominator := by exact_mod_cast positive
  -- The bounds, multiplied by twice the denominator.
  have lowNat : 2 * n * denominator ≤ 2 * numerator + denominator := by
    have scaled := (le_div_iff₀ positiveRat).mp low
    have : (2 * n * denominator : ℚ) ≤ 2 * numerator + denominator := by linarith
    exact_mod_cast this
  have highNat : 2 * numerator ≤ 2 * n * denominator + denominator := by
    have scaled := (div_le_iff₀ positiveRat).mp high
    have : (2 * numerator : ℚ) ≤ 2 * n * denominator + denominator := by linarith
    exact_mod_cast this
  have oddNat : n % 2 = 1 →
      2 * n * denominator ≠ 2 * numerator + denominator ∧
        2 * numerator ≠ 2 * n * denominator + denominator := by
    intro isOdd
    obtain ⟨notLow, notHigh⟩ := odd isOdd
    constructor
    · intro tie
      have tieRat : (2 * n * denominator : ℚ) = 2 * numerator + denominator := by
        exact_mod_cast tie
      exact notLow ((eq_div_iff positiveRat.ne').mpr (by linarith))
    · intro tie
      have tieRat : (2 * numerator : ℚ) = 2 * n * denominator + denominator := by
        exact_mod_cast tie
      exact notHigh ((div_eq_iff positiveRat.ne').mpr (by linarith))
  have division := Nat.div_add_mod numerator denominator
  have remainderLt := Nat.mod_lt numerator positive
  simp only [nearest]
  generalize numerator / denominator = quotient at *
  generalize numerator % denominator = remainder at *
  subst numerator
  -- The natural is the quotient or the next one.
  have notAbove : n ≤ quotient + 1 := by
    by_contra above
    have : (quotient + 2) * denominator ≤ n * denominator :=
      Nat.mul_le_mul_right _ (by omega)
    nlinarith
  have notBelow : quotient ≤ n := by
    by_contra below
    have : (n + 1) * denominator ≤ quotient * denominator :=
      Nat.mul_le_mul_right _ (by omega)
    nlinarith
  rcases Nat.eq_or_lt_of_le notBelow with rfl | above
  · have atMostHalf : 2 * remainder ≤ denominator := by nlinarith
    rcases Nat.lt_or_eq_of_le atMostHalf with isLess | isTie
    · rw [if_pos isLess]
    · have even : quotient % 2 = 0 := by
        by_contra isOdd
        exact (oddNat (by omega)).2 (by rw [← isTie]; ring)
      rw [if_neg (by omega), if_neg (by omega), even, Nat.add_zero]
  · obtain rfl : n = quotient + 1 := by omega
    have atLeastHalf : denominator ≤ 2 * remainder := by nlinarith
    rcases Nat.lt_or_eq_of_le atLeastHalf with isMore | isTie
    · rw [if_neg (by omega), if_pos isMore]
    · have even : (quotient + 1) % 2 = 0 := by
        by_contra isOdd
        exact (oddNat (by omega)).1 (by rw [isTie]; ring)
      rw [if_neg (by omega), if_neg (by omega)]
      omega

end Ratio

/-! ## Intervals -/

/-- Whether a magnitude lies in an interval, the ends of which count if it is closed. -/
structure RoundingInterval.Holds
    (interval : RoundingInterval)
    (value : ℚ) :
    Prop where
  low_le :
    interval.low * 2 ^ interval.exponent ≤ value
  le_high :
    value ≤ interval.high * 2 ^ interval.exponent
  inside :
    interval.closed = false →
      interval.low * 2 ^ interval.exponent ≠ value ∧ value ≠ interval.high * 2 ^ interval.exponent

section Rounds

variable
  {mantissa : ℕ}
  {exponent : ℤ}
  {value : ℚ}

/-- A place is four quarters. -/
theorem mul_quarter
    (factor : ℚ)
    (exponent : ℤ) :
    4 * factor * 2 ^ (exponent - 2) = factor * 2 ^ exponent := by
  rw [zpow_sub₀ two_ne_zero]
  norm_num
  ring

/-- The low end is half a place below, or a quarter below the lowest mantissa of all but the lowest places. -/
theorem RoundingInterval.low_of
    (mantissa : ℕ)
    (exponent : ℤ) :
    (RoundingInterval.of mantissa exponent).low =
      if mantissa = 2 ^ 52 ∧ exponent ≠ -1074 then 4 * mantissa - 1 else 4 * mantissa - 2 :=
  rfl

/-- An end that does not count belongs to an odd mantissa. -/
theorem RoundingInterval.closed_of_odd
    (odd : mantissa % 2 = 1) :
    (RoundingInterval.of mantissa exponent).closed = false := by
  simp [RoundingInterval.of, odd]

/-- What lies in the interval of a mantissa is at most half a place away from it. -/
theorem RoundingInterval.Holds.bounds
    (positive : 0 < mantissa)
    (holds : (RoundingInterval.of mantissa exponent).Holds value) :
    ((mantissa : ℚ) - 1 / 2) * 2 ^ exponent ≤ value ∧
      value ≤ ((mantissa : ℚ) + 1 / 2) * 2 ^ exponent ∧
      (mantissa % 2 = 1 →
        ((mantissa : ℚ) - 1 / 2) * 2 ^ exponent ≠ value ∧
          value ≠ ((mantissa : ℚ) + 1 / 2) * 2 ^ exponent) := by
  have unit := two_zpow_pos (exponent - 2)
  have high :
      (RoundingInterval.of mantissa exponent).high *
          2 ^ (RoundingInterval.of mantissa exponent).exponent =
        ((mantissa : ℚ) + 1 / 2) * 2 ^ exponent := by
    refine Eq.trans ?_ (mul_quarter _ exponent)
    simp only [RoundingInterval.of]
    push_cast
    ring
  -- The end itself may be a quarter nearer.
  have low :
      ((mantissa : ℚ) - 1 / 2) * 2 ^ exponent ≤
          (RoundingInterval.of mantissa exponent).low *
            2 ^ (RoundingInterval.of mantissa exponent).exponent := by
    have atLeast : 4 * mantissa - 2 ≤ (RoundingInterval.of mantissa exponent).low := by
      rw [RoundingInterval.low_of]
      split <;> omega
    have atLeastRat :
        4 * ((mantissa : ℚ) - 1 / 2) ≤ (RoundingInterval.of mantissa exponent).low := by
      have cast : ((4 * mantissa - 2 : ℕ) : ℚ) = 4 * ((mantissa : ℚ) - 1 / 2) := by
        rw [Nat.cast_sub (by omega)]
        push_cast
        ring
      rw [← cast]
      exact_mod_cast atLeast
    exact (mul_quarter _ exponent).symm.trans_le (mul_le_mul_of_nonneg_right atLeastRat unit.le)
  refine ⟨low.trans holds.low_le, holds.le_high.trans_eq high, ?_⟩
  intro odd
  obtain ⟨notLow, notHigh⟩ := holds.inside (RoundingInterval.closed_of_odd odd)
  rw [high] at notHigh
  exact ⟨(low.trans_lt (lt_of_le_of_ne holds.low_le notLow)).ne, notHigh⟩

/-- Measured in places, what lies in the interval is nearest to the mantissa. -/
theorem nearest_inUnits
    {ratio : Ratio}
    (positive : 0 < mantissa)
    (holds : (RoundingInterval.of mantissa exponent).Holds ratio.value)
    (denominatorPos : 0 < (ratio.inUnits exponent).denominator) :
    (ratio.inUnits exponent).nearest = mantissa := by
  obtain ⟨low, high, odd⟩ := holds.bounds positive
  have unit := two_zpow_pos exponent
  refine Ratio.nearest_eq denominatorPos ?_ ?_ ?_
  · rw [Ratio.value_inUnits]
    exact (le_div_iff₀ unit).mpr low
  · rw [Ratio.value_inUnits]
    exact (div_le_iff₀ unit).mpr high
  · intro isOdd
    obtain ⟨notLow, notHigh⟩ := odd isOdd
    rw [Ratio.value_inUnits]
    exact ⟨fun same => notLow ((eq_div_iff unit.ne').mp same),
      fun same => notHigh ((div_eq_iff unit.ne').mp same)⟩

/-- A ratio is rounded to the natural that is nearest in places of its own exponent. -/
theorem round_of_nearest
    {ratio : Ratio}
    (positive : 0 < ratio.value)
    (place : max (-1074) (ratio.binaryExponent - 52) = exponent)
    (nearest : (ratio.inUnits exponent).nearest = mantissa) :
    binary64.round ratio =
      if mantissa = 2 ^ 53 then (2 ^ 52, exponent + 1) else (mantissa, exponent) := by
  have numeratorPos := Ratio.numerator_pos_of_value_pos positive
  subst place nearest
  rw [BinaryFormat.round, if_neg numeratorPos.ne']
  rfl

theorem denominator_inUnits_pos
    {ratio : Ratio}
    (positive : 0 < ratio.value)
    (exponent : ℤ) :
    0 < (ratio.inUnits exponent).denominator := by
  refine Ratio.denominator_pos_of_value_pos ?_
  rw [Ratio.value_inUnits]
  exact div_pos positive (two_zpow_pos exponent)

/-- What is a half place or less below the lowest mantissa is measured in places half as long. -/
theorem round_below_binade
    {ratio : Ratio}
    (notLowest : -1074 < exponent)
    (low : ((2 : ℚ) ^ 54 - 1) * 2 ^ (exponent - 2) ≤ ratio.value)
    (high : ratio.value < 2 ^ (exponent + 52)) :
    binary64.round ratio = (2 ^ 52, exponent) := by
  have unit := two_zpow_pos (exponent - 1)
  have halfPlace : (2 : ℚ) ^ (exponent - 2) = 2 ^ (exponent - 1) * (1 / 2) := by
    rw [show exponent - 2 = exponent - 1 + -1 by ring, zpow_add₀ two_ne_zero]
    norm_num
  have binade : (2 : ℚ) ^ (exponent + 52) = 2 ^ (exponent - 1) * 2 ^ 53 := by
    rw [show exponent + 52 = exponent - 1 + 53 by ring, zpow_add₀ two_ne_zero]
    norm_num
  have lastBinade : (2 : ℚ) ^ (exponent + 51) = 2 ^ (exponent - 1) * 2 ^ 52 := by
    rw [show exponent + 51 = exponent - 1 + 52 by ring, zpow_add₀ two_ne_zero]
    norm_num
  rw [halfPlace] at low
  have aboveLast : (2 : ℚ) ^ (exponent + 51) ≤ ratio.value := by
    rw [lastBinade]
    nlinarith
  have positive : 0 < ratio.value := (two_zpow_pos _).trans_le aboveLast
  have ownExponent : ratio.binaryExponent = exponent + 51 :=
    Ratio.binaryExponent_eq aboveLast (by rw [show exponent + 51 + 1 = exponent + 52 by ring]; exact high)
  have nearest : (ratio.inUnits (exponent - 1)).nearest = 2 ^ 53 := by
    refine Ratio.nearest_eq (denominator_inUnits_pos positive _) ?_ ?_ (by norm_num)
    · rw [Ratio.value_inUnits, le_div_iff₀ unit]
      push_cast
      nlinarith
    · rw [Ratio.value_inUnits, div_le_iff₀ unit]
      push_cast
      nlinarith
  rw [round_of_nearest positive (by omega) nearest, if_pos rfl, sub_add_cancel]

/-- Whatever lies in the interval of a number of the format is rounded to that number. -/
theorem round_eq_of_holds
    {ratio : Ratio}
    (canonical : binary64.Canonical mantissa exponent)
    (mantissaPos : 0 < mantissa)
    (holds : (RoundingInterval.of mantissa exponent).Holds ratio.value) :
    binary64.round ratio = (mantissa, exponent) := by
  obtain ⟨belowLimit, atLeastLowest, -, isNormal⟩ := canonical
  replace belowLimit : mantissa < 2 ^ 53 := belowLimit
  replace atLeastLowest : -1074 ≤ exponent := atLeastLowest
  replace isNormal : 2 ^ 52 ≤ mantissa ∨ exponent = -1074 := isNormal
  have unit := two_zpow_pos exponent
  obtain ⟨low, high, -⟩ := holds.bounds mantissaPos
  have mantissaLow : (1 : ℚ) ≤ mantissa := by exact_mod_cast mantissaPos
  have mantissaHigh : (mantissa : ℚ) ≤ 2 ^ 53 - 1 := by
    have atMost : mantissa + 1 ≤ 2 ^ 53 := belowLimit
    have atMostRat : (mantissa : ℚ) + 1 ≤ 2 ^ 53 := by exact_mod_cast atMost
    linarith
  have positive : 0 < ratio.value := by nlinarith
  have belowNext : ratio.value < 2 ^ (exponent + 53) := by
    have shape : (2 : ℚ) ^ (exponent + 53) = 2 ^ exponent * 2 ^ 53 := by
      rw [zpow_add₀ two_ne_zero]
      norm_num
    rw [shape]
    nlinarith
  have nearest := nearest_inUnits mantissaPos holds (denominator_inUnits_pos positive exponent)
  have inPlace (place : max (-1074) (ratio.binaryExponent - 52) = exponent) :
      binary64.round ratio = (mantissa, exponent) := by
    rw [round_of_nearest positive place nearest, if_neg belowLimit.ne]
  by_cases inBinade : (2 : ℚ) ^ (exponent + 52) ≤ ratio.value
  · have ownExponent : ratio.binaryExponent = exponent + 52 :=
      Ratio.binaryExponent_eq inBinade
        (by rw [show exponent + 52 + 1 = exponent + 53 by ring]; exact belowNext)
    exact inPlace (by omega)
  · have belowBinade := not_le.mp inBinade
    have ownExponent := Ratio.binaryExponent_lt positive belowBinade
    by_cases isLowest : exponent = -1074
    · exact inPlace (by omega)
    · -- Only the interval of the lowest mantissa reaches below the binade.
      have normal := isNormal.resolve_right isLowest
      have shape : (2 : ℚ) ^ (exponent + 52) = 2 ^ exponent * 2 ^ 52 := by
        rw [zpow_add₀ two_ne_zero]
        norm_num
      have isLowestMantissa : mantissa = 2 ^ 52 := by
        by_contra other
        have above : (2 ^ 52 + 1 : ℚ) ≤ mantissa := by
          have atLeast : 2 ^ 52 + 1 ≤ mantissa := by omega
          exact_mod_cast atLeast
        rw [shape] at belowBinade
        nlinarith
      subst isLowestMantissa
      refine round_below_binade (by omega) ?_ belowBinade
      have lowEnd := holds.low_le
      rw [RoundingInterval.low_of, if_pos ⟨rfl, isLowest⟩] at lowEnd
      norm_num [RoundingInterval.of] at lowEnd ⊢
      exact lowEnd

end Rounds

end FeatureFlags.Number
