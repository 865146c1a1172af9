import FeatureFlags.Proofs.Number.Digits
import FeatureFlags.Proofs.Number.Rounding
import Mathlib.Data.List.TakeWhile

namespace FeatureFlags.Number

/-!
# Shortest decimals lie in the interval

The search for a short decimal stops at a grid point that lies in the interval of the
number, or else on the grid of seventeen digits, whose step is so small that the point
nearest to the number is in its interval too. So the decimal that is found is rounded to
the number.
-/

namespace RoundingInterval

variable
  {interval : RoundingInterval}
  {grid : ℤ}

/-! ## Grid points as rationals -/

/-- The length in which grid steps and quarter places are both counted. -/
def sharedUnit
    (interval : RoundingInterval)
    (grid : ℤ) :
    ℚ :=
  2 ^ interval.exponent / interval.quarterStep grid

theorem quarterStep_pos
    (interval : RoundingInterval)
    (grid : ℤ) :
    0 < interval.quarterStep grid :=
  Nat.mul_pos (twoTo_pos _) (tenTo_pos _)

theorem gridStep_pos
    (interval : RoundingInterval)
    (grid : ℤ) :
    0 < interval.gridStep grid :=
  Nat.mul_pos (tenTo_pos _) (twoTo_pos _)

theorem sharedUnit_pos
    (interval : RoundingInterval)
    (grid : ℤ) :
    0 < interval.sharedUnit grid :=
  div_pos (two_zpow_pos _) (by exact_mod_cast interval.quarterStep_pos grid)

/-- Quarter places, counted in the shared unit. -/
theorem quarters_eq
    (interval : RoundingInterval)
    (grid : ℤ)
    (count : ℕ) :
    (count : ℚ) * 2 ^ interval.exponent =
      (count * interval.quarterStep grid : ℕ) * interval.sharedUnit grid := by
  have stepPos : (0 : ℚ) < interval.quarterStep grid := by
    exact_mod_cast interval.quarterStep_pos grid
  rw [sharedUnit]
  push_cast
  field_simp

/-- A grid point, counted in the shared unit. -/
theorem point_eq
    (interval : RoundingInterval)
    (grid : ℤ)
    (point : ℕ) :
    (point : ℚ) * 10 ^ grid =
      (point * interval.gridStep grid : ℕ) * interval.sharedUnit grid := by
  have ten : (10 : ℚ) ≠ 0 := by norm_num
  rw [sharedUnit, gridStep, quarterStep, zpow_eq_div ten, zpow_eq_div two_ne_zero]
  push_cast
  simp only [cast_tenTo, cast_twoTo]
  field_simp

/-- What is strictly between the ends lies in the interval, whether or not they count. -/
theorem holds_of_inside
    {value : ℚ}
    (above : interval.low * 2 ^ interval.exponent < value)
    (below : value < interval.high * 2 ^ interval.exponent) :
    interval.Holds value :=
  ⟨above.le, below.le, fun _ => ⟨above.ne, below.ne⟩⟩

/-- A grid point that is found to lie in the interval does. -/
theorem holds_of_contains
    {point : ℕ}
    (contains : interval.contains grid point = true) :
    interval.Holds (point * 10 ^ grid) := by
  have unit := interval.sharedUnit_pos grid
  have lowEnd := interval.quarters_eq grid interval.low
  have highEnd := interval.quarters_eq grid interval.high
  have place := interval.point_eq grid point
  unfold RoundingInterval.contains at contains
  cases isClosed : interval.closed with
  | true =>
      simp only [isClosed, ↓reduceIte, Bool.and_eq_true, decide_eq_true_eq] at contains
      obtain ⟨low, high⟩ := contains
      refine ⟨?_, ?_, by simp [isClosed]⟩
      · rw [lowEnd, place]
        gcongr
      · rw [highEnd, place]
        gcongr
  | false =>
      simp only [isClosed, Bool.false_eq_true, ↓reduceIte, Bool.and_eq_true,
        decide_eq_true_eq] at contains
      obtain ⟨low, high⟩ := contains
      refine holds_of_inside ?_ ?_
      · rw [lowEnd, place]
        gcongr
      · rw [highEnd, place]
        gcongr

/-! ## The nearer point -/

/-- The nearer point is one of the two that were compared. -/
theorem nearerPoint_cases
    (interval : RoundingInterval)
    (tie : Tie)
    (grid : ℤ) :
    interval.nearerPoint tie grid = interval.pointBelow grid ∨
      interval.nearerPoint tie grid = interval.pointBelow grid + 1 := by
  unfold nearerPoint
  dsimp only
  split
  · exact .inl rfl
  · split
    · exact .inr rfl
    · cases tie with
      | toEven =>
          dsimp only
          omega
      | away =>
          exact .inr rfl

/-- Which point is the nearer one where the neighbours are not equally near. -/
theorem nearerPoint_of_nearer
    (interval : RoundingInterval)
    (tie : Tie)
    (grid : ℤ) :
    let centre := interval.centre * interval.quarterStep grid
    let down := centre - interval.pointBelow grid * interval.gridStep grid
    let up := (interval.pointBelow grid + 1) * interval.gridStep grid - centre
    (down < up → interval.nearerPoint tie grid = interval.pointBelow grid) ∧
      (up < down → interval.nearerPoint tie grid = interval.pointBelow grid + 1) := by
  intro centre down up
  constructor
  · intro downIsLess
    exact if_pos downIsLess
  · intro upIsLess
    exact (if_neg (Nat.lt_asymm upIsLess)).trans (if_pos upIsLess)

/-- The nearer point is at most half a step away from the centre. -/
theorem nearerPoint_near
    (interval : RoundingInterval)
    (tie : Tie)
    (grid : ℤ) :
    let step := interval.gridStep grid
    let centre := interval.centre * interval.quarterStep grid
    let position := interval.nearerPoint tie grid * step
    2 * centre ≤ 2 * position + step ∧ 2 * position ≤ 2 * centre + step := by
  intro step centre position
  have stepPos : 0 < step := interval.gridStep_pos grid
  have below : interval.pointBelow grid * step ≤ centre := Nat.div_mul_le_self centre step
  have above : centre < interval.pointBelow grid * step + step :=
    Nat.lt_div_mul_add (a := centre) stepPos
  have next :
      (interval.pointBelow grid + 1) * step = interval.pointBelow grid * step + step := by ring
  have isPosition : position = interval.nearerPoint tie grid * step := rfl
  obtain ⟨downNearer, upNearer⟩ := interval.nearerPoint_of_nearer tie grid
  rcases Nat.lt_trichotomy (centre - interval.pointBelow grid * step)
      ((interval.pointBelow grid + 1) * step - centre) with downIsLess | isTie | upIsLess
  · rw [downNearer downIsLess] at isPosition
    omega
  · -- Both neighbours are half a step away.
    rcases interval.nearerPoint_cases tie grid with same | same
    · rw [same] at isPosition
      omega
    · rw [same] at isPosition
      omega
  · rw [upNearer upIsLess] at isPosition
    omega

/-- A point that is found on a grid lies in the interval. -/
theorem contains_of_pointOn?
    {tie : Tie}
    {point : ℕ}
    (found : interval.pointOn? tie grid = some point) :
    interval.contains grid point = true := by
  unfold pointOn? at found
  dsimp only at found
  split at found
  next belowIn nextIn =>
    obtain rfl := Option.some.inj found
    rcases interval.nearerPoint_cases tie grid with same | same
    · rw [same, belowIn]
    · rw [same, nextIn]
  next belowIn _ =>
    obtain rfl := Option.some.inj found
    exact belowIn
  next _ nextIn =>
    obtain rfl := Option.some.inj found
    exact nextIn
  next =>
    cases found

/-- Whatever the search finds lies in the interval, if the nearer point of the last grid does. -/
theorem holds_search
    (interval : RoundingInterval)
    (tie : Tie)
    (finer : ℕ)
    (grid : ℤ)
    (last : interval.Holds (interval.nearerPoint tie (grid - finer) * 10 ^ (grid - finer))) :
    interval.Holds
      ((interval.search tie finer grid).1 * 10 ^ (interval.search tie finer grid).2) := by
  induction finer generalizing grid with
  | zero =>
      simpa [search] using last
  | succ finer inductionHypothesis =>
      rw [search]
      cases found : interval.pointOn? tie grid with
      | some point =>
          exact holds_of_contains (contains_of_pointOn? found)
      | none =>
          refine inductionHypothesis (grid - 1) ?_
          rw [show grid - 1 - (finer : ℤ) = grid - ((finer + 1 : ℕ) : ℤ) by push_cast; ring]
          exact last

/-- The nearer point is at most half a step of the grid away from the centre. -/
theorem abs_nearerPoint_sub_le
    (interval : RoundingInterval)
    (tie : Tie)
    (grid : ℤ) :
    |(interval.nearerPoint tie grid : ℚ) * 10 ^ grid -
        interval.centre * 2 ^ interval.exponent| ≤ 10 ^ grid / 2 := by
  have unit := interval.sharedUnit_pos grid
  have oneStep := interval.point_eq grid 1
  obtain ⟨low, high⟩ := interval.nearerPoint_near tie grid
  rw [Nat.cast_one, one_mul, one_mul] at oneStep
  rw [interval.point_eq, interval.quarters_eq grid, oneStep, abs_le]
  generalize interval.gridStep grid = step at *
  generalize interval.centre * interval.quarterStep grid = centre at *
  generalize interval.nearerPoint tie grid * step = position at *
  have lowRat : (2 * centre : ℚ) ≤ 2 * position + step := by exact_mod_cast low
  have highRat : (2 * position : ℚ) ≤ 2 * centre + step := by exact_mod_cast high
  constructor <;> nlinarith

end RoundingInterval

/-! ## Seventeen digits -/

section Seventeen

variable
  {mantissa : ℕ}
  {exponent grid : ℤ}

/-- What is less than half a place away, or less than a quarter at the end of a binade, lies in the interval. -/
theorem RoundingInterval.holds_of_near
    {value : ℚ}
    (positive : 0 < mantissa)
    (near : |value - mantissa * 2 ^ exponent| < 2 ^ exponent / 2)
    (nearer : mantissa = 2 ^ 52 → |value - mantissa * 2 ^ exponent| < 2 ^ exponent / 4) :
    (RoundingInterval.of mantissa exponent).Holds value := by
  have place := mul_quarter 1 exponent
  rw [one_mul, mul_one] at place
  simp only [← place] at near nearer
  obtain ⟨above, below⟩ := abs_lt.mp near
  refine holds_of_inside ?_ ?_
  · rw [low_of]
    change _ * (2 : ℚ) ^ (exponent - 2) < value
    split
    next lowest =>
      obtain ⟨above, -⟩ := abs_lt.mp (nearer lowest.1)
      rw [Nat.cast_sub (by omega)]
      push_cast
      linarith
    next =>
      rw [Nat.cast_sub (by omega)]
      push_cast
      linarith
  · change value < ((4 * mantissa + 2 : ℕ) : ℚ) * 2 ^ (exponent - 2)
    push_cast
    linarith

/-- On the grid of the seventeenth digit the nearest point is in the interval. -/
theorem RoundingInterval.holds_nearerPoint
    (tie : Tie)
    (positive : 0 < mantissa)
    (belowLimit : mantissa < 2 ^ 53)
    (fine : (10 : ℚ) ^ (grid + 16) ≤ mantissa * 2 ^ exponent) :
    (RoundingInterval.of mantissa exponent).Holds
      ((RoundingInterval.of mantissa exponent).nearerPoint tie grid * 10 ^ grid) := by
  have distance := abs_nearerPoint_sub_le (RoundingInterval.of mantissa exponent) tie grid
  have centre :
      ((RoundingInterval.of mantissa exponent).centre : ℚ) *
          2 ^ (RoundingInterval.of mantissa exponent).exponent =
        mantissa * 2 ^ exponent := by
    refine Eq.trans ?_ (mul_quarter _ exponent)
    simp [RoundingInterval.of]
  rw [centre] at distance
  rw [zpow_add₀ (by norm_num)] at fine
  have unit := two_zpow_pos exponent
  refine holds_of_near positive (distance.trans_lt ?_) fun lowest => distance.trans_lt ?_
  · have atMost : (mantissa : ℚ) * 2 ^ exponent < 2 ^ 53 * 2 ^ exponent := by
      gcongr
      exact_mod_cast belowLimit
    norm_num at fine atMost
    linarith
  · rw [lowest] at fine
    norm_num at fine
    linarith

end Seventeen

namespace Ratio

/-- The power of ten with the decimal exponent is not above the ratio. -/
theorem zpow_decimalExponent_le
    {ratio : Ratio}
    (positive : 0 < ratio.value) :
    (10 : ℚ) ^ ratio.decimalExponent ≤ ratio.value := by
  have numeratorPos := numerator_pos_of_value_pos positive
  have denominatorPos := denominator_pos_of_value_pos positive
  have denominatorPosRat : (0 : ℚ) < ratio.denominator := by exact_mod_cast denominatorPos
  rw [decimalExponent, value, le_div_iff₀ denominatorPosRat]
  split
  next atLeastOne =>
    set quotient := ratio.numerator / ratio.denominator with isQuotient
    have quotientPos : 0 < quotient := Nat.div_pos atLeastOne denominatorPos
    obtain ⟨count, length⟩ :=
      Nat.exists_eq_add_one.mpr (List.length_pos_of_ne_nil (decimalDigits_ne_nil quotient))
    have notBelow : 10 ^ count ≤ quotient := pow_le_of_length_decimalDigits quotientPos length
    have scaled : 10 ^ count * ratio.denominator ≤ ratio.numerator :=
      (Nat.mul_le_mul_right _ notBelow).trans (Nat.div_mul_le_self _ _)
    rw [length, Nat.cast_add, Nat.cast_one, add_sub_cancel_right, zpow_natCast]
    exact_mod_cast scaled
  next belowOne =>
    set quotient := (ratio.denominator - 1) / ratio.numerator with isQuotient
    set count := (decimalDigits quotient).length with isCount
    have below : quotient < 10 ^ count := lt_pow_length_decimalDigits quotient
    have scaled : ratio.denominator ≤ 10 ^ count * ratio.numerator := by
      have := (Nat.div_lt_iff_lt_mul numeratorPos).mp below
      omega
    rw [zpow_neg, zpow_natCast, inv_mul_le_iff₀ (by positivity)]
    exact_mod_cast scaled

theorem value_ofScaled
    (mantissa : ℕ)
    (exponent : ℤ) :
    (ofScaled mantissa exponent).value = mantissa * 2 ^ exponent := by
  rw [zpow_eq_div two_ne_zero]
  simp [value, ofScaled, mul_div_assoc]

end Ratio

/-! ## Expansions -/

namespace Expansion

/-- The rational that an expansion stands for. -/
def value (expansion : Expansion) : ℚ :=
  naturalOfDigits expansion.digits * 10 ^ (expansion.point - expansion.digits.length)

/-- Whether an expansion is one of digits, none of which is a zero in front of the others. -/
structure HasDigits (expansion : Expansion) : Prop where
  ne_nil : expansion.digits ≠ []
  isDigit : ∀ c ∈ expansion.digits, c.isDigit = true
  leading : expansion.digits.head? = some '0' → expansion = zero

theorem hasDigits_zero : zero.HasDigits :=
  ⟨nofun, fun _ member => List.mem_singleton.mp member ▸ rfl, fun _ => rfl⟩

@[simp] theorem value_zero : zero.value = 0 := by
  have noDigits : naturalOfDigits zero.digits = 0 := rfl
  rw [value, noDigits, Nat.cast_zero, zero_mul]

/-- The digits of a natural are those that its expansion keeps, and zeros. -/
theorem exists_decimalDigits_eq
    (point : ℕ)
    (grid : ℤ) :
    ∃ zeros, decimalDigits point = (ofPoint point grid).digits ++ List.replicate zeros '0' := by
  set digits := decimalDigits point
  refine ⟨(digits.reverse.takeWhile (· == '0')).length, ?_⟩
  have areZeros :
      (digits.reverse.takeWhile (· == '0')).reverse =
        List.replicate (digits.reverse.takeWhile (· == '0')).length '0' := by
    refine List.eq_replicate_iff.mpr ⟨List.length_reverse, ?_⟩
    intro c member
    have isZero := List.mem_takeWhile_imp (List.mem_reverse.mp member)
    exact eq_of_beq isZero
  rw [← areZeros]
  simp only [ofPoint]
  rw [← List.reverse_append, List.takeWhile_append_dropWhile, List.reverse_reverse]

/-- Dropping zeros at the end of the digits does not change the rational. -/
theorem value_ofPoint
    (point : ℕ)
    (grid : ℤ) :
    (ofPoint point grid).value = point * 10 ^ grid := by
  obtain ⟨zeros, digits⟩ := exists_decimalDigits_eq point grid
  have count := congrArg List.length digits
  have natural := congrArg naturalOfDigits digits
  rw [List.length_append, List.length_replicate] at count
  rw [naturalOfDigits_decimalDigits, naturalOfDigits_append, naturalOfDigits_replicate_zero,
    List.length_replicate, Nat.add_zero] at natural
  have scale :
      (ofPoint point grid).point - (ofPoint point grid).digits.length = zeros + grid := by
    have isPoint : (ofPoint point grid).point = (decimalDigits point).length + grid := rfl
    omega
  rw [value, scale, zpow_add₀ (by norm_num), ← mul_assoc, zpow_natCast]
  congr 1
  exact_mod_cast natural.symm

theorem hasDigits_ofPoint
    {point : ℕ}
    (positive : 0 < point)
    (grid : ℤ) :
    (ofPoint point grid).HasDigits := by
  obtain ⟨zeros, digits⟩ := exists_decimalDigits_eq point grid
  have nonempty : (ofPoint point grid).digits ≠ [] := by
    intro empty
    have natural := congrArg naturalOfDigits digits
    rw [empty, List.nil_append, naturalOfDigits_decimalDigits,
      naturalOfDigits_replicate_zero] at natural
    omega
  refine ⟨nonempty, ?_, ?_⟩
  · intro c member
    exact isDigit_of_mem_decimalDigits (digits ▸ List.mem_append_left _ member)
  · intro begins
    have isZero : point = 0 := by
      refine eq_zero_of_head?_decimalDigits ?_
      rw [digits, List.head?_append_of_ne_nil _ nonempty, begins]
    omega

end Expansion

/-! ## Shortest decimals -/

section Shortest

variable
  {mantissa : ℕ}
  {exponent : ℤ}

theorem RoundingInterval.Holds.pos
    {value : ℚ}
    (positive : 0 < mantissa)
    (holds : (RoundingInterval.of mantissa exponent).Holds value) :
    0 < value := by
  have unit := two_zpow_pos exponent
  have atLeastOne : (1 : ℚ) ≤ mantissa := by exact_mod_cast positive
  have low := (holds.bounds positive).1
  nlinarith

/-- The shortest decimal of a positive number is a point of a grid that is rounded to the number. -/
theorem exists_shortest_eq
    (tie : Tie)
    (positive : 0 < mantissa)
    (belowLimit : mantissa < 2 ^ 53) :
    ∃ point grid,
      shortest tie mantissa exponent = .ofPoint point grid ∧
        (RoundingInterval.of mantissa exponent).Holds (point * 10 ^ grid) := by
  set grid := (Ratio.ofScaled mantissa exponent).decimalExponent with isGrid
  have below : (10 : ℚ) ^ grid ≤ mantissa * 2 ^ exponent := by
    rw [← Ratio.value_ofScaled, isGrid]
    refine Ratio.zpow_decimalExponent_le ?_
    rw [Ratio.value_ofScaled]
    have := two_zpow_pos exponent
    positivity
  refine ⟨_, _, ?_, RoundingInterval.holds_search _ tie 16 grid ?_⟩
  · rw [shortest, if_neg positive.ne']
  · refine RoundingInterval.holds_nearerPoint tie positive belowLimit ?_
    rw [Nat.cast_ofNat, sub_add_cancel]
    exact below

/-- The shortest decimal of a positive number lies in the interval of the number. -/
theorem holds_shortest
    (tie : Tie)
    (positive : 0 < mantissa)
    (belowLimit : mantissa < 2 ^ 53) :
    (RoundingInterval.of mantissa exponent).Holds (shortest tie mantissa exponent).value := by
  obtain ⟨point, grid, same, holds⟩ := exists_shortest_eq tie positive belowLimit
  rw [same, Expansion.value_ofPoint]
  exact holds

theorem hasDigits_shortest
    (tie : Tie)
    (belowLimit : mantissa < 2 ^ 53) :
    (shortest tie mantissa exponent).HasDigits := by
  rcases Nat.eq_zero_or_pos mantissa with rfl | positive
  · exact Expansion.hasDigits_zero
  · obtain ⟨point, grid, same, holds⟩ := exists_shortest_eq tie positive belowLimit
    rw [same]
    refine Expansion.hasDigits_ofPoint (Nat.pos_of_ne_zero ?_) grid
    rintro rfl
    simpa using holds.pos positive

end Shortest

end FeatureFlags.Number
