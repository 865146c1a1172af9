import FeatureFlags.Proofs.Number.Order

namespace FeatureFlags.Number

/-!
# Nearest numbers

What it means for a number to be the nearest one to a rational, without regard to how it
is found: no finite number is nearer, of two that are equally near the even one is taken,
and what is not below the middle between the greatest finite number and the next power of
two is infinite. There is one such number for every magnitude and sign. Products and
quotients are the nearest numbers to the exact results, and reading a decimal finds the
nearest number.
-/

/-! ## The specification -/

/--
The middle between the greatest finite number and the power of two that would come next,
half a place of the highest exponent below that power.
-/
def overflowThreshold : ℚ :=
  2 ^ (1024 : ℤ) - 2 ^ (970 : ℤ)

/-- No number of the format is nearer to a magnitude, and any other that is as near is odd
beside it. -/
structure NearestPair
    (magnitude : ℚ)
    (mantissa : ℕ)
    (exponent : ℤ) :
    Prop where
  near :
    ∀ {other : ℕ} {place : ℤ},
      binary64.Canonical other place →
      |mantissa * 2 ^ exponent - magnitude| ≤ |other * 2 ^ place - magnitude|
  even :
    ∀ {other : ℕ} {place : ℤ},
      binary64.Canonical other place →
      |mantissa * 2 ^ exponent - magnitude| = |other * 2 ^ place - magnitude| →
      (other * 2 ^ place : ℚ) ≠ mantissa * 2 ^ exponent →
      mantissa % 2 = 0

/-- The number with a sign that is nearest to a magnitude. -/
inductive IsNearest (negative : Bool) (magnitude : ℚ) : Binary64 → Prop where
  | finite
      {mantissa : ℕ}
      {exponent : ℤ}
      {canonical : binary64.Canonical mantissa exponent} :
      magnitude < overflowThreshold →
      NearestPair magnitude mantissa exponent →
      IsNearest negative magnitude (.finite negative mantissa exponent canonical)
  | infinite :
      overflowThreshold ≤ magnitude →
      IsNearest negative magnitude (.infinite negative)

/-! ## There is one nearest number -/

section Unique

variable
  {magnitude : ℚ}
  {mantissa other : ℕ}
  {exponent place : ℤ}

/-- A number with a lower place is below the binade of one with a higher place. -/
theorem lt_binade_of_place_lt
    (belowLimit : other < 2 ^ 53)
    (lower : place < exponent) :
    (other * 2 ^ place : ℚ) < 2 ^ (exponent + 52) := by
  have unit := two_zpow_pos place
  calc
    (other * 2 ^ place : ℚ) < 2 ^ 53 * 2 ^ place := by
      gcongr
      exact_mod_cast belowLimit
    _ = 2 ^ (place + 53) := by
      rw [zpow_add₀ two_ne_zero, mul_comm]
      norm_num
    _ ≤ 2 ^ (exponent + 52) := zpow_le_zpow_right₀ one_le_two (by omega)

/-- Measured in lower places, a number is still a natural. -/
theorem exists_natural_of_place_le
    (mantissa : ℕ)
    (notAbove : place ≤ exponent) :
    ((mantissa * 2 ^ (exponent - place).toNat : ℕ) : ℚ) * 2 ^ place = mantissa * 2 ^ exponent := by
  have split : exponent = ((exponent - place).toNat : ℤ) + place := by omega
  conv_rhs => rw [split, zpow_add₀ two_ne_zero, zpow_natCast]
  push_cast
  ring

/-- Canonical pairs that stand for the same rational are the same. -/
theorem canonical_unique
    (canonical : binary64.Canonical mantissa exponent)
    (otherCanonical : binary64.Canonical other place)
    (same : (mantissa * 2 ^ exponent : ℚ) = other * 2 ^ place) :
    mantissa = other ∧ exponent = place := by
  have unit := two_zpow_pos exponent
  have otherUnit := two_zpow_pos place
  rcases Nat.eq_zero_or_pos mantissa with rfl | positive
  · obtain rfl : other = 0 := by
      rw [Nat.cast_zero, zero_mul, eq_comm, mul_eq_zero] at same
      exact_mod_cast same.resolve_right otherUnit.ne'
    -- Zeros have the lowest place.
    have lowest {e : ℤ} (canonicalZero : binary64.Canonical 0 e) : e = -1074 := by
      obtain ⟨-, -, -, normal | isLowest⟩ := canonicalZero
      · exact absurd normal (by decide)
      · exact isLowest
    exact ⟨rfl, (lowest canonical).trans (lowest otherCanonical).symm⟩
  · have otherPositive : 0 < other := by
      by_contra isZero
      obtain rfl : other = 0 := by omega
      rw [Nat.cast_zero, zero_mul] at same
      have : (0 : ℚ) < mantissa * 2 ^ exponent := by positivity
      linarith
    have value := Ratio.value_ofScaled mantissa exponent
    have rounded := round_eq_of_value_eq canonical positive value
    rw [round_eq_of_value_eq otherCanonical otherPositive (value.trans same)] at rounded
    exact ⟨(congrArg Prod.fst rounded).symm, (congrArg Prod.snd rounded).symm⟩

/-- The lower of two numbers has no higher place. -/
theorem place_le_of_lt
    (canonical : binary64.Canonical mantissa exponent)
    (otherCanonical : binary64.Canonical other place)
    (below : (mantissa * 2 ^ exponent : ℚ) < other * 2 ^ place) :
    exponent ≤ place := by
  obtain ⟨-, -, -, normal⟩ := canonical
  replace normal : 2 ^ 52 ≤ mantissa ∨ exponent = -1074 := normal
  have otherAtLeastLowest : -1074 ≤ place := otherCanonical.2.1
  by_contra lower
  have inBinade : (2 : ℚ) ^ (exponent + 52) ≤ mantissa * 2 ^ exponent := by
    have atLeast : (2 ^ 52 : ℚ) ≤ mantissa := by
      exact_mod_cast normal.resolve_right (by omega)
    rw [zpow_add₀ two_ne_zero, mul_comm]
    gcongr
    exact_mod_cast atLeast
  have beyond := lt_binade_of_place_lt otherCanonical.1 (not_le.mp lower)
  linarith

/-- Between two even numbers there is the one that follows the lower of them. -/
theorem next_between
    (canonical : binary64.Canonical mantissa exponent)
    (otherCanonical : binary64.Canonical other place)
    (isEven : mantissa % 2 = 0)
    (otherIsEven : other % 2 = 0)
    (below : (mantissa * 2 ^ exponent : ℚ) < other * 2 ^ place) :
    binary64.Canonical (mantissa + 1) exponent ∧
      ((mantissa + 1 : ℕ) : ℚ) * 2 ^ exponent < other * 2 ^ place := by
  have unit := two_zpow_pos exponent
  have otherValue :=
    exists_natural_of_place_le other (place_le_of_lt canonical otherCanonical below)
  constructor
  · obtain ⟨belowLimit, atLeastLowest, atMostHighest, normal⟩ := canonical
    refine ⟨?_, atLeastLowest, atMostHighest, ?_⟩
    · change mantissa < 2 ^ 53 at belowLimit
      change mantissa + 1 < 2 ^ 53
      omega
    · exact normal.imp_left fun atLeast => Nat.le_succ_of_le atLeast
  · -- In places of the lower number the other one is even as well, so it is two places above.
    set multiple := other * 2 ^ (place - exponent).toNat with isMultiple
    have multipleIsEven : multiple % 2 = 0 := by
      rw [isMultiple, Nat.mul_mod, otherIsEven, Nat.zero_mul, Nat.zero_mod]
    have aboveRat : (mantissa : ℚ) < multiple := by
      rw [← otherValue] at below
      exact lt_of_mul_lt_mul_right below unit.le
    have above : mantissa < multiple := by exact_mod_cast aboveRat
    rw [← otherValue]
    gcongr
    omega

/-- Of two nearest numbers none is below the other: an odd number between them would be nearer. -/
theorem NearestPair.not_lt
    (nearest : NearestPair magnitude mantissa exponent)
    (otherNearest : NearestPair magnitude other place)
    (canonical : binary64.Canonical mantissa exponent)
    (otherCanonical : binary64.Canonical other place) :
    ¬ (mantissa * 2 ^ exponent : ℚ) < other * 2 ^ place := by
  intro below
  have unit := two_zpow_pos exponent
  have tie := le_antisymm (nearest.near otherCanonical) (otherNearest.near canonical)
  have isEven := nearest.even otherCanonical tie below.ne'
  have otherIsEven := otherNearest.even canonical tie.symm below.ne
  obtain ⟨next, nextBelow⟩ := next_between canonical otherCanonical isEven otherIsEven below
  have nextAbove : (mantissa * 2 ^ exponent : ℚ) < ((mantissa + 1 : ℕ) : ℚ) * 2 ^ exponent := by
    gcongr
    omega
  -- The magnitude is the middle, so the next number is nearer than both.
  have middle : magnitude = (mantissa * 2 ^ exponent + other * 2 ^ place) / 2 := by
    rcases abs_eq_abs.mp tie with same | opposite
    · linarith
    · linarith
  have nearer := nearest.near next
  have distance :
      |(mantissa * 2 ^ exponent : ℚ) - magnitude| = magnitude - mantissa * 2 ^ exponent := by
    rw [abs_sub_comm, abs_of_pos (by linarith)]
  rw [distance] at nearer
  rcases abs_cases (((mantissa + 1 : ℕ) : ℚ) * 2 ^ exponent - magnitude) with
    ⟨isDistance, -⟩ | ⟨isDistance, -⟩
  · linarith
  · linarith

/-- There is only one nearest number. -/
theorem IsNearest.unique
    {negative : Bool}
    {left right : Binary64}
    (isLeft : IsNearest negative magnitude left)
    (isRight : IsNearest negative magnitude right) :
    left = right := by
  cases isLeft with
  | @finite mantissa exponent canonical inRange nearest =>
      cases isRight with
      | @finite other place otherCanonical _ otherNearest =>
          have notBelow := nearest.not_lt otherNearest canonical otherCanonical
          have notAbove := otherNearest.not_lt nearest otherCanonical canonical
          have same := le_antisymm (not_lt.mp notAbove) (not_lt.mp notBelow)
          obtain ⟨rfl, rfl⟩ := canonical_unique canonical otherCanonical same
          rfl
      | infinite overflows =>
          exact absurd inRange (not_lt.mpr overflows)
  | infinite overflows =>
      cases isRight with
      | finite inRange _ => exact absurd inRange (not_lt.mpr overflows)
      | infinite _ => rfl

theorem two_zpow_natCast_add
    (places : ℕ)
    (exponent : ℤ) :
    (2 : ℚ) ^ (places + exponent) = 2 ^ places * 2 ^ exponent := by
  rw [zpow_add₀ two_ne_zero, zpow_natCast]

/-- Measured in half places of the highest exponent the threshold is an odd natural. -/
theorem overflowThreshold_eq : overflowThreshold = ((2 ^ 54 - 1 : ℕ) : ℚ) * 2 ^ (970 : ℤ) := by
  have next : (2 : ℚ) ^ (1024 : ℤ) = 2 ^ 54 * 2 ^ (970 : ℤ) := two_zpow_natCast_add 54 970
  rw [overflowThreshold, next, ← sub_one_mul]
  congr 1
  norm_num

theorem overflowThreshold_lt_zpow : overflowThreshold < 2 ^ (1024 : ℤ) :=
  sub_lt_self _ (two_zpow_pos 970)

theorem zpow_lt_overflowThreshold : (2 : ℚ) ^ (970 : ℤ) < overflowThreshold := by
  rw [overflowThreshold_eq]
  exact lt_mul_of_one_lt_left (two_zpow_pos 970) (by norm_num)

theorem IsNearest.eq_infinite
    {negative : Bool}
    {number : Binary64}
    (nearest : IsNearest negative magnitude number)
    (overflows : overflowThreshold ≤ magnitude) :
    number = .infinite negative :=
  nearest.unique (.infinite overflows)

end Unique

/-! ## Rounding finds the nearest number -/

namespace Ratio

variable {ratio : Ratio}

/-- No natural is nearer to a ratio than the nearest one. -/
theorem abs_nearest_sub_le_abs_sub
    (positive : 0 < ratio.denominator)
    (n : ℕ) :
    |(ratio.nearest : ℚ) - ratio.value| ≤ |n - ratio.value| := by
  have half := abs_nearest_sub_le positive
  by_cases same : n = ratio.nearest
  · rw [same]
  · have apart : (1 : ℚ) ≤ |(n : ℚ) - ratio.nearest| := by
      have : (1 : ℤ) ≤ |(n : ℤ) - ratio.nearest| := Int.one_le_abs (by omega)
      exact_mod_cast this
    have triangle := abs_sub_le (n : ℚ) ratio.value ratio.nearest
    rw [abs_sub_comm ratio.value] at triangle
    linarith

/-- Of two naturals that are equally near the even one is taken. -/
theorem nearest_even_of_tie
    (positive : 0 < ratio.denominator)
    {n : ℕ}
    (tie : |(ratio.nearest : ℚ) - ratio.value| = |n - ratio.value|)
    (other : n ≠ ratio.nearest) :
    ratio.nearest % 2 = 0 := by
  have half := abs_nearest_sub_le positive
  have otherHalf := tie ▸ half
  have triangle := abs_sub_le (n : ℚ) ratio.value ratio.nearest
  rw [abs_sub_comm ratio.value] at triangle
  have neighbours : |(n : ℤ) - ratio.nearest| ≤ 1 := by
    have : |(n : ℚ) - ratio.nearest| ≤ 1 := by linarith
    exact_mod_cast this
  obtain ⟨notFarBelow, notFarAbove⟩ := abs_le.mp neighbours
  obtain ⟨low, high⟩ := abs_le.mp otherHalf
  by_contra odd
  have even : n % 2 = 0 := by omega
  refine other (nearest_eq positive ?_ ?_ ?_).symm
  · linarith
  · linarith
  · omega

theorem nearest_inUnits_le
    (positive : 0 < ratio.value) :
    (ratio.inUnits ratio.place).nearest ≤ 2 ^ 53 := by
  have unit := two_zpow_pos ratio.place
  have bound := rounded_le_zpow positive
  rw [rounded_eq positive, zpow_add₀ two_ne_zero, mul_comm] at bound
  have : ((ratio.inUnits ratio.place).nearest : ℚ) ≤ 2 ^ 53 := by
    exact_mod_cast le_of_mul_le_mul_left bound unit
  exact_mod_cast this

theorem le_nearest_inUnits
    (positive : 0 < ratio.value)
    (normal : -1074 < ratio.place) :
    2 ^ 52 ≤ (ratio.inUnits ratio.place).nearest := by
  have unit := two_zpow_pos ratio.place
  have bound := zpow_le_rounded positive normal
  rw [rounded_eq positive, zpow_add₀ two_ne_zero, mul_comm] at bound
  have : (2 ^ 52 : ℚ) ≤ (ratio.inUnits ratio.place).nearest := by
    exact_mod_cast le_of_mul_le_mul_right bound unit
  exact_mod_cast this

/-- Measured in the places of a ratio, no natural is nearer to it than what it is rounded to. -/
theorem abs_rounded_sub_le
    (positive : 0 < ratio.value)
    (n : ℕ) :
    |ratio.rounded - ratio.value| ≤ |n * 2 ^ ratio.place - ratio.value| ∧
      (|ratio.rounded - ratio.value| = |n * 2 ^ ratio.place - ratio.value| →
        n * 2 ^ ratio.place ≠ ratio.rounded →
        (ratio.inUnits ratio.place).nearest % 2 = 0) := by
  have unit := two_zpow_pos ratio.place
  have denominatorPos := denominator_inUnits_pos positive ratio.place
  have scaled (m : ℕ) :
      |(m : ℚ) * 2 ^ ratio.place - ratio.value| =
        |(m : ℚ) - (ratio.inUnits ratio.place).value| * 2 ^ ratio.place := by
    rw [value_inUnits, ← abs_of_pos unit, ← abs_mul, abs_of_pos unit, sub_mul,
      div_mul_cancel₀ _ unit.ne']
  rw [rounded_eq positive, scaled, scaled]
  constructor
  · exact mul_le_mul_of_nonneg_right (abs_nearest_sub_le_abs_sub denominatorPos n) unit.le
  · intro tie other
    apply nearest_even_of_tie denominatorPos (mul_right_cancel₀ unit.ne' tie)
    rintro rfl
    exact other rfl

/-- What lies below the binade of a ratio is further away than what it is rounded to. -/
theorem abs_rounded_sub_lt
    (positive : 0 < ratio.value)
    {other : ℚ}
    (normal : -1074 < ratio.place)
    (below : other < 2 ^ (ratio.place + 52)) :
    |ratio.rounded - ratio.value| < |other - ratio.value| := by
  have exponent : ratio.place + 52 = ratio.binaryExponent := by
    simp only [place] at normal ⊢
    omega
  have inBinade : 2 ^ (ratio.place + 52) ≤ ratio.value := by
    rw [exponent]
    exact (binaryExponent_spec positive).1
  have start : ((2 ^ 52 : ℕ) : ℚ) * 2 ^ ratio.place = 2 ^ (ratio.place + 52) := by
    rw [zpow_add₀ two_ne_zero, mul_comm]
    norm_num
  have near := (abs_rounded_sub_le positive (2 ^ 52)).1
  rw [start, abs_of_nonpos (sub_nonpos.mpr inBinade)] at near
  rw [abs_of_neg (by linarith : other - ratio.value < 0)]
  linarith

/-- The pair that a ratio is rounded to, in its own places unless the next binade begins. -/
theorem round_eq_of_place (positive : 0 < ratio.value) :
    binary64.round ratio =
      if (ratio.inUnits ratio.place).nearest = 2 ^ 53 then (2 ^ 52, ratio.place + 1)
      else ((ratio.inUnits ratio.place).nearest, ratio.place) :=
  round_of_nearest positive rfl rfl

/-- Where the next binade begins the mantissa is even. -/
theorem mantissa_round_even
    (positive : 0 < ratio.value)
    (even : (ratio.inUnits ratio.place).nearest % 2 = 0) :
    (binary64.round ratio).1 % 2 = 0 := by
  rw [round_eq_of_place positive]
  split
  next => exact (by decide : 2 ^ 52 % 2 = 0)
  next => exact even

/-- Rounding gives the pair that is nearest to a ratio. -/
theorem nearestPair_round (positive : 0 < ratio.value) :
    NearestPair ratio.value (binary64.round ratio).1 (binary64.round ratio).2 := by
  have isRounded :
      ((binary64.round ratio).1 : ℚ) * 2 ^ (binary64.round ratio).2 = ratio.rounded := rfl
  constructor
  · intro other place canonical
    rw [isRounded]
    by_cases lower : place < ratio.place
    · have normal : -1074 < ratio.place := lt_of_le_of_lt canonical.2.1 lower
      exact (abs_rounded_sub_lt positive normal (lt_binade_of_place_lt canonical.1 lower)).le
    · rw [← exists_natural_of_place_le other (not_lt.mp lower)]
      exact (abs_rounded_sub_le positive _).1
  · intro other place canonical tie differs
    rw [isRounded] at tie differs
    apply mantissa_round_even positive
    by_cases lower : place < ratio.place
    · have normal : -1074 < ratio.place := lt_of_le_of_lt canonical.2.1 lower
      have further := abs_rounded_sub_lt positive normal (lt_binade_of_place_lt canonical.1 lower)
      exact absurd tie further.ne
    · rw [← exists_natural_of_place_le other (not_lt.mp lower)] at tie differs
      exact (abs_rounded_sub_le positive _).2 tie differs

/-- What a ratio is rounded to is a canonical pair, as long as its exponent is one of the format. -/
theorem canonical_round
    (positive : 0 < ratio.value)
    (inRange : (binary64.round ratio).2 ≤ 971) :
    binary64.Canonical (binary64.round ratio).1 (binary64.round ratio).2 := by
  have atMost := nearest_inUnits_le positive
  have atLeastLowest : -1074 ≤ ratio.place := le_max_left _ _
  rw [round_eq_of_place positive] at inRange ⊢
  by_cases carry : (ratio.inUnits ratio.place).nearest = 2 ^ 53
  · rw [if_pos carry] at inRange ⊢
    refine ⟨(by decide : 2 ^ 52 < 2 ^ 53), ?_, inRange, .inl le_rfl⟩
    change -1074 ≤ ratio.place + 1
    omega
  · rw [if_neg carry] at inRange ⊢
    refine ⟨lt_of_le_of_ne atMost carry, atLeastLowest, inRange, ?_⟩
    by_cases normal : -1074 < ratio.place
    · exact .inl (le_nearest_inUnits positive normal)
    · exact .inr (le_antisymm (not_lt.mp normal) atLeastLowest)

/-- What has a higher exponent than the format is rounded to at least the power of two after
the format. -/
theorem zpow_le_rounded_of_overflow
    (positive : 0 < ratio.value)
    (overflows : 971 < (binary64.round ratio).2) :
    2 ^ (1024 : ℤ) ≤ ratio.rounded := by
  have atLeast : 2 ^ 52 ≤ (binary64.round ratio).1 := by
    rw [round_eq_of_place positive] at overflows ⊢
    by_cases carry : (ratio.inUnits ratio.place).nearest = 2 ^ 53
    · rw [if_pos carry]
    · rw [if_neg carry] at overflows ⊢
      exact le_nearest_inUnits positive ((by norm_num : (-1074 : ℤ) < 971).trans overflows)
  calc
    (2 : ℚ) ^ (1024 : ℤ) = 2 ^ 52 * 2 ^ (972 : ℤ) := two_zpow_natCast_add 52 972
    _ ≤ (binary64.round ratio).1 * 2 ^ (binary64.round ratio).2 := by
      have mantissa : (2 ^ 52 : ℚ) ≤ (binary64.round ratio).1 := by exact_mod_cast atLeast
      have place : (2 : ℚ) ^ (972 : ℤ) ≤ 2 ^ (binary64.round ratio).2 :=
        zpow_le_zpow_right₀ one_le_two overflows
      gcongr

/-- The threshold itself is rounded beyond the format, and so is whatever is above it. -/
theorem zpow_le_rounded_of_threshold_le (atLeast : overflowThreshold ≤ ratio.value) :
    2 ^ (1024 : ℤ) ≤ ratio.rounded := by
  have threshold : (Ratio.ofScaled (2 ^ 54 - 1) 970).value = overflowThreshold := by
    rw [value_ofScaled, overflowThreshold_eq]
  have isRound : binary64.round (.ofScaled (2 ^ 54 - 1) 970) = (2 ^ 52, 972) := by decide +kernel
  have rounded : (Ratio.ofScaled (2 ^ 54 - 1) 970).rounded = 2 ^ (1024 : ℤ) := by
    rw [Ratio.rounded, isRound, show (1024 : ℤ) = (52 : ℕ) + 972 from rfl, two_zpow_natCast_add,
      Nat.cast_pow, Nat.cast_ofNat]
  rw [← rounded]
  apply rounded_le_rounded
  · rw [threshold]
    exact (two_zpow_pos 970).trans zpow_lt_overflowThreshold
  · rw [threshold]
    exact atLeast

/-- Below the threshold the greatest finite number is nearer than what comes after it. -/
private theorem greatest_nearer
    {next half threshold magnitude beyond : ℚ}
    (halfPos : 0 < half)
    (isThreshold : threshold = next - half)
    (below : magnitude < threshold)
    (notBelowNext : next ≤ beyond) :
    |threshold - half - magnitude| < |beyond - magnitude| := by
  rw [abs_of_pos (by linarith : 0 < beyond - magnitude), abs_lt]
  constructor <;> linarith

/-- A ratio is rounded to a number of the format exactly if it is below the threshold. -/
theorem round_inRange_iff (positive : 0 < ratio.value) :
    (binary64.round ratio).2 ≤ 971 ↔ ratio.value < overflowThreshold := by
  constructor
  · intro inRange
    by_contra notBelow
    have beyond := zpow_le_rounded_of_threshold_le (not_lt.mp notBelow)
    have within : ratio.rounded < 2 ^ (1024 : ℤ) :=
      lt_binade_of_place_lt (canonical_round positive inRange).1
        (lt_of_le_of_lt inRange (by norm_num : (971 : ℤ) < 972))
    exact absurd within (not_lt.mpr beyond)
  · intro below
    by_contra overflows
    have beyond := zpow_le_rounded_of_overflow positive (not_le.mp overflows)
    have isCanonical : binary64.Canonical (2 ^ 53 - 1) 971 := by decide
    have isGreatest :
        ((2 ^ 53 - 1 : ℕ) : ℚ) * 2 ^ (971 : ℤ) = overflowThreshold - 2 ^ (970 : ℤ) := by
      have place : (2 : ℚ) ^ (971 : ℤ) = 2 ^ 1 * 2 ^ (970 : ℤ) := two_zpow_natCast_add 1 970
      rw [overflowThreshold_eq, ← sub_one_mul, place, ← mul_assoc]
      congr 1
      norm_num
    have near := (nearestPair_round positive).near isCanonical
    have nearer := greatest_nearer (two_zpow_pos 970) rfl below beyond
    rw [isGreatest] at near
    exact absurd near (not_le.mpr nearer)

end Ratio

namespace Binary64

/-- The number of a ratio and a sign is the nearest one. -/
theorem isNearest_ofRatio
    {ratio : Ratio}
    (positive : 0 < ratio.value)
    (negative : Bool) :
    IsNearest negative ratio.value (ofRatio negative ratio) := by
  by_cases inRange : (binary64.round ratio).2 ≤ 971
  · have canonical := Ratio.canonical_round positive inRange
    rw [ofRatio, ofScaled_of_canonical canonical]
    exact .finite ((Ratio.round_inRange_iff positive).mp inRange) (Ratio.nearestPair_round positive)
  · have notCanonical : ¬ binary64.Canonical (binary64.round ratio).1 (binary64.round ratio).2 :=
      fun canonical => inRange canonical.2.2.1
    rw [ofRatio, ofScaled, dif_neg notCanonical]
    apply IsNearest.infinite
    exact not_lt.mp fun below => inRange ((Ratio.round_inRange_iff positive).mpr below)

/-- Up to half of the smallest positive number, the zero is the nearest one. -/
theorem isNearest_zero
    {magnitude : ℚ}
    (notNegative : 0 ≤ magnitude)
    (small : magnitude ≤ 2 ^ (-1075 : ℤ))
    (negative : Bool) :
    IsNearest negative magnitude (zero negative) := by
  have canonical : binary64.Canonical 0 (-1074) := by decide
  have isZero : zero negative = .finite negative 0 (-1074) canonical :=
    ofScaled_of_canonical canonical negative
  have half := two_zpow_pos (-1075)
  rw [isZero]
  apply IsNearest.finite
  · calc
      magnitude ≤ 2 ^ (-1075 : ℤ) := small
      _ ≤ 2 ^ (970 : ℤ) := zpow_le_zpow_right₀ one_le_two (by norm_num)
      _ < overflowThreshold := zpow_lt_overflowThreshold
  · constructor
    · intro other place otherCanonical
      rw [Nat.cast_zero, zero_mul, zero_sub, abs_neg, abs_of_nonneg notNegative]
      rcases Nat.eq_zero_or_pos other with rfl | positive
      · rw [Nat.cast_zero, zero_mul, zero_sub, abs_neg, abs_of_nonneg notNegative]
      · have smallest : 2 * (2 : ℚ) ^ (-1075 : ℤ) ≤ other * 2 ^ place := by
          calc
            2 * (2 : ℚ) ^ (-1075 : ℤ) = 1 * 2 ^ (-1074 : ℤ) := by
              rw [show (-1074 : ℤ) = 1 + -1075 by norm_num, zpow_add₀ two_ne_zero, zpow_one,
                one_mul]
            _ ≤ other * 2 ^ place := by
              have atLeastLowest : -1074 ≤ place := otherCanonical.2.1
              have places : (2 : ℚ) ^ (-1074 : ℤ) ≤ 2 ^ place :=
                zpow_le_zpow_right₀ one_le_two atLeastLowest
              have atLeastOne : (1 : ℚ) ≤ other := by exact_mod_cast positive
              gcongr
        rw [abs_of_nonneg (by linarith)]
        linarith
    · intro other place _ _ _
      rfl

/-- A ratio is rounded to the number nearest to it, also when it is zero. -/
theorem isNearest_ofRatio_of_denominator_pos
    {ratio : Ratio}
    (positive : 0 < ratio.denominator)
    (negative : Bool) :
    IsNearest negative ratio.value (ofRatio negative ratio) := by
  rcases Nat.eq_zero_or_pos ratio.numerator with isZero | numeratorPos
  · have noValue : ratio.value = 0 := by rw [Ratio.value, isZero, Nat.cast_zero, zero_div]
    have rounded : binary64.round ratio = (0, binary64.lowest) := if_pos isZero
    rw [noValue, ofRatio, rounded]
    exact isNearest_zero le_rfl (two_zpow_pos _).le negative
  · refine isNearest_ofRatio ?_ negative
    rw [Ratio.value]
    positivity

/-! ## Correct rounding -/

/-- The rational that a magnitude becomes as the number nearest to it. -/
def RoundsTo (magnitude rounded : ℚ) : Prop :=
  ∃ number, IsNearest false magnitude number ∧ number.Represents rounded

section Arithmetic

variable
  {left right : Binary64}
  {leftValue rightValue rounded : ℚ}

/-- A product is correctly rounded. -/
theorem Represents.roundsTo_mul
    (isLeft : left.Represents leftValue)
    (isRight : right.Represents rightValue)
    (isProduct : (left.mul right).Represents rounded) :
    RoundsTo (leftValue * rightValue) rounded := by
  obtain ⟨ratio, isRounded, positive, exact⟩ := isLeft.exists_mul_eq isRight
  refine ⟨left.mul right, ?_, isProduct⟩
  rw [isRounded, ← exact]
  exact isNearest_ofRatio_of_denominator_pos positive false

/-- A quotient is correctly rounded. -/
theorem Represents.roundsTo_div
    (isLeft : left.Represents leftValue)
    (isRight : right.Represents rightValue)
    (notZero : rightValue ≠ 0)
    (isQuotient : (left.div right).Represents rounded) :
    RoundsTo (leftValue / rightValue) rounded := by
  obtain ⟨ratio, isRounded, positive, exact⟩ := isLeft.exists_div_eq isRight notZero
  refine ⟨left.div right, ?_, isQuotient⟩
  rw [isRounded, ← exact]
  exact isNearest_ofRatio_of_denominator_pos positive false

end Arithmetic

end Binary64

namespace Decimal

/-- What is read of a number with more than three hundred and ten digits is infinite. -/
theorem isNearest_huge
    {magnitude : ℚ}
    (huge : 10 ^ (310 : ℤ) ≤ magnitude)
    (negative : Bool) :
    IsNearest negative magnitude (Binary64.ofRatio negative (ratioOf 1 310)) := by
  have exact : (ratioOf 1 310).value = 10 ^ (310 : ℤ) := by
    rw [value_ratioOf, Nat.cast_one, one_mul]
  have positive : 0 < (ratioOf 1 310).value := by
    rw [exact]
    positivity
  have atLeast : overflowThreshold ≤ (10 : ℚ) ^ (310 : ℤ) :=
    overflowThreshold_lt_zpow.le.trans two_zpow_lt_ten_zpow.le
  have nearest := Binary64.isNearest_ofRatio positive negative
  rw [exact] at nearest
  rw [nearest.eq_infinite atLeast]
  exact .infinite (atLeast.trans huge)

/-- What is read of a fraction that begins after three hundred and thirty zeros is zero. -/
theorem isNearest_tiny
    {magnitude : ℚ}
    (notNegative : 0 ≤ magnitude)
    (tiny : magnitude ≤ 10 ^ (-330 : ℤ))
    (negative : Bool) :
    IsNearest negative magnitude (Binary64.ofRatio negative (ratioOf 1 (-330))) := by
  have rounded : binary64.round (ratioOf 1 (-330)) = (0, -1074) := by decide +kernel
  rw [Binary64.ofRatio, rounded]
  exact Binary64.isNearest_zero notNegative (tiny.trans ten_zpow_le_two_zpow) negative

/-- A decimal is read as the number that is nearest to it. -/
theorem isNearest_toBinary64 (numeral : Decimal) :
    IsNearest numeral.negative numeral.value numeral.toBinary64 := by
  rcases Nat.eq_zero_or_pos numeral.coefficient with isZero | positiveCoefficient
  · have noValue : numeral.value = 0 := by rw [value_eq, isZero, Nat.cast_zero, zero_mul]
    rw [toBinary64_of_coefficient_eq_zero isZero, noValue]
    exact Binary64.isNearest_zero le_rfl (two_zpow_pos _).le _
  · have positive : 0 < numeral.value := by
      rw [value_eq]
      positivity
    obtain ⟨leading, isLeading⟩ :
        ∃ leading : ℤ, (decimalDigits numeral.coefficient).length + numeral.scale = leading :=
      ⟨_, rfl⟩
    obtain ⟨low, high⟩ := value_bounds positive isLeading
    unfold toBinary64 ratio
    dsimp only
    rw [isLeading, if_neg positiveCoefficient.ne']
    by_cases huge : 310 < leading
    · rw [if_pos huge]
      apply isNearest_huge
      exact (zpow_le_zpow_right₀ (by norm_num) (by omega)).trans low
    · rw [if_neg huge]
      by_cases tiny : leading < -330
      · rw [if_pos tiny]
        apply isNearest_tiny positive.le
        exact high.le.trans (zpow_le_zpow_right₀ (by norm_num) (by omega))
      · rw [if_neg tiny]
        have exact : (ratioOf numeral.coefficient numeral.scale).value = numeral.value := by
          rw [value_ratioOf, value_eq]
        rw [← exact] at positive ⊢
        exact Binary64.isNearest_ofRatio positive _

end Decimal

end FeatureFlags.Number
