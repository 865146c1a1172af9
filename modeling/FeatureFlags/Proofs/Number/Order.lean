import FeatureFlags.Proofs.Number.Accuracy

namespace FeatureFlags.Number

/-!
# Order

Rounding keeps order: what is not above something is not rounded to a number above what that
is rounded to. So the numbers of integers are ordered as the integers are as far as they
differ, and they do differ up to `2 ^ 53`, where integers are held exactly.
-/

namespace Ratio

variable {left right : Ratio}

/-! ## Neighbours and exponents -/

/-- Nearest naturals are in order, because of two neighbours a tie goes to the same one. -/
theorem nearest_le_nearest
    (leftPositive : 0 < left.denominator)
    (rightPositive : 0 < right.denominator)
    (atMost : left.value ≤ right.value) :
    left.nearest ≤ right.nearest := by
  by_contra above
  have next : (right.nearest : ℚ) + 1 ≤ left.nearest := by exact_mod_cast not_le.mp above
  obtain ⟨leftLow, leftHigh⟩ := abs_le.mp (abs_nearest_sub_le leftPositive)
  obtain ⟨rightLow, rightHigh⟩ := abs_le.mp (abs_nearest_sub_le rightPositive)
  have leftTie : left.value = right.nearest + 1 / 2 := by linarith
  have rightTie : right.value = right.nearest + 1 / 2 := by linarith
  rcases Nat.mod_two_eq_zero_or_one right.nearest with even | odd
  · have sameNearest : left.nearest = right.nearest := by
      apply nearest_eq leftPositive
      · linarith
      · linarith
      · intro odd
        omega
    exact above sameNearest.le
  · have otherNearest : right.nearest = right.nearest + 1 := by
      apply nearest_eq rightPositive
      · push_cast
        linarith
      · push_cast
        linarith
      · intro nextOdd
        omega
    omega

@[simp] theorem value_natural (n : ℕ) : (Ratio.mk n 1).value = n := by
  simp [value]

@[simp] theorem nearest_natural (n : ℕ) : (Ratio.mk n 1).nearest = n := by
  simp [nearest, Nat.mod_one]

theorem natural_le_nearest
    {n : ℕ}
    (positive : 0 < right.denominator)
    (atLeast : (n : ℚ) ≤ right.value) :
    n ≤ right.nearest := by
  have inOrder := @nearest_le_nearest ⟨n, 1⟩ right Nat.one_pos positive
  rw [value_natural, nearest_natural] at inOrder
  exact inOrder atLeast

theorem nearest_le_natural
    {n : ℕ}
    (positive : 0 < left.denominator)
    (atMost : left.value ≤ n) :
    left.nearest ≤ n := by
  have inOrder := @nearest_le_nearest left ⟨n, 1⟩ positive Nat.one_pos
  rw [value_natural, nearest_natural] at inOrder
  exact inOrder atMost

theorem binaryExponent_le_binaryExponent
    (positive : 0 < left.value)
    (atMost : left.value ≤ right.value) :
    left.binaryExponent ≤ right.binaryExponent := by
  have low := (binaryExponent_spec positive).1
  have high := (binaryExponent_spec (positive.trans_le atMost)).2
  have below : left.binaryExponent < right.binaryExponent + 1 :=
    (zpow_lt_zpow_iff_right₀ one_lt_two).mp ((low.trans atMost).trans_lt high)
  omega

/-! ## Rounded ratios -/

/-- The exponent of the last place of a ratio. -/
def place (ratio : Ratio) : ℤ :=
  max (-1074) (ratio.binaryExponent - 52)

/-- The rational that a ratio is rounded to, however large it is. -/
def rounded (ratio : Ratio) : ℚ :=
  (binary64.round ratio).1 * 2 ^ (binary64.round ratio).2

/-- A ratio is rounded to the nearest multiple of its last place. -/
theorem rounded_eq (positive : 0 < left.value) :
    left.rounded = (left.inUnits left.place).nearest * 2 ^ left.place := by
  rw [rounded, round_of_nearest positive rfl rfl]
  split
  next carry =>
    rw [place, carry, zpow_add_one₀ two_ne_zero]
    push_cast
    ring
  next =>
    rfl

theorem rounded_zero (denominator : ℕ) : (Ratio.mk 0 denominator).rounded = 0 := by
  simp [rounded, BinaryFormat.round]

theorem rounded_nonneg (ratio : Ratio) : 0 ≤ ratio.rounded :=
  mul_nonneg (Nat.cast_nonneg _) (two_zpow_pos _).le

/-- No ratio is rounded beyond the end of its binade. -/
theorem rounded_le_zpow (positive : 0 < left.value) : left.rounded ≤ 2 ^ (left.place + 53) := by
  have unit := two_zpow_pos left.place
  have within : left.binaryExponent + 1 ≤ left.place + 53 := by
    have := le_max_right (-1074) (left.binaryExponent - 52)
    rw [place]
    omega
  have whole : (2 : ℚ) ^ (left.place + 53) = ((2 ^ 53 : ℕ) : ℚ) * 2 ^ left.place := by
    rw [zpow_add₀ two_ne_zero, mul_comm]
    norm_num
  have units : (left.inUnits left.place).nearest ≤ 2 ^ 53 := by
    apply nearest_le_natural (denominator_inUnits_pos positive _)
    rw [value_inUnits, div_le_iff₀ unit, ← whole]
    calc
      left.value ≤ 2 ^ (left.binaryExponent + 1) := (binaryExponent_spec positive).2.le
      _ ≤ 2 ^ (left.place + 53) := zpow_le_zpow_right₀ one_le_two within
  rw [rounded_eq positive, whole]
  gcongr

/-- No ratio is rounded below the start of its binade, unless its places are too coarse for it. -/
theorem zpow_le_rounded
    (positive : 0 < left.value)
    (normal : -1074 < left.place) :
    2 ^ (left.place + 52) ≤ left.rounded := by
  have unit := two_zpow_pos left.place
  have exponent : left.place + 52 = left.binaryExponent := by
    simp only [place] at normal ⊢
    omega
  have whole : (2 : ℚ) ^ (left.place + 52) = ((2 ^ 52 : ℕ) : ℚ) * 2 ^ left.place := by
    rw [zpow_add₀ two_ne_zero, mul_comm]
    norm_num
  have units : 2 ^ 52 ≤ (left.inUnits left.place).nearest := by
    apply natural_le_nearest (denominator_inUnits_pos positive _)
    rw [value_inUnits, le_div_iff₀ unit, ← whole, exponent]
    exact (binaryExponent_spec positive).1
  rw [rounded_eq positive, whole]
  gcongr

/-- Rounding keeps the order of ratios. -/
theorem rounded_le_rounded
    (positive : 0 < left.value)
    (atMost : left.value ≤ right.value) :
    left.rounded ≤ right.rounded := by
  have rightPositive := positive.trans_le atMost
  have exponents := binaryExponent_le_binaryExponent positive atMost
  have places : left.place ≤ right.place := max_le_max le_rfl (by omega)
  rcases places.eq_or_lt with samePlace | lowerPlace
  · have unit := two_zpow_pos right.place
    have inOrder :
        (left.inUnits right.place).nearest ≤ (right.inUnits right.place).nearest := by
      apply nearest_le_nearest
      · exact denominator_inUnits_pos positive _
      · exact denominator_inUnits_pos rightPositive _
      · rw [value_inUnits, value_inUnits]
        gcongr
    rw [rounded_eq positive, rounded_eq rightPositive, samePlace]
    gcongr
  · -- The binade of the left one ends before that of the right one.
    have normal : -1074 < right.place := (le_max_left _ _).trans_lt lowerPlace
    calc
      left.rounded ≤ 2 ^ (left.place + 53) := rounded_le_zpow positive
      _ ≤ 2 ^ (right.place + 52) := zpow_le_zpow_right₀ one_le_two (by omega)
      _ ≤ right.rounded := zpow_le_rounded rightPositive normal

/-- Ratios that are worth the same are rounded to the same pair. -/
theorem round_congr
    (positive : 0 < left.value)
    (same : left.value = right.value) :
    binary64.round left = binary64.round right := by
  have rightPositive := same ▸ positive
  have sameExponent : left.binaryExponent = right.binaryExponent := by
    apply le_antisymm
    · exact binaryExponent_le_binaryExponent positive same.le
    · exact binaryExponent_le_binaryExponent rightPositive same.ge
  have sameUnits (exponent : ℤ) :
      (left.inUnits exponent).value = (right.inUnits exponent).value := by
    rw [value_inUnits, value_inUnits, same]
  have sameNearest (exponent : ℤ) :
      (left.inUnits exponent).nearest = (right.inUnits exponent).nearest := by
    have leftDenominator := denominator_inUnits_pos positive exponent
    have rightDenominator := denominator_inUnits_pos rightPositive exponent
    apply le_antisymm
    · exact nearest_le_nearest leftDenominator rightDenominator (sameUnits exponent).le
    · exact nearest_le_nearest rightDenominator leftDenominator (sameUnits exponent).ge
  rw [round_of_nearest positive rfl (sameNearest _), round_of_nearest rightPositive rfl rfl,
    sameExponent]

end Ratio

namespace Binary64

/-! ## Finite numbers -/

/-- Finite numbers are ordered as their counts of smallest positive numbers. -/
theorem lt_iff_units_lt
    {left right : Binary64}
    (leftFinite : left.isFinite = true)
    (rightFinite : right.isFinite = true) :
    left.lt right = true ↔ left.units < right.units := by
  cases left with
  | nan | infinite =>
      cases leftFinite
  | finite =>
      cases right with
      | nan | infinite =>
          cases rightFinite
      | finite =>
          exact decide_eq_true_iff

/-- No number is both below another one and above it. -/
theorem lt_asymm
    {left right : Binary64}
    (below : left.lt right = true) :
    right.lt left = false := by
  cases left with
  | nan =>
      cases below
  | infinite negative =>
      cases right with
      | nan =>
          cases below
      | infinite otherNegative =>
          cases negative <;> cases otherNegative <;> simp [lt] at below ⊢
      | finite =>
          simp [lt] at below ⊢
          exact below
  | finite =>
      cases right with
      | nan =>
          cases below
      | infinite otherNegative =>
          simp [lt] at below ⊢
          exact below
      | finite =>
          have inOrder := (lt_iff_units_lt rfl rfl).mp below
          rw [Bool.eq_false_iff, Ne, lt_iff_units_lt rfl rfl]
          omega

@[simp] theorem isFinite_negate (number : Binary64) :
    number.negate.isFinite = number.isFinite := by
  cases number <;> rfl

@[simp] theorem units_negate (number : Binary64) :
    number.negate.units = -number.units := by
  cases number with
  | nan | infinite =>
      rfl
  | finite negative =>
      cases negative <;> simp [negate, units]

theorem ofRatio_true (ratio : Ratio) : ofRatio true ratio = (ofRatio false ratio).negate := by
  unfold ofRatio ofScaled
  split <;> rfl

theorem Represents.isFinite
    {number : Binary64}
    {value : ℚ}
    (represents : number.Represents value) :
    number.isFinite = true := by
  obtain ⟨mantissa, exponent, canonical, rfl, -⟩ := represents
  rfl

/-! ## Integers -/

theorem ofInt_of_nonneg
    {n : ℤ}
    (notNegative : 0 ≤ n) :
    ofInt n = ofNat n.natAbs := by
  rw [ofInt, ofNat, decide_eq_false (not_lt.mpr notNegative)]

theorem ofInt_of_neg
    {n : ℤ}
    (negative : n < 0) :
    ofInt n = (ofNat n.natAbs).negate := by
  rw [ofInt, ofNat, decide_eq_true negative, ofRatio_true]

/-- The number of a natural is what the natural is rounded to. -/
theorem represents_rounded
    {n : ℕ}
    (fits : n < 2 ^ 64) :
    (ofNat n).Represents (Ratio.mk n 1).rounded := by
  rcases Nat.eq_zero_or_pos n with rfl | positive
  · rw [Ratio.rounded_zero]
    exact_mod_cast represents_ofNat (n := 0) (by norm_num)
  · have inRange : InNormalRange (Ratio.mk n 1).value := by
      rw [Ratio.value_natural]
      constructor
      · calc
          (2 : ℚ) ^ (-1022 : ℤ) ≤ 2 ^ (0 : ℤ) := zpow_le_zpow_right₀ one_le_two (by norm_num)
          _ ≤ n := by
            rw [zpow_zero]
            exact_mod_cast positive
      · calc
          (n : ℚ) < 2 ^ (64 : ℤ) := by
            rw [zpow_ofNat]
            exact_mod_cast fits
          _ ≤ 2 ^ (1023 : ℤ) := zpow_le_zpow_right₀ one_le_two (by norm_num)
    obtain ⟨mantissa, exponent, isRounded, canonical, -⟩ := exists_round_eq inRange
    refine ⟨mantissa, exponent, canonical, ?_, ?_⟩
    · rw [ofNat, ofRatio, isRounded, ofScaled_of_canonical canonical]
    · rw [Ratio.rounded, isRounded]

theorem isFinite_ofInt
    {n : ℤ}
    (fits : n.natAbs < 2 ^ 64) :
    (ofInt n).isFinite = true := by
  rcases lt_or_ge n 0 with negative | notNegative
  · rw [ofInt_of_neg negative, isFinite_negate]
    exact (represents_rounded fits).isFinite
  · rw [ofInt_of_nonneg notNegative]
    exact (represents_rounded fits).isFinite

theorem units_ofNat_nonneg
    {n : ℕ}
    (fits : n < 2 ^ 64) :
    0 ≤ (ofNat n).units := by
  obtain ⟨units, isUnits, -⟩ := (represents_rounded fits).units_eq
  omega

theorem units_ofNat_le
    {n m : ℕ}
    (atMost : n ≤ m)
    (fits : m < 2 ^ 64) :
    (ofNat n).units ≤ (ofNat m).units := by
  obtain ⟨leftUnits, isLeft, leftValue⟩ :=
    (represents_rounded (atMost.trans_lt fits)).units_eq
  obtain ⟨rightUnits, isRight, rightValue⟩ := (represents_rounded fits).units_eq
  have inOrder : (Ratio.mk n 1).rounded ≤ (Ratio.mk m 1).rounded := by
    rcases Nat.eq_zero_or_pos n with rfl | positive
    · rw [Ratio.rounded_zero]
      exact Ratio.rounded_nonneg _
    · apply Ratio.rounded_le_rounded
      · rw [Ratio.value_natural]
        exact_mod_cast positive
      · rw [Ratio.value_natural, Ratio.value_natural]
        exact_mod_cast atMost
  have unit := two_zpow_pos 1074
  have scaled : (leftUnits : ℚ) ≤ rightUnits := by
    rw [leftValue, rightValue]
    gcongr
  rw [isLeft, isRight]
  exact_mod_cast scaled

/-- The number of an integer is not above that of an integer that is not below it. -/
theorem units_ofInt_le
    {n m : ℤ}
    (atMost : n ≤ m)
    (leftFits : n.natAbs < 2 ^ 64)
    (rightFits : m.natAbs < 2 ^ 64) :
    (ofInt n).units ≤ (ofInt m).units := by
  rcases lt_or_ge n 0 with leftNegative | leftNotNegative
  · rw [ofInt_of_neg leftNegative, units_negate]
    rcases lt_or_ge m 0 with rightNegative | rightNotNegative
    · rw [ofInt_of_neg rightNegative, units_negate]
      exact neg_le_neg (units_ofNat_le (by omega) leftFits)
    · rw [ofInt_of_nonneg rightNotNegative]
      have leftUnits := units_ofNat_nonneg leftFits
      have rightUnits := units_ofNat_nonneg rightFits
      omega
  · rw [ofInt_of_nonneg leftNotNegative, ofInt_of_nonneg (leftNotNegative.trans atMost)]
    exact units_ofNat_le (by omega) rightFits

/-- Up to `2 ^ 53` integers are held exactly. -/
theorem units_ofInt
    {n : ℤ}
    (small : n.natAbs ≤ 2 ^ 53) :
    (ofInt n).units = n * unitsPerOne := by
  have natural : (ofNat n.natAbs).units = n.natAbs * unitsPerOne := by
    rcases small.eq_or_lt with isEnd | inside
    · rw [isEnd]
      decide +kernel
    · obtain ⟨units, isUnits, isValue⟩ := (represents_ofNat inside).units_eq
      rw [← cast_unitsPerOne] at isValue
      rw [isUnits]
      exact_mod_cast isValue
  rcases lt_or_ge n 0 with negative | notNegative
  · rw [ofInt_of_neg negative, units_negate, natural, Int.ofNat_natAbs_of_nonpos negative.le, neg_mul,
      neg_neg]
  · rw [ofInt_of_nonneg notNegative, natural, Int.natAbs_of_nonneg notNegative]

/-- Integers whose numbers are in order are in order themselves. -/
theorem lt_of_ofInt_lt
    {n m : ℤ}
    (leftFits : n.natAbs < 2 ^ 64)
    (rightFits : m.natAbs < 2 ^ 64)
    (below : (ofInt n).lt (ofInt m) = true) :
    n < m := by
  rw [lt_iff_units_lt (isFinite_ofInt leftFits) (isFinite_ofInt rightFits)] at below
  by_contra notBelow
  exact absurd (units_ofInt_le (not_lt.mp notBelow) rightFits leftFits) (not_le.mpr below)

/-- Up to `2 ^ 53` integers are ordered as their numbers are. -/
theorem ofInt_lt_iff
    {n m : ℤ}
    (leftSmall : n.natAbs ≤ 2 ^ 53)
    (rightSmall : m.natAbs ≤ 2 ^ 53) :
    (ofInt n).lt (ofInt m) = true ↔ n < m := by
  have fits {k : ℤ} (small : k.natAbs ≤ 2 ^ 53) : k.natAbs < 2 ^ 64 := by omega
  have unitsPos : (0 : ℤ) < unitsPerOne := by exact_mod_cast twoTo_pos 1074
  rw [lt_iff_units_lt (isFinite_ofInt (fits leftSmall)) (isFinite_ofInt (fits rightSmall)),
    units_ofInt leftSmall, units_ofInt rightSmall]
  exact mul_lt_mul_iff_left₀ unitsPos

end Binary64

end FeatureFlags.Number
