import FeatureFlags.Proofs.Number.Nearest
import FeatureFlags.Proofs.Table
import FeatureFlags.Proofs.Targeting.Reading

namespace FeatureFlags

/-!
# Buckets

The buckets of a rollout run from `0` up to and including `100000`: the masked hash is
scaled by its own largest value, and two roundings do not change the whole part, so that
`bucket_exact` counts buckets in whole numbers. A share of `100000` therefore misses the
values whose masked hash is the largest one, which only a higher threshold reaches, as
`run_rollout_atEnds` says.
-/

namespace Rollout

open FeatureFlags.Number (Binary64 InNormalRange Near two_zpow_pos)
open FeatureFlags.Number.Binary64 (RoundsTo)

/-! ## Hashing -/

/--
The low twenty bits of the number whose four bytes, the least significant first, are the
first of a digest.
-/
def IsMaskedDigest
    (digest : List UInt8)
    (masked : ℕ) :
    Prop :=
  ∃ first second third fourth rest,
    digest = first :: second :: third :: fourth :: rest ∧
      masked =
        (first.toNat + 2 ^ 8 * second.toNat + 2 ^ 16 * third.toNat + 2 ^ 24 * fourth.toNat) %
          2 ^ 20

/-- A digest has more than the four bytes that are used of it. -/
private theorem exists_sha256_eq (message : List UInt8) :
    ∃ first second third fourth rest,
      Digest.sha256 message = first :: second :: third :: fourth :: rest :=
  ⟨_, _, _, _, _, rfl⟩

theorem isMaskedDigest_maskedHash (key value : String) :
    IsMaskedDigest (Digest.sha256 (key ++ "." ++ value).toUTF8.toList) (maskedHash key value) := by
  obtain ⟨first, second, third, fourth, rest, isDigest⟩ :=
    exists_sha256_eq (key ++ "." ++ value).toUTF8.toList
  refine ⟨first, second, third, fourth, rest, isDigest, ?_⟩
  rw [maskedHash, subject, isDigest]
  simp only [littleEndianWord, mask, List.take, List.foldr]
  omega

/-! ## Scaling -/

theorem maskedHash_le (key value : String) : maskedHash key value ≤ mask :=
  Nat.lt_succ_iff.mp (Nat.mod_lt _ (Nat.succ_pos mask))

/-- From half a millionth to a million the format loses no precision. -/
private theorem inNormalRange_of_bounds
    {value : ℚ}
    (low : 1 / 2000000 ≤ value)
    (high : value ≤ 1000000) :
    InNormalRange value where
  low :=
    calc
      (2 : ℚ) ^ (-1022 : ℤ) ≤ 2 ^ (-21 : ℤ) := zpow_le_zpow_right₀ one_le_two (by norm_num)
      _ ≤ 1 / 2000000 := by norm_num
      _ ≤ value := low
  high :=
    calc
      value ≤ 1000000 := high
      _ < 2 ^ (20 : ℤ) := by norm_num
      _ ≤ 2 ^ (1023 : ℤ) := zpow_le_zpow_right₀ one_le_two (by norm_num)

/-- What a masked hash is scaled to when the share of the mask and the part of the scale are
both rounded. -/
def RoundsTwice
    (masked : ℕ)
    (scaled : ℚ) :
    Prop :=
  ∃ share, RoundsTo (masked / mask) share ∧ RoundsTo (share * scale) scaled

/--
Dividing by the mask and multiplying by the scale rounds twice, and is wrong by less than a
part of the mask.
-/
private theorem exists_scaled
    {masked : ℕ}
    (positive : 0 < masked)
    (atMost : masked ≤ mask) :
    ∃ scaled : ℚ,
      (((Binary64.ofNat masked).div (.ofNat mask)).mul (.ofNat scale)).Represents scaled ∧
        RoundsTwice masked scaled ∧
        |scaled - masked * scale / mask| < 1 / mask := by
  have maskedLow : (1 : ℚ) ≤ masked := by exact_mod_cast positive
  have maskedHigh : (masked : ℚ) ≤ 1048575 := by exact_mod_cast atMost
  have isMask : ((mask : ℕ) : ℚ) = 1048575 := by norm_num [mask]
  have isScale : ((scale : ℕ) : ℚ) = 100000 := by norm_num [scale]
  have maskedHeld : (Binary64.ofNat masked).Represents masked :=
    Binary64.represents_ofNat (atMost.trans_lt (by decide))
  have maskHeld : (Binary64.ofNat mask).Represents mask := Binary64.represents_ofNat (by decide)
  have scaleHeld : (Binary64.ofNat scale).Represents scale := Binary64.represents_ofNat (by decide)
  obtain ⟨share, isShare, shareNear⟩ :=
    Binary64.exists_div maskedHeld maskHeld
      (inNormalRange_of_bounds (by rw [isMask, le_div_iff₀ (by norm_num)]; linarith)
        (by rw [isMask, div_le_iff₀ (by norm_num)]; linarith))
  obtain ⟨shareLow, shareHigh⟩ := abs_le.mp shareNear
  have exactShare : (masked : ℚ) * 100000 / 1048575 = masked / 1048575 * 100000 := by ring
  rw [isMask] at shareLow shareHigh
  have ratioLow : (1 : ℚ) / 1048575 ≤ masked / 1048575 := by gcongr
  have ratioHigh : (masked : ℚ) / 1048575 ≤ 1 := by rwa [div_le_one (by norm_num)]
  obtain ⟨scaled, isScaled, scaledNear⟩ :=
    Binary64.exists_mul isShare scaleHeld
      (inNormalRange_of_bounds (by rw [isScale]; linarith) (by rw [isScale]; linarith))
  obtain ⟨scaledLow, scaledHigh⟩ := abs_le.mp scaledNear
  rw [isScale] at scaledLow scaledHigh
  have roundsTwice : RoundsTwice masked scaled :=
    ⟨share, maskedHeld.roundsTo_div maskHeld (by norm_num [mask]) isShare,
      isShare.roundsTo_mul scaleHeld isScaled⟩
  refine ⟨scaled, isScaled, roundsTwice, ?_⟩
  rw [isMask, isScale, exactShare, abs_lt]
  constructor <;> linarith

/-- The masked hashes that are scaled to a whole number, one by one. -/
private theorem bucketOfMasked_whole :
    ∀ step < 26, bucketOfMasked (41943 * step) = 4000 * step := by
  decide +kernel

/--
The two roundings never change the bucket: it is the whole part of the quotient. Where the
quotient is not a whole number it is further from one than the roundings can take it.
-/
theorem bucketOfMasked_eq
    {masked : ℕ}
    (atMost : masked ≤ mask) :
    bucketOfMasked masked = masked * scale / mask := by
  have division := Nat.div_add_mod (masked * scale) mask
  have remainderLt := Nat.mod_lt (masked * scale) (show 0 < mask by decide)
  by_cases whole : masked * scale % mask = 0
  · -- The mask and the scale share a factor, so that every step of `41943` is whole.
    have coprime : Nat.Coprime 41943 scale := by decide +kernel
    have divides : 41943 ∣ masked * scale :=
      (show 41943 ∣ mask by decide).trans (Nat.dvd_of_mod_eq_zero whole)
    obtain ⟨step, rfl⟩ := coprime.dvd_of_dvd_mul_right divides
    simp only [mask, scale] at atMost ⊢
    rw [bucketOfMasked_whole step (by omega)]
    omega
  · have positive : 0 < masked := by
      rcases Nat.eq_zero_or_pos masked with rfl | positive
      · exact absurd (by simp) whole
      · exact positive
    obtain ⟨scaled, represents, -, near⟩ := exists_scaled positive atMost
    have isFloor : ⌊scaled⌋ = ((masked * scale / mask : ℕ) : ℤ) := by
      generalize masked * scale / mask = quotient at *
      generalize masked * scale % mask = remainder at *
      have maskPos : (0 : ℚ) < mask := by norm_num [mask]
      have exact : (masked * scale / mask : ℚ) = quotient + remainder / mask := by
        rw [div_eq_iff maskPos.ne', add_mul, div_mul_cancel₀ _ maskPos.ne', mul_comm (quotient : ℚ)]
        exact_mod_cast division.symm
      have notWhole : 1 / (mask : ℚ) ≤ remainder / mask := by
        gcongr
        exact_mod_cast Nat.pos_of_ne_zero whole
      have notNext : (remainder : ℚ) / mask + 1 / mask ≤ 1 := by
        rw [← add_div, div_le_one maskPos]
        exact_mod_cast remainderLt
      obtain ⟨nearLow, nearHigh⟩ := abs_lt.mp near
      rw [Int.floor_eq_iff, Int.cast_natCast]
      constructor <;> linarith
    rw [bucketOfMasked, represents.floor_eq, isFloor, Int.toNat_natCast]

/-! ## The last bucket -/

/-- A bucket is at most the scale, and only the largest masked hash gets there. -/
theorem bucket_le_scale (key value : String) :
    bucket key value ≤ scale ∧
      (bucket key value = scale ↔ maskedHash key value = mask) := by
  have atMost := maskedHash_le key value
  rw [bucket, bucketOfMasked_eq atMost]
  simp only [mask, scale] at *
  omega

/-! ## Exactness -/

/-- The bucket of a masked hash is the floor of what it is scaled to in double precision. -/
theorem exists_floor_eq_bucketOfMasked
    {masked : ℕ}
    (atMost : masked ≤ mask) :
    ∃ scaled, RoundsTwice masked scaled ∧ ⌊scaled⌋ = bucketOfMasked masked := by
  rcases Nat.eq_zero_or_pos masked with rfl | positive
  · have isZero : RoundsTo 0 0 :=
      ⟨.zero false, Binary64.isNearest_zero le_rfl (two_zpow_pos _).le false,
        0, -1074, by decide, rfl, by simp⟩
    refine ⟨0, ⟨0, ?_, ?_⟩, ?_⟩
    · rwa [Nat.cast_zero, zero_div]
    · rwa [zero_mul]
    · rw [bucketOfMasked_whole 0 (by decide), Int.floor_zero, Nat.mul_zero, Nat.cast_zero]
  · obtain ⟨scaled, represents, roundsTwice, -⟩ := exists_scaled positive atMost
    refine ⟨scaled, roundsTwice, ?_⟩
    rw [bucketOfMasked, represents.floor_eq,
      Int.toNat_of_nonneg (Int.floor_nonneg.mpr represents.nonneg)]

/--
The bucket of a key and a value is found by dividing, multiplying and taking the floor in
double precision, and it is the exact whole quotient. So it grows with the masked hash, up
to the scale.
-/
theorem bucket_exact :
    (∀ key value,
      IsMaskedDigest (Digest.sha256 (key ++ "." ++ value).toUTF8.toList) (maskedHash key value) ∧
        (∃ scaled, RoundsTwice (maskedHash key value) scaled ∧ ⌊scaled⌋ = bucket key value) ∧
        bucket key value = maskedHash key value * 100000 / 1048575 ∧
        bucket key value ≤ 100000) ∧
      ∀ key value other otherValue,
        maskedHash key value ≤ maskedHash other otherValue →
        bucket key value ≤ bucket other otherValue := by
  have isQuotient (key value : String) :
      bucket key value = maskedHash key value * 100000 / 1048575 :=
    bucketOfMasked_eq (maskedHash_le key value)
  constructor
  · intro key value
    exact ⟨isMaskedDigest_maskedHash key value,
      exists_floor_eq_bucketOfMasked (maskedHash_le key value), isQuotient key value,
      (bucket_le_scale key value).1⟩
  · intro key value other otherValue atMost
    rw [isQuotient, isQuotient]
    gcongr

/--
A masked hash with a whole quotient, which the two roundings take above it, stays in its
bucket, and a lower one is in a lower bucket.
-/
theorem bucket_exact_whole :
    maskedHash "flag" "u1186587" = 7 * 41943 ∧
      bucket "flag" "u1186587" = 28000 ∧
      bucket "new-checkout" "user-1" = 27904 ∧
      bucket "new-checkout" "user-1" ≤ bucket "flag" "u1186587" := by
  have whole : maskedHash "flag" "u1186587" = 7 * 41943 := by decide +kernel
  have lower : maskedHash "new-checkout" "user-1" = 292602 := by decide +kernel
  obtain ⟨exact, grows⟩ := bucket_exact
  obtain ⟨-, -, isQuotient, -⟩ := exact "flag" "u1186587"
  obtain ⟨-, -, isLower, -⟩ := exact "new-checkout" "user-1"
  refine ⟨whole, ?_, ?_, grows _ _ _ _ ?_⟩
  · rw [isQuotient, whole]
  · rw [isLower, lower]
  · rw [whole, lower]
    decide

end Rollout

namespace Targeting

/-! ## Shares at the ends of the scale -/

/-- What the ends of the scale of thresholds mean for an attribute value that is there. -/
structure RolloutShare.ReachesAtEnds
    (share : RolloutShare)
    (value : Value)
    (reached : Bool) :
    Prop where
  /-- The whole scale reaches everybody but those in the last bucket. -/
  whole :
    share.threshold = 100000 →
      (reached = true ↔ Rollout.maskedHash share.key value.toText ≠ Rollout.mask)
  /-- Above the scale there is nobody left. -/
  above :
    100000 < share.threshold → reached = true
  none :
    share.threshold ≤ 0 → reached = false

theorem RolloutShare.reachesAtEnds
    (share : RolloutShare)
    (value : Value) :
    share.ReachesAtEnds value (share.reaches value) := by
  obtain ⟨atMost, isLast⟩ := Rollout.bucket_le_scale share.key value.toText
  have limit : (100000 : Int64).toInt = 100000 := rfl
  simp only [Rollout.scale] at atMost isLast
  constructor
  · intro isWhole
    rw [Ne, ← isLast, reaches, isWhole, limit, decide_eq_true_eq]
    omega
  · intro isAbove
    rw [Int64.lt_iff_toInt_lt, limit] at isAbove
    rw [reaches, decide_eq_true_eq]
    omega
  · intro isNone
    rw [Int64.le_iff_toInt_le] at isNone
    rw [reaches, decide_eq_false_iff_not]
    have zero : (0 : Int64).toInt = 0 := rfl
    omega

/--
Buckets run from zero to the scale, both included, and the last one is that of the largest
masked hash. So a rollout at a present attribute reaches nobody at zero and below, reaches
all but the last bucket at the whole scale and everybody above it, and reports nothing.
-/
theorem run_rollout_atEnds :
    (∀ key text,
        Rollout.bucket key text ≤ 100000 ∧
          (Rollout.bucket key text = 100000 ↔ Rollout.maskedHash key text = Rollout.mask)) ∧
      ∀ (share : RolloutShare) (fields : Fields) (value : Value),
        fields.get? share.field = some value →
        ∀ now issues, ∃ reached,
          (Condition.ofFilter (.rollout share)).run fields now issues = (reached, issues) ∧
            share.ReachesAtEnds value reached := by
  refine ⟨Rollout.bucket_le_scale, fun share fields value isPresent now issues => ?_⟩
  refine ⟨share.reaches value, ?_, share.reachesAtEnds value⟩
  rw [(Reads.rolledOut isPresent).run issues, List.append_nil, RolloutShare.reaches]

/--
The user in the last bucket is left out of a share of the whole scale, which another user is
in, and reached by the next higher threshold.
-/
theorem run_rollout_atEnds_lastBucket :
    let share (threshold : Int64) : RolloutShare := ⟨"flag", "user.id", threshold⟩
    let user (id : String) : Fields := Table.empty.insert "user.id" (.text id)
    let run (threshold : Int64) (id : String) : Outcome :=
      (Condition.ofFilter (.rollout (share threshold))).run (user id) ⟨0, 0⟩ []
    Rollout.maskedHash "flag" "u805238" = Rollout.mask ∧
      Rollout.maskedHash "flag" "u1" ≠ Rollout.mask ∧
      run 100000 "u805238" = (false, []) ∧ run 100000 "u1" = (true, []) ∧
      run 100001 "u805238" = (true, []) ∧ run 0 "u1" = (false, []) := by
  intro share user run
  have isLast : Rollout.maskedHash "flag" "u805238" = Rollout.mask := by decide +kernel
  have isOther : Rollout.maskedHash "flag" "u1" ≠ Rollout.mask := by decide +kernel
  obtain ⟨-, atEnds⟩ := run_rollout_atEnds
  have outcome (threshold : Int64) (id : String) :
      ∃ reached,
        run threshold id = (reached, []) ∧
          (share threshold).ReachesAtEnds (.text id) reached :=
    atEnds (share threshold) (user id) (.text id) (by simp [user, share])
      ⟨0, 0⟩ []
  refine ⟨isLast, isOther, ?_, ?_, ?_, ?_⟩
  · obtain ⟨reached, ran, ends⟩ := outcome 100000 "u805238"
    rw [ran, Bool.eq_false_iff.mpr fun isReached => (ends.whole rfl).mp isReached isLast]
  · obtain ⟨reached, ran, ends⟩ := outcome 100000 "u1"
    rw [ran, (ends.whole rfl).mpr isOther]
  · obtain ⟨reached, ran, ends⟩ := outcome 100001 "u805238"
    rw [ran, ends.above (by decide)]
  · obtain ⟨reached, ran, ends⟩ := outcome 0 "u1"
    rw [ran, ends.none (by decide)]

/-- A share of the whole scale does not reach the user in the last bucket, which is the scale. -/
theorem not_wholeReachesEverybody :
    (¬ ∀ (share : RolloutShare) (fields : Fields) (value : Value),
        fields.get? share.field = some value →
        share.threshold = 100000 →
        ∀ now issues,
          (Condition.ofFilter (.rollout share)).run fields now issues = (true, issues)) ∧
      ¬ ∀ key text, Rollout.bucket key text < 100000 := by
  constructor
  · intro reachesEverybody
    have reached :=
      reachesEverybody ⟨"flag", "user.id", 100000⟩
        (Table.empty.insert "user.id" (.text "u805238")) (.text "u805238") rfl rfl ⟨0, 0⟩ []
    exact absurd (congrArg Prod.fst reached) (by decide +kernel)
  · intro isBelow
    exact absurd (isBelow "flag" "u805238") (by decide +kernel)

end Targeting

end FeatureFlags
