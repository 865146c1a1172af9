import FeatureFlags.Digest
import FeatureFlags.Number.Binary64

namespace FeatureFlags

/-!
# Gradual rollout

A key and an attribute value are hashed together onto a scale of buckets, so that
raising a threshold adds subjects and never moves one. The scaling is done in
double precision because other evaluators of the same flags do it so.
-/

namespace Rollout

/-- The mask of the hash bits that are used, which is also the largest masked value. -/
def mask : Nat := 0xFFFFF

/-- The bucket of the largest masked value. -/
def scale : Nat := 100000

/-- The hashed text of a rollout key and an attribute value. -/
def subject
    (key value : String) :
    String :=
  key ++ "." ++ value

/-- The number whose base-256 digits are the first four bytes, the least significant first. -/
def littleEndianWord (bytes : List UInt8) : Nat :=
  (bytes.take 4).foldr (fun byte rest => byte.toNat + 256 * rest) 0

/-- The masked hash of a key and a value. -/
def maskedHash
    (key value : String) :
    Nat :=
  littleEndianWord (Digest.sha256 (subject key value).toUTF8.toList) % (mask + 1)

/-- Scale a masked hash onto the buckets in double precision. -/
def bucketOfMasked (masked : Nat) : Nat :=
  (((Number.Binary64.ofNat masked).div (.ofNat mask)).mul (.ofNat scale)).floor.toNat

/-- The bucket of a key and an attribute value. -/
def bucket
    (key value : String) :
    Nat :=
  bucketOfMasked (maskedHash key value)

end Rollout

end FeatureFlags
