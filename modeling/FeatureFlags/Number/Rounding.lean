import FeatureFlags.Number.Power

namespace FeatureFlags.Number

/-!
# Rounding to a binary format

Arithmetic of this library is exact until a result is put into a binary format.
A ratio of naturals is scaled to the format's last place and its quotient is
rounded to the nearest integer, a tie going to the even neighbour.
-/

/-- A non-negative rational as a pair, the denominator being positive where it is used. -/
structure Ratio where
  numerator : Nat
  denominator : Nat

namespace Ratio

/-- The ratio measured in units of `2 ^ exponent`. -/
def inUnits
    (ratio : Ratio)
    (exponent : Int) :
    Ratio :=
  if 0 ≤ exponent then
    ⟨ratio.numerator, ratio.denominator * twoTo exponent.toNat⟩
  else
    ⟨ratio.numerator * twoTo (-exponent).toNat, ratio.denominator⟩

/-- The exponent of the largest power of two that is not above a positive ratio. -/
def binaryExponent (ratio : Ratio) : Int :=
  let guess : Int := (ratio.numerator.log2 : Int) - ratio.denominator.log2
  let scaled := ratio.inUnits guess
  if scaled.denominator ≤ scaled.numerator then guess else guess - 1

/-- The nearest natural, a tie going to the even neighbour. -/
def nearest (ratio : Ratio) : Nat :=
  let quotient := ratio.numerator / ratio.denominator
  let remainder := ratio.numerator % ratio.denominator
  if 2 * remainder < ratio.denominator then quotient
  else if ratio.denominator < 2 * remainder then quotient + 1
  else quotient + quotient % 2

end Ratio

/--
A binary format: the number of significant bits, and the lowest and highest
exponent of the last place.
-/
structure BinaryFormat where
  precision : Nat
  lowest : Int
  highest : Int

/-- The double-precision format. -/
def binary64 : BinaryFormat := ⟨53, -1074, 971⟩

/-- The single-precision format. -/
def binary32 : BinaryFormat := ⟨24, -149, 104⟩

namespace BinaryFormat

/-- Whether a mantissa and the exponent of its last place are a number's one form in the format. -/
def Canonical
    (format : BinaryFormat)
    (mantissa : Nat)
    (exponent : Int) :
    Prop :=
  mantissa < twoTo format.precision ∧
    format.lowest ≤ exponent ∧
    exponent ≤ format.highest ∧
    (twoTo (format.precision - 1) ≤ mantissa ∨ exponent = format.lowest)

instance
    (format : BinaryFormat)
    (mantissa : Nat)
    (exponent : Int) :
    Decidable (format.Canonical mantissa exponent) :=
  inferInstanceAs (Decidable (_ ∧ _ ∧ _ ∧ _))

/--
The mantissa and last-place exponent nearest to a ratio, the exponent being
unbounded above: a result above the format's highest exponent is an overflow.
-/
def round
    (format : BinaryFormat)
    (ratio : Ratio) :
    Nat × Int :=
  if ratio.numerator = 0 then
    (0, format.lowest)
  else
    let exponent := max format.lowest (ratio.binaryExponent - (format.precision - 1))
    let mantissa := (ratio.inUnits exponent).nearest
    if mantissa = twoTo format.precision then
      (twoTo (format.precision - 1), exponent + 1)
    else
      (mantissa, exponent)

end BinaryFormat

end FeatureFlags.Number
