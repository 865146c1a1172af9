import FeatureFlags.Number.Rounding

namespace FeatureFlags.Number

/-!
# Double-precision numbers

The values of the double-precision format and their arithmetic. A finite number
carries its canonical mantissa and last-place exponent, so equal data are equal
numbers; every operation is computed exactly and rounded once.
-/

/-- A double-precision number; the one `nan` stands for every payload. -/
inductive Binary64 where
  | nan
  | infinite (negative : Bool)
  | finite
      (negative : Bool)
      (mantissa : Nat)
      (exponent : Int)
      (canonical : binary64.Canonical mantissa exponent)
deriving DecidableEq

namespace Binary64

/--
The number with a given sign, mantissa and last-place exponent. A rounded pair
outside the format has too large an exponent and gives infinity.
-/
def ofScaled
    (negative : Bool)
    (scaled : Nat × Int) :
    Binary64 :=
  if canonical : binary64.Canonical scaled.1 scaled.2 then
    .finite negative scaled.1 scaled.2 canonical
  else
    .infinite negative

/-- The number nearest to a ratio with a given sign. -/
def ofRatio
    (negative : Bool)
    (ratio : Ratio) :
    Binary64 :=
  ofScaled negative (binary64.round ratio)

/-- The zero with a given sign. -/
def zero (negative : Bool) : Binary64 :=
  ofScaled negative (0, binary64.lowest)

/-- The number nearest to a natural. -/
def ofNat (n : Nat) : Binary64 :=
  ofRatio false ⟨n, 1⟩

/-- The number nearest to an integer. -/
def ofInt (n : Int) : Binary64 :=
  ofRatio (n < 0) ⟨n.natAbs, 1⟩

/-- How many of the smallest positive number make up the reciprocal of a unit. -/
def unitsPerOne : Nat := twoTo 1074

/-- A finite magnitude counted in smallest positive numbers. -/
def magnitude
    (mantissa : Nat)
    (exponent : Int) :
    Nat :=
  mantissa * twoTo (exponent - binary64.lowest).toNat

/-- A finite number counted in smallest positive numbers; other numbers count as zero. -/
def units : Binary64 → Int
  | .finite negative mantissa exponent _ =>
      if negative then -(magnitude mantissa exponent : Int) else magnitude mantissa exponent
  | _ => 0

/-- Whether the sign is negative. -/
def isNegative : Binary64 → Bool
  | .nan => false
  | .infinite negative => negative
  | .finite negative _ _ _ => negative

/-- Whether the number is neither infinite nor `nan`. -/
def isFinite : Binary64 → Bool
  | .finite _ _ _ _ => true
  | _ => false

/-- Whether the number is a zero of either sign. -/
def isZero : Binary64 → Bool
  | .finite _ mantissa _ _ => mantissa == 0
  | _ => false

/-- The number with the opposite sign. -/
def negate : Binary64 → Binary64
  | .nan => .nan
  | .infinite negative => .infinite !negative
  | .finite negative mantissa exponent canonical =>
      .finite (!negative) mantissa exponent canonical

/-- The sum, rounded once; opposite numbers cancel to the positive zero. -/
def add : Binary64 → Binary64 → Binary64
  | .nan, _ => .nan
  | _, .nan => .nan
  | .infinite left, .infinite right => if left = right then .infinite left else .nan
  | .infinite left, _ => .infinite left
  | _, .infinite right => .infinite right
  | left, right =>
      let sum := left.units + right.units
      if sum = 0 then
        zero (left.isNegative && right.isNegative)
      else
        ofRatio (sum < 0) ⟨sum.natAbs, unitsPerOne⟩

/-- The product, rounded once. -/
def mul
    (left right : Binary64) :
    Binary64 :=
  let negative := left.isNegative != right.isNegative
  match left, right with
  | .nan, _ => .nan
  | _, .nan => .nan
  | .infinite _, other => if other.isZero then .nan else .infinite negative
  | other, .infinite _ => if other.isZero then .nan else .infinite negative
  | _, _ =>
      ofRatio negative
        ⟨left.units.natAbs * right.units.natAbs, unitsPerOne * unitsPerOne⟩

/-- The quotient, rounded once. -/
def div
    (left right : Binary64) :
    Binary64 :=
  let negative := left.isNegative != right.isNegative
  match left, right with
  | .nan, _ => .nan
  | _, .nan => .nan
  | .infinite _, .infinite _ => .nan
  | .infinite _, _ => .infinite negative
  | _, .infinite _ => zero negative
  | _, _ =>
      if right.isZero then
        if left.isZero then .nan else .infinite negative
      else
        ofRatio negative ⟨left.units.natAbs, right.units.natAbs⟩

/-- Numeric order; `nan` is not below anything and nothing is below it. -/
def lt : Binary64 → Binary64 → Bool
  | .nan, _ => false
  | _, .nan => false
  | .infinite left, .infinite right => left && !right
  | .infinite left, _ => left
  | _, .infinite right => !right
  | left, right => left.units < right.units

/-- Numeric equality: the two zeros are equal and `nan` differs from itself. -/
def same : Binary64 → Binary64 → Bool
  | .nan, _ => false
  | _, .nan => false
  | .infinite left, .infinite right => left == right
  | .infinite _, _ => false
  | _, .infinite _ => false
  | left, right => left.units == right.units

/-- The greatest integer that is not above a finite number. -/
def floor (number : Binary64) : Int :=
  number.units / unitsPerOne

/-- Widen a single-precision magnitude, which the format holds exactly. -/
def ofBinary32
    (negative : Bool)
    (ratio : Ratio) :
    Binary64 :=
  let (mantissa, exponent) := binary32.round ratio
  if exponent ≤ binary32.highest then
    if 0 ≤ exponent then
      ofRatio negative ⟨mantissa * twoTo exponent.toNat, 1⟩
    else
      ofRatio negative ⟨mantissa, twoTo (-exponent).toNat⟩
  else
    .infinite negative

end Binary64

end FeatureFlags.Number
