import FeatureFlags.Number.Shortest

namespace FeatureFlags.Number

/-!
# Written numbers

The two ways in which a double-precision number is written: plain text, always
positional, and the numerals of documents, which mark a number as a fractional
one and use an exponent where the positional form would be long.
-/

namespace Expansion

/-- The positional form: digits, and a point if any digit follows it. -/
def positional (expansion : Expansion) : List Char :=
  let count : Int := expansion.digits.length
  if expansion.point ≤ 0 then
    ['0', '.'] ++ List.replicate (-expansion.point).toNat '0' ++ expansion.digits
  else if count ≤ expansion.point then
    expansion.digits ++ List.replicate (expansion.point - count).toNat '0'
  else
    expansion.digits.take expansion.point.toNat ++
      '.' :: expansion.digits.drop expansion.point.toNat

/-- The form with one digit before the point and a signed exponent. -/
def scientific (expansion : Expansion) : List Char :=
  let exponent := expansion.point - 1
  let sign := if exponent < 0 then '-' else '+'
  let fraction :=
    match expansion.digits.drop 1 with
    | [] => []
    | rest => '.' :: rest
  expansion.digits.take 1 ++ fraction ++ 'e' :: sign :: decimalDigits exponent.natAbs

end Expansion

/-- How the magnitude of a finite number is written. -/
structure NumeralStyle where
  /-- Which of two equally near shortest decimals is taken. -/
  tie : Tie
  /-- Whether an expansion is written with an exponent. -/
  usesExponent : Expansion → Bool
  /-- What marks a positional form without a point. -/
  wholeMark : List Char

/-- Plain text is always positional, and a whole number has no point. -/
def plainStyle : NumeralStyle where
  tie := .away
  usesExponent := fun _ => false
  wholeMark := []

/-- Documents use an exponent below `10^-5` and from `10^16` on, and mark whole numbers by `.0`. -/
def documentStyle : NumeralStyle where
  tie := .toEven
  usesExponent := fun expansion => expansion.point < -4 || 16 < expansion.point
  wholeMark := ['.', '0']

namespace NumeralStyle

/-- The text of an expansion. -/
def write
    (style : NumeralStyle)
    (expansion : Expansion) :
    List Char :=
  if style.usesExponent expansion then
    expansion.scientific
  else if expansion.digits.length ≤ expansion.point then
    expansion.positional ++ style.wholeMark
  else
    expansion.positional

end NumeralStyle

namespace Binary64

/-- The text of a number in a style, infinities and `nan` being spelled out. -/
def write
    (style : NumeralStyle) :
    Binary64 → String
  | .nan => "NaN"
  | .infinite false => "Infinity"
  | .infinite true => "-Infinity"
  | .finite negative mantissa exponent _ =>
      let text := style.write (shortest style.tie mantissa exponent)
      String.ofList (if negative then '-' :: text else text)

/-- The plain text of a number. -/
def toText (number : Binary64) : String :=
  number.write plainStyle

end Binary64

end FeatureFlags.Number
