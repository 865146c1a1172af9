import FeatureFlags.Number.Binary64
import FeatureFlags.Number.Shortest
import FeatureFlags.Text.Blank

namespace FeatureFlags.Number

/-!
# Decimal numerals

The grammar of decimal numerals in text, their exact value, and the nearest
double-precision number. A numeral is an optional sign, digits with an optional
point among or beside them, and an optional exponent; all digits are ASCII.
-/

/-- A decimal numeral taken apart. -/
structure Decimal where
  negative : Bool
  whole : List Char
  fraction : List Char
  exponent : Int

/-- The value of a decimal digit. -/
def digitValue (c : Char) : Nat :=
  c.toNat - '0'.toNat

/-- The natural written by a list of digits. -/
def naturalOfDigits (digits : List Char) : Nat :=
  digits.foldl (fun value digit => value * 10 + digitValue digit) 0

/-- An optional sign in front of a text. -/
def readSign : List Char → Bool × List Char
  | '-' :: rest => (true, rest)
  | '+' :: rest => (false, rest)
  | text => (false, text)

/-- The digits in front of a text. -/
def readDigits (text : List Char) : List Char × List Char :=
  (text.takeWhile Char.isDigit, text.dropWhile Char.isDigit)

/-- The exponent that a whole text spells, zero for no text. -/
def readExponent? : List Char → Option Int
  | [] => some 0
  | mark :: text =>
      if mark = 'e' ∨ mark = 'E' then
        let (negative, text) := readSign text
        let (digits, rest) := readDigits text
        if digits.isEmpty || !rest.isEmpty then
          none
        else
          let magnitude : Int := naturalOfDigits digits
          some (if negative then -magnitude else magnitude)
      else
        none

/-- The digits after a point, if there is one. -/
def readFraction : List Char → List Char × List Char
  | '.' :: text => readDigits text
  | text => ([], text)

namespace Decimal

/-- The numeral that a whole text spells. -/
def read? (text : List Char) : Option Decimal :=
  let (negative, text) := readSign text
  let (whole, text) := readDigits text
  let (fraction, text) := readFraction text
  if whole.isEmpty && fraction.isEmpty then
    none
  else
    (readExponent? text).map fun exponent => ⟨negative, whole, fraction, exponent⟩

/-- The written digits as one natural. -/
def coefficient (numeral : Decimal) : Nat :=
  naturalOfDigits (numeral.whole ++ numeral.fraction)

/-- The power of ten that the coefficient is multiplied by. -/
def scale (numeral : Decimal) : Int :=
  numeral.exponent - numeral.fraction.length

/-- The magnitude of a coefficient times a power of ten. -/
def ratioOf
    (coefficient : Nat)
    (scale : Int) :
    Ratio :=
  ⟨coefficient * tenTo scale.toNat, tenTo (-scale).toNat⟩

/--
The magnitude as a ratio. Magnitudes that every format of this library rounds to
infinity or to zero are replaced by a representative of the same fate, so that no
power of ten is larger than the formats need.
-/
def ratio (numeral : Decimal) : Ratio :=
  let coefficient := numeral.coefficient
  let leading : Int := (decimalDigits coefficient).length + numeral.scale
  if coefficient = 0 then
    ⟨0, 1⟩
  else if 310 < leading then
    ratioOf 1 310
  else if leading < -330 then
    ratioOf 1 (-330)
  else
    ratioOf coefficient numeral.scale

/-- The double-precision number nearest to the numeral. -/
def toBinary64 (numeral : Decimal) : Binary64 :=
  .ofRatio numeral.negative numeral.ratio

/-- The single-precision number nearest to the numeral, widened. -/
def toBinary32 (numeral : Decimal) : Binary64 :=
  .ofBinary32 numeral.negative numeral.ratio

end Decimal

/-- A number as it is spelled: a decimal numeral, infinity, or `nan`. -/
inductive Spelled where
  | decimal (numeral : Decimal)
  | infinity (negative : Bool)
  | nan

namespace Spelled

/-- The double-precision number nearest to a spelled one. -/
def toBinary64 : Spelled → Binary64
  | .decimal numeral => numeral.toBinary64
  | .infinity negative => .infinite negative
  | .nan => .nan

/-- The single-precision number nearest to a spelled one, widened. -/
def toBinary32 : Spelled → Binary64
  | .decimal numeral => numeral.toBinary32
  | .infinity negative => .infinite negative
  | .nan => .nan

/-- The number that a whole text spells; the words for infinity and `nan` count in any case. -/
def read? (text : List Char) : Option Spelled :=
  let (negative, word) := readSign text
  let word := word.map Char.toLower
  if word = "inf".toList ∨ word = "infinity".toList then
    some (.infinity negative)
  else if word = "nan".toList then
    some .nan
  else
    (Decimal.read? text).map .decimal

end Spelled

/-- Whether a character is an ASCII letter other than the marks of an exponent. -/
def isForeignLetter (c : Char) : Bool :=
  c.isAlpha && c != 'e' && c != 'E'

namespace Binary64

/--
The number that a text spells after blanks at its ends are dropped: one of the exact
spellings of the numbers that have no numeral, or any spelling without foreign letters,
which rules out the other words for those numbers.
-/
def ofText? (text : String) : Option Binary64 :=
  let trimmed := Text.trim text.toList
  if trimmed = "Infinity".toList ∨ trimmed = "+Infinity".toList then
    some (.infinite false)
  else if trimmed = "-Infinity".toList then
    some (.infinite true)
  else if trimmed = "NaN".toList then
    some .nan
  else if trimmed.any isForeignLetter then
    none
  else
    (Spelled.read? trimmed).map Spelled.toBinary64

end Binary64

end FeatureFlags.Number
