import FeatureFlags.Json.Basic
import FeatureFlags.Json.Fault
import FeatureFlags.Number.Decimal
import FeatureFlags.Number.Power

namespace FeatureFlags.Json

/-!
# Numerals in JSON texts

The grammar of JSON numbers and the value that a reader gives them. Integers are
kept exactly while they fit a word. Every other numeral becomes the product of
its leading digits, as many as fit an unsigned word, and a power of ten; both
factors and their product are rounded, so the result may differ from the nearest
number in the last place.
-/

open FeatureFlags.Number (Binary64 digitValue naturalOfDigits readDigits)

/-- A JSON numeral taken apart; an exponent keeps its sign apart from its digits. -/
structure Numeral where
  negative : Bool
  whole : List Char
  fraction : Option (List Char)
  exponent : Option (Bool × List Char)

/--
The outcome of reading a numeral. One that breaks off has a cause for the reader
of values and another for a reader who only skips it.
-/
inductive NumeralScan where
  | found (numeral : Numeral) (rest : List Char)
  | broken (reading skipping : Fault)

/-- The outcome where a digit is wanted and `text` follows. -/
def digitWanted : List Char → NumeralScan
  | [] => .broken .endInValue .invalidNumber
  | _ :: _ => .broken .invalidNumber .invalidNumber

/-- Read the exponent of a numeral, if it has one. -/
def scanExponent
    (negative : Bool)
    (whole : List Char)
    (fraction : Option (List Char)) :
    List Char → NumeralScan
  | [] => .found ⟨negative, whole, fraction, none⟩ []
  | mark :: text =>
      if mark = 'e' ∨ mark = 'E' then
        let (lowered, text) := Number.readSign text
        match readDigits text with
        | ([], _) => digitWanted text
        | (digits, rest) => .found ⟨negative, whole, fraction, some (lowered, digits)⟩ rest
      else
        .found ⟨negative, whole, fraction, none⟩ (mark :: text)

/-- Read what follows the whole part of a numeral. -/
def scanFraction
    (negative : Bool)
    (whole : List Char) :
    List Char → NumeralScan
  | '.' :: text =>
      match readDigits text with
      | ([], _) => digitWanted text
      | (digits, rest) => scanExponent negative whole (some digits) rest
  | text => scanExponent negative whole none text

/-- Read a numeral after its sign; a leading zero stands alone. -/
def scanWhole
    (negative : Bool)
    (text : List Char) :
    NumeralScan :=
  match readDigits text with
  | ([], _) => digitWanted text
  | (['0'], rest) => scanFraction negative ['0'] rest
  | ('0' :: _, _) => .broken .invalidNumber .invalidNumber
  | (digits, rest) => scanFraction negative digits rest

/-- Read the numeral in front of a text that begins with a minus or a digit. -/
def scanNumeral : List Char → NumeralScan
  | '-' :: text => scanWhole true text
  | text => scanWhole false text

/--
Append digits to a natural while it fits an unsigned word; what does not fit is
left over.
-/
def absorb
    (significand : Nat) :
    List Char → Nat × List Char
  | [] => (significand, [])
  | digit :: rest =>
      if significand * 10 + digitValue digit ≤ highestUnsigned then
        absorb (significand * 10 + digitValue digit) rest
      else
        (significand, digit :: rest)

/-- The largest power of ten that a scaling step multiplies or divides by. -/
def largestPower : Nat := 308

/-- The rounded power of ten with an exponent of at most `largestPower`. -/
def powerOfTen (exponent : Nat) : Binary64 :=
  .ofNat (Number.tenTo exponent)

/-- Divide by ten often enough to bring a very low exponent into the range of single steps. -/
def lowerStepwise
    (number : Binary64)
    (exponent : Int) :
    Binary64 × Int :=
  if exponent < -largestPower ∧ !number.isZero then
    lowerStepwise (number.div (powerOfTen largestPower)) (exponent + largestPower)
  else
    (number, exponent)
termination_by exponent.natAbs
decreasing_by
  simp only [largestPower] at *
  omega

/-- A significand times a power of ten in double precision; too large a product is a fault. -/
def scaleSignificand
    (significand : Nat)
    (exponent : Int) :
    Except Fault Binary64 :=
  let (number, exponent) := lowerStepwise (.ofNat significand) exponent
  if exponent < -largestPower then
    .ok number
  else if exponent < 0 then
    .ok (number.div (powerOfTen exponent.natAbs))
  else if largestPower < exponent then
    if number.isZero then .ok number else .error .numberOutOfRange
  else
    let product := number.mul (powerOfTen exponent.toNat)
    if product.isFinite then .ok product else .error .numberOutOfRange

namespace Numeral

/-- The written exponent as an integer. -/
def exponentValue (numeral : Numeral) : Int :=
  match numeral.exponent with
  | none => 0
  | some (true, digits) => -(naturalOfDigits digits : Int)
  | some (false, digits) => naturalOfDigits digits

/-- The value of a numeral as a double-precision number. -/
def floatValue (numeral : Numeral) : Except Fault Binary64 := do
  let (significand, surplus) := absorb 0 numeral.whole
  let fraction := numeral.fraction.getD []
  let (significand, ignored) := absorb significand fraction
  let used : Int := fraction.length - ignored.length
  let magnitude ←
    scaleSignificand significand (surplus.length - used + numeral.exponentValue)
  return if numeral.negative then magnitude.negate else magnitude

/-- Whether a numeral has neither fraction nor exponent. -/
def isWhole (numeral : Numeral) : Bool :=
  numeral.fraction.isNone && numeral.exponent.isNone

/-- The value of a numeral: an integer if it is written as one and fits a word. -/
def value (numeral : Numeral) : Except Fault Tree :=
  let magnitude := naturalOfDigits numeral.whole
  if numeral.isWhole && magnitude ≤ highestUnsigned then
    if !numeral.negative then
      .ok (.integer magnitude)
    else if magnitude ≠ 0 ∧ lowestSigned ≤ -(magnitude : Int) then
      .ok (.integer (-(magnitude : Int)))
    else
      .ok (.float (Binary64.ofNat magnitude).negate)
  else
    numeral.floatValue.map .float

end Numeral

end FeatureFlags.Json
