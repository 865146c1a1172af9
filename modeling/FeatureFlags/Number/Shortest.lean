import FeatureFlags.Number.Binary64

namespace FeatureFlags.Number

/-!
# Shortest decimals

The decimals that read back as a given number form an interval around it. On the
coarsest decimal grid that meets the interval the nearest point is the number's
shortest decimal.
-/

/-- Which of two equally near neighbours is taken. -/
inductive Tie where
  | toEven
  | away

/--
The decimal expansion of a magnitude: its digits, without zeros at either end, and
how many of them stand before the point. The count may be negative or exceed the
number of digits, zeros filling the gap.
-/
structure Expansion where
  digits : List Char
  point : Int

/-- The expansion of zero. -/
def Expansion.zero : Expansion := ⟨['0'], 1⟩

/-- The decimal digits of a natural. -/
def decimalDigits (n : Nat) : List Char :=
  Nat.toDigits 10 n

/-- The exponent of the largest power of ten that is not above a positive ratio. -/
def Ratio.decimalExponent (ratio : Ratio) : Int :=
  if ratio.denominator ≤ ratio.numerator then
    (decimalDigits (ratio.numerator / ratio.denominator)).length - 1
  else
    -((decimalDigits ((ratio.denominator - 1) / ratio.numerator)).length : Int)

/--
A positive number beside the interval of magnitudes that round to it. Everything
is counted in quarters of the last place; the ends belong to the interval when
the mantissa is even.
-/
structure RoundingInterval where
  low : Nat
  centre : Nat
  high : Nat
  closed : Bool
  exponent : Int

/-- The interval of a positive mantissa and the exponent of its last place. -/
def RoundingInterval.of
    (mantissa : Nat)
    (exponent : Int) :
    RoundingInterval where
  low :=
    if mantissa = twoTo (binary64.precision - 1) ∧ exponent ≠ binary64.lowest then
      4 * mantissa - 1
    else
      4 * mantissa - 2
  centre := 4 * mantissa
  high := 4 * mantissa + 2
  closed := mantissa % 2 == 0
  exponent := exponent - 2

namespace RoundingInterval

/-- The length of one quarter place, in a unit that it shares with `gridStep`. -/
def quarterStep
    (interval : RoundingInterval)
    (grid : Int) :
    Nat :=
  twoTo interval.exponent.toNat * tenTo (-grid).toNat

/-- The length of one step of the decimal grid with a given exponent. -/
def gridStep
    (interval : RoundingInterval)
    (grid : Int) :
    Nat :=
  tenTo grid.toNat * twoTo (-interval.exponent).toNat

/-- Whether a point of a decimal grid lies in the interval. -/
def contains
    (interval : RoundingInterval)
    (grid : Int)
    (point : Nat) :
    Bool :=
  let position := point * interval.gridStep grid
  let low := interval.low * interval.quarterStep grid
  let high := interval.high * interval.quarterStep grid
  if interval.closed then
    low ≤ position && position ≤ high
  else
    low < position && position < high

/-- The greatest point of a decimal grid that is not above the centre. -/
def pointBelow
    (interval : RoundingInterval)
    (grid : Int) :
    Nat :=
  interval.centre * interval.quarterStep grid / interval.gridStep grid

/-- Of the grid point below the centre and the next one, the nearer. -/
def nearerPoint
    (interval : RoundingInterval)
    (tie : Tie)
    (grid : Int) :
    Nat :=
  let below := interval.pointBelow grid
  let centre := interval.centre * interval.quarterStep grid
  let down := centre - below * interval.gridStep grid
  let up := (below + 1) * interval.gridStep grid - centre
  if down < up then below
  else if up < down then below + 1
  else
    match tie with
    | .toEven => below + below % 2
    | .away => below + 1

/-- The point of a decimal grid that lies in the interval, the nearer one if both neighbours do. -/
def pointOn?
    (interval : RoundingInterval)
    (tie : Tie)
    (grid : Int) :
    Option Nat :=
  let below := interval.pointBelow grid
  match interval.contains grid below, interval.contains grid (below + 1) with
  | true, true => some (interval.nearerPoint tie grid)
  | true, false => some below
  | false, true => some (below + 1)
  | false, false => none

/--
The first point found on ever finer grids, with the exponent of its grid. Seventeen
digits always suffice; the nearer point of the last grid closes the search.
-/
def search
    (interval : RoundingInterval)
    (tie : Tie) :
    Nat → Int → Nat × Int
  | 0, grid => (interval.nearerPoint tie grid, grid)
  | finer + 1, grid =>
      match interval.pointOn? tie grid with
      | some point => (point, grid)
      | none => interval.search tie finer (grid - 1)

end RoundingInterval

/-- The expansion of a decimal grid point, zeros at the end dropped. -/
def Expansion.ofPoint
    (point : Nat)
    (grid : Int) :
    Expansion :=
  let digits := decimalDigits point
  ⟨(digits.reverse.dropWhile (· == '0')).reverse, digits.length + grid⟩

/-- The magnitude of a mantissa and last-place exponent as a ratio. -/
def Ratio.ofScaled
    (mantissa : Nat)
    (exponent : Int) :
    Ratio :=
  ⟨mantissa * twoTo exponent.toNat, twoTo (-exponent).toNat⟩

/-- The shortest expansion that reads back as a given finite magnitude. -/
def shortest
    (tie : Tie)
    (mantissa : Nat)
    (exponent : Int) :
    Expansion :=
  if mantissa = 0 then
    .zero
  else
    let interval := RoundingInterval.of mantissa exponent
    let grid := (Ratio.ofScaled mantissa exponent).decimalExponent
    let (point, grid) := interval.search tie 16 grid
    .ofPoint point grid

end FeatureFlags.Number
