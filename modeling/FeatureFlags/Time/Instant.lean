import FeatureFlags.Number.Shortest
import FeatureFlags.Time.Calendar

namespace FeatureFlags.Time

/-!
# Instants

Points in time with nanoseconds, and their one written form: the date and time of
day in UTC with as few groups of three fraction digits as the instant needs. A
leap second is the second before it, prolonged: its nanoseconds run past one
thousand million.
-/

/-- The nanoseconds of a second. -/
def nanosPerSecond : Nat := 1000000000

/-- A point in time: seconds since 1970 in UTC and nanoseconds after them. -/
structure Instant where
  seconds : Int
  nanos : Nat
deriving DecidableEq

namespace Instant

/-- The whole milliseconds since 1970, a leap second counting on. -/
def toMillis (instant : Instant) : Int :=
  instant.seconds * 1000 + (instant.nanos / 1000000 : Nat)

/-- The instant that lies a number of seconds later. -/
def addSeconds
    (instant : Instant)
    (seconds : Int) :
    Instant :=
  { instant with seconds := instant.seconds + seconds }

/-- The instant at a time of day on a day. -/
def ofDayTime
    (days : Int)
    (secondOfDay nanos : Nat) :
    Instant :=
  ⟨days * 86400 + secondOfDay, nanos⟩

end Instant

/-- The digits of a natural, padded with zeros to a width. -/
def padded
    (width n : Nat) :
    List Char :=
  let digits := Number.decimalDigits n
  List.replicate (width - digits.length) '0' ++ digits

/-- A year: four digits from 0 to 9999, beyond that a sign and at least four digits. -/
def writeYear (year : Int) : List Char :=
  if year < 0 then
    '-' :: padded 4 year.natAbs
  else if year ≤ 9999 then
    padded 4 year.natAbs
  else
    '+' :: padded 4 year.natAbs

/-- The fewest of none, three, six or nine fraction digits that lose nothing. -/
def writeFraction (nanos : Nat) : List Char :=
  if nanos = 0 then []
  else if nanos % 1000000 = 0 then '.' :: padded 3 (nanos / 1000000)
  else if nanos % 1000 = 0 then '.' :: padded 6 (nanos / 1000)
  else '.' :: padded 9 nanos

/-- A date as year, month and day. -/
def Date.write (date : Date) : List Char :=
  writeYear date.year ++ '-' :: padded 2 date.month ++ '-' :: padded 2 date.day

/-- A time of day; nanoseconds beyond a second belong to a leap second. -/
def writeTime
    (secondOfDay nanos : Nat) :
    List Char :=
  let leap := nanos / nanosPerSecond
  padded 2 (secondOfDay / 3600) ++
    ':' :: padded 2 (secondOfDay / 60 % 60) ++
    ':' :: padded 2 (secondOfDay % 60 + leap) ++
    writeFraction (nanos % nanosPerSecond)

namespace Instant

/-- The written form of an instant. -/
def write (instant : Instant) : List Char :=
  (Date.ofDays (instant.seconds / 86400)).write ++
    'T' :: writeTime (instant.seconds % 86400).toNat instant.nanos ++
    ['Z']

/-- The written form of an instant as a string. -/
def toText (instant : Instant) : String :=
  String.ofList instant.write

end Instant

end FeatureFlags.Time
