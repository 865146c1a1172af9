namespace FeatureFlags.Time

/-!
# The proleptic Gregorian calendar

Dates and day counts. Years are counted from March, so that the leap day is the
last day of a year; four hundred years are a cycle of equal length.
-/

/-- A calendar date, not necessarily a possible one. -/
structure Date where
  year : Int
  month : Nat
  day : Nat
deriving DecidableEq

/-- Whether a year has a leap day. -/
def isLeapYear (year : Int) : Bool :=
  year % 4 == 0 && (year % 100 != 0 || year % 400 == 0)

/-- The length of a month, zero for a month that does not exist. -/
def daysInMonth
    (year : Int)
    (month : Nat) :
    Nat :=
  if month = 2 then
    if isLeapYear year then 29 else 28
  else if month = 4 ∨ month = 6 ∨ month = 9 ∨ month = 11 then
    30
  else if 1 ≤ month ∧ month ≤ 12 then
    31
  else
    0

/-- The number of days in four hundred years. -/
def cycleDays : Int := 146097

/-- The day number of the first of March of the year zero is minus this number. -/
def epochShift : Int := 719468

namespace Date

/-- Whether the date exists. -/
def IsPossible (date : Date) : Prop :=
  1 ≤ date.day ∧ date.day ≤ daysInMonth date.year date.month

instance (date : Date) : Decidable date.IsPossible :=
  inferInstanceAs (Decidable (_ ∧ _))

/-- The day number of a date, counted from the first of January 1970. -/
def toDays (date : Date) : Int :=
  let year := if date.month ≤ 2 then date.year - 1 else date.year
  let month : Int := if date.month ≤ 2 then date.month + 9 else (date.month : Int) - 3
  let yearOfCycle := year % 400
  let dayOfYear := (153 * month + 2) / 5 + date.day - 1
  let dayOfCycle := yearOfCycle * 365 + yearOfCycle / 4 - yearOfCycle / 100 + dayOfYear
  year / 400 * cycleDays + dayOfCycle - epochShift

/-- The date with a given day number. -/
def ofDays (days : Int) : Date :=
  let shifted := days + epochShift
  let dayOfCycle := shifted % cycleDays
  let yearOfCycle :=
    (dayOfCycle - dayOfCycle / 1460 + dayOfCycle / 36524 - dayOfCycle / 146096) / 365
  let dayOfYear := dayOfCycle - (365 * yearOfCycle + yearOfCycle / 4 - yearOfCycle / 100)
  let month := (5 * dayOfYear + 2) / 153
  let day := dayOfYear - (153 * month + 2) / 5 + 1
  let year := yearOfCycle + shifted / cycleDays * 400
  if month < 10 then
    ⟨year, (month + 3).toNat, day.toNat⟩
  else
    ⟨year + 1, (month - 9).toNat, day.toNat⟩

end Date

end FeatureFlags.Time
