import FeatureFlags.Time.Calendar
import Mathlib.Order.Basic
import Mathlib.Tactic.IntervalCases

namespace FeatureFlags.Time

/-!
# The calendar and its day numbers

A date is split in a year that begins in March and a day of that year. The day
number is the sum of the days before the year and the day, and a year of the
right length is left only with its last day. Dates and day numbers are therefore
the same thing, in the same order.
-/

/-- The days from the first of March of the year zero to the first of March of a year. -/
def daysBeforeYear (year : Int) : Int :=
  365 * year + year / 4 - year / 100 + year / 400

/-- The length of a year that begins in March: its leap day is in the calendar year after. -/
theorem daysBeforeYear_succ (year : Int) :
    daysBeforeYear (year + 1) =
      daysBeforeYear year + if isLeapYear (year + 1) then 366 else 365 := by
  simp only [daysBeforeYear, isLeapYear, Bool.and_eq_true, Bool.or_eq_true, beq_iff_eq,
    bne_iff_ne]
  split
  · omega
  · omega

theorem daysBeforeYear_lt_succ (year : Int) :
    daysBeforeYear year + 364 < daysBeforeYear (year + 1) := by
  have length := daysBeforeYear_succ year
  split at length
  · omega
  · omega

theorem daysBeforeYear_mono
    {first second : Int}
    (ordered : first ≤ second) :
    daysBeforeYear first ≤ daysBeforeYear second := by
  unfold daysBeforeYear
  omega

/-- A day of a year that begins in March. -/
structure YearDay where
  year : Int
  day : Int
  nonneg : 0 ≤ day
  within : daysBeforeYear year + day < daysBeforeYear (year + 1)

namespace YearDay

/-- The day number, counted from the first of January 1970. -/
def toDays (place : YearDay) : Int :=
  daysBeforeYear place.year + place.day - epochShift

/-- Every day number is that of a day of some year. -/
theorem exists_toDays_eq (days : Int) :
    ∃ place : YearDay, place.toDays = days := by
  induction days using Int.induction_on with
  | zero => exact ⟨⟨1969, 306, by decide, by decide⟩, by decide⟩
  | succ n earlier =>
      obtain ⟨⟨year, day, nonneg, within⟩, same⟩ := earlier
      simp only [toDays] at same
      by_cases more : daysBeforeYear year + (day + 1) < daysBeforeYear (year + 1)
      · refine ⟨⟨year, day + 1, by omega, more⟩, ?_⟩
        simp only [toDays]
        omega
      · have length := daysBeforeYear_lt_succ (year + 1)
        refine ⟨⟨year + 1, 0, by omega, by omega⟩, ?_⟩
        simp only [toDays]
        omega
  | pred n later =>
      obtain ⟨⟨year, day, nonneg, within⟩, same⟩ := later
      simp only [toDays] at same
      by_cases more : 0 < day
      · refine ⟨⟨year, day - 1, by omega, by omega⟩, ?_⟩
        simp only [toDays]
        omega
      · have length := daysBeforeYear_lt_succ (year - 1)
        rw [Int.sub_add_cancel] at length
        refine
          ⟨⟨year - 1, daysBeforeYear year - daysBeforeYear (year - 1) - 1, by omega, ?_⟩, ?_⟩
        · rw [Int.sub_add_cancel]
          omega
        · simp only [toDays]
          omega

/-- An earlier year, or an earlier day of the same year, has a smaller day number. -/
theorem toDays_lt_toDays
    {first second : YearDay}
    (earlier : first.year < second.year ∨
      first.year = second.year ∧ first.day < second.day) :
    first.toDays < second.toDays := by
  obtain ⟨firstYear, firstDay, _, within⟩ := first
  obtain ⟨secondYear, secondDay, nonneg, _⟩ := second
  simp only [toDays] at earlier ⊢
  rcases earlier with earlier | ⟨rfl, earlier⟩
  · have ordered : daysBeforeYear (firstYear + 1) ≤ daysBeforeYear secondYear :=
      daysBeforeYear_mono (by omega)
    omega
  · omega

/--
The year within four hundred years is found by taking one day off for every four
years, one back for every hundred and the last one off again.
-/
private theorem yearOfCycle_eq
    {century olympiad year day dayOfCycle : Int}
    (centuries : 0 ≤ century ∧ century ≤ 3)
    (olympiads : 0 ≤ olympiad ∧ olympiad ≤ 24)
    (years : 0 ≤ year ∧ year ≤ 3)
    (days : 0 ≤ day ∧ day ≤ 365)
    (leap : day = 365 → year = 3 ∧ (olympiad < 24 ∨ century = 3))
    (same : dayOfCycle = 36524 * century + 1461 * olympiad + 365 * year + day) :
    (dayOfCycle - dayOfCycle / 1460 + dayOfCycle / 36524 - dayOfCycle / 146096) / 365 =
      100 * century + 4 * olympiad + year := by
  have hundreds : dayOfCycle / 36524 - dayOfCycle / 146096 = century := by
    by_cases last : dayOfCycle = 146096
    · omega
    · have small : dayOfCycle < 146096 := by omega
      have none : dayOfCycle / 146096 = 0 := by omega
      have inCentury : 1461 * olympiad + 365 * year + day < 36524 := by omega
      omega
  have fours :
      dayOfCycle / 1460 =
        25 * century + olympiad +
          (24 * century + olympiad + 365 * year + day) / 1460 := by
    omega
  have rest :
      (365 * year + day - (24 * century + olympiad + 365 * year + day) / 1460) / 365 =
        year := by
    omega
  calc
    (dayOfCycle - dayOfCycle / 1460 + dayOfCycle / 36524 - dayOfCycle / 146096) / 365 =
        (365 * (100 * century + 4 * olympiad) +
          (365 * year + day - (24 * century + olympiad + 365 * year + day) / 1460)) / 365 := by
      congr 1
      omega
    _ = 100 * century + 4 * olympiad +
          (365 * year + day - (24 * century + olympiad + 365 * year + day) / 1460) / 365 :=
      Int.mul_add_ediv_left _ _ (by decide)
    _ = 100 * century + 4 * olympiad + year := by
      rw [rest]

/-- A year by its cycle of four hundred years, its century, its four years and its place in them. -/
private theorem exists_cycle (year : Int) :
    ∃ cycle century olympiad rest : Int,
      (0 ≤ century ∧ century ≤ 3) ∧ (0 ≤ olympiad ∧ olympiad ≤ 24) ∧ (0 ≤ rest ∧ rest ≤ 3) ∧
        year = 400 * cycle + 100 * century + 4 * olympiad + rest := by
  refine ⟨year / 400, year % 400 / 100, year % 100 / 4, year % 4, ?_⟩
  omega

private theorem daysBeforeYear_of_cycle
    {cycle century olympiad rest : Int}
    (olympiads : 0 ≤ olympiad ∧ olympiad ≤ 24)
    (rests : 0 ≤ rest ∧ rest ≤ 3)
    (centuries : 0 ≤ century ∧ century ≤ 3) :
    daysBeforeYear (400 * cycle + 100 * century + 4 * olympiad + rest) =
      146097 * cycle + 36524 * century + 1461 * olympiad + 365 * rest := by
  unfold daysBeforeYear
  omega

/-- A leap day ends the last of four years, but not the last of the first three centuries. -/
private theorem leapDay
    (place : YearDay)
    {cycle century olympiad rest : Int}
    (olympiads : 0 ≤ olympiad ∧ olympiad ≤ 24)
    (rests : 0 ≤ rest ∧ rest ≤ 3)
    (centuries : 0 ≤ century ∧ century ≤ 3)
    (same : place.year = 400 * cycle + 100 * century + 4 * olympiad + rest) :
    place.day ≤ 365 ∧ (place.day = 365 → rest = 3 ∧ (olympiad < 24 ∨ century = 3)) := by
  obtain ⟨year, day, nonneg, within⟩ := place
  simp only at same ⊢
  rw [daysBeforeYear_succ] at within
  simp only [isLeapYear, Bool.and_eq_true, Bool.or_eq_true, beq_iff_eq, bne_iff_ne] at within
  split at within
  · omega
  · omega

/-- The date of a day of a year: month and day are found by the length of five months. -/
def toDate (place : YearDay) : Date :=
  let month := (5 * place.day + 2) / 153
  let day := place.day - (153 * month + 2) / 5 + 1
  if month < 10 then
    ⟨place.year, (month + 3).toNat, day.toNat⟩
  else
    ⟨place.year + 1, (month - 9).toNat, day.toNat⟩

/-- Turning a day number into a date finds the year and the day it was made of. -/
theorem ofDays_toDays (place : YearDay) :
    Date.ofDays place.toDays = place.toDate := by
  obtain ⟨cycle, century, olympiad, rest, centuries, olympiads, rests, same⟩ :=
    exists_cycle place.year
  obtain ⟨days, leap⟩ := place.leapDay olympiads rests centuries same
  have fours : (100 * century + 4 * olympiad + rest) / 4 = 25 * century + olympiad := by
    omega
  have hundreds : (100 * century + 4 * olympiad + rest) / 100 = century := by
    omega
  have dayFound :
      36524 * century + 1461 * olympiad + 365 * rest + place.day -
          (365 * (100 * century + 4 * olympiad + rest) +
            (100 * century + 4 * olympiad + rest) / 4 -
            (100 * century + 4 * olympiad + rest) / 100) =
        place.day := by
    rw [fours, hundreds]
    omega
  have shifted :
      place.toDays + epochShift =
        cycleDays * cycle +
          (36524 * century + 1461 * olympiad + 365 * rest + place.day) := by
    rw [toDays, same, daysBeforeYear_of_cycle olympiads rests centuries, cycleDays]
    omega
  have inCycle :
      0 ≤ 36524 * century + 1461 * olympiad + 365 * rest + place.day ∧
        36524 * century + 1461 * olympiad + 365 * rest + place.day < cycleDays := by
    have nonneg := place.nonneg
    rw [cycleDays]
    omega
  have quotient : (place.toDays + epochShift) / cycleDays = cycle := by
    rw [shifted, Int.mul_add_ediv_left _ _ (by decide), Int.ediv_eq_zero_of_lt inCycle.1 inCycle.2]
    omega
  have remainder :
      (place.toDays + epochShift) % cycleDays =
        36524 * century + 1461 * olympiad + 365 * rest + place.day := by
    rw [shifted, Int.mul_add_emod_self_left, Int.emod_eq_of_lt inCycle.1 inCycle.2]
  have whole : 100 * century + 4 * olympiad + rest + cycle * 400 = place.year := by
    omega
  have yearFound := yearOfCycle_eq centuries olympiads rests ⟨place.nonneg, days⟩ leap rfl
  simp only [Date.ofDays, toDate, quotient, remainder, yearFound, dayFound, whole]

end YearDay

namespace Date

/-- The year, begun in March, that a date lies in. -/
def marchYear (date : Date) : Int :=
  if date.month ≤ 2 then date.year - 1 else date.year

/-- The months from March before a date. -/
def marchMonth (date : Date) : Int :=
  if date.month ≤ 2 then date.month + 9 else (date.month : Int) - 3

/-- The days from the first of March before a date. -/
def dayOfYear (date : Date) : Int :=
  (153 * date.marchMonth + 2) / 5 + date.day - 1

theorem toDays_eq (date : Date) :
    date.toDays = daysBeforeYear date.marchYear + date.dayOfYear - epochShift := by
  simp only [toDays, marchYear, marchMonth, dayOfYear, daysBeforeYear, cycleDays]
  omega

/-- A month that has days is one of the twelve. -/
theorem IsPossible.month_bounds
    {date : Date}
    (possible : date.IsPossible) :
    1 ≤ date.month ∧ date.month ≤ 12 := by
  obtain ⟨first, last⟩ := possible
  unfold daysInMonth at last
  split at last
  · omega
  · split at last
    · omega
    · split at last
      · assumption
      · omega

theorem IsPossible.dayOfYear_bounds
    {date : Date}
    (possible : date.IsPossible) :
    0 ≤ date.dayOfYear ∧
      daysBeforeYear date.marchYear + date.dayOfYear < daysBeforeYear (date.marchYear + 1) := by
  obtain ⟨low, high⟩ := possible.month_bounds
  obtain ⟨year, month, day⟩ := date
  obtain ⟨first, last⟩ := possible
  have length := daysBeforeYear_succ (year - 1)
  have longer := daysBeforeYear_lt_succ year
  rw [Int.sub_add_cancel] at length
  simp only at low high first last
  simp only [dayOfYear, marchYear, marchMonth]
  interval_cases month <;> grind [daysInMonth]

/-- The place in its year of a date that exists. -/
def yearDay
    (date : Date)
    (possible : date.IsPossible) :
    YearDay where
  year := date.marchYear
  day := date.dayOfYear
  nonneg := possible.dayOfYear_bounds.1
  within := possible.dayOfYear_bounds.2

/-- A date is found again from its place in its year. -/
theorem toDate_yearDay
    {date : Date}
    (possible : date.IsPossible) :
    (date.yearDay possible).toDate = date := by
  obtain ⟨low, high⟩ := possible.month_bounds
  obtain ⟨year, month, day⟩ := date
  obtain ⟨first, last⟩ := possible
  simp only at low high first last
  simp only [YearDay.toDate, yearDay, marchYear, marchMonth, dayOfYear]
  interval_cases month <;> grind [daysInMonth]

/-- The date of the day number of a date that exists is that date. -/
theorem ofDays_toDays
    {date : Date}
    (possible : date.IsPossible) :
    ofDays date.toDays = date := by
  have same : date.toDays = (date.yearDay possible).toDays := date.toDays_eq
  rw [same, YearDay.ofDays_toDays, toDate_yearDay]

end Date

namespace YearDay

/-- The date of a day of a year exists and lies at that place of its year. -/
theorem toDate_spec (place : YearDay) :
    place.toDate.IsPossible ∧
      place.toDate.marchYear = place.year ∧ place.toDate.dayOfYear = place.day := by
  obtain ⟨year, day, nonneg, within⟩ := place
  rw [daysBeforeYear_succ] at within
  have days : day ≤ 365 := by
    split at within
    · omega
    · omega
  generalize monthIs : (5 * day + 2) / 153 = month
  have low : 0 ≤ month := by omega
  have high : month ≤ 11 := by omega
  simp only [toDate, monthIs, Date.IsPossible, Date.marchYear, Date.marchMonth, Date.dayOfYear]
  interval_cases month <;> grind [daysInMonth]

end YearDay

namespace Date

/-- Dates that exist have different day numbers. -/
theorem toDays_inj
    {first second : Date}
    (firstPossible : first.IsPossible)
    (secondPossible : second.IsPossible) :
    first.toDays = second.toDays ↔ first = second := by
  constructor
  · intro same
    rw [← ofDays_toDays firstPossible, same, ofDays_toDays secondPossible]
  · exact congrArg toDays

/-- Every day number has a date. -/
theorem ofDays_isPossible (days : Int) :
    (ofDays days).IsPossible := by
  obtain ⟨place, rfl⟩ := YearDay.exists_toDays_eq days
  rw [YearDay.ofDays_toDays]
  exact place.toDate_spec.1

/-- The date of a day number has that day number. -/
theorem toDays_ofDays (days : Int) :
    (ofDays days).toDays = days := by
  obtain ⟨place, rfl⟩ := YearDay.exists_toDays_eq days
  obtain ⟨-, year, day⟩ := place.toDate_spec
  rw [YearDay.ofDays_toDays, toDays_eq, year, day]
  rfl

theorem eq_iff {first second : Date} :
    first = second ↔
      first.year = second.year ∧ first.month = second.month ∧ first.day = second.day := by
  cases first
  cases second
  exact Date.mk.injEq .. ▸ Iff.rfl

/-- The order of dates: by year, then by month, then by day. -/
def Before (first second : Date) : Prop :=
  first.year < second.year ∨
    first.year = second.year ∧
      (first.month < second.month ∨ first.month = second.month ∧ first.day < second.day)

/-- A month before the last of its year ends where the next one begins. -/
theorem IsPossible.day_le
    {date : Date}
    (possible : date.IsPossible)
    (more : date.month ≠ 2) :
    (153 * date.marchMonth + 2) / 5 + date.day ≤ (153 * (date.marchMonth + 1) + 2) / 5 := by
  obtain ⟨low, high⟩ := possible.month_bounds
  obtain ⟨year, month, day⟩ := date
  obtain ⟨first, last⟩ := possible
  simp only at low high first last more
  simp only [marchMonth]
  interval_cases month <;> grind [daysInMonth]

/-- The earlier of two dates has the smaller day number. -/
theorem toDays_lt_toDays
    {first second : Date}
    (firstPossible : first.IsPossible)
    (secondPossible : second.IsPossible)
    (before : first.Before second) :
    first.toDays < second.toDays := by
  have places :
      (first.yearDay firstPossible).toDays < (second.yearDay secondPossible).toDays := by
    apply YearDay.toDays_lt_toDays
    have firstMonth := firstPossible.month_bounds
    have secondMonth := secondPossible.month_bounds
    have ends := firstPossible.day_le
    have started := secondPossible.1
    simp only [Before, yearDay, marchYear, dayOfYear, marchMonth] at before ends ⊢
    grind
  rw [first.toDays_eq, second.toDays_eq]
  exact places

/-- Day numbers are in the order of the dates. -/
theorem toDays_lt_toDays_iff
    {first second : Date}
    (firstPossible : first.IsPossible)
    (secondPossible : second.IsPossible) :
    first.toDays < second.toDays ↔ first.Before second := by
  constructor
  · intro less
    by_contra notBefore
    have other : first = second ∨ second.Before first := by
      simp only [Before, eq_iff] at notBefore ⊢
      omega
    rcases other with rfl | after
    · omega
    · have greater := toDays_lt_toDays secondPossible firstPossible after
      omega
  · exact toDays_lt_toDays firstPossible secondPossible

end Date

end FeatureFlags.Time
