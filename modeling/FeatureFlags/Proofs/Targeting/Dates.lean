import FeatureFlags.Proofs.Targeting.Numbers
import FeatureFlags.Proofs.Time.Writing
import FeatureFlags.Proofs.Value.RoundTrip

namespace FeatureFlags

/-!
# Dates in filters

JSON keeps a date as its text. The text is read as the same instant where the year has
four digits and no second but the last one of a minute is prolonged; any other prolonged
second is read as the second after it. In years of four digits a date and its text are one
and the same to every filter: `run_dateAsText`. The text of any other date is no date.
-/

namespace Value

/-- JSON keeps the text of a date. -/
theorem ofJsonText_serialize_dateTime (date : Time.Instant) :
    ofJsonText (Value.dateTime date).serialize = .ok (.text date.toText) :=
  ofJsonText_serialize trivial (by simp [HasNoFloat]) (Nat.zero_le _)

/-- A date of a year of four digits looks like its text. -/
theorem looksLike_text_dateTime
    {date : Time.Instant}
    (belowTwoSeconds : date.nanos < 2 * Time.nanosPerSecond)
    (inFour : 0 ≤ date.year ∧ date.year ≤ 9999) :
    (Value.text date.toText).LooksLike (.dateTime date) where
  toText_eq := rfl
  toNumber?_eq := rfl
  toBool?_eq := rfl
  toMillis?_eq := by
    have isRead : (Value.text date.toText).toInstant? = some date.shown :=
      (Time.Instant.ofText?_toText belowTwoSeconds).trans (if_pos inFour)
    obtain ⟨-, -, -, sameMillis⟩ := Time.Instant.shown_spec belowTwoSeconds
    rw [isRead, Option.map_some, sameMillis]
    rfl

end Value

namespace Targeting

/--
The text of a date stands for the same instant if the year has four digits, and for none
otherwise, but where a second is prolonged that does not end a minute, the text stands for
the second after it. JSON turns any date into that text; and in years of four digits a filter
gives the same truth value and reports the same issues whether a field holds the date or its
text.
-/
theorem run_dateAsText
    {date : Time.Instant}
    (belowTwoSeconds : date.nanos < 2 * Time.nanosPerSecond) :
    (date.IsPointInTime →
      (Value.text date.toText).toInstant? =
        if 0 ≤ date.year ∧ date.year ≤ 9999 then some date else none) ∧
      (¬ date.IsPointInTime →
        (Value.text date.toText).toInstant? =
          if 0 ≤ date.year ∧ date.year ≤ 9999 then
            some ⟨date.seconds + 1, date.nanos - Time.nanosPerSecond⟩
          else
            none) ∧
      Value.ofJsonText (Value.dateTime date).serialize = .ok (.text date.toText) ∧
      (0 ≤ date.year ∧ date.year ≤ 9999 →
        ∀ (filter : Filter) (name : String) (fields : Fields) (now : Time.Instant)
            (issues : List Issue),
          (Condition.ofFilter filter).run (fields.insert name (.text date.toText)) now issues =
            (Condition.ofFilter filter).run (fields.insert name (.dateTime date)) now issues) := by
  have isRead := Time.Instant.ofText?_toText belowTwoSeconds
  refine ⟨?point, ?prolonged, Value.ofJsonText_serialize_dateTime date, ?same⟩
  case point =>
    intro point
    rwa [point.shown_eq] at isRead
  case prolonged =>
    intro notPoint
    rwa [Time.Instant.shown_eq_of_not_isPointInTime belowTwoSeconds notPoint] at isRead
  case same =>
    intro inFour
    exact run_insert_congr (Value.looksLike_text_dateTime belowTwoSeconds inFour)

/--
The middle of the leap second of 2016 is after the second before it, as a date and as the text
that JSON makes of it. Noon prolonged by half a second is written and read as the second after
noon, and so a filter takes it as a date. The first second of the year 10000 is written and not
read.
-/
theorem run_dateAsText_leapSecond :
    let leap : Time.Instant := ⟨1483228799, 1500000000⟩
    let noon : Time.Instant := ⟨1704110400, 1500000000⟩
    let far : Time.Instant := ⟨253402300800, 0⟩
    let run (value : Value) : Outcome :=
      (Condition.ofFilter (.context ⟨"since", .after, ["0"]⟩)).run
        (Table.empty.insert "since" value) ⟨1483228799, 0⟩ []
    leap.IsPointInTime ∧
      ¬ noon.IsPointInTime ∧
      far.IsPointInTime ∧
      leap.toText = "2016-12-31T23:59:60.500Z" ∧
      (Value.text leap.toText).toInstant? = some leap ∧
      run (.dateTime leap) = (true, []) ∧
      run (.text leap.toText) = (true, []) ∧
      noon.toText = "2024-01-01T12:00:01.500Z" ∧
      (Value.text noon.toText).toInstant? = some ⟨1704110401, 500000000⟩ ∧
      run (.text noon.toText) = run (.dateTime noon) ∧
      far.toText = "+10000-01-01T00:00:00Z" ∧
      (Value.text far.toText).toInstant? = none := by
  intro leap noon far run
  have leapPoint : leap.IsPointInTime := ⟨by decide, fun _ => by decide⟩
  have noonNoPoint : ¬ noon.IsPointInTime := fun point =>
    absurd (point.endsMinute (by decide)) (by decide)
  have farPoint : far.IsPointInTime := ⟨by decide, fun prolonged => absurd prolonged (by decide)⟩
  have inFour : 0 ≤ leap.year ∧ leap.year ≤ 9999 := by decide
  have noonInFour : 0 ≤ noon.year ∧ noon.year ≤ 9999 := by decide
  have outside : ¬ (0 ≤ far.year ∧ far.year ≤ 9999) := by decide
  have asDate : run (.dateTime leap) = (true, []) := by decide +kernel
  have leapBelow : leap.nanos < 2 * Time.nanosPerSecond := by decide
  have noonBelow : noon.nanos < 2 * Time.nanosPerSecond := by decide
  have farBelow : far.nanos < 2 * Time.nanosPerSecond := by decide
  obtain ⟨leapRead, -, -, same⟩ := run_dateAsText leapBelow
  obtain ⟨-, noonRead, -, noonSame⟩ := run_dateAsText noonBelow
  obtain ⟨farRead, -, -, -⟩ := run_dateAsText farBelow
  replace leapRead := leapRead leapPoint
  replace noonRead := noonRead noonNoPoint
  replace farRead := farRead farPoint
  rw [if_pos inFour] at leapRead
  rw [if_pos noonInFour, show noon.nanos - Time.nanosPerSecond = 500000000 by decide] at noonRead
  rw [if_neg outside] at farRead
  have noonAsDate : run (.text noon.toText) = run (.dateTime noon) :=
    noonSame noonInFour (.context ⟨"since", .after, ["0"]⟩) "since" .empty ⟨1483228799, 0⟩ []
  exact ⟨leapPoint, noonNoPoint, farPoint, by decide +kernel, leapRead, asDate,
    (same inFour _ _ _ _ _).trans asDate, by decide +kernel, noonRead, noonAsDate,
    by decide +kernel, farRead⟩

/--
Not every date of a year of four digits is read from its text: noon prolonged by half a second
has the text of half a second after the second after noon, and is another date.
-/
theorem not_dateFromItsText :
    ¬ ∀ date : Time.Instant,
      date.nanos < 2 * Time.nanosPerSecond →
      (Value.text date.toText).toInstant? =
        if 0 ≤ date.year ∧ date.year ≤ 9999 then some date else none := by
  intro isRead
  let noon : Time.Instant := ⟨1704110400, 1500000000⟩
  have belowTwoSeconds : noon.nanos < 2 * Time.nanosPerSecond := by decide
  have notPoint : ¬ noon.IsPointInTime := fun point =>
    absurd (point.endsMinute (by decide)) (by decide)
  have inFour : 0 ≤ noon.year ∧ noon.year ≤ 9999 := by decide
  have nextSecond := Time.Instant.ofText?_toText belowTwoSeconds
  have sameSecond := isRead noon belowTwoSeconds
  rw [if_pos inFour, Time.Instant.shown_eq_of_not_isPointInTime belowTwoSeconds notPoint]
    at nextSecond
  rw [if_pos inFour] at sameSecond
  exact absurd (Option.some.inj (nextSecond.symm.trans sameSecond)) (by decide)

end Targeting

end FeatureFlags
