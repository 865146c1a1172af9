import FeatureFlags.Proofs.Time.Forms

namespace FeatureFlags.Time

/-!
# Dates in the order of their texts

The parts of a date stand in its text from the greatest to the smallest, each in a field
of its own. Two texts of one shape are therefore in the order of the parts, and this is
the order of the instants as well. Together with the readings of the single forms this
makes the forms of a date consistent with one another.
-/

open FeatureFlags.Number

/-- One instant is before another: by the second, then by the nanoseconds after it. -/
def Instant.Before (first second : Instant) : Prop :=
  first.seconds < second.seconds ∨
    first.seconds = second.seconds ∧ first.nanos < second.nanos

namespace CivilTime

/-- The order of two dates and times of day, the greatest part first. -/
def Before (first second : CivilTime) : Prop :=
  first.date.Before second.date ∨
    first.date = second.date ∧
      (first.hour < second.hour ∨
        first.hour = second.hour ∧
          (first.minute < second.minute ∨
            first.minute = second.minute ∧
              (first.second < second.second ∨
                first.second = second.second ∧
                  naturalOfDigits first.fraction < naturalOfDigits second.fraction)))

variable {first second : CivilTime}

/-- Fractions of one length are in the order of their digits. -/
theorem writeFraction_lt_iff
    (sameLength : first.fraction.length = second.fraction.length)
    (ending : List Char) :
    first.writeFraction ++ ending < second.writeFraction ++ ending ↔
      naturalOfDigits first.fraction < naturalOfDigits second.fraction := by
  have field : IsField first.fraction.length first.fraction := ⟨first.areDigits, rfl⟩
  have otherField : IsField first.fraction.length second.fraction :=
    ⟨second.areDigits, sameLength.symm⟩
  have digits := field.append_lt_append_iff otherField ending ending
  simp only [List.lt_irrefl, and_false, or_false] at digits
  unfold writeFraction
  by_cases noFraction : first.fraction = []
  · have alsoNone : second.fraction = [] := by
      rw [← List.length_eq_zero_iff, ← sameLength, noFraction]
      rfl
    simp [noFraction, alsoNone]
  · have alsoSome : second.fraction ≠ [] := by
      rw [← List.length_pos_iff, ← sameLength, List.length_pos_iff]
      exact noFraction
    rw [if_neg noFraction, if_neg alsoSome, List.cons_append, List.cons_append,
      List.cons_lt_cons_self]
    exact digits

/-- Texts with fractions of one length are in the order of the parts. -/
theorem text_lt_text_iff
    (sameLength : first.fraction.length = second.fraction.length)
    (separator : Char)
    (ending : List Char) :
    first.text separator ending < second.text separator ending ↔ first.Before second := by
  have years := first.hasFourDigits
  have otherYears := second.hasFourDigits
  have year :
      first.date.year.natAbs < second.date.year.natAbs ↔
        first.date.year < second.date.year := by
    omega
  have sameYear :
      first.date.year.natAbs = second.date.year.natAbs ↔
        first.date.year = second.date.year := by
    omega
  rw [text, text, String.lt_iff, String.toList_ofList, String.toList_ofList, write, write,
    Date.write, Date.write, writeClock, writeClock, first.writeYear_eq, second.writeYear_eq]
  simp only [List.append_assoc, List.cons_append]
  rw [first.yearField.append_lt_append_iff second.yearField, List.cons_lt_cons_self,
    first.monthField.append_lt_append_iff second.monthField, List.cons_lt_cons_self,
    first.dayField.append_lt_append_iff second.dayField, List.cons_lt_cons_self,
    first.hourField.append_lt_append_iff second.hourField, List.cons_lt_cons_self,
    first.minuteField.append_lt_append_iff second.minuteField, List.cons_lt_cons_self,
    first.secondField.append_lt_append_iff second.secondField,
    writeFraction_lt_iff sameLength]
  simp only [naturalOfDigits_padded, year, sameYear, Before, Date.Before, Date.eq_iff, and_or_left,
    or_assoc, and_assoc]

/-- Fractions of one length are nanoseconds in the order of their digits. -/
theorem nanosOfDigits_lt_iff
    (sameLength : first.fraction.length = second.fraction.length) :
    nanosOfDigits first.fraction < nanosOfDigits second.fraction ↔
      naturalOfDigits first.fraction < naturalOfDigits second.fraction := by
  rw [nanosOfDigits, nanosOfDigits, List.take_of_length_le first.atMostNine,
    List.take_of_length_le second.atMostNine, sameLength]
  exact Nat.mul_lt_mul_right (tenTo_pos _)

/-- Without leap seconds the instants are in the order of the parts. -/
theorem instant_before_iff
    (sameLength : first.fraction.length = second.fraction.length)
    (noLeap : first.second < 60)
    (otherNoLeap : second.second < 60) :
    first.instant.Before second.instant ↔ first.Before second := by
  have days := Date.toDays_lt_toDays_iff first.isPossible second.isPossible
  have sameDay := Date.toDays_inj first.isPossible second.isPossible
  have nanos := nanosOfDigits_lt_iff sameLength
  have clocks := And.intro first.hour_le <| And.intro first.minute_le <|
    And.intro second.hour_le second.minute_le
  simp only [Instant.Before, instant, Instant.ofDayTime, Before, ← days, ← sameDay, ← nanos,
    Nat.div_eq_of_lt noLeap, Nat.div_eq_of_lt otherNoLeap]
  omega

/-- The forms of a date and a time of day are read consistently: with an offset as so many
seconds before what is read in UTC as the clock is ahead of it, without one as if it were in UTC,
and the date alone as its first instant; and the forms in UTC are in the order of their instants. -/
theorem forms_consistent (time : CivilTime) :
    ∃ instant : Instant,
      (∀ separator ∈ ['T', 't', ' '],
        Instant.ofText? (time.text separator ['Z']) = some instant ∧
          ∀ offset : Offset,
            Instant.ofText? (time.text separator offset.write) =
              some ⟨instant.seconds - offset.seconds, instant.nanos⟩) ∧
      (∀ separator ∈ ['T', ' '],
        Instant.ofText? (time.text separator []) = some instant) ∧
      (∃ midnight,
        Instant.ofText? (String.ofList time.date.write) = some midnight ∧
          Instant.ofText? (time.atMidnight.text 'T' ['Z']) = some midnight) ∧
      ∀ other : CivilTime,
        other.fraction.length = time.fraction.length →
        time.second < 60 →
        other.second < 60 →
        ∃ otherInstant,
          Instant.ofText? (other.text 'T' ['Z']) = some otherInstant ∧
            (instant.Before otherInstant ↔ time.text 'T' ['Z'] < other.text 'T' ['Z']) := by
  refine ⟨time.instant, ?strict, ?lenient, ?day, ?order⟩
  case strict =>
    intro separator separates
    exact ⟨time.ofText?_utc separates, time.ofText?_offset separates⟩
  case lenient =>
    intro separator separates
    exact time.ofText?_local separates
  case day =>
    exact ⟨time.atMidnight.instant, time.ofText?_date, time.atMidnight.ofText?_utc (by decide)⟩
  case order =>
    intro other sameLength noLeap otherNoLeap
    refine ⟨other.instant, other.ofText?_utc (by decide), ?_⟩
    rw [instant_before_iff sameLength.symm noLeap otherNoLeap, text_lt_text_iff sameLength.symm]

/-- The last second of a leap day and the second after it: an offset carries the first over into
the next month, which is later as a text and as an instant. -/
theorem forms_consistent_leapDay :
    ∃ later,
      Instant.ofText? "2024-02-29T23:59:59.5Z" = some ⟨1709251199, 500000000⟩ ∧
        Instant.ofText? "2024-02-29T23:59:59.5-00:30" = some ⟨1709252999, 500000000⟩ ∧
        Instant.ofText? "2024-02-29 23:59:59.5" = some ⟨1709251199, 500000000⟩ ∧
        Instant.ofText? "2024-03-01T00:00:00.0Z" = some later ∧
        Instant.Before ⟨1709251199, 500000000⟩ later := by
  obtain ⟨instant, strict, lenient, -, order⟩ :=
    forms_consistent ⟨⟨2024, 2, 29⟩, 23, 59, 59, ['5'], by decide, by decide, by decide, by decide,
      by decide, List.forall_mem_singleton.mpr (by decide), by decide⟩
  obtain ⟨later, isRead, ordered⟩ :=
    order ⟨⟨2024, 3, 1⟩, 0, 0, 0, ['0'], by decide, by decide, by decide, by decide, by decide,
      List.forall_mem_singleton.mpr (by decide), by decide⟩ rfl (by decide) (by decide)
  obtain ⟨utc, withOffset⟩ := strict 'T' (by decide)
  have isInstant : Instant.ofText? "2024-02-29T23:59:59.5Z" = some ⟨1709251199, 500000000⟩ := by
    decide +kernel
  obtain rfl := Option.some.inj (utc.symm.trans isInstant)
  have behind := withOffset ⟨true, 0, 30, by decide, by decide⟩
  exact ⟨later, utc, behind, lenient ' ' (by decide), isRead, ordered.mpr (by decide)⟩

end CivilTime

end FeatureFlags.Time
