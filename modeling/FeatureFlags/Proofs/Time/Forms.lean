import FeatureFlags.Proofs.Time.Calendar
import FeatureFlags.Proofs.Time.Fields

namespace FeatureFlags.Time

/-!
# The forms of a date

What a date and a time of day are written as, with and without an offset, and that
every form is read as the instant it names: the strict reader takes the forms with an
offset, the lenient readers those without, and no reader takes what is another's.
-/

open FeatureFlags.Number

/-- A date whose year has four digits, and a time of day, as a text gives them. -/
structure CivilTime where
  date : Date
  hour : Nat
  minute : Nat
  /-- The second sixty is a leap second. -/
  second : Nat
  /-- The fraction digits of the second, none where the second is not split. -/
  fraction : List Char
  isPossible : date.IsPossible
  hasFourDigits : 0 ≤ date.year ∧ date.year ≤ 9999
  hour_le : hour ≤ 23
  minute_le : minute ≤ 59
  second_le : second ≤ 60
  areDigits : ∀ c ∈ fraction, c.isDigit = true
  atMostNine : fraction.length ≤ 9

/-- An offset from UTC. -/
structure Offset where
  /-- Whether the clock is behind UTC. -/
  negative : Bool
  hours : Nat
  minutes : Nat
  hours_le : hours ≤ 23
  minutes_le : minutes ≤ 59

namespace Offset

/-- How far the clock is ahead of UTC. -/
def seconds (offset : Offset) : Int :=
  let magnitude : Int := offset.hours * 3600 + offset.minutes * 60
  if offset.negative then -magnitude else magnitude

/-- The written form: a sign, hours and minutes. -/
def write (offset : Offset) : List Char :=
  (if offset.negative then '-' else '+') ::
    (padded 2 offset.hours ++ ':' :: padded 2 offset.minutes)

theorem getLast_isDigit
    (offset : Offset)
    (front : List Char) :
    ∀ c ∈ (front ++ offset.write).getLast?, c.isDigit = true := by
  have bound := offset.minutes_le
  have field : IsField 2 (padded 2 offset.minutes) := isField_padded (by decide) (by omega)
  have assembled := field.getLast_isDigit (by decide)
    (front ++ (if offset.negative then '-' else '+') :: (padded 2 offset.hours ++ [':']))
  rw [write]
  simpa using assembled

/-- A written offset is read as the seconds it stands for. -/
theorem readOffset?_write (offset : Offset) :
    readOffset? offset.write = some offset.seconds := by
  obtain ⟨negative, hours, minutes, hours_le, minutes_le⟩ := offset
  have hoursField : IsField 2 (padded 2 hours) := isField_padded (by decide) (by omega)
  have minutesField : IsField 2 (padded 2 minutes) := isField_padded (by decide) (by omega)
  have minutesRead := minutesField.readFixed?_append []
  rw [List.append_nil] at minutesRead
  cases negative <;>
    simp [readOffset?, write, seconds, readOffsetSign?, hoursField.readFixed?_append, minutesRead,
      readChar?, hours_le, minutes_le]

end Offset

namespace CivilTime

/-- The clock reading. -/
def clock (time : CivilTime) : ClockTime :=
  ⟨time.hour, time.minute, time.second, nanosOfDigits time.fraction⟩

/-- The instant of the date and the time of day in UTC. -/
def instant (time : CivilTime) : Instant :=
  .ofDayTime time.date.toDays
    (time.hour * 3600 + time.minute * 60 + (time.second - time.second / 60))
    (nanosOfDigits time.fraction + time.second / 60 * nanosPerSecond)

/-- The fraction of the second with its point, nothing where the second is not split. -/
def writeFraction (time : CivilTime) : List Char :=
  if time.fraction = [] then [] else '.' :: time.fraction

/-- The time of day as it is written. -/
def writeClock (time : CivilTime) : List Char :=
  padded 2 time.hour ++ ':' :: (padded 2 time.minute ++
    ':' :: (padded 2 time.second ++ time.writeFraction))

/-- Date and time of day with a character between them and what follows them. -/
def write
    (time : CivilTime)
    (separator : Char)
    (ending : List Char) :
    List Char :=
  time.date.write ++ separator :: (time.writeClock ++ ending)

/-- The first instant of the date. -/
def atMidnight (time : CivilTime) : CivilTime where
  date := time.date
  hour := 0
  minute := 0
  second := 0
  fraction := []
  isPossible := time.isPossible
  hasFourDigits := time.hasFourDigits
  hour_le := by decide
  minute_le := by decide
  second_le := by decide
  areDigits := List.forall_mem_nil _
  atMostNine := by decide

end CivilTime

/-! ## Reading the parts -/

theorem readChar?_self (c : Char) (rest : List Char) : readChar? c (c :: rest) = some rest :=
  if_pos rfl

/-- What follows a fraction and does not continue it. -/
def EndsFraction (ending : List Char) : Prop :=
  ∀ c ∈ ending.head?, c.isDigit = false ∧ c ≠ '.'

theorem endsFraction_nil : EndsFraction [] :=
  fun c isFirst => absurd isFirst (Option.not_mem_none c)

/-- What the strict reader does after the date. -/
def readAfterDate?
    (date : Date)
    (text : List Char) :
    Option Instant := do
  let text ← readSeparator? text
  let (hour, text) ← readFixed? 2 text
  let text ← readChar? ':' text
  let (minute, text) ← readFixed? 2 text
  let text ← readChar? ':' text
  let (second, text) ← readFixed? 2 text
  let (nanos, text) ← readFraction? text
  let offset ← readOffset? text
  let instant ← instantOf? date ⟨hour, minute, second, nanos⟩
  some (instant.addSeconds (-offset))

namespace CivilTime

section Parts

variable (time : CivilTime)

theorem yearField : IsField 4 (padded 4 time.date.year.natAbs) := by
  have inFour := time.hasFourDigits
  exact isField_padded (by decide) (by omega)

theorem monthField : IsField 2 (padded 2 time.date.month) := by
  have bounds := time.isPossible.month_bounds
  exact isField_padded (by decide) (by omega)

theorem dayField : IsField 2 (padded 2 time.date.day) := by
  have bound := time.isPossible.2
  have longest : daysInMonth time.date.year time.date.month ≤ 31 := by
    unfold daysInMonth
    grind
  exact isField_padded (by decide) (by omega)

theorem hourField : IsField 2 (padded 2 time.hour) := by
  have bound := time.hour_le
  exact isField_padded (by decide) (by omega)

theorem minuteField : IsField 2 (padded 2 time.minute) := by
  have bound := time.minute_le
  exact isField_padded (by decide) (by omega)

theorem secondField : IsField 2 (padded 2 time.second) := by
  have bound := time.second_le
  exact isField_padded (by decide) (by omega)

theorem writeYear_eq : writeYear time.date.year = padded 4 time.date.year.natAbs := by
  have inFour := time.hasFourDigits
  rw [writeYear, if_neg (by omega), if_pos inFour.2]

theorem natAbs_year : ((time.date.year.natAbs : Nat) : Int) = time.date.year :=
  Int.natAbs_of_nonneg time.hasFourDigits.1

/-- A fraction is read as its nanoseconds, and no fraction as none. -/
theorem readFraction?_append
    {ending : List Char}
    (ends : EndsFraction ending) :
    readFraction? (time.writeFraction ++ ending) =
      some (nanosOfDigits time.fraction, ending) := by
  unfold writeFraction
  split
  next noFraction =>
    rw [noFraction, List.nil_append]
    unfold readFraction?
    split
    next => exact absurd rfl (ends '.' rfl).2
    next => rfl
  next someFraction =>
    have digitsRead := readDigits_append time.areDigits fun c isNext => (ends c isNext).1
    rw [List.cons_append, readFraction?, digitsRead]
    exact if_neg (by rwa [List.isEmpty_iff])

/-- A written clock is read whole by the lenient reader. -/
theorem readClock?_writeClock :
    readClock? time.writeClock = some time.clock := by
  have fractionRead := time.readFraction?_append endsFraction_nil
  rw [List.append_nil] at fractionRead
  simp [readClock?, writeClock, time.hourField.readNumber?_append,
    time.minuteField.readNumber?_append, time.secondField.readNumber?_append, readChar?,
    fractionRead, clock]

/-- A year without a sign is read up to its four digits. -/
theorem readYear?_append (rest : List Char) :
    readYear? (padded 4 time.date.year.natAbs ++ rest) = some (time.date.year, rest) := by
  have inFour := time.hasFourDigits
  have isCalendarYear : IsCalendarYear time.date.year := by
    constructor <;> omega
  have begins := time.yearField.head_isDigit (by decide) rest
  have numberRead := time.yearField.readNumber?_append (by decide) rest
  rw [readYear?, time.yearField.trimStart_append (by decide)]
  split
  next digits isSign =>
    rw [isSign] at begins
    cases begins '-' rfl
  next digits isSign =>
    rw [isSign] at begins
    cases begins '+' rfl
  next =>
    simp [numberRead, naturalOfDigits_padded, time.natAbs_year, isCalendarYear]

/-- A written date is read by the lenient reader, whatever follows it. -/
theorem readDate?_write (rest : List Char) :
    readDate? (time.date.write ++ rest) = some (time.date, rest) := by
  simp [readDate?, Date.write, time.writeYear_eq, time.readYear?_append,
    time.monthField.readNumber?_append, time.dayField.readNumber?_append, readChar?]

theorem instantOf?_eq :
    instantOf? time.date time.clock = some time.instant := by
  have possible :=
    And.intro time.isPossible <| And.intro time.hour_le <|
      And.intro time.minute_le time.second_le
  exact if_pos possible

/-- The strict reader reads a written date and goes on after it. -/
theorem readStrict?_append (rest : List Char) :
    readStrict? (time.date.write ++ rest) = readAfterDate? time.date rest := by
  rw [readStrict?, Date.write, time.writeYear_eq]
  simp only [List.append_assoc, List.cons_append, Option.bind_eq_bind]
  -- One part after the other: a single `simp` would go through what is left again for each.
  rw [time.yearField.readFixed?_append, Option.bind_some, readChar?_self, Option.bind_some,
    time.monthField.readFixed?_append, Option.bind_some, readChar?_self, Option.bind_some,
    time.dayField.readFixed?_append, Option.bind_some]
  simp only [naturalOfDigits_padded, time.natAbs_year]
  rfl

/-- The strict reader takes the form with exactly those endings that are offsets. -/
theorem readStrict?_write
    {separator : Char}
    {ending : List Char}
    (separates : separator ∈ ['T', 't', ' '])
    (ends : EndsFraction ending) :
    readStrict? (time.write separator ending) =
      (readOffset? ending).map fun offset => time.instant.addSeconds (-offset) := by
  have separatorRead : ∀ rest, readSeparator? (separator :: rest) = some rest := by
    intro rest
    simp only [List.mem_cons, List.not_mem_nil, or_false] at separates
    rcases separates with rfl | rfl | rfl <;> rfl
  have instant := time.instantOf?_eq
  simp only [clock] at instant
  rw [write, time.readStrict?_append, readAfterDate?, writeClock]
  simp only [List.append_assoc, List.cons_append, Option.bind_eq_bind]
  rw [separatorRead, Option.bind_some, time.hourField.readFixed?_append, Option.bind_some,
    readChar?_self, Option.bind_some, time.minuteField.readFixed?_append, Option.bind_some,
    readChar?_self, Option.bind_some, time.secondField.readFixed?_append, Option.bind_some,
    time.readFraction?_append ends, Option.bind_some]
  simp only [naturalOfDigits_padded, instant]
  cases readOffset? ending with
  | none => rfl
  | some offset => rfl

/-- A date alone is no date and time in the strict form. -/
theorem readStrict?_date : readStrict? time.date.write = none := by
  have nothingAfter := time.readStrict?_append []
  rw [List.append_nil] at nothingAfter
  exact nothingAfter

/-- A lenient reader takes the form without an offset whose separator it removes. -/
theorem readLenient?_write
    {separator? : List Char → Option (List Char)}
    {separator : Char}
    (removes : separator? (separator :: time.writeClock) = some time.writeClock) :
    readLenient? separator? (time.write separator []) = some time.instant := by
  rw [readLenient?, write, List.append_nil]
  simp only [Option.bind_eq_bind]
  rw [time.readDate?_write, Option.bind_some, removes, Option.bind_some, time.readClock?_writeClock,
    Option.bind_some, time.instantOf?_eq]

theorem readLenient?_eq_none
    (separator? : List Char → Option (List Char))
    (rest : List Char)
    (refuses : (separator? rest).bind readClock? = none) :
    readLenient? separator? (time.date.write ++ rest) = none := by
  rw [readLenient?]
  simp only [Option.bind_eq_bind]
  rw [time.readDate?_write, Option.bind_some]
  simp only
  rw [← Option.bind_assoc, refuses, Option.bind_none]

/-- A date alone is read as its first instant. -/
theorem readDay?_date : readDay? time.date.write = some time.atMidnight.instant := by
  have dateRead := time.readDate?_write []
  rw [List.append_nil] at dateRead
  have midnight : time.atMidnight.clock = ⟨0, 0, 0, 0⟩ := by
    simp [clock, atMidnight, nanosOfDigits, naturalOfDigits]
  rw [readDay?, dateRead, Option.bind_eq_bind, Option.bind_some]
  simp only [reduceIte]
  rw [← midnight]
  exact time.atMidnight.instantOf?_eq

end Parts

/-! ## Reading whole texts -/

/-- The date is what every form begins with. -/
theorem head_isDigit
    (time : CivilTime)
    (rest : List Char) :
    ∀ c ∈ (time.date.write ++ rest).head?, c.isDigit = true := by
  rw [Date.write, time.writeYear_eq, List.append_assoc, List.append_assoc]
  exact time.yearField.head_isDigit (by decide) _

theorem date_getLast_isDigit (time : CivilTime) :
    ∀ c ∈ time.date.write.getLast?, c.isDigit = true := by
  rw [Date.write, List.append_cons]
  exact time.dayField.getLast_isDigit (by decide) _

theorem writeClock_getLast_isDigit
    (time : CivilTime)
    (front : List Char) :
    ∀ c ∈ (front ++ time.writeClock).getLast?, c.isDigit = true := by
  unfold writeClock writeFraction
  split
  next noFraction =>
    rw [List.append_nil]
    have assembled := time.secondField.getLast_isDigit (by decide)
      (front ++ padded 2 time.hour ++ ':' :: padded 2 time.minute ++ [':'])
    simpa using assembled
  next someFraction =>
    have field : IsField time.fraction.length time.fraction := ⟨time.areDigits, rfl⟩
    have assembled := field.getLast_isDigit (List.length_pos_iff.mpr someFraction)
      (front ++ padded 2 time.hour ++ ':' :: padded 2 time.minute ++
        ':' :: padded 2 time.second ++ ['.'])
    simpa using assembled

/-- The text of the form with a separator and an ending. -/
def text
    (time : CivilTime)
    (separator : Char)
    (ending : List Char) :
    String :=
  String.ofList (time.write separator ending)

end CivilTime

/-- A text that begins with a digit and does not end with a blank is read as it is. -/
theorem Instant.ofText?_ofList
    {text : List Char}
    (begins : ∀ c ∈ text.head?, c.isDigit = true)
    (ends : ∀ c ∈ text.getLast?, Text.isBlank c = false) :
    Instant.ofText? (String.ofList text) =
      (readStrict? text <|>
        readLenient? (readChar? 'T') text <|>
        readLenient? (fun rest => some (Text.trimStart rest)) text <|>
        readDay? text) := by
  have kept : Text.trim text = text :=
    Text.trim_eq_self_of_ends (fun c isFirst => Text.isBlank_of_isDigit (begins c isFirst)) ends
  rw [Instant.ofText?, String.toList_ofList, kept]

namespace CivilTime

/-- A form whose ending is no blank is read as it is. -/
theorem ofText?_eq
    (time : CivilTime)
    {separator : Char}
    {ending : List Char}
    (ends : ∀ c ∈ (time.date.write ++ separator :: time.writeClock ++ ending).getLast?,
      Text.isBlank c = false) :
    Instant.ofText? (time.text separator ending) =
      (readStrict? (time.write separator ending) <|>
        readLenient? (readChar? 'T') (time.write separator ending) <|>
        readLenient? (fun rest => some (Text.trimStart rest)) (time.write separator ending) <|>
        readDay? (time.write separator ending)) := by
  rw [List.append_assoc, List.cons_append] at ends
  exact Instant.ofText?_ofList (time.head_isDigit _) ends

/-- The form with an offset is read as the instant that lies as much earlier as the clock is
ahead of UTC. -/
theorem ofText?_offset
    (time : CivilTime)
    {separator : Char}
    (separates : separator ∈ ['T', 't', ' '])
    (offset : Offset) :
    Instant.ofText? (time.text separator offset.write) =
      some (time.instant.addSeconds (-offset.seconds)) := by
  have endsFraction : EndsFraction offset.write := by
    intro c isFirst
    obtain rfl := Option.some.inj isFirst
    split <;> decide
  have strict := time.readStrict?_write separates endsFraction
  rw [offset.readOffset?_write] at strict
  rw [time.ofText?_eq, strict]
  · rfl
  · intro c isLast
    apply Text.isBlank_of_isDigit
    apply offset.getLast_isDigit
    exact isLast

/-- The form with `Z` is read as the instant of the date and the time of day. -/
theorem ofText?_utc
    (time : CivilTime)
    {separator : Char}
    (separates : separator ∈ ['T', 't', ' ']) :
    Instant.ofText? (time.text separator ['Z']) = some time.instant := by
  have endsFraction : EndsFraction ['Z'] := by
    intro c isFirst
    obtain rfl := Option.some.inj isFirst
    decide
  have strict := time.readStrict?_write separates endsFraction
  rw [time.ofText?_eq, strict]
  · simp [readOffset?, Instant.addSeconds]
  · rw [List.getLast?_concat]
    intro c isLast
    obtain rfl := Option.some.inj isLast
    decide

/-- The form without an offset is read as if it had `Z`. -/
theorem ofText?_local
    (time : CivilTime)
    {separator : Char}
    (separates : separator ∈ ['T', ' ']) :
    Instant.ofText? (time.text separator []) = some time.instant := by
  have ends : ∀ c ∈ (time.date.write ++ separator :: time.writeClock ++ []).getLast?,
      Text.isBlank c = false := by
    intro c isLast
    rw [List.append_nil, List.append_cons] at isLast
    exact Text.isBlank_of_isDigit (time.writeClock_getLast_isDigit _ c isLast)
  have noBlanks : Text.trimStart time.writeClock = time.writeClock :=
    time.hourField.trimStart_append (by decide) _
  have oneOfThree : ['T', ' '] ⊆ ['T', 't', ' '] := by
    decide
  have strict : readStrict? (time.write separator []) = none :=
    time.readStrict?_write (oneOfThree separates) endsFraction_nil
  rw [time.ofText?_eq ends, strict]
  simp only [List.mem_cons, List.not_mem_nil, or_false] at separates
  rcases separates with rfl | rfl
  · rw [time.readLenient?_write (readChar?_self _ _)]
    rfl
  · have removed :
        some (Text.trimStart (' ' :: time.writeClock)) = some time.writeClock :=
      congrArg some ((List.dropWhile_cons_of_pos (by decide)).trans noBlanks)
    have taken :
        readLenient? (fun rest => some (Text.trimStart rest)) (time.write ' ' []) =
          some time.instant :=
      time.readLenient?_write removed
    have refused : readLenient? (readChar? 'T') (time.write ' ' []) = none :=
      time.readLenient?_eq_none (readChar? 'T') (' ' :: (time.writeClock ++ [])) rfl
    rw [taken, refused]
    rfl

/-- The date alone is read as its first instant. -/
theorem ofText?_date (time : CivilTime) :
    Instant.ofText? (String.ofList time.date.write) = some time.atMidnight.instant := by
  have begins := time.head_isDigit []
  have refusedT := time.readLenient?_eq_none (readChar? 'T') [] rfl
  have refusedBlank := time.readLenient?_eq_none (fun rest => some (Text.trimStart rest)) [] rfl
  rw [List.append_nil] at begins refusedT refusedBlank
  rw [Instant.ofText?_ofList begins fun c isLast =>
      Text.isBlank_of_isDigit (time.date_getLast_isDigit c isLast),
    time.readStrict?_date, refusedT, refusedBlank, time.readDay?_date]
  rfl

end CivilTime

end FeatureFlags.Time
