import FeatureFlags.Proofs.Time.Forms

namespace FeatureFlags.Time

/-!
# Written instants

An instant of a year of four digits is written in one of the forms of its date and its
time of day, and so it is read as itself. The years before and after them are written
with a sign, which the strict reader refuses; the lenient readers take years with a
sign but read over no `Z`, and every written instant ends with one. A second that is
prolonged elsewhere than at the end of a minute has no form of its own: it is written,
and so it is read, as the second after it, which has the same milliseconds.
-/

open FeatureFlags.Number

/-! ## Fractions -/

/-- The fraction digits of the nanoseconds: none, three, six or nine. -/
def fractionDigits (nanos : Nat) : List Char :=
  if nanos = 0 then []
  else if nanos % 1000000 = 0 then padded 3 (nanos / 1000000)
  else if nanos % 1000 = 0 then padded 6 (nanos / 1000)
  else padded 9 nanos

/-- A fraction of a width tells so many nanoseconds as its number and its width say. -/
theorem IsField.nanosOfDigits_eq
    {width : Nat}
    {digits : List Char}
    (field : IsField width digits)
    (atMostNine : width ≤ 9) :
    nanosOfDigits digits = naturalOfDigits digits * 10 ^ (9 - width) := by
  obtain ⟨-, rfl⟩ := field
  rw [nanosOfDigits, List.take_of_length_le atMostNine]
  rfl

/-- The fraction digits are so few that nothing of the nanoseconds is lost. -/
theorem fractionDigits_spec
    {nanos : Nat}
    (split : nanos < nanosPerSecond) :
    (∃ width ≤ 9, IsField width (fractionDigits nanos)) ∧
      nanosOfDigits (fractionDigits nanos) = nanos := by
  have bound : nanos < 10 ^ 9 := split
  unfold fractionDigits
  split
  next none =>
    exact ⟨⟨0, by decide, List.forall_mem_nil _, rfl⟩, none ▸ rfl⟩
  next some =>
    split
    next millis =>
      have field : IsField 3 (padded 3 (nanos / 1000000)) :=
        isField_padded (by decide) (by omega)
      refine ⟨⟨3, by decide, field⟩, ?_⟩
      rw [field.nanosOfDigits_eq (by decide), naturalOfDigits_padded]
      omega
    next =>
      split
      next micros =>
        have field : IsField 6 (padded 6 (nanos / 1000)) :=
          isField_padded (by decide) (by omega)
        refine ⟨⟨6, by decide, field⟩, ?_⟩
        rw [field.nanosOfDigits_eq (by decide), naturalOfDigits_padded]
        omega
      next =>
        have field : IsField 9 (padded 9 nanos) := isField_padded (by decide) bound
        refine ⟨⟨9, by decide, field⟩, ?_⟩
        rw [field.nanosOfDigits_eq (by decide), naturalOfDigits_padded]
        omega

/-- A fraction is written with a point before its digits, if there are any. -/
theorem writeFraction_eq (nanos : Nat) :
    writeFraction nanos =
      if fractionDigits nanos = [] then [] else '.' :: fractionDigits nanos := by
  have someDigits : ∀ width n, padded width n ≠ [] := fun width n =>
    List.append_ne_nil_of_right_ne_nil _ (decimalDigits_ne_nil n)
  unfold writeFraction fractionDigits
  split_ifs <;> simp_all

/-! ## Points in time -/

namespace Instant

/-- What a point in time is: its nanoseconds run past the second only in a leap second, and
a leap second ends a minute. -/
structure IsPointInTime (instant : Instant) : Prop where
  belowTwoSeconds : instant.nanos < 2 * nanosPerSecond
  endsMinute : nanosPerSecond ≤ instant.nanos → instant.seconds % 60 = 59

/-- The year of the date in UTC. -/
def year (instant : Instant) : Int :=
  (Date.ofDays (instant.seconds / 86400)).year

/-- Date and time of day in UTC. -/
def civil
    (instant : Instant)
    (point : instant.IsPointInTime)
    (inFour : 0 ≤ instant.year ∧ instant.year ≤ 9999) :
    CivilTime where
  date := .ofDays (instant.seconds / 86400)
  hour := (instant.seconds % 86400).toNat / 3600
  minute := (instant.seconds % 86400).toNat / 60 % 60
  second := (instant.seconds % 86400).toNat % 60 + instant.nanos / nanosPerSecond
  fraction := fractionDigits (instant.nanos % nanosPerSecond)
  isPossible := Date.ofDays_isPossible _
  hasFourDigits := inFour
  hour_le := by omega
  minute_le := by omega
  second_le := by
    have leap := point.belowTwoSeconds
    unfold nanosPerSecond at leap ⊢
    omega
  areDigits := by
    obtain ⟨⟨width, -, field⟩, -⟩ :=
      fractionDigits_spec (Nat.mod_lt instant.nanos (by decide : 0 < nanosPerSecond))
    exact field.areDigits
  atMostNine := by
    obtain ⟨⟨width, atMostNine, field⟩, -⟩ :=
      fractionDigits_spec (Nat.mod_lt instant.nanos (by decide : 0 < nanosPerSecond))
    rw [field.hasWidth]
    exact atMostNine

variable {instant : Instant}

/-- The date and the time of day of an instant name that instant. -/
theorem instant_civil
    (point : instant.IsPointInTime)
    (inFour : 0 ≤ instant.year ∧ instant.year ≤ 9999) :
    (instant.civil point inFour).instant = instant := by
  obtain ⟨seconds, nanos⟩ := instant
  obtain ⟨belowTwoSeconds, endsMinute⟩ := point
  have kept := (fractionDigits_spec (Nat.mod_lt nanos (by decide : 0 < nanosPerSecond))).2
  simp only [CivilTime.instant, civil, ofDayTime, Date.toDays_ofDays, kept, mk.injEq]
  unfold nanosPerSecond at *
  simp only at belowTwoSeconds endsMinute
  constructor
  · omega
  · omega

/-- An instant of a year of four digits is written as its date and time of day in UTC. -/
theorem toText_eq_text
    (point : instant.IsPointInTime)
    (inFour : 0 ≤ instant.year ∧ instant.year ≤ 9999) :
    instant.toText = (instant.civil point inFour).text 'T' ['Z'] := by
  rw [toText, write, writeTime, writeFraction_eq]
  simp only [CivilTime.text, CivilTime.write, CivilTime.writeClock, CivilTime.writeFraction, civil,
    List.append_assoc, List.cons_append]
  rfl

/-- An instant of a year of four digits is read from its text. -/
theorem ofText?_toText_of_fourDigits
    (point : instant.IsPointInTime)
    (inFour : 0 ≤ instant.year ∧ instant.year ≤ 9999) :
    ofText? instant.toText = some instant := by
  rw [toText_eq_text point inFour, CivilTime.ofText?_utc _ (by decide), instant_civil]

/-- Off the end of a minute there is no leap second: there a second prolonged is written as
the second after it. -/
theorem toText_eq_of_offMinute
    (belowTwoSeconds : instant.nanos < 2 * nanosPerSecond)
    (prolonged : nanosPerSecond ≤ instant.nanos)
    (offMinute : instant.seconds % 60 ≠ 59) :
    instant.toText = toText ⟨instant.seconds + 1, instant.nanos - nanosPerSecond⟩ := by
  obtain ⟨seconds, nanos⟩ := instant
  simp only at belowTwoSeconds prolonged offMinute
  have sameDay : (seconds + 1) / 86400 = seconds / 86400 := by omega
  have nextSecond : ((seconds + 1) % 86400).toNat = (seconds % 86400).toNat + 1 := by omega
  have sameHour : ((seconds % 86400).toNat + 1) / 3600 = (seconds % 86400).toNat / 3600 := by omega
  have sameMinute :
      ((seconds % 86400).toNat + 1) / 60 % 60 = (seconds % 86400).toNat / 60 % 60 := by omega
  have written :
      ((seconds % 86400).toNat + 1) % 60 + (nanos - nanosPerSecond) / nanosPerSecond =
        (seconds % 86400).toNat % 60 + nanos / nanosPerSecond := by
    unfold nanosPerSecond at *
    omega
  have sameFraction : (nanos - nanosPerSecond) % nanosPerSecond = nanos % nanosPerSecond := by
    unfold nanosPerSecond at *
    omega
  simp only [toText, write, writeTime, sameDay, nextSecond, sameHour, sameMinute, written,
    sameFraction]

/-- The point in time that the text of an instant shows. -/
def shown (instant : Instant) : Instant :=
  if nanosPerSecond ≤ instant.nanos ∧ instant.seconds % 60 ≠ 59 then
    ⟨instant.seconds + 1, instant.nanos - nanosPerSecond⟩
  else
    instant

theorem isPointInTime_iff (belowTwoSeconds : instant.nanos < 2 * nanosPerSecond) :
    instant.IsPointInTime ↔ ¬ (nanosPerSecond ≤ instant.nanos ∧ instant.seconds % 60 ≠ 59) := by
  rw [not_and_not_right]
  exact ⟨IsPointInTime.endsMinute, fun endsMinute => ⟨belowTwoSeconds, endsMinute⟩⟩

theorem IsPointInTime.shown_eq (point : instant.IsPointInTime) : instant.shown = instant :=
  if_neg ((isPointInTime_iff point.belowTwoSeconds).mp point)

theorem shown_eq_of_not_isPointInTime
    (belowTwoSeconds : instant.nanos < 2 * nanosPerSecond)
    (notPoint : ¬ instant.IsPointInTime) :
    instant.shown = ⟨instant.seconds + 1, instant.nanos - nanosPerSecond⟩ := by
  rw [isPointInTime_iff belowTwoSeconds, not_not] at notPoint
  exact if_pos notPoint

/-- What a text shows is a point in time with that text, in the same year and millisecond. -/
theorem shown_spec (belowTwoSeconds : instant.nanos < 2 * nanosPerSecond) :
    instant.shown.IsPointInTime ∧
      instant.shown.toText = instant.toText ∧
      instant.shown.year = instant.year ∧
      instant.shown.toMillis = instant.toMillis := by
  by_cases point : instant.IsPointInTime
  · rw [point.shown_eq]
    exact ⟨point, rfl, rfl, rfl⟩
  rw [shown_eq_of_not_isPointInTime belowTwoSeconds point]
  rw [isPointInTime_iff belowTwoSeconds, not_not] at point
  obtain ⟨prolonged, offMinute⟩ := point
  refine ⟨⟨?_, ?_⟩, ?_, ?_, ?_⟩
  · change instant.nanos - nanosPerSecond < 2 * nanosPerSecond
    omega
  · intro stillProlonged
    change nanosPerSecond ≤ instant.nanos - nanosPerSecond at stillProlonged
    omega
  · exact (toText_eq_of_offMinute belowTwoSeconds prolonged offMinute).symm
  · have sameDay : (instant.seconds + 1) / 86400 = instant.seconds / 86400 := by omega
    simp only [year, sameDay]
  · simp only [toMillis]
    unfold nanosPerSecond at *
    omega

end Instant

/-! ## Lenient readers and `Z` -/

theorem mem_dropWhile
    {drops : Char → Bool}
    {text : List Char}
    (kept : drops 'Z' = false)
    (member : 'Z' ∈ text) :
    'Z' ∈ text.dropWhile drops := by
  rw [← List.takeWhile_append_dropWhile (p := drops) (l := text)] at member
  rcases List.mem_append.mp member with dropped | rest
  · have isDropped := List.mem_takeWhile_imp dropped
    rw [kept] at isDropped
    cases isDropped
  · exact rest

/-- A number is blanks and digits, and so no reader of numbers reads over a `Z`. -/
theorem mem_of_readNumber?
    {width n : Nat}
    {text rest : List Char}
    (isRead : readNumber? width text = some (n, rest))
    (member : 'Z' ∈ text) :
    'Z' ∈ rest := by
  simp only [readNumber?, Option.ite_none_left_eq_some, Option.some.injEq, Prod.mk.injEq] at isRead
  obtain ⟨-, -, rfl⟩ := isRead
  have afterBlanks : 'Z' ∈ Text.trimStart text := mem_dropWhile (by decide) member
  generalize Text.trimStart text = text at afterBlanks ⊢
  have parts : text = (readDigits text).1.take width ++
      ((readDigits text).1.drop width ++ (readDigits text).2) := by
    rw [← List.append_assoc, List.take_append_drop]
    exact List.takeWhile_append_dropWhile.symm
  have digits : 'Z' ∉ (readDigits text).1.take width := fun isDigit =>
    absurd (List.mem_takeWhile_imp (List.mem_of_mem_take isDigit)) (by decide)
  generalize (readDigits text).1.take width = digits at parts digits ⊢
  rw [parts, List.drop_left]
  rw [parts] at afterBlanks
  exact (List.mem_append.mp afterBlanks).resolve_left digits

theorem mem_of_readChar?
    {expected : Char}
    {text rest : List Char}
    (notZ : expected ≠ 'Z')
    (isRead : readChar? expected text = some rest)
    (member : 'Z' ∈ text) :
    'Z' ∈ rest := by
  cases text with
  | nil =>
      cases isRead
  | cons c more =>
      simp only [readChar?, Option.ite_none_right_eq_some, Option.some.injEq] at isRead
      obtain ⟨rfl, rfl⟩ := isRead
      exact List.mem_of_ne_of_mem (Ne.symm notZ) member

theorem mem_of_readNumeral
    {n : Nat}
    {text rest : List Char}
    (isRead : readYear?.readNumeral text = some (n, rest))
    (member : 'Z' ∈ text) :
    'Z' ∈ rest := by
  simp only [readYear?.readNumeral, Option.ite_none_left_eq_some, Option.some.injEq,
    Prod.mk.injEq] at isRead
  obtain ⟨-, -, rfl⟩ := isRead
  exact mem_dropWhile (by decide) member

theorem mem_of_readYear?
    {year : Int}
    {text rest : List Char}
    (isRead : readYear? text = some (year, rest))
    (member : 'Z' ∈ text) :
    'Z' ∈ rest := by
  have afterBlanks : 'Z' ∈ Text.trimStart text := mem_dropWhile (by decide) member
  simp only [readYear?, Option.bind_eq_bind] at isRead
  split at isRead
  all_goals
    simp only [Option.bind_eq_some_iff, Option.bind_some, Option.ite_none_right_eq_some,
      Option.some.injEq, Prod.mk.injEq] at isRead
    obtain ⟨⟨magnitude, _⟩, digitsRead, -, -, rfl⟩ := isRead
  next digits minus _ =>
    rw [minus] at afterBlanks
    exact mem_of_readNumeral digitsRead (List.mem_of_ne_of_mem (by decide) afterBlanks)
  next digits plus _ =>
    rw [plus] at afterBlanks
    exact mem_of_readNumeral digitsRead (List.mem_of_ne_of_mem (by decide) afterBlanks)
  next =>
    exact mem_of_readNumber? digitsRead afterBlanks

theorem mem_of_readDate?
    {date : Date}
    {text rest : List Char}
    (isRead : readDate? text = some (date, rest))
    (member : 'Z' ∈ text) :
    'Z' ∈ rest := by
  simp only [readDate?, Option.bind_eq_bind, Option.bind_eq_some_iff, Option.some.injEq,
    Prod.mk.injEq] at isRead
  obtain ⟨⟨year, _⟩, yearRead, _, firstDash, ⟨month, _⟩, monthRead, _, secondDash, ⟨day, _⟩,
    dayRead, -, rfl⟩ := isRead
  have afterYear := mem_of_readChar? (by decide) firstDash (mem_of_readYear? yearRead member)
  have afterMonth :=
    mem_of_readChar? (by decide) secondDash (mem_of_readNumber? monthRead afterYear)
  exact mem_of_readNumber? dayRead afterMonth

theorem mem_of_readFraction?
    {nanos : Nat}
    {text rest : List Char}
    (isRead : readFraction? text = some (nanos, rest))
    (member : 'Z' ∈ text) :
    'Z' ∈ rest := by
  unfold readFraction? at isRead
  split at isRead
  next more =>
    simp only [Option.ite_none_left_eq_some, Option.some.injEq, Prod.mk.injEq] at isRead
    obtain ⟨-, -, rfl⟩ := isRead
    exact mem_dropWhile (by decide) (List.mem_of_ne_of_mem (by decide) member)
  next =>
    obtain ⟨-, rfl⟩ := Prod.mk.inj (Option.some.inj isRead)
    exact member

/-- No text with a `Z` is a clock reading. -/
theorem readClock?_eq_none_of_mem
    {text : List Char}
    (member : 'Z' ∈ text) :
    readClock? text = none := by
  rw [Option.eq_none_iff_forall_ne_some]
  intro clock isRead
  simp only [readClock?, Option.bind_eq_bind, Option.bind_eq_some_iff,
    Option.ite_none_right_eq_some] at isRead
  obtain ⟨⟨hour, _⟩, hourRead, _, firstColon, ⟨minute, _⟩, minuteRead, _, secondColon, ⟨second, _⟩,
    secondRead, ⟨nanos, _⟩, fractionRead, rfl, -⟩ := isRead
  have afterHour := mem_of_readChar? (by decide) firstColon (mem_of_readNumber? hourRead member)
  have afterMinute :=
    mem_of_readChar? (by decide) secondColon (mem_of_readNumber? minuteRead afterHour)
  have afterSecond := mem_of_readNumber? secondRead afterMinute
  exact List.not_mem_nil (mem_of_readFraction? fractionRead afterSecond)

/-- A lenient reader whose separator is not read over a `Z` takes no text with a `Z`. -/
theorem readLenient?_eq_none_of_mem
    (separator? : List Char → Option (List Char))
    {text : List Char}
    (keeps : ∀ text rest, separator? text = some rest → 'Z' ∈ text → 'Z' ∈ rest)
    (member : 'Z' ∈ text) :
    readLenient? separator? text = none := by
  rw [Option.eq_none_iff_forall_ne_some]
  intro instant isRead
  simp only [readLenient?, Option.bind_eq_bind, Option.bind_eq_some_iff] at isRead
  obtain ⟨⟨date, _⟩, dateRead, _, separated, clock, clockRead, -⟩ := isRead
  have noClock := readClock?_eq_none_of_mem (keeps _ _ separated (mem_of_readDate? dateRead member))
  rw [clockRead] at noClock
  cases noClock

theorem readDay?_eq_none_of_mem
    {text : List Char}
    (member : 'Z' ∈ text) :
    readDay? text = none := by
  rw [Option.eq_none_iff_forall_ne_some]
  intro instant isRead
  simp only [readDay?, Option.bind_eq_bind, Option.bind_eq_some_iff,
    Option.ite_none_right_eq_some] at isRead
  obtain ⟨⟨date, _⟩, dateRead, rfl, -⟩ := isRead
  exact List.not_mem_nil (mem_of_readDate? dateRead member)

/-! ## Years with a sign -/

namespace Instant

/-- A text with a `Z` is a date in the strict form or none. -/
theorem ofText?_eq_readStrict?
    {text : String}
    (member : 'Z' ∈ Text.trim text.toList) :
    ofText? text = readStrict? (Text.trim text.toList) := by
  have noLetter : readLenient? (readChar? 'T') (Text.trim text.toList) = none :=
    readLenient?_eq_none_of_mem _ (fun _ _ => mem_of_readChar? (by decide)) member
  have noBlanks :
      readLenient? (fun rest => some (Text.trimStart rest)) (Text.trim text.toList) = none := by
    apply readLenient?_eq_none_of_mem _ _ member
    intro text rest removed member
    obtain rfl := Option.some.inj removed
    exact mem_dropWhile (by decide) member
  simp only [ofText?, noLetter, noBlanks, readDay?_eq_none_of_mem member, Option.orElse_eq_orElse,
    Option.orElse_none]
  cases readStrict? (Text.trim text.toList) with
  | none => rfl
  | some instant => rfl

/-- The strict reader takes no year with a sign. -/
theorem readStrict?_cons_eq_none
    {sign : Char}
    (notDigit : sign.isDigit = false)
    (text : List Char) :
    readStrict? (sign :: text) = none := by
  have noYear : readFixed? 4 (sign :: text) = none := by
    simp [readFixed?, notDigit]
  rw [readStrict?, noYear]
  rfl

variable {instant : Instant}

/-- The year of an instant that is written with more than four digits has a sign in front. -/
theorem exists_sign_of_year
    {year : Int}
    (outside : ¬ (0 ≤ year ∧ year ≤ 9999)) :
    ∃ sign, (sign = '-' ∨ sign = '+') ∧
      writeYear year = sign :: padded 4 year.natAbs := by
  unfold writeYear
  split
  next => exact ⟨'-', .inl rfl, rfl⟩
  next nonneg =>
    rw [if_neg (by omega)]
    exact ⟨'+', .inr rfl, rfl⟩

/-- An instant of any other year is written, but its text is not read. -/
theorem ofText?_toText_of_otherYear
    (outside : ¬ (0 ≤ instant.year ∧ instant.year ≤ 9999)) :
    ofText? instant.toText = none := by
  obtain ⟨sign, isSign, year⟩ := exists_sign_of_year outside
  have notDigit : sign.isDigit = false ∧ Text.isBlank sign = false := by
    rcases isSign with rfl | rfl <;> decide
  have shape : ∃ rest, instant.write = sign :: (rest ++ ['Z']) := by
    rw [Instant.year] at year
    rw [write, Date.write, year]
    simp only [List.cons_append]
    exact ⟨_, rfl⟩
  obtain ⟨rest, written⟩ := shape
  have kept : Text.trim instant.toText.toList = sign :: (rest ++ ['Z']) := by
    rw [toText, String.toList_ofList, written]
    apply Text.trim_eq_self_of_ends
    · intro c isFirst
      exact Option.some.inj isFirst ▸ notDigit.2
    · rw [← List.cons_append, List.getLast?_concat]
      intro c isLast
      obtain rfl := Option.some.inj isLast
      decide
  rw [ofText?_eq_readStrict?, kept, readStrict?_cons_eq_none notDigit.1]
  rw [kept]
  simp

/-- What a text shows is read from it when its year has four digits, and only then. -/
theorem ofText?_toText (belowTwoSeconds : instant.nanos < 2 * nanosPerSecond) :
    ofText? instant.toText =
      if 0 ≤ instant.year ∧ instant.year ≤ 9999 then some instant.shown else none := by
  split
  next inFour =>
    obtain ⟨point, sameText, sameYear, -⟩ := shown_spec belowTwoSeconds
    rw [← sameText]
    exact ofText?_toText_of_fourDigits point (by rwa [sameYear])
  next outside => exact ofText?_toText_of_otherYear outside

end Instant

end FeatureFlags.Time
