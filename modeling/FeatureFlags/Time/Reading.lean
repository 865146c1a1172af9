import FeatureFlags.Number.Decimal
import FeatureFlags.Number.Power
import FeatureFlags.Time.Instant

namespace FeatureFlags.Time

/-!
# Reading dates

Four forms of dates are tried in turn: the strict form with an offset, two lenient
forms of date and time that are taken to be in UTC, and the lenient date alone.
-/

open FeatureFlags.Number (digitValue naturalOfDigits readDigits)

/-- Read exactly `count` digits in front of a text. -/
def readFixed? :
    Nat → List Char → Option (Nat × List Char)
  | count, text =>
      let digits := text.take count
      if digits.length = count ∧ digits.all Char.isDigit then
        some (naturalOfDigits digits, text.drop count)
      else
        none

/-- Drop one given character in front of a text. -/
def readChar?
    (expected : Char) :
    List Char → Option (List Char)
  | [] => none
  | c :: rest => if c = expected then some rest else none

/-- Nanoseconds from fraction digits; digits after the ninth are ignored. -/
def nanosOfDigits (digits : List Char) : Nat :=
  let kept := digits.take 9
  naturalOfDigits kept * Number.tenTo (9 - kept.length)

/-- An optional fraction of a second: a point and at least one digit. -/
def readFraction? : List Char → Option (Nat × List Char)
  | '.' :: text =>
      let (digits, rest) := readDigits text
      if digits.isEmpty then none else some (nanosOfDigits digits, rest)
  | text => some (0, text)

/-- A clock reading: hours, minutes, seconds and nanoseconds. -/
structure ClockTime where
  hour : Nat
  minute : Nat
  second : Nat
  nanos : Nat

/--
The instant of a date and a clock reading in UTC. The second sixty is a leap
second of any minute; dates and readings that do not exist have no instant.
-/
def instantOf?
    (date : Date)
    (clock : ClockTime) :
    Option Instant :=
  if date.IsPossible ∧ clock.hour ≤ 23 ∧ clock.minute ≤ 59 ∧ clock.second ≤ 60 then
    let leap := clock.second / 60
    some <|
      .ofDayTime date.toDays
        (clock.hour * 3600 + clock.minute * 60 + (clock.second - leap))
        (clock.nanos + leap * nanosPerSecond)
  else
    none

/-- The sign in front of an offset, true for minus. -/
def readOffsetSign? : List Char → Option (Bool × List Char)
  | '+' :: rest => some (false, rest)
  | '-' :: rest => some (true, rest)
  | '−' :: rest => some (true, rest)
  | _ => none

/-- The offset in seconds that a whole text spells: `Z`, or a sign, hours and minutes. -/
def readOffset? (text : List Char) : Option Int :=
  if text = ['Z'] ∨ text = ['z'] then
    some 0
  else do
    let (negative, text) ← readOffsetSign? text
    let (hours, text) ← readFixed? 2 text
    let text ← readChar? ':' text
    let (minutes, text) ← readFixed? 2 text
    if hours ≤ 23 ∧ minutes ≤ 59 ∧ text = [] then
      let seconds : Int := hours * 3600 + minutes * 60
      some (if negative then -seconds else seconds)
    else
      none

/-- What may stand between date and time in the strict form. -/
def readSeparator? : List Char → Option (List Char)
  | 'T' :: rest => some rest
  | 't' :: rest => some rest
  | ' ' :: rest => some rest
  | _ => none

/-- The strict form: fixed widths and an offset, which is taken off. -/
def readStrict? (text : List Char) : Option Instant := do
  let (year, text) ← readFixed? 4 text
  let text ← readChar? '-' text
  let (month, text) ← readFixed? 2 text
  let text ← readChar? '-' text
  let (day, text) ← readFixed? 2 text
  let text ← readSeparator? text
  let (hour, text) ← readFixed? 2 text
  let text ← readChar? ':' text
  let (minute, text) ← readFixed? 2 text
  let text ← readChar? ':' text
  let (second, text) ← readFixed? 2 text
  let (nanos, text) ← readFraction? text
  let offset ← readOffset? text
  let instant ← instantOf? ⟨year, month, day⟩ ⟨hour, minute, second, nanos⟩
  some (instant.addSeconds (-offset))

/-- Read a number of at most `width` digits after any blanks. -/
def readNumber?
    (width : Nat)
    (text : List Char) :
    Option (Nat × List Char) :=
  let text := Text.trimStart text
  let digits := (readDigits text).1.take width
  if digits.isEmpty then
    none
  else
    some (naturalOfDigits digits, text.drop digits.length)

/-- The years that have dates. -/
def IsCalendarYear (year : Int) : Prop :=
  -262143 ≤ year ∧ year ≤ 262142

instance (year : Int) : Decidable (IsCalendarYear year) :=
  inferInstanceAs (Decidable (_ ∧ _))

/-- Read a year: up to four digits, or a sign and any number of digits. -/
def readYear? (text : List Char) : Option (Int × List Char) := do
  let text := Text.trimStart text
  let (year, rest) ←
    match text with
    | '-' :: digits => do
        let (magnitude, rest) ← readNumeral digits
        some (-(magnitude : Int), rest)
    | '+' :: digits => do
        let (magnitude, rest) ← readNumeral digits
        some ((magnitude : Int), rest)
    | _ => do
        let (magnitude, rest) ← readNumber? 4 text
        some ((magnitude : Int), rest)
  if IsCalendarYear year then some (year, rest) else none
where
  /-- At least one digit and as many as there are. -/
  readNumeral (text : List Char) : Option (Nat × List Char) :=
    let (digits, rest) := readDigits text
    if digits.isEmpty then none else some (naturalOfDigits digits, rest)

/-- Read a date leniently. -/
def readDate? (text : List Char) : Option (Date × List Char) := do
  let (year, text) ← readYear? text
  let text ← readChar? '-' text
  let (month, text) ← readNumber? 2 text
  let text ← readChar? '-' text
  let (day, text) ← readNumber? 2 text
  some (⟨year, month, day⟩, text)

/-- Read the time of day that a whole text spells, leniently. -/
def readClock? (text : List Char) : Option ClockTime := do
  let (hour, text) ← readNumber? 2 text
  let text ← readChar? ':' text
  let (minute, text) ← readNumber? 2 text
  let text ← readChar? ':' text
  let (second, text) ← readNumber? 2 text
  let (nanos, text) ← readFraction? text
  if text = [] then some ⟨hour, minute, second, nanos⟩ else none

/-- Date and time, separated by what `separator?` removes, in UTC. -/
def readLenient?
    (separator? : List Char → Option (List Char))
    (text : List Char) :
    Option Instant := do
  let (date, text) ← readDate? text
  let text ← separator? text
  let clock ← readClock? text
  instantOf? date clock

/-- A date alone, at its first instant in UTC. -/
def readDay? (text : List Char) : Option Instant := do
  let (date, text) ← readDate? text
  if text = [] then instantOf? date ⟨0, 0, 0, 0⟩ else none

namespace Instant

/-- The instant of a text in the strict form. -/
def ofStrict? (text : String) : Option Instant :=
  readStrict? text.toList

/-- The instant of the first form that a text has after blanks at its ends are dropped. -/
def ofText? (text : String) : Option Instant :=
  let trimmed := Text.trim text.toList
  readStrict? trimmed <|>
    readLenient? (readChar? 'T') trimmed <|>
    readLenient? (fun rest => some (Text.trimStart rest)) trimmed <|>
    readDay? trimmed

end Instant

end FeatureFlags.Time
