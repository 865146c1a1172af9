import FeatureFlags.Number.Decimal
import FeatureFlags.Time.Reading
import FeatureFlags.Value.Document

namespace FeatureFlags.Value

/-!
# Plain text and coercions

Every value has a plain text, which is what text operators compare. Numbers,
booleans and dates are taken as they are where one is wanted, and read from the
plain text otherwise.
-/

open FeatureFlags.Number (Binary64)

/-- The plain text of a value. -/
def toText : Value → String
  | .null => ""
  | .bool true => "true"
  | .bool false => "false"
  | .integer value => value.toInt.repr
  | .float value => value.toText
  | .text value => value
  | .dateTime value => value.toText
  | .array items => (Value.array items).serialize
  | .object entries => (Value.object entries).serialize

/-- Whether the plain text has any character. -/
def isSet (value : Value) : Bool :=
  value.toText != ""

/-- The value as a number. -/
def toNumber? : Value → Option Binary64
  | .integer value => some (.ofInt value.toInt)
  | .float value => some value
  | value => Binary64.ofText? value.toText

/-- The truth value that a text spells in any case after blanks at its ends are dropped. -/
def boolOfText? (text : String) : Option Bool :=
  let trimmed := (Text.trim text.toList).map Char.toLower
  if trimmed = "true".toList then some true
  else if trimmed = "false".toList then some false
  else none

/-- The value as a boolean. -/
def toBool? : Value → Option Bool
  | .bool value => some value
  | value => boolOfText? value.toText

/-- The value as an instant. -/
def toInstant? : Value → Option Time.Instant
  | .dateTime value => some value
  | value => Time.Instant.ofText? value.toText

end FeatureFlags.Value
