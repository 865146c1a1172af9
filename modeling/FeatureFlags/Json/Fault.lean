import FeatureFlags.Number.Numeral
import FeatureFlags.Text.Quoted

namespace FeatureFlags.Json

/-!
# What can be wrong with a JSON text

The causes for which a text is no JSON value, or a value has not the wanted
shape, and the wording of each.
-/

/-- A value found where one of another shape is wanted. -/
inductive Unexpected where
  | null
  | bool (value : Bool)
  | integer (value : Int)
  | float (value : Number.Binary64)
  | text (value : String)
  | sequence
  | map

/-- A cause of failure. -/
inductive Fault where
  | endInValue
  | endInList
  | endInObject
  | endInString
  | expectedValue
  | expectedWord
  | expectedColon
  | expectedListSeparator
  | expectedObjectSeparator
  | trailingComma
  | trailingCharacters
  | keyNotText
  | invalidNumber
  | numberOutOfRange
  | invalidEscape
  | loneSurrogate
  | endInSurrogatePair
  | controlCharacter
  | recursionLimit
  | missingField (name : String)
  | duplicateField (name : String)
  | invalidType (found : Unexpected) (wanted : String)
  | invalidValue (found : Unexpected) (wanted : String)
  | invalidLength (length : Nat) (wanted : String)

namespace Unexpected

/-- How a found value is described. -/
def describe : Unexpected → String
  | .null => "null"
  | .bool value => "boolean `" ++ (if value then "true" else "false") ++ "`"
  | .integer value => "integer `" ++ value.repr ++ "`"
  | .float value => "floating point `" ++ value.write Number.documentStyle ++ "`"
  | .text value => "string " ++ Text.quoted value
  | .sequence => "sequence"
  | .map => "map"

end Unexpected

namespace Fault

/-- The wording of a cause. -/
def message : Fault → String
  | .endInValue => "EOF while parsing a value"
  | .endInList => "EOF while parsing a list"
  | .endInObject => "EOF while parsing an object"
  | .endInString => "EOF while parsing a string"
  | .expectedValue => "expected value"
  | .expectedWord => "expected ident"
  | .expectedColon => "expected `:`"
  | .expectedListSeparator => "expected `,` or `]`"
  | .expectedObjectSeparator => "expected `,` or `\x7d`"
  | .trailingComma => "trailing comma"
  | .trailingCharacters => "trailing characters"
  | .keyNotText => "key must be a string"
  | .invalidNumber => "invalid number"
  | .numberOutOfRange => "number out of range"
  | .invalidEscape => "invalid escape"
  | .loneSurrogate => "lone leading surrogate in hex escape"
  | .endInSurrogatePair => "unexpected end of hex escape"
  | .controlCharacter =>
      "control character (\\u0000-\\u001F) found while parsing a string"
  | .recursionLimit => "recursion limit exceeded"
  | .missingField name => "missing field `" ++ name ++ "`"
  | .duplicateField name => "duplicate field `" ++ name ++ "`"
  | .invalidType found wanted =>
      "invalid type: " ++ found.describe ++ ", expected " ++ wanted
  | .invalidValue found wanted =>
      "invalid value: " ++ found.describe ++ ", expected " ++ wanted
  | .invalidLength length wanted =>
      "invalid length " ++ length.repr ++ ", expected " ++ wanted

end Fault

end FeatureFlags.Json
