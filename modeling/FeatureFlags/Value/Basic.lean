import FeatureFlags.Number.Binary64
import FeatureFlags.Table
import FeatureFlags.Time.Instant

namespace FeatureFlags

/-!
# Dynamic values

The values of attributes, context fields and config payloads. Objects hold their
entries in the order of their keys.
-/

/-- A dynamically typed value. -/
inductive Value where
  | null
  | bool (value : Bool)
  | integer (value : Int64)
  | float (value : Number.Binary64)
  | text (value : String)
  | dateTime (value : Time.Instant)
  | array (items : List Value)
  | object (entries : List (String × Value))

instance : Inhabited Value := ⟨.null⟩

/-- Free-form attributes by name. -/
abbrev Attributes := Table Value

/-- Context fields by dotted name. -/
abbrev Fields := Table Value

namespace Value

/-- The object with the entries of a table. -/
def ofTable (table : Table Value) : Value :=
  .object table.entries

mutual

/-- Whether all objects inside a value hold their entries in the order of their keys. -/
def WellFormed : Value → Prop
  | .array items => AllWellFormed items
  | .object entries => KeysIncrease entries ∧ EntriesWellFormed entries
  | _ => True

/-- Whether all items are well-formed. -/
def AllWellFormed : List Value → Prop
  | [] => True
  | item :: rest => WellFormed item ∧ AllWellFormed rest

/-- Whether the values of all entries are well-formed. -/
def EntriesWellFormed : List (String × Value) → Prop
  | [] => True
  | (_, value) :: rest => WellFormed value ∧ EntriesWellFormed rest

end

mutual

/--
Structural equality. Numbers compare as numbers, so that the zeros are equal and
`nan` differs from itself; values of different kinds are never equal.
-/
def equal : Value → Value → Bool
  | .null, .null => true
  | .bool left, .bool right => left == right
  | .integer left, .integer right => left == right
  | .float left, .float right => left.same right
  | .text left, .text right => left == right
  | .dateTime left, .dateTime right => decide (left = right)
  | .array left, .array right => equalItems left right
  | .object left, .object right => equalEntries left right
  | _, _ => false

/-- Equality of items in order. -/
def equalItems : List Value → List Value → Bool
  | [], [] => true
  | left :: lefts, right :: rights => equal left right && equalItems lefts rights
  | _, _ => false

/-- Equality of entries in order. -/
def equalEntries : List (String × Value) → List (String × Value) → Bool
  | [], [] => true
  | (leftKey, left) :: lefts, (rightKey, right) :: rights =>
      leftKey == rightKey && equal left right && equalEntries lefts rights
  | _, _ => false

end

/-- The truth value of a boolean. -/
def asBool? : Value → Option Bool
  | .bool value => some value
  | _ => none

/-- The content of a text. -/
def asText? : Value → Option String
  | .text value => some value
  | _ => none

end Value

end FeatureFlags
