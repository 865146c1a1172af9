import FeatureFlags.Json.Reading
import FeatureFlags.Json.Writing
import FeatureFlags.Value.Basic

namespace FeatureFlags.Value

/-!
# Values and JSON

Every value has a JSON tree: dates become text, and numbers that have no numeral
become null. Every JSON tree has a value: integers that fit a signed word stay
integers, and of entries with equal keys the last one counts.
-/

open FeatureFlags.Json (Tree)

mutual

/-- The JSON tree of a value. -/
def toTree : Value → Tree
  | .null => .null
  | .bool value => .bool value
  | .integer value => .integer value.toInt
  | .float value => if value.isFinite then .float value else .null
  | .text value => .text value
  | .dateTime value => .text value.toText
  | .array items => .array (toTrees items)
  | .object entries => .object (toTreeEntries entries)

/-- The JSON trees of items. -/
def toTrees : List Value → List Tree
  | [] => []
  | item :: rest => toTree item :: toTrees rest

/-- The JSON trees of entries. -/
def toTreeEntries : List (String × Value) → List (String × Tree)
  | [] => []
  | (key, value) :: rest => (key, toTree value) :: toTreeEntries rest

end

/-- The value of an integer that a JSON text may hold. -/
def ofInteger (value : Int) : Value :=
  if Json.FitsSigned value then
    .integer (Int64.ofInt value)
  else
    .float (.ofInt value)

mutual

/-- The value of a JSON tree. -/
def ofTree : Tree → Value
  | .null => .null
  | .bool value => .bool value
  | .integer value => ofInteger value
  | .float value => .float value
  | .text value => .text value
  | .array items => .array (ofTrees items)
  | .object entries => ofTable (.ofList (ofTreeEntries entries))

/-- The values of JSON trees. -/
def ofTrees : List Tree → List Value
  | [] => []
  | item :: rest => ofTree item :: ofTrees rest

/-- The values of JSON entries. -/
def ofTreeEntries : List (String × Tree) → List (String × Value)
  | [] => []
  | (key, value) :: rest => (key, ofTree value) :: ofTreeEntries rest

end

/-- The compact JSON text of a value. -/
def serialize (value : Value) : String :=
  value.toTree.toText

/-- The value of a JSON text. -/
def ofJsonText (text : String) : Except Json.Fault Value :=
  ofTree <$> Tree.ofText text

end FeatureFlags.Value
