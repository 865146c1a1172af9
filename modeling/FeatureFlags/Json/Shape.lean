import FeatureFlags.Json.Reading
import FeatureFlags.Table

namespace FeatureFlags.Json

/-!
# Reading values of a wanted shape

Scalars, lists and records are read from document nodes. The same shape is read
from a text, from a tree that was read before, and from the parts of a tree that
were set aside until their kind was known; the three differ in what they report
about items that nobody wants, and only a text limits the nesting of brackets.
-/

/-- Where the nodes come from. -/
inductive Source where
  /-- A text, in which only so many more brackets may be opened. -/
  | text (budget : Nat)
  /-- A tree that was read before. -/
  | parsed
  /-- Parts of a tree that were set aside. -/
  | buffered

namespace Source

/-- How many more brackets may be opened. -/
def budget : Source → Budget
  | .text budget => some budget
  | .parsed => none
  | .buffered => none

/-- The source inside one more bracket. -/
def descend : Source → Except Fault Source
  | .text 0 => .error .recursionLimit
  | .text (budget + 1) => .ok (.text budget)
  | .parsed => .ok .parsed
  | .buffered => .ok .buffered

/-- A number of things, in words. -/
def counted
    (count : Nat)
    (noun : String) :
    String :=
  count.repr ++ " " ++ noun ++ (if count = 1 then "" else "s")

/-- What is reported about the items left over when `count` were wanted. -/
def surplus?
    (source : Source)
    (count : Nat)
    (left : List Node)
    (ending : ArrayEnd) :
    Option Fault :=
  match source, left with
  | .text _, [] => ending.onClose?
  | .text _, _ :: _ => some .trailingCharacters
  | _, [] => none
  | .parsed, left => some (.invalidLength (count + left.length) "fewer elements in array")
  | .buffered, left =>
      some (.invalidLength (count + left.length) (counted count "element" ++ " in sequence"))

end Source

/-- A way to read nodes. -/
abbrev Reader (α : Type) := Source → Node → Except Fault α

/-- What a whole tree is described as where something else is wanted. -/
def Tree.found : Tree → Unexpected
  | .null => .null
  | .bool value => .bool value
  | .integer value => .integer value
  | .float value => .float value
  | .text value => .text value
  | .array _ => .sequence
  | .object _ => .map

namespace Node

/-- What a node is described as where something else is wanted; scalars are read for it. -/
def found : Node → Except Fault Unexpected
  | .null => .ok .null
  | .bool value => .ok (.bool value)
  | .number value => value.map Tree.found
  | .text value => value.map .text
  | .array _ _ => .ok .sequence
  | .object _ _ => .ok .map
  | .cut reading _ => .error reading

/-- Report that a node has not the wanted type. -/
def mismatch
    (wanted : String)
    (node : Node) :
    Except Fault α := do
  let found ← node.found
  throw (.invalidType found wanted)

end Node

namespace Reader

/-- A boolean. -/
def bool : Reader Bool
  | _, .bool value => .ok value
  | _, node => node.mismatch "a boolean"

/-- A text. -/
def text : Reader String
  | _, .text value => value
  | _, node => node.mismatch "a string"

/-- An integer of a given range. -/
def integer
    (lowest highest : Int)
    (wanted : String) :
    Reader Int
  | _, .number value => do
      match ← value with
      | .integer n =>
          if lowest ≤ n ∧ n ≤ highest then
            return n
          else
            throw (.invalidValue (.integer n) wanted)
      | other => throw (.invalidType other.found wanted)
  | _, node => node.mismatch wanted

/-- A signed word. -/
def signed : Reader Int64 := fun source node =>
  Int64.ofInt <$> integer lowestSigned highestSigned "i64" source node

/-- A double-precision number; integers are taken too. -/
def float : Reader Number.Binary64
  | _, .number value => do
      match ← value with
      | .integer n => return .ofInt n
      | .float number => return number
      | other => throw (.invalidType other.found "f64")
  | _, node => node.mismatch "f64"

/-- A whole tree. -/
def tree : Reader Tree := fun source node => node.read source.budget

/-- Nothing for null, and otherwise what `reader` reads. -/
def optional (reader : Reader α) : Reader (Option α)
  | _, .null => .ok none
  | source, node => some <$> reader source node

/-- A list of what `reader` reads. -/
def list (reader : Reader α) : Reader (List α)
  | source, .array items ending => do
      let inner ← source.descend
      let values ← items.mapM (reader inner)
      faultIf ending.onRead?
      return values
  | _, node => node.mismatch "a sequence"

/-- Entries with free keys; the last entry of a key counts. -/
def table (reader : Reader α) : Reader (Table α)
  | source, .object entries ending => do
      let inner ← source.descend
      let entries ← entries.mapM fun entry => do
        let key ← entry.1
        return (key, ← reader inner entry.2)
      faultIf ending.onRead?
      return .ofList entries
  | _, node => node.mismatch "a map"

/-- The unit value of a variant that is written with one. -/
def unit : Reader Unit
  | _, .null => .ok ()
  | .buffered, .object [] _ => .ok ()
  | _, node => node.mismatch "unit"

/-- A variant without content: its name, or an object that maps its name to nothing. -/
def variant (ofName : String → α) : Reader α
  | _, .text name => ofName <$> name
  | source, .object [(key, content)] _ => do
      let name ← key
      unit source content
      return ofName name
  | _, .object _ _ => .error (.invalidValue .map "map with a single key")
  | _, node => node.mismatch "string or map"

end Reader

/-!
## Records

A record is written as an object, in which unknown fields are skipped, or as an
array of its fields in order. Fields are read as they come; the record is put
together when its end is reached.
-/

/-- How one field of a record is read into a draft of the record. -/
structure FieldReader (σ : Type) where
  name : String
  /-- Whether the array form has to reach this field. -/
  required : Bool
  isRead : σ → Bool
  read : Source → Node → σ → Except Fault σ

namespace FieldReader

/-- Read a field into its place in the draft. -/
def into
    (name : String)
    (required : Bool)
    (get : σ → Option α)
    (put : σ → α → σ)
    (reader : Reader α) :
    FieldReader σ where
  name := name
  required := required
  isRead := fun draft => (get draft).isSome
  read := fun source node draft => put draft <$> reader source node

end FieldReader

namespace Reader

/-- Read the entries of a record in the order in which they come. -/
def entriesInto
    (fields : List (FieldReader σ))
    (source : Source) :
    List (Except Fault String × Node) → σ → Except Fault σ
  | [], draft => .ok draft
  | (key, node) :: rest, draft => do
      let key ← key
      match fields.find? fun field => field.name == key with
      | some field =>
          if field.isRead draft then
            throw (.duplicateField key)
          else
            entriesInto fields source rest (← field.read source node draft)
      | none =>
          node.skip
          entriesInto fields source rest draft

/-- Read the items of a record's array form; the rest of the items is given back. -/
def itemsInto
    (label : String)
    (source : Source)
    (ending : ArrayEnd) :
    Nat → List (FieldReader σ) → List Node → σ → Except Fault (σ × List Node)
  | _, [], items, draft => .ok (draft, items)
  | index, field :: fields, node :: items, draft => do
      let draft ← field.read source node draft
      itemsInto label source ending (index + 1) fields items draft
  | index, field :: fields, [], draft => do
      faultIf ending.onRead?
      if field.required then
        throw (.invalidLength index label)
      else
        itemsInto label source ending (index + 1) fields [] draft

/-- Read a record through a draft. -/
def record
    (name : String)
    (fields : List (FieldReader σ))
    (start : σ)
    (finish : σ → Except Fault α) :
    Reader α
  | source, .object entries ending => do
      let inner ← source.descend
      let draft ← entriesInto fields inner entries start
      faultIf ending.onRead?
      finish draft
  | source, .array items ending => do
      let inner ← source.descend
      let label := "struct " ++ name ++ " with " ++ Source.counted fields.length "element"
      let (draft, left) ← itemsInto label inner ending 0 fields items start
      let value ← finish draft
      faultIf (source.surplus? fields.length left ending)
      return value
  | _, node => node.mismatch ("struct " ++ name)

/-- The content of a field that has to be there. -/
def present
    (name : String) :
    Option α → Except Fault α
  | some value => .ok value
  | none => .error (.missingField name)

end Reader

end FeatureFlags.Json
