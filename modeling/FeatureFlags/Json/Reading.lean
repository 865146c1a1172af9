import FeatureFlags.Json.Document

namespace FeatureFlags.Json

/-!
# Reading and skipping

A value is read with all its parts, from front to back, or it is skipped. Skipping
checks the spelling alone; reading also needs every number and text to have a
value and limits how deep brackets are nested.
-/

/-- How many brackets may be open at once. -/
def nestingLimit : Nat := 127

/-- Fault if there is a cause for it. -/
def faultIf : Option Fault → Except Fault Unit
  | none => .ok ()
  | some fault => .error fault

/-- How many more brackets may be opened; nothing stands for any number. -/
abbrev Budget := Option Nat

/-- The budget inside one more bracket. -/
def Budget.descend : Budget → Except Fault Budget
  | none => .ok none
  | some 0 => .error .recursionLimit
  | some (budget + 1) => .ok (some budget)

namespace Node

mutual

/-- Read a value while the budget lasts. -/
def read
    (budget : Budget) :
    Node → Except Fault Tree
  | .null => .ok .null
  | .bool value => .ok (.bool value)
  | .number value => value
  | .text value => value.map .text
  | .array items ending => do
      let inner ← budget.descend
      let items ← readItems inner items
      faultIf ending.onRead?
      return .array items
  | .object entries ending => do
      let inner ← budget.descend
      let entries ← readEntries inner entries
      faultIf ending.onRead?
      return .object entries
  | .cut reading _ => .error reading

/-- Read the items of an array. -/
def readItems
    (budget : Budget) :
    List Node → Except Fault (List Tree)
  | [] => .ok []
  | node :: rest => do
      let item ← read budget node
      let items ← readItems budget rest
      return item :: items

/-- Read the entries of an object, each key before its value. -/
def readEntries
    (budget : Budget) :
    List (Except Fault String × Node) → Except Fault (List (String × Tree))
  | [] => .ok []
  | (key, node) :: rest => do
      let key ← key
      let value ← read budget node
      let entries ← readEntries budget rest
      return (key, value) :: entries

end

mutual

/-- Check the spelling of a value. -/
def skip : Node → Except Fault Unit
  | .array items ending => do
      skipItems items
      faultIf ending.onSkip?
  | .object entries ending => do
      skipEntries entries
      faultIf ending.onSkip?
  | .cut _ skipping => .error skipping
  | _ => .ok ()

/-- Check the spelling of the items of an array. -/
def skipItems : List Node → Except Fault Unit
  | [] => .ok ()
  | node :: rest => do
      skip node
      skipItems rest

/-- Check the spelling of the entries of an object. -/
def skipEntries : List (Except Fault String × Node) → Except Fault Unit
  | [] => .ok ()
  | (_, node) :: rest => do
      skip node
      skipEntries rest

end

mutual

/-- A whole tree as a document node without faults. -/
def ofTree : Tree → Node
  | .null => .null
  | .bool value => .bool value
  | .integer value => .number (.ok (.integer value))
  | .float value => .number (.ok (.float value))
  | .text value => .text (.ok value)
  | .array items => .array (ofTrees items) .closed
  | .object entries => .object (ofEntries entries) .closed

/-- Whole trees as document nodes. -/
def ofTrees : List Tree → List Node
  | [] => []
  | item :: rest => ofTree item :: ofTrees rest

/-- Entries with whole trees as entries with document nodes. -/
def ofEntries : List (String × Tree) → List (Except Fault String × Node)
  | [] => []
  | (key, value) :: rest => (.ok key, ofTree value) :: ofEntries rest

end

end Node

namespace Document

/-- Read a document with a given reader of its root; nothing may follow the value. -/
def readWith
    (read : Node → Except Fault α)
    (document : Document) :
    Except Fault α := do
  let value ← read document.root
  if document.surplus then throw .trailingCharacters
  return value

end Document

namespace Tree

/-- The tree of a JSON text. -/
def ofText (text : String) : Except Fault Tree :=
  (Document.ofText text).readWith (Node.read (some nestingLimit))

end Tree

end FeatureFlags.Json
