import FeatureFlags.Json.Shape
import FeatureFlags.Targeting.Filter

namespace FeatureFlags.Targeting

/-!
# Reading filters

A filter is an object whose field `type` names its kind, wherever it stands among
the other fields, or an array that begins with the kind. All parts are therefore
set aside before any is read. A filter of an unknown kind may hold anything.
-/

open FeatureFlags.Json (Fault FieldReader Node Reader Source Tree)

/-- The field that names the kind of a filter. -/
def kindField : String := "type"

/-- What is wanted where a filter stands. -/
def filterShape : String := "internally tagged enum Filter"

/-- What is wanted where the kind of a filter stands. -/
def kindShape : String := "variant identifier"

/-!
## Filters without children
-/

/-- A comparison that is being read. -/
structure ComparisonDraft where
  field : Option String := none
  operator : Option FieldOperator := none
  values : Option (List String) := none

/-- Read a comparison. -/
def readComparison : Reader Comparison :=
  .record "ContextFilter"
    [.into "field" true (·.field) (fun draft field => { draft with field }) Reader.text,
      .into "operator" true (·.operator) (fun draft operator => { draft with operator })
        (Reader.variant FieldOperator.ofName),
      .into "values" false (·.values) (fun draft values => { draft with values })
        (Reader.list Reader.text)]
    { : ComparisonDraft }
    fun draft => do
      let field ← Reader.present "field" draft.field
      let operator ← Reader.present "operator" draft.operator
      return ⟨field, operator, draft.values.getD []⟩

/-- A rollout share that is being read. -/
structure RolloutDraft where
  key : Option String := none
  field : Option String := none
  threshold : Option Int64 := none

/-- Read a rollout share. -/
def readRollout : Reader RolloutShare :=
  .record "PartialRolloutFilter"
    [.into "key" true (·.key) (fun draft key => { draft with key }) Reader.text,
      .into "partialRolloutAttribute" true (·.field)
        (fun draft field => { draft with field }) Reader.text,
      .into "partialRolloutThreshold" true (·.threshold)
        (fun draft threshold => { draft with threshold }) Reader.signed]
    { : RolloutDraft }
    fun draft => do
      let key ← Reader.present "key" draft.key
      let field ← Reader.present "partialRolloutAttribute" draft.field
      let threshold ← Reader.present "partialRolloutThreshold" draft.threshold
      return ⟨key, field, threshold⟩

/-- Read the value of a constant filter. -/
def readConstant : Reader Bool :=
  .record "ConstantFilter"
    [.into "value" true id (fun _ value => some value) Reader.bool]
    (none : Option Bool)
    (Reader.present "value")

/-- Read a filter without children from parts that were set aside. -/
def readLeaf :
    FilterKind → Node → Except Fault Filter
  | .constant, node => .constant <$> readConstant .buffered node
  | .context, node => .context <$> readComparison .buffered node
  | .rollout, node => .rollout <$> readRollout .buffered node
  | _, _ => .ok .unsupported

/-!
## Filters with children
-/

/-- Read the kind of a filter; inside another filter its position may stand for its name. -/
def readKind
    (nested : Bool) :
    Tree → Except Fault FilterKind
  | .text name => .ok (.ofName name)
  | .integer position =>
      if nested ∧ 0 ≤ position then
        .ok (.ofPosition position.toNat)
      else
        .error (.invalidType (.integer position) kindShape)
  | tree => .error (.invalidType tree.found kindShape)

/-- Find the kind among the entries of a filter. -/
def findKind
    (nested : Bool) :
    Option FilterKind → List (String × Tree) → Except Fault FilterKind
  | some kind, [] => .ok kind
  | none, [] => .error (.missingField kindField)
  | seen, (key, value) :: rest => do
      if key = kindField then
        if seen.isSome then throw (.duplicateField kindField)
        let kind ← readKind nested value
        findKind nested (some kind) rest
      else
        findKind nested seen rest

namespace Filter

mutual

/-- Read a filter from parts that were set aside. -/
def ofTree
    (nested : Bool) :
    Tree → Except Fault Filter
  | .object entries => do
      match ← findKind nested none entries with
      | .group => ofGroupEntries none none entries
      | .negation => ofNegationEntries none entries
      | kind => readLeaf kind (.object (Node.ofEntries entries) .closed)
  | .array [] => .error (.missingField kindField)
  | .array (tag :: rest) => do
      match ← readKind nested tag with
      | .group => ofGroupItems rest
      | .negation => ofNegationItems rest
      | .unsupported =>
          Json.faultIf (Source.buffered.surplus? 0 (Node.ofTrees rest) .closed)
          return .unsupported
      | kind => readLeaf kind (.array (Node.ofTrees rest) .closed)
  | tree => .error (.invalidType tree.found filterShape)

/-- Read the children of a group. -/
def childrenOfTree : Tree → Except Fault (List Filter)
  | .array items => ofTrees items
  | tree => .error (.invalidType tree.found "a sequence")

/-- Read filters one after the other. -/
def ofTrees : List Tree → Except Fault (List Filter)
  | [] => .ok []
  | tree :: rest => do
      let filter ← ofTree true tree
      let filters ← ofTrees rest
      return filter :: filters

/-- Read the entries of a group. -/
def ofGroupEntries
    (operator : Option GroupOperator)
    (filters : Option (List Filter)) :
    List (String × Tree) → Except Fault Filter
  | [] => do
      let operator ← Reader.present "operator" operator
      return .group operator (filters.getD [])
  | (key, value) :: rest => do
      if key = "operator" then
        if operator.isSome then throw (.duplicateField key)
        let operator ← Reader.variant GroupOperator.ofName .buffered (.ofTree value)
        ofGroupEntries (some operator) filters rest
      else if key = "filters" then
        if filters.isSome then throw (.duplicateField key)
        let filters ← childrenOfTree value
        ofGroupEntries operator (some filters) rest
      else
        ofGroupEntries operator filters rest

/-- Read the items of a group: the operator, and the children if there are any. -/
def ofGroupItems : List Tree → Except Fault Filter
  | [] => .error (.invalidLength 0 "struct GroupFilter with 2 elements")
  | [operator] => do
      let operator ← Reader.variant GroupOperator.ofName .buffered (.ofTree operator)
      return .group operator []
  | operator :: filters :: rest => do
      let operator ← Reader.variant GroupOperator.ofName .buffered (.ofTree operator)
      let filters ← childrenOfTree filters
      Json.faultIf (Source.buffered.surplus? 2 (Node.ofTrees rest) .closed)
      return .group operator filters

/-- Read the entries of a negation. -/
def ofNegationEntries
    (filter : Option Filter) :
    List (String × Tree) → Except Fault Filter
  | [] => .negation <$> Reader.present "filter" filter
  | (key, value) :: rest => do
      if key = "filter" then
        if filter.isSome then throw (.duplicateField key)
        let filter ← ofTree true value
        ofNegationEntries (some filter) rest
      else
        ofNegationEntries filter rest

/-- Read the items of a negation: the negated filter. -/
def ofNegationItems : List Tree → Except Fault Filter
  | [] => .error (.invalidLength 0 "struct NegationFilter with 1 element")
  | filter :: rest => do
      let filter ← ofTree true filter
      Json.faultIf (Source.buffered.surplus? 1 (Node.ofTrees rest) .closed)
      return .negation filter

end

end Filter

/-!
## Setting parts aside

The entries of a filter are read in order. A kind that is no text, or a second
kind, is reported as soon as it is reached.
-/

/-- Read the node that names a kind. -/
def readKindNode : Node → Except Fault Tree
  | .text name => name.map .text
  | node => node.mismatch kindShape

/-- Set the entries of a filter aside. -/
def bufferEntries
    (source : Source)
    (seen : Bool) :
    List (Except Fault String × Node) → Except Fault (List (String × Tree))
  | [] => .ok []
  | (key, node) :: rest => do
      let key ← key
      if key = kindField then
        if seen then throw (.duplicateField kindField)
        let kind ← readKindNode node
        let entries ← bufferEntries source true rest
        return (key, kind) :: entries
      else
        let value ← Reader.tree source node
        let entries ← bufferEntries source seen rest
        return (key, value) :: entries

/-- Set the parts of a filter aside. -/
def bufferFilter : Reader Tree
  | source, .object entries ending => do
      let inner ← source.descend
      let entries ← bufferEntries inner false entries
      Json.faultIf ending.onRead?
      return .object entries
  | source, .array [] ending => do
      let _ ← source.descend
      Json.faultIf ending.onRead?
      return .array []
  | source, .array (tag :: rest) ending => do
      let inner ← source.descend
      let tag ← readKindNode tag
      let items ← rest.mapM (Reader.tree inner)
      Json.faultIf ending.onRead?
      return .array (tag :: items)
  | _, node => node.mismatch filterShape

/-- Read a filter. -/
def readFilter : Reader Filter := fun source node => do
  let parts ← bufferFilter source node
  Filter.ofTree false parts

end FeatureFlags.Targeting
