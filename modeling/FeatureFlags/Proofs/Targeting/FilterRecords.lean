import FeatureFlags.Proofs.Json.Records
import FeatureFlags.Targeting.FilterReading

namespace FeatureFlags.Targeting

/-!
# Filters as records

Filters with children are read by functions of their own, which go down into the parts that
were set aside. They read records all the same: each kind of filter is a record
whose fields have readers, and the children are read where their field is.
-/

open FeatureFlags.Json (Fault FieldReader Node Reader Source Tree entriesInto_known
  entriesInto_unknown ok_bind)

/-- Read a filter inside another one. -/
def readNested : Reader Filter := fun _ node =>
  node.read none >>= Filter.ofTree true

/-- A group that is being read. -/
structure GroupDraft where
  operator : Option GroupOperator := none
  filters : Option (List Filter) := none

/-- The operator of a group. -/
def operatorField : FieldReader GroupDraft :=
  .into "operator" true (·.operator) (fun draft operator => { draft with operator })
    (Reader.variant GroupOperator.ofName)

/-- The children of a group. -/
def filtersField : FieldReader GroupDraft :=
  .into "filters" false (·.filters) (fun draft filters => { draft with filters })
    (Reader.list readNested)

/-- The fields of a group. -/
def groupFields : List (FieldReader GroupDraft) :=
  [operatorField, filtersField]

/-- The group of a draft. -/
def GroupDraft.finish (draft : GroupDraft) : Except Fault Filter := do
  let operator ← Reader.present "operator" draft.operator
  return .group operator (draft.filters.getD [])

/-- Read a group. -/
def readGroup : Reader Filter :=
  .record "GroupFilter" groupFields {} GroupDraft.finish

/-- The filter of a negation. -/
def negatedField : FieldReader (Option Filter) :=
  .into "filter" true id (fun _ filter => some filter) readNested

/-- The negation of a draft. -/
def finishNegation (draft : Option Filter) : Except Fault Filter :=
  .negation <$> Reader.present "filter" draft

/-- Read a negation. -/
def readNegation : Reader Filter :=
  .record "NegationFilter" [negatedField] none finishNegation

/-- Read the record of a filter of some kind from parts that were set aside. -/
def readBody
    (kind : FilterKind)
    (node : Node) :
    Except Fault Filter :=
  match kind with
  | .group => readGroup .buffered node
  | .negation => readNegation .buffered node
  | kind => readLeaf kind node

theorem readNested_ofTree
    (source : Source)
    (tree : Tree) :
    readNested source (Node.ofTree tree) = Filter.ofTree true tree := by
  simp [readNested]

namespace Filter

theorem ofTrees_eq_mapM (trees : List Tree) :
    ofTrees trees = (Node.ofTrees trees).mapM (readNested .buffered) := by
  induction trees with
  | nil =>
      rfl
  | cons tree rest inductionHypothesis =>
      rw [ofTrees, Node.ofTrees, List.mapM_cons, readNested_ofTree, inductionHypothesis]

/-- The children of a group are a list of filters. -/
theorem childrenOfTree_eq (tree : Tree) :
    childrenOfTree tree = Reader.list readNested .buffered (Node.ofTree tree) := by
  cases tree with
  | array items =>
      rw [childrenOfTree, ofTrees_eq_mapM]
      exact (bind_pure _).symm
  | null | bool | integer | float | text | object =>
      rfl

/-- A group is a record in any order of its entries. -/
theorem ofGroupEntries_eq
    (entries : List (String × Tree))
    (draft : GroupDraft) :
    ofGroupEntries draft.operator draft.filters entries =
      Reader.entriesInto groupFields .buffered (Node.ofEntries entries) draft >>=
        GroupDraft.finish := by
  induction entries generalizing draft with
  | nil =>
      rfl
  | cons entry rest inductionHypothesis =>
      obtain ⟨key, value⟩ := entry
      rw [ofGroupEntries, Node.ofEntries]
      by_cases isOperator : key = "operator"
      · subst isOperator
        rw [if_pos rfl, entriesInto_known (show groupFields.find? _ = some operatorField from rfl)]
        by_cases isRead : draft.operator.isSome
        · simp only [isRead, ↓reduceIte]
          rfl
        · cases content : Reader.variant GroupOperator.ofName .buffered (Node.ofTree value) with
          | error fault =>
              simp [isRead]
          | ok operator =>
              simpa [isRead] using inductionHypothesis { draft with operator }
      · by_cases isFilters : key = "filters"
        · subst isFilters
          rw [if_neg isOperator, if_pos rfl,
            entriesInto_known (show groupFields.find? _ = some filtersField from rfl),
            childrenOfTree_eq]
          by_cases isRead : draft.filters.isSome
          · simp only [isRead, ↓reduceIte]
            rfl
          · cases content : Reader.list readNested .buffered (Node.ofTree value) with
            | error fault =>
                simp [isRead]
            | ok filters =>
                simpa [isRead] using inductionHypothesis { draft with filters }
        · have unknown : groupFields.find? (fun field => field.name == key) = none := by
            simp [groupFields, operatorField, filtersField, FieldReader.into, Ne.symm isOperator,
              Ne.symm isFilters]
          rw [if_neg isOperator, if_neg isFilters,
            entriesInto_unknown unknown (Node.skip_ofTree value)]
          exact inductionHypothesis draft

/-- The array form of a group is that of a record. -/
theorem ofGroupItems_eq (items : List Tree) :
    ofGroupItems items = readGroup .buffered (.array (Node.ofTrees items) .closed) := by
  match items with
  | [] =>
      rfl
  | [operator] =>
      simp only [ofGroupItems, readGroup, Reader.record, Node.ofTrees, Source.descend, ok_bind,
        Reader.itemsInto, groupFields, operatorField, filtersField, FieldReader.into]
      cases Reader.variant GroupOperator.ofName .buffered (Node.ofTree operator) <;> rfl
  | operator :: filters :: rest =>
      simp only [ofGroupItems, readGroup, Reader.record, Node.ofTrees, Source.descend, ok_bind,
        Reader.itemsInto, groupFields, operatorField, filtersField, FieldReader.into,
        childrenOfTree_eq]
      cases Reader.variant GroupOperator.ofName .buffered (Node.ofTree operator) with
      | error fault =>
          rfl
      | ok operator =>
          cases Reader.list readNested .buffered (Node.ofTree filters) <;> rfl

/-- A negation is a record in any order of its entries. -/
theorem ofNegationEntries_eq
    (entries : List (String × Tree))
    (draft : Option Filter) :
    ofNegationEntries draft entries =
      Reader.entriesInto [negatedField] .buffered (Node.ofEntries entries) draft >>=
        finishNegation := by
  induction entries generalizing draft with
  | nil =>
      rfl
  | cons entry rest inductionHypothesis =>
      obtain ⟨key, value⟩ := entry
      rw [ofNegationEntries, Node.ofEntries]
      by_cases isFilter : key = "filter"
      · subst isFilter
        rw [if_pos rfl,
          entriesInto_known (show [negatedField].find? _ = some negatedField from rfl),
          readNested_ofTree]
        by_cases isRead : draft.isSome
        · simp only [id_eq, isRead, ↓reduceIte]
          rfl
        · cases content : ofTree true value with
          | error fault =>
              simp [isRead]
          | ok filter =>
              simpa [isRead] using inductionHypothesis (some filter)
      · have unknown : [negatedField].find? (fun field => field.name == key) = none := by
          simp [negatedField, FieldReader.into, Ne.symm isFilter]
        rw [if_neg isFilter, entriesInto_unknown unknown (Node.skip_ofTree value)]
        exact inductionHypothesis draft

/-- The array form of a negation is that of a record. -/
theorem ofNegationItems_eq (items : List Tree) :
    ofNegationItems items = readNegation .buffered (.array (Node.ofTrees items) .closed) := by
  cases items with
  | nil =>
      rfl
  | cons filter rest =>
      simp only [ofNegationItems, readNegation, Reader.record, Node.ofTrees, Source.descend,
        ok_bind, Reader.itemsInto, negatedField, FieldReader.into, readNested_ofTree]
      cases ofTree true filter <;> rfl

/-- A filter that is written as an object is the record of its kind. -/
theorem ofTree_object
    (nested : Bool)
    (entries : List (String × Tree)) :
    ofTree nested (.object entries) =
      findKind nested none entries >>= fun kind =>
        readBody kind (Node.ofTree (.object entries)) := by
  rw [ofTree]
  cases findKind nested none entries with
  | error fault =>
      rfl
  | ok kind =>
      cases kind with
      | group =>
          exact ofGroupEntries_eq entries {}
      | negation =>
          exact ofNegationEntries_eq entries none
      | constant | context | rollout | unsupported =>
          rfl

/-- A filter that is written as an array is the record of its kind behind that kind. -/
theorem ofTree_array
    (nested : Bool)
    (tag : Tree)
    (rest : List Tree) :
    ofTree nested (.array (tag :: rest)) =
      readKind nested tag >>= fun kind =>
        if kind = .unsupported then
          Json.faultIf (Source.buffered.surplus? 0 (Node.ofTrees rest) .closed) >>= fun _ =>
            .ok .unsupported
        else
          readBody kind (.array (Node.ofTrees rest) .closed) := by
  rw [ofTree]
  cases readKind nested tag with
  | error fault =>
      rfl
  | ok kind =>
      cases kind with
      | group =>
          exact ofGroupItems_eq rest
      | negation =>
          exact ofNegationItems_eq rest
      | constant | context | rollout | unsupported =>
          rfl

end Filter

end FeatureFlags.Targeting
