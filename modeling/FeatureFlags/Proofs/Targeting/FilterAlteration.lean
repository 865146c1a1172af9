import FeatureFlags.Proofs.Json.RecordAlteration
import FeatureFlags.Proofs.Targeting.FilterWriting

namespace FeatureFlags.Targeting

/-!
# Altered filters

What is made of a filter of which a part has been altered, however deep inside it. Filters
are read from trees that were set aside from nodes, so an alteration is one of nodes and
one of trees at once, and both have to lead to the same change of the filter.
-/

open FeatureFlags.Json (AlwaysFollows Fault Follows IsRecord Node Reader Source Tree alterAt?
  alterContent? alterFirst? alterSlot?_eq bind_eq_ok exists_of_alterAt?_getD
  exists_of_mem_right map_eq_ok ok_bind present_eq_ok)

/-! ## Places inside a filter -/

/-- The way from a filter to one right inside it. -/
inductive Hop where
  | child (index : Nat)
  | negated

namespace Filter

/-- Change a child of a group. -/
def changeChild?
    (index : Nat)
    (change : Filter → Option Filter) :
    Filter → Option Filter
  | .group operator filters => (alterAt? change index filters).map (.group operator)
  | _ => none

/-- Change the filter of a negation. -/
def changeNegated? (change : Filter → Option Filter) : Filter → Option Filter
  | .negation filter => (change filter).map .negation
  | _ => none

/-- Change the filter to which a path leads. -/
def changeInside? (change : Filter → Option Filter) : List Hop → Filter → Option Filter
  | [] => change
  | .child index :: path => changeChild? index (changeInside? change path)
  | .negated :: path => changeNegated? (changeInside? change path)

end Filter

/-- Alter the node of the filter to which a path leads; in arrays, the kind stands first. -/
def alterNodeInside? (edit : Node → Option Node) : List Hop → Node → Option Node
  | [] => edit
  | .child index :: path =>
      Node.alterField? "filters" 2 (Node.alterItem? index (alterNodeInside? edit path))
  | .negated :: path => Node.alterField? "filter" 1 (alterNodeInside? edit path)

/-- Alter the tree of the filter to which a path leads. -/
def alterTreeInside? (edit : Tree → Option Tree) : List Hop → Tree → Option Tree
  | [] => edit
  | .child index :: path =>
      Tree.alterField? "filters" 2 (Tree.alterItem? index (alterTreeInside? edit path))
  | .negated :: path => Tree.alterField? "filter" 1 (alterTreeInside? edit path)

/-! ## Setting aside -/

/-- Set the content of an entry aside. -/
def bufferContent
    (source : Source)
    (seen : Bool)
    (key : String)
    (node : Node) :
    Except Fault Tree :=
  if key = kindField then
    if seen then
      .error (.duplicateField kindField)
    else
      readKindNode node
  else
    Reader.tree source node

/-- Entries are set aside one after the other. -/
theorem bufferEntries_cons
    (source : Source)
    (seen : Bool)
    (key : String)
    (node : Node)
    (rest : List (Except Fault String × Node)) :
    bufferEntries source seen ((.ok key, node) :: rest) =
      bufferContent source seen key node >>= fun value =>
        bufferEntries source (seen || key == kindField) rest >>= fun entries =>
          .ok ((key, value) :: entries) := by
  rw [bufferEntries, ok_bind, bufferContent]
  by_cases isKind : key = kindField
  · cases seen with
    | true =>
        simp [isKind]
    | false =>
        simp only [isKind, ↓reduceIte, Bool.false_eq_true, BEq.rfl, Bool.or_true]
        rfl
  · have isOther : (key == kindField) = false := beq_false_of_ne isKind
    rw [if_neg isKind, if_neg isKind, isOther, Bool.or_false]
    rfl

section Buffer

variable
  {name : String}
  {edit : Node → Option Node}
  {change : Tree → Option Tree}
  (isField : name ≠ kindField)
  (follows : Reader.tree.Follows edit change)

include isField follows

/-- The entries of a filter are set aside with one field altered. -/
private theorem follows_bufferEntries
    (source : Source)
    (seen : Bool) :
    Follows (fun entries => ∀ entry ∈ entries, entry.2.IsProper)
      (fun entries => ∀ entry ∈ entries, source.Fits entry.2)
      (bufferEntries source seen)
      (alterFirst? (alterContent? edit) (Node.hasKey name))
      (alterFirst? (alterContent? change) (·.1 == name)) := by
  intro entries
  induction entries generalizing seen with
  | nil =>
      rintro _ changed - ⟨⟩ isChanged
      cases isChanged
  | cons entry rest inductionHypothesis =>
      intro result changed proper read isChanged
      obtain ⟨nodeProper, restProper⟩ := List.forall_mem_cons.mp proper
      obtain ⟨key, node⟩ := entry
      obtain ⟨key, rfl, -⟩ := bind_eq_ok.mp read
      rw [bufferEntries_cons] at read
      obtain ⟨value, valueRead, read⟩ := bind_eq_ok.mp read
      obtain ⟨values, restRead, ⟨⟩⟩ := bind_eq_ok.mp read
      by_cases same : key = name
      · subst same
        rw [bufferContent, if_neg isField] at valueRead
        simp only [alterFirst?, BEq.rfl, ↓reduceIte, alterContent?, Option.map_map] at isChanged
        obtain ⟨changedValue, valueChanged, rfl⟩ := Option.map_eq_some_iff.mp isChanged
        obtain ⟨altered, edited, reads⟩ := follows source nodeProper valueRead valueChanged
        refine ⟨(.ok key, altered) :: rest, ?_, fun fits => ?_⟩
        · simp [alterFirst?, Node.hasKey, alterContent?, edited]
        · rw [bufferEntries_cons, bufferContent, if_neg isField, reads (fits _ List.mem_cons_self),
            ok_bind, restRead]
          rfl
      · simp only [alterFirst?, beq_iff_eq, same, ↓reduceIte] at isChanged
        obtain ⟨changedValues, valuesChanged, rfl⟩ := Option.map_eq_some_iff.mp isChanged
        obtain ⟨altered, edited, reads⟩ :=
          inductionHypothesis _ restProper restRead valuesChanged
        refine ⟨(.ok key, node) :: altered, ?_, fun fits => ?_⟩
        · simp [alterFirst?, Node.hasKey, same, edited]
        · rw [bufferEntries_cons, valueRead, ok_bind,
            reads fun other member => fits other (List.mem_cons_of_mem _ member)]
          rfl

/-- A filter is set aside with one field altered, behind its kind if it is an array. -/
theorem follows_bufferFilter (index : Nat) :
    bufferFilter.Follows (Node.alterField? name (index + 1) edit)
      (Tree.alterField? name (index + 1) change) := by
  intro source node tree changed proper read isChanged
  cases node with
  | object entries ending =>
      obtain ⟨inner, descends, read⟩ := bind_eq_ok.mp read
      obtain ⟨values, entriesRead, read⟩ := bind_eq_ok.mp read
      obtain ⟨⟨⟩, closes, ⟨⟩⟩ := bind_eq_ok.mp read
      obtain ⟨changedValues, valuesChanged, rfl⟩ := Option.map_eq_some_iff.mp isChanged
      obtain ⟨altered, edited, reads⟩ :=
        follows_bufferEntries isField follows inner false (Node.isProper_object.mp proper)
          entriesRead valuesChanged
      refine ⟨.object altered ending, by rw [Node.alterField?, edited, Option.map_some], ?_⟩
      intro fits
      obtain ⟨_, descends', inside⟩ := fits.descend_object
      obtain rfl := Except.ok.inj (descends.symm.trans descends')
      rw [bufferFilter, descends, ok_bind, reads inside, ok_bind, closes]
      rfl
  | array items ending =>
      cases items with
      | nil =>
          obtain ⟨_, -, read⟩ := bind_eq_ok.mp read
          obtain ⟨_, -, ⟨⟩⟩ := bind_eq_ok.mp read
          cases isChanged
      | cons tag rest =>
          obtain ⟨inner, descends, read⟩ := bind_eq_ok.mp read
          obtain ⟨kind, tagRead, read⟩ := bind_eq_ok.mp read
          obtain ⟨values, restRead, read⟩ := bind_eq_ok.mp read
          obtain ⟨⟨⟩, closes, ⟨⟩⟩ := bind_eq_ok.mp read
          obtain ⟨_, itemsChanged, rfl⟩ := Option.map_eq_some_iff.mp isChanged
          obtain ⟨changedValues, valuesChanged, rfl⟩ := Option.map_eq_some_iff.mp itemsChanged
          obtain ⟨_, restProper⟩ := List.forall_mem_cons.mp (Node.isProper_array.mp proper)
          obtain ⟨altered, edited, reads⟩ :=
            (follows inner).mapM_alterAt? index restProper restRead valuesChanged
          refine
            ⟨.array (tag :: altered) ending, by simp [Node.alterField?, alterAt?, edited],
              fun fits => ?_⟩
          obtain ⟨_, descends', inside⟩ := fits.descend_array
          obtain rfl := Except.ok.inj (descends.symm.trans descends')
          rw [bufferFilter, descends, ok_bind, tagRead, ok_bind,
            reads fun item member => inside item (List.mem_cons_of_mem _ member), ok_bind, closes]
          rfl
  | null | bool | number | text | cut =>
      exact absurd read (Node.mismatch_ne_ok _ _ _)

end Buffer

/-! ## Trees -/

/-- The kind of a filter is still found if another field has been altered. -/
theorem findKind_altered
    {nested : Bool}
    {seen : Option FilterKind}
    {name : String}
    (isField : name ≠ kindField)
    {edit : Tree → Option Tree}
    {entries altered : List (String × Tree)}
    (edited : alterFirst? (alterContent? edit) (·.1 == name) entries = some altered) :
    findKind nested seen altered = findKind nested seen entries := by
  induction entries generalizing seen altered with
  | nil =>
      cases edited
  | cons entry rest inductionHypothesis =>
      obtain ⟨key, value⟩ := entry
      by_cases same : key = name
      · subst same
        simp only [alterFirst?, BEq.rfl, ↓reduceIte, alterContent?, Option.map_map] at edited
        obtain ⟨changedValue, -, rfl⟩ := Option.map_eq_some_iff.mp edited
        simp only [Function.comp_apply]
        cases seen <;> rw [findKind, findKind, if_neg isField, if_neg isField]
      · simp only [alterFirst?, beq_iff_eq, same, ↓reduceIte] at edited
        obtain ⟨changedRest, restEdited, rfl⟩ := Option.map_eq_some_iff.mp edited
        have restFound {seen} := @inductionHypothesis seen changedRest restEdited
        cases seen <;> simp only [findKind, restFound]

/-- A filter is of the kind as whose record it is read. -/
theorem kind_of_readBody
    {kind : FilterKind}
    {node : Node}
    {filter : Filter}
    (read : readBody kind node = .ok filter) :
    filter.kind = kind := by
  cases kind with
  | group =>
      obtain ⟨draft, finished⟩ := Reader.exists_finish_of_record read
      obtain ⟨_, -, ⟨⟩⟩ := bind_eq_ok.mp finished
      rfl
  | negation =>
      obtain ⟨draft, finished⟩ := Reader.exists_finish_of_record read
      obtain ⟨_, -, rfl⟩ := map_eq_ok.mp finished
      rfl
  | constant | context | rollout =>
      obtain ⟨_, -, rfl⟩ := map_eq_ok.mp read
      rfl
  | unsupported =>
      cases read
      rfl

/-- A filter is read with a field altered as its record is, behind its kind if it is an array. -/
theorem follows_ofTree
    (kind : FilterKind)
    (isKnown : kind ≠ .unsupported)
    {name : String}
    (isField : name ≠ kindField)
    {index : Nat}
    {edit : Node → Option Node}
    {treeEdit : Tree → Option Tree}
    (agrees : ∀ tree, edit (.ofTree tree) = (treeEdit tree).map .ofTree)
    {change : Filter → Option Filter}
    (ofKind : ∀ {filter changed}, change filter = some changed → filter.kind = kind)
    (follows :
      Follows Node.IsProper Source.buffered.Fits (readBody kind) (Node.alterField? name index edit)
        change)
    (nested : Bool) :
    AlwaysFollows (Filter.ofTree nested) (Tree.alterField? name (index + 1) treeEdit) change := by
  intro tree filter changed _ read isChanged
  have isKind := ofKind isChanged
  have fits (node : Node) : Source.buffered.Fits node := Json.Source.fits_of_budget_eq_none rfl node
  have bodyFollows {tree : Tree} (bodyRead : readBody kind (.ofTree tree) = .ok filter) :
      ∃ altered,
        tree.alterField? name index treeEdit = some altered ∧
          readBody kind (.ofTree altered) = .ok changed := by
    obtain ⟨node, edited, reads⟩ := follows (Node.isProper_ofTree tree) bodyRead isChanged
    rw [Node.alterField?_ofTree agrees] at edited
    obtain ⟨altered, treeEdited, rfl⟩ := Option.map_eq_some_iff.mp edited
    exact ⟨altered, treeEdited, reads (fits _)⟩
  cases tree with
  | object entries =>
      rw [Filter.ofTree_object] at read
      obtain ⟨found, kindFound, bodyRead⟩ := bind_eq_ok.mp read
      obtain rfl : kind = found := isKind.symm.trans (kind_of_readBody bodyRead)
      obtain ⟨altered, edited, alteredRead⟩ := bodyFollows bodyRead
      obtain ⟨entries', entriesEdited, rfl⟩ := Option.map_eq_some_iff.mp edited
      refine ⟨_, edited, fun _ => ?_⟩
      rw [Filter.ofTree_object, findKind_altered isField entriesEdited, kindFound, ok_bind,
        alteredRead]
  | array items =>
      cases items with
      | nil =>
          cases read
      | cons tag rest =>
          rw [Filter.ofTree_array] at read
          obtain ⟨found, tagRead, read⟩ := bind_eq_ok.mp read
          have isKnown' : found ≠ .unsupported := by
            rintro rfl
            rw [if_pos rfl] at read
            obtain ⟨_, -, ⟨⟩⟩ := bind_eq_ok.mp read
            exact isKnown isKind.symm
          rw [if_neg isKnown'] at read
          obtain rfl : kind = found := isKind.symm.trans (kind_of_readBody read)
          obtain ⟨altered, edited, alteredRead⟩ := @bodyFollows (.array rest) read
          obtain ⟨rest', restEdited, rfl⟩ := Option.map_eq_some_iff.mp edited
          refine ⟨.array (tag :: rest'), ?_, fun _ => ?_⟩
          · simp [Tree.alterField?, alterAt?, restEdited]
          · rw [Filter.ofTree_array, tagRead, ok_bind, if_neg isKnown]
            exact alteredRead
  | null | bool | integer | float | text =>
      cases read

/-! ## Filters inside filters -/

/-- An alteration that leads to the same change of a filter wherever the filter stands. -/
structure Alters
    (edit : Node → Option Node)
    (treeEdit : Tree → Option Tree)
    (change : Filter → Option Filter) :
    Prop where
  buffers : bufferFilter.Follows edit treeEdit
  reads : Reader.tree.Follows edit treeEdit
  ofTree : ∀ nested, AlwaysFollows (Filter.ofTree nested) treeEdit change

/-- Alter the tree of a node. -/
def alterTreeOf?
    (treeEdit : Tree → Option Tree)
    (node : Node) :
    Option Node :=
  ((node.read none).toOption.bind treeEdit).map .ofTree

@[simp] theorem alterTreeOf?_ofTree
    (treeEdit : Tree → Option Tree)
    (tree : Tree) :
    alterTreeOf? treeEdit (.ofTree tree) = (treeEdit tree).map .ofTree := by
  simp [alterTreeOf?, Except.toOption]

namespace Alters

variable
  {edit : Node → Option Node}
  {treeEdit : Tree → Option Tree}
  {change : Filter → Option Filter}
  (alters : Alters edit treeEdit change)

include alters

/-- A filter is read with the alteration. -/
theorem readFilter : readFilter.Follows edit change :=
  fun source => (alters.buffers source).bind (alters.ofTree false)

/-- A filter inside another one is read with the alteration. -/
theorem readNested : readNested.Follows (alterTreeOf? treeEdit) change := by
  intro source node filter changed proper read isChanged
  obtain ⟨tree, treeRead, filterRead⟩ := bind_eq_ok.mp read
  obtain ⟨altered, edited, reads⟩ := alters.ofTree true trivial filterRead isChanged
  refine ⟨.ofTree altered, ?_, fun _ => ?_⟩
  · simp [alterTreeOf?, treeRead, edited, Except.toOption]
  · rw [readNested_ofTree, reads trivial]

/-- A group is read with one of its children altered. -/
theorem readGroup (index : Nat) :
    readGroup.Follows (Node.alterField? "filters" 1 (Node.alterItem? index (alterTreeOf? treeEdit)))
      (Filter.changeChild? index change) := by
  refine
    Reader.follows_record [operatorField] [] ?slot rfl ?finish
      (Reader.follows_list alters.readNested index)
  case slot =>
    refine .beside (.alone ?_ ?_) (by decide) ?_ ?_ ?_
    all_goals intros; rfl
  case finish =>
    intro draft filter changed _ finished isChanged
    obtain ⟨operator, operatorRead, ⟨⟩⟩ := bind_eq_ok.mp finished
    obtain ⟨changedFilters, filtersChanged, rfl⟩ := Option.map_eq_some_iff.mp isChanged
    obtain ⟨filters, filtersRead, filtersChanged⟩ := exists_of_alterAt?_getD filtersChanged
    refine ⟨_, alterSlot?_eq filtersRead filtersChanged, fun _ => ?_⟩
    exact bind_eq_ok.mpr ⟨operator, operatorRead, rfl⟩

/-- A negation is read with its filter altered. -/
theorem readNegation :
    readNegation.Follows (Node.alterField? "filter" 0 (alterTreeOf? treeEdit))
      (Filter.changeNegated? change) := by
  refine Reader.follows_record [] [] ?slot rfl ?finish alters.readNested
  case slot =>
    exact .alone (fun _ _ => rfl) fun _ _ _ => rfl
  case finish =>
    intro draft filter changed _ finished isChanged
    obtain ⟨negated, negatedRead, rfl⟩ := map_eq_ok.mp finished
    obtain ⟨changedNegated, negatedChanged, rfl⟩ := Option.map_eq_some_iff.mp isChanged
    exact ⟨_, alterSlot?_eq (present_eq_ok.mp negatedRead) negatedChanged, fun _ => rfl⟩

/-- The alteration of a child is one of its group. -/
theorem child (index : Nat) :
    Alters (Node.alterField? "filters" 2 (Node.alterItem? index edit))
      (Tree.alterField? "filters" 2 (Tree.alterItem? index treeEdit))
      (Filter.changeChild? index change) where
  buffers := follows_bufferFilter (by decide) (Reader.follows_tree_item alters.reads index) 1
  reads := Reader.follows_tree_field (Reader.follows_tree_item alters.reads index) "filters" 2
  ofTree := by
    have ofKind {filter changed : Filter} :
        filter.changeChild? index change = some changed → filter.kind = .group := by
      cases filter <;> simp [Filter.changeChild?, Filter.kind]
    exact
      follows_ofTree .group (by decide) (by decide)
        (Node.alterItem?_ofTree (alterTreeOf?_ofTree treeEdit) index) ofKind
        (alters.readGroup index .buffered)

/-- The alteration of a filter is one of its negation. -/
theorem negated :
    Alters (Node.alterField? "filter" 1 edit) (Tree.alterField? "filter" 1 treeEdit)
      (Filter.changeNegated? change) where
  buffers := follows_bufferFilter (by decide) alters.reads 0
  reads := Reader.follows_tree_field alters.reads "filter" 1
  ofTree := by
    have ofKind {filter changed : Filter} :
        filter.changeNegated? change = some changed → filter.kind = .negation := by
      cases filter <;> simp [Filter.changeNegated?, Filter.kind]
    exact
      follows_ofTree .negation (by decide) (by decide) (alterTreeOf?_ofTree treeEdit) ofKind
        (alters.readNegation .buffered)

/-- The alteration of a filter is one of every filter around it. -/
theorem inside (path : List Hop) :
    Alters (alterNodeInside? edit path) (alterTreeInside? treeEdit path)
      (Filter.changeInside? change path) := by
  induction path with
  | nil =>
      exact alters
  | cons hop path inductionHypothesis =>
      cases hop with
      | child index =>
          exact inductionHypothesis.child index
      | negated =>
          exact inductionHypothesis.negated

end Alters

/-! ## What is not known -/

/-- What may stand for a filter, or for its operator, without being known. -/
inductive Novelty where
  | filter (node : Node)
  | groupOperator (name : String)
  | fieldOperator (name : String)

namespace Novelty

/-- Whether nothing of it is known: the only kind of a filter, or the name of an operator. -/
def IsUnknown : Novelty → Prop
  | .filter node =>
      ∃ name,
        NamesKind node name ∧
          (∀ kind ≠ FilterKind.unsupported, name ≠ kind.name) ∧
          ∃ tree, node.read none = .ok tree
  | .groupOperator name => ∀ operator : GroupOperator, operator.name? ≠ some name
  | .fieldOperator name => ∀ operator ≠ FieldOperator.unknown, name ≠ operator.name

/-- Put it into a node in which a filter is written. -/
def alter? : Novelty → Node → Option Node
  | .filter node, _ => some node
  | .groupOperator name, node =>
      node.alterField? "operator" 1 fun _ => some (.text (.ok name))
  | .fieldOperator name, node =>
      node.alterField? "operator" 2 fun _ => some (.text (.ok name))

/-- What becomes of the filter. -/
def change? : Novelty → Filter → Option Filter
  | .filter _, _ => some .unsupported
  | .groupOperator _, .group _ filters => some (.group .unknown filters)
  | .fieldOperator _, .context comparison =>
      some (.context { comparison with operator := .unknown })
  | _, _ => none

end Novelty

theorem FilterKind.name_ofName
    {text : String}
    (known : ofName text ≠ .unsupported) :
    (ofName text).name = text := by
  revert known
  unfold ofName
  split <;> simp [name]

theorem GroupOperator.name?_ofName
    {text : String}
    (known : ofName text ≠ .unknown) :
    (ofName text).name? = some text := by
  revert known
  unfold ofName
  split <;> simp [name?]

theorem FieldOperator.name_ofName
    {text : String}
    (known : ofName text ≠ .unknown) :
    (ofName text).name = text := by
  revert known
  unfold ofName
  split <;> simp [name]

/-- Only a text is put in the place of an operator, which is read as not known. -/
private theorem alters_operator
    (kind : FilterKind)
    (isKnown : kind ≠ .unsupported)
    {name : String}
    {index : Nat}
    {change : Filter → Option Filter}
    (ofKind : ∀ {filter changed}, change filter = some changed → filter.kind = kind)
    (follows :
      Follows Node.IsProper Source.buffered.Fits (readBody kind)
        (Node.alterField? "operator" index fun _ => some (.text (.ok name))) change) :
    Alters (Node.alterField? "operator" (index + 1) fun _ => some (.text (.ok name)))
      (Tree.alterField? "operator" (index + 1) fun _ => some (.text name)) change where
  buffers := follows_bufferFilter (by decide) (Reader.follows_replacement fun _ _ => rfl) index
  reads := Reader.follows_tree_field (Reader.follows_replacement fun _ _ => rfl) "operator" _
  ofTree := follows_ofTree kind isKnown (by decide) (fun _ => rfl) ofKind follows

/-- A group is read with an unknown operator. -/
private theorem readGroup_operator
    {name : String}
    (isUnknown : GroupOperator.ofName name = .unknown) :
    readGroup.Follows (Node.alterField? "operator" 0 fun _ => some (.text (.ok name)))
      (Novelty.change? (.groupOperator name)) := by
  refine
    Reader.follows_record [] [filtersField] ?slot rfl ?finish
      (Reader.follows_replacement fun _ _ => rfl)
  case slot =>
    refine .beside (.alone ?_ ?_) (by decide) ?_ ?_ ?_
    all_goals intros; rfl
  case finish =>
    intro draft filter changed _ finished isChanged
    obtain ⟨operator, operatorRead, ⟨⟩⟩ := bind_eq_ok.mp finished
    obtain rfl := Option.some.inj isChanged
    exact
      ⟨_, alterSlot?_eq (present_eq_ok.mp operatorRead) (congrArg some isUnknown), fun _ => rfl⟩

/-- A comparison is read with an unknown operator. -/
private theorem readComparison_operator
    {name : String}
    (isUnknown : FieldOperator.ofName name = .unknown) :
    readComparison.Follows (Node.alterField? "operator" 1 fun _ => some (.text (.ok name)))
      fun comparison => some { comparison with operator := .unknown } := by
  refine
    Reader.follows_record [_] [_] ?slot rfl ?finish (Reader.follows_replacement fun _ _ => rfl)
  case slot =>
    refine .beside (.beside (.alone ?_ ?_) (by decide) ?_ ?_ ?_) (by decide) ?_ ?_ ?_
    all_goals intros; rfl
  case finish =>
    intro draft comparison changed _ finished isChanged
    obtain ⟨field, fieldRead, finished⟩ := bind_eq_ok.mp finished
    obtain ⟨operator, operatorRead, ⟨⟩⟩ := bind_eq_ok.mp finished
    obtain rfl := Option.some.inj isChanged
    refine
      ⟨_, alterSlot?_eq (present_eq_ok.mp operatorRead) (congrArg some isUnknown), fun _ => ?_⟩
    exact bind_eq_ok.mpr ⟨field, fieldRead, rfl⟩

/-- What is read of an object that names a kind names the same kind. -/
private theorem exists_isRecord_of_namesKind
    {node : Node}
    {name : String}
    (names : NamesKind node name)
    {tree : Tree}
    (read : node.read none = .ok tree) :
    ∃ entries,
      tree = .object entries ∧ IsRecord [⟨kindField, False, (· = .text name)⟩] entries := by
  obtain ⟨entries, rfl, isRecord⟩ := names
  obtain ⟨trees, rfl, related⟩ := Node.exists_of_read_ofRecord read
  have keys : trees.map (·.1) = entries.map (·.1) := by
    clear read isRecord
    induction related with
    | nil =>
        rfl
    | cons same _ inductionHypothesis =>
        rw [List.map_cons, List.map_cons, same.1, inductionHypothesis]
  refine ⟨trees, rfl, ?_, ?_, ?_⟩
  · simpa [keys] using isRecord.once
  · simpa [keys] using isRecord.complete
  · refine List.forall_mem_singleton.mpr fun member => ?_
    obtain ⟨entry, entryMember, sameKey, contentRead⟩ := exists_of_mem_right related member
    obtain ⟨key, node⟩ := entry
    obtain rfl : kindField = key := sameKey
    obtain rfl := isRecord.holds _ List.mem_cons_self entryMember
    obtain rfl := Except.ok.inj contentRead
    rfl

namespace Novelty

/-- Whatever is not known is read as such. -/
theorem exists_alters
    {novelty : Novelty}
    (isUnknown : novelty.IsUnknown) :
    ∃ treeEdit, Alters novelty.alter? treeEdit novelty.change? := by
  cases novelty with
  | filter node =>
      obtain ⟨name, names, unknown, tree, read⟩ := isUnknown
      have kindUnknown : FilterKind.ofName name = .unsupported := by
        by_contra known
        exact unknown _ known (FilterKind.name_ofName known).symm
      have treeRead (nested : Bool) : Filter.ofTree nested tree = .ok .unsupported := by
        obtain ⟨entries, rfl, isRecord⟩ := exists_isRecord_of_namesKind names read
        rw [Filter.ofTree_object, findKind_eq isRecord, ok_bind, kindUnknown]
        rfl
      refine ⟨fun _ => some tree, ?buffers, ?reads, fun nested => ?ofTree⟩
      case buffers =>
        exact Reader.follows_replacement fun _ fits => (bufferFilter_eq fits names).trans read
      case reads =>
        exact Reader.follows_replacement fun _ fits => fits.tree_eq.trans read
      case ofTree =>
        rintro _ _ _ - - ⟨⟩
        exact ⟨tree, rfl, fun _ => treeRead nested⟩
  | groupOperator name =>
      have operatorUnknown : GroupOperator.ofName name = .unknown := by
        by_contra known
        exact isUnknown _ (GroupOperator.name?_ofName known)
      have ofKind {filter changed : Filter} :
          change? (.groupOperator name) filter = some changed → filter.kind = .group := by
        cases filter <;> simp [change?, Filter.kind]
      have follows := readGroup_operator operatorUnknown .buffered
      exact ⟨_, alters_operator .group (by decide) ofKind follows⟩
  | fieldOperator name =>
      have operatorUnknown : FieldOperator.ofName name = .unknown := by
        by_contra known
        exact isUnknown _ known (FieldOperator.name_ofName known).symm
      have ofKind {filter changed : Filter} :
          change? (.fieldOperator name) filter = some changed → filter.kind = .context := by
        cases filter <;> simp [change?, Filter.kind]
      have follows :
          Follows Node.IsProper Source.buffered.Fits (readBody .context)
            (Node.alterField? "operator" 1 fun _ => some (.text (.ok name)))
            (change? (.fieldOperator name)) :=
        (readComparison_operator operatorUnknown .buffered).map fun _ => rfl
      exact ⟨_, alters_operator .context (by decide) ofKind follows⟩

end Novelty

end FeatureFlags.Targeting
