import FeatureFlags.Proofs.Targeting.FilterRecords

namespace FeatureFlags.Targeting

/-!
# Written filters

The trees that write a filter: an object with the name of its kind and the fields of that
kind, in any order and with any others among them. Unknown kinds and operators have no
names, so whatever holds one of them is written by nothing. Every tree that writes a filter
is read as that filter.
-/

open FeatureFlags.Json (FieldForm IsRecord Node Reader Source Tree getD_given given given_cons
  ok_bind present_given)

/-! ## Trees -/

/-- The wire name of an operator, if it is known. -/
def GroupOperator.name? : GroupOperator → Option String
  | .conjunction => some "and"
  | .disjunction => some "or"
  | .unknown => none

/-- Whether a tree is a filter of a kind whose fields have the given forms. -/
def IsFilter
    (kind : FilterKind)
    (forms : List (FieldForm Tree))
    (tree : Tree) :
    Prop :=
  ∃ entries,
    tree = .object entries ∧
      IsRecord (⟨kindField, False, (· = .text kind.name)⟩ :: forms) entries

/-- The fields of a comparison. -/
def Comparison.forms (comparison : Comparison) : List (FieldForm Tree) :=
  [⟨"field", False, (· = .text comparison.field)⟩,
    ⟨"operator", False,
      fun tree => comparison.operator ≠ .unknown ∧ tree = .text comparison.operator.name⟩,
    ⟨"values", comparison.values = [], (· = .array (comparison.values.map .text))⟩]

/-- The fields of a rollout share. -/
def RolloutShare.forms (share : RolloutShare) : List (FieldForm Tree) :=
  [⟨"key", False, (· = .text share.key)⟩,
    ⟨"partialRolloutAttribute", False, (· = .text share.field)⟩,
    ⟨"partialRolloutThreshold", False, (· = .integer share.threshold.toInt)⟩]

namespace Filter

mutual

/-- Whether a tree writes a filter. -/
def WrittenAs : Filter → Tree → Prop
  | .group operator filters =>
      IsFilter .group
        [⟨"operator", False, fun tree => ∃ name, operator.name? = some name ∧ tree = .text name⟩,
          ⟨"filters", filters = [],
            fun tree => ∃ trees, tree = .array trees ∧ AllWrittenAs filters trees⟩]
  | .negation filter =>
      IsFilter .negation [⟨"filter", False, WrittenAs filter⟩]
  | .constant value =>
      IsFilter .constant [⟨"value", False, (· = .bool value)⟩]
  | .context comparison =>
      IsFilter .context comparison.forms
  | .rollout share =>
      IsFilter .rollout share.forms
  | .unsupported =>
      fun _ => False

/-- Whether trees write filters, one by one. -/
def AllWrittenAs : List Filter → List Tree → Prop
  | [], trees => trees = []
  | filter :: rest, trees =>
      ∃ tree more, trees = tree :: more ∧ WrittenAs filter tree ∧ AllWrittenAs rest more

end

theorem AllWrittenAs.forall₂
    {filters : List Filter}
    {trees : List Tree}
    (written : AllWrittenAs filters trees) :
    List.Forall₂ WrittenAs filters trees := by
  induction filters generalizing trees with
  | nil =>
      rw [AllWrittenAs] at written
      subst written
      exact .nil
  | cons filter rest inductionHypothesis =>
      rw [AllWrittenAs] at written
      obtain ⟨tree, more, rfl, filterWritten, restWritten⟩ := written
      exact .cons filterWritten (inductionHypothesis restWritten)

end Filter

/-! ## Kinds and operators -/

theorem FilterKind.ofName_name (kind : FilterKind) : ofName kind.name = kind := by
  cases kind <;> rfl

theorem FieldOperator.ofName_name
    {operator : FieldOperator}
    (known : operator ≠ .unknown) :
    ofName operator.name = operator := by
  cases operator with
  | unknown =>
      exact absurd rfl known
  | _ =>
      rfl

theorem GroupOperator.ofName_eq
    {operator : GroupOperator}
    {name : String}
    (known : operator.name? = some name) :
    ofName name = operator := by
  cases operator with
  | conjunction | disjunction =>
      cases known
      rfl
  | unknown =>
      cases known

theorem findKind_of_not_mem
    {nested : Bool}
    {kind : FilterKind}
    {entries : List (String × Tree)}
    (noMore : kindField ∉ entries.map (·.1)) :
    findKind nested (some kind) entries = .ok kind := by
  induction entries with
  | nil =>
      rfl
  | cons entry rest inductionHypothesis =>
      obtain ⟨key, value⟩ := entry
      simp only [List.map_cons, List.mem_cons, not_or] at noMore
      rw [findKind, if_neg (Ne.symm noMore.1)]
      exact inductionHypothesis noMore.2

theorem findKind_append
    {nested : Bool}
    {before after : List (String × Tree)}
    (notBefore : kindField ∉ before.map (·.1))
    (value : Tree) :
    findKind nested none (before ++ (kindField, value) :: after) =
      readKind nested value >>= fun kind => findKind nested (some kind) after := by
  induction before with
  | nil =>
      rfl
  | cons entry rest inductionHypothesis =>
      obtain ⟨key, value⟩ := entry
      simp only [List.map_cons, List.mem_cons, not_or] at notBefore
      rw [List.cons_append, findKind, if_neg (Ne.symm notBefore.1)]
      exact inductionHypothesis notBefore.2

/-- The kind of a filter is found wherever it stands among the other fields. -/
theorem findKind_eq
    {nested : Bool}
    {name : String}
    {forms : List (FieldForm Tree)}
    {entries : List (String × Tree)}
    (isRecord : IsRecord (⟨kindField, False, (· = .text name)⟩ :: forms) entries) :
    findKind nested none entries = .ok (.ofName name) := by
  obtain ⟨before, _, after, rfl, rfl, notBefore, notAfter⟩ :=
    isRecord.exists_split List.mem_cons_self id
  rw [findKind_append notBefore, readKind, ok_bind]
  exact findKind_of_not_mem notAfter

/-! ## Reading -/

namespace Filter

/-- A filter that writes its kind is read from the fields of that kind. -/
private theorem ofTree_of_isFilter
    {kind : FilterKind}
    {forms : List (FieldForm Tree)}
    {tree : Tree}
    (isFilter : IsFilter kind forms tree)
    (nested : Bool) :
    ofTree nested tree = readBody kind (Node.ofTree tree) := by
  obtain ⟨entries, rfl, isRecord⟩ := isFilter
  rw [ofTree_object, findKind_eq isRecord, ok_bind, FilterKind.ofName_name]

/-- A constant filter is read from its field. -/
private theorem reads_constant (value : Bool) :
    readConstant.Reads
      (Node.IsRecord (List.map FieldForm.ofTrees [⟨"value", False, (· = .bool value)⟩]))
      value := by
  refine Reader.reads_record (fun names => given names "value" value) ?_
  constructor
  case start_eq =>
    rfl
  case fills =>
    refine .cons (.into ?_ (fun _ => rfl) (by simp [given_cons])) .nil
    exact (Reader.reads_bool value).ofTrees (by rintro _ rfl; rfl)
  case finish_eq =>
    intro names complete
    simp only [List.map_cons, List.forall_mem_cons, FieldForm.mayLack_ofTrees,
      FieldForm.name_ofTrees, false_or] at complete
    obtain ⟨written, -⟩ := complete
    exact present_given written value

/-- A comparison is read from its fields. -/
private theorem reads_comparison (comparison : Comparison) :
    readComparison.Reads (Node.IsRecord (comparison.forms.map FieldForm.ofTrees)) comparison := by
  refine
    Reader.reads_record
      (fun names =>
        { field := given names "field" comparison.field
          operator := given names "operator" comparison.operator
          values := given names "values" comparison.values })
      ?_
  constructor
  case start_eq =>
    rfl
  case fills =>
    refine
      .cons (.into ?field (fun _ => rfl) (by simp [given_cons]))
        (.cons (.into ?operator (fun _ => rfl) (by simp [given_cons]))
          (.cons (.into ?values (fun _ => rfl) (by simp [given_cons])) .nil))
    case field =>
      exact (Reader.reads_text comparison.field).ofTrees (by rintro _ rfl; rfl)
    case operator =>
      rintro source _ accepts ⟨_, rfl, known, rfl⟩
      have read := Reader.reads_variant FieldOperator.ofName comparison.operator.name accepts rfl
      rwa [FieldOperator.ofName_name known] at read
    case values =>
      have reads := Reader.reads_list fun value (_ : value ∈ comparison.values) =>
        Reader.reads_text value
      refine reads.ofTrees ?_
      rintro _ rfl
      refine ⟨_, rfl, ?_⟩
      simp [Node.ofTrees_eq_map, Node.ofTree]
  case finish_eq =>
    intro names complete
    simp only [Comparison.forms, List.map_cons, List.forall_mem_cons, FieldForm.mayLack_ofTrees,
      FieldForm.name_ofTrees, false_or] at complete
    obtain ⟨field, operator, values, -⟩ := complete
    simp only [present_given field, present_given operator,
      getD_given values, ok_bind]
    rfl

/-- A rollout share is read from its fields. -/
private theorem reads_rollout (share : RolloutShare) :
    readRollout.Reads (Node.IsRecord (share.forms.map FieldForm.ofTrees)) share := by
  refine
    Reader.reads_record
      (fun names =>
        { key := given names "key" share.key
          field := given names "partialRolloutAttribute" share.field
          threshold := given names "partialRolloutThreshold" share.threshold })
      ?_
  constructor
  case start_eq =>
    rfl
  case fills =>
    refine
      .cons (.into ?key (fun _ => rfl) (by simp [given_cons]))
        (.cons (.into ?field (fun _ => rfl) (by simp [given_cons]))
          (.cons (.into ?threshold (fun _ => rfl) (by simp [given_cons])) .nil))
    case key =>
      exact (Reader.reads_text share.key).ofTrees (by rintro _ rfl; rfl)
    case field =>
      exact (Reader.reads_text share.field).ofTrees (by rintro _ rfl; rfl)
    case threshold =>
      exact (Reader.reads_signed share.threshold).ofTrees (by rintro _ rfl; rfl)
  case finish_eq =>
    intro names complete
    simp only [RolloutShare.forms, List.map_cons, List.forall_mem_cons,
      FieldForm.mayLack_ofTrees, FieldForm.name_ofTrees, false_or] at complete
    obtain ⟨key, field, threshold, -⟩ := complete
    simp only [present_given key, present_given field,
      present_given threshold, ok_bind]
    rfl

/-- Where the children of a group are read, the group is read from its fields. -/
private theorem reads_group
    {operator : GroupOperator}
    {filters : List Filter}
    (reads :
      ∀ filter ∈ filters,
        readNested.Reads (fun node => ∃ tree, node = .ofTree tree ∧ filter.WrittenAs tree) filter) :
    readGroup.Reads
      (Node.IsRecord
        (List.map FieldForm.ofTrees
          [⟨"operator", False, fun tree => ∃ name, operator.name? = some name ∧ tree = .text name⟩,
            ⟨"filters", filters = [],
              fun tree => ∃ trees, tree = .array trees ∧ AllWrittenAs filters trees⟩]))
      (.group operator filters) := by
  refine
    Reader.reads_record
      (fun names =>
        { operator := given names "operator" operator
          filters := given names "filters" filters })
      ?_
  constructor
  case start_eq =>
    rfl
  case fills =>
    refine
      .cons (.into ?operator (fun _ => rfl) (by simp [given_cons]))
        (.cons (.into ?filters (fun _ => rfl) (by simp [given_cons])) .nil)
    case operator =>
      rintro source _ accepts ⟨_, rfl, name, known, rfl⟩
      have read := Reader.reads_variant GroupOperator.ofName name accepts rfl
      rwa [GroupOperator.ofName_eq known] at read
    case filters =>
      refine (Reader.reads_list reads).ofTrees ?_
      rintro _ ⟨trees, rfl, written⟩
      refine ⟨_, rfl, ?_⟩
      rw [Node.ofTrees_eq_map, List.forall₂_map_right_iff]
      exact written.forall₂.imp fun _ tree treeWritten => ⟨tree, rfl, treeWritten⟩
  case finish_eq =>
    intro names complete
    simp only [List.map_cons, List.forall_mem_cons, FieldForm.mayLack_ofTrees,
      FieldForm.name_ofTrees, false_or] at complete
    obtain ⟨operatorRead, filtersRead, -⟩ := complete
    simp only [GroupDraft.finish, present_given operatorRead,
      getD_given filtersRead, ok_bind]
    rfl

/-- Where the filter of a negation is read, the negation is read from its field. -/
private theorem reads_negation
    {filter : Filter}
    (reads :
      readNested.Reads (fun node => ∃ tree, node = .ofTree tree ∧ filter.WrittenAs tree) filter) :
    readNegation.Reads
      (Node.IsRecord (List.map FieldForm.ofTrees [⟨"filter", False, filter.WrittenAs⟩]))
      (.negation filter) := by
  refine Reader.reads_record (fun names => given names "filter" filter) ?_
  constructor
  case start_eq =>
    rfl
  case fills =>
    exact .cons (.into reads (fun _ => rfl) (by simp [given_cons])) .nil
  case finish_eq =>
    intro names complete
    simp only [List.map_cons, List.forall_mem_cons, FieldForm.mayLack_ofTrees,
      FieldForm.name_ofTrees, false_or] at complete
    obtain ⟨written, -⟩ := complete
    rw [finishNegation, present_given written, Except.map_ok]

/-- The fields of a filter are read from whatever has its kind beside them. -/
private theorem readBody_eq
    {kind : FilterKind}
    {forms : List (FieldForm Tree)}
    {tree : Tree}
    (isFilter : IsFilter kind forms tree)
    {reader : Reader α}
    {value : α}
    (reads : reader.Reads (Node.IsRecord (forms.map FieldForm.ofTrees)) value) :
    reader .buffered (Node.ofTree tree) = .ok value := by
  obtain ⟨entries, rfl, isRecord⟩ := isFilter
  have isBody : IsRecord forms entries :=
    isRecord.of_subset fun form member => List.mem_cons_of_mem _ member
  exact reads (.ofTree rfl _) isBody.ofTree

mutual

/-- Whatever writes a filter is read as that filter, at whatever depth. -/
theorem ofTree_of_writtenAs
    (filter : Filter)
    {tree : Tree}
    (written : filter.WrittenAs tree)
    (nested : Bool) :
    ofTree nested tree = .ok filter := by
  match filter with
  | .group operator filters =>
      rw [WrittenAs] at written
      rw [ofTree_of_isFilter written]
      exact readBody_eq written (reads_group (readNested_reads filters))
  | .negation filter =>
      rw [WrittenAs] at written
      rw [ofTree_of_isFilter written]
      refine readBody_eq written (reads_negation ?_)
      rintro source _ - ⟨tree, rfl, filterWritten⟩
      rw [readNested_ofTree]
      exact ofTree_of_writtenAs filter filterWritten true
  | .constant value =>
      rw [WrittenAs] at written
      rw [ofTree_of_isFilter written]
      exact congrArg (Filter.constant <$> ·) (readBody_eq written (reads_constant value))
  | .context comparison =>
      rw [WrittenAs] at written
      rw [ofTree_of_isFilter written]
      exact congrArg (Filter.context <$> ·) (readBody_eq written (reads_comparison comparison))
  | .rollout share =>
      rw [WrittenAs] at written
      rw [ofTree_of_isFilter written]
      exact congrArg (Filter.rollout <$> ·) (readBody_eq written (reads_rollout share))
  | .unsupported =>
      rw [WrittenAs] at written
      exact written.elim

/-- The children of a group are read one by one. -/
theorem readNested_reads
    (filters : List Filter) :
    ∀ filter ∈ filters,
      readNested.Reads (fun node => ∃ tree, node = .ofTree tree ∧ filter.WrittenAs tree)
        filter := by
  match filters with
  | [] =>
      exact fun _ member => nomatch member
  | first :: rest =>
      refine List.forall_mem_cons.mpr ⟨?_, readNested_reads rest⟩
      rintro source _ - ⟨tree, rfl, written⟩
      rw [readNested_ofTree]
      exact ofTree_of_writtenAs first written true

end

end Filter

/-! ## Nodes -/

/-- Whether a node is an object that has a name as its only kind. -/
def NamesKind
    (node : Node)
    (name : String) :
    Prop :=
  node.IsRecord [⟨kindField, False, (· = .text (.ok name))⟩]

/-- Whether a node writes a filter; beside its fields may stand anything that can be read. -/
def WritesFilter
    (filter : Filter)
    (node : Node) :
    Prop :=
  NamesKind node filter.kind.name ∧ ∃ tree, node.read none = .ok tree ∧ filter.WrittenAs tree

theorem bufferEntries_of_not_mem
    {source : Source}
    (seen : Bool)
    {entries : List (String × Node)}
    (noKind : kindField ∉ entries.map (·.1))
    (fits : ∀ entry ∈ entries, source.Fits entry.2) :
    bufferEntries source seen (entries.map fun entry => (.ok entry.1, entry.2)) =
      Node.readEntries none (entries.map fun entry => (.ok entry.1, entry.2)) := by
  induction entries with
  | nil =>
      rfl
  | cons entry rest inductionHypothesis =>
      obtain ⟨key, node⟩ := entry
      simp only [List.map_cons, List.mem_cons, not_or] at noKind
      have restBuffered :=
        inductionHypothesis noKind.2 fun other member => fits other (List.mem_cons_of_mem _ member)
      simp only [List.map_cons, bufferEntries, Node.readEntries, ok_bind, Ne.symm noKind.1,
        ↓reduceIte, (fits _ List.mem_cons_self).tree_eq, restBuffered]

theorem bufferEntries_append
    {source : Source}
    {name : String}
    {before after : List (String × Node)}
    (notBefore : kindField ∉ before.map (·.1))
    (notAfter : kindField ∉ after.map (·.1))
    (fits : ∀ entry ∈ before ++ (kindField, .text (.ok name)) :: after, source.Fits entry.2) :
    bufferEntries source false
        ((before ++ (kindField, .text (.ok name)) :: after).map fun entry =>
          (.ok entry.1, entry.2)) =
      Node.readEntries none
        ((before ++ (kindField, .text (.ok name)) :: after).map fun entry =>
          (.ok entry.1, entry.2)) := by
  induction before with
  | nil =>
      have afterBuffered :=
        bufferEntries_of_not_mem true notAfter fun entry member =>
          fits entry (List.mem_cons_of_mem _ member)
      simp only [List.nil_append, List.map_cons, bufferEntries, Node.readEntries, ok_bind,
        ↓reduceIte, readKindNode, afterBuffered]
      rfl
  | cons entry rest inductionHypothesis =>
      obtain ⟨key, node⟩ := entry
      simp only [List.map_cons, List.mem_cons, not_or] at notBefore
      have restBuffered :=
        inductionHypothesis notBefore.2 fun other member =>
          fits other (List.mem_cons_of_mem _ member)
      simp only [List.cons_append, List.map_cons, bufferEntries, Node.readEntries, ok_bind,
        Ne.symm notBefore.1, ↓reduceIte, (fits _ List.mem_cons_self).tree_eq, restBuffered]

/-- To set a filter aside is to read it as a tree, if its kind is named as it should be. -/
theorem bufferFilter_eq
    {source : Source}
    {node : Node}
    {name : String}
    (fits : source.Fits node)
    (names : NamesKind node name) :
    bufferFilter source node = node.read none := by
  obtain ⟨entries, rfl, isRecord⟩ := names
  obtain ⟨inner, descends, inside⟩ := fits.descend_object
  obtain ⟨before, _, after, rfl, rfl, notBefore, notAfter⟩ :=
    isRecord.exists_split List.mem_cons_self id
  have buffered :=
    bufferEntries_append notBefore notAfter fun entry member =>
      inside (.ok entry.1, entry.2) (List.mem_map_of_mem member)
  simp only [Node.ofRecord, bufferFilter, Node.read, descends, Json.Budget.descend, ok_bind,
    buffered]

/-- Whatever node writes a filter is read as that filter. -/
theorem reads_filter (filter : Filter) : readFilter.Reads (WritesFilter filter) filter := by
  rintro source node accepts ⟨names, tree, read, written⟩
  rw [readFilter, bufferFilter_eq accepts.fits names, read, ok_bind]
  exact filter.ofTree_of_writtenAs written false

end FeatureFlags.Targeting
