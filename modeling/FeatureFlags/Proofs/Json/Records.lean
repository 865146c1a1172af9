import FeatureFlags.Proofs.Json.Acceptance
import Mathlib.Data.List.Forall2

namespace FeatureFlags.Json

/-!
# Written records

The ways to write a record as an object: its fields in any order, each of them once or
left out where that is possible, and any other entries among them. A reader of records
makes the same of all of them.
-/

/-! ## Records -/

/-- How one field of a record is written. -/
structure FieldForm (β : Type) where
  name : String
  /-- Whether the field may be left out. -/
  mayLack : Prop
  /-- What may be written for the field. -/
  Holds : β → Prop

/-- The entries of a record in any order, with any others among them. -/
structure IsRecord
    (forms : List (FieldForm β))
    (entries : List (String × β)) :
    Prop where
  once : ∀ form ∈ forms, (entries.map (·.1)).count form.name ≤ 1
  complete : ∀ form ∈ forms, form.mayLack ∨ form.name ∈ entries.map (·.1)
  holds : ∀ form ∈ forms, ∀ {content}, (form.name, content) ∈ entries → form.Holds content

namespace IsRecord

variable
  {forms fewer : List (FieldForm β)}
  {entries : List (String × β)}

/-- What is a record in some fields is one in some of them. -/
theorem of_subset
    (isRecord : IsRecord forms entries)
    (subset : ∀ form ∈ fewer, form ∈ forms) :
    IsRecord fewer entries where
  once form member := isRecord.once form (subset form member)
  complete form member := isRecord.complete form (subset form member)
  holds form member := isRecord.holds form (subset form member)

/-- A field that may not be left out has one entry. -/
theorem exists_split
    (isRecord : IsRecord forms entries)
    {form : FieldForm β}
    (member : form ∈ forms)
    (needed : ¬ form.mayLack) :
    ∃ before content after,
      entries = before ++ (form.name, content) :: after ∧
        form.Holds content ∧
        form.name ∉ before.map (·.1) ∧
        form.name ∉ after.map (·.1) := by
  have written := (isRecord.complete form member).resolve_left needed
  obtain ⟨⟨_, content⟩, found, rfl⟩ := List.mem_map.mp written
  obtain ⟨before, after, rfl⟩ := List.append_of_mem found
  have once := isRecord.once form member
  simp only [List.map_append, List.map_cons, List.count_append, List.count_cons_self] at once
  refine ⟨before, content, after, rfl, isRecord.holds form member found, ?_, ?_⟩
  · exact List.count_eq_zero.mp (by omega)
  · exact List.count_eq_zero.mp (by omega)

end IsRecord

namespace Node

/-- An object with entries of readable keys. -/
def ofRecord (entries : List (String × Node)) : Node :=
  .object (entries.map fun entry => (.ok entry.1, entry.2)) .closed

/-- What is read of an object has the same keys, and what is read of the same contents. -/
theorem exists_of_read_ofRecord
    {entries : List (String × Node)}
    {tree : Tree}
    (isRead : (ofRecord entries).read none = .ok tree) :
    ∃ trees,
      tree = .object trees ∧
        List.Forall₂
          (fun entry entryTree => entryTree.1 = entry.1 ∧ entry.2.read none = .ok entryTree.2)
          entries trees := by
  obtain ⟨budget, descends, inside⟩ := bind_eq_ok.mp isRead
  obtain rfl : none = budget := Except.ok.inj descends
  obtain ⟨trees, entriesRead, closing⟩ := bind_eq_ok.mp inside
  obtain ⟨⟨⟩, -, ⟨⟩⟩ := bind_eq_ok.mp closing
  refine ⟨trees, rfl, ?_⟩
  clear isRead inside closing
  induction entries generalizing trees with
  | nil =>
      obtain rfl := Except.ok.inj entriesRead
      exact .nil
  | cons entry rest inductionHypothesis =>
      obtain ⟨key, node⟩ := entry
      obtain ⟨_, ⟨⟩, isRead⟩ := bind_eq_ok.mp entriesRead
      obtain ⟨value, valueRead, isRead⟩ := bind_eq_ok.mp isRead
      obtain ⟨values, restRead, ⟨⟩⟩ := bind_eq_ok.mp isRead
      exact .cons ⟨rfl, valueRead⟩ (inductionHypothesis values restRead)

/-- Whether a node is a record. -/
def IsRecord
    (forms : List (FieldForm Node))
    (node : Node) :
    Prop :=
  ∃ entries, node = .ofRecord entries ∧ Json.IsRecord forms entries

theorem not_isRecord_null (forms : List (FieldForm Node)) : ¬ Node.null.IsRecord forms := by
  rintro ⟨entries, impossible, -⟩
  cases impossible

/-- Whether a node is a list of nodes, each of which writes a value. -/
def IsList
    (Writes : α → Node → Prop)
    (values : List α)
    (node : Node) :
    Prop :=
  ∃ items, node = .array items .closed ∧ List.Forall₂ Writes values items

theorem not_isList_null
    (Writes : α → Node → Prop)
    (values : List α) :
    ¬ IsList Writes values .null := by
  rintro ⟨items, impossible, -⟩
  cases impossible

/-- Whether a node writes a value, or is null where there is none. -/
def IsOption
    (Writes : α → Node → Prop) :
    Option α → Node → Prop
  | none, node => node = .null
  | some value, node => Writes value node

end Node

/-- The form of a field whose content is a whole tree. -/
def FieldForm.ofTrees (form : FieldForm Tree) : FieldForm Node where
  name := form.name
  mayLack := form.mayLack
  Holds node := ∃ tree, node = .ofTree tree ∧ form.Holds tree

@[simp] theorem FieldForm.name_ofTrees (form : FieldForm Tree) : form.ofTrees.name = form.name :=
  rfl

@[simp] theorem FieldForm.mayLack_ofTrees (form : FieldForm Tree) :
    form.ofTrees.mayLack = form.mayLack :=
  rfl

/-- A record of whole trees is a record of nodes. -/
theorem IsRecord.ofTree
    {forms : List (FieldForm Tree)}
    {entries : List (String × Tree)}
    (isRecord : IsRecord forms entries) :
    Node.IsRecord (forms.map FieldForm.ofTrees) (Node.ofTree (.object entries)) := by
  refine ⟨entries.map fun entry => (entry.1, .ofTree entry.2), ?_, ?_⟩
  · rw [Node.ofTree, Node.ofEntries_eq_map, Node.ofRecord, List.map_map]
    rfl
  have keys :
      (entries.map fun entry => (entry.1, Node.ofTree entry.2)).map (·.1) =
        entries.map (·.1) := by
    rw [List.map_map]
    rfl
  refine ⟨?_, ?_, ?_⟩
  · rintro _ member
    obtain ⟨form, formMember, rfl⟩ := List.mem_map.mp member
    exact keys ▸ isRecord.once form formMember
  · rintro _ member
    obtain ⟨form, formMember, rfl⟩ := List.mem_map.mp member
    exact keys ▸ isRecord.complete form formMember
  · rintro _ member content found
    obtain ⟨form, formMember, rfl⟩ := List.mem_map.mp member
    obtain ⟨⟨_, tree⟩, entryMember, same⟩ := List.mem_map.mp found
    obtain ⟨rfl, rfl⟩ := Prod.mk.inj same
    exact ⟨tree, rfl, isRecord.holds form formMember entryMember⟩

namespace Reader

/-- A reader makes a value of every node of some form. -/
def Reads
    (reader : Reader α)
    (Form : Node → Prop)
    (value : α) :
    Prop :=
  ∀ ⦃source node⦄, source.Accepts node → Form node → reader source node = .ok value

theorem Reads.mono
    {reader : Reader α}
    {Form Stricter : Node → Prop}
    {value : α}
    (reads : reader.Reads Form value)
    (stricter : ∀ node, Stricter node → Form node) :
    reader.Reads Stricter value :=
  fun _ node accepts holds => reads accepts (stricter node holds)

/-- What reads nodes of some form reads whole trees whose nodes are of that form. -/
theorem Reads.ofTrees
    {reader : Reader α}
    {Form : Node → Prop}
    {Holds : Tree → Prop}
    {value : α}
    (reads : reader.Reads Form value)
    (stricter : ∀ tree, Holds tree → Form (.ofTree tree)) :
    reader.Reads (fun node => ∃ tree, node = .ofTree tree ∧ Holds tree) value := by
  rintro source _ accepts ⟨tree, rfl, holds⟩
  exact reads accepts (stricter tree holds)

/-! ## Scalars, lists and options -/

theorem reads_bool (value : Bool) : bool.Reads (· = .bool value) value := by
  rintro source node - rfl
  rfl

theorem reads_text (value : String) : text.Reads (· = .text (.ok value)) value := by
  rintro source node - rfl
  rfl

theorem reads_variant
    (ofName : String → α)
    (name : String) :
    (variant ofName).Reads (· = .text (.ok name)) (ofName name) := by
  rintro source node - rfl
  rfl

theorem reads_signed (value : Int64) :
    signed.Reads (· = .number (.ok (.integer value.toInt))) value := by
  rintro source node - rfl
  have inRange : lowestSigned ≤ value.toInt ∧ value.toInt ≤ highestSigned :=
    ⟨value.le_toInt, Int.le_of_lt_add_one value.toInt_lt⟩
  simp [signed, integer, inRange, pure, Except.pure]

theorem reads_tree (value : Tree) : tree.Reads (·.read none = .ok value) value :=
  fun _ _ accepts read => accepts.fits.tree_eq.trans read

/-- A list is read if every item is. -/
theorem reads_list
    {reader : Reader α}
    {Writes : α → Node → Prop}
    {values : List α}
    (reads : ∀ value ∈ values, reader.Reads (Writes value) value) :
    (list reader).Reads (Node.IsList Writes values) values := by
  rintro source node accepts ⟨items, rfl, written⟩
  obtain ⟨inner, descends, inside⟩ := accepts.descend_array
  have itemsRead : items.mapM (reader inner) = .ok values := by
    clear accepts
    induction written with
    | nil =>
        rfl
    | @cons value item values items writes _ inductionHypothesis =>
        have itemRead := reads value List.mem_cons_self (inside item List.mem_cons_self) writes
        have restRead :=
          inductionHypothesis (fun other member => reads other (List.mem_cons_of_mem _ member))
            fun other member => inside other (List.mem_cons_of_mem _ member)
        rw [List.mapM_cons, itemRead, restRead]
        rfl
  simp only [list, descends, itemsRead, ok_bind]
  rfl

/-- An option is read as nothing if it is null, and as its content otherwise. -/
theorem reads_optional
    {reader : Reader α}
    {Writes : α → Node → Prop}
    {option : Option α}
    (reads : ∀ value ∈ option, reader.Reads (Writes value) value)
    (notNull : ∀ value ∈ option, ¬ Writes value .null) :
    (optional reader).Reads (Node.IsOption Writes option) option := by
  intro source node accepts written
  cases option with
  | none =>
      obtain rfl : node = .null := written
      rfl
  | some value =>
      have contentRead := reads value rfl accepts written
      cases node with
      | null =>
          exact absurd written (notNull value rfl)
      | bool | number | text | array | object | cut =>
          exact congrArg (some <$> ·) contentRead

end Reader

/-! ## Entries -/

section Entries

variable
  {fields : List (FieldReader σ)}
  {source : Source}
  {key : String}
  {node : Node}
  {rest : List (Except Fault String × Node)}
  {draft : σ}

/-- The entry of a field is read into its place, if it is the first one. -/
theorem entriesInto_known
    {name : String}
    {required : Bool}
    {get : σ → Option α}
    {put : σ → α → σ}
    {reader : Reader α}
    (found :
      fields.find? (fun field => field.name == key) = some (.into name required get put reader)) :
    Reader.entriesInto fields source ((.ok key, node) :: rest) draft =
      if (get draft).isSome then
        .error (.duplicateField key)
      else
        reader source node >>= fun value =>
          Reader.entriesInto fields source rest (put draft value) := by
  rw [Reader.entriesInto, ok_bind]
  simp only [found, FieldReader.into]
  cases reader source node <;> rfl

/-- The entry of an unknown field is skipped. -/
theorem entriesInto_unknown
    (unknown : fields.find? (fun field => field.name == key) = none)
    (skipped : node.skip = .ok ()) :
    Reader.entriesInto fields source ((.ok key, node) :: rest) draft =
      Reader.entriesInto fields source rest draft := by
  rw [Reader.entriesInto, ok_bind]
  simp only [unknown, skipped, ok_bind]

end Entries

/-! ## Drafts -/

/-- A value once its field has been read. -/
def given
    (names : List String)
    (name : String)
    (value : α) :
    Option α :=
  if name ∈ names then some value else none

theorem given_cons
    (names : List String)
    (first name : String)
    (value : α) :
    given (first :: names) name value =
      if name = first then some value else given names name value := by
  by_cases same : name = first
  · simp [given, same]
  · simp [given, same]

theorem present_given
    {names : List String}
    {name : String}
    (member : name ∈ names)
    (value : α) :
    Reader.present name (given names name value) = .ok value := by
  rw [given, if_pos member]
  rfl

/-- A field that may be left out has its default then. -/
theorem getD_given
    {names : List String}
    {name : String}
    {value default : α}
    (defaultOrMember : value = default ∨ name ∈ names) :
    (given names name value).getD default = value := by
  by_cases member : name ∈ names
  · rw [given, if_pos member]
    rfl
  · rw [given, if_neg member]
    exact (defaultOrMember.resolve_right member).symm

/-- An option that may be left out is nothing then. -/
theorem join_given
    {names : List String}
    {name : String}
    {option : Option α}
    (noneOrMember : option = none ∨ name ∈ names) :
    (given names name option).join = option := by
  by_cases member : name ∈ names
  · rw [given, if_pos member]
    rfl
  · rw [given, if_neg member]
    exact (noneOrMember.resolve_right member).symm

theorem isSome_given
    (names : List String)
    (name : String)
    (value : α) :
    (given names name value).isSome = decide (name ∈ names) := by
  by_cases member : name ∈ names <;> simp [given, member]

/-- A reader of a field makes progress on drafts that depend on the names read so far alone. -/
structure Fills
    (draft : List String → σ)
    (form : FieldForm Node)
    (field : FieldReader σ) :
    Prop where
  name_eq : field.name = form.name
  isRead_eq : ∀ names, field.isRead (draft names) = decide (form.name ∈ names)
  read_eq :
    ∀ {source node} names,
      source.Accepts node →
      form.Holds node →
      field.read source node (draft names) = .ok (draft (form.name :: names))

/-- A field is filled by what its reader makes of its content. -/
theorem Fills.into
    {draft : List String → σ}
    {name : String}
    {mayLack : Prop}
    {required : Bool}
    {Holds : Node → Prop}
    {reader : Reader α}
    {value : α}
    {get : σ → Option α}
    {put : σ → α → σ}
    (reads : reader.Reads Holds value)
    (gets : ∀ names, get (draft names) = given names name value)
    (puts : ∀ names, put (draft names) value = draft (name :: names)) :
    Fills draft ⟨name, mayLack, Holds⟩ (.into name required get put reader) where
  name_eq := rfl
  isRead_eq names := (congrArg Option.isSome (gets names)).trans (isSome_given names name value)
  read_eq names accepts holds := by
    exact (congrArg (put (draft names) <$> ·) (reads accepts holds)).trans
      (congrArg Except.ok (puts names))

/-- How a record is put together from drafts that depend on the names read so far alone. -/
structure Drafts
    (forms : List (FieldForm Node))
    (fields : List (FieldReader σ))
    (start : σ)
    (finish : σ → Except Fault α)
    (value : α)
    (draft : List String → σ) :
    Prop where
  start_eq : draft [] = start
  fills : List.Forall₂ (Fills draft) forms fields
  finish_eq :
    ∀ names,
      (∀ form ∈ forms, form.mayLack ∨ form.name ∈ names) →
      finish (draft names) = .ok value

theorem exists_of_mem_right
    {Related : α → β → Prop}
    {left : List α}
    {right : List β}
    (related : List.Forall₂ Related left right)
    {second : β}
    (member : second ∈ right) :
    ∃ first ∈ left, Related first second := by
  induction related with
  | nil =>
      cases member
  | cons fits _ inductionHypothesis =>
      rcases List.mem_cons.mp member with rfl | later
      · exact ⟨_, List.mem_cons_self, fits⟩
      · obtain ⟨first, firstMember, firstFits⟩ := inductionHypothesis later
        exact ⟨first, List.mem_cons_of_mem _ firstMember, firstFits⟩

private theorem exists_of_mem_left
    {Related : α → β → Prop}
    {left : List α}
    {right : List β}
    (related : List.Forall₂ Related left right)
    {first : α}
    (member : first ∈ left) :
    ∃ second ∈ right, Related first second := by
  have flipped : List.Forall₂ (fun second first => Related first second) right left :=
    related.flip
  exact exists_of_mem_right flipped member

namespace Drafts

variable
  {forms : List (FieldForm Node)}
  {fields : List (FieldReader σ)}
  {start : σ}
  {finish : σ → Except Fault α}
  {value : α}
  {draft : List String → σ}

/-- The entries of a record are read, whatever their order, and the others are skipped. -/
private theorem entriesInto_eq
    (drafts : Drafts forms fields start finish value draft)
    {source : Source}
    {entries : List (String × Node)}
    (names : List String)
    (once : ∀ form ∈ forms, (names ++ entries.map (·.1)).count form.name ≤ 1)
    (holds :
      ∀ form ∈ forms, ∀ {content}, (form.name, content) ∈ entries → form.Holds content)
    (accepted : ∀ entry ∈ entries, source.Accepts entry.2) :
    ∃ left,
      Reader.entriesInto fields source (entries.map fun entry => (.ok entry.1, entry.2))
          (draft names) =
        .ok (draft left) ∧
        ∀ form ∈ forms, form.name ∈ left ↔ form.name ∈ names ∨ form.name ∈ entries.map (·.1) := by
  induction entries generalizing names with
  | nil =>
      exact ⟨names, rfl, by simp⟩
  | cons entry rest inductionHypothesis =>
      obtain ⟨name, node⟩ := entry
      have accepts : source.Accepts node := accepted _ List.mem_cons_self
      have restHolds :
          ∀ form ∈ forms, ∀ {content}, (form.name, content) ∈ rest → form.Holds content :=
        fun form member _ written => holds form member (List.mem_cons_of_mem _ written)
      have restAccepted : ∀ entry ∈ rest, source.Accepts entry.2 :=
        fun other member => accepted other (List.mem_cons_of_mem _ member)
      cases found : fields.find? fun field => field.name == name with
      | none =>
          have unknown : ∀ form ∈ forms, form.name ≠ name := by
            intro form member
            obtain ⟨field, fieldMember, fits⟩ := exists_of_mem_left drafts.fills member
            simpa [fits.name_eq] using List.find?_eq_none.mp found field fieldMember
          have restOnce : ∀ form ∈ forms, (names ++ rest.map (·.1)).count form.name ≤ 1 := by
            intro form member
            have wholeOnce := once form member
            simpa [List.count_append, List.count_cons, Ne.symm (unknown form member)]
              using wholeOnce
          obtain ⟨left, restRead, members⟩ :=
            inductionHypothesis names restOnce restHolds restAccepted
          refine ⟨left, ?_, ?_⟩
          · rw [List.map_cons, entriesInto_unknown found accepts.skipped, restRead]
          · intro form member
            rw [members form member, List.map_cons, List.mem_cons]
            simp [unknown form member]
      | some field =>
          obtain ⟨form, member, fits⟩ :=
            exists_of_mem_right drafts.fills (List.mem_of_find?_eq_some found)
          obtain rfl : form.name = name := by
            simpa [fits.name_eq] using List.find?_some found
          -- The name of the entry joins the names read before it.
          have restOnce :
              ∀ other ∈ forms,
                (form.name :: names ++ rest.map (·.1)).count other.name ≤ 1 := by
            intro other otherMember
            have moved :
                (form.name :: names ++ rest.map (·.1)).Perm
                  (names ++ (form.name :: rest.map (·.1))) :=
              List.perm_middle.symm
            rw [moved.count_eq]
            exact once other otherMember
          obtain ⟨left, restRead, members⟩ :=
            inductionHypothesis (form.name :: names) restOnce restHolds restAccepted
          refine ⟨left, ?_, ?_⟩
          · have unread : form.name ∉ names := by
              intro already
              have twice := once form member
              have before := List.count_pos_iff.mpr already
              simp only [List.map_cons, List.count_append, List.count_cons_self] at twice
              omega
            have isRead : field.isRead (draft names) = false := by
              simp [fits.isRead_eq, unread]
            have fieldRead := fits.read_eq names accepts (holds form member List.mem_cons_self)
            rw [List.map_cons, Reader.entriesInto, ok_bind]
            simp only [found, isRead, Bool.false_eq_true, ↓reduceIte, fieldRead, ok_bind, restRead]
          · intro other otherMember
            rw [members other otherMember, List.map_cons, List.mem_cons, List.mem_cons, or_assoc,
              or_left_comm]

end Drafts

/-- A record is read, in whatever way it is written. -/
theorem Reader.reads_record
    {name : String}
    {forms : List (FieldForm Node)}
    {fields : List (FieldReader σ)}
    {start : σ}
    {finish : σ → Except Fault α}
    {value : α}
    (draft : List String → σ)
    (drafts : Drafts forms fields start finish value draft) :
    (record name fields start finish).Reads (Node.IsRecord forms) value := by
  rintro source node accepts ⟨entries, rfl, isRecord⟩
  obtain ⟨inner, descends, inside⟩ := accepts.descend_object
  obtain ⟨left, entriesRead, members⟩ :=
    drafts.entriesInto_eq [] isRecord.once isRecord.holds
      (fun entry member => inside (.ok entry.1, entry.2) (List.mem_map_of_mem member))
  have finished : finish (draft left) = .ok value := by
    refine drafts.finish_eq left fun form member => ?_
    rcases isRecord.complete form member with mayLack | written
    · exact .inl mayLack
    · exact .inr ((members form member).mpr (.inr written))
  rw [drafts.start_eq] at entriesRead
  simp only [Node.ofRecord, record, descends, ok_bind, entriesRead, finished]
  rfl

/-- Whatever is read as a record has been put together from a draft. -/
theorem Reader.exists_finish_of_record
    {name : String}
    {fields : List (FieldReader σ)}
    {start : σ}
    {finish : σ → Except Fault α}
    {source : Source}
    {node : Node}
    {value : α}
    (read : record name fields start finish source node = .ok value) :
    ∃ draft, finish draft = .ok value := by
  cases node with
  | object entries ending =>
      obtain ⟨_, -, read⟩ := bind_eq_ok.mp read
      obtain ⟨draft, -, read⟩ := bind_eq_ok.mp read
      obtain ⟨_, -, finished⟩ := bind_eq_ok.mp read
      exact ⟨draft, finished⟩
  | array items ending =>
      obtain ⟨_, -, read⟩ := bind_eq_ok.mp read
      obtain ⟨⟨draft, _⟩, -, read⟩ := bind_eq_ok.mp read
      obtain ⟨_, finished, read⟩ := bind_eq_ok.mp read
      obtain ⟨_, -, ⟨⟩⟩ := bind_eq_ok.mp read
      exact ⟨draft, finished⟩
  | null | bool | number | text | cut =>
      obtain ⟨_, -, ⟨⟩⟩ := bind_eq_ok.mp read

end FeatureFlags.Json
