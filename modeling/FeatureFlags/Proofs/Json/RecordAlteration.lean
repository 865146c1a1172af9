import FeatureFlags.Proofs.Json.Alteration

namespace FeatureFlags.Json

/-!
# Altered records

A record is read field by field into a draft. If a field's reader follows an alteration, and
no other field fills or sees the field's place in the draft, then the record's reader
follows it too, whichever way the record is written.
-/

/-! ## Entries -/

/-- How one entry of a record is read. -/
inductive ReadsEntry
    (fields : List (FieldReader σ))
    (source : Source)
    (key : String)
    (node : Node)
    (draft : σ) :
    σ → Prop where
  | skipped
      (unknown : fields.find? (fun field => field.name == key) = none)
      (skipped : node.skip = .ok ()) :
      ReadsEntry fields source key node draft draft
  | read
      {field : FieldReader σ}
      {next : σ}
      (found : fields.find? (fun field => field.name == key) = some field)
      (isFirst : field.isRead draft = false)
      (read : field.read source node draft = .ok next) :
      ReadsEntry fields source key node draft next

/-- Entries are read one after the other. -/
theorem entriesInto_cons_eq_ok
    {fields : List (FieldReader σ)}
    {source : Source}
    {entry : Except Fault String × Node}
    {rest : List (Except Fault String × Node)}
    {draft last : σ} :
    Reader.entriesInto fields source (entry :: rest) draft = .ok last ↔
      ∃ key next,
        entry.1 = .ok key ∧
          ReadsEntry fields source key entry.2 draft next ∧
          Reader.entriesInto fields source rest next = .ok last := by
  obtain ⟨key, node⟩ := entry
  constructor
  · intro entriesRead
    obtain ⟨key, rfl, read⟩ := bind_eq_ok.mp entriesRead
    cases found : fields.find? (fun field => field.name == key) with
    | none =>
        simp only [found] at read
        obtain ⟨⟨⟩, skipped, restRead⟩ := bind_eq_ok.mp read
        exact ⟨key, draft, rfl, .skipped found skipped, restRead⟩
    | some field =>
        simp only [found] at read
        cases isRead : field.isRead draft with
        | true =>
            simp [isRead] at read
        | false =>
            simp only [isRead, Bool.false_eq_true, ↓reduceIte] at read
            obtain ⟨next, fieldRead, restRead⟩ := bind_eq_ok.mp read
            exact ⟨key, next, rfl, .read found isRead fieldRead, restRead⟩
  · rintro ⟨key, next, rfl, entryRead, restRead⟩
    cases entryRead with
    | skipped unknown skipped =>
        rw [entriesInto_unknown unknown skipped, restRead]
    | read found isFirst fieldRead =>
        simp only [Reader.entriesInto, ok_bind, found, isFirst, Bool.false_eq_true, ↓reduceIte,
          fieldRead, restRead]

/-! ## Records that follow an alteration -/

/-- A field that neither fills nor sees the place of another one in the draft of a record. -/
structure Apart
    (get : σ → Option α)
    (put : σ → α → σ)
    (field : FieldReader σ) :
    Prop where
  isRead_put : ∀ draft value, field.isRead (put draft value) = field.isRead draft
  read_put :
    ∀ source node draft value,
      field.read source node (put draft value) = (put · value) <$> field.read source node draft
  get_read :
    ∀ {source node draft next}, field.read source node draft = .ok next → get next = get draft

theorem Apart.into
    {get : σ → Option α}
    {put : σ → α → σ}
    {name : String}
    {required : Bool}
    {get' : σ → Option β}
    {put' : σ → β → σ}
    {reader : Reader β}
    (get'_put : ∀ draft value, get' (put draft value) = get' draft)
    (put'_put : ∀ draft value value', put' (put draft value) value' = put (put' draft value') value)
    (get_put' : ∀ draft value', get (put' draft value') = get draft) :
    Apart get put (.into name required get' put' reader) where
  isRead_put draft value := congrArg Option.isSome (get'_put draft value)
  read_put source node draft value := by
    have puts : put' (put draft value) = (put · value) ∘ put' draft := by
      funext value'
      exact put'_put draft value value'
    exact (congrArg (· <$> reader source node) puts).trans (comp_map _ _ _)
  get_read isRead := by
    obtain ⟨value', -, rfl⟩ := map_eq_ok.mp isRead
    exact get_put' _ value'

/-- A place in the draft of a record that one of its fields fills, and no other one. -/
structure Slot
    (name : String)
    (get : σ → Option α)
    (put : σ → α → σ)
    (others : List (FieldReader σ)) :
    Prop where
  get_put : ∀ draft value, get (put draft value) = some value
  put_put : ∀ draft value value', put (put draft value) value' = put draft value'
  apart : ∀ other ∈ others, other.name ≠ name ∧ Apart get put other

/-- Change what is in a place of a draft. -/
def alterSlot?
    (get : σ → Option α)
    (put : σ → α → σ)
    (change : α → Option α)
    (draft : σ) :
    Option σ :=
  ((get draft).bind change).map (put draft)

theorem alterSlot?_eq
    {get : σ → Option α}
    {put : σ → α → σ}
    {change : α → Option α}
    {draft : σ}
    {value changed : α}
    (filled : get draft = some value)
    (isChanged : change value = some changed) :
    alterSlot? get put change draft = some (put draft changed) := by
  rw [alterSlot?, filled, Option.bind_some, isChanged, Option.map_some]

/-- An item that can be changed is in a list that has been read, not in the default. -/
theorem exists_of_alterAt?_getD
    {change : α → Option α}
    {index : Nat}
    {read? : Option (List α)}
    {changed : List α}
    (isChanged : alterAt? change index (read?.getD []) = some changed) :
    ∃ items, read? = some items ∧ alterAt? change index items = some changed := by
  cases read? with
  | none =>
      simp at isChanged
  | some items =>
      exact ⟨items, rfl, isChanged⟩

/-- A field that has to be there has been read. -/
theorem present_eq_ok
    {name : String}
    {option : Option α}
    {value : α} :
    Reader.present name option = .ok value ↔ option = some value := by
  cases option <;> simp [Reader.present]

namespace Slot

variable
  {name label : String}
  {required : Bool}
  {get : σ → Option α}
  {put : σ → α → σ}
  {reader : Reader α}
  {before after : List (FieldReader σ)}
  {edit : Node → Option Node}
  {change : α → Option α}
  {source : Source}
  {ending : ArrayEnd}
  {draft : σ}

/-- The place that the only field of a record fills. -/
theorem alone
    (get_put : ∀ draft value, get (put draft value) = some value)
    (put_put : ∀ draft value value', put (put draft value) value' = put draft value') :
    Slot name get put [] :=
  ⟨get_put, put_put, nofun⟩

/-- A place is still a place beside a field that fills another one. -/
theorem beside
    {others : List (FieldReader σ)}
    (slot : Slot name get put others)
    {name' : String}
    (isOther : name' ≠ name)
    {get' : σ → Option β}
    {put' : σ → β → σ}
    {reader' : Reader β}
    (get'_put : ∀ draft value, get' (put draft value) = get' draft)
    (put'_put : ∀ draft value value', put' (put draft value) value' = put (put' draft value') value)
    (get_put' : ∀ draft value', get (put' draft value') = get draft) :
    Slot name get put (.into name' required get' put' reader' :: others) where
  get_put := slot.get_put
  put_put := slot.put_put
  apart :=
    List.forall_mem_cons.mpr ⟨⟨isOther, .into get'_put put'_put get_put'⟩, slot.apart⟩

/-- A place that is filled can be filled anew. -/
theorem alterSlot?_put
    (slot : Slot name get put (before ++ after))
    (value : α) :
    alterSlot? get put change (put draft value) = (change value).map (put draft) := by
  have again : put (put draft value) = put draft := funext (slot.put_put draft value)
  rw [alterSlot?, slot.get_put, Option.bind_some, again]

section Entries

variable
  {fields : List (FieldReader σ)}
  (slot : Slot name get put (before ++ after))
  (isSplit : fields = before ++ .into name required get put reader :: after)

include slot isSplit

/-- The field of a place is found by its name. -/
theorem find?_eq :
    fields.find? (fun field => field.name == name) =
      some (.into name required get put reader) := by
  have notBefore : before.find? (fun field => field.name == name) = none := by
    rw [List.find?_eq_none]
    intro other member
    simpa using (slot.apart other (List.mem_append_left _ member)).1
  rw [isSplit, List.find?_append, notBefore, Option.none_or,
    List.find?_cons_of_pos (by simp [FieldReader.into])]

/-- The field of any other name has nothing to do with the place. -/
theorem apart_of_find?
    {key : String}
    (isOther : key ≠ name)
    {field : FieldReader σ}
    (found : fields.find? (fun field => field.name == key) = some field) :
    Apart get put field := by
  have named : field.name = key := by simpa using List.find?_some found
  have member := List.mem_of_find?_eq_some found
  rw [isSplit, List.mem_append, List.mem_cons] at member
  rcases member with earlier | rfl | later
  · exact (slot.apart field (List.mem_append_left _ earlier)).2
  · exact absurd named.symm isOther
  · exact (slot.apart field (List.mem_append_right _ later)).2

/-- An entry that comes after the place was filled leaves it as it is. -/
theorem readsEntry_put
    {key : String}
    {node : Node}
    {value : α}
    {next : σ}
    (entryRead : ReadsEntry fields source key node (put draft value) next) :
    ∃ base,
      next = put base value ∧
        ∀ value', ReadsEntry fields source key node (put draft value') (put base value') := by
  cases entryRead with
  | skipped unknown skipped =>
      exact ⟨draft, rfl, fun _ => .skipped unknown skipped⟩
  | read found isFirst read =>
      by_cases same : key = name
      · subst same
        obtain rfl := Option.some.inj ((slot.find?_eq isSplit).symm.trans found)
        simp [FieldReader.into, slot.get_put] at isFirst
      · have apart := slot.apart_of_find? isSplit same found
        rw [apart.read_put] at read
        obtain ⟨base, baseRead, rfl⟩ := map_eq_ok.mp read
        refine ⟨base, rfl, fun value' => .read found ?_ ?_⟩
        · rwa [apart.isRead_put] at isFirst ⊢
        · rw [apart.read_put, baseRead, Except.map_ok]

/-- Once the place is filled, the rest of the entries leaves it as it is. -/
theorem entriesInto_put
    {entries : List (Except Fault String × Node)}
    {value : α}
    {last : σ}
    (read : Reader.entriesInto fields source entries (put draft value) = .ok last) :
    ∃ base,
      last = put base value ∧
        ∀ value',
          Reader.entriesInto fields source entries (put draft value') = .ok (put base value') := by
  induction entries generalizing draft with
  | nil =>
      obtain rfl := Except.ok.inj read
      exact ⟨draft, rfl, fun _ => rfl⟩
  | cons entry rest inductionHypothesis =>
      obtain ⟨key, next, keyRead, entryRead, restRead⟩ := entriesInto_cons_eq_ok.mp read
      obtain ⟨middle, rfl, entryReads⟩ := slot.readsEntry_put isSplit entryRead
      obtain ⟨base, rfl, restReads⟩ := inductionHypothesis restRead
      refine ⟨base, rfl, fun value' => ?_⟩
      exact entriesInto_cons_eq_ok.mpr ⟨key, _, keyRead, entryReads value', restReads value'⟩

/-- An entry of another field does not fill the place. -/
theorem get_eq_of_readsEntry
    {key : String}
    (isOther : key ≠ name)
    {node : Node}
    {next : σ}
    (entryRead : ReadsEntry fields source key node draft next) :
    get next = get draft := by
  cases entryRead with
  | skipped =>
      rfl
  | read found isFirst read =>
      exact (slot.apart_of_find? isSplit isOther found).get_read read

/-- The entries of a record are read with one field altered. -/
theorem follows_entries
    (follows : reader.Follows edit change)
    (isFree : get draft = none) :
    Follows (fun entries => ∀ entry ∈ entries, entry.2.IsProper)
      (fun entries => ∀ entry ∈ entries, source.Fits entry.2)
      (fun entries => Reader.entriesInto fields source entries draft)
      (alterFirst? (alterContent? edit) (Node.hasKey name))
      (alterSlot? get put change) := by
  intro entries
  induction entries generalizing draft with
  | nil =>
      rintro _ changed - ⟨⟩ isChanged
      simp [alterSlot?, isFree] at isChanged
  | cons entry rest inductionHypothesis =>
      intro last changed proper read isChanged
      obtain ⟨nodeProper, restProper⟩ := List.forall_mem_cons.mp proper
      obtain ⟨key, next, keyRead, entryRead, restRead⟩ := entriesInto_cons_eq_ok.mp read
      obtain ⟨_, node⟩ := entry
      obtain rfl : _ = Except.ok key := keyRead
      by_cases same : key = name
      · subst same
        cases entryRead with
        | skipped unknown _ =>
            exact nomatch (slot.find?_eq isSplit).symm.trans unknown
        | read found isFirst fieldRead =>
            obtain rfl := Option.some.inj ((slot.find?_eq isSplit).symm.trans found)
            obtain ⟨value, valueRead, rfl⟩ := map_eq_ok.mp fieldRead
            obtain ⟨base, rfl, restReads⟩ := slot.entriesInto_put isSplit restRead
            rw [slot.alterSlot?_put] at isChanged
            obtain ⟨value', valueChanged, rfl⟩ := Option.map_eq_some_iff.mp isChanged
            obtain ⟨altered, edited, reads⟩ := follows source nodeProper valueRead valueChanged
            refine ⟨(.ok key, altered) :: rest, ?_, fun fits => ?_⟩
            · simp [alterFirst?, Node.hasKey, alterContent?, edited]
            · have alteredRead := congrArg (put draft <$> ·) (reads (fits _ List.mem_cons_self))
              exact
                entriesInto_cons_eq_ok.mpr
                  ⟨key, _, rfl, .read found isFirst alteredRead, restReads value'⟩
      · have isFree' := (slot.get_eq_of_readsEntry isSplit same entryRead).trans isFree
        obtain ⟨altered, edited, reads⟩ := inductionHypothesis isFree' restProper restRead isChanged
        refine ⟨(.ok key, node) :: altered, ?_, fun fits => ?_⟩
        · simp [alterFirst?, Node.hasKey, same, edited]
        · have alteredRead := reads fun other member => fits other (List.mem_cons_of_mem _ member)
          exact entriesInto_cons_eq_ok.mpr ⟨key, next, rfl, entryRead, alteredRead⟩

end Entries

/-- Items that come after the place was filled leave it as it is. -/
theorem itemsInto_put
    {fields : List (FieldReader σ)}
    (apart : ∀ field ∈ fields, Apart get put field)
    {index : Nat}
    {items left : List Node}
    {value : α}
    {last : σ}
    (read :
      Reader.itemsInto label source ending index fields items (put draft value) =
        .ok (last, left)) :
    ∃ base,
      last = put base value ∧
        ∀ value',
          Reader.itemsInto label source ending index fields items (put draft value') =
            .ok (put base value', left) := by
  induction fields generalizing index items draft with
  | nil =>
      obtain ⟨rfl, rfl⟩ := Prod.mk.inj (Except.ok.inj read)
      exact ⟨draft, rfl, fun _ => rfl⟩
  | cons field rest inductionHypothesis =>
      have restApart := fun other member => apart other (List.mem_cons_of_mem _ member)
      cases items with
      | nil =>
          obtain ⟨⟨⟩, closes, restRead⟩ := bind_eq_ok.mp read
          cases required : field.required with
          | true =>
              simp [required] at restRead
          | false =>
              simp only [required, Bool.false_eq_true, ↓reduceIte] at restRead
              obtain ⟨base, rfl, reads⟩ := inductionHypothesis restApart restRead
              refine ⟨base, rfl, fun value' => ?_⟩
              simp only [Reader.itemsInto, closes, ok_bind, required, Bool.false_eq_true,
                ↓reduceIte, reads value']
      | cons node items =>
          have fieldApart := apart field List.mem_cons_self
          obtain ⟨_, fieldRead, restRead⟩ := bind_eq_ok.mp read
          rw [fieldApart.read_put] at fieldRead
          obtain ⟨next, baseRead, rfl⟩ := map_eq_ok.mp fieldRead
          obtain ⟨base, rfl, reads⟩ := inductionHypothesis restApart restRead
          refine ⟨base, rfl, fun value' => ?_⟩
          rw [Reader.itemsInto, fieldApart.read_put, baseRead, Except.map_ok, ok_bind, reads value']

/-- Without items, nothing is put into a draft. -/
theorem itemsInto_nil
    {fields : List (FieldReader σ)}
    {index : Nat}
    {left : List Node}
    {last : σ}
    (read : Reader.itemsInto label source ending index fields [] draft = .ok (last, left)) :
    last = draft := by
  induction fields generalizing index with
  | nil =>
      exact (Prod.mk.inj (Except.ok.inj read)).1.symm
  | cons field rest inductionHypothesis =>
      obtain ⟨⟨⟩, -, restRead⟩ := bind_eq_ok.mp read
      cases required : field.required with
      | true =>
          simp [required] at restRead
      | false =>
          simp only [required, Bool.false_eq_true, ↓reduceIte] at restRead
          exact inductionHypothesis restRead

/-- The items of a record's array form are read with one field altered. -/
theorem exists_itemsInto_altered
    (slot : Slot name get put (before ++ after))
    (follows : reader.Follows edit change)
    (isFree : get draft = none)
    {index : Nat}
    {items left : List Node}
    (proper : ∀ item ∈ items, item.IsProper)
    {last changed : σ}
    (read :
      Reader.itemsInto label source ending index
          (before ++ .into name required get put reader :: after) items draft =
        .ok (last, left))
    (isChanged : alterSlot? get put change last = some changed) :
    ∃ altered,
      alterAt? edit before.length items = some altered ∧
        ((∀ item ∈ altered, source.Fits item) →
          Reader.itemsInto label source ending index
              (before ++ .into name required get put reader :: after) altered draft =
            .ok (changed, left)) := by
  induction before generalizing index items draft with
  | nil =>
      cases items with
      | nil =>
          obtain rfl := itemsInto_nil read
          simp [alterSlot?, isFree] at isChanged
      | cons node items =>
          obtain ⟨_, fieldRead, restRead⟩ := bind_eq_ok.mp read
          obtain ⟨value, valueRead, rfl⟩ := map_eq_ok.mp fieldRead
          obtain ⟨base, rfl, reads⟩ :=
            itemsInto_put (fun field member => (slot.apart field member).2) restRead
          rw [slot.alterSlot?_put] at isChanged
          obtain ⟨value', valueChanged, rfl⟩ := Option.map_eq_some_iff.mp isChanged
          obtain ⟨altered, edited, alteredReads⟩ :=
            follows source (proper _ List.mem_cons_self) valueRead valueChanged
          refine ⟨altered :: items, by simp [alterAt?, edited], fun fits => ?_⟩
          have alteredRead := alteredReads (fits _ List.mem_cons_self)
          have fieldRead := congrArg (put draft <$> ·) alteredRead
          exact bind_eq_ok.mpr ⟨_, fieldRead, reads value'⟩
  | cons field before inductionHypothesis =>
      have fieldApart := (slot.apart field List.mem_cons_self).2
      cases items with
      | nil =>
          obtain rfl := itemsInto_nil read
          simp [alterSlot?, isFree] at isChanged
      | cons node items =>
          obtain ⟨next, fieldRead, restRead⟩ := bind_eq_ok.mp read
          have isFree' := (fieldApart.get_read fieldRead).trans isFree
          have restApart := (List.forall_mem_cons.mp slot.apart).2
          have restSlot : Slot name get put (before ++ after) := { slot with apart := restApart }
          obtain ⟨altered, edited, reads⟩ :=
            inductionHypothesis restSlot isFree' (List.forall_mem_cons.mp proper).2 restRead
          refine ⟨node :: altered, by simp [alterAt?, edited], fun fits => ?_⟩
          rw [List.cons_append, Reader.itemsInto, fieldRead, ok_bind,
            reads fun other member => fits other (List.mem_cons_of_mem _ member)]

end Slot

/-- A record is read with one field altered, if its draft can be put together after that. -/
theorem Reader.follows_record
    {label name : String}
    {required : Bool}
    {get : σ → Option α}
    {put : σ → α → σ}
    {reader : Reader α}
    (before after : List (FieldReader σ))
    {start : σ}
    {finish : σ → Except Fault β}
    {edit : Node → Option Node}
    {change : α → Option α}
    {change' : β → Option β}
    (slot : Slot name get put (before ++ after))
    (isFree : get start = none)
    (finishFollows : AlwaysFollows finish (alterSlot? get put change) change')
    (follows : reader.Follows edit change) :
    (record label (before ++ .into name required get put reader :: after) start finish).Follows
      (Node.alterField? name before.length edit) change' := by
  intro source node value changed proper read isChanged
  cases node with
  | object entries ending =>
      obtain ⟨inner, descends, read⟩ := bind_eq_ok.mp read
      obtain ⟨draft, entriesRead, read⟩ := bind_eq_ok.mp read
      obtain ⟨⟨⟩, closes, finished⟩ := bind_eq_ok.mp read
      obtain ⟨changedDraft, draftChanged, finishes⟩ := finishFollows trivial finished isChanged
      obtain ⟨altered, edited, reads⟩ :=
        slot.follows_entries rfl follows isFree (Node.isProper_object.mp proper) entriesRead
          draftChanged
      refine ⟨.object altered ending, by rw [Node.alterField?, edited, Option.map_some], ?_⟩
      intro fits
      obtain ⟨_, descends', inside⟩ := fits.descend_object
      obtain rfl := Except.ok.inj (descends.symm.trans descends')
      simp only [record, descends, ok_bind, reads inside, closes, finishes trivial]
  | array items ending =>
      obtain ⟨inner, descends, read⟩ := bind_eq_ok.mp read
      obtain ⟨⟨draft, left⟩, itemsRead, read⟩ := bind_eq_ok.mp read
      obtain ⟨_, finished, read⟩ := bind_eq_ok.mp read
      obtain ⟨⟨⟩, closes, ⟨⟩⟩ := bind_eq_ok.mp read
      obtain ⟨changedDraft, draftChanged, finishes⟩ := finishFollows trivial finished isChanged
      obtain ⟨altered, edited, reads⟩ :=
        slot.exists_itemsInto_altered follows isFree (Node.isProper_array.mp proper) itemsRead
          draftChanged
      refine ⟨.array altered ending, by rw [Node.alterField?, edited, Option.map_some], ?_⟩
      intro fits
      obtain ⟨_, descends', inside⟩ := fits.descend_array
      obtain rfl := Except.ok.inj (descends.symm.trans descends')
      simp only [record, descends, ok_bind, reads inside, closes, finishes trivial]
      rfl
  | null | bool | number | text | cut =>
      exact absurd read (Node.mismatch_ne_ok _ _ _)

end FeatureFlags.Json
