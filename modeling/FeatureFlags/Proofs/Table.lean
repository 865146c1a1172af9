import FeatureFlags.Table

namespace FeatureFlags

/-!
# Looking into tables

What the operations on tables do to the values of keys. Because the keys of a
table increase, a key has at most one entry, and looking a key up is the same as
finding its entry.
-/

private theorem lookup_cons_if
    (key head : String)
    (value : α)
    (rest : List (String × α)) :
    ((head, value) :: rest).lookup key =
      if key = head then some value else rest.lookup key := by
  by_cases atHead : key = head
  · simp [atHead]
  · have test : (key == head) = false := beq_eq_false_iff_ne.mpr atHead
    simp [List.lookup_cons, test, atHead]

/-- An insertion changes the value of one key and of no other. -/
theorem lookup_insertEntry
    (key other : String)
    (value : α)
    (entries : List (String × α)) :
    (insertEntry key value entries).lookup other =
      if other = key then some value else entries.lookup other := by
  induction entries with
  | nil =>
      exact lookup_cons_if other key value []
  | cons head rest inductionHypothesis =>
      obtain ⟨headKey, headValue⟩ := head
      unfold insertEntry
      split
      · exact lookup_cons_if other key value _
      · split
        · rename_i replaced
          simp only at replaced
          subst headKey
          rw [lookup_cons_if, lookup_cons_if]
          by_cases same : other = key <;> simp [same]
        · rename_i different
          rw [lookup_cons_if, lookup_cons_if, inductionHypothesis]
          by_cases atHead : other = headKey
          · have notKey : other ≠ key := fun same =>
              different (same.symm.trans atHead)
            simp [atHead, atHead ▸ notKey]
          · simp [atHead]

/-- The value that a list of entries with increasing keys gives a key is that of its entry. -/
theorem lookup_eq_some_iff_mem
    {entries : List (String × α)}
    (increasing : KeysIncrease entries)
    {key : String}
    {value : α} :
    entries.lookup key = some value ↔ (key, value) ∈ entries := by
  induction entries with
  | nil =>
      simp
  | cons head rest inductionHypothesis =>
      obtain ⟨headKey, headValue⟩ := head
      obtain ⟨headBelow, restIncreasing⟩ := List.pairwise_cons.mp increasing
      rw [lookup_cons_if, List.mem_cons]
      by_cases atHead : key = headKey
      · subst headKey
        have notLater : (key, value) ∉ rest := fun later =>
          String.lt_irrefl key (headBelow _ later)
        simp [notLater, eq_comm]
      · simp [atHead, inductionHypothesis restIncreasing]

theorem keysIncrease_iff_pairwise (entries : List (String × α)) :
    KeysIncrease entries ↔ (entries.map (·.1)).Pairwise (· < ·) :=
  List.pairwise_map.symm

/-- Whether keys increase is decided by the keys, and not by what stands beside them. -/
theorem keysIncrease_iff_of_keys
    {entries : List (String × α)}
    {others : List (String × β)}
    (sameKeys : entries.map (·.1) = others.map (·.1)) :
    KeysIncrease entries ↔ KeysIncrease others := by
  rw [keysIncrease_iff_pairwise, keysIncrease_iff_pairwise, sameKeys]

namespace Table

/-- Tables with the same entries are the same. -/
theorem eq_of_entries
    {left right : Table α}
    (same : left.entries = right.entries) :
    left = right := by
  cases left
  cases right
  cases same
  rfl

/-- A table gives a key the value of its entry. -/
theorem get?_eq_some_iff
    {table : Table α}
    {key : String}
    {value : α} :
    table.get? key = some value ↔ (key, value) ∈ table.entries :=
  lookup_eq_some_iff_mem table.increasing

/-- Setting the value of a key changes no other key. -/
theorem get?_insert
    (table : Table α)
    (key other : String)
    (value : α) :
    (table.insert key value).get? other =
      if other = key then some value else table.get? other :=
  lookup_insertEntry key other value table.entries

@[simp] theorem get?_insert_self
    (table : Table α)
    (key : String)
    (value : α) :
    (table.insert key value).get? key = some value := by
  simp [get?_insert]

/-- A filtered table has the kept entries of the table. -/
theorem get?_filter_eq_some_iff
    {table : Table α}
    {keep : String → α → Bool}
    {key : String}
    {value : α} :
    (table.filter keep).get? key = some value ↔
      table.get? key = some value ∧ keep key value = true := by
  rw [get?_eq_some_iff, get?_eq_some_iff]
  simp [filter]

/-- A function that is applied to every value changes the value of each key. -/
theorem get?_map
    (f : String → α → β)
    (table : Table α)
    (key : String) :
    (table.map f).get? key = (table.get? key).map (f key) := by
  obtain ⟨entries, increasing⟩ := table
  simp only [get?, map]
  clear increasing
  induction entries with
  | nil =>
      rfl
  | cons head rest inductionHypothesis =>
      obtain ⟨headKey, headValue⟩ := head
      rw [List.map_cons, lookup_cons_if, lookup_cons_if, inductionHypothesis]
      by_cases atHead : key = headKey
      · simp [atHead]
      · simp [atHead]

/-- After entries have been set in turn, the last entry of a key counts, if it has one. -/
theorem get?_insertAll
    (table : Table α)
    (entries : List (String × α))
    (key : String) :
    (table.insertAll entries).get? key =
      ((entries.filter (·.1 = key)).getLast?.map (·.2)).or (table.get? key) := by
  induction entries generalizing table with
  | nil =>
      rfl
  | cons entry rest inductionHypothesis =>
      have first :
          table.insertAll (entry :: rest) = (table.insert entry.1 entry.2).insertAll rest := rfl
      rw [first, inductionHypothesis, get?_insert]
      by_cases same : entry.1 = key
      · cases last : (rest.filter (·.1 = key)).getLast? <;>
          simp [same, last, List.getLast?_cons]
      · simp [same, Ne.symm same]

/-- In the table of a list of entries, a key has the value of its last entry. -/
theorem get?_ofList
    (entries : List (String × α))
    (key : String) :
    (ofList entries).get? key = (entries.filter (·.1 = key)).getLast?.map (·.2) :=
  (get?_insertAll empty entries key).trans (Option.or_none)

/-- No entry stands twice among entries with increasing keys. -/
theorem nodup_of_keysIncrease
    {entries : List (String × α)}
    (increasing : KeysIncrease entries) :
    entries.Nodup := by
  refine increasing.imp ?_
  rintro first _ below rfl
  exact String.lt_irrefl _ below

/-- Entries of different keys make the same table in any order. -/
theorem entries_ofList_of_perm
    {arranged entries : List (String × α)}
    (increasing : KeysIncrease entries)
    (same : arranged.Perm entries) :
    (ofList arranged).entries = entries := by
  have members : ∀ entry, entry ∈ (ofList arranged).entries ↔ entry ∈ entries := by
    rintro ⟨key, value⟩
    rw [← get?_eq_some_iff, get?_ofList, Option.map_eq_some_iff]
    constructor
    · rintro ⟨⟨_, _⟩, last, rfl⟩
      have member := List.mem_of_getLast? last
      simp only [List.mem_filter, decide_eq_true_eq] at member
      exact member.2 ▸ same.mem_iff.mp member.1
    · intro member
      have held : (key, value) ∈ arranged.filter (·.1 = key) := by
        simpa using same.mem_iff.mpr member
      -- The last entry of the key is its only one.
      obtain ⟨⟨other, last⟩, isLast⟩ :=
        Option.isSome_iff_exists.mp (List.getLast?_isSome.mpr (List.ne_nil_of_mem held))
      have lastMember := List.mem_of_getLast? isLast
      simp only [List.mem_filter, decide_eq_true_eq] at lastMember
      obtain ⟨lastHeld, rfl⟩ := lastMember
      have found := (lookup_eq_some_iff_mem increasing).mpr member
      have lastFound := (lookup_eq_some_iff_mem increasing).mpr (same.mem_iff.mp lastHeld)
      exact ⟨(other, last), isLast, Option.some.inj (lastFound.symm.trans found)⟩
  have perm :=
    (List.perm_ext_iff_of_nodup (nodup_of_keysIncrease (ofList arranged).increasing)
        (nodup_of_keysIncrease increasing)).mpr members
  refine perm.eq_of_pairwise ?_ (ofList arranged).increasing increasing
  intro first second _ _ below above
  exact absurd (String.lt_trans below above) (String.lt_irrefl _)

/-- A table is the table of its own entries. -/
@[simp] theorem ofList_entries (table : Table α) : ofList table.entries = table :=
  eq_of_entries (entries_ofList_of_perm table.increasing (.refl _))

/-- Tables that give every key the same value are the same. -/
theorem eq_of_get?
    {left right : Table α}
    (same : ∀ key, left.get? key = right.get? key) :
    left = right := by
  have members : ∀ entry, entry ∈ left.entries ↔ entry ∈ right.entries := by
    rintro ⟨key, value⟩
    rw [← get?_eq_some_iff, ← get?_eq_some_iff, same]
  have arranged : left.entries.Perm right.entries :=
    (List.perm_ext_iff_of_nodup (nodup_of_keysIncrease left.increasing)
        (nodup_of_keysIncrease right.increasing)).mpr members
  rw [← ofList_entries left]
  exact eq_of_entries (entries_ofList_of_perm right.increasing arranged)

end Table

end FeatureFlags
