namespace FeatureFlags

/-!
# Tables

Finite maps from text to values as lists of entries with strictly increasing
keys. The order of the keys is the order of code points, and two tables with the
same content are equal.
-/

/-- Insert or replace the entry of a key in a list of entries. -/
def insertEntry
    (key : String)
    (value : α) :
    List (String × α) → List (String × α)
  | [] => [(key, value)]
  | entry :: rest =>
      if key < entry.1 then
        (key, value) :: entry :: rest
      else if key = entry.1 then
        (key, value) :: rest
      else
        entry :: insertEntry key value rest

/-- Strictly increasing keys. -/
def KeysIncrease (entries : List (String × α)) : Prop :=
  entries.Pairwise fun earlier later => earlier.1 < later.1

private theorem key_lt_of_not_lt_of_ne
    {left right : String}
    (notBelow : ¬ left < right)
    (different : left ≠ right) :
    right < left := by
  have atLeast : right ≤ left := String.not_lt.mp notBelow
  by_cases below : right < left
  · exact below
  · exact absurd (String.le_antisymm (String.not_lt.mp below) atLeast) different

/-- The keys after an insertion are the inserted one and the old ones. -/
theorem mem_insertEntry
    {key : String}
    {value : α}
    {entries : List (String × α)}
    {entry : String × α}
    (member : entry ∈ insertEntry key value entries) :
    entry = (key, value) ∨ entry ∈ entries := by
  induction entries with
  | nil => simpa [insertEntry] using member
  | cons head rest inductionHypothesis =>
      unfold insertEntry at member
      split at member
      · simpa using member
      · split at member
        · rcases List.mem_cons.mp member with new | old
          · exact .inl new
          · exact .inr (List.mem_cons_of_mem _ old)
        · rcases List.mem_cons.mp member with same | deeper
          · exact .inr (same ▸ List.mem_cons_self)
          · rcases inductionHypothesis deeper with new | old
            · exact .inl new
            · exact .inr (List.mem_cons_of_mem _ old)

/-- Insertion keeps the keys increasing. -/
theorem keysIncrease_insertEntry
    (key : String)
    (value : α)
    {entries : List (String × α)}
    (increasing : KeysIncrease entries) :
    KeysIncrease (insertEntry key value entries) := by
  induction entries with
  | nil => simp [insertEntry, KeysIncrease]
  | cons head rest inductionHypothesis =>
      obtain ⟨headBelow, restIncreasing⟩ := List.pairwise_cons.mp increasing
      unfold insertEntry
      split
      · rename_i below
        refine List.pairwise_cons.mpr ⟨?_, increasing⟩
        intro entry member
        rcases List.mem_cons.mp member with rfl | later
        · exact below
        · exact String.lt_trans below (headBelow entry later)
      · rename_i notBelow
        split
        · rename_i same
          exact List.pairwise_cons.mpr
            ⟨fun entry member => same ▸ headBelow entry member, restIncreasing⟩
        · rename_i different
          refine List.pairwise_cons.mpr ⟨?_, inductionHypothesis restIncreasing⟩
          intro entry member
          rcases mem_insertEntry member with rfl | old
          · exact key_lt_of_not_lt_of_ne notBelow different
          · exact headBelow entry old

/-- A finite map with text keys. -/
structure Table (α : Type u) where
  entries : List (String × α)
  increasing : KeysIncrease entries

namespace Table

/-- The table without entries. -/
def empty : Table α := ⟨[], List.Pairwise.nil⟩

instance : Inhabited (Table α) := ⟨empty⟩

instance : EmptyCollection (Table α) := ⟨empty⟩

/-- Set the value of a key. -/
def insert
    (table : Table α)
    (key : String)
    (value : α) :
    Table α :=
  ⟨insertEntry key value table.entries, keysIncrease_insertEntry key value table.increasing⟩

/-- The value of a key, if the table has one. -/
def get?
    (table : Table α)
    (key : String) :
    Option α :=
  table.entries.lookup key

/-- Whether a key has a value. -/
def contains
    (table : Table α)
    (key : String) :
    Bool :=
  (table.get? key).isSome

/-- The number of entries. -/
def size (table : Table α) : Nat :=
  table.entries.length

/-- Whether the table has no entries. -/
def isEmpty (table : Table α) : Bool :=
  table.entries.isEmpty

/-- The keys in their order. -/
def keys (table : Table α) : List String :=
  table.entries.map (·.1)

/-- The values in the order of their keys. -/
def values (table : Table α) : List α :=
  table.entries.map (·.2)

/-- Set the values of all entries of a list, one after the other. -/
def insertAll
    (table : Table α)
    (entries : List (String × α)) :
    Table α :=
  entries.foldl (fun current entry => current.insert entry.1 entry.2) table

/-- The table of a list of entries, the last entry of a key counting. -/
def ofList (entries : List (String × α)) : Table α :=
  empty.insertAll entries

/-- Keep the entries that satisfy a condition. -/
def filter
    (table : Table α)
    (keep : String → α → Bool) :
    Table α :=
  ⟨table.entries.filter fun entry => keep entry.1 entry.2,
    List.Pairwise.filter _ table.increasing⟩

/-- Apply a function to every value. -/
def map
    (f : String → α → β)
    (table : Table α) :
    Table β :=
  ⟨table.entries.map fun entry => (entry.1, f entry.1 entry.2),
    by simpa [KeysIncrease, List.pairwise_map] using table.increasing⟩

end Table

end FeatureFlags
