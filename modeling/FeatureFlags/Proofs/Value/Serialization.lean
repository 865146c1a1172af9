import FeatureFlags.Proofs.Json.Unambiguous
import FeatureFlags.Proofs.Value.RoundTrip

namespace FeatureFlags.Value

/-!
# Serialized values

Two values have the same compact text exactly if they are the same but for what JSON cannot
tell. So a text tells apart whatever JSON can tell apart, whatever keys and texts are in it.
-/

open FeatureFlags.Json (Tree)

mutual

/-- What JSON does not keep of a value is not in the tree of the value. -/
theorem toTree_normalized : (value : Value) → value.normalized.toTree = value.toTree
  | .null | .bool _ | .integer _ | .text _ | .dateTime _ =>
      rfl
  | .float value => by
      rw [normalized]
      split
      next =>
        rfl
      next noNumeral =>
        rw [toTree, toTree, if_neg noNumeral]
  | .array items => by
      rw [normalized, toTree, toTree, toTrees_normalizedItems items]
  | .object entries => by
      rw [normalized, toTree, toTree, toTreeEntries_normalizedEntries entries]

theorem toTrees_normalizedItems :
    (items : List Value) → toTrees (normalizedItems items) = toTrees items
  | [] =>
      rfl
  | item :: rest => by
      rw [normalizedItems, toTrees, toTrees, toTree_normalized item, toTrees_normalizedItems rest]

theorem toTreeEntries_normalizedEntries :
    (entries : List (String × Value)) →
      toTreeEntries (normalizedEntries entries) = toTreeEntries entries
  | [] =>
      rfl
  | (key, value) :: rest => by
      rw [normalizedEntries, toTreeEntries, toTreeEntries, toTree_normalized value,
        toTreeEntries_normalizedEntries rest]

end

/-- Values have the same tree exactly if JSON keeps the same of them. -/
theorem toTree_eq_iff {left right : Value} :
    left.toTree = right.toTree ↔ left.normalized = right.normalized := by
  constructor
  · intro same
    rw [← ofTreeInOrder_toTree, ← ofTreeInOrder_toTree, same]
  · intro same
    rw [← toTree_normalized left, ← toTree_normalized right, same]

mutual

/-- Only numbers that have a numeral are in the tree of a value. -/
theorem isFinite_toTree : (value : Value) → value.toTree.IsFinite
  | .null | .bool _ | .integer _ | .text _ | .dateTime _ =>
      trivial
  | .float value => by
      rw [toTree]
      split
      next finite =>
        exact finite
      next =>
        trivial
  | .array items =>
      itemsAreFinite_toTrees items
  | .object entries =>
      entriesAreFinite_toTreeEntries entries

theorem itemsAreFinite_toTrees : (items : List Value) → Tree.ItemsAreFinite (toTrees items)
  | [] =>
      trivial
  | item :: rest =>
      ⟨isFinite_toTree item, itemsAreFinite_toTrees rest⟩

theorem entriesAreFinite_toTreeEntries :
    (entries : List (String × Value)) → Tree.EntriesAreFinite (toTreeEntries entries)
  | [] =>
      trivial
  | (_, value) :: rest =>
      ⟨isFinite_toTree value, entriesAreFinite_toTreeEntries rest⟩

end

/-! ## Tables of values -/

/-- A table with what JSON keeps of its values. -/
def normalizedTable (table : Table Value) : Table Value :=
  table.map fun _ value => value.normalized

theorem normalizedEntries_eq_map (entries : List (String × Value)) :
    normalizedEntries entries = entries.map fun entry => (entry.1, entry.2.normalized) := by
  induction entries with
  | nil =>
      rfl
  | cons entry rest inductionHypothesis =>
      rw [normalizedEntries, inductionHypothesis, List.map_cons]

theorem entries_normalizedTable (table : Table Value) :
    (normalizedTable table).entries = normalizedEntries table.entries :=
  (normalizedEntries_eq_map table.entries).symm

/-- Tables are written as the same object exactly if JSON keeps the same of them. -/
theorem toTree_ofTable_eq_iff {left right : Table Value} :
    (ofTable left).toTree = (ofTable right).toTree ↔
      normalizedTable left = normalizedTable right := by
  rw [toTree_eq_iff, ofTable, ofTable, normalized, normalized, ← entries_normalizedTable,
    ← entries_normalizedTable, object.injEq]
  exact ⟨Table.eq_of_entries, congrArg Table.entries⟩

@[simp] theorem isEmpty_normalizedTable (table : Table Value) :
    (normalizedTable table).isEmpty = table.isEmpty := by
  simp [normalizedTable, Table.map, Table.isEmpty]

end FeatureFlags.Value
