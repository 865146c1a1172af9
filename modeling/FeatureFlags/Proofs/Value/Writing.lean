import FeatureFlags.Proofs.Table
import FeatureFlags.Value.Document

namespace FeatureFlags.Value

/-!
# Written values

The JSON trees that write a value, the entries of its objects in any order. Dates have
no trees of their own, because a text is read as a text; and among the numbers, only
integers are taken here.
-/

open FeatureFlags.Json (Tree)

mutual

/-- Whether a tree writes a value. -/
def WrittenAs : Value → Tree → Prop
  | .null, tree => tree = .null
  | .bool value, tree => tree = .bool value
  | .integer value, tree => tree = .integer value.toInt
  | .text value, tree => tree = .text value
  | .array items, tree => ∃ written, tree = .array written ∧ ItemsWrittenAs items written
  | .object entries, tree =>
      ∃ written arranged,
        tree = .object written ∧
          written.Perm arranged ∧
          EntriesWrittenAs entries arranged
  | .float _, _ => False
  | .dateTime _, _ => False

/-- Whether trees write the items of an array, one by one. -/
def ItemsWrittenAs : List Value → List Tree → Prop
  | [], [] => True
  | item :: rest, tree :: trees => WrittenAs item tree ∧ ItemsWrittenAs rest trees
  | _, _ => False

/-- Whether entries write the entries of an object, one by one. -/
def EntriesWrittenAs : List (String × Value) → List (String × Tree) → Prop
  | [], [] => True
  | (key, value) :: rest, (writtenKey, tree) :: trees =>
      writtenKey = key ∧ WrittenAs value tree ∧ EntriesWrittenAs rest trees
  | _, _ => False

end

theorem ofTreeEntries_eq_map (entries : List (String × Tree)) :
    ofTreeEntries entries = entries.map fun entry => (entry.1, ofTree entry.2) := by
  induction entries with
  | nil =>
      rfl
  | cons entry rest inductionHypothesis =>
      rw [ofTreeEntries, inductionHypothesis, List.map_cons]

/-- A signed word fits a signed word. -/
theorem fitsSigned_toInt (value : Int64) : Json.FitsSigned value.toInt :=
  ⟨value.le_toInt, Int.le_of_lt_add_one value.toInt_lt⟩

mutual

/-- Whatever writes a value is read as that value. -/
theorem ofTree_of_writtenAs
    (value : Value)
    {tree : Tree}
    (wellFormed : value.WellFormed)
    (written : value.WrittenAs tree) :
    ofTree tree = value := by
  match value with
  | .null | .bool _ | .text _ =>
      rw [WrittenAs] at written
      subst written
      rfl
  | .integer value =>
      rw [WrittenAs] at written
      subst written
      rw [ofTree, ofInteger, if_pos (fitsSigned_toInt value), Int64.ofInt_toInt]
  | .float _ | .dateTime _ =>
      rw [WrittenAs] at written
      exact written.elim
  | .array items =>
      rw [WrittenAs] at written
      obtain ⟨trees, rfl, itemsWritten⟩ := written
      rw [ofTree, ofTrees_of_writtenAs items wellFormed itemsWritten]
  | .object entries =>
      rw [WrittenAs] at written
      obtain ⟨trees, arranged, rfl, order, entriesWritten⟩ := written
      obtain ⟨increasing, entriesWellFormed⟩ := wellFormed
      have inOrder := ofTreeEntries_of_writtenAs entries entriesWellFormed entriesWritten
      have arrangedSo : (ofTreeEntries trees).Perm entries := by
        rw [← inOrder, ofTreeEntries_eq_map, ofTreeEntries_eq_map]
        exact order.map _
      rw [ofTree, ofTable, Table.entries_ofList_of_perm increasing arrangedSo]

theorem ofTrees_of_writtenAs
    (items : List Value)
    {trees : List Tree}
    (wellFormed : AllWellFormed items)
    (written : ItemsWrittenAs items trees) :
    ofTrees trees = items := by
  match items, trees, written with
  | [], [], _ =>
      rfl
  | item :: rest, tree :: trees, ⟨itemWritten, restWritten⟩ =>
      rw [ofTrees, ofTree_of_writtenAs item wellFormed.1 itemWritten,
        ofTrees_of_writtenAs rest wellFormed.2 restWritten]

theorem ofTreeEntries_of_writtenAs
    (entries : List (String × Value))
    {trees : List (String × Tree)}
    (wellFormed : EntriesWellFormed entries)
    (written : EntriesWrittenAs entries trees) :
    ofTreeEntries trees = entries := by
  match entries, trees, written with
  | [], [], _ =>
      rfl
  | (key, value) :: rest, (_, tree) :: trees, ⟨rfl, valueWritten, restWritten⟩ =>
      rw [ofTreeEntries, ofTree_of_writtenAs value wellFormed.1 valueWritten,
        ofTreeEntries_of_writtenAs rest wellFormed.2 restWritten]

end

end FeatureFlags.Value
