import FeatureFlags.Proofs.Json.Writing
import FeatureFlags.Proofs.Value.Writing

namespace FeatureFlags.Value

/-!
# Values through JSON

A value that is written as JSON and read again is the same value, but for what JSON cannot
tell: a date has become its text, and a number without a numeral has become null. The
compact text loses no more than the tree, as long as there are no fractional numbers in it
and its brackets are not nested too deep.
-/

open FeatureFlags.Json (FitsSigned Node Tree nestingLimit)

/-! ## What JSON keeps of a value -/

mutual

/-- The value with its dates as texts, and with null for numbers that have no numeral. -/
def normalized : Value → Value
  | .float value => if value.isFinite then .float value else .null
  | .dateTime value => .text value.toText
  | .array items => .array (normalizedItems items)
  | .object entries => .object (normalizedEntries entries)
  | value => value

/-- Items with their dates as texts, and with null for numbers that have no numeral. -/
def normalizedItems : List Value → List Value
  | [] => []
  | item :: rest => normalized item :: normalizedItems rest

/-- Entries with such values. -/
def normalizedEntries : List (String × Value) → List (String × Value)
  | [] => []
  | (key, value) :: rest => (key, normalized value) :: normalizedEntries rest

end

mutual

/-- Whether no fractional number, infinity or `nan` is in a value. -/
def HasNoFloat : Value → Prop
  | .float _ => False
  | .array items => ItemsHaveNoFloat items
  | .object entries => EntriesHaveNoFloat entries
  | _ => True

/-- Whether none is in some items. -/
def ItemsHaveNoFloat : List Value → Prop
  | [] => True
  | item :: rest => HasNoFloat item ∧ ItemsHaveNoFloat rest

/-- Whether none is in some entries. -/
def EntriesHaveNoFloat : List (String × Value) → Prop
  | [] => True
  | (_, value) :: rest => HasNoFloat value ∧ EntriesHaveNoFloat rest

end

mutual

/-- How deep the brackets of a value are nested. -/
def depth : Value → Nat
  | .array items => depthOfItems items + 1
  | .object entries => depthOfEntries entries + 1
  | _ => 0

/-- How deep the brackets of the deepest item are nested. -/
def depthOfItems : List Value → Nat
  | [] => 0
  | item :: rest => max (depth item) (depthOfItems rest)

/-- How deep the brackets of the deepest entry are nested. -/
def depthOfEntries : List (String × Value) → Nat
  | [] => 0
  | (_, value) :: rest => max (depth value) (depthOfEntries rest)

end

/-! ## Trees of values -/

mutual

/--
Whether a tree may be that of a value: its integers fit a signed word, its other numbers
are finite, and the entries of its objects stand in the order of their keys.
-/
def IsTree : Tree → Prop
  | .integer value => FitsSigned value
  | .float value => value.isFinite = true
  | .array items => AreTrees items
  | .object entries => KeysIncrease entries ∧ AreTreeEntries entries
  | _ => True

/-- Whether trees may be those of items. -/
def AreTrees : List Tree → Prop
  | [] => True
  | item :: rest => IsTree item ∧ AreTrees rest

/-- Whether entries may be those of an object. -/
def AreTreeEntries : List (String × Tree) → Prop
  | [] => True
  | (_, value) :: rest => IsTree value ∧ AreTreeEntries rest

end

mutual

/-- The value of a tree, its entries in the order in which they stand. -/
def ofTreeInOrder : Tree → Value
  | .null => .null
  | .bool value => .bool value
  | .integer value => .integer (Int64.ofInt value)
  | .float value => .float value
  | .text value => .text value
  | .array items => .array (ofTreesInOrder items)
  | .object entries => .object (ofTreeEntriesInOrder entries)

/-- The values of trees. -/
def ofTreesInOrder : List Tree → List Value
  | [] => []
  | item :: rest => ofTreeInOrder item :: ofTreesInOrder rest

/-- The values of entries. -/
def ofTreeEntriesInOrder : List (String × Tree) → List (String × Value)
  | [] => []
  | (key, value) :: rest => (key, ofTreeInOrder value) :: ofTreeEntriesInOrder rest

end

theorem keys_toTreeEntries (entries : List (String × Value)) :
    (toTreeEntries entries).map (·.1) = entries.map (·.1) := by
  induction entries with
  | nil =>
      rfl
  | cons entry rest inductionHypothesis =>
      rw [toTreeEntries, List.map_cons, List.map_cons, inductionHypothesis]

theorem keys_ofTreeEntriesInOrder (entries : List (String × Tree)) :
    (ofTreeEntriesInOrder entries).map (·.1) = entries.map (·.1) := by
  induction entries with
  | nil =>
      rfl
  | cons entry rest inductionHypothesis =>
      rw [ofTreeEntriesInOrder, List.map_cons, List.map_cons, inductionHypothesis]

mutual

/-- The tree of a value is one. -/
theorem isTree_toTree
    (value : Value)
    (wellFormed : value.WellFormed) :
    IsTree value.toTree := by
  match value with
  | .null | .bool _ | .text _ | .dateTime _ =>
      trivial
  | .integer value =>
      exact fitsSigned_toInt value
  | .float value =>
      rw [toTree]
      split
      next finite =>
        exact finite
      next =>
        trivial
  | .array items =>
      exact areTrees_toTrees items wellFormed
  | .object entries =>
      exact
        ⟨(keysIncrease_iff_of_keys (keys_toTreeEntries entries)).mpr wellFormed.1,
          areTreeEntries_toTreeEntries entries wellFormed.2⟩

theorem areTrees_toTrees
    (items : List Value)
    (wellFormed : AllWellFormed items) :
    AreTrees (toTrees items) := by
  match items with
  | [] =>
      trivial
  | item :: rest =>
      exact ⟨isTree_toTree item wellFormed.1, areTrees_toTrees rest wellFormed.2⟩

theorem areTreeEntries_toTreeEntries
    (entries : List (String × Value))
    (wellFormed : EntriesWellFormed entries) :
    AreTreeEntries (toTreeEntries entries) := by
  match entries with
  | [] =>
      trivial
  | (key, value) :: rest =>
      exact ⟨isTree_toTree value wellFormed.1, areTreeEntries_toTreeEntries rest wellFormed.2⟩

end

mutual

/-- Made of the tree of a value, in order, is what JSON keeps of the value. -/
theorem ofTreeInOrder_toTree : (value : Value) → ofTreeInOrder value.toTree = value.normalized
  | .null | .bool _ | .text _ | .dateTime _ =>
      rfl
  | .integer value =>
      congrArg Value.integer (Int64.ofInt_toInt value)
  | .float value => by
      rw [toTree, normalized]
      split <;> rfl
  | .array items => by
      rw [toTree, ofTreeInOrder, normalized, ofTreesInOrder_toTrees items]
  | .object entries => by
      rw [toTree, ofTreeInOrder, normalized, ofTreeEntriesInOrder_toTreeEntries entries]

theorem ofTreesInOrder_toTrees :
    (items : List Value) → ofTreesInOrder (toTrees items) = normalizedItems items
  | [] =>
      rfl
  | item :: rest => by
      rw [toTrees, ofTreesInOrder, normalizedItems, ofTreeInOrder_toTree item,
        ofTreesInOrder_toTrees rest]

theorem ofTreeEntriesInOrder_toTreeEntries :
    (entries : List (String × Value)) →
      ofTreeEntriesInOrder (toTreeEntries entries) = normalizedEntries entries
  | [] =>
      rfl
  | (key, value) :: rest => by
      rw [toTreeEntries, ofTreeEntriesInOrder, normalizedEntries, ofTreeInOrder_toTree value,
        ofTreeEntriesInOrder_toTreeEntries rest]

end

mutual

/-- The value that is made of a tree, in order, has that tree. -/
theorem toTree_ofTreeInOrder
    (tree : Tree)
    (isTree : IsTree tree) :
    (ofTreeInOrder tree).toTree = tree := by
  match tree with
  | .null | .bool _ | .text _ =>
      rfl
  | .integer value =>
      rw [ofTreeInOrder, toTree, Int64.toInt_ofInt_of_le isTree.1 (Int.lt_add_one_of_le isTree.2)]
  | .float value =>
      rw [IsTree] at isTree
      rw [ofTreeInOrder, toTree, if_pos isTree]
  | .array items =>
      rw [ofTreeInOrder, toTree, toTrees_ofTreesInOrder items isTree]
  | .object entries =>
      rw [ofTreeInOrder, toTree, toTreeEntries_ofTreeEntriesInOrder entries isTree.2]

theorem toTrees_ofTreesInOrder
    (items : List Tree)
    (areTrees : AreTrees items) :
    toTrees (ofTreesInOrder items) = items := by
  match items with
  | [] =>
      rfl
  | item :: rest =>
      rw [ofTreesInOrder, toTrees, toTree_ofTreeInOrder item areTrees.1,
        toTrees_ofTreesInOrder rest areTrees.2]

theorem toTreeEntries_ofTreeEntriesInOrder
    (entries : List (String × Tree))
    (areTrees : AreTreeEntries entries) :
    toTreeEntries (ofTreeEntriesInOrder entries) = entries := by
  match entries with
  | [] =>
      rfl
  | (key, value) :: rest =>
      rw [ofTreeEntriesInOrder, toTreeEntries, toTree_ofTreeInOrder value areTrees.1,
        toTreeEntries_ofTreeEntriesInOrder rest areTrees.2]

end

mutual

/-- Where the keys increase already, putting entries into a table leaves them in their order. -/
theorem ofTree_eq_inOrder
    (tree : Tree)
    (isTree : IsTree tree) :
    ofTree tree = ofTreeInOrder tree := by
  match tree with
  | .null | .bool _ | .float _ | .text _ =>
      rfl
  | .integer value =>
      rw [IsTree] at isTree
      rw [ofTree, ofInteger, if_pos isTree, ofTreeInOrder]
  | .array items =>
      rw [ofTree, ofTreeInOrder, ofTrees_eq_inOrder items isTree]
  | .object entries =>
      have increasing : KeysIncrease (ofTreeEntriesInOrder entries) :=
        (keysIncrease_iff_of_keys (keys_ofTreeEntriesInOrder entries)).mpr isTree.1
      rw [ofTree, ofTreeInOrder, ofTable, ofTreeEntries_eq_inOrder entries isTree.2,
        Table.entries_ofList_of_perm increasing (List.Perm.refl _)]

theorem ofTrees_eq_inOrder
    (items : List Tree)
    (areTrees : AreTrees items) :
    ofTrees items = ofTreesInOrder items := by
  match items with
  | [] =>
      rfl
  | item :: rest =>
      rw [ofTrees, ofTreesInOrder, ofTree_eq_inOrder item areTrees.1,
        ofTrees_eq_inOrder rest areTrees.2]

theorem ofTreeEntries_eq_inOrder
    (entries : List (String × Tree))
    (areTrees : AreTreeEntries entries) :
    ofTreeEntries entries = ofTreeEntriesInOrder entries := by
  match entries with
  | [] =>
      rfl
  | (key, value) :: rest =>
      rw [ofTreeEntries, ofTreeEntriesInOrder, ofTree_eq_inOrder value areTrees.1,
        ofTreeEntries_eq_inOrder rest areTrees.2]

end

/-- Read from its tree, a value is what JSON keeps of it. -/
theorem ofTree_toTree
    {value : Value}
    (wellFormed : value.WellFormed) :
    ofTree value.toTree = value.normalized := by
  rw [ofTree_eq_inOrder _ (isTree_toTree value wellFormed), ofTreeInOrder_toTree]

/-- Written as a tree, what is read from a tree is that tree. -/
theorem toTree_ofTree
    {tree : Tree}
    (isTree : IsTree tree) :
    (ofTree tree).toTree = tree := by
  rw [ofTree_eq_inOrder tree isTree, toTree_ofTreeInOrder tree isTree]

/-! ## Texts of values -/

mutual

/-- Without fractional numbers in it, a value is written with integers that fit a word. -/
theorem isIntegral_toTree
    (value : Value)
    (noFloat : value.HasNoFloat) :
    value.toTree.IsIntegral := by
  match value with
  | .null | .bool _ | .text _ | .dateTime _ =>
      trivial
  | .integer value =>
      exact fitsSigned_toInt value
  | .float _ =>
      exact noFloat.elim
  | .array items =>
      exact itemsAreIntegral_toTrees items noFloat
  | .object entries =>
      exact entriesAreIntegral_toTreeEntries entries noFloat

theorem itemsAreIntegral_toTrees
    (items : List Value)
    (noFloat : ItemsHaveNoFloat items) :
    Tree.ItemsAreIntegral (toTrees items) := by
  match items with
  | [] =>
      trivial
  | item :: rest =>
      exact ⟨isIntegral_toTree item noFloat.1, itemsAreIntegral_toTrees rest noFloat.2⟩

theorem entriesAreIntegral_toTreeEntries
    (entries : List (String × Value))
    (noFloat : EntriesHaveNoFloat entries) :
    Tree.EntriesAreIntegral (toTreeEntries entries) := by
  match entries with
  | [] =>
      trivial
  | (_, value) :: rest =>
      exact ⟨isIntegral_toTree value noFloat.1, entriesAreIntegral_toTreeEntries rest noFloat.2⟩

end

mutual

/-- The tree of a value has the brackets of the value. -/
theorem depth_toTree : (value : Value) → (Node.ofTree value.toTree).depth = value.depth
  | .null | .bool _ | .integer _ | .text _ | .dateTime _ =>
      rfl
  | .float value => by
      rw [toTree]
      split <;> rfl
  | .array items => by
      rw [toTree, Node.ofTree, Node.depth, depth, depthOfItems_toTrees items]
  | .object entries => by
      rw [toTree, Node.ofTree, Node.depth, depth, depthOfEntries_toTreeEntries entries]

theorem depthOfItems_toTrees :
    (items : List Value) → Node.depthOfItems (Node.ofTrees (toTrees items)) = depthOfItems items
  | [] =>
      rfl
  | item :: rest => by
      rw [toTrees, Node.ofTrees, Node.depthOfItems, depthOfItems, depth_toTree item,
        depthOfItems_toTrees rest]

theorem depthOfEntries_toTreeEntries :
    (entries : List (String × Value)) →
      Node.depthOfEntries (Node.ofEntries (toTreeEntries entries)) = depthOfEntries entries
  | [] =>
      rfl
  | (key, value) :: rest => by
      rw [toTreeEntries, Node.ofEntries, Node.depthOfEntries, depthOfEntries, depth_toTree value,
        depthOfEntries_toTreeEntries rest]

end

/-- Read from its compact text, a value is what JSON keeps of it. -/
theorem ofJsonText_serialize
    {value : Value}
    (wellFormed : value.WellFormed)
    (noFloat : value.HasNoFloat)
    (shallow : value.depth ≤ nestingLimit) :
    ofJsonText value.serialize = .ok value.normalized := by
  have read : Tree.ofText value.toTree.toText = .ok value.toTree :=
    Tree.ofText_toText (isIntegral_toTree value noFloat) (depth_toTree value ▸ shallow)
  rw [ofJsonText, serialize, read, ← ofTree_toTree wellFormed]
  rfl

/--
A value goes through a JSON tree, and through the compact text, without any other loss than
that of dates and of numbers without numerals; and a tree whose integers fit a signed word
goes through a value without any loss.
-/
theorem json_roundTrip :
    (∀ value : Value, value.WellFormed → ofTree value.toTree = value.normalized) ∧
      (∀ tree : Tree, IsTree tree → (ofTree tree).toTree = tree) ∧
      ∀ value : Value,
        value.WellFormed →
        value.HasNoFloat →
        value.depth ≤ nestingLimit →
        ofJsonText value.serialize = .ok value.normalized :=
  ⟨fun _ => ofTree_toTree, fun _ => toTree_ofTree, fun _ => ofJsonText_serialize⟩

/--
A date and a `nan` inside a list are what is lost of it, a whole number that is written as a
fractional one stays so, and a key that has to be escaped is read back.
-/
theorem json_roundTrip_nested :
    let dated : Value := .array [.dateTime ⟨0, 0⟩, .float .nan, .integer (-1)]
    let tree : Tree := .object [("a", .float (.ofNat 1)), ("b", .array [.integer 1, .null])]
    let keyed : Value := .object [("\n\"", .dateTime ⟨0, 0⟩), ("é", .array [.integer (-1)])]
    ofTree dated.toTree = .array [.text "1970-01-01T00:00:00Z", .null, .integer (-1)] ∧
      (ofTree tree).toTree = tree ∧
      keyed.serialize = "\x7b\"\\n\\\"\":\"1970-01-01T00:00:00Z\",\"é\":[-1]\x7d" ∧
      ofJsonText keyed.serialize =
        .ok (.object [("\n\"", .text "1970-01-01T00:00:00Z"), ("é", .array [.integer (-1)])]) := by
  intro dated tree keyed
  obtain ⟨throughTree, throughValue, throughText⟩ := json_roundTrip
  have treeIsTree : IsTree tree := by
    have fits : FitsSigned 1 := by decide
    have increase : "a" < "b" := by decide
    exact ⟨List.pairwise_pair.mpr increase, rfl, ⟨fits, trivial, trivial⟩, trivial⟩
  have keyedWellFormed : keyed.WellFormed := by
    have increase : "\n\"" < "é" := by decide
    exact ⟨List.pairwise_pair.mpr increase, trivial, ⟨trivial, trivial⟩, trivial⟩
  refine ⟨(throughTree dated ?_).trans rfl, throughValue tree treeIsTree, rfl,
    (throughText keyed keyedWellFormed ?_ (by decide)).trans rfl⟩
  · simp [dated, WellFormed, AllWellFormed]
  · simp [keyed, HasNoFloat, EntriesHaveNoFloat, ItemsHaveNoFloat]

end FeatureFlags.Value
