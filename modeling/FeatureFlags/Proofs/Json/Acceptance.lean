import FeatureFlags.Json.Shape
import FeatureFlags.Proofs.Json.Spelling

namespace FeatureFlags.Json

/-!
# Acceptance of values

A reader goes into a value only so deep, and has to get past whatever it does not want.
The limit matters to no value that keeps to it, so that whatever is read without a limit
is read just so within a limit that is wide enough; and whatever is spelled correctly can
be skipped.
-/

/-! ## Steps that may fail -/

@[simp] theorem ok_bind
    {ε α β : Type}
    (value : α)
    (next : α → Except ε β) :
    (.ok value >>= next) = next value :=
  rfl

@[simp] theorem error_bind
    {ε α β : Type}
    (fault : ε)
    (next : α → Except ε β) :
    (.error fault >>= next) = .error fault :=
  rfl

@[simp] theorem throw_eq_error
    {ε α : Type}
    (fault : ε) :
    (throw fault : Except ε α) = .error fault :=
  rfl

/-- Two steps succeed if the first does, and the second with what comes of it. -/
theorem bind_eq_ok
    {ε α β : Type}
    {step : Except ε α}
    {next : α → Except ε β}
    {result : β} :
    (step >>= next) = .ok result ↔ ∃ value, step = .ok value ∧ next value = .ok result := by
  cases step with
  | error fault =>
      simp
  | ok value =>
      simp

theorem map_eq_ok
    {ε α β : Type}
    {step : Except ε α}
    {convert : α → β}
    {result : β} :
    convert <$> step = .ok result ↔ ∃ value, step = .ok value ∧ convert value = result := by
  cases step with
  | error fault =>
      simp [Functor.map, Except.map]
  | ok value =>
      simp [Functor.map, Except.map]

/-! ## Nested brackets -/

namespace Node

mutual

/-- How deep the brackets of a value are nested. -/
def depth : Node → Nat
  | .array items _ => depthOfItems items + 1
  | .object entries _ => depthOfEntries entries + 1
  | _ => 0

/-- How deep the brackets of the deepest item are nested. -/
def depthOfItems : List Node → Nat
  | [] => 0
  | node :: rest => max (depth node) (depthOfItems rest)

/-- How deep the brackets of the deepest entry are nested. -/
def depthOfEntries : List (Except Fault String × Node) → Nat
  | [] => 0
  | (_, node) :: rest => max (depth node) (depthOfEntries rest)

end

theorem depth_le_depthOfItems
    {items : List Node}
    {item : Node}
    (member : item ∈ items) :
    item.depth ≤ depthOfItems items := by
  induction items with
  | nil =>
      cases member
  | cons head rest inductionHypothesis =>
      rw [depthOfItems]
      rcases List.mem_cons.mp member with rfl | later
      · exact Nat.le_max_left _ _
      · exact Nat.le_trans (inductionHypothesis later) (Nat.le_max_right _ _)

theorem depth_le_depthOfEntries
    {entries : List (Except Fault String × Node)}
    {entry : Except Fault String × Node}
    (member : entry ∈ entries) :
    entry.2.depth ≤ depthOfEntries entries := by
  induction entries with
  | nil =>
      cases member
  | cons head rest inductionHypothesis =>
      obtain ⟨key, node⟩ := head
      rw [depthOfEntries]
      rcases List.mem_cons.mp member with rfl | later
      · exact Nat.le_max_left _ _
      · exact Nat.le_trans (inductionHypothesis later) (Nat.le_max_right _ _)

mutual

/-- A budget that is enough for all brackets changes nothing. -/
theorem read_of_depth_le
    (node : Node)
    {budget : Nat}
    (enough : node.depth ≤ budget) :
    node.read (some budget) = node.read none := by
  match node with
  | .null | .bool _ | .number _ | .text _ | .cut _ _ =>
      rfl
  | .array items ending =>
      obtain ⟨inner, rfl⟩ : ∃ inner, budget = inner + 1 :=
        Nat.exists_eq_succ_of_ne_zero (Nat.ne_zero_of_lt enough)
      have itemsRead := readItems_of_depth_le items (Nat.le_of_succ_le_succ enough)
      simp only [read, Budget.descend, ok_bind, itemsRead]
  | .object entries ending =>
      obtain ⟨inner, rfl⟩ : ∃ inner, budget = inner + 1 :=
        Nat.exists_eq_succ_of_ne_zero (Nat.ne_zero_of_lt enough)
      have entriesRead := readEntries_of_depth_le entries (Nat.le_of_succ_le_succ enough)
      simp only [read, Budget.descend, ok_bind, entriesRead]

theorem readItems_of_depth_le
    (items : List Node)
    {budget : Nat}
    (enough : depthOfItems items ≤ budget) :
    readItems (some budget) items = readItems none items := by
  match items with
  | [] =>
      rfl
  | node :: rest =>
      rw [readItems, readItems, read_of_depth_le node (Nat.le_trans (Nat.le_max_left _ _) enough),
        readItems_of_depth_le rest (Nat.le_trans (Nat.le_max_right _ _) enough)]

theorem readEntries_of_depth_le
    (entries : List (Except Fault String × Node))
    {budget : Nat}
    (enough : depthOfEntries entries ≤ budget) :
    readEntries (some budget) entries = readEntries none entries := by
  match entries with
  | [] =>
      rfl
  | (key, node) :: rest =>
      rw [readEntries, readEntries,
        read_of_depth_le node (Nat.le_trans (Nat.le_max_left _ _) enough),
        readEntries_of_depth_le rest (Nat.le_trans (Nat.le_max_right _ _) enough)]

end

/-! ## Whole trees -/

mutual

/-- A whole tree is read as itself. -/
@[simp] theorem read_ofTree : (tree : Tree) → (ofTree tree).read none = .ok tree
  | .null | .bool _ | .integer _ | .float _ | .text _ =>
      rfl
  | .array items => by
      simp only [ofTree, read, Budget.descend, ok_bind, readItems_ofTrees items]
      rfl
  | .object entries => by
      simp only [ofTree, read, Budget.descend, ok_bind, readEntries_ofEntries entries]
      rfl

theorem readItems_ofTrees : (items : List Tree) → readItems none (ofTrees items) = .ok items
  | [] =>
      rfl
  | item :: rest => by
      simp only [ofTrees, readItems, read_ofTree item, readItems_ofTrees rest, ok_bind]
      rfl

theorem readEntries_ofEntries :
    (entries : List (String × Tree)) → readEntries none (ofEntries entries) = .ok entries
  | [] =>
      rfl
  | (key, value) :: rest => by
      simp only [ofEntries, readEntries, read_ofTree value, readEntries_ofEntries rest, ok_bind]
      rfl

end

mutual

/-- A whole tree can be skipped. -/
theorem skip_ofTree : (tree : Tree) → (ofTree tree).skip = .ok ()
  | .null | .bool _ | .integer _ | .float _ | .text _ =>
      rfl
  | .array items => by
      simp only [ofTree, skip, skipItems_ofTrees items]
      rfl
  | .object entries => by
      simp only [ofTree, skip, skipEntries_ofEntries entries]
      rfl

theorem skipItems_ofTrees : (items : List Tree) → skipItems (ofTrees items) = .ok ()
  | [] =>
      rfl
  | item :: rest => by
      simp only [ofTrees, skipItems, skip_ofTree item, skipItems_ofTrees rest]
      rfl

theorem skipEntries_ofEntries :
    (entries : List (String × Tree)) → skipEntries (ofEntries entries) = .ok ()
  | [] =>
      rfl
  | (key, value) :: rest => by
      simp only [ofEntries, skipEntries, skip_ofTree value, skipEntries_ofEntries rest]
      rfl

end

theorem ofTrees_eq_map (items : List Tree) : ofTrees items = items.map ofTree := by
  induction items with
  | nil =>
      rfl
  | cons item rest inductionHypothesis =>
      rw [ofTrees, inductionHypothesis, List.map_cons]

theorem ofEntries_eq_map (entries : List (String × Tree)) :
    ofEntries entries = entries.map fun entry => (.ok entry.1, ofTree entry.2) := by
  induction entries with
  | nil =>
      rfl
  | cons entry rest inductionHypothesis =>
      rw [ofEntries, inductionHypothesis, List.map_cons]

/-! ## Skipping -/

theorem skip_of_mem_items
    {items : List Node}
    (skipped : skipItems items = .ok ())
    {item : Node}
    (member : item ∈ items) :
    item.skip = .ok () := by
  induction items with
  | nil =>
      cases member
  | cons head rest inductionHypothesis =>
      obtain ⟨⟨⟩, headSkipped, restSkipped⟩ := bind_eq_ok.mp skipped
      rcases List.mem_cons.mp member with rfl | later
      · exact headSkipped
      · exact inductionHypothesis restSkipped later

theorem skip_of_mem_entries
    {entries : List (Except Fault String × Node)}
    (skipped : skipEntries entries = .ok ())
    {entry : Except Fault String × Node}
    (member : entry ∈ entries) :
    entry.2.skip = .ok () := by
  induction entries with
  | nil =>
      cases member
  | cons head rest inductionHypothesis =>
      obtain ⟨key, node⟩ := head
      obtain ⟨⟨⟩, headSkipped, restSkipped⟩ := bind_eq_ok.mp skipped
      rcases List.mem_cons.mp member with rfl | later
      · exact headSkipped
      · exact inductionHypothesis restSkipped later

end Node

mutual

theorem SpellsBare.skip_eq
    {node : Node}
    {text : List Char} :
    SpellsBare node text →
    node.skip = .ok ()
  | .null | .true | .false | .number _ | .text _ | .emptyArray _ | .emptyObject _ =>
      rfl
  | .array spelled => by
      simp only [Node.skip, spelled.skip_eq]
      rfl
  | .object spelled => by
      simp only [Node.skip, spelled.skip_eq]
      rfl

/-- Whatever is spelled correctly can be skipped. -/
theorem Spells.skip_eq
    {node : Node}
    {text : List Char} :
    Spells node text →
    node.skip = .ok ()
  | .padded _ spelled _ => spelled.skip_eq

theorem SpellsItems.skip_eq
    {items : List Node}
    {text : List Char} :
    SpellsItems items text →
    Node.skipItems items = .ok ()
  | .last spelled => by
      simp only [Node.skipItems, spelled.skip_eq]
      rfl
  | .next spelled rest => by
      simp only [Node.skipItems, spelled.skip_eq, rest.skip_eq]
      rfl

theorem SpellsEntries.skip_eq
    {entries : List (Except Fault String × Node)}
    {text : List Char} :
    SpellsEntries entries text →
    Node.skipEntries entries = .ok ()
  | .last _ spelled => by
      simp only [Node.skipEntries, spelled.skip_eq]
      rfl
  | .next _ spelled rest => by
      simp only [Node.skipEntries, spelled.skip_eq, rest.skip_eq]
      rfl

end

namespace Source

/-- Whether the brackets of a node may all be opened. -/
def Fits
    (source : Source)
    (node : Node) :
    Prop :=
  ∀ budget, source.budget = some budget → node.depth ≤ budget

/-- A source that limits nothing fits every node. -/
theorem fits_of_budget_eq_none
    {source : Source}
    (unlimited : source.budget = none)
    (node : Node) :
    source.Fits node :=
  fun _ limited => nomatch unlimited.symm.trans limited

/-- What fits is read as if there were no limit. -/
theorem Fits.tree_eq
    {source : Source}
    {node : Node}
    (fits : source.Fits node) :
    Reader.tree source node = node.read none := by
  cases source with
  | text budget =>
      exact node.read_of_depth_le (fits budget rfl)
  | parsed | buffered =>
      rfl

/-- A bracket that fits can be opened, and whatever is inside fits the rest. -/
private theorem Fits.descend
    {source : Source}
    {node : Node}
    (fits : source.Fits node)
    {depth : Nat}
    (nested : node.depth = depth + 1) :
    ∃ inner,
      source.descend = .ok inner ∧ ∀ child : Node, child.depth ≤ depth → inner.Fits child := by
  cases source with
  | text budget =>
      have enough : depth + 1 ≤ budget := nested ▸ fits budget rfl
      obtain ⟨rest, rfl⟩ := Nat.exists_eq_succ_of_ne_zero (Nat.ne_zero_of_lt enough)
      refine ⟨.text rest, rfl, ?_⟩
      rintro child shallow budget ⟨⟩
      exact Nat.le_trans shallow (Nat.le_of_succ_le_succ enough)
  | parsed | buffered =>
      exact ⟨_, rfl, fun child _ => fits_of_budget_eq_none rfl child⟩

/-- Whatever is in an array that fits, fits inside. -/
theorem Fits.descend_array
    {source : Source}
    {items : List Node}
    {ending : ArrayEnd}
    (fits : source.Fits (.array items ending)) :
    ∃ inner, source.descend = .ok inner ∧ ∀ item ∈ items, inner.Fits item := by
  obtain ⟨inner, descends, inside⟩ := fits.descend rfl
  exact ⟨inner, descends, fun item member => inside item (Node.depth_le_depthOfItems member)⟩

/-- Whatever is in an object that fits, fits inside. -/
theorem Fits.descend_object
    {source : Source}
    {entries : List (Except Fault String × Node)}
    {ending : ObjectEnd}
    (fits : source.Fits (.object entries ending)) :
    ∃ inner, source.descend = .ok inner ∧ ∀ entry ∈ entries, inner.Fits entry.2 := by
  obtain ⟨inner, descends, inside⟩ := fits.descend rfl
  exact
    ⟨inner, descends, fun entry member => inside entry.2 (Node.depth_le_depthOfEntries member)⟩

/-- A reader can go into a node, and past it. -/
structure Accepts
    (source : Source)
    (node : Node) :
    Prop where
  fits : source.Fits node
  skipped : node.skip = .ok ()

namespace Accepts

variable {source : Source}

/-- Whatever is in an array that is accepted, is accepted inside. -/
theorem descend_array
    {items : List Node}
    {ending : ArrayEnd}
    (accepts : source.Accepts (.array items ending)) :
    ∃ inner, source.descend = .ok inner ∧ ∀ item ∈ items, inner.Accepts item := by
  obtain ⟨inner, descends, inside⟩ := accepts.fits.descend_array
  obtain ⟨⟨⟩, skipped, -⟩ := bind_eq_ok.mp accepts.skipped
  exact
    ⟨inner, descends,
      fun item member => ⟨inside item member, Node.skip_of_mem_items skipped member⟩⟩

/-- Whatever is in an object that is accepted, is accepted inside. -/
theorem descend_object
    {entries : List (Except Fault String × Node)}
    {ending : ObjectEnd}
    (accepts : source.Accepts (.object entries ending)) :
    ∃ inner, source.descend = .ok inner ∧ ∀ entry ∈ entries, inner.Accepts entry.2 := by
  obtain ⟨inner, descends, inside⟩ := accepts.fits.descend_object
  obtain ⟨⟨⟩, skipped, -⟩ := bind_eq_ok.mp accepts.skipped
  exact
    ⟨inner, descends,
      fun entry member => ⟨inside entry member, Node.skip_of_mem_entries skipped member⟩⟩

/-- A text accepts whatever it spells within its limit. -/
theorem of_spells
    {node : Node}
    {text : List Char}
    (spelled : Spells node text)
    {limit : Nat}
    (shallow : node.depth ≤ limit) :
    (Source.text limit).Accepts node where
  fits := by
    rintro budget ⟨⟩
    exact shallow
  skipped := spelled.skip_eq

/-- A source without a limit accepts every whole tree. -/
theorem ofTree
    (unlimited : source.budget = none)
    (tree : Tree) :
    source.Accepts (Node.ofTree tree) where
  fits := fits_of_budget_eq_none unlimited _
  skipped := Node.skip_ofTree tree

end Accepts

end Source

end FeatureFlags.Json
