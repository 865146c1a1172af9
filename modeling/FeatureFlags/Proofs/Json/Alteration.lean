import FeatureFlags.Proofs.Json.ProperDocument
import FeatureFlags.Proofs.Json.Records

namespace FeatureFlags.Json

/-!
# Altered values

What a reader makes of a value of which some part, however deep, has been altered. A reader
follows an alteration if every change of what it reads can be made where it reads it: the
part is there to be altered, and with the altered part the changed value is read.
-/

/-! ## Alterations -/

section Lists

variable {α β κ : Type}

/-- Alter the item at an index. -/
def alterAt?
    (edit : α → Option α) :
    Nat → List α → Option (List α)
  | _, [] => none
  | 0, item :: rest => (edit item).map (· :: rest)
  | index + 1, item :: rest => (alterAt? edit index rest).map (item :: ·)

/-- Alter the first item that meets a condition. -/
def alterFirst?
    (edit : α → Option α)
    (meets : α → Bool) :
    List α → Option (List α)
  | [] => none
  | item :: rest =>
      if meets item then
        (edit item).map (· :: rest)
      else
        (alterFirst? edit meets rest).map (item :: ·)

@[simp] theorem alterAt?_nil
    (edit : α → Option α)
    (index : Nat) :
    alterAt? edit index [] = none := by
  cases index <;> rfl

/-- Alter the content of an entry. -/
def alterContent?
    (edit : β → Option β)
    (entry : κ × β) :
    Option (κ × β) :=
  (edit entry.2).map (entry.1, ·)

theorem alterAt?_map
    {convert : α → β}
    {edit : α → Option α}
    {edit' : β → Option β}
    (commutes : ∀ item, edit' (convert item) = (edit item).map convert)
    (index : Nat)
    (items : List α) :
    alterAt? edit' index (items.map convert) =
      (alterAt? edit index items).map (List.map convert) := by
  induction items generalizing index with
  | nil =>
      simp
  | cons item rest inductionHypothesis =>
      cases index with
      | zero =>
          simp [alterAt?, commutes, Function.comp_def]
      | succ index =>
          simp [alterAt?, inductionHypothesis, Function.comp_def]

theorem alterFirst?_map
    {convert : α → β}
    {edit : α → Option α}
    {edit' : β → Option β}
    {meets : α → Bool}
    {meets' : β → Bool}
    (commutes : ∀ item, edit' (convert item) = (edit item).map convert)
    (agrees : ∀ item, meets' (convert item) = meets item)
    (items : List α) :
    alterFirst? edit' meets' (items.map convert) =
      (alterFirst? edit meets items).map (List.map convert) := by
  induction items with
  | nil =>
      rfl
  | cons item rest inductionHypothesis =>
      by_cases isMet : meets item
      · simp [alterFirst?, commutes, agrees, isMet, Function.comp_def]
      · simp [alterFirst?, agrees, isMet, inductionHypothesis, Function.comp_def]

end Lists

namespace Node

/-- Whether an entry has a certain key. -/
def hasKey
    (name : String) :
    Except Fault String × Node → Bool
  | (.ok key, _) => key == name
  | (.error _, _) => false

/-- Alter an item of an array. -/
def alterItem?
    (index : Nat)
    (edit : Node → Option Node) :
    Node → Option Node
  | .array items ending => (alterAt? edit index items).map (.array · ending)
  | _ => none

/-- Alter a field of a record, which has a name in an object and an index in an array. -/
def alterField?
    (name : String)
    (index : Nat)
    (edit : Node → Option Node) :
    Node → Option Node
  | .object entries ending =>
      (alterFirst? (alterContent? edit) (hasKey name) entries).map (.object · ending)
  | .array items ending => (alterAt? edit index items).map (.array · ending)
  | _ => none

theorem mismatch_ne_ok
    {α : Type}
    (wanted : String)
    (node : Node)
    (value : α) :
    node.mismatch wanted ≠ .ok value := by
  intro impossible
  obtain ⟨_, -, ⟨⟩⟩ := bind_eq_ok.mp impossible

theorem ne_null_of_alterField?
    {name : String}
    {index : Nat}
    {edit : Node → Option Node}
    {node altered : Node}
    (edited : node.alterField? name index edit = some altered) :
    altered ≠ .null := by
  rintro rfl
  cases node <;> simp [alterField?] at edited

end Node

namespace Tree

/-- Alter an item of an array. -/
def alterItem?
    (index : Nat)
    (edit : Tree → Option Tree) :
    Tree → Option Tree
  | .array items => (alterAt? edit index items).map .array
  | _ => none

/-- Alter a field of a record, which has a name in an object and an index in an array. -/
def alterField?
    (name : String)
    (index : Nat)
    (edit : Tree → Option Tree) :
    Tree → Option Tree
  | .object entries => (alterFirst? (alterContent? edit) (·.1 == name) entries).map .object
  | .array items => (alterAt? edit index items).map .array
  | _ => none

end Tree

section WholeTrees

variable
  {edit : Node → Option Node}
  {treeEdit : Tree → Option Tree}
  (agrees : ∀ tree, edit (.ofTree tree) = (treeEdit tree).map .ofTree)

include agrees

theorem Node.alterItem?_ofTree
    (index : Nat)
    (tree : Tree) :
    alterItem? index edit (.ofTree tree) = (tree.alterItem? index treeEdit).map .ofTree := by
  cases tree with
  | array items =>
      rw [ofTree, alterItem?, ofTrees_eq_map, alterAt?_map agrees, Tree.alterItem?, Option.map_map,
        Option.map_map]
      simp [Function.comp_def, ofTree, ofTrees_eq_map]
  | null | bool | integer | float | text | object =>
      rfl

theorem Node.alterField?_ofTree
    (name : String)
    (index : Nat)
    (tree : Tree) :
    alterField? name index edit (.ofTree tree) =
      (tree.alterField? name index treeEdit).map .ofTree := by
  cases tree with
  | object entries =>
      let convert (entry : String × Tree) : Except Fault String × Node :=
        (.ok entry.1, ofTree entry.2)
      have contents (entry : String × Tree) :
          alterContent? edit (convert entry) = (alterContent? treeEdit entry).map convert := by
        simp [convert, alterContent?, agrees, Function.comp_def]
      have keys (entry : String × Tree) : hasKey name (convert entry) = (entry.1 == name) :=
        rfl
      rw [ofTree, alterField?, ofEntries_eq_map, alterFirst?_map contents keys, Tree.alterField?,
        Option.map_map, Option.map_map]
      simp [Function.comp_def, ofTree, ofEntries_eq_map, convert]
  | array items =>
      exact alterItem?_ofTree agrees index (.array items)
  | null | bool | integer | float | text =>
      rfl

end WholeTrees

/-! ## Steps that follow an alteration -/

section Steps

variable {α β γ ε : Type}

/--
Whether a step follows an alteration: if its result can be changed, its argument can be
altered, and from an altered argument that is fine it gets to the changed result.
-/
def Follows
    (Given Fine : α → Prop)
    (step : α → Except ε β)
    (edit : α → Option α)
    (change : β → Option β) :
    Prop :=
  ∀ ⦃argument result changed⦄,
    Given argument →
    step argument = .ok result →
    change result = some changed →
    ∃ altered, edit argument = some altered ∧ (Fine altered → step altered = .ok changed)

/-- Whether a step follows an alteration of any argument. -/
abbrev AlwaysFollows
    (step : α → Except ε β)
    (edit : α → Option α)
    (change : β → Option β) :
    Prop :=
  Follows (fun _ => True) (fun _ => True) step edit change

namespace Follows

variable
  {Given Fine : α → Prop}
  {step : α → Except ε β}
  {edit : α → Option α}
  {change : β → Option β}

/-- Steps one after the other follow an alteration if each of them does. -/
theorem bind
    {next : β → Except ε γ}
    {change' : γ → Option γ}
    (follows : Follows Given Fine step edit change)
    (nextFollows : AlwaysFollows next change change') :
    Follows Given Fine (fun argument => step argument >>= next) edit change' := by
  intro argument result changed given read isChanged
  obtain ⟨value, stepped, continued⟩ := bind_eq_ok.mp read
  obtain ⟨changedValue, valueChanged, continues⟩ := nextFollows trivial continued isChanged
  obtain ⟨altered, edited, steps⟩ := follows given stepped valueChanged
  refine ⟨altered, edited, fun fine => ?_⟩
  simp only [steps fine, ok_bind, continues trivial]

/-- What is made of the result of a step follows too. -/
theorem map
    {convert : β → γ}
    {change' : γ → Option γ}
    (follows : Follows Given Fine step edit change)
    (agrees : ∀ value, change' (convert value) = (change value).map convert) :
    Follows Given Fine (fun argument => convert <$> step argument) edit change' := by
  intro argument result changed given read isChanged
  obtain ⟨value, stepped, rfl⟩ := map_eq_ok.mp read
  rw [agrees] at isChanged
  obtain ⟨changedValue, valueChanged, rfl⟩ := Option.map_eq_some_iff.mp isChanged
  obtain ⟨altered, edited, steps⟩ := follows given stepped valueChanged
  refine ⟨altered, edited, fun fine => ?_⟩
  simp only [steps fine, Except.map_ok]

/-- A list is gone through with one item altered. -/
theorem mapM_alterAt?
    (follows : Follows Given Fine step edit change)
    (index : Nat) :
    Follows (fun items => ∀ item ∈ items, Given item) (fun items => ∀ item ∈ items, Fine item)
      (List.mapM step) (alterAt? edit index) (alterAt? change index) := by
  intro items
  induction items generalizing index with
  | nil =>
      rintro _ changed - ⟨⟩ isChanged
      simp at isChanged
  | cons item rest inductionHypothesis =>
      intro result changed given read isChanged
      obtain ⟨itemGiven, restGiven⟩ := List.forall_mem_cons.mp given
      rw [List.mapM_cons] at read
      obtain ⟨value, itemRead, read⟩ := bind_eq_ok.mp read
      obtain ⟨values, restRead, ⟨⟩⟩ := bind_eq_ok.mp read
      cases index with
      | zero =>
          obtain ⟨changedValue, valueChanged, rfl⟩ := Option.map_eq_some_iff.mp isChanged
          obtain ⟨altered, edited, steps⟩ := follows itemGiven itemRead valueChanged
          refine ⟨altered :: rest, by rw [alterAt?, edited, Option.map_some], fun fine => ?_⟩
          rw [List.mapM_cons, steps (fine _ List.mem_cons_self), ok_bind, restRead]
          rfl
      | succ index =>
          obtain ⟨changedValues, valuesChanged, rfl⟩ := Option.map_eq_some_iff.mp isChanged
          obtain ⟨altered, edited, steps⟩ :=
            inductionHypothesis index restGiven restRead valuesChanged
          refine ⟨item :: altered, by rw [alterAt?, edited, Option.map_some], fun fine => ?_⟩
          rw [List.mapM_cons, itemRead, ok_bind,
            steps fun other member => fine other (List.mem_cons_of_mem _ member)]
          rfl

/-- A list is gone through with the first item altered that meets a condition. -/
theorem mapM_alterFirst?
    {meets : α → Bool}
    {meets' : β → Bool}
    (follows : Follows Given Fine step edit change)
    (agrees : ∀ {item value}, step item = .ok value → meets' value = meets item) :
    Follows (fun items => ∀ item ∈ items, Given item) (fun items => ∀ item ∈ items, Fine item)
      (List.mapM step) (alterFirst? edit meets) (alterFirst? change meets') := by
  intro items
  induction items with
  | nil =>
      rintro _ changed - ⟨⟩ isChanged
      simp [alterFirst?] at isChanged
  | cons item rest inductionHypothesis =>
      intro result changed given read isChanged
      obtain ⟨itemGiven, restGiven⟩ := List.forall_mem_cons.mp given
      rw [List.mapM_cons] at read
      obtain ⟨value, itemRead, read⟩ := bind_eq_ok.mp read
      obtain ⟨values, restRead, ⟨⟩⟩ := bind_eq_ok.mp read
      rw [alterFirst?, agrees itemRead] at isChanged
      by_cases isMet : meets item
      · rw [if_pos isMet] at isChanged
        obtain ⟨changedValue, valueChanged, rfl⟩ := Option.map_eq_some_iff.mp isChanged
        obtain ⟨altered, edited, steps⟩ := follows itemGiven itemRead valueChanged
        refine
          ⟨altered :: rest, by rw [alterFirst?, if_pos isMet, edited, Option.map_some],
            fun fine => ?_⟩
        rw [List.mapM_cons, steps (fine _ List.mem_cons_self), ok_bind, restRead]
        rfl
      · rw [if_neg isMet] at isChanged
        obtain ⟨changedValues, valuesChanged, rfl⟩ := Option.map_eq_some_iff.mp isChanged
        obtain ⟨altered, edited, steps⟩ := inductionHypothesis restGiven restRead valuesChanged
        refine
          ⟨item :: altered, by rw [alterFirst?, if_neg isMet, edited, Option.map_some],
            fun fine => ?_⟩
        rw [List.mapM_cons, itemRead, ok_bind,
          steps fun other member => fine other (List.mem_cons_of_mem _ member)]
        rfl

end Follows

end Steps

/-! ## Readers that follow an alteration -/

/-- Whether a reader follows an alteration of proper nodes whose brackets may all be opened. -/
def Reader.Follows
    (reader : Reader α)
    (edit : Node → Option Node)
    (change : α → Option α) :
    Prop :=
  ∀ source : Source, Json.Follows Node.IsProper source.Fits (reader source) edit change

namespace Reader

variable
  {reader : Reader α}
  {edit : Node → Option Node}
  {change : α → Option α}

/-- A value that is read as it is may be altered to any that can be read. -/
theorem follows_replacement
    {replacement : Node}
    {value : α}
    (reads : ∀ source : Source, source.Fits replacement → reader source replacement = .ok value) :
    reader.Follows (fun _ => some replacement) fun _ => some value := by
  rintro source node _ _ - - ⟨⟩
  exact ⟨replacement, rfl, reads source⟩

/-- A list is read with one item altered. -/
theorem follows_list
    (follows : reader.Follows edit change)
    (index : Nat) :
    (list reader).Follows (Node.alterItem? index edit) (alterAt? change index) := by
  intro source node values changed proper read isChanged
  cases node with
  | array items ending =>
      obtain ⟨inner, descends, read⟩ := bind_eq_ok.mp read
      obtain ⟨_, itemsRead, read⟩ := bind_eq_ok.mp read
      obtain ⟨⟨⟩, closes, ⟨⟩⟩ := bind_eq_ok.mp read
      obtain ⟨altered, edited, reads⟩ :=
        (follows inner).mapM_alterAt? index (Node.isProper_array.mp proper) itemsRead isChanged
      refine ⟨.array altered ending, by rw [Node.alterItem?, edited, Option.map_some], ?_⟩
      intro fits
      obtain ⟨_, descends', inside⟩ := fits.descend_array
      obtain rfl := Except.ok.inj (descends.symm.trans descends')
      simp only [list, descends, ok_bind, reads inside, closes]
      rfl
  | null | bool | number | text | object | cut =>
      exact absurd read (Node.mismatch_ne_ok _ _ _)

/-- An option is read with its content altered, which must not become null. -/
theorem follows_optional
    (follows : reader.Follows edit change)
    (notNull : ∀ {node altered}, edit node = some altered → altered ≠ .null) :
    (optional reader).Follows edit fun option => (option.bind change).map some := by
  intro source node option changed proper read isChanged
  obtain ⟨changedValue, contentChanged, rfl⟩ := Option.map_eq_some_iff.mp isChanged
  obtain ⟨value, rfl, valueChanged⟩ := Option.bind_eq_some_iff.mp contentChanged
  have contentRead : reader source node = .ok value := by
    cases node with
    | null =>
        cases read
    | bool | number | text | array | object | cut =>
        obtain ⟨_, contentRead, ⟨⟩⟩ := map_eq_ok.mp read
        exact contentRead
  obtain ⟨altered, edited, reads⟩ := follows source proper contentRead valueChanged
  refine ⟨altered, edited, fun fits => ?_⟩
  have alteredRead := congrArg (some <$> ·) (reads fits)
  cases altered with
  | null =>
      exact absurd rfl (notNull edited)
  | bool | number | text | array | object | cut =>
      exact alteredRead

end Reader

/-! ## Trees that follow an alteration -/

namespace Source

/-- The budget shrinks with every bracket. -/
theorem descend_budget (source : Source) :
    source.budget.descend = budget <$> source.descend := by
  match source with
  | .text 0 | .text (_ + 1) | .parsed | .buffered =>
      rfl

end Source

namespace Reader

/-- Read an entry with its key. -/
def entry : Source → Except Fault String × Node → Except Fault (String × Tree)
  | source, (key, node) => do
      let key ← key
      let value ← tree source node
      return (key, value)

theorem tree_array
    (source : Source)
    (items : List Node)
    (ending : ArrayEnd) :
    tree source (.array items ending) = .array <$> list tree source (.array items ending) := by
  have itemsRead (budget : Budget) : Node.readItems budget items = items.mapM (·.read budget) := by
    induction items with
    | nil =>
        rfl
    | cons item rest inductionHypothesis =>
        rw [Node.readItems, inductionHypothesis, List.mapM_cons]
  rw [tree, Node.read, Source.descend_budget, list]
  cases source.descend with
  | error fault =>
      rfl
  | ok inner =>
      simp only [Except.map_ok, ok_bind, itemsRead, map_bind]
      rfl

theorem tree_object
    (source : Source)
    (entries : List (Except Fault String × Node))
    (ending : ObjectEnd) :
    tree source (.object entries ending) =
      source.descend >>= fun inner =>
        entries.mapM (entry inner) >>= fun entries =>
          faultIf ending.onRead? >>= fun _ =>
            .ok (.object entries) := by
  have entriesRead (inner : Source) :
      Node.readEntries inner.budget entries = entries.mapM (entry inner) := by
    induction entries with
    | nil =>
        rfl
    | cons entry rest inductionHypothesis =>
        obtain ⟨key, node⟩ := entry
        rw [Node.readEntries, inductionHypothesis, List.mapM_cons, Reader.entry]
        cases key with
        | error fault =>
            rfl
        | ok key =>
            simp only [ok_bind, bind_assoc, pure_bind]
            rfl
  rw [tree, Node.read, Source.descend_budget]
  cases source.descend with
  | error fault =>
      rfl
  | ok inner =>
      simp only [Except.map_ok, ok_bind, entriesRead]
      rfl

/-- The content of an entry is altered, not its key. -/
theorem follows_entry
    {edit : Node → Option Node}
    {change : Tree → Option Tree}
    (follows : tree.Follows edit change)
    (source : Source) :
    Json.Follows (fun entry => entry.2.IsProper) (fun entry => source.Fits entry.2) (entry source)
      (alterContent? edit) (alterContent? change) := by
  rintro ⟨key, node⟩ result changed proper read isChanged
  obtain ⟨key, rfl, contentRead⟩ := bind_eq_ok.mp read
  obtain ⟨value, valueRead, ⟨⟩⟩ := bind_eq_ok.mp contentRead
  obtain ⟨changedValue, valueChanged, rfl⟩ := Option.map_eq_some_iff.mp isChanged
  obtain ⟨altered, edited, reads⟩ := follows source proper valueRead valueChanged
  refine ⟨(.ok key, altered), by rw [alterContent?, edited, Option.map_some], fun fits => ?_⟩
  rw [entry, ok_bind, reads fits]
  rfl

/-- An entry is read with the key that it has. -/
theorem hasKey_of_entry
    (name : String)
    {source : Source}
    {node : Except Fault String × Node}
    {value : String × Tree}
    (read : entry source node = .ok value) :
    (value.1 == name) = Node.hasKey name node := by
  obtain ⟨key, node⟩ := node
  obtain ⟨key, rfl, contentRead⟩ := bind_eq_ok.mp read
  obtain ⟨value, -, ⟨⟩⟩ := bind_eq_ok.mp contentRead
  rfl

/-- Only an array is read as one. -/
theorem tree_eq_array
    {source : Source}
    {node : Node}
    (proper : node.IsProper)
    {items : List Tree}
    (read : tree source node = .ok (.array items)) :
    ∃ nodes ending, node = .array nodes ending ∧ list tree source node = .ok items := by
  cases node with
  | array nodes ending =>
      rw [tree_array] at read
      obtain ⟨_, itemsRead, ⟨⟩⟩ := map_eq_ok.mp read
      exact ⟨nodes, ending, rfl, itemsRead⟩
  | object entries ending =>
      rw [tree_object] at read
      obtain ⟨_, -, read⟩ := bind_eq_ok.mp read
      obtain ⟨_, -, read⟩ := bind_eq_ok.mp read
      obtain ⟨_, -, ⟨⟩⟩ := bind_eq_ok.mp read
  | number value =>
      exact (proper _ read).elim
  | text content =>
      cases content <;> cases read
  | null | bool | cut =>
      cases read

/-- Only an object is read as one. -/
theorem tree_eq_object
    {source : Source}
    {node : Node}
    (proper : node.IsProper)
    {entries : List (String × Tree)}
    (read : tree source node = .ok (.object entries)) :
    ∃ nodes ending inner,
      node = .object nodes ending ∧
        source.descend = .ok inner ∧
        nodes.mapM (entry inner) = .ok entries ∧
        faultIf ending.onRead? = .ok () := by
  cases node with
  | object nodes ending =>
      rw [tree_object] at read
      obtain ⟨inner, descends, read⟩ := bind_eq_ok.mp read
      obtain ⟨_, entriesRead, read⟩ := bind_eq_ok.mp read
      obtain ⟨⟨⟩, closes, ⟨⟩⟩ := bind_eq_ok.mp read
      exact ⟨nodes, ending, inner, rfl, descends, entriesRead, closes⟩
  | array items ending =>
      rw [tree_array] at read
      obtain ⟨_, -, ⟨⟩⟩ := map_eq_ok.mp read
  | number value =>
      exact (proper _ read).elim
  | text content =>
      cases content <;> cases read
  | null | bool | cut =>
      cases read

/-- A whole tree is read with one item altered. -/
theorem follows_tree_item
    {edit : Node → Option Node}
    {change : Tree → Option Tree}
    (follows : tree.Follows edit change)
    (index : Nat) :
    tree.Follows (Node.alterItem? index edit) (Tree.alterItem? index change) := by
  intro source node value changed proper read isChanged
  cases value with
  | array items =>
      obtain ⟨nodes, ending, rfl, itemsRead⟩ := tree_eq_array proper read
      obtain ⟨changedItems, itemsChanged, rfl⟩ := Option.map_eq_some_iff.mp isChanged
      obtain ⟨altered, edited, reads⟩ :=
        follows_list follows index source proper itemsRead itemsChanged
      refine ⟨altered, edited, fun fits => ?_⟩
      obtain ⟨_, -, rfl⟩ := Option.map_eq_some_iff.mp edited
      rw [tree_array, reads fits, Except.map_ok]
  | null | bool | integer | float | text | object =>
      cases isChanged

/-- A whole tree is read with one field altered. -/
theorem follows_tree_field
    {edit : Node → Option Node}
    {change : Tree → Option Tree}
    (follows : tree.Follows edit change)
    (name : String)
    (index : Nat) :
    tree.Follows (Node.alterField? name index edit) (Tree.alterField? name index change) := by
  intro source node value changed proper read isChanged
  cases value with
  | object entries =>
      obtain ⟨nodes, ending, inner, rfl, descends, entriesRead, closes⟩ :=
        tree_eq_object proper read
      obtain ⟨changedEntries, entriesChanged, rfl⟩ := Option.map_eq_some_iff.mp isChanged
      obtain ⟨altered, edited, reads⟩ :=
        (follows_entry follows inner).mapM_alterFirst? (hasKey_of_entry name)
          (Node.isProper_object.mp proper) entriesRead entriesChanged
      refine ⟨.object altered ending, by rw [Node.alterField?, edited, Option.map_some], ?_⟩
      intro fits
      obtain ⟨_, descends', inside⟩ := fits.descend_object
      obtain rfl := Except.ok.inj (descends.symm.trans descends')
      rw [tree_object, descends, ok_bind, reads inside, ok_bind, closes, ok_bind]
  | array items =>
      -- In an array, a field is the item at its index.
      obtain ⟨nodes, ending, rfl, -⟩ := tree_eq_array proper read
      exact follows_tree_item follows index source proper read isChanged
  | null | bool | integer | float | text =>
      cases isChanged

end Reader

end FeatureFlags.Json
