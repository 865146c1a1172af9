import FeatureFlags.Proofs.Value.Serialization
import FeatureFlags.Telemetry.Message

namespace FeatureFlags.Telemetry

/-!
# Identities of messages

A repetition is recognised by the compact text of a message. Two messages have the same
text exactly if they are of the same kind and have the same parts, but for what JSON cannot
tell about the values in them: an absent part and an empty one are never taken for a part
that is there, and no key or id can be made up so that another part is read into it.
-/

open FeatureFlags.Json (Tree)
open FeatureFlags.Value (normalizedTable)

/-! ## Parts that may be absent -/

/-- The entries of the parts that are there. -/
def presentEntries (parts : List (String × Option Tree)) : List (String × Tree) :=
  parts.flatMap fun part => optionalEntry part.1 part.2

/-- An entry is that of a part. -/
theorem key_mem_of_mem_presentEntries
    {entry : String × Tree}
    {parts : List (String × Option Tree)}
    (member : entry ∈ presentEntries parts) :
    entry.1 ∈ parts.map (·.1) := by
  obtain ⟨part, held, isEntry⟩ := List.mem_flatMap.mp member
  rw [optionalEntry, Option.mem_toList, Option.map_eq_some_iff] at isEntry
  obtain ⟨_, _, rfl⟩ := isEntry
  exact List.mem_map_of_mem held

/-- Whether the first part is there, and what it is, is told by the entries. -/
theorem optionalEntry_append_cancel
    {key : String}
    {left right : Option Tree}
    {leftRest rightRest : List (String × Tree)}
    (leftOther : ∀ entry ∈ leftRest, entry.1 ≠ key)
    (rightOther : ∀ entry ∈ rightRest, entry.1 ≠ key)
    (same : optionalEntry key left ++ leftRest = optionalEntry key right ++ rightRest) :
    left = right ∧ leftRest = rightRest := by
  cases left with
  | none =>
      cases right with
      | none =>
          exact ⟨rfl, same⟩
      | some tree =>
          obtain rfl : leftRest = (key, tree) :: rightRest := same
          exact absurd rfl (leftOther _ List.mem_cons_self)
  | some tree =>
      cases right with
      | none =>
          obtain rfl : (key, tree) :: leftRest = rightRest := same
          exact absurd rfl (rightOther _ List.mem_cons_self)
      | some other =>
          obtain ⟨sameEntry, sameRest⟩ := List.cons.inj same
          cases sameEntry
          exact ⟨rfl, sameRest⟩

/-- The entries of differently named parts tell which parts are there, and what they are. -/
theorem presentEntries_injective
    {left right : List (String × Option Tree)}
    (sameKeys : left.map (·.1) = right.map (·.1))
    (distinct : (left.map (·.1)).Nodup)
    (same : presentEntries left = presentEntries right) :
    left = right := by
  induction left generalizing right with
  | nil =>
      exact (List.map_eq_nil_iff.mp sameKeys.symm).symm
  | cons part leftRest inductionHypothesis =>
      obtain ⟨key, leftTree⟩ := part
      cases right with
      | nil =>
          cases sameKeys
      | cons part rightRest =>
          obtain ⟨_, rightTree⟩ := part
          obtain ⟨rfl, restKeys⟩ := List.cons.inj sameKeys
          obtain ⟨notLater, restDistinct⟩ := List.nodup_cons.mp distinct
          have other
              {parts : List (String × Option Tree)}
              (keys : leftRest.map (·.1) = parts.map (·.1)) :
              ∀ entry ∈ presentEntries parts, entry.1 ≠ key := by
            rintro entry member rfl
            exact notLater (keys ▸ key_mem_of_mem_presentEntries member)
          obtain ⟨rfl, sameRest⟩ :=
            optionalEntry_append_cancel (other rfl) (other restKeys) same
          rw [inductionHypothesis restKeys restDistinct sameRest]

/-- An object has only numbers with numerals in it if its parts do. -/
theorem isFinite_presentEntries
    {parts : List (String × Option Tree)}
    (finite : ∀ part ∈ parts, ∀ tree ∈ part.2, tree.IsFinite) :
    (Tree.object (presentEntries parts)).IsFinite := by
  refine Tree.entriesAreFinite_iff.mpr ?_
  intro entry member
  obtain ⟨part, held, isEntry⟩ := List.mem_flatMap.mp member
  rw [optionalEntry, Option.mem_toList, Option.map_eq_some_iff] at isEntry
  obtain ⟨tree, isTree, rfl⟩ := isEntry
  exact finite part held tree isTree

/-- Two ways to look at a part that may be absent agree on what is the same if they do where it is there. -/
theorem map_eq_map_iff
    {f : α → β}
    {g : α → γ}
    (agree : ∀ {left right}, f left = f right ↔ g left = g right)
    {left right : Option α} :
    left.map f = right.map f ↔ left.map g = right.map g := by
  cases left <;> cases right <;> simp [agree]

/-! ## The trees of parts -/

/-- The object of attributes, if there are any. -/
def attributesTree? (attributes : Attributes) : Option Tree :=
  if attributes.isEmpty then none else some (tableTree attributes)

/-- The object of an activity mark. -/
def activityTree (mark : Bool) : Tree :=
  .object [("active", .bool mark)]

theorem attributesEntry_eq (attributes : Attributes) :
    attributesEntry attributes = optionalEntry "attributes" (attributesTree? attributes) := by
  unfold attributesEntry attributesTree?
  split <;> rfl

theorem activityEntry_eq (active : Option Bool) :
    activityEntry active = optionalEntry "context" (active.map activityTree) :=
  rfl

theorem tableTree_eq_iff {left right : Table Value} :
    tableTree left = tableTree right ↔ normalizedTable left = normalizedTable right :=
  Value.toTree_ofTable_eq_iff

/-- Empty attributes are left out, and no others are. -/
theorem attributesTree?_eq_iff {left right : Attributes} :
    attributesTree? left = attributesTree? right ↔
      normalizedTable left = normalizedTable right := by
  have sameEmptiness (same : normalizedTable left = normalizedTable right) :
      left.isEmpty = right.isEmpty := by
    rw [← Value.isEmpty_normalizedTable left, same, Value.isEmpty_normalizedTable]
  unfold attributesTree?
  cases isLeft : left.isEmpty <;> cases isRight : right.isEmpty
  · simp [tableTree_eq_iff]
  · have different := mt sameEmptiness (by simp [isLeft, isRight])
    simpa using different
  · have different := mt sameEmptiness (by simp [isLeft, isRight])
    simpa using different
  · have leftNone := List.isEmpty_iff.mp ((Value.isEmpty_normalizedTable left).trans isLeft)
    have rightNone := List.isEmpty_iff.mp ((Value.isEmpty_normalizedTable right).trans isRight)
    have bothEmpty : normalizedTable left = normalizedTable right :=
      Table.eq_of_entries (leftNone.trans rightNone.symm)
    simp [bothEmpty]

/-! Only numbers that have a numeral are in these trees. -/

theorem isFinite_tableTree (table : Table Value) : (tableTree table).IsFinite :=
  Value.isFinite_toTree (.ofTable table)

theorem isFinite_attributesTree?
    {attributes : Attributes}
    {tree : Tree}
    (isTree : attributesTree? attributes = some tree) :
    tree.IsFinite := by
  unfold attributesTree? at isTree
  split at isTree
  next =>
    cases isTree
  next =>
    cases isTree
    exact isFinite_tableTree attributes

theorem isFinite_activityTree (mark : Bool) : (activityTree mark).IsFinite :=
  ⟨trivial, trivial⟩

theorem isFinite_array_map
    {wrap : α → Tree}
    (finite : ∀ item, (wrap item).IsFinite)
    (items : List α) :
    (Tree.array (items.map wrap)).IsFinite := by
  refine Tree.itemsAreFinite_iff.mpr ?_
  intro item member
  obtain ⟨_, _, rfl⟩ := List.mem_map.mp member
  exact finite _

theorem activityTree_injective : Function.Injective activityTree := by
  intro left right same
  simpa [activityTree] using same

theorem boolTrees_injective :
    Function.Injective fun marks : List Bool => Tree.array (marks.map .bool) := by
  intro left right same
  have bools : Function.Injective Tree.bool := fun _ _ => Tree.bool.inj
  exact bools.list_map (Tree.array.inj same)

theorem textTrees_injective :
    Function.Injective fun texts : List String => Tree.array (texts.map .text) := by
  intro left right same
  have texts : Function.Injective Tree.text := fun _ _ => Tree.text.inj
  exact texts.list_map (Tree.array.inj same)

theorem integerTree_injective :
    Function.Injective fun version : Int64 => Tree.integer version.toInt := by
  intro left right same
  exact Int64.toInt_inj.mp (Tree.integer.inj same)

/-! ## Messages as parts -/

namespace UserUpdate

/-- The parts of a user update. -/
def parts (update : UserUpdate) : List (String × Option Tree) :=
  [("userId", some (.text update.user)),
    ("attributes", attributesTree? update.attributes),
    ("context", update.active.map activityTree)]

/-- A user update with what JSON keeps of its attributes. -/
def normalized (update : UserUpdate) : UserUpdate :=
  { update with attributes := normalizedTable update.attributes }

theorem entries_eq (update : UserUpdate) : update.entries = presentEntries update.parts := by
  simp [entries, parts, presentEntries, attributesEntry_eq, activityEntry_eq, optionalEntry]

theorem parts_eq_iff {left right : UserUpdate} :
    left.parts = right.parts ↔ left.normalized = right.normalized := by
  simp [parts, normalized, attributesTree?_eq_iff, (Option.map_injective activityTree_injective).eq_iff]

end UserUpdate

namespace CompanyUpdate

/-- The parts of a company update. -/
def parts (update : CompanyUpdate) : List (String × Option Tree) :=
  [("companyId", some (.text update.company)),
    ("userId", update.user.map .text),
    ("attributes", attributesTree? update.attributes),
    ("context", update.active.map activityTree)]

/-- A company update with what JSON keeps of its attributes. -/
def normalized (update : CompanyUpdate) : CompanyUpdate :=
  { update with attributes := normalizedTable update.attributes }

theorem entries_eq (update : CompanyUpdate) : update.entries = presentEntries update.parts := by
  simp [entries, parts, presentEntries, attributesEntry_eq, activityEntry_eq, optionalEntry]

theorem parts_eq_iff {left right : CompanyUpdate} :
    left.parts = right.parts ↔ left.normalized = right.normalized := by
  have texts : Function.Injective Tree.text := fun _ _ => Tree.text.inj
  simp [parts, normalized, attributesTree?_eq_iff, (Option.map_injective activityTree_injective).eq_iff,
    (Option.map_injective texts).eq_iff]

end CompanyUpdate

namespace Event

/-- The parts of a custom event. -/
def parts (event : Event) : List (String × Option Tree) :=
  [("event", some (.text event.name)),
    ("userId", some (.text event.user)),
    ("companyId", event.company.map .text),
    ("attributes", attributesTree? event.attributes)]

/-- A custom event with what JSON keeps of its attributes. -/
def normalized (event : Event) : Event :=
  { event with attributes := normalizedTable event.attributes }

theorem entries_eq (event : Event) : event.entries = presentEntries event.parts := by
  simp [entries, parts, presentEntries, attributesEntry_eq, optionalEntry]

theorem parts_eq_iff {left right : Event} :
    left.parts = right.parts ↔ left.normalized = right.normalized := by
  have texts : Function.Injective Tree.text := fun _ _ => Tree.text.inj
  simp [parts, normalized, attributesTree?_eq_iff, (Option.map_injective texts).eq_iff]

end Event

namespace FeatureAction

theorem name_injective : Function.Injective name := by
  intro left right same
  cases left <;> cases right <;> first | rfl | simp [name] at same

end FeatureAction

namespace FeatureEvent

/-- The parts of a feature event. -/
def parts (event : FeatureEvent) : List (String × Option Tree) :=
  [("action", some (.text event.action.name)),
    ("key", some (.text event.key)),
    ("targetingVersion", event.version.map fun version => .integer version.toInt),
    ("evalContext", event.context.map tableTree),
    ("evalResult", some event.result.toTree),
    ("evalRuleResults", event.rules.map fun rules => .array (rules.map .bool)),
    ("evalMissingFields", event.missing.map fun missing => .array (missing.map .text))]

/-- A feature event with what JSON keeps of its context and its result. -/
def normalized (event : FeatureEvent) : FeatureEvent :=
  { event with
    context := event.context.map normalizedTable
    result := event.result.normalized }

theorem entries_eq (event : FeatureEvent) : event.entries = presentEntries event.parts := by
  simp [entries, parts, presentEntries, optionalEntry]

theorem parts_eq_iff {left right : FeatureEvent} :
    left.parts = right.parts ↔ left.normalized = right.normalized := by
  simp [parts, normalized, FeatureAction.name_injective.eq_iff,
    (Option.map_injective integerTree_injective).eq_iff, map_eq_map_iff tableTree_eq_iff,
    Value.toTree_eq_iff, (Option.map_injective boolTrees_injective).eq_iff,
    (Option.map_injective textTrees_injective).eq_iff]

end FeatureEvent

namespace Message

/-- The parts of a message without its kind. -/
def payload : Message → List (String × Option Tree)
  | .user update => update.parts
  | .company update => update.parts
  | .event custom => custom.parts
  | .feature report => report.parts

/-- The parts of a message. -/
def parts (message : Message) : List (String × Option Tree) :=
  ("type", some (.text message.kind)) :: message.payload

/--
A message with what JSON keeps of the values in it: dates are texts, and numbers that have
no numeral are null.
-/
def normalized : Message → Message
  | .user update => .user update.normalized
  | .company update => .company update.normalized
  | .event custom => .event custom.normalized
  | .feature report => .feature report.normalized

theorem toTree_eq (message : Message) :
    message.toTree = .object (presentEntries message.parts) := by
  have entries_eq : message.entries = presentEntries message.payload := by
    cases message with
    | user update => exact update.entries_eq
    | company update => exact update.entries_eq
    | event custom => exact custom.entries_eq
    | feature report => exact report.entries_eq
  rw [toTree, entries_eq]
  rfl

/-- No two parts of a message have the same name. -/
theorem nodup_keys_parts (message : Message) : (message.parts.map (·.1)).Nodup := by
  cases message <;>
    simp [parts, payload, UserUpdate.parts, CompanyUpdate.parts, Event.parts, FeatureEvent.parts]

/-- Messages of one kind have parts of the same names. -/
theorem keys_parts_eq_of_kind
    {left right : Message}
    (sameKind : left.kind = right.kind) :
    left.parts.map (·.1) = right.parts.map (·.1) := by
  cases left <;> cases right <;> first | rfl | simp [kind] at sameKind

/-- The parts of messages are the same exactly if JSON keeps the same of the messages. -/
theorem parts_eq_iff {left right : Message} :
    left.parts = right.parts ↔ left.normalized = right.normalized := by
  cases left <;> cases right <;>
    simp [parts, payload, kind, normalized, UserUpdate.parts_eq_iff, CompanyUpdate.parts_eq_iff,
      Event.parts_eq_iff, FeatureEvent.parts_eq_iff]

/-- Only numbers that have a numeral are in the tree of a message. -/
theorem isFinite_toTree (message : Message) : message.toTree.IsFinite := by
  rw [toTree_eq]
  refine isFinite_presentEntries ?_
  have text (content : String) : (Tree.text content).IsFinite := trivial
  have integer (value : Int) : (Tree.integer value).IsFinite := trivial
  have bools := @isFinite_array_map _ Tree.bool fun _ => trivial
  have texts := @isFinite_array_map _ Tree.text fun _ => trivial
  cases message <;>
    simp [parts, payload, UserUpdate.parts, CompanyUpdate.parts, Event.parts, FeatureEvent.parts,
      text, integer, bools, texts, isFinite_tableTree, isFinite_activityTree,
      Value.isFinite_toTree, or_imp, forall_and] <;>
    exact fun _ => isFinite_attributesTree?

/-- The entries of a message tell its kind. -/
theorem kind_eq_of_toTree
    {left right : Message}
    (same : left.toTree = right.toTree) :
    left.kind = right.kind := by
  rw [toTree, toTree] at same
  obtain ⟨sameKind, -⟩ := List.cons.inj (Tree.object.inj same)
  exact Tree.text.inj (Prod.mk.inj sameKind).2

/--
Two messages are taken for repetitions of each other exactly if they are of the same kind
and all their parts are the same, their dates being texts and their numbers without numerals
being null. Tables with the same content are equal, so the order in which attributes are set
makes no difference.
-/
theorem identity_eq_iff {left right : Message} :
    left.identity = right.identity ↔ left.normalized = right.normalized := by
  rw [← parts_eq_iff]
  constructor
  · intro same
    have sameTree : left.toTree = right.toTree :=
      Tree.toText_injective_of_isFinite (isFinite_toTree left) (isFinite_toTree right) same
    have sameKeys := keys_parts_eq_of_kind (kind_eq_of_toTree sameTree)
    rw [toTree_eq, toTree_eq] at sameTree
    exact presentEntries_injective sameKeys left.nodup_keys_parts (Tree.object.inj sameTree)
  · intro sameParts
    rw [identity, identity, toTree_eq, toTree_eq, sameParts]

end Message

end FeatureFlags.Telemetry
