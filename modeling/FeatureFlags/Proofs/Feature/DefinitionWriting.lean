import FeatureFlags.Feature.DefinitionReading
import FeatureFlags.Proofs.Json.SpelledDocument
import FeatureFlags.Proofs.Targeting.FilterWriting
import FeatureFlags.Proofs.Value.Writing

namespace FeatureFlags.Feature

/-!
# Written definitions

The texts that write a response with feature definitions: records in any order of their
fields, with any others among them and blanks wherever they may stand. Each of these texts
is read as the definitions that it writes.
-/

open FeatureFlags.Json (FieldForm Node Reader Spells SpellsBare SpellsNumeral SpellsText
  getD_given given given_cons join_given ok_bind present_given)
open FeatureFlags.Targeting (Filter WritesFilter reads_filter)

/-! ## Forms -/

/-- Whether a node writes a payload or another free value. -/
def WritesValue
    (value : Value)
    (node : Node) :
    Prop :=
  ∃ tree, node.read none = .ok tree ∧ value.WrittenAs tree

/-- The field of a targeting rule. -/
def ruleForms (filter : Filter) : List (FieldForm Node) :=
  [⟨"filter", False, WritesFilter filter⟩]

/-- The fields of targeting rules. -/
def TargetingRules.forms (targeting : TargetingRules) : List (FieldForm Node) :=
  [⟨"version", False, (· = .number (.ok (.integer targeting.version.toInt)))⟩,
    ⟨"rules", targeting.rules = [],
      Node.IsList (fun filter => Node.IsRecord (ruleForms filter)) targeting.rules⟩]

/-- The fields of a variant. -/
def Variant.forms (variant : Variant) : List (FieldForm Node) :=
  [⟨"filter", False, WritesFilter variant.filter⟩,
    ⟨"key", False, (· = .text (.ok variant.key))⟩,
    ⟨"payload", variant.payload = .null, WritesValue variant.payload⟩]

/-- The fields of config rules. -/
def ConfigRules.forms (config : ConfigRules) : List (FieldForm Node) :=
  [⟨"version", False, (· = .number (.ok (.integer config.version.toInt)))⟩,
    ⟨"variants", config.variants = [],
      Node.IsList (fun variant => Node.IsRecord variant.forms) config.variants⟩]

/-- The fields of a definition. -/
def Definition.forms (definition : Definition) : List (FieldForm Node) :=
  [⟨"key", False, (· = .text (.ok definition.key))⟩,
    ⟨"targeting", False, Node.IsRecord definition.targeting.forms⟩,
    ⟨"config", definition.config = none,
      Node.IsOption (fun config => Node.IsRecord config.forms) definition.config⟩]

/-- The fields of a successful response with definitions. -/
def definitionsForms (definitions : List Definition) : List (FieldForm Node) :=
  [⟨"success", False, (· = .bool true)⟩,
    ⟨"features", definitions = [],
      Node.IsList (fun definition => Node.IsRecord definition.forms) definitions⟩]

/-- Whether the payloads of all variants are well-formed. -/
def Definition.PayloadsWellFormed (definition : Definition) : Prop :=
  ∀ config ∈ definition.config, ∀ variant ∈ config.variants, variant.payload.WellFormed

/-! ## Reading -/

/-- Whatever writes a value is read as that value. -/
theorem reads_value
    {value : Value}
    (wellFormed : value.WellFormed) :
    readValue.Reads (WritesValue value) value := by
  rintro source node accepts ⟨tree, read, written⟩
  rw [readValue, Reader.reads_tree tree accepts read, Except.map_ok,
    value.ofTree_of_writtenAs wellFormed written]

/-- A targeting rule is read from its field. -/
theorem reads_rule (filter : Filter) :
    readRule.Reads (Node.IsRecord (ruleForms filter)) filter := by
  refine Reader.reads_record (fun names => given names "filter" filter) ?_
  constructor
  case start_eq =>
    rfl
  case fills =>
    exact .cons (.into (reads_filter filter) (fun _ => rfl) (by simp [given_cons])) .nil
  case finish_eq =>
    intro names complete
    simp only [ruleForms, List.forall_mem_cons, false_or] at complete
    obtain ⟨written, -⟩ := complete
    exact present_given written filter

/-- Targeting rules are read from their fields. -/
theorem reads_targeting (targeting : TargetingRules) :
    readTargeting.Reads (Node.IsRecord targeting.forms) targeting := by
  refine
    Reader.reads_record
      (fun names =>
        { version := given names "version" targeting.version
          rules := given names "rules" targeting.rules })
      ?_
  constructor
  case start_eq =>
    rfl
  case fills =>
    have readsRules := Reader.reads_list fun filter (_ : filter ∈ targeting.rules) =>
      reads_rule filter
    exact
      .cons
        (.into (Reader.reads_signed targeting.version) (fun _ => rfl) (by simp [given_cons]))
        (.cons (.into readsRules (fun _ => rfl) (by simp [given_cons])) .nil)
  case finish_eq =>
    intro names complete
    simp only [TargetingRules.forms, List.forall_mem_cons, false_or] at complete
    obtain ⟨version, rules, -⟩ := complete
    simp only [present_given version, getD_given rules, ok_bind]
    rfl

/-- A variant is read from its fields. -/
theorem reads_variant
    {variant : Variant}
    (wellFormed : variant.payload.WellFormed) :
    readVariant.Reads (Node.IsRecord variant.forms) variant := by
  refine
    Reader.reads_record
      (fun names =>
        { filter := given names "filter" variant.filter
          key := given names "key" variant.key
          payload := given names "payload" variant.payload })
      ?_
  constructor
  case start_eq =>
    rfl
  case fills =>
    exact
      .cons (.into (reads_filter variant.filter) (fun _ => rfl) (by simp [given_cons]))
        (.cons (.into (Reader.reads_text variant.key) (fun _ => rfl) (by simp [given_cons]))
          (.cons (.into (reads_value wellFormed) (fun _ => rfl) (by simp [given_cons])) .nil))
  case finish_eq =>
    intro names complete
    simp only [Variant.forms, List.forall_mem_cons, false_or] at complete
    obtain ⟨filter, key, payload, -⟩ := complete
    simp only [present_given filter, present_given key, getD_given payload, ok_bind]
    rfl

/-- Config rules are read from their fields. -/
theorem reads_config
    {config : ConfigRules}
    (wellFormed : ∀ variant ∈ config.variants, variant.payload.WellFormed) :
    readConfig.Reads (Node.IsRecord config.forms) config := by
  refine
    Reader.reads_record
      (fun names =>
        { version := given names "version" config.version
          variants := given names "variants" config.variants })
      ?_
  constructor
  case start_eq =>
    rfl
  case fills =>
    have readsVariants := Reader.reads_list fun variant member =>
      reads_variant (wellFormed variant member)
    exact
      .cons (.into (Reader.reads_signed config.version) (fun _ => rfl) (by simp [given_cons]))
        (.cons (.into readsVariants (fun _ => rfl) (by simp [given_cons])) .nil)
  case finish_eq =>
    intro names complete
    simp only [ConfigRules.forms, List.forall_mem_cons, false_or] at complete
    obtain ⟨version, variants, -⟩ := complete
    simp only [present_given version, getD_given variants, ok_bind]
    rfl

/-- A definition is read from its fields. -/
theorem reads_definition
    {definition : Definition}
    (wellFormed : definition.PayloadsWellFormed) :
    readDefinition.Reads (Node.IsRecord definition.forms) definition := by
  refine
    Reader.reads_record
      (fun names =>
        { key := given names "key" definition.key
          targeting := given names "targeting" definition.targeting
          config := given names "config" definition.config })
      ?_
  constructor
  case start_eq =>
    rfl
  case fills =>
    have readsConfig :
        (Reader.optional readConfig).Reads
          (Node.IsOption (fun config => Node.IsRecord config.forms) definition.config)
          definition.config :=
      Reader.reads_optional (fun config found => reads_config (wellFormed config found))
        fun config _ => Node.not_isRecord_null config.forms
    exact
      .cons (.into (Reader.reads_text definition.key) (fun _ => rfl) (by simp [given_cons]))
        (.cons
          (.into (reads_targeting definition.targeting) (fun _ => rfl) (by simp [given_cons]))
          (.cons (.into readsConfig (fun _ => rfl) (by simp [given_cons])) .nil))
  case finish_eq =>
    intro names complete
    simp only [Definition.forms, List.forall_mem_cons, false_or] at complete
    obtain ⟨key, targeting, config, -⟩ := complete
    simp only [present_given key, present_given targeting, join_given config, ok_bind]
    rfl

/-- A successful response with definitions is read from its fields. -/
theorem reads_definitions
    {definitions : List Definition}
    (wellFormed : ∀ definition ∈ definitions, definition.PayloadsWellFormed) :
    readDefinitions.Reads (Node.IsRecord (definitionsForms definitions)) (true, definitions) := by
  refine
    Reader.reads_record
      (fun names =>
        { success := given names "success" true
          features := given names "features" definitions })
      ?_
  constructor
  case start_eq =>
    rfl
  case fills =>
    have readsFeatures := Reader.reads_list fun definition member =>
      reads_definition (wellFormed definition member)
    exact
      .cons (.into (Reader.reads_bool true) (fun _ => rfl) (by simp [given_cons]))
        (.cons (.into readsFeatures (fun _ => rfl) (by simp [given_cons])) .nil)
  case finish_eq =>
    intro names complete
    simp only [definitionsForms, List.forall_mem_cons, false_or] at complete
    obtain ⟨success, features, -⟩ := complete
    simp only [present_given success, getD_given features, ok_bind]
    rfl

/-- A text that writes definitions, in whatever way, is read as these definitions. -/
theorem definitionsOfText_of_written
    {definitions : List Definition}
    (wellFormed : ∀ definition ∈ definitions, definition.PayloadsWellFormed)
    {root : Node}
    (written : root.IsRecord (definitionsForms definitions))
    (shallow : root.depth ≤ Json.nestingLimit)
    {text : String}
    (spelled : Spells root text.toList) :
    definitionsOfText text = .ok definitions := by
  have read :
      readDefinitions (.text Json.nestingLimit) root = .ok (true, definitions) :=
    reads_definitions wellFormed (.of_spells spelled shallow) written
  rw [definitionsOfText, Json.Document.ofText_spelled spelled, Json.Document.readWith, read]
  rfl

/-- Fields out of order, one that is unknown, and an escape change nothing. -/
theorem definitionsOfText_reordered :
    definitionsOfText
        ("\x7b\"features\":[\x7b\"x\":null,\"targeting\":\x7b\"rules\":[\x7b\"filter\":" ++
          "\x7b\"value\":true,\"type\":\"constant\"\x7d\x7d],\"version\":1\x7d," ++
          "\"key\":\"\\u0061\"\x7d],\"success\": true\x7d") =
      .ok [⟨"a", ⟨1, [.constant true]⟩, none⟩] := by
  let filter : Node :=
    .ofRecord [("value", .bool true), ("type", .text (.ok "constant"))]
  let targeting : Node :=
    .ofRecord
      [("rules", .array [.ofRecord [("filter", filter)]] .closed),
        ("version", .number (.ok (.integer 1)))]
  let definition : Node :=
    .ofRecord [("x", .null), ("targeting", targeting), ("key", .text (.ok "a"))]
  let root : Node :=
    .ofRecord [("features", .array [definition] .closed), ("success", .bool true)]
  have filterSpelled : Spells filter _ :=
    .of_bare
      (.object
        (.next (.of_isPlain "value" (by decide)) (.of_bare .true)
          (.last (.of_isPlain "type" (by decide)) (.of_isPlain "constant" (by decide)))))
  have one : SpellsNumeral ⟨false, ['1'], none, none⟩ _ :=
    .parts ⟨nofun, List.forall_mem_singleton.mpr rfl⟩ nofun .lacking .lacking
  have ruleSpelled :=
    SpellsBare.object (.last (.of_isPlain "filter" (by decide)) filterSpelled)
  have targetingSpelled : Spells targeting _ :=
    .of_bare
      (.object
        (.next (.of_isPlain "rules" (by decide)) (.of_bare (.array (.last (.of_bare ruleSpelled))))
          (.last (.of_isPlain "version" (by decide)) (.of_bare (.number one)))))
  have keySpelled : Spells (.text (.ok "a")) _ :=
    .of_bare (.text (.paired (@SpellsText.unit '0' '0' '6' '1' 0x61 [] [] rfl rfl rfl .empty)))
  have definitionSpelled : Spells definition _ :=
    .of_bare
      (.object
        (.next (.of_isPlain "x" (by decide)) (.of_bare .null)
          (.next (.of_isPlain "targeting" (by decide)) targetingSpelled
            (.last (.of_isPlain "key" (by decide)) keySpelled))))
  have spelled : Spells root _ :=
    .of_bare
      (.object
        (.next (.of_isPlain "features" (by decide)) (.of_bare (.array (.last definitionSpelled)))
          (.last (.of_isPlain "success" (by decide))
            (@Spells.padded _ [' '] _ [] (by decide) .true (by decide)))))
  have filterWritten : WritesFilter (.constant true) filter := by
    refine
      ⟨⟨_, rfl, by decide, by simp [Targeting.kindField], by simp [Targeting.kindField]; rfl⟩,
        .object [("value", .bool true), ("type", .text "constant")], rfl, ?_⟩
    rw [Filter.WrittenAs]
    exact ⟨_, rfl, by decide, by simp [Targeting.kindField], by simp [Targeting.kindField]; rfl⟩
  have ruleWritten : Node.IsRecord (ruleForms (.constant true)) (.ofRecord [("filter", filter)]) :=
    ⟨_, rfl, by decide, by simp [ruleForms], by simpa [ruleForms] using filterWritten⟩
  have targetingWritten :
      targeting.IsRecord (TargetingRules.forms ⟨1, [.constant true]⟩) := by
    refine ⟨_, rfl, by decide, by simp [TargetingRules.forms], ?_⟩
    simpa [TargetingRules.forms] using ⟨_, rfl, .cons ruleWritten .nil⟩
  have definitionWritten :
      definition.IsRecord (Definition.forms ⟨"a", ⟨1, [.constant true]⟩, none⟩) := by
    refine ⟨_, rfl, by decide, by simp [Definition.forms], ?_⟩
    simpa [Definition.forms] using targetingWritten
  have written : root.IsRecord (definitionsForms [⟨"a", ⟨1, [.constant true]⟩, none⟩]) := by
    refine ⟨_, rfl, by decide, by simp [definitionsForms], ?_⟩
    simpa [definitionsForms] using ⟨_, rfl, .cons definitionWritten .nil⟩
  refine definitionsOfText_of_written ?_ written (by decide) ?_
  · simp [Definition.PayloadsWellFormed]
  · simp only [String.toList_append]
    simpa using spelled

end FeatureFlags.Feature
