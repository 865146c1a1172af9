import FeatureFlags.Feature.DefinitionReading
import FeatureFlags.Proofs.Json.SpelledDocument
import FeatureFlags.Proofs.Targeting.FilterAlteration

namespace FeatureFlags.Feature

/-!
# Forward compatibility

A response that is accepted is still accepted after one of its filters, however deep, has
been replaced by one of an unknown kind, or the operator of a filter by an unknown one. The
definitions are the same but for that filter.
-/

open FeatureFlags.Json (Document Node Reader Spells SpellsBare SpellsNumeral Tree alterAt?
  alterSlot?_eq bind_eq_ok exists_of_alterAt?_getD present_eq_ok)
open FeatureFlags.Targeting (Alters Filter Hop Novelty alterNodeInside? kindField readFilter)

/-! ## Places -/

namespace TargetingRules

/-- Change the filter of a rule. -/
def changeRule?
    (index : Nat)
    (change : Filter → Option Filter)
    (targeting : TargetingRules) :
    Option TargetingRules :=
  (alterAt? change index targeting.rules).map fun rules => { targeting with rules }

end TargetingRules

namespace Variant

/-- Change the filter of a variant. -/
def changeFilter?
    (change : Filter → Option Filter)
    (variant : Variant) :
    Option Variant :=
  (change variant.filter).map fun filter => { variant with filter }

end Variant

namespace ConfigRules

/-- Change a variant. -/
def changeVariant?
    (index : Nat)
    (change : Variant → Option Variant)
    (config : ConfigRules) :
    Option ConfigRules :=
  (alterAt? change index config.variants).map fun variants => { config with variants }

end ConfigRules

namespace Definition

/-- Change the targeting rules. -/
def changeTargeting?
    (change : TargetingRules → Option TargetingRules)
    (definition : Definition) :
    Option Definition :=
  (change definition.targeting).map fun targeting => { definition with targeting }

/-- Change the config rules, if there are any. -/
def changeConfig?
    (change : ConfigRules → Option ConfigRules)
    (definition : Definition) :
    Option Definition :=
  (definition.config.bind change).map fun config => { definition with config := some config }

end Definition

/-- Where in a response a filter stands. -/
inductive FilterPlace where
  | rule (feature index : Nat) (path : List Hop)
  | variant (feature index : Nat) (path : List Hop)

namespace FilterPlace

/-- Change the filter at a place, if there is one. -/
def change?
    (change : Filter → Option Filter) :
    FilterPlace → List Definition → Option (List Definition)
  | .rule feature index path =>
      alterAt?
        (Definition.changeTargeting?
          (TargetingRules.changeRule? index (Filter.changeInside? change path)))
        feature
  | .variant feature index path =>
      alterAt?
        (Definition.changeConfig?
          (ConfigRules.changeVariant? index
            (Variant.changeFilter? (Filter.changeInside? change path))))
        feature

/-- Alter the node of the filter at a place. -/
def alter? (edit : Node → Option Node) : FilterPlace → Node → Option Node
  | .rule feature index path =>
      Node.alterField? "features" 1
        (Node.alterItem? feature
          (Node.alterField? "targeting" 1
            (Node.alterField? "rules" 1
              (Node.alterItem? index
                (Node.alterField? "filter" 0 (alterNodeInside? edit path))))))
  | .variant feature index path =>
      Node.alterField? "features" 1
        (Node.alterItem? feature
          (Node.alterField? "config" 2
            (Node.alterField? "variants" 1
              (Node.alterItem? index
                (Node.alterField? "filter" 0 (alterNodeInside? edit path))))))

end FilterPlace

/-! ## Reading -/

section Reading

variable
  {edit : Node → Option Node}

/-- A rule is read with its filter altered. -/
theorem follows_rule
    {change : Filter → Option Filter}
    (follows : readFilter.Follows edit change) :
    readRule.Follows (Node.alterField? "filter" 0 edit) change := by
  refine Reader.follows_record [] [] ?slot rfl ?finish follows
  case slot =>
    exact .alone (fun _ _ => rfl) fun _ _ _ => rfl
  case finish =>
    intro draft filter changed _ finished isChanged
    exact ⟨_, alterSlot?_eq (present_eq_ok.mp finished) isChanged, fun _ => rfl⟩

/-- Targeting rules are read with a filter altered. -/
theorem follows_targeting
    {change : Filter → Option Filter}
    (follows : readFilter.Follows edit change)
    (index : Nat) :
    readTargeting.Follows
      (Node.alterField? "rules" 1 (Node.alterItem? index (Node.alterField? "filter" 0 edit)))
      (TargetingRules.changeRule? index change) := by
  refine
    Reader.follows_record [_] [] ?slot rfl ?finish
      (Reader.follows_list (follows_rule follows) index)
  case slot =>
    refine .beside (.alone ?_ ?_) (by decide) ?_ ?_ ?_
    all_goals intros; rfl
  case finish =>
    intro draft targeting changed _ finished isChanged
    obtain ⟨version, versionRead, ⟨⟩⟩ := bind_eq_ok.mp finished
    obtain ⟨changedRules, rulesChanged, rfl⟩ := Option.map_eq_some_iff.mp isChanged
    obtain ⟨rules, rulesRead, rulesChanged⟩ := exists_of_alterAt?_getD rulesChanged
    refine ⟨_, alterSlot?_eq rulesRead rulesChanged, fun _ => ?_⟩
    exact bind_eq_ok.mpr ⟨version, versionRead, rfl⟩

/-- A variant is read with its filter altered. -/
theorem follows_variant
    {change : Filter → Option Filter}
    (follows : readFilter.Follows edit change) :
    readVariant.Follows (Node.alterField? "filter" 0 edit) (Variant.changeFilter? change) := by
  refine Reader.follows_record [] [_, _] ?slot rfl ?finish follows
  case slot =>
    refine .beside (.beside (.alone ?_ ?_) (by decide) ?_ ?_ ?_) (by decide) ?_ ?_ ?_
    all_goals intros; rfl
  case finish =>
    intro draft variant changed _ finished isChanged
    obtain ⟨filter, filterRead, finished⟩ := bind_eq_ok.mp finished
    obtain ⟨key, keyRead, ⟨⟩⟩ := bind_eq_ok.mp finished
    obtain ⟨changedFilter, filterChanged, rfl⟩ := Option.map_eq_some_iff.mp isChanged
    refine ⟨_, alterSlot?_eq (present_eq_ok.mp filterRead) filterChanged, fun _ => ?_⟩
    exact bind_eq_ok.mpr ⟨_, rfl, bind_eq_ok.mpr ⟨key, keyRead, rfl⟩⟩

/-- Config rules are read with the filter of a variant altered. -/
theorem follows_config
    {change : Filter → Option Filter}
    (follows : readFilter.Follows edit change)
    (index : Nat) :
    readConfig.Follows
      (Node.alterField? "variants" 1 (Node.alterItem? index (Node.alterField? "filter" 0 edit)))
      (ConfigRules.changeVariant? index (Variant.changeFilter? change)) := by
  refine
    Reader.follows_record [_] [] ?slot rfl ?finish
      (Reader.follows_list (follows_variant follows) index)
  case slot =>
    refine .beside (.alone ?_ ?_) (by decide) ?_ ?_ ?_
    all_goals intros; rfl
  case finish =>
    intro draft config changed _ finished isChanged
    obtain ⟨version, versionRead, ⟨⟩⟩ := bind_eq_ok.mp finished
    obtain ⟨changedVariants, variantsChanged, rfl⟩ := Option.map_eq_some_iff.mp isChanged
    obtain ⟨variants, variantsRead, variantsChanged⟩ := exists_of_alterAt?_getD variantsChanged
    refine ⟨_, alterSlot?_eq variantsRead variantsChanged, fun _ => ?_⟩
    exact bind_eq_ok.mpr ⟨version, versionRead, rfl⟩

/-- A definition is read with its targeting rules altered. -/
theorem follows_definition_targeting
    {change : TargetingRules → Option TargetingRules}
    (follows : readTargeting.Follows edit change) :
    readDefinition.Follows (Node.alterField? "targeting" 1 edit)
      (Definition.changeTargeting? change) := by
  refine Reader.follows_record [_] [_] ?slot rfl ?finish follows
  case slot =>
    refine .beside (.beside (.alone ?_ ?_) (by decide) ?_ ?_ ?_) (by decide) ?_ ?_ ?_
    all_goals intros; rfl
  case finish =>
    intro draft definition changed _ finished isChanged
    obtain ⟨key, keyRead, finished⟩ := bind_eq_ok.mp finished
    obtain ⟨targeting, targetingRead, ⟨⟩⟩ := bind_eq_ok.mp finished
    obtain ⟨changedTargeting, targetingChanged, rfl⟩ := Option.map_eq_some_iff.mp isChanged
    refine ⟨_, alterSlot?_eq (present_eq_ok.mp targetingRead) targetingChanged, fun _ => ?_⟩
    exact bind_eq_ok.mpr ⟨key, keyRead, rfl⟩

/-- A definition is read with its config rules altered. -/
theorem follows_definition_config
    {change : ConfigRules → Option ConfigRules}
    (follows : readConfig.Follows edit change)
    (notNull : ∀ {node altered}, edit node = some altered → altered ≠ .null) :
    readDefinition.Follows (Node.alterField? "config" 2 edit)
      (Definition.changeConfig? change) := by
  refine
    Reader.follows_record [_, _] [] ?slot rfl ?finish (Reader.follows_optional follows notNull)
  case slot =>
    refine .beside (.beside (.alone ?_ ?_) (by decide) ?_ ?_ ?_) (by decide) ?_ ?_ ?_
    all_goals intros; rfl
  case finish =>
    intro draft definition changed _ finished isChanged
    obtain ⟨key, keyRead, finished⟩ := bind_eq_ok.mp finished
    obtain ⟨targeting, targetingRead, ⟨⟩⟩ := bind_eq_ok.mp finished
    obtain ⟨changedConfig, configChanged, rfl⟩ := Option.map_eq_some_iff.mp isChanged
    cases configRead : draft.config with
    | none =>
        simp [configRead] at configChanged
    | some config? =>
        rw [configRead, Option.join_some] at configChanged
        refine ⟨_, alterSlot?_eq configRead (congrArg (Option.map some) configChanged), fun _ => ?_⟩
        exact bind_eq_ok.mpr ⟨key, keyRead, bind_eq_ok.mpr ⟨targeting, targetingRead, rfl⟩⟩

/-- A response is read with one of its definitions altered. -/
theorem follows_definitions
    {change : Definition → Option Definition}
    (follows : readDefinition.Follows edit change)
    (index : Nat) :
    readDefinitions.Follows (Node.alterField? "features" 1 (Node.alterItem? index edit))
      fun response => (alterAt? change index response.2).map (response.1, ·) := by
  refine Reader.follows_record [_] [] ?slot rfl ?finish (Reader.follows_list follows index)
  case slot =>
    refine .beside (.alone ?_ ?_) (by decide) ?_ ?_ ?_
    all_goals intros; rfl
  case finish =>
    intro draft response changed _ finished isChanged
    obtain ⟨success, successRead, ⟨⟩⟩ := bind_eq_ok.mp finished
    obtain ⟨changedDefinitions, definitionsChanged, rfl⟩ := Option.map_eq_some_iff.mp isChanged
    obtain ⟨definitions, definitionsRead, definitionsChanged⟩ :=
      exists_of_alterAt?_getD definitionsChanged
    refine ⟨_, alterSlot?_eq definitionsRead definitionsChanged, fun _ => ?_⟩
    exact bind_eq_ok.mpr ⟨success, successRead, rfl⟩

/-- A response is read with the filter at a place altered. -/
theorem FilterPlace.follows
    {treeEdit : Tree → Option Tree}
    {change : Filter → Option Filter}
    (alters : Alters edit treeEdit change)
    (place : FilterPlace) :
    readDefinitions.Follows (place.alter? edit)
      fun response => (place.change? change response.2).map (response.1, ·) := by
  cases place with
  | rule feature index path =>
      have readsTargeting := follows_targeting (alters.inside path).readFilter index
      exact follows_definitions (follows_definition_targeting readsTargeting) feature
  | variant feature index path =>
      have readsConfig := follows_config (alters.inside path).readFilter index
      exact
        follows_definitions (follows_definition_config readsConfig Node.ne_null_of_alterField?)
          feature

end Reading

/-! ## Responses -/

/-- An accepted response is a successful one, with nothing behind it. -/
theorem definitionsOfText_eq_ok
    {text : String}
    {definitions : List Definition} :
    definitionsOfText text = .ok definitions ↔
      readDefinitions (.text Json.nestingLimit) (Document.ofText text).root =
          .ok (true, definitions) ∧
        (Document.ofText text).surplus = false := by
  rw [definitionsOfText, Document.readWith]
  cases readDefinitions (.text Json.nestingLimit) (Document.ofText text).root with
  | error fault =>
      simp [successful]
  | ok response =>
      obtain ⟨success, content⟩ := response
      cases (Document.ofText text).surplus <;> cases success <;>
        simp [successful, pure, Except.pure]

/--
A response that is accepted has a node for every filter in it. Whatever is not known may stand
in its place, and then the response is accepted with that filter, and no other one, changed.
-/
theorem definitionsOfText_altered
    {text : String}
    {definitions changed : List Definition}
    (accepted : definitionsOfText text = .ok definitions)
    {novelty : Novelty}
    (isUnknown : novelty.IsUnknown)
    {place : FilterPlace}
    (isChanged : place.change? novelty.change? definitions = some changed) :
    ∃ root,
      place.alter? novelty.alter? (Document.ofText text).root = some root ∧
        ∀ text',
          Document.ofText text' = ⟨root, false⟩ →
          root.depth ≤ Json.nestingLimit →
          definitionsOfText text' = .ok changed := by
  obtain ⟨read, -⟩ := definitionsOfText_eq_ok.mp accepted
  obtain ⟨treeEdit, alters⟩ := Novelty.exists_alters isUnknown
  obtain ⟨root, edited, reads⟩ :=
    place.follows alters (.text Json.nestingLimit) (Document.isProper_ofText text) read
      (congrArg (Option.map (true, ·)) isChanged)
  refine ⟨root, edited, fun text' isRoot shallow => definitionsOfText_eq_ok.mpr ?_⟩
  rw [isRoot]
  refine ⟨reads ?_, rfl⟩
  rintro budget ⟨⟩
  exact shallow

/-- The filter of a negation is replaced by one that only a later version knows. -/
theorem definitionsOfText_altered_negated :
    definitionsOfText
        ("\x7b\"success\":true,\"features\":[\x7b\"key\":\"a\",\"targeting\":\x7b\"version\":1," ++
          "\"rules\":[\x7b\"filter\":\x7b\"type\":\"negation\",\"filter\":" ++
          "\x7b\"x\":[null],\"type\":\"later\"\x7d\x7d\x7d]\x7d\x7d]\x7d") =
      .ok [⟨"a", ⟨1, [.negation .unsupported]⟩, none⟩] := by
  let response (negated : Node) : Node :=
    let filter : Node := .ofRecord [("type", .text (.ok "negation")), ("filter", negated)]
    let targeting : Node :=
      .ofRecord
        [("version", .number (.ok (.integer 1))),
          ("rules", .array [.ofRecord [("filter", filter)]] .closed)]
    let definition : Node := .ofRecord [("key", .text (.ok "a")), ("targeting", targeting)]
    .ofRecord [("success", .bool true), ("features", .array [definition] .closed)]
  let known : Node := .ofRecord [("type", .text (.ok "constant")), ("value", .bool true)]
  let later : Node := .ofRecord [("x", .array [.null] .closed), ("type", .text (.ok "later"))]
  have one : SpellsNumeral ⟨false, ['1'], none, none⟩ _ :=
    .parts ⟨nofun, List.forall_mem_singleton.mpr rfl⟩ nofun .lacking .lacking
  have responseSpelled {negated : Node} {text : List Char} (spelled : Spells negated text) :
      Spells (response negated) _ :=
    have filterSpelled :=
      SpellsBare.object
        (.next (.of_isPlain "type" (by decide)) (.of_isPlain "negation" (by decide))
          (.last (.of_isPlain "filter" (by decide)) spelled))
    have ruleSpelled :=
      SpellsBare.object (.last (.of_isPlain "filter" (by decide)) (.of_bare filterSpelled))
    have targetingSpelled :=
      SpellsBare.object
        (.next (.of_isPlain "version" (by decide)) (.of_bare (.number one))
          (.last (.of_isPlain "rules" (by decide))
            (.of_bare (.array (.last (.of_bare ruleSpelled))))))
    have definitionSpelled :=
      SpellsBare.object
        (.next (.of_isPlain "key" (by decide)) (.of_isPlain "a" (by decide))
          (.last (.of_isPlain "targeting" (by decide)) (.of_bare targetingSpelled)))
    .of_bare
      (.object
        (.next (.of_isPlain "success" (by decide)) (.of_bare .true)
          (.last (.of_isPlain "features" (by decide))
            (.of_bare (.array (.last (.of_bare definitionSpelled)))))))
  have knownSpelled : Spells known _ :=
    .of_bare
      (.object
        (.next (.of_isPlain "type" (by decide)) (.of_isPlain "constant" (by decide))
          (.last (.of_isPlain "value" (by decide)) (.of_bare .true))))
  have laterSpelled : Spells later _ :=
    .of_bare
      (.object
        (.next (.of_isPlain "x" (by decide)) (.of_bare (.array (.last (.of_bare .null))))
          (.last (.of_isPlain "type" (by decide)) (.of_isPlain "later" (by decide)))))
  obtain ⟨text, isResponse⟩ := Document.exists_ofText_spelled (responseSpelled knownSpelled)
  have accepted :
      definitionsOfText text = .ok [⟨"a", ⟨1, [.negation (.constant true)]⟩, none⟩] := by
    rw [definitionsOfText_eq_ok, isResponse]
    exact ⟨rfl, rfl⟩
  have isUnknown : (Novelty.filter later).IsUnknown := by
    refine ⟨"later", ?_, ?_, _, rfl⟩
    · exact ⟨_, rfl, by decide, by simp [kindField], by simp [kindField]⟩
    · intro kind _
      cases kind <;> decide
  let place : FilterPlace := .rule 0 0 [.negated]
  have isChanged :
      place.change? (Novelty.filter later).change?
          [⟨"a", ⟨1, [.negation (.constant true)]⟩, none⟩] =
        some [⟨"a", ⟨1, [.negation .unsupported]⟩, none⟩] :=
    rfl
  have altered :
      place.alter? (Novelty.filter later).alter? (response known) = some (response later) :=
    rfl
  obtain ⟨root, edited, reads⟩ := definitionsOfText_altered accepted isUnknown isChanged
  rw [isResponse] at edited
  obtain rfl : response later = root := Option.some.inj (altered.symm.trans edited)
  refine reads _ (Document.ofText_spelled ?_) (by decide)
  simp only [String.toList_append]
  simpa using responseSpelled laterSpelled

end FeatureFlags.Feature
