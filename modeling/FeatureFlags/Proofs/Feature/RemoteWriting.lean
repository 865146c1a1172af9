import FeatureFlags.Feature.Evaluation
import FeatureFlags.Feature.Remote
import FeatureFlags.Proofs.Feature.DefinitionWriting

namespace FeatureFlags.Feature

/-!
# Written results

The texts that write a response with evaluated features, and the results that are written
as such features. A result whose issues are absent fields loses nothing on the way: what
was evaluated here is what is made of the text.
-/

open FeatureFlags.Json (FieldForm Node Reader Spells SpellsBare SpellsNumeral getD_given given
  given_cons join_given ok_bind present_given)
open FeatureFlags.Targeting (Issue)

/-! ## Forms -/

/-- Whether a node writes a list of texts, or is null where there is none. -/
def WritesTexts : Option (List String) → Node → Prop :=
  Node.IsOption (Node.IsList fun text node => node = .text (.ok text))

/-- Whether a node writes a list of booleans, or is null where there is none. -/
def WritesBools : Option (List Bool) → Node → Prop :=
  Node.IsOption (Node.IsList fun value node => node = .bool value)

/-- The fields of a config that the backend evaluated. -/
def RemoteConfig.forms (config : RemoteConfig) : List (FieldForm Node) :=
  [⟨"key", config.key = none, Node.IsOption (fun key node => node = .text (.ok key)) config.key⟩,
    ⟨"payload", config.payload = .null, WritesValue config.payload⟩,
    ⟨"version", config.version = 0, (· = .number (.ok (.integer config.version.toInt)))⟩,
    ⟨"missingContextFields", config.missing = none, WritesTexts config.missing⟩,
    ⟨"ruleEvaluationResults", config.results = none, WritesBools config.results⟩]

/-- The fields of a feature that the backend evaluated. -/
def RemoteFeature.forms (feature : RemoteFeature) : List (FieldForm Node) :=
  [⟨"key", False, (· = .text (.ok feature.key))⟩,
    ⟨"isEnabled", False, (· = .bool feature.enabled)⟩,
    ⟨"targetingVersion", feature.version = 0,
      (· = .number (.ok (.integer feature.version.toInt)))⟩,
    ⟨"config", feature.config = none,
      Node.IsOption (fun config => Node.IsRecord config.forms) feature.config⟩,
    ⟨"missingContextFields", feature.missing = none, WritesTexts feature.missing⟩,
    ⟨"ruleEvaluationResults", feature.results = none, WritesBools feature.results⟩]

/-- The fields of a successful response with evaluated features. -/
def RemoteFeatures.forms (response : RemoteFeatures) : List (FieldForm Node) :=
  [⟨"success", False, (· = .bool true)⟩,
    ⟨"remoteContextUsed", response.contextUsed = false, (· = .bool response.contextUsed)⟩,
    ⟨"features", response.features = [],
      Node.IsList (fun feature => Node.IsRecord feature.forms) response.features⟩]

/-- Whether the payload of the config is well-formed. -/
def RemoteFeature.PayloadWellFormed (feature : RemoteFeature) : Prop :=
  ∀ config ∈ feature.config, config.payload.WellFormed

/-! ## Reading -/

theorem reads_texts (texts : Option (List String)) :
    readTexts.Reads (WritesTexts texts) texts :=
  Reader.reads_optional
    (fun _ _ => Reader.reads_list fun text _ => Reader.reads_text text)
    fun values _ => Node.not_isList_null _ values

theorem reads_bools (values : Option (List Bool)) :
    readBools.Reads (WritesBools values) values :=
  Reader.reads_optional
    (fun _ _ => Reader.reads_list fun value _ => Reader.reads_bool value)
    fun values _ => Node.not_isList_null _ values

/-- A config that the backend evaluated is read from its fields. -/
theorem reads_remoteConfig
    {config : RemoteConfig}
    (wellFormed : config.payload.WellFormed) :
    readRemoteConfig.Reads (Node.IsRecord config.forms) config := by
  refine
    Reader.reads_record
      (fun names =>
        { key := given names "key" config.key
          payload := given names "payload" config.payload
          version := given names "version" config.version
          missing := given names "missingContextFields" config.missing
          results := given names "ruleEvaluationResults" config.results })
      ?_
  constructor
  case start_eq =>
    rfl
  case fills =>
    have readsKey :
        (Reader.optional Reader.text).Reads
          (Node.IsOption (fun key node => node = .text (.ok key)) config.key) config.key :=
      Reader.reads_optional (fun key _ => Reader.reads_text key) fun _ _ => nofun
    exact
      .cons (.into readsKey (fun _ => rfl) (by simp [given_cons]))
        (.cons (.into (reads_value wellFormed) (fun _ => rfl) (by simp [given_cons]))
          (.cons
            (.into (Reader.reads_signed config.version) (fun _ => rfl) (by simp [given_cons]))
            (.cons (.into (reads_texts config.missing) (fun _ => rfl) (by simp [given_cons]))
              (.cons (.into (reads_bools config.results) (fun _ => rfl) (by simp [given_cons]))
                .nil))))
  case finish_eq =>
    intro names complete
    simp only [RemoteConfig.forms, List.forall_mem_cons] at complete
    obtain ⟨key, payload, version, missing, results, -⟩ := complete
    simp only [join_given key, getD_given payload, getD_given version, join_given missing,
      join_given results]
    rfl

/-- A feature that the backend evaluated is read from its fields. -/
theorem reads_remoteFeature
    {feature : RemoteFeature}
    (wellFormed : feature.PayloadWellFormed) :
    readRemoteFeature.Reads (Node.IsRecord feature.forms) feature := by
  refine
    Reader.reads_record
      (fun names =>
        { key := given names "key" feature.key
          enabled := given names "isEnabled" feature.enabled
          version := given names "targetingVersion" feature.version
          config := given names "config" feature.config
          missing := given names "missingContextFields" feature.missing
          results := given names "ruleEvaluationResults" feature.results })
      ?_
  constructor
  case start_eq =>
    rfl
  case fills =>
    have readsConfig :
        (Reader.optional readRemoteConfig).Reads
          (Node.IsOption (fun config => Node.IsRecord config.forms) feature.config)
          feature.config :=
      Reader.reads_optional (fun config found => reads_remoteConfig (wellFormed config found))
        fun config _ => Node.not_isRecord_null config.forms
    exact
      .cons (.into (Reader.reads_text feature.key) (fun _ => rfl) (by simp [given_cons]))
        (.cons (.into (Reader.reads_bool feature.enabled) (fun _ => rfl) (by simp [given_cons]))
          (.cons
            (.into (Reader.reads_signed feature.version) (fun _ => rfl) (by simp [given_cons]))
            (.cons (.into readsConfig (fun _ => rfl) (by simp [given_cons]))
              (.cons (.into (reads_texts feature.missing) (fun _ => rfl) (by simp [given_cons]))
                (.cons (.into (reads_bools feature.results) (fun _ => rfl) (by simp [given_cons]))
                  .nil)))))
  case finish_eq =>
    intro names complete
    simp only [RemoteFeature.forms, List.forall_mem_cons, false_or] at complete
    obtain ⟨key, enabled, version, config, missing, results, -⟩ := complete
    simp only [present_given key, present_given enabled, getD_given version, join_given config,
      join_given missing, join_given results, ok_bind]
    rfl

/-- A successful response with evaluated features is read from its fields. -/
theorem reads_remoteFeatures
    {response : RemoteFeatures}
    (wellFormed : ∀ feature ∈ response.features, feature.PayloadWellFormed) :
    readRemoteFeatures.Reads (Node.IsRecord response.forms) (true, response) := by
  refine
    Reader.reads_record
      (fun names =>
        { success := given names "success" true
          contextUsed := given names "remoteContextUsed" response.contextUsed
          features := given names "features" response.features })
      ?_
  constructor
  case start_eq =>
    rfl
  case fills =>
    have readsFeatures := Reader.reads_list fun feature member =>
      reads_remoteFeature (wellFormed feature member)
    exact
      .cons (.into (Reader.reads_bool true) (fun _ => rfl) (by simp [given_cons]))
        (.cons
          (.into (Reader.reads_bool response.contextUsed) (fun _ => rfl) (by simp [given_cons]))
          (.cons (.into readsFeatures (fun _ => rfl) (by simp [given_cons])) .nil))
  case finish_eq =>
    intro names complete
    simp only [RemoteFeatures.forms, List.forall_mem_cons, false_or] at complete
    obtain ⟨success, contextUsed, features, -⟩ := complete
    simp only [present_given success, getD_given contextUsed, getD_given features, ok_bind]
    rfl

/-- A text that writes evaluated features, in whatever way, is read as these features. -/
theorem remoteFeaturesOfText_eq
    {response : RemoteFeatures}
    (wellFormed : ∀ feature ∈ response.features, feature.PayloadWellFormed)
    {root : Node}
    (written : root.IsRecord response.forms)
    (shallow : root.depth ≤ Json.nestingLimit)
    {text : String}
    (spelled : Spells root text.toList) :
    remoteFeaturesOfText text = .ok response := by
  have read : readRemoteFeatures (.text Json.nestingLimit) root = .ok (true, response) :=
    reads_remoteFeatures wellFormed (.of_spells spelled shallow) written
  rw [remoteFeaturesOfText, Json.Document.ofText_spelled spelled, Json.Document.readWith, read]
  rfl

/-! ## Results -/

/-- The feature as the backend would have evaluated it. -/
def Evaluated.toRemote (evaluated : Evaluated) : RemoteFeature where
  key := evaluated.key
  enabled := evaluated.enabled
  version := (evaluated.targeting.map (·.version)).getD 0
  config := evaluated.configTrace.map fun trace =>
    { key := evaluated.config.map (·.key)
      payload := (evaluated.config.map (·.payload)).getD .null
      version := trace.version
      missing := some trace.missing
      results := some trace.results }
  missing := evaluated.targeting.map (·.missing)
  results := evaluated.targeting.map (·.results)

/-- Issues that are all absent fields are told by the names of these fields. -/
theorem map_missing_missingFields
    {issues : List Issue}
    (allMissing : ∀ issue ∈ issues, issue.kind = .missingField) :
    (Targeting.missingFields issues).map Issue.missing = issues := by
  have kept : issues.filter (fun issue => issue.kind = .missingField) = issues :=
    List.filter_eq_self.mpr (by simpa using allMissing)
  rw [Targeting.missingFields, kept, List.map_map]
  refine (List.map_congr_left ?_).trans (List.map_id issues)
  rintro ⟨kind, subject⟩ member
  obtain rfl : kind = .missingField := allMissing _ member
  rfl

/-- A trace whose issues are all absent fields is rebuilt from what is written of it. -/
theorem remoteTrace_eq
    {trace : Trace}
    (allMissing : ∀ issue ∈ trace.issues, issue.kind = .missingField) :
    remoteTrace trace.version (some trace.missing) (some trace.results) = trace := by
  have issues := map_missing_missingFields allMissing
  exact congrArg (Trace.mk trace.version trace.results) issues

/-- What an evaluation gives is rebuilt from the feature as which it is written. -/
theorem toEvaluated_toRemote
    {prepared : Prepared}
    {fields : Fields}
    {now : Time.Instant}
    (allMissing :
      ∀ issue ∈ (prepared.evaluate fields now).issues, issue.kind = .missingField) :
    (prepared.evaluate fields now).toRemote.toEvaluated fields = prepared.evaluate fields now := by
  obtain ⟨key, version, rules, config⟩ := prepared
  have targeting :=
    remoteTrace_eq fun issue member =>
      allMissing issue (List.mem_flatMap.mpr ⟨_, List.mem_append_left _ List.mem_cons_self, member⟩)
  cases config with
  | none =>
      simpa [Prepared.evaluate, Evaluated.toRemote, RemoteFeature.toEvaluated] using targeting
  | some config =>
      have configTrace :=
        remoteTrace_eq fun issue member =>
          allMissing issue
            (List.mem_flatMap.mpr ⟨_, List.mem_append_right _ List.mem_cons_self, member⟩)
      cases selected : config.select (config.trace fields now).results <;>
        simp [Prepared.evaluate, Evaluated.toRemote, RemoteFeature.toEvaluated,
          RemoteConfig.toConfig?, selected, targeting, configTrace]

/-- Of a text that writes a result among others, that result is made. -/
theorem toEvaluated_of_written
    {definition : Definition}
    {fields : Fields}
    {now : Time.Instant}
    {evaluated : Evaluated}
    (produced : (Prepared.ofDefinition definition).evaluate fields now = evaluated)
    (allMissing : ∀ issue ∈ evaluated.issues, issue.kind = .missingField)
    {response : RemoteFeatures}
    {place : Nat}
    (entry : response.features[place]? = some evaluated.toRemote)
    (wellFormed : ∀ feature ∈ response.features, feature.PayloadWellFormed)
    {root : Node}
    (written : root.IsRecord response.forms)
    (shallow : root.depth ≤ Json.nestingLimit)
    {text : String}
    (spelled : Spells root text.toList) :
    ∃ read,
      remoteFeaturesOfText text = .ok read ∧
        read.features[place]?.map (·.toEvaluated fields) = some evaluated := by
  refine ⟨response, remoteFeaturesOfText_eq wellFormed written shallow spelled, ?_⟩
  subst produced
  rw [entry, Option.map_some, toEvaluated_toRemote allMissing]

set_option maxRecDepth 2000 in
/-- A result with an absent field and a selected config comes back from a text as it was. -/
theorem toEvaluated_of_written_selected :
    ∃ read,
      remoteFeaturesOfText
          ("\x7b\"features\":[\x7b\"isEnabled\":false,\"key\":\"a\",\"x\":null,\"config\":\x7b" ++
            "\"version\":2,\"payload\":true,\"key\":\"v\",\"missingContextFields\":[]," ++
            "\"ruleEvaluationResults\":[true]\x7d,\"missingContextFields\":[\"f\"]," ++
            "\"targetingVersion\":1,\"ruleEvaluationResults\":[false]\x7d],\"success\":true\x7d") =
        .ok read ∧
      read.features[0]?.map (·.toEvaluated {}) =
        some
          { key := "a"
            enabled := false
            config := some ⟨"v", .bool true⟩
            targeting := some ⟨1, [false], [.missing "f"]⟩
            configTrace := some ⟨2, [true], []⟩
            context := some {} } := by
  let definition : Definition :=
    ⟨"a", ⟨1, [.context ⟨"f", .is, ["g"]⟩]⟩, some ⟨2, [⟨.constant true, "v", .bool true⟩]⟩⟩
  let config : RemoteConfig := ⟨some "v", .bool true, 2, some [], some [true]⟩
  let feature : RemoteFeature := ⟨"a", false, 1, some config, some ["f"], some [false]⟩
  let configNode : Node :=
    .ofRecord
      [("version", .number (.ok (.integer 2))), ("payload", .bool true),
        ("key", .text (.ok "v")), ("missingContextFields", .array [] .closed),
        ("ruleEvaluationResults", .array [.bool true] .closed)]
  let featureNode : Node :=
    .ofRecord
      [("isEnabled", .bool false), ("key", .text (.ok "a")), ("x", .null), ("config", configNode),
        ("missingContextFields", .array [.text (.ok "f")] .closed),
        ("targetingVersion", .number (.ok (.integer 1))),
        ("ruleEvaluationResults", .array [.bool false] .closed)]
  let root : Node :=
    .ofRecord [("features", .array [featureNode] .closed), ("success", .bool true)]
  have one : SpellsNumeral ⟨false, ['1'], none, none⟩ _ :=
    .parts ⟨nofun, List.forall_mem_singleton.mpr rfl⟩ nofun .lacking .lacking
  have two : SpellsNumeral ⟨false, ['2'], none, none⟩ _ :=
    .parts ⟨nofun, List.forall_mem_singleton.mpr rfl⟩ nofun .lacking .lacking
  have configSpelled : Spells configNode _ :=
    .of_bare
      (.object
        (.next (.of_isPlain "version" (by decide)) (.of_bare (.number two))
          (.next (.of_isPlain "payload" (by decide)) (.of_bare .true)
            (.next (.of_isPlain "key" (by decide)) (.of_isPlain "v" (by decide))
              (.next (.of_isPlain "missingContextFields" (by decide))
                (.of_bare (@SpellsBare.emptyArray [] nofun))
                (.last (.of_isPlain "ruleEvaluationResults" (by decide))
                  (.of_bare (.array (.last (.of_bare .true))))))))))
  have featureSpelled : Spells featureNode _ :=
    .of_bare
      (.object
        (.next (.of_isPlain "isEnabled" (by decide)) (.of_bare .false)
          (.next (.of_isPlain "key" (by decide)) (.of_isPlain "a" (by decide))
            (.next (.of_isPlain "x" (by decide)) (.of_bare .null)
              (.next (.of_isPlain "config" (by decide)) configSpelled
                (.next (.of_isPlain "missingContextFields" (by decide))
                  (.of_bare (.array (.last (.of_isPlain "f" (by decide)))))
                  (.next (.of_isPlain "targetingVersion" (by decide)) (.of_bare (.number one))
                    (.last (.of_isPlain "ruleEvaluationResults" (by decide))
                      (.of_bare (.array (.last (.of_bare .false))))))))))))
  have spelled : Spells root _ :=
    .of_bare
      (.object
        (.next (.of_isPlain "features" (by decide)) (.of_bare (.array (.last featureSpelled)))
          (.last (.of_isPlain "success" (by decide)) (.of_bare .true))))
  have configWritten : configNode.IsRecord config.forms := by
    refine ⟨_, rfl, by decide, by simp [RemoteConfig.forms], ?_⟩
    have payload : WritesValue (.bool true) (.bool true) := ⟨.bool true, rfl, rfl⟩
    have missing : WritesTexts (some []) (.array [] .closed) := ⟨_, rfl, .nil⟩
    have results : WritesBools (some [true]) (.array [.bool true] .closed) :=
      ⟨_, rfl, .cons rfl .nil⟩
    simpa [RemoteConfig.forms, config, Node.IsOption] using ⟨payload, missing, results⟩
  have featureWritten : featureNode.IsRecord feature.forms := by
    refine ⟨_, rfl, by decide, by simp [RemoteFeature.forms], ?_⟩
    have missing : WritesTexts (some ["f"]) (.array [.text (.ok "f")] .closed) :=
      ⟨_, rfl, .cons rfl .nil⟩
    have results : WritesBools (some [false]) (.array [.bool false] .closed) :=
      ⟨_, rfl, .cons rfl .nil⟩
    simpa [RemoteFeature.forms, feature] using ⟨configWritten, missing, results⟩
  have written : root.IsRecord (RemoteFeatures.forms ⟨false, [feature]⟩) := by
    refine ⟨_, rfl, by decide, by simp [RemoteFeatures.forms], ?_⟩
    simpa [RemoteFeatures.forms] using ⟨_, rfl, .cons featureWritten .nil⟩
  have wellFormed : ∀ other ∈ [feature], other.PayloadWellFormed := by
    simp [RemoteFeature.PayloadWellFormed, feature, config, Value.WellFormed]
  have produced :
      (Prepared.ofDefinition definition).evaluate {} ⟨0, 0⟩ =
        { key := "a"
          enabled := false
          config := some ⟨"v", .bool true⟩
          targeting := some ⟨1, [false], [.missing "f"]⟩
          configTrace := some ⟨2, [true], []⟩
          context := some {} } :=
    rfl
  have allMissing :
      ∀ issue ∈ ((Prepared.ofDefinition definition).evaluate {} ⟨0, 0⟩).issues,
        issue.kind = .missingField := by
    rw [produced]
    simp [Evaluated.issues, Issue.missing]
  have entry :
      [feature][0]? = some ((Prepared.ofDefinition definition).evaluate {} ⟨0, 0⟩).toRemote :=
    rfl
  rw [← produced]
  refine toEvaluated_of_written rfl allMissing entry wellFormed written (by decide) ?_
  simp only [String.toList_append]
  simpa using spelled

end FeatureFlags.Feature
