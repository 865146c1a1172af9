import FeatureFlags.Feature.Evaluation
import FeatureFlags.Proofs.Targeting.Reading

namespace FeatureFlags.Feature

/-!
# Independent rules

The rules of a feature are run one after the other with one list of issues, and so are
its variants. None of them notices the others: `evaluate_eachAlone` says that whatever an
evaluation gives is put together from what each filter gives alone.
-/

open FeatureFlags.Targeting (Condition Filter Issue)

/-! ## Traces -/

/-- A trace of filters, each of which was evaluated alone, on the same fields at the same instant. -/
structure Trace.IsOfEachAlone
    (fields : Fields)
    (now : Time.Instant)
    (version : Int64)
    (filters : List Filter)
    (trace : Trace) :
    Prop where
  version_eq :
    trace.version = version
  /-- One result for each filter, in their order. -/
  results_eq :
    trace.results = filters.map fun filter => (filter.alone fields now).1
  /-- The issues of the first filter come first, and then those of the next one. -/
  issues_eq :
    trace.issues = filters.flatMap fun filter => (filter.alone fields now).2

/-- Running conditions in turn gives the results of each one alone, and adds the issues of each. -/
theorem runConditions_ofFilter
    (fields : Fields)
    (now : Time.Instant)
    (filters : List Filter)
    (issues : List Issue) :
    runConditions fields now issues (filters.map .ofFilter) =
      (filters.map fun filter => (filter.alone fields now).1,
        issues ++ filters.flatMap fun filter => (filter.alone fields now).2) := by
  induction filters generalizing issues with
  | nil =>
      simp [runConditions]
  | cons filter rest inductionHypothesis =>
      simp only [List.map_cons, runConditions, Targeting.run_ofFilter, inductionHypothesis,
        List.flatMap_cons, List.append_assoc]

theorem traceOf_ofFilter
    (fields : Fields)
    (now : Time.Instant)
    (version : Int64)
    (filters : List Filter) :
    (traceOf fields now version (filters.map .ofFilter)).IsOfEachAlone fields now version
      filters := by
  rw [traceOf, runConditions_ofFilter]
  exact ⟨rfl, rfl, rfl⟩

/-- Fields matter to a trace only through what each of its filters gives alone. -/
theorem traceOf_congr
    {fields others : Fields}
    {now : Time.Instant}
    {filters : List Filter}
    (same : ∀ filter ∈ filters, filter.alone others now = filter.alone fields now)
    (version : Int64) :
    traceOf others now version (filters.map .ofFilter) =
      traceOf fields now version (filters.map .ofFilter) := by
  have sameResults :
      (filters.map fun filter => (filter.alone others now).1) =
        filters.map fun filter => (filter.alone fields now).1 :=
    List.map_congr_left fun filter member => congrArg (·.1) (same filter member)
  have sameIssues :
      (filters.map fun filter => (filter.alone others now).2) =
        filters.map fun filter => (filter.alone fields now).2 :=
    List.map_congr_left fun filter member => congrArg (·.2) (same filter member)
  rw [traceOf, traceOf, runConditions_ofFilter, runConditions_ofFilter, List.flatMap_def,
    List.flatMap_def, sameResults, sameIssues]

namespace PreparedConfig

theorem conditions_ofRules (rules : ConfigRules) :
    (ofRules rules).variants.map (·.condition) =
      (rules.variants.map (·.filter)).map .ofFilter := by
  simp [ofRules, PreparedVariant.ofVariant]

theorem trace_ofRules
    (rules : ConfigRules)
    (fields : Fields)
    (now : Time.Instant) :
    ((ofRules rules).trace fields now).IsOfEachAlone fields now rules.version
      (rules.variants.map (·.filter)) := by
  rw [trace, conditions_ofRules]
  exact traceOf_ofFilter fields now rules.version _

/-! ## Selection -/

/-- The variant that is selected is the first one whose own result is true. -/
theorem select_ofRules
    (rules : ConfigRules)
    (holds : Variant → Bool) :
    (ofRules rules).select (rules.variants.map holds) =
      (rules.variants.find? holds).map fun variant => ⟨variant.key, variant.payload⟩ := by
  obtain ⟨version, variants⟩ := rules
  simp only [select, ofRules]
  induction variants with
  | nil =>
      rfl
  | cons variant rest inductionHypothesis =>
      cases held : holds variant with
      | true =>
          simp [held, PreparedVariant.ofVariant]
      | false =>
          simpa [held] using inductionHypothesis

end PreparedConfig

/-- The config of the first variant whose filter is true alone. -/
def ConfigRules.firstAlone?
    (rules : ConfigRules)
    (fields : Fields)
    (now : Time.Instant) :
    Option Config :=
  (rules.variants.find? fun variant => (variant.filter.alone fields now).1).map
    fun variant => ⟨variant.key, variant.payload⟩

/-! ## Evaluations -/

/-- All filters of a definition: those of its rules, then those of its variants. -/
def Definition.filters (definition : Definition) : List Filter :=
  definition.targeting.rules ++
    definition.config.toList.flatMap fun rules => rules.variants.map (·.filter)

/-- The definition with the same rules in another order, or with other rules. -/
def Definition.withRules
    (definition : Definition)
    (rules : List Filter) :
    Definition :=
  { definition with targeting := { definition.targeting with rules } }

/-- An evaluation in which each filter of a definition counts as it evaluates alone. -/
structure Evaluated.IsOfEachAlone
    (fields : Fields)
    (now : Time.Instant)
    (definition : Definition)
    (evaluated : Evaluated) :
    Prop where
  key_eq :
    evaluated.key = definition.key
  /-- Every rule has been evaluated, whatever came out of the others. -/
  targeting :
    ∃ trace,
      evaluated.targeting = some trace ∧
        trace.IsOfEachAlone fields now definition.targeting.version definition.targeting.rules
  /-- Any one rule enables the feature. -/
  enabled_iff :
    evaluated.enabled = true ↔
      ∃ rule ∈ definition.targeting.rules, (rule.alone fields now).1 = true
  /-- Without config rules there is neither a config nor a trace of how it was selected. -/
  unconfigured :
    definition.config = none →
      evaluated.configTrace = none ∧ evaluated.config = none
  /-- With config rules every variant has been evaluated, and the first that holds is selected. -/
  configured :
    ∀ rules, definition.config = some rules →
      (∃ trace,
        evaluated.configTrace = some trace ∧
          trace.IsOfEachAlone fields now rules.version (rules.variants.map (·.filter))) ∧
        evaluated.config = rules.firstAlone? fields now
  overridden_eq :
    evaluated.overridden = false
  context_eq :
    evaluated.context = some fields

namespace Prepared

/-- A feature is enabled if one of its rules is true alone. -/
theorem enabled_evaluate_iff
    (definition : Definition)
    (fields : Fields)
    (now : Time.Instant) :
    ((ofDefinition definition).evaluate fields now).enabled = true ↔
      ∃ rule ∈ definition.targeting.rules, (rule.alone fields now).1 = true := by
  have traced :=
    traceOf_ofFilter fields now definition.targeting.version definition.targeting.rules
  simp only [evaluate, ofDefinition]
  rw [traced.results_eq]
  simp

/-- The config is that of the first variant that is true alone, whether the feature is enabled or not. -/
theorem config_evaluate
    {definition : Definition}
    {rules : ConfigRules}
    (configured : definition.config = some rules)
    (fields : Fields)
    (now : Time.Instant) :
    ((ofDefinition definition).evaluate fields now).config = rules.firstAlone? fields now := by
  have traced := PreparedConfig.trace_ofRules rules fields now
  have selected :=
    PreparedConfig.select_ofRules rules fun variant => (variant.filter.alone fields now).1
  simp only [evaluate, ofDefinition, configured, Option.map_some, Option.bind_eq_bind,
    Option.bind_some, traced.results_eq, List.map_map]
  exact selected

/-- Fields on which every filter gives the same evaluate to the same but for themselves. -/
theorem evaluate_congr
    (definition : Definition)
    {fields others : Fields}
    {now : Time.Instant}
    (same :
      ∀ filter ∈ definition.filters, filter.alone others now = filter.alone fields now) :
    (ofDefinition definition).evaluate others now =
      { (ofDefinition definition).evaluate fields now with context := some others } := by
  obtain ⟨key, ⟨version, rules⟩, config⟩ := definition
  have targeting :
      traceOf others now version (rules.map .ofFilter) =
        traceOf fields now version (rules.map .ofFilter) :=
    traceOf_congr (fun filter member => same filter (List.mem_append_left _ member)) version
  cases config with
  | none =>
      simp [evaluate, ofDefinition, targeting]
  | some config =>
      have configTrace :
          (PreparedConfig.ofRules config).trace others now =
            (PreparedConfig.ofRules config).trace fields now := by
        simp only [PreparedConfig.trace, PreparedConfig.conditions_ofRules]
        refine traceOf_congr (fun filter member => same filter ?_) _
        exact List.mem_append_right _ (by simpa using member)
      simp [evaluate, ofDefinition, targeting, configTrace]

/--
Evaluating a definition puts together what each of its filters gives alone on the same
fields at the same instant. The order of the rules does not matter to whether the feature
is enabled.
-/
theorem evaluate_eachAlone
    (definition : Definition)
    (fields : Fields)
    (now : Time.Instant) :
    ((ofDefinition definition).evaluate fields now).IsOfEachAlone fields now definition ∧
      ∀ rules : List Filter, rules.Perm definition.targeting.rules →
        ((ofDefinition (definition.withRules rules)).evaluate fields now).enabled =
          ((ofDefinition definition).evaluate fields now).enabled := by
  constructor
  · exact {
      key_eq := rfl
      targeting := ⟨_, rfl, traceOf_ofFilter fields now _ _⟩
      enabled_iff := enabled_evaluate_iff definition fields now
      unconfigured := by
        intro unconfigured
        simp [evaluate, ofDefinition, unconfigured]
      configured := by
        intro rules configured
        refine ⟨⟨(PreparedConfig.ofRules rules).trace fields now, ?_,
          PreparedConfig.trace_ofRules rules fields now⟩, config_evaluate configured fields now⟩
        simp [evaluate, ofDefinition, configured]
      overridden_eq := rfl
      context_eq := rfl }
  · intro rules arranged
    rw [Bool.eq_iff_iff, enabled_evaluate_iff, enabled_evaluate_iff]
    constructor
    · rintro ⟨rule, member, holds⟩
      exact ⟨rule, arranged.mem_iff.mp member, holds⟩
    · rintro ⟨rule, member, holds⟩
      exact ⟨rule, arranged.mem_iff.mpr member, holds⟩

/-- Of two rules, one of which holds, either may come first; the second variant is selected. -/
theorem evaluate_rulesExchanged :
    let present : Filter := .context ⟨"user.id", .set, []⟩
    let definition : Definition :=
      ⟨"export", ⟨1, [.constant false, present]⟩,
        some ⟨2, [⟨.constant false, "small", .null⟩, ⟨present, "large", .bool true⟩]⟩⟩
    let fields : Fields := Table.empty.insert "user.id" (.text "u1")
    let evaluated := (ofDefinition definition).evaluate fields ⟨0, 0⟩
    evaluated.IsOfEachAlone fields ⟨0, 0⟩ definition ∧
      evaluated.enabled = true ∧
      evaluated.config = some ⟨"large", .bool true⟩ ∧
      [present, .constant false].Perm definition.targeting.rules ∧
      ((ofDefinition (definition.withRules [present, .constant false])).evaluate fields
          ⟨0, 0⟩).enabled =
        evaluated.enabled := by
  intro present definition fields evaluated
  have exchanged : [present, .constant false].Perm definition.targeting.rules :=
    .swap (.constant false) present []
  obtain ⟨eachAlone, anyOrder⟩ := evaluate_eachAlone definition fields ⟨0, 0⟩
  exact ⟨eachAlone, rfl, rfl, exchanged, anyOrder _ exchanged⟩

end Prepared

end FeatureFlags.Feature
