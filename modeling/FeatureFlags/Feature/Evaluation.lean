import FeatureFlags.Feature.Definition
import FeatureFlags.Feature.Evaluated
import FeatureFlags.Targeting.Evaluation

namespace FeatureFlags.Feature

/-!
# Evaluating features

A definition is prepared once: all its filters become conditions. Evaluation then
runs every rule and every variant, so that its trace is complete; any rule that
holds enables the feature, and the first variant that holds is its config.
-/

open FeatureFlags.Targeting (Condition Issue)

/-- A variant that is ready for evaluation. -/
structure PreparedVariant where
  condition : Condition
  config : Config

/-- Config rules that are ready for evaluation. -/
structure PreparedConfig where
  version : Int64
  variants : List PreparedVariant

/-- A definition that is ready for evaluation. -/
structure Prepared where
  key : String
  version : Int64
  rules : List Condition
  config : Option PreparedConfig

/-- Run conditions one after the other: their truth values and all their issues. -/
def runConditions
    (fields : Fields)
    (now : Time.Instant)
    (issues : List Issue) :
    List Condition → List Bool × List Issue
  | [] => ([], issues)
  | condition :: rest =>
      let (result, issues) := condition.run fields now issues
      let (results, issues) := runConditions fields now issues rest
      (result :: results, issues)

/-- The trace of conditions under a version. -/
def traceOf
    (fields : Fields)
    (now : Time.Instant)
    (version : Int64)
    (conditions : List Condition) :
    Trace :=
  let (results, issues) := runConditions fields now [] conditions
  ⟨version, results, issues⟩

namespace PreparedVariant

/-- Prepare a variant. -/
def ofVariant (variant : Variant) : PreparedVariant :=
  ⟨.ofFilter variant.filter, ⟨variant.key, variant.payload⟩⟩

end PreparedVariant

namespace PreparedConfig

/-- Prepare config rules. -/
def ofRules (rules : ConfigRules) : PreparedConfig :=
  ⟨rules.version, rules.variants.map .ofVariant⟩

/-- How the variants evaluate. -/
def trace
    (config : PreparedConfig)
    (fields : Fields)
    (now : Time.Instant) :
    Trace :=
  traceOf fields now config.version (config.variants.map (·.condition))

/-- The config of the first variant that holds. -/
def select
    (config : PreparedConfig)
    (results : List Bool) :
    Option Config :=
  ((config.variants.zip results).find? (·.2)).map (·.1.config)

end PreparedConfig

namespace Prepared

/-- Prepare a definition. -/
def ofDefinition (definition : Definition) : Prepared where
  key := definition.key
  version := definition.targeting.version
  rules := definition.targeting.rules.map .ofFilter
  config := definition.config.map .ofRules

/-- Evaluate a prepared definition on fields at an instant. -/
def evaluate
    (prepared : Prepared)
    (fields : Fields)
    (now : Time.Instant) :
    Evaluated :=
  let targeting := traceOf fields now prepared.version prepared.rules
  let configTrace := prepared.config.map fun config => config.trace fields now
  let config := do
    let rules ← prepared.config
    let trace ← configTrace
    rules.select trace.results
  { key := prepared.key
    enabled := targeting.results.any id
    config
    targeting := some targeting
    configTrace
    context := some fields }

end Prepared

end FeatureFlags.Feature
