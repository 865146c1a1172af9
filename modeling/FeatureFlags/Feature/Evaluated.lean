import FeatureFlags.Targeting.Issue
import FeatureFlags.Value.Basic

namespace FeatureFlags.Feature

/-!
# Evaluated features

The result of evaluating a feature for a context, and what is known about how it
came about.
-/

open FeatureFlags.Targeting (Issue)

/-- A selected config. -/
structure Config where
  key : String
  payload : Value

/-- How a list of rules was evaluated. -/
structure Trace where
  version : Int64
  results : List Bool
  issues : List Issue

/-- An evaluated feature. -/
structure Evaluated where
  key : String
  enabled : Bool
  /-- Whether the result replaces another one of the same key when they are merged. -/
  overridden : Bool := false
  config : Option Config := none
  /-- How the targeting rules were evaluated. -/
  targeting : Option Trace := none
  /-- How the config rules were evaluated, if the feature has any. -/
  configTrace : Option Trace := none
  /-- The fields that the feature was evaluated on. -/
  context : Option Fields := none

namespace Config

/-- The config as a value. -/
def toValue (config : Config) : Value :=
  .ofTable (.ofList [("key", .text config.key), ("payload", config.payload)])

end Config

namespace Trace

/-- The fields that were reported as absent. -/
def missing (trace : Trace) : List String :=
  Targeting.missingFields trace.issues

end Trace

namespace Evaluated

/-- The result for a feature that nobody knows. -/
def unknown
    (key : String)
    (fields : Fields) :
    Evaluated where
  key := key
  enabled := false
  context := some fields

/-- All issues, those of the targeting rules first. -/
def issues (evaluated : Evaluated) : List Issue :=
  (evaluated.targeting.toList ++ evaluated.configTrace.toList).flatMap (·.issues)

end Evaluated

end FeatureFlags.Feature
