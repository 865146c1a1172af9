import FeatureFlags.Targeting.Filter
import FeatureFlags.Value.Basic

namespace FeatureFlags.Feature

/-!
# Feature definitions

What the backend says about a feature: rules that decide whether it is enabled,
and variants of a config of which one is selected.
-/

open FeatureFlags.Targeting (Filter)

/-- Rules of which any one enables a feature. -/
structure TargetingRules where
  version : Int64
  rules : List Filter

/-- A config variant and the filter that selects it. -/
structure Variant where
  filter : Filter
  key : String
  payload : Value

/-- Config variants, of which the first selected one counts. -/
structure ConfigRules where
  version : Int64
  variants : List Variant

/-- The definition of a feature. -/
structure Definition where
  key : String
  targeting : TargetingRules
  config : Option ConfigRules

end FeatureFlags.Feature
