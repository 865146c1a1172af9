import FeatureFlags.Text.Quoted

namespace FeatureFlags.Targeting

/-!
# Targeting filters

Filters as they are defined: groups, negations, constants, comparisons of context
fields, gradual rollouts, and a place for filters and operators of kinds that this
library does not know.
-/

/-- How the children of a group are combined. -/
inductive GroupOperator where
  | conjunction
  | disjunction
  | unknown
deriving DecidableEq

/-- How a field is compared. -/
inductive FieldOperator where
  | contains
  | notContains
  | anyOf
  | notAnyOf
  | is
  | isNot
  | greaterThan
  | lessThan
  | after
  | before
  | set
  | notSet
  | isTrue
  | isFalse
  | unknown
deriving DecidableEq

namespace GroupOperator

/-- The operator of a wire name. -/
def ofName : String → GroupOperator
  | "and" => .conjunction
  | "or" => .disjunction
  | _ => .unknown

end GroupOperator

namespace FieldOperator

/-- The operator of a wire name. -/
def ofName : String → FieldOperator
  | "CONTAINS" => .contains
  | "NOT_CONTAINS" => .notContains
  | "ANY_OF" => .anyOf
  | "NOT_ANY_OF" => .notAnyOf
  | "IS" => .is
  | "IS_NOT" => .isNot
  | "GT" => .greaterThan
  | "LT" => .lessThan
  | "AFTER" => .after
  | "BEFORE" => .before
  | "SET" => .set
  | "NOT_SET" => .notSet
  | "IS_TRUE" => .isTrue
  | "IS_FALSE" => .isFalse
  | _ => .unknown

/-- The name under which an operator is shown, its wire name if it is known. -/
def name : FieldOperator → String
  | .contains => "CONTAINS"
  | .notContains => "NOT_CONTAINS"
  | .anyOf => "ANY_OF"
  | .notAnyOf => "NOT_ANY_OF"
  | .is => "IS"
  | .isNot => "IS_NOT"
  | .greaterThan => "GT"
  | .lessThan => "LT"
  | .after => "AFTER"
  | .before => "BEFORE"
  | .set => "SET"
  | .notSet => "NOT_SET"
  | .isTrue => "IS_TRUE"
  | .isFalse => "IS_FALSE"
  | .unknown => "<unknown operator>"

end FieldOperator

/-- A comparison of a context field with given values. -/
structure Comparison where
  field : String
  operator : FieldOperator
  values : List String

/-- The share of an attribute's values that a gradual rollout reaches. -/
structure RolloutShare where
  key : String
  field : String
  threshold : Int64

/-- A targeting filter. -/
inductive Filter where
  | group (operator : GroupOperator) (filters : List Filter)
  | negation (filter : Filter)
  | constant (value : Bool)
  | context (comparison : Comparison)
  | rollout (share : RolloutShare)
  | unsupported

instance : Inhabited Filter := ⟨.unsupported⟩

namespace Comparison

/-- A comparison as diagnostics show it: field, operator and quoted values. -/
def describe (comparison : Comparison) : String :=
  comparison.field ++ " " ++ comparison.operator.name ++ " " ++
    Text.quotedList comparison.values

end Comparison

/-- The kind of a filter on the wire. -/
inductive FilterKind where
  | group
  | negation
  | constant
  | context
  | rollout
  | unsupported
deriving DecidableEq

namespace FilterKind

/-- The wire name of a kind; the last one stands for every other name. -/
def name : FilterKind → String
  | .group => "group"
  | .negation => "negation"
  | .constant => "constant"
  | .context => "context"
  | .rollout => "rolloutPercentage"
  | .unsupported => "unknown"

/-- The kind of a wire name. -/
def ofName : String → FilterKind
  | "group" => .group
  | "negation" => .negation
  | "constant" => .constant
  | "context" => .context
  | "rolloutPercentage" => .rollout
  | _ => .unsupported

/-- The kind at a position in the list of kinds, which may stand for its name. -/
def ofPosition : Nat → FilterKind
  | 0 => .group
  | 1 => .negation
  | 2 => .constant
  | 3 => .context
  | 4 => .rollout
  | _ => .unsupported

end FilterKind

/-- The kind of a filter. -/
def Filter.kind : Filter → FilterKind
  | .group _ _ => .group
  | .negation _ => .negation
  | .constant _ => .constant
  | .context _ => .context
  | .rollout _ => .rollout
  | .unsupported => .unsupported

end FeatureFlags.Targeting
