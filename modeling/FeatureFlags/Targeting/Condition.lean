import FeatureFlags.Number.Decimal
import FeatureFlags.Targeting.Filter
import FeatureFlags.Text.Lowercase

namespace FeatureFlags.Targeting

/-!
# Conditions

A filter is checked once, before it is evaluated any number of times. What comes
out is a condition: operators have their comparison values in the form in which
they use them, and what cannot be evaluated has become a condition that says so.
-/

open FeatureFlags.Number (Binary64)

/-- A check of the value of a field. -/
inductive Check where
  | contains (needle : List Char)
  | notContains (needle : List Char)
  | anyOf (options : List String)
  | notAnyOf (options : List String)
  | is (expected : String)
  | isNot (expected : String)
  | greaterThan (threshold : Binary64)
  | lessThan (threshold : Binary64)
  | after (days : Binary64)
  | before (days : Binary64)
  | set
  | notSet
  | isTrue
  | isFalse

/-- A filter in the form in which it is evaluated. -/
inductive Condition where
  | all (conditions : List Condition)
  | any (conditions : List Condition)
  | not (condition : Condition)
  | constant (value : Bool)
  | field (name : String) (check : Check)
  | rollout (share : RolloutShare)
  | unsupported (kind : FilterKind)

namespace Check

/-- The only comparison value. -/
def single? : List String → Option String
  | [value] => some value
  | _ => none

/-- The only comparison value in lower case, unless it is empty. -/
def singleNeedle? (values : List String) : Option (List Char) := do
  let value ← single? values
  if value = "" then none else some (Text.lowercase value.toList)

/-- The only comparison value as a number. -/
def singleNumber? (values : List String) : Option Binary64 :=
  (single? values).bind Binary64.ofText?

/-- A check without comparison values. -/
def withoutValues?
    (values : List String)
    (check : Check) :
    Option Check :=
  if values.isEmpty then some check else none

/-- The check of an operator with its comparison values, if they suit it. -/
def ofComparison? (comparison : Comparison) : Option Check :=
  let values := comparison.values
  match comparison.operator with
  | .contains => (singleNeedle? values).map .contains
  | .notContains => (singleNeedle? values).map .notContains
  | .anyOf => some (.anyOf values)
  | .notAnyOf => some (.notAnyOf values)
  | .is => (single? values).map .is
  | .isNot => (single? values).map .isNot
  | .greaterThan => (singleNumber? values).map .greaterThan
  | .lessThan => (singleNumber? values).map .lessThan
  | .after => (singleNumber? values).map .after
  | .before => (singleNumber? values).map .before
  | .set => withoutValues? values .set
  | .notSet => withoutValues? values .notSet
  | .isTrue => withoutValues? values .isTrue
  | .isFalse => withoutValues? values .isFalse
  | .unknown => none

end Check

namespace Condition

mutual

/-- The condition of a filter. -/
def ofFilter : Filter → Condition
  | .group .conjunction filters => .all (ofFilters filters)
  | .group .disjunction filters => .any (ofFilters filters)
  | .group .unknown _ => .unsupported .group
  | .negation filter => .not (ofFilter filter)
  | .constant value => .constant value
  | .context comparison =>
      match Check.ofComparison? comparison with
      | some check => .field comparison.field check
      | none => .unsupported .context
  | .rollout share => .rollout share
  | .unsupported => .unsupported .unsupported

/-- The conditions of filters. -/
def ofFilters : List Filter → List Condition
  | [] => []
  | filter :: rest => ofFilter filter :: ofFilters rest

end

end Condition

end FeatureFlags.Targeting
