import FeatureFlags.Rollout
import FeatureFlags.Targeting.Condition
import FeatureFlags.Targeting.Issue
import FeatureFlags.Text.Occurrence
import FeatureFlags.Value.Coercion

namespace FeatureFlags.Targeting

/-!
# Evaluating conditions

A condition is evaluated on fields at an instant. It has a truth value, and it
appends the issues it meets to those met before. Groups stop at the first child
that decides them, so the children after it report nothing.
-/

open FeatureFlags.Number (Binary64)

/-- A truth value with all issues met so far. -/
abbrev Outcome := Bool × List Issue

/-- The milliseconds of a day. -/
def millisPerDay : Binary64 := .ofNat 86400000

/-- An instant in milliseconds. -/
def millis (instant : Time.Instant) : Binary64 :=
  .ofInt instant.toMillis

/-- The milliseconds of the instant that lies a number of days after another. -/
def millisAfter
    (now : Time.Instant)
    (days : Binary64) :
    Binary64 :=
  (millis now).add (days.mul millisPerDay)

namespace Check

/-- Whether a value satisfies a check; nothing if it has not the type that the check needs. -/
def holds?
    (now : Time.Instant)
    (value : Value) :
    Check → Option Bool
  | .contains needle => some (Text.occursIn needle (Text.lowercase value.toText.toList))
  | .notContains needle => some (!Text.occursIn needle (Text.lowercase value.toText.toList))
  | .anyOf options => some (options.contains value.toText)
  | .notAnyOf options => some (!options.contains value.toText)
  | .is expected => some (value.toText == expected)
  | .isNot expected => some (value.toText != expected)
  | .greaterThan threshold => value.toNumber?.map fun number => threshold.lt number
  | .lessThan threshold => value.toNumber?.map fun number => number.lt threshold
  | .after days =>
      value.toInstant?.map fun instant => (millisAfter now days).lt (millis instant)
  | .before days =>
      value.toInstant?.map fun instant => (millis instant).lt (millisAfter now days)
  | .set => some value.isSet
  | .notSet => some !value.isSet
  | .isTrue => value.toBool?
  | .isFalse => value.toBool?.map (!·)

end Check

namespace RolloutShare

/-- Whether the share reaches an attribute value. -/
def reaches
    (share : RolloutShare)
    (value : Value) :
    Bool :=
  (Rollout.bucket share.key value.toText : Int) < share.threshold.toInt

end RolloutShare

namespace Condition

mutual

/-- Evaluate a condition after some issues were met. -/
def run
    (fields : Fields)
    (now : Time.Instant)
    (issues : List Issue) :
    Condition → Outcome
  | .all conditions => runAll fields now issues conditions
  | .any conditions => runAny fields now issues conditions
  | .not condition =>
      let (value, issues) := run fields now issues condition
      (!value, issues)
  | .constant value => (value, issues)
  | .field name check =>
      match fields.get? name with
      | none => (false, issues ++ [.missing name])
      | some value =>
          match check.holds? now value with
          | none => (false, issues ++ [.invalid name])
          | some result => (result, issues)
  | .rollout share =>
      match fields.get? share.field with
      | none => (false, issues ++ [.missing share.field])
      | some value => (share.reaches value, issues)
  | .unsupported kind => (false, issues ++ [.unsupported kind.name])

/-- Evaluate conditions until one is false. -/
def runAll
    (fields : Fields)
    (now : Time.Instant)
    (issues : List Issue) :
    List Condition → Outcome
  | [] => (true, issues)
  | condition :: rest =>
      match run fields now issues condition with
      | (true, issues) => runAll fields now issues rest
      | (false, issues) => (false, issues)

/-- Evaluate conditions until one is true. -/
def runAny
    (fields : Fields)
    (now : Time.Instant)
    (issues : List Issue) :
    List Condition → Outcome
  | [] => (false, issues)
  | condition :: rest =>
      match run fields now issues condition with
      | (true, issues) => (true, issues)
      | (false, issues) => runAny fields now issues rest

end

end Condition

end FeatureFlags.Targeting
