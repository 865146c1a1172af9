import FeatureFlags.Failure

namespace FeatureFlags

/-!
# Log records

Warnings and errors for the operators of a program. Each kind of record has a
number; failures are logged under the number of their kind.
-/

/-- How serious a record is. -/
inductive LogLevel where
  | warning
  | error
deriving DecidableEq, Repr

namespace LogLevel

/-- The name of a level. -/
def name : LogLevel → String
  | .warning => "WARN"
  | .error => "ERROR"

end LogLevel

/-- A record of the log. -/
structure LogRecord where
  number : Nat
  level : LogLevel
  text : String
deriving DecidableEq, Repr

namespace LogRecord

/-- A warning under a number. -/
def warning
    (number : Nat)
    (text : String) :
    LogRecord :=
  ⟨number, .warning, text⟩

/-- The record of a failure. -/
def ofFailure
    (level : LogLevel)
    (failure : Failure) :
    LogRecord :=
  ⟨failure.kind.code, level, failure.message⟩

end LogRecord

end FeatureFlags
