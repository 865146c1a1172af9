import FeatureFlags.Client.Handle

namespace FeatureFlags

/-!
# Resolving features

The features of a context are a base set with the local features merged over it.
The base set is empty offline, is evaluated from the definitions at hand, or comes
from the backend.
-/

open FeatureFlags.Feature (Evaluated Prepared)
open FeatureFlags.Telemetry (Message)

/-- What features are asked for. -/
structure Query where
  context : Context
  /-- The key of the wanted feature; nothing if all are wanted. -/
  wanted : Option String := none

/-- What a caller is given. -/
inductive Answer where
  | features (features : Table Evaluated)
  | feature (handle : Handle)
  | flushed
  | refreshed (succeeded : Bool)

namespace Query

/-- The fields of the context. -/
def fields (query : Query) : Fields :=
  query.context.fields

/-- The answer to a query from all features. -/
def answer
    (query : Query)
    (features : Table Evaluated) :
    Answer :=
  match query.wanted with
  | none => .features features
  | some key =>
      let evaluated := (features.get? key).getD (.unknown key query.fields)
      .feature (.ofContext evaluated query.context)

/-- The updates that are sent along with a feature: the user, and then the company. -/
def updates
    (context : Context)
    (tracking : Tracking) :
    List Message :=
  if tracking = .disabled then
    []
  else
    (context.user.map fun user => Message.ofUser user tracking).toList ++
      (context.company.map fun company =>
        Message.ofCompany company context.user tracking).toList

end Query

namespace Client

/-- The warning about a feature whose evaluation reported issues. -/
def issueWarning? (evaluated : Evaluated) : Option LogRecord :=
  match evaluated.issues with
  | [] => none
  | issues =>
      some (.warning 3002
        (s!"Evaluation of feature '{evaluated.key}' reported issues: " ++
          ", ".intercalate (issues.map (·.describe))))

/-- The failure of a resolver. -/
def resolverFailure (reason : String) : Failure where
  kind := .resolverFailure
  message := s!"Local features resolver failed. ({reason})"
  cause := some reason

/-- Merge the local features over a base set and answer; issues and failures are logged. -/
def conclude
    (client : Client)
    (query : Query)
    (base : Table Evaluated) :
    Client × Except Failure Answer :=
  let (consultations, resolved) :=
    Feature.resolveAll query.context query.fields client.settings.resolvers
      client.consultations base
  let client := { client with consultations }
  match resolved with
  | .error reason =>
      let failure := resolverFailure reason
      (client.warn (.ofFailure .warning failure), .error failure)
  | .ok features =>
      let warnings := features.values.filterMap issueWarning?
      ({ client with warnings := client.warnings ++ warnings }, .ok (query.answer features))

/-- Evaluated features by their keys, the last of a key counting. -/
def byKey (features : List Evaluated) : Table Evaluated :=
  .ofList (features.map fun evaluated => (evaluated.key, evaluated))

/-- The warning about definitions that have become old. -/
def staleWarning
    (age staleAge : Nat) :
    LogRecord :=
  .warning 3001
    (s!"Feature definitions are stale (last refreshed {age / 1000}s ago, " ++
      s!"stale after {staleAge / 1000}s)")

/-- The warning about definitions that were never downloaded. -/
def absentWarning : LogRecord :=
  .warning 3003
    "Feature definitions are not available, evaluating without targeting rules"

/-- The warnings about the definitions at hand. -/
def definitionsWarnings
    (client : Client)
    (snapshot : Snapshot (List Prepared)) :
    List LogRecord :=
  match snapshot.age with
  | none => [absentWarning]
  | some age =>
      if client.settings.staleAge < age then
        [staleWarning age client.settings.staleAge]
      else
        []

/-- Evaluate the definitions at hand in their order. -/
def evaluateAll
    (fields : Fields)
    (instant : Time.Instant)
    (definitions : List Prepared) :
    List Evaluated :=
  definitions.map fun prepared => prepared.evaluate fields instant

/-- Evaluate what is at hand; what is amiss with the definitions is logged. -/
def evaluateLocally
    (now : Moment)
    (client : Client)
    (query : Query)
    (snapshot : Snapshot (List Prepared)) :
    Client × List Evaluated :=
  ({ client with warnings := client.warnings ++ client.definitionsWarnings snapshot },
    evaluateAll query.fields (client.wallClock now) (snapshot.value.getD []))

/-- The base set that the backend gave; it is empty if the request failed. -/
def remoteBase
    (fields : Fields) :
    Except Failure Transport.Content → Table Evaluated
  | .ok (.evaluations features) =>
      byKey (features.map fun feature => feature.toEvaluated fields)
  | _ => .empty

end Client

end FeatureFlags
