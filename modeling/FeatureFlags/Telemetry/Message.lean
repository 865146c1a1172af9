import FeatureFlags.Context
import FeatureFlags.Feature.Evaluated
import FeatureFlags.Value.Document

namespace FeatureFlags.Telemetry

/-!
# Messages

What is reported to the backend: updates of users and companies, custom events,
and the evaluation and use of features. The compact JSON text of a message is its
identity, by which repetitions are recognised.
-/

open FeatureFlags.Json (Tree)
open FeatureFlags.Feature (Config Evaluated Trace)

/-- An update of a user. -/
structure UserUpdate where
  user : String
  attributes : Attributes
  active : Option Bool

/-- An update of a company, which may name a user that belongs to it. -/
structure CompanyUpdate where
  company : String
  user : Option String
  attributes : Attributes
  active : Option Bool

/-- A custom event of a user. -/
structure Event where
  name : String
  user : String
  company : Option String
  attributes : Attributes

/-- What happened to a feature. -/
inductive FeatureAction where
  | evaluate
  | evaluateConfig
  | check
  | checkConfig
deriving DecidableEq

/-- The evaluation or use of a feature. -/
structure FeatureEvent where
  action : FeatureAction
  key : String
  version : Option Int64
  context : Option Fields
  result : Value
  rules : Option (List Bool)
  missing : Option (List String)

/-- A message to the backend. -/
inductive Message where
  | user (update : UserUpdate)
  | company (update : CompanyUpdate)
  | event (event : Event)
  | feature (event : FeatureEvent)

/-!
## JSON form

Absent parts and empty attributes are left out; the result of a feature event is
always there.
-/

/-- An entry that is left out when its value is absent. -/
def optionalEntry
    (key : String)
    (tree : Option Tree) :
    List (String × Tree) :=
  (tree.map fun value => (key, value)).toList

/-- The JSON object of a table of values. -/
def tableTree (table : Table Value) : Tree :=
  (Value.ofTable table).toTree

/-- The entry for attributes, left out when there are none. -/
def attributesEntry (attributes : Attributes) : List (String × Tree) :=
  if attributes.isEmpty then [] else [("attributes", tableTree attributes)]

/-- The entry for the activity mark of an update. -/
def activityEntry (active : Option Bool) : List (String × Tree) :=
  optionalEntry "context" (active.map fun mark => .object [("active", .bool mark)])

namespace UserUpdate

/-- The entries of a user update. -/
def entries (update : UserUpdate) : List (String × Tree) :=
  ("userId", .text update.user) ::
    (attributesEntry update.attributes ++ activityEntry update.active)

end UserUpdate

namespace CompanyUpdate

/-- The entries of a company update. -/
def entries (update : CompanyUpdate) : List (String × Tree) :=
  ("companyId", .text update.company) ::
    (optionalEntry "userId" (update.user.map .text) ++
      attributesEntry update.attributes ++ activityEntry update.active)

end CompanyUpdate

namespace Event

/-- The entries of a custom event. -/
def entries (event : Event) : List (String × Tree) :=
  ("event", .text event.name) :: ("userId", .text event.user) ::
    (optionalEntry "companyId" (event.company.map .text) ++ attributesEntry event.attributes)

/-- A custom event on its own. -/
def toTree (event : Event) : Tree :=
  .object event.entries

end Event

namespace FeatureAction

/-- The wire name of an action. -/
def name : FeatureAction → String
  | .evaluate => "evaluate"
  | .evaluateConfig => "evaluate-config"
  | .check => "check"
  | .checkConfig => "check-config"

end FeatureAction

namespace FeatureEvent

/-- The entries of a feature event. -/
def entries (event : FeatureEvent) : List (String × Tree) :=
  ("action", .text event.action.name) :: ("key", .text event.key) ::
    (optionalEntry "targetingVersion" (event.version.map fun version => .integer version.toInt) ++
      optionalEntry "evalContext" (event.context.map tableTree) ++
      ("evalResult", event.result.toTree) ::
        (optionalEntry "evalRuleResults" (event.rules.map fun rules => .array (rules.map .bool)) ++
          optionalEntry "evalMissingFields"
            (event.missing.map fun missing => .array (missing.map .text))))

end FeatureEvent

namespace Message

/-- The wire name of the kind of a message. -/
def kind : Message → String
  | .user _ => "user"
  | .company _ => "company"
  | .event _ => "event"
  | .feature _ => "feature-flag-event"

/-- The entries of a message without its kind. -/
def entries : Message → List (String × Tree)
  | .user update => update.entries
  | .company update => update.entries
  | .event custom => custom.entries
  | .feature report => report.entries

/-- A message among others, told apart by its kind. -/
def toTree (message : Message) : Tree :=
  .object (("type", .text message.kind) :: message.entries)

/-- The text by which repetitions of a message are recognised. -/
def identity (message : Message) : String :=
  message.toTree.toText

/-!
## Making messages
-/

/-- The update that reports a user. -/
def ofUser
    (user : User)
    (tracking : Tracking) :
    Message :=
  .user ⟨user.id, user.attributes, tracking.activeMark?⟩

/-- The update that reports a company, and a user of it if there is one. -/
def ofCompany
    (company : Company)
    (user : Option User)
    (tracking : Tracking) :
    Message :=
  .company ⟨company.id, user.map (·.id), company.attributes, tracking.activeMark?⟩

/-- A config or its absence as the result of a feature event. -/
def configResult (config : Option Config) : Value :=
  (config.map Config.toValue).getD .null

/-- The report of an evaluation with its trace. -/
def ofEvaluation
    (action : FeatureAction)
    (evaluated : Evaluated)
    (trace : Trace)
    (result : Value) :
    Message :=
  .feature {
    action
    key := evaluated.key
    version := some trace.version
    context := evaluated.context
    result
    rules := some trace.results
    missing := some trace.missing }

/-- The report of a use of a feature. -/
def ofUse
    (action : FeatureAction)
    (evaluated : Evaluated)
    (trace : Option Trace)
    (result : Value) :
    Message :=
  .feature {
    action
    key := evaluated.key
    version := trace.map (·.version)
    context := none
    result
    rules := none
    missing := none }

/-- The reports of an evaluated feature: of its rules, and then of its config rules. -/
def reportsOf (evaluated : Evaluated) : List Message :=
  (evaluated.targeting.map fun trace =>
      ofEvaluation .evaluate evaluated trace (.bool evaluated.enabled)).toList ++
    (evaluated.configTrace.map fun trace =>
      ofEvaluation .evaluateConfig evaluated trace (configResult evaluated.config)).toList

end Message

end FeatureFlags.Telemetry
