import FeatureFlags.Client.Basic
import FeatureFlags.Json.Shape

namespace FeatureFlags

/-!
# Handles

A resolved feature in the hands of a caller. Its parts can be read without notice;
asking whether it is enabled or for its config is reported as its use.
-/

open FeatureFlags.Telemetry (FeatureAction Message)

/-- A resolved feature, and the ids of whom it was resolved for. -/
structure Handle where
  evaluated : Feature.Evaluated
  user : Option String
  company : Option String

namespace Handle

/-- The key of the feature. -/
def key (handle : Handle) : String :=
  handle.evaluated.key

/-- The handle of a feature for a context. -/
def ofContext
    (evaluated : Feature.Evaluated)
    (context : Context) :
    Handle where
  evaluated := evaluated
  user := context.user.map (·.id)
  company := context.company.map (·.id)

/-- The report that the feature was asked for. -/
def checkReport (handle : Handle) : Message :=
  let evaluated := handle.evaluated
  .ofUse .check evaluated evaluated.targeting (.bool evaluated.enabled)

/-- The report that the config was asked for. -/
def configReport (handle : Handle) : Message :=
  let evaluated := handle.evaluated
  .ofUse .checkConfig evaluated evaluated.configTrace (Message.configResult evaluated.config)

/-- The event of the user that is named after the feature. -/
def event? (handle : Handle) : Option Telemetry.Event :=
  handle.user.map fun user =>
    { name := handle.key, user, company := handle.company, attributes := .empty }

end Handle

namespace Client

/-- Whether a feature is enabled; its use is reported. -/
def isEnabled
    (now : Moment)
    (client : Client)
    (handle : Handle) :
    Client × List Batch × Except Failure Bool :=
  match client.checkDisposed with
  | .error failure => (client, [], .error failure)
  | .ok () =>
      let (client, batches) := client.enqueue now handle.checkReport
      (client, batches, .ok handle.evaluated.enabled)

/-- The config of a feature; its use is reported. -/
def config
    (now : Moment)
    (client : Client)
    (handle : Handle) :
    Client × List Batch × Except Failure (Option Feature.Config) :=
  match client.checkDisposed with
  | .error failure => (client, [], .error failure)
  | .ok () =>
      let (client, batches) := client.enqueue now handle.configReport
      (client, batches, .ok handle.evaluated.config)

/-- The failure of a config whose payload has not the wanted shape. -/
def unreadableConfig
    (handle : Handle)
    (config : Feature.Config)
    (fault : Json.Fault) :
    Failure where
  kind := .configDeserializationFailure
  message :=
    s!"Failed to deserialize the config '{config.key}' of feature '{handle.key}'. " ++
      s!"({fault.message})"
  cause := some fault.message

/-- The payload of the config of a feature in a wanted shape; its use is reported. -/
def configAs
    (reader : Json.Reader α)
    (now : Moment)
    (client : Client)
    (handle : Handle) :
    Client × List Batch × Except Failure (Option α) :=
  match client.config now handle with
  | (client, batches, .error failure) => (client, batches, .error failure)
  | (client, batches, .ok none) => (client, batches, .ok none)
  | (client, batches, .ok (some config)) =>
      match reader .parsed (.ofTree config.payload.toTree) with
      | .ok payload => (client, batches, .ok (some payload))
      | .error fault =>
          let failure := unreadableConfig handle config fault
          (client.warn (.ofFailure .warning failure), batches, .error failure)

/-- Report an event of the user that is named after a feature, if there is a user. -/
def trackFeature
    (now : Moment)
    (client : Client)
    (handle : Handle) :
    Client × List Batch × Except Failure Unit :=
  match client.checkDisposed with
  | .error failure => (client, [], .error failure)
  | .ok () =>
      match handle.event? with
      | none => (client, [], .ok ())
      | some event =>
          let (client, batches) := client.enqueue now (.event event)
          (client, batches, .ok ())

end Client

end FeatureFlags
