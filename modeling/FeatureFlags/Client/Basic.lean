import FeatureFlags.Feature.Evaluation
import FeatureFlags.Settings
import FeatureFlags.Telemetry.Outbox
import FeatureFlags.Ticker.Loop
import FeatureFlags.Transport.Exchange

namespace FeatureFlags

/-!
# Clients

The state that all calls on a client share. What a client has depends on its mode:
offline it has no transport and no tickers, and only a client that evaluates
definitions itself has a ticker that downloads them.
-/

open FeatureFlags.Telemetry (Message Outbox)

/-- What is outside of a client. -/
structure Surroundings where
  /-- Whether there is something that runs tasks in the background. -/
  hasRuntime : Bool := true
  backend : Transport.Backend
  /-- The calendar time, which dates in targeting rules are compared with. -/
  wallClock : Moment → Time.Instant

/-- The state of a client. -/
structure Client where
  settings : Settings
  wallClock : Moment → Time.Instant
  transport : Option Transport
  /-- The definitions of the latest download. -/
  definitions : Option (Ticker (List Feature.Prepared))
  /-- The ticker whose refreshes send what is queued. -/
  flushes : Option (Ticker Unit)
  outbox : Outbox
  disposed : Bool := false
  /-- The consultations of resolvers so far. -/
  consultations : List Feature.Consultation := []
  /-- Warnings; what the transport logs is kept there. -/
  warnings : List LogRecord := []

namespace Client

/-- The failure of creating a client where nothing can run in the background. -/
def withoutRuntime : Failure :=
  .invalidConfiguration <|
    "The client must be created within a tokio runtime. (there is no reactor running, " ++
      "must be called from the context of a Tokio 1.x runtime)"

/-- The transport of a client, which it has unless it is offline. -/
def createTransport
    (settings : Settings)
    (backend : Transport.Backend) :
    Except Failure (Option Transport) :=
  match settings.mode with
  | .offline => .ok none
  | _ =>
      some <$> Transport.create settings.baseUrl settings.secretKey settings.requestTimeout
        backend

/-- The ticker of the definitions, if the mode needs one. -/
def createDefinitions (settings : Settings) : Option (Ticker (List Feature.Prepared)) :=
  match settings.mode with
  | .localEvaluation => some { name := "features", interval := settings.refreshInterval }
  | _ => none

/-- The ticker that sends what is queued, if the mode needs one. -/
def createFlushes (settings : Settings) : Option (Ticker Unit) :=
  match settings.mode with
  | .offline => none
  | _ => some { name := "output", interval := settings.flushInterval }

/-- A new client. -/
def create
    (settings : Settings)
    (surroundings : Surroundings) :
    Except Failure Client :=
  if surroundings.hasRuntime then do
    let transport ← createTransport settings surroundings.backend
    return {
      settings
      wallClock := surroundings.wallClock
      transport
      definitions := createDefinitions settings
      flushes := createFlushes settings
      outbox := { capacity := settings.maxMessages, window := settings.rollingWindow } }
  else
    .error withoutRuntime

/-- Refuse the use of a client that has been disposed. -/
def checkDisposed (client : Client) : Except Failure Unit :=
  if client.disposed then .error (.disposed "client") else .ok ()

/-- Log a warning. -/
def warn
    (client : Client)
    (record : LogRecord) :
    Client :=
  { client with warnings := client.warnings ++ [record] }

/-- All requests sent so far. -/
def sent (client : Client) : List Transport.Sent :=
  (client.transport.map (·.sent)).getD []

/-- All that the transport has logged so far. -/
def errors (client : Client) : List LogRecord :=
  (client.transport.map (·.log)).getD []

/-- The log records that were added to those of an earlier state, the warnings first. -/
def logSince (client earlier : Client) : List LogRecord :=
  client.warnings.drop earlier.warnings.length ++ client.errors.drop earlier.errors.length

/-! ## Messages -/

/-- A batch that has been taken from the queue. -/
abbrev Batch := List Message

/-- Offer a message to the queue; a batch that it filled has to be sent. Offline it is dropped. -/
def enqueue
    (now : Moment)
    (client : Client)
    (message : Message) :
    Client × List Batch :=
  match client.settings.mode with
  | .offline => (client, [])
  | _ =>
      match client.outbox.enqueue now message with
      | (outbox, .full batch) => ({ client with outbox }, [batch])
      | (outbox, _) => ({ client with outbox }, [])

/-- Take what is queued, and the request that sends it if there is anything to send. -/
def takeBatch
    (now : Moment)
    (client : Client) :
    Client × Option Transport.Request :=
  let (outbox, batch) := client.outbox.drain now
  ({ client with outbox }, client.transport.bind fun transport => transport.deliveryRequest? batch)

/-! ## Reporting -/

/-- Report a user, unless tracking is disabled. -/
def updateUser
    (now : Moment)
    (client : Client)
    (user : User)
    (tracking : Tracking) :
    Client × List Batch × Except Failure Unit :=
  match client.checkDisposed with
  | .error failure => (client, [], .error failure)
  | .ok () =>
      if tracking = .disabled then
        (client, [], .ok ())
      else
        let (client, batches) := client.enqueue now (.ofUser user tracking)
        (client, batches, .ok ())

/-- Report a company and perhaps a user of it, unless tracking is disabled. -/
def updateCompany
    (now : Moment)
    (client : Client)
    (company : Company)
    (user : Option User)
    (tracking : Tracking) :
    Client × List Batch × Except Failure Unit :=
  match client.checkDisposed with
  | .error failure => (client, [], .error failure)
  | .ok () =>
      if tracking = .disabled then
        (client, [], .ok ())
      else
        let (client, batches) := client.enqueue now (.ofCompany company user tracking)
        (client, batches, .ok ())

/-- Report a custom event. -/
def track
    (now : Moment)
    (client : Client)
    (event : Telemetry.Event) :
    Client × List Batch × Except Failure Unit :=
  match client.checkDisposed with
  | .error failure => (client, [], .error failure)
  | .ok () =>
      let (client, batches) := client.enqueue now (.event event)
      (client, batches, .ok ())

/-! ## The end -/

/-- Stop all background work, cancel all requests, and refuse every later use. -/
def dispose (client : Client) : Client :=
  { client with
    disposed := true
    transport := client.transport.map Transport.cancel
    definitions := client.definitions.map Ticker.dispose
    flushes := client.flushes.map Ticker.dispose }

end Client

end FeatureFlags
