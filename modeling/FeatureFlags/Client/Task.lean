import FeatureFlags.Client.Resolution

namespace FeatureFlags

/-!
# The tasks of a client

Callers, the loops of the two tickers, their refreshes, and the sending of full
batches. Each moves in turns on the state of the client.
-/

open FeatureFlags.Feature (Evaluated Prepared)
open FeatureFlags.Telemetry (Message)
open FeatureFlags.Transport (Content Exchange Request)

/-- A call that may have to wait. -/
inductive Call where
  /-- All features of a context. -/
  | features (context : Context)
  /-- A feature for a context, whose user and company are reported. -/
  | feature (key : String) (context : Context) (tracking : Tracking)
  /-- Send what is queued. -/
  | flush
  /-- Download the definitions. -/
  | refresh

/-- Where a caller is. -/
inductive CallStage where
  | begun (call : Call)
  /-- The caller reports a user or a company before it asks for a feature. -/
  | updating (updates : List Message) (query : Query)
  /-- The caller is about to see where the features come from. -/
  | resolving (query : Query)
  /-- The caller found no definitions, and is about to ask for a download. -/
  | asking (query : Query)
  /-- The caller waits for a download of the definitions. -/
  | downloading (query : Query) (refresh : Nat)
  /-- The caller reports evaluations one by one before the base set is used. -/
  | reporting (reports : List Message) (query : Query) (base : Table Evaluated)
  /-- The caller waits for the backend to evaluate. -/
  | evaluating (query : Query) (exchange : Exchange)
  /-- The caller is about to take what is queued. -/
  | draining
  /-- The caller waits for a batch to be sent. -/
  | flushing (exchange : Exchange)
  /-- The caller is about to ask for a download. -/
  | requesting
  /-- The caller waits for the download that was asked for. -/
  | refreshing (refresh : Nat)
  | answered (answer : Except Failure Answer)

/-- Where a caller goes once it has been let in. -/
def Call.entry : Call → CallStage
  | .features context => .resolving { context }
  | .feature key context tracking =>
      .updating (Query.updates context tracking) { context, wanted := some key }
  | .flush => .draining
  | .refresh => .requesting

/-- A task of a client. -/
inductive ClientTask where
  /-- The loop of the definitions. -/
  | definitionsLoop (loop : TickerLoop)
  /-- The loop that sends what is queued. -/
  | flushLoop (loop : TickerLoop)
  /-- A download of the definitions. -/
  | download (refresh : Nat) (exchange : Exchange)
  /-- A refresh that is about to take what is queued. -/
  | flush (refresh : Nat)
  /-- A refresh that sends what was queued. -/
  | flushing (refresh : Nat) (exchange : Exchange)
  /-- The sending of a batch that had filled the queue. -/
  | delivery (exchange : Exchange)
  | caller (stage : CallStage)

namespace ClientTask

/-- The exchange that a task drives. -/
def exchange? : ClientTask → Option Exchange
  | .download _ pending => some pending
  | .flushing _ pending => some pending
  | .delivery pending => some pending
  | .caller (.evaluating _ pending) => some pending
  | .caller (.flushing pending) => some pending
  | _ => none

/-- The moment that a task waits for. -/
def deadline? : ClientTask → Option Moment
  | .definitionsLoop periodic => periodic.deadline?
  | .flushLoop periodic => periodic.deadline?
  | task => task.exchange?.bind Exchange.deadline?

/-- The answer of a caller that has got one. -/
def answer? : ClientTask → Option (Except Failure Answer)
  | .caller (.answered answer) => some answer
  | _ => none

/-- The task that sends a request. -/
def ofRequest (request : Request) : ClientTask :=
  .delivery { request }

end ClientTask

namespace Client

/-- A turn of a task of a client. -/
abbrev ClientTurn := Turn Client ClientTask

/-- The tasks that send full batches. -/
def deliveries
    (client : Client)
    (batches : List Batch) :
    List ClientTask :=
  match client.transport with
  | none => []
  | some transport =>
      batches.filterMap fun batch => (transport.deliveryRequest? batch).map .ofRequest

/-- The task of a download. -/
def downloadTask?
    (client : Client)
    (refresh : Nat) :
    Option ClientTask :=
  client.transport.map fun transport =>
    .download refresh { request := transport.definitionsRequest }

/-- Move an exchange on the transport of the client. -/
def exchange?
    (now : Moment)
    (client : Client)
    (exchange : Exchange) :
    Option (Client × Transport.Progress) := do
  let transport ← client.transport
  let (moved, progress) ← exchange.move? now transport
  return ({ client with transport := some moved }, progress)

/-- End a download: its definitions are prepared and kept. -/
def endDownload
    (now : Moment)
    (client : Client)
    (refresh : Nat)
    (result : Except Failure Content) :
    Client :=
  let value :=
    match result with
    | .ok (.definitions definitions) => some (definitions.map Prepared.ofDefinition)
    | _ => none
  { client with definitions := client.definitions.map (·.finish now refresh value) }

/-- End a refresh that sends what was queued. -/
def endFlush
    (now : Moment)
    (client : Client)
    (refresh : Nat)
    (succeeded : Bool) :
    Client :=
  let value := if succeeded then some () else none
  { client with flushes := client.flushes.map (·.finish now refresh value) }

/-- A caller goes on to another stage. -/
def goTo
    (client : Client)
    (stage : CallStage)
    (begun : List ClientTask) :
    ClientTurn :=
  ⟨client, some (.caller stage), begun⟩

/-- A caller is given an answer. -/
def give
    (client : Client)
    (answer : Except Failure Answer) :
    ClientTurn :=
  client.goTo (.answered answer) []

/-- Answer a caller from a base set. -/
def giveFrom
    (client : Client)
    (query : Query)
    (base : Table Evaluated) :
    ClientTurn :=
  let (concluded, answer) := client.conclude query base
  concluded.give answer

/-- A caller offers a message to the queue and goes on. -/
def report
    (now : Moment)
    (client : Client)
    (message : Message)
    (stage : CallStage) :
    ClientTurn :=
  let (queued, batches) := client.enqueue now message
  queued.goTo stage (queued.deliveries batches)

/-- A caller goes on with a snapshot of the definitions: all evaluations are to be reported. -/
def useSnapshot
    (now : Moment)
    (client : Client)
    (query : Query) :
    Except Failure (Snapshot (List Prepared)) → ClientTurn
  | .error failure => client.give (.error failure)
  | .ok snapshot =>
      let (warned, evaluated) := client.evaluateLocally now query snapshot
      warned.goTo
        (.reporting (evaluated.flatMap Message.reportsOf) query (byKey evaluated)) []

/-- A caller asks for a download and goes on to wait for it. -/
def askForDownload
    (client : Client)
    (ticker : Ticker (List Prepared))
    (waiting : Nat → CallStage) :
    ClientTurn :=
  match ticker.tick with
  | .error failure => client.give (.error failure)
  | .ok (ticked, refresh, isNew) =>
      let asked := { client with definitions := some ticked }
      let begun :=
        if isNew then
          (asked.downloadTask? refresh).toList ++ [.definitionsLoop (ticked.loopAfter refresh)]
        else
          []
      asked.goTo (waiting refresh) begun

/-- Begin a call, unless the client has been disposed. -/
def beginCall
    (client : Client)
    (call : Call) :
    ClientTurn :=
  match client.checkDisposed with
  | .error failure => client.give (.error failure)
  | .ok () => client.goTo call.entry []

/-- See where the features come from. -/
def resolve
    (now : Moment)
    (client : Client)
    (query : Query) :
    ClientTurn :=
  match client.settings.mode, client.definitions, client.transport with
  | .localEvaluation, some ticker, _ =>
      match ticker.snapshot now with
      | .ok { value := none, .. } => client.goTo (.asking query) []
      | snapshot => client.useSnapshot now query snapshot
  | .remoteEvaluation, _, some transport =>
      client.goTo (.evaluating query { request := transport.evaluationsRequest query.fields }) []
  | _, _, _ => client.giveFrom query .empty

/-- The next move of a caller, if it is possible. -/
def callerTurn
    (now : Moment)
    (client : Client) :
    CallStage → Option ClientTurn
  | .begun call => some (client.beginCall call)
  | .updating [] query => some (client.goTo (.resolving query) [])
  | .updating (update :: rest) query => some (client.report now update (.updating rest query))
  | .resolving query => some (client.resolve now query)
  | .asking query =>
      client.definitions.map fun ticker => client.askForDownload ticker (.downloading query)
  | .downloading query refresh => do
      let ticker ← client.definitions
      let (seen, _) ← ticker.await? refresh
      return { client with definitions := some seen }.useSnapshot now query (seen.snapshot now)
  | .reporting [] query base => some (client.giveFrom query base)
  | .reporting (message :: rest) query base =>
      some (client.report now message (.reporting rest query base))
  | .evaluating query exchange => do
      match ← client.exchange? now exchange with
      | (moved, .going next) => return moved.goTo (.evaluating query next) []
      | (moved, .ended result) => return moved.giveFrom query (remoteBase query.fields result)
  | .draining =>
      match client.takeBatch now with
      | (taken, none) => some (taken.give (.ok .flushed))
      | (taken, some request) => some (taken.goTo (.flushing { request }) [])
  | .flushing exchange => do
      match ← client.exchange? now exchange with
      | (moved, .going next) => return moved.goTo (.flushing next) []
      | (moved, .ended _) => return moved.give (.ok .flushed)
  | .requesting =>
      match client.definitions with
      | none => some (client.give (.ok (.refreshed false)))
      | some ticker => some (client.askForDownload ticker .refreshing)
  | .refreshing refresh => do
      let ticker ← client.definitions
      let (seen, succeeded) ← ticker.await? refresh
      return { client with definitions := some seen }.give (.ok (.refreshed succeeded))
  | .answered _ => none

/-- The next move of a task, if it is possible. -/
def turn
    (now : Moment)
    (client : Client) :
    ClientTask → Option ClientTurn
  | .definitionsLoop periodic => do
      let ticker ← client.definitions
      let move ← periodic.move? now ticker
      let moved := { client with definitions := some move.ticker }
      return ⟨moved, move.loop.map .definitionsLoop,
        (move.refresh.bind moved.downloadTask?).toList⟩
  | .flushLoop periodic => do
      let ticker ← client.flushes
      let move ← periodic.move? now ticker
      return ⟨{ client with flushes := some move.ticker }, move.loop.map .flushLoop,
        move.refresh.toList.map .flush⟩
  | .download refresh exchange => do
      match ← client.exchange? now exchange with
      | (moved, .going next) => return ⟨moved, some (.download refresh next), []⟩
      | (moved, .ended result) => return ⟨moved.endDownload now refresh result, none, []⟩
  | .flush refresh =>
      match client.takeBatch now with
      | (taken, none) => some ⟨taken.endFlush now refresh true, none, []⟩
      | (taken, some request) => some ⟨taken, some (.flushing refresh { request }), []⟩
  | .flushing refresh exchange => do
      match ← client.exchange? now exchange with
      | (moved, .going next) => return ⟨moved, some (.flushing refresh next), []⟩
      | (moved, .ended result) =>
          return ⟨moved.endFlush now refresh (result.toOption.isSome), none, []⟩
  | .delivery exchange => do
      match ← client.exchange? now exchange with
      | (moved, .going next) => return ⟨moved, some (.delivery next), []⟩
      | (moved, .ended _) => return ⟨moved, none, []⟩
  | .caller stage => client.callerTurn now stage

/-- The tasks of a client. -/
def behaviour : Behaviour Client ClientTask where
  turn := turn
  deadline? := ClientTask.deadline?

/-- The loops that a client starts with. -/
def firstLoops (client : Client) : List ClientTask :=
  (client.definitions.map fun _ => .definitionsLoop .first).toList ++
    (client.flushes.map fun _ => .flushLoop .first).toList

/-- A client with its loops. -/
def start (client : Client) : World Client ClientTask :=
  let world : World Client ClientTask := { shared := client }
  (world.begin client.firstLoops).settle behaviour

/-- Use a client at once; full batches are sent in the background. -/
def use
    (world : World Client ClientTask)
    (operation : Moment → Client → Client × List Batch × ρ) :
    World Client ClientTask × ρ :=
  world.act behaviour fun client =>
    let (used, batches, result) := operation world.now client
    (used, used.deliveries batches, result)

end Client

end FeatureFlags
