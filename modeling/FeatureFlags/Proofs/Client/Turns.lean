import FeatureFlags.Client.Task
import FeatureFlags.Proofs.Interleaving

namespace FeatureFlags

/-!
# Turns of a client

All turns that the tasks of a client can take, one rule for each, and the system of those
tasks in which calls come, features are read, and the client is disposed at any moment.
-/

open FeatureFlags.Feature (Evaluated Prepared)
open FeatureFlags.Telemetry (Message)
open FeatureFlags.Transport (Content Exchange Request)

/-! ## Rules -/

/-- The turns of the tasks of a client. -/
inductive ClientTask.Takes
    (now : Moment)
    (client : Client) :
    ClientTask → Turn Client ClientTask → Prop where
  /-- The loop of the definitions moves, and perhaps a download begins. -/
  | definitionsLoopMoves
      {loop : TickerLoop}
      {ticker : Ticker (List Prepared)}
      {move : TickerLoop.Move (List Prepared)} :
      client.definitions = some ticker →
      loop.move? now ticker = some move →
      Takes now client
        (.definitionsLoop loop)
        ⟨{ client with definitions := some move.ticker }, move.loop.map .definitionsLoop,
          (move.refresh.bind client.downloadTask?).toList⟩
  /-- The loop that sends what is queued moves, and perhaps a refresh begins. -/
  | flushLoopMoves
      {loop : TickerLoop}
      {ticker : Ticker Unit}
      {move : TickerLoop.Move Unit} :
      client.flushes = some ticker →
      loop.move? now ticker = some move →
      Takes now client
        (.flushLoop loop)
        ⟨{ client with flushes := some move.ticker }, move.loop.map .flushLoop,
          move.refresh.toList.map .flush⟩
  /-- A download goes on. -/
  | downloadGoes
      {refresh : Nat}
      {exchange next : Exchange}
      {moved : Client} :
      client.exchange? now exchange = some (moved, .going next) →
      Takes now client
        (.download refresh exchange)
        ⟨moved, some (.download refresh next), []⟩
  /-- A download ends. -/
  | downloadEnds
      {refresh : Nat}
      {exchange : Exchange}
      {moved : Client}
      {result : Except Failure Content} :
      client.exchange? now exchange = some (moved, .ended result) →
      Takes now client
        (.download refresh exchange)
        ⟨moved.endDownload now refresh result, none, []⟩
  /-- A refresh finds nothing that could be sent. -/
  | flushFindsNothing
      {refresh : Nat}
      {taken : Client} :
      client.takeBatch now = (taken, none) →
      Takes now client
        (.flush refresh)
        ⟨taken.endFlush now refresh true, none, []⟩
  /-- A refresh takes what is queued. -/
  | flushTakes
      {refresh : Nat}
      {taken : Client}
      {request : Request} :
      client.takeBatch now = (taken, some request) →
      Takes now client
        (.flush refresh)
        ⟨taken, some (.flushing refresh { request }), []⟩
  /-- The sending of what was queued goes on. -/
  | flushingGoes
      {refresh : Nat}
      {exchange next : Exchange}
      {moved : Client} :
      client.exchange? now exchange = some (moved, .going next) →
      Takes now client
        (.flushing refresh exchange)
        ⟨moved, some (.flushing refresh next), []⟩
  /-- The sending of what was queued ends, and with it the refresh. -/
  | flushingEnds
      {refresh : Nat}
      {exchange : Exchange}
      {moved : Client}
      {result : Except Failure Content} :
      client.exchange? now exchange = some (moved, .ended result) →
      Takes now client
        (.flushing refresh exchange)
        ⟨moved.endFlush now refresh result.toOption.isSome, none, []⟩
  /-- The sending of a full batch goes on. -/
  | deliveryGoes
      {exchange next : Exchange}
      {moved : Client} :
      client.exchange? now exchange = some (moved, .going next) →
      Takes now client
        (.delivery exchange)
        ⟨moved, some (.delivery next), []⟩
  /-- The sending of a full batch ends. -/
  | deliveryEnds
      {exchange : Exchange}
      {moved : Client}
      {result : Except Failure Content} :
      client.exchange? now exchange = some (moved, .ended result) →
      Takes now client
        (.delivery exchange)
        ⟨moved, none, []⟩
  /-- A call is refused. -/
  | callRefused
      {call : Call} :
      client.disposed = true →
      Takes now client
        (.caller (.begun call))
        (client.give (.error (.disposed "client")))
  /-- A call is let in. -/
  | callEnters
      {call : Call} :
      client.disposed = false →
      Takes now client
        (.caller (.begun call))
        (client.goTo call.entry [])
  /-- A caller reports a user or a company. -/
  | callerUpdates
      {update : Message}
      {rest : List Message}
      {query : Query} :
      Takes now client
        (.caller (.updating (update :: rest) query))
        (client.report now update (.updating rest query))
  /-- A caller has reported the user and the company. -/
  | callerUpdated
      {query : Query} :
      Takes now client
        (.caller (.updating [] query))
        (client.goTo (.resolving query) [])
  /-- A caller sees where the features come from. -/
  | callerResolves
      {query : Query} :
      Takes now client
        (.caller (.resolving query))
        (client.resolve now query)
  /-- A caller asks for the definitions. -/
  | callerAsks
      {query : Query}
      {ticker : Ticker (List Prepared)} :
      client.definitions = some ticker →
      Takes now client
        (.caller (.asking query))
        (client.askForDownload ticker (.downloading query))
  /-- A caller sees the outcome of the download that it waits for. -/
  | callerDownloaded
      {query : Query}
      {refresh : Nat}
      {ticker seen : Ticker (List Prepared)}
      {succeeded : Bool} :
      client.definitions = some ticker →
      ticker.await? refresh = some (seen, succeeded) →
      Takes now client
        (.caller (.downloading query refresh))
        ({ client with definitions := some seen }.useSnapshot now query (seen.snapshot now))
  /-- A caller reports an evaluation. -/
  | callerReports
      {report : Message}
      {rest : List Message}
      {query : Query}
      {base : Table Evaluated} :
      Takes now client
        (.caller (.reporting (report :: rest) query base))
        (client.report now report (.reporting rest query base))
  /-- A caller has reported all evaluations. -/
  | callerReported
      {query : Query}
      {base : Table Evaluated} :
      Takes now client
        (.caller (.reporting [] query base))
        (client.giveFrom query base)
  /-- The evaluation by the backend goes on. -/
  | evaluatingGoes
      {query : Query}
      {exchange next : Exchange}
      {moved : Client} :
      client.exchange? now exchange = some (moved, .going next) →
      Takes now client
        (.caller (.evaluating query exchange))
        (moved.goTo (.evaluating query next) [])
  /-- The evaluation by the backend ends. -/
  | evaluatingEnds
      {query : Query}
      {exchange : Exchange}
      {moved : Client}
      {result : Except Failure Content} :
      client.exchange? now exchange = some (moved, .ended result) →
      Takes now client
        (.caller (.evaluating query exchange))
        (moved.giveFrom query (Client.remoteBase query.fields result))
  /-- A caller finds nothing that could be sent. -/
  | callerDrainsNothing
      {taken : Client} :
      client.takeBatch now = (taken, none) →
      Takes now client
        (.caller .draining)
        (taken.give (.ok .flushed))
  /-- A caller takes what is queued. -/
  | callerDrains
      {taken : Client}
      {request : Request} :
      client.takeBatch now = (taken, some request) →
      Takes now client
        (.caller .draining)
        (taken.goTo (.flushing { request }) [])
  /-- The sending for a caller goes on. -/
  | callerFlushingGoes
      {exchange next : Exchange}
      {moved : Client} :
      client.exchange? now exchange = some (moved, .going next) →
      Takes now client
        (.caller (.flushing exchange))
        (moved.goTo (.flushing next) [])
  /-- The sending for a caller ends, however it does. -/
  | callerFlushed
      {exchange : Exchange}
      {moved : Client}
      {result : Except Failure Content} :
      client.exchange? now exchange = some (moved, .ended result) →
      Takes now client
        (.caller (.flushing exchange))
        (moved.give (.ok .flushed))
  /-- A caller requests a download where there are no definitions to download. -/
  | callerRequestsNothing :
      client.definitions = none →
      Takes now client
        (.caller .requesting)
        (client.give (.ok (.refreshed false)))
  /-- A caller requests a download. -/
  | callerRequests
      {ticker : Ticker (List Prepared)} :
      client.definitions = some ticker →
      Takes now client
        (.caller .requesting)
        (client.askForDownload ticker .refreshing)
  /-- A caller sees the outcome of the download that it requested. -/
  | callerRefreshed
      {refresh : Nat}
      {ticker seen : Ticker (List Prepared)}
      {succeeded : Bool} :
      client.definitions = some ticker →
      ticker.await? refresh = some (seen, succeeded) →
      Takes now client
        (.caller (.refreshing refresh))
        ({ client with definitions := some seen }.give (.ok (.refreshed succeeded)))

namespace ClientTask.Takes

variable
  {now : Moment}
  {client : Client}
  {turn : Turn Client ClientTask}

/-- An exchange that moves goes on or ends. -/
private theorem of_exchange?
    {exchange : Exchange}
    {continuation : Client × Transport.Progress → Option (Turn Client ClientTask)}
    (possible : (client.exchange? now exchange).bind continuation = some turn) :
    (∃ moved next,
      client.exchange? now exchange = some (moved, .going next) ∧
        continuation (moved, .going next) = some turn) ∨
    ∃ moved result,
      client.exchange? now exchange = some (moved, .ended result) ∧
        continuation (moved, .ended result) = some turn := by
  obtain ⟨⟨moved, progress⟩, moves, continues⟩ := Option.bind_eq_some_iff.mp possible
  cases progress with
  | going next =>
      exact .inl ⟨moved, next, moves, continues⟩
  | ended result =>
      exact .inr ⟨moved, result, moves, continues⟩

/-- The turns of callers are among the rules. -/
private theorem of_callerTurn
    {stage : CallStage}
    (possible : client.callerTurn now stage = some turn) :
    Takes now client (.caller stage) turn := by
  cases stage with
  | begun call =>
      cases disposed : client.disposed with
      | true =>
          simp only [Client.callerTurn, Client.beginCall, Client.checkDisposed, disposed,
            ↓reduceIte, Option.some.injEq] at possible
          exact possible ▸ callRefused disposed
      | false =>
          simp only [Client.callerTurn, Client.beginCall, Client.checkDisposed, disposed,
            Bool.false_eq_true, ↓reduceIte, Option.some.injEq] at possible
          exact possible ▸ callEnters disposed
  | updating updates query =>
      cases updates with
      | nil =>
          cases possible
          exact callerUpdated
      | cons update rest =>
          cases possible
          exact callerUpdates
  | resolving query =>
      cases possible
      exact callerResolves
  | asking query =>
      obtain ⟨ticker, found, rfl⟩ := Option.map_eq_some_iff.mp possible
      exact callerAsks found
  | downloading query refresh =>
      obtain ⟨ticker, found, sees⟩ := Option.bind_eq_some_iff.mp possible
      obtain ⟨⟨seen, succeeded⟩, saw, rest⟩ := Option.bind_eq_some_iff.mp sees
      cases rest
      exact callerDownloaded found saw
  | reporting reports query base =>
      cases reports with
      | nil =>
          cases possible
          exact callerReported
      | cons report rest =>
          cases possible
          exact callerReports
  | evaluating query exchange =>
      rcases of_exchange? possible with ⟨_, _, moves, continues⟩ | ⟨_, _, moves, continues⟩
      · cases continues
        exact evaluatingGoes moves
      · cases continues
        exact evaluatingEnds moves
  | draining =>
      rcases takes : client.takeBatch now with ⟨taken, _ | request⟩
      · simp only [Client.callerTurn, takes, Option.some.injEq] at possible
        exact possible ▸ callerDrainsNothing takes
      · simp only [Client.callerTurn, takes, Option.some.injEq] at possible
        exact possible ▸ callerDrains takes
  | flushing exchange =>
      rcases of_exchange? possible with ⟨_, _, moves, continues⟩ | ⟨_, _, moves, continues⟩
      · cases continues
        exact callerFlushingGoes moves
      · cases continues
        exact callerFlushed moves
  | requesting =>
      cases found : client.definitions with
      | none =>
          simp only [Client.callerTurn, found, Option.some.injEq] at possible
          exact possible ▸ callerRequestsNothing found
      | some ticker =>
          simp only [Client.callerTurn, found, Option.some.injEq] at possible
          exact possible ▸ callerRequests found
  | refreshing refresh =>
      obtain ⟨ticker, found, sees⟩ := Option.bind_eq_some_iff.mp possible
      obtain ⟨⟨seen, succeeded⟩, saw, rest⟩ := Option.bind_eq_some_iff.mp sees
      cases rest
      exact callerRefreshed found saw
  | answered answer =>
      cases possible

/-- Every turn that a task can take is among the rules. -/
theorem of_turn
    {task : ClientTask}
    (possible : client.turn now task = some turn) :
    Takes now client task turn := by
  cases task with
  | definitionsLoop loop =>
      obtain ⟨ticker, found, moves⟩ := Option.bind_eq_some_iff.mp possible
      obtain ⟨move, moved, rest⟩ := Option.bind_eq_some_iff.mp moves
      cases rest
      exact definitionsLoopMoves found moved
  | flushLoop loop =>
      obtain ⟨ticker, found, moves⟩ := Option.bind_eq_some_iff.mp possible
      obtain ⟨move, moved, rest⟩ := Option.bind_eq_some_iff.mp moves
      cases rest
      exact flushLoopMoves found moved
  | download refresh exchange =>
      rcases of_exchange? possible with ⟨_, _, moves, continues⟩ | ⟨_, _, moves, continues⟩
      · cases continues
        exact downloadGoes moves
      · cases continues
        exact downloadEnds moves
  | flush refresh =>
      rcases takes : client.takeBatch now with ⟨taken, _ | request⟩
      · simp only [Client.turn, takes, Option.some.injEq] at possible
        exact possible ▸ flushFindsNothing takes
      · simp only [Client.turn, takes, Option.some.injEq] at possible
        exact possible ▸ flushTakes takes
  | flushing refresh exchange =>
      rcases of_exchange? possible with ⟨_, _, moves, continues⟩ | ⟨_, _, moves, continues⟩
      · cases continues
        exact flushingGoes moves
      · cases continues
        exact flushingEnds moves
  | delivery exchange =>
      rcases of_exchange? possible with ⟨_, _, moves, continues⟩ | ⟨_, _, moves, continues⟩
      · cases continues
        exact deliveryGoes moves
      · cases continues
        exact deliveryEnds moves
  | caller stage =>
      exact of_callerTurn possible

end ClientTask.Takes

end FeatureFlags
