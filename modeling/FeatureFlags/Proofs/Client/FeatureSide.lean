import FeatureFlags.Proofs.Client.Callers
import FeatureFlags.Proofs.Client.Operations
import FeatureFlags.Proofs.Transport.Moves

namespace FeatureFlags

/-!
# The feature side of a client

Some of what a client does serves features: downloads, evaluations and their answers. The rest
sends messages. The feature side of two clients stays the same whatever is queued, limited or
sent, as long as what comes back for its own requests is the same.
-/

open FeatureFlags.Feature (Evaluated Prepared)
open FeatureFlags.Telemetry (Message)
open FeatureFlags.Transport (Arrival Content Exchange Progress)

/-! ## Clients -/

/-- Where the requests of a transport go, and whether they still do. -/
def Transport.course (transport : Transport) : String × Bool :=
  (transport.baseUrl, transport.cancelled)

namespace Client

/-- Two clients that differ in what is queued, limited, sent and logged at most. -/
structure SameFeatureSide (client other : Client) : Prop where
  settings : client.settings = other.settings
  wallClock : client.wallClock = other.wallClock
  definitions : client.definitions = other.definitions
  disposed : client.disposed = other.disposed
  course : client.transport.map Transport.course = other.transport.map Transport.course

namespace SameFeatureSide

variable {client other third : Client}

theorem refl (client : Client) : client.SameFeatureSide client :=
  ⟨rfl, rfl, rfl, rfl, rfl⟩

theorem symm (same : client.SameFeatureSide other) : other.SameFeatureSide client :=
  ⟨same.settings.symm, same.wallClock.symm, same.definitions.symm, same.disposed.symm,
    same.course.symm⟩

theorem trans
    (same : client.SameFeatureSide other)
    (alsoSame : other.SameFeatureSide third) :
    client.SameFeatureSide third :=
  ⟨same.settings.trans alsoSame.settings, same.wallClock.trans alsoSame.wallClock,
    same.definitions.trans alsoSame.definitions, same.disposed.trans alsoSame.disposed,
    same.course.trans alsoSame.course⟩

/-- Two such clients stay so whatever they note. -/
theorem withNotes
    (same : client.SameFeatureSide other)
    (consultations otherConsultations : List Feature.Consultation)
    (warnings otherWarnings : List LogRecord) :
    ({ client with consultations, warnings } : Client).SameFeatureSide
      { other with consultations := otherConsultations, warnings := otherWarnings } :=
  ⟨same.settings, same.wallClock, same.definitions, same.disposed, same.course⟩

theorem withFlushes
    (same : client.SameFeatureSide other)
    (flushes : Option (Ticker Unit)) :
    ({ client with flushes } : Client).SameFeatureSide other :=
  ⟨same.settings, same.wallClock, same.definitions, same.disposed, same.course⟩

theorem withDefinitions
    (same : client.SameFeatureSide other)
    (definitions : Option (Ticker (List Prepared))) :
    ({ client with definitions } : Client).SameFeatureSide { other with definitions } :=
  ⟨same.settings, same.wallClock, rfl, same.disposed, same.course⟩

theorem dispose (same : client.SameFeatureSide other) :
    client.dispose.SameFeatureSide other.dispose where
  settings := same.settings
  wallClock := same.wallClock
  definitions := by simp only [Client.dispose, same.definitions]
  disposed := rfl
  course := by
    have courses := congrArg (Option.map fun course => (course.1, true)) same.course
    simpa [Client.dispose, Function.comp_def, Transport.course, Transport.cancel] using courses

/-- Either both have a transport or none. -/
theorem transport_cases (same : client.SameFeatureSide other) :
    (client.transport = none ∧ other.transport = none) ∨
    ∃ transport otherTransport,
      client.transport = some transport ∧
        other.transport = some otherTransport ∧
        transport.baseUrl = otherTransport.baseUrl ∧
        transport.cancelled = otherTransport.cancelled := by
  have courses := same.course
  cases here : client.transport with
  | none =>
      cases there : other.transport with
      | none =>
          exact .inl ⟨rfl, rfl⟩
      | some transport =>
          simp [here, there] at courses
  | some transport =>
      cases there : other.transport with
      | none =>
          simp [here, there] at courses
      | some otherTransport =>
          obtain ⟨url, cancelled⟩ :
              transport.baseUrl = otherTransport.baseUrl ∧
                transport.cancelled = otherTransport.cancelled := by
            simpa [here, there, Transport.course] using courses
          exact .inr ⟨transport, otherTransport, rfl, rfl, url, cancelled⟩

/-- Both begin the same downloads. -/
theorem downloadTask?_eq
    (same : client.SameFeatureSide other)
    (refresh : Nat) :
    client.downloadTask? refresh = other.downloadTask? refresh := by
  rcases same.transport_cases with
    ⟨here, there⟩ | ⟨transport, otherTransport, here, there, url, -⟩
  · simp [downloadTask?, here, there]
  · simp [downloadTask?, here, there, Transport.definitionsRequest, Transport.addressOf, url]

end SameFeatureSide

end Client

/-! ## Tasks -/

namespace CallStage

/-- Where a caller is, whatever it still has to report. -/
def settled : CallStage → CallStage
  | .updating _ query => .resolving query
  | .reporting _ query base => .reporting [] query base
  | stage => stage

/-- The feature side of a caller, unless it sends messages or has got its answer. -/
def featureSide? : CallStage → Option CallStage
  | .begun .flush => none
  | .draining => none
  | .flushing _ => none
  | .answered _ => none
  | stage => some stage.settled

/-- Whether a caller has a feature side, and nothing to report first. -/
def isSettled : CallStage → Bool
  | .begun .flush => false
  | .draining => false
  | .flushing _ => false
  | .answered _ => false
  | .updating _ _ => false
  | .reporting (_ :: _) _ _ => false
  | _ => true

theorem featureSide?_of_isSettled
    {stage : CallStage}
    (isSettled : stage.isSettled = true) :
    stage.featureSide? = some stage := by
  cases stage with
  | begun call =>
      cases call <;> first | rfl | cases isSettled
  | reporting reports =>
      cases reports <;> first | rfl | cases isSettled
  | updating | draining | flushing | answered =>
      cases isSettled
  | resolving | asking | downloading | evaluating | requesting | refreshing =>
      rfl

/-- What a caller still has to report is beside its feature side. -/
theorem featureSide?_settled (stage : CallStage) :
    stage.settled.featureSide? = stage.featureSide? := by
  cases stage <;> rfl

end CallStage

/-- What an exchange waits for that has sent its request, and until when. -/
def Transport.Exchange.awaits? (exchange : Exchange) : Option (Moment × Arrival) :=
  match exchange.stage with
  | .pending wake arrival => some (wake, arrival)
  | _ => none

namespace ClientTask

/-- The feature side of a task, unless it sends messages or has got its answer. -/
def featureSide? : ClientTask → Option ClientTask
  | .definitionsLoop loop => some (.definitionsLoop loop)
  | .download refresh exchange => some (.download refresh exchange)
  | .caller stage => stage.featureSide?.map .caller
  | .flushLoop _ => none
  | .flush _ => none
  | .flushing _ _ => none
  | .delivery _ => none

/-- Whether a task has a feature side, and nothing to report first. -/
def isSettled : ClientTask → Bool
  | .definitionsLoop _ => true
  | .download _ _ => true
  | .caller stage => stage.isSettled
  | .flushLoop _ => false
  | .flush _ => false
  | .flushing _ _ => false
  | .delivery _ => false

/-- What a task waits for that has sent its request, and until when. -/
def awaits? (task : ClientTask) : Option (Moment × Arrival) :=
  task.exchange?.bind Exchange.awaits?

theorem featureSide?_of_isSettled
    {task : ClientTask}
    (settled : task.isSettled = true) :
    task.featureSide? = some task := by
  cases task with
  | definitionsLoop | download =>
      rfl
  | caller stage =>
      rw [featureSide?, CallStage.featureSide?_of_isSettled settled]
      rfl
  | flushLoop | flush | flushing | delivery =>
      cases settled

end ClientTask

/-! ## Turns beside the feature side -/

namespace Client

variable {now : Moment} {client used moved : Client}

theorem SameFeatureSide.of_enqueue
    {message : Message}
    {batches : List Batch}
    (offered : client.enqueue now message = (used, batches)) :
    used.SameFeatureSide client := by
  obtain ⟨outbox, rfl⟩ := exists_of_enqueue offered
  exact ⟨rfl, rfl, rfl, rfl, rfl⟩

theorem SameFeatureSide.of_takeBatch
    {request? : Option Transport.Request}
    (takes : client.takeBatch now = (used, request?)) :
    used.SameFeatureSide client := by
  obtain ⟨⟨outbox, rfl⟩, -⟩ := exists_of_takeBatch takes
  exact ⟨rfl, rfl, rfl, rfl, rfl⟩

theorem SameFeatureSide.of_exchange?
    {exchange : Exchange}
    {progress : Progress}
    (possible : client.exchange? now exchange = some (moved, progress)) :
    moved.SameFeatureSide client := by
  obtain ⟨transport, after, found, moves, rfl⟩ := exists_of_exchange? possible
  have kept := (Exchange.Moves.of_move? moves).kept
  refine ⟨rfl, rfl, rfl, rfl, ?_⟩
  simp [found, Transport.course, kept.1, kept.2]

/-- Whoever sends a full batch has no feature side. -/
theorem featureSide?_deliveries
    (client : Client)
    (batches : List Batch) :
    (client.deliveries batches).filterMap ClientTask.featureSide? = [] := by
  rw [List.filterMap_eq_nil_iff]
  intro new begins
  obtain ⟨transport, request, -, rfl⟩ := exists_of_mem_deliveries begins
  rfl

end Client

/-- A turn of a task that is not settled leaves all feature sides alone, its own among them. -/
structure ClientTask.TurnsAside
    (task : ClientTask)
    (client : Client)
    (turn : Turn Client ClientTask) :
    Prop where
  shared : turn.shared.SameFeatureSide client
  begun : turn.begun.filterMap featureSide? = []
  left : turn.task.bind featureSide? = task.featureSide?

namespace ClientTask.TurnsAside

variable {now : Moment} {client : Client} {stage next : CallStage}

private theorem of_report
    (message : Message)
    (kept : next.featureSide? = stage.featureSide?) :
    (ClientTask.caller stage).TurnsAside client (client.report now message next) := by
  obtain ⟨outbox, batches, shape⟩ := client.exists_report now message next
  rw [shape]
  refine ⟨⟨rfl, rfl, rfl, rfl, rfl⟩, client.featureSide?_deliveries batches, ?_⟩
  simp [Client.goTo, ClientTask.featureSide?, kept]

end ClientTask.TurnsAside

open ClientTask.TurnsAside in
/-- Whoever is not settled turns aside. -/
theorem ClientTask.Takes.turnsAside
    {now : Moment}
    {client : Client}
    {task : ClientTask}
    {turn : Turn Client ClientTask}
    (taken : task.Takes now client turn)
    (unsettled : task.isSettled = false) :
    task.TurnsAside client turn := by
  cases taken with
  | @flushLoopMoves loop ticker move _ moves =>
      refine ⟨⟨rfl, rfl, rfl, rfl, rfl⟩, ?_, ?_⟩
      · cases move.refresh <;> rfl
      · cases move.loop <;> rfl
  | flushFindsNothing takes =>
      exact ⟨(Client.SameFeatureSide.of_takeBatch takes).withFlushes _, rfl, rfl⟩
  | flushTakes takes =>
      exact ⟨.of_takeBatch takes, rfl, rfl⟩
  | flushingGoes possible | deliveryGoes possible | callerFlushingGoes possible
  | deliveryEnds possible | callerFlushed possible =>
      exact ⟨.of_exchange? possible, rfl, rfl⟩
  | flushingEnds possible =>
      exact ⟨(Client.SameFeatureSide.of_exchange? possible).withFlushes _, rfl, rfl⟩
  | @callRefused call =>
      cases call with
      | flush =>
          exact ⟨.refl client, rfl, rfl⟩
      | features | feature | refresh =>
          cases unsettled
  | @callEnters call =>
      cases call with
      | flush =>
          exact ⟨.refl client, rfl, rfl⟩
      | features | feature | refresh =>
          cases unsettled
  | callerUpdates =>
      exact of_report _ rfl
  | callerUpdated =>
      exact ⟨.refl client, rfl, rfl⟩
  | callerReports =>
      exact of_report _ rfl
  | callerDrainsNothing takes | callerDrains takes =>
      exact ⟨.of_takeBatch takes, rfl, rfl⟩
  | definitionsLoopMoves | downloadGoes | downloadEnds | callerResolves | callerAsks
  | callerDownloaded | callerReported | evaluatingGoes | evaluatingEnds
  | callerRequestsNothing | callerRequests | callerRefreshed =>
      cases unsettled

/-! ## Turns of exchanges -/

/-- What an exchange becomes on two sides, with which only the reply to it has to do. -/
inductive Transport.Progress.Agree : Progress → Progress → Prop where
  | going
      {next other : Exchange} :
      (next.awaits? = other.awaits? → next = other) →
      Agree (.going next) (.going other)
  | ended
      {result : Except Failure Content} :
      Agree (.ended result) (.ended result)

/-- On transports with the same course an exchange makes the same moves. -/
theorem Transport.Exchange.rel_move?
    {transport other : Transport}
    (sameCancelled : transport.cancelled = other.cancelled)
    (now : Moment)
    (exchange : Exchange) :
    Option.Rel (fun moved otherMoved => moved.2.Agree otherMoved.2)
      (exchange.move? now transport) (exchange.move? now other) := by
  obtain ⟨request, stage⟩ := exchange
  cases stage with
  | prepared =>
      simp only [move?, sameCancelled]
      split
      · exact .some .ended
      · split
        · exact .some .ended
        · refine .some (.going fun sameReply => ?_)
          simp only [awaits?, Option.some.injEq, Prod.mk.injEq] at sameReply
          rw [sameReply.1, sameReply.2]
  | pending wake arrival =>
      simp only [move?, sameCancelled]
      split
      · exact .some .ended
      · split
        · split
          · exact .some .ended
          · exact .some (.going fun _ => rfl)
        · exact .none
  | reading body =>
      exact .some .ended

namespace Client.SameFeatureSide

variable {now : Moment} {client other : Client}

private theorem exchange?_eq
    {transport : Transport}
    (present : client.transport = some transport)
    (now : Moment)
    (exchange : Exchange) :
    client.exchange? now exchange =
      (exchange.move? now transport).map fun moved =>
        ({ client with transport := some moved.1 }, moved.2) := by
  unfold exchange?
  rw [present]
  exact Option.map_eq_bind.symm

/-- On both an exchange makes the same move, or none. -/
theorem exchange?_cases
    (same : client.SameFeatureSide other)
    (now : Moment)
    (exchange : Exchange) :
    (client.exchange? now exchange = none ∧ other.exchange? now exchange = none) ∨
    ∃ moved progress otherMoved otherProgress,
      client.exchange? now exchange = some (moved, progress) ∧
        other.exchange? now exchange = some (otherMoved, otherProgress) ∧
        moved.SameFeatureSide otherMoved ∧
        progress.Agree otherProgress := by
  rcases same.transport_cases with
    ⟨here, there⟩ | ⟨transport, otherTransport, here, there, -, cancelled⟩
  · exact .inl (by simp [exchange?, here, there])
  · have moves := Exchange.rel_move? cancelled now exchange
    rcases moved : exchange.move? now transport with _ | ⟨after, progress⟩ <;>
      rcases otherMoved : exchange.move? now otherTransport with _ | ⟨otherAfter, otherProgress⟩ <;>
      rw [moved, otherMoved] at moves
    · refine .inl ⟨?_, ?_⟩
      · rw [exchange?_eq here, moved]
        rfl
      · rw [exchange?_eq there, otherMoved]
        rfl
    · cases moves
    · cases moves
    · have goes :
          client.exchange? now exchange =
            some ({ client with transport := some after }, progress) := by
        rw [exchange?_eq here, moved]
        rfl
      have otherGoes :
          other.exchange? now exchange =
            some ({ other with transport := some otherAfter }, otherProgress) := by
        rw [exchange?_eq there, otherMoved]
        rfl
      have back := (SameFeatureSide.of_exchange? otherGoes).symm
      cases moves with
      | some agree =>
          exact
            .inr
              ⟨_, _, _, _, goes, otherGoes,
                ((SameFeatureSide.of_exchange? goes).trans same).trans back, agree⟩

/-- Both go on from a base set with the same result. -/
theorem conclude_eq
    (same : client.SameFeatureSide other)
    (context : Context)
    (base : Table Evaluated) :
    ∃ result : Except Failure (Table Evaluated),
      ∀ query : Query,
        query.context = context →
        (client.conclude query base).2 = result.map query.answer ∧
          (other.conclude query base).2 = result.map query.answer := by
  let outcome :=
    (Feature.resolveAll context context.fields client.settings.resolvers [] base).2
  refine ⟨outcome.mapError resolverFailure, ?_⟩
  rintro query rfl
  have mapped :
      (outcome.map query.answer).mapError resolverFailure =
        (outcome.mapError resolverFailure).map query.answer := by
    cases outcome <;> rfl
  rw [conclude_snd, conclude_snd, ← same.settings, ← mapped]
  exact ⟨rfl, rfl⟩

/-- Of both a download is asked for with the same success. -/
theorem askForDownload_cases
    (same : client.SameFeatureSide other)
    (ticker : Ticker (List Prepared))
    (waiting otherWaiting : Nat → CallStage) :
    (∃ failure,
      client.askForDownload ticker waiting = client.give (.error failure) ∧
        other.askForDownload ticker otherWaiting = other.give (.error failure)) ∨
    ∃ definitions refresh begun,
      client.askForDownload ticker waiting =
          { client with definitions }.goTo (waiting refresh) begun ∧
        other.askForDownload ticker otherWaiting =
          { other with definitions }.goTo (otherWaiting refresh) begun := by
  unfold askForDownload
  cases ticker.tick with
  | error failure =>
      exact .inl ⟨failure, rfl, rfl⟩
  | ok ticked =>
      refine .inr ⟨some ticked.1, ticked.2.1, _, rfl, ?_⟩
      simp only [(same.withDefinitions (some ticked.1)).downloadTask?_eq]

end Client.SameFeatureSide

/-! ## Turns of callers -/

/-- Where two callers are whose queries differ in what is wanted at most. -/
inductive CallStage.Agree (query other : Query) : CallStage → CallStage → Prop where
  | resolving :
      Agree query other (.resolving query) (.resolving other)
  | asking :
      Agree query other (.asking query) (.asking other)
  | downloading
      {refresh : Nat} :
      Agree query other (.downloading query refresh) (.downloading other refresh)
  | reporting
      {base : Table Evaluated} :
      Agree query other (.reporting [] query base) (.reporting [] other base)
  | evaluating
      {exchange : Exchange} :
      Agree query other (.evaluating query exchange) (.evaluating other exchange)
  /-- Both have an answer, which is made of the same features or is the same failure. -/
  | answered
      (result : Except Failure (Table Evaluated)) :
      Agree query other
        (.answered (result.map query.answer))
        (.answered (result.map other.answer))

theorem CallStage.Agree.symm
    {query other : Query}
    {stage otherStage : CallStage}
    (agree : CallStage.Agree query other stage otherStage) :
    CallStage.Agree other query otherStage stage := by
  cases agree <;> constructor

/-- What two callers do in their turns, with which only the replies to them have to do. -/
structure CallStage.TurnsAgree
    (query other : Query)
    (turn otherTurn : Turn Client ClientTask) :
    Prop where
  shared : turn.shared.SameFeatureSide otherTurn.shared
  begun :
    turn.begun.filterMap ClientTask.featureSide? =
      otherTurn.begun.filterMap ClientTask.featureSide?
  left :
    ∃ stage otherStage,
      turn.task = some (.caller stage) ∧
        otherTurn.task = some (.caller otherStage) ∧
        ((ClientTask.caller stage).awaits? = (ClientTask.caller otherStage).awaits? →
          CallStage.Agree query other stage.settled otherStage.settled)

namespace CallStage.TurnsAgree

open CallStage (Agree)

variable
  {now : Moment}
  {client otherClient : Client}
  {query other : Query}
  {stage otherStage : CallStage}

private theorem of_goTo
    (same : client.SameFeatureSide otherClient)
    (agree : Agree query other stage.settled otherStage.settled) :
    TurnsAgree query other (client.goTo stage []) (otherClient.goTo otherStage []) :=
  ⟨same, rfl, stage, otherStage, rfl, rfl, fun _ => agree⟩

private theorem of_giveFrom
    (same : client.SameFeatureSide otherClient)
    (sameContext : query.context = other.context)
    (base : Table Evaluated) :
    TurnsAgree query other (client.giveFrom query base) (otherClient.giveFrom other base) := by
  obtain ⟨result, concludes⟩ := same.conclude_eq query.context base
  obtain ⟨consultations, warnings, shape⟩ := client.exists_giveFrom query base
  obtain ⟨otherConsultations, otherWarnings, otherShape⟩ := otherClient.exists_giveFrom other base
  rw [shape, otherShape, (concludes query rfl).1, (concludes other sameContext.symm).2]
  exact of_goTo (same.withNotes _ _ warnings otherWarnings) (.answered result)

private theorem of_useSnapshot
    (same : client.SameFeatureSide otherClient)
    (sameContext : query.context = other.context)
    (looked : Except Failure (Snapshot (List Prepared))) :
    TurnsAgree query other
      (client.useSnapshot now query looked) (otherClient.useSnapshot now other looked) := by
  cases looked with
  | error failure =>
      exact of_goTo same (.answered (.error failure))
  | ok snapshot =>
      refine of_goTo (same.withNotes _ _ _ _) ?_
      simp only [CallStage.settled, Query.fields, sameContext, same.wallClock]
      exact .reporting

private theorem of_askForDownload
    (same : client.SameFeatureSide otherClient)
    (ticker : Ticker (List Prepared)) :
    TurnsAgree query other
      (client.askForDownload ticker (.downloading query))
      (otherClient.askForDownload ticker (.downloading other)) := by
  rcases same.askForDownload_cases ticker (.downloading query) (.downloading other) with
    ⟨failure, here, there⟩ | ⟨definitions, refresh, begun, here, there⟩
  · rw [here, there]
    exact of_goTo same (.answered (.error failure))
  · rw [here, there]
    exact ⟨same.withDefinitions _, rfl, _, _, rfl, rfl, fun _ => .downloading⟩

private theorem of_resolve
    (same : client.SameFeatureSide otherClient)
    (sameContext : query.context = other.context)
    (now : Moment) :
    TurnsAgree query other (client.resolve now query) (otherClient.resolve now other) := by
  unfold Client.resolve
  rw [← same.settings, ← same.definitions]
  cases client.settings.mode with
  | offline =>
      exact of_giveFrom same sameContext .empty
  | localEvaluation =>
      cases client.definitions with
      | none =>
          exact of_giveFrom same sameContext .empty
      | some ticker =>
          simp only
          split
          · exact of_goTo same .asking
          · exact of_useSnapshot same sameContext _
  | remoteEvaluation =>
      rcases same.transport_cases with
        ⟨here, there⟩ | ⟨transport, otherTransport, here, there, url, -⟩
      · rw [here, there]
        exact of_giveFrom same sameContext .empty
      · rw [here, there]
        have sameRequest :
            transport.evaluationsRequest query.fields =
              otherTransport.evaluationsRequest other.fields := by
          simp [Transport.evaluationsRequest, Transport.addressOf, url, Query.fields, sameContext]
        simp only [sameRequest]
        exact of_goTo same .evaluating

private theorem rel_evaluating
    (same : client.SameFeatureSide otherClient)
    (sameContext : query.context = other.context)
    (now : Moment)
    (exchange : Exchange) :
    Option.Rel (TurnsAgree query other)
      (client.callerTurn now (.evaluating query exchange))
      (otherClient.callerTurn now (.evaluating other exchange)) := by
  rcases same.exchange?_cases now exchange with
    ⟨here, there⟩ | ⟨moved, progress, otherMoved, otherProgress, here, there, sameMoved, agree⟩
  · simp only [Client.callerTurn, here, there]
    exact .none
  · simp only [Client.callerTurn, here, there]
    cases agree with
    | going sameReply =>
        refine .some ⟨sameMoved, rfl, _, _, rfl, rfl, fun awaits => ?_⟩
        rw [sameReply awaits]
        exact .evaluating
    | ended =>
        have sameFields : query.fields = other.fields := congrArg Context.fields sameContext
        refine .some ?_
        rw [sameFields]
        exact of_giveFrom sameMoved sameContext _

private theorem rel_downloading
    (same : client.SameFeatureSide otherClient)
    (sameContext : query.context = other.context)
    (now : Moment)
    (refresh : Nat) :
    Option.Rel (TurnsAgree query other)
      (client.callerTurn now (.downloading query refresh))
      (otherClient.callerTurn now (.downloading other refresh)) := by
  simp only [Client.callerTurn, same.definitions]
  cases otherClient.definitions with
  | none =>
      exact .none
  | some ticker =>
      rcases seen : ticker.await? refresh with _ | ⟨seen, succeeded⟩
      · simp only [Option.bind_eq_bind, Option.bind_some, seen]
        exact .none
      · simp only [Option.bind_eq_bind, Option.bind_some, seen]
        exact .some (of_useSnapshot (same.withDefinitions _) sameContext _)

/-- Two callers that agree take turns that agree. -/
theorem rel_callerTurn
    (same : client.SameFeatureSide otherClient)
    (sameContext : query.context = other.context)
    (agree : Agree query other stage otherStage)
    (now : Moment) :
    Option.Rel (TurnsAgree query other)
      (client.callerTurn now stage) (otherClient.callerTurn now otherStage) := by
  cases agree with
  | resolving =>
      exact .some (of_resolve same sameContext now)
  | asking =>
      simp only [Client.callerTurn, same.definitions]
      cases otherClient.definitions with
      | none =>
          exact .none
      | some ticker =>
          exact .some (of_askForDownload same ticker)
  | downloading =>
      exact rel_downloading same sameContext now _
  | reporting =>
      exact .some (of_giveFrom same sameContext _)
  | evaluating =>
      exact rel_evaluating same sameContext now _
  | answered =>
      exact .none

/-- Two calls with such queries begin with turns that agree. -/
theorem of_beginCall
    {call otherCall : Call}
    (same : client.SameFeatureSide otherClient)
    (asks : call.query? = some query)
    (otherAsks : otherCall.query? = some other) :
    TurnsAgree query other (client.beginCall call) (otherClient.beginCall otherCall) := by
  have settled
      {call : Call}
      {query : Query}
      (asks : call.query? = some query) :
      call.entry.settled = .resolving query := by
    cases call <;> cases asks <;> rfl
  simp only [Client.beginCall, Client.checkDisposed, same.disposed]
  cases otherClient.disposed with
  | true =>
      exact of_goTo same (.answered (.error (.disposed "client")))
  | false =>
      refine of_goTo same ?_
      rw [settled asks, settled otherAsks]
      exact .resolving

end CallStage.TurnsAgree

/-! ## Turns of settled tasks -/

/-- What a task does in its turns on two clients, with which only the reply has to do. -/
structure ClientTask.TurnsAgree (turn otherTurn : Turn Client ClientTask) : Prop where
  shared : turn.shared.SameFeatureSide otherTurn.shared
  begun : turn.begun.filterMap featureSide? = otherTurn.begun.filterMap featureSide?
  left :
    turn.task.bind awaits? = otherTurn.task.bind awaits? →
    turn.task.bind featureSide? = otherTurn.task.bind featureSide?

namespace ClientTask.TurnsAgree

variable
  {client other : Client}
  {query : Query}
  {task : ClientTask}
  {turn otherTurn : Turn Client ClientTask}

/-- Two callers with the same query that agree are at the same stage. -/
private theorem eq_of_agree
    {stage otherStage : CallStage}
    (agree : CallStage.Agree query query stage otherStage) :
    stage = otherStage := by
  cases agree <;> rfl

private theorem of_callers (agree : CallStage.TurnsAgree query query turn otherTurn) :
    TurnsAgree turn otherTurn := by
  refine ⟨agree.shared, agree.begun, fun awaits => ?_⟩
  obtain ⟨stage, otherStage, left, otherLeft, agrees⟩ := agree.left
  rw [left, otherLeft] at awaits ⊢
  have same := eq_of_agree (agrees awaits)
  simp only [Option.bind_some, featureSide?]
  rw [← stage.featureSide?_settled, same, otherStage.featureSide?_settled]

private theorem rel_of_callers
    {turn otherTurn : Option (Turn Client ClientTask)}
    (agree : Option.Rel (CallStage.TurnsAgree query query) turn otherTurn) :
    Option.Rel TurnsAgree turn otherTurn := by
  cases agree with
  | none =>
      exact .none
  | some agree =>
      exact .some (of_callers agree)

private theorem rel_definitionsLoop
    (same : client.SameFeatureSide other)
    (now : Moment)
    (loop : TickerLoop) :
    Option.Rel TurnsAgree
      (client.turn now (.definitionsLoop loop)) (other.turn now (.definitionsLoop loop)) := by
  simp only [Client.turn, same.definitions]
  cases other.definitions with
  | none =>
      exact .none
  | some ticker =>
      simp only [Option.bind_eq_bind, Option.bind_some]
      cases loop.move? now ticker with
      | none =>
          exact .none
      | some move =>
          refine .some ⟨same.withDefinitions _, ?_, fun _ => rfl⟩
          simp only [funext (same.withDefinitions (some move.ticker)).downloadTask?_eq]

private theorem rel_download
    (same : client.SameFeatureSide other)
    (now : Moment)
    (refresh : Nat)
    (exchange : Exchange) :
    Option.Rel TurnsAgree
      (client.turn now (.download refresh exchange))
      (other.turn now (.download refresh exchange)) := by
  rcases same.exchange?_cases now exchange with
    ⟨here, there⟩ | ⟨moved, progress, otherMoved, otherProgress, here, there, sameMoved, agree⟩
  · simp only [Client.turn, here, there]
    exact .none
  · simp only [Client.turn, here, there]
    cases agree with
    | going sameReply =>
        refine .some ⟨sameMoved, rfl, fun awaits => ?_⟩
        rw [sameReply awaits]
    | ended =>
        refine .some ⟨?_, rfl, fun _ => rfl⟩
        simp only [Client.endDownload, sameMoved.definitions]
        exact sameMoved.withDefinitions _

private theorem rel_requesting
    (same : client.SameFeatureSide other)
    (now : Moment) :
    Option.Rel TurnsAgree
      (client.turn now (.caller .requesting)) (other.turn now (.caller .requesting)) := by
  simp only [Client.turn, Client.callerTurn, same.definitions]
  cases other.definitions with
  | none =>
      exact .some ⟨same, rfl, fun _ => rfl⟩
  | some ticker =>
      refine .some ?_
      rcases same.askForDownload_cases ticker .refreshing .refreshing with
        ⟨failure, here, there⟩ | ⟨definitions, refresh, begun, here, there⟩
      · rw [here, there]
        exact ⟨same, rfl, fun _ => rfl⟩
      · rw [here, there]
        exact ⟨same.withDefinitions _, rfl, fun _ => rfl⟩

private theorem rel_refreshing
    (same : client.SameFeatureSide other)
    (now : Moment)
    (refresh : Nat) :
    Option.Rel TurnsAgree
      (client.turn now (.caller (.refreshing refresh)))
      (other.turn now (.caller (.refreshing refresh))) := by
  simp only [Client.turn, Client.callerTurn, same.definitions]
  cases other.definitions with
  | none =>
      exact .none
  | some ticker =>
      rcases seen : ticker.await? refresh with _ | ⟨seen, succeeded⟩
      · simp only [Option.bind_eq_bind, Option.bind_some, seen]
        exact .none
      · simp only [Option.bind_eq_bind, Option.bind_some, seen]
        exact .some ⟨same.withDefinitions _, rfl, fun _ => rfl⟩

private theorem rel_begun
    (same : client.SameFeatureSide other)
    (now : Moment)
    (call : Call) :
    Option.Rel TurnsAgree
      (client.turn now (.caller (.begun call))) (other.turn now (.caller (.begun call))) := by
  simp only [Client.turn, Client.callerTurn, Client.beginCall, Client.checkDisposed, same.disposed]
  cases other.disposed with
  | true =>
      exact .some ⟨same, rfl, fun _ => rfl⟩
  | false =>
      exact .some ⟨same, rfl, fun _ => rfl⟩

/-- A settled task takes turns on two such clients that agree. -/
theorem rel_turn
    (same : client.SameFeatureSide other)
    (settled : task.isSettled = true)
    (now : Moment) :
    Option.Rel TurnsAgree (client.turn now task) (other.turn now task) := by
  have of_query
      {query : Query}
      {stage : CallStage}
      (agree : CallStage.Agree query query stage stage) :
      Option.Rel TurnsAgree
        (client.turn now (.caller stage)) (other.turn now (.caller stage)) :=
    rel_of_callers (CallStage.TurnsAgree.rel_callerTurn same rfl agree now)
  cases task with
  | definitionsLoop loop =>
      exact rel_definitionsLoop same now loop
  | download refresh exchange =>
      exact rel_download same now refresh exchange
  | flushLoop | flush | flushing | delivery =>
      cases settled
  | caller stage =>
      cases stage with
      | begun call =>
          exact rel_begun same now call
      | resolving =>
          exact of_query .resolving
      | asking =>
          exact of_query .asking
      | downloading =>
          exact of_query .downloading
      | evaluating =>
          exact of_query .evaluating
      | requesting =>
          exact rel_requesting same now
      | refreshing refresh =>
          exact rel_refreshing same now refresh
      | reporting reports =>
          cases reports with
          | nil =>
              exact of_query .reporting
          | cons =>
              cases settled
      | updating | draining | flushing | answered =>
          cases settled

end ClientTask.TurnsAgree

end FeatureFlags
