import FeatureFlags.Proofs.Client.Moves
import FeatureFlags.Proofs.Client.Operations
import FeatureFlags.Proofs.Telemetry.OutboxRun
import FeatureFlags.Proofs.Transport.Moves

namespace FeatureFlags

/-!
# Traffic of a client

What the tasks of a client do with the queue and with requests, whatever else they do: a
turn offers a message, or takes the queue, or moves an exchange, or does none of that.
-/

open FeatureFlags.Feature (Evaluated Prepared)
open FeatureFlags.Telemetry (Message OutboxCall)
open FeatureFlags.Transport (Endpoint Exchange Progress Request)

/-! ## Tasks -/

namespace ClientTask

/-- The exchange by which a task sends messages. -/
def dispatch? : ClientTask → Option Exchange
  | .flushing _ running => some running
  | .delivery running => some running
  | .caller (.flushing running) => some running
  | _ => none

/-- What a task is about to do with the queue. -/
def outboxCall? : ClientTask → Option OutboxCall
  | .flush _ => some .take
  | .caller .draining => some .take
  | .caller (.updating (update :: _) _) => some (.offer update)
  | .caller (.reporting (report :: _) _ _) => some (.offer report)
  | _ => none

/-- Whether a task takes the queue some time. -/
def mayDrain : ClientTask → Bool
  | .flush _ => true
  | .caller (.begun .flush) => true
  | .caller .draining => true
  | _ => false

/-- Whether a task is a caller that has been told that what was queued has been sent. -/
def isFlushed : ClientTask → Bool
  | .caller (.answered (.ok .flushed)) => true
  | _ => false

/-- Messages are sent by posts, and everything else is got from where it is offered. -/
def IsRouted : ClientTask → Prop
  | .download _ running => running.request.endpoint = .definitions
  | .caller (.evaluating _ running) => running.request.endpoint = .evaluations
  | .flushing _ running => running.request.endpoint.method = .post
  | .delivery running => running.request.endpoint.method = .post
  | .caller (.flushing running) => running.request.endpoint.method = .post
  | _ => True

variable {task : ClientTask} {exchange : Exchange}

theorem exchange?_of_dispatch?
    (sends : task.dispatch? = some exchange) :
    task.exchange? = some exchange := by
  unfold dispatch? at sends
  split at sends
  · exact sends
  · exact sends
  · exact sends
  · cases sends

theorem dispatch?_of_exchange?_eq_none
    (idle : task.exchange? = none) :
    task.dispatch? = none := by
  cases sends : task.dispatch? with
  | none =>
      rfl
  | some exchange =>
      simp [exchange?_of_dispatch? sends] at idle

/-- A task that has an exchange does nothing with the queue. -/
theorem outboxCall?_of_exchange?
    (drives : task.exchange? = some exchange) :
    task.outboxCall? = none := by
  unfold exchange? at drives
  split at drives
  · rfl
  · rfl
  · rfl
  · rfl
  · rfl
  · cases drives

/-- A task that is about to do something with the queue has no exchange. -/
theorem dispatch?_of_outboxCall?
    {called : OutboxCall}
    (calls : task.outboxCall? = some called) :
    task.dispatch? = none := by
  cases sends : task.dispatch? with
  | none =>
      rfl
  | some exchange =>
      have none := outboxCall?_of_exchange? (exchange?_of_dispatch? sends)
      simp [calls] at none

theorem mayDrain_of_take
    (calls : task.outboxCall? = some .take) :
    task.mayDrain = true := by
  unfold outboxCall? at calls
  split at calls
  · rfl
  · rfl
  · cases calls
  · cases calls
  · cases calls

/-- An exchange that sends no messages gets something. -/
theorem IsRouted.method_of_dispatch?_eq_none
    (routed : task.IsRouted)
    (drives : task.exchange? = some exchange)
    (silent : task.dispatch? = none) :
    exchange.request.endpoint.method = .get := by
  unfold exchange? at drives
  split at drives
  · cases drives
    exact congrArg Endpoint.method routed
  · cases silent
  · cases silent
  · cases drives
    exact congrArg Endpoint.method routed
  · cases silent
  · cases drives

/-- An exchange that sends messages posts them. -/
theorem IsRouted.method_of_dispatch?
    (routed : task.IsRouted)
    (sends : task.dispatch? = some exchange) :
    exchange.request.endpoint.method = .post := by
  unfold dispatch? at sends
  split at sends
  · cases sends
    exact routed
  · cases sends
    exact routed
  · cases sends
    exact routed
  · cases sends

end ClientTask

/-! ## Operations of the client -/

namespace Transport

variable {transport : Transport} {batch : List Message} {request : Request}

/-- Messages are sent by posts. -/
theorem method_of_deliveryRequest?
    (found : transport.deliveryRequest? batch = some request) :
    request.endpoint.method = .post := by
  unfold deliveryRequest? at found
  split at found
  · cases found
  · cases found
    rfl
  · cases found
    rfl

/-- There is something to send for every batch that is not empty. -/
theorem exists_deliveryRequest?
    (transport : Transport)
    (filled : batch ≠ []) :
    ∃ request, transport.deliveryRequest? batch = some request := by
  unfold deliveryRequest?
  split
  · exact absurd rfl filled
  · exact ⟨_, rfl⟩
  · exact ⟨_, rfl⟩

end Transport

/-- Only a batch that holds the message comes out of an offer. -/
theorem Telemetry.Outbox.batch_ne_nil_of_offer
    {outbox : Telemetry.Outbox}
    {now : Moment}
    {message : Message}
    {batch : List Message}
    (filled : (outbox.perform now (.offer message)).event.batch? = some batch) :
    batch ≠ [] := by
  rcases outbox.enqueue_cases now message with
    ⟨_, shape⟩ | ⟨_, _, shape⟩ | ⟨_, _, shape⟩
  · simp [perform, shape, OutboxEvent.batch?] at filled
  · simp [perform, shape, OutboxEvent.batch?] at filled
  · simp only [perform, shape, OutboxEvent.batch?, Option.some.injEq] at filled
    simp [← filled]

/-- Whoever takes the queue leaves it empty, and whoever fills it too. -/
theorem Telemetry.Outbox.queue_of_batch
    {outbox : Telemetry.Outbox}
    {now : Moment}
    {called : OutboxCall}
    {batch : List Message}
    (drained : (outbox.perform now called).event.batch? = some batch) :
    (outbox.perform now called).after.queue = [] := by
  cases called with
  | offer message =>
      rcases outbox.enqueue_cases now message with
        ⟨_, shape⟩ | ⟨_, _, shape⟩ | ⟨_, _, shape⟩
      · simp [perform, shape, OutboxEvent.batch?] at drained
      · simp [perform, shape, OutboxEvent.batch?] at drained
      · simp [perform, shape, drain]
  | take =>
      rfl

namespace Client

variable {now : Moment} {client moved : Client} {transport : Transport}

/-- An exchange of a client moves on its transport. -/
theorem moves_of_exchange?
    {exchange : Exchange}
    {progress : Progress}
    (online : client.transport = some transport)
    (possible : client.exchange? now exchange = some (moved, progress)) :
    ∃ after,
      Exchange.Moves now transport exchange.request exchange.stage after progress ∧
        moved = { client with transport := some after } := by
  simp only [exchange?, online, Option.bind_eq_bind, Option.bind_some,
    Option.bind_eq_some_iff] at possible
  obtain ⟨⟨after, made⟩, moves, pair⟩ := possible
  cases pair
  exact ⟨after, .of_move? moves, rfl⟩

/-- Unless it is offline, a client passes what it is offered on to its queue. -/
theorem enqueue_eq
    (online : client.settings.mode ≠ .offline)
    (now : Moment)
    (message : Message) :
    client.enqueue now message =
      ({ client with outbox := (client.outbox.perform now (.offer message)).after },
        (client.outbox.perform now (.offer message)).event.batch?.toList) := by
  unfold enqueue
  split
  · contradiction
  · rcases client.outbox.enqueue_cases now message with
      ⟨_, shape⟩ | ⟨_, _, shape⟩ | ⟨_, _, shape⟩ <;>
      simp [Telemetry.Outbox.perform, shape, Telemetry.OutboxEvent.batch?]

/-- A full batch is sent by a task of its own. -/
theorem deliveries_eq
    (online : client.transport = some transport)
    (batch : Option Batch) :
    client.deliveries batch.toList =
      ((batch.bind transport.deliveryRequest?).map .ofRequest).toList := by
  cases batch with
  | none =>
      simp
  | some batch =>
      cases found : transport.deliveryRequest? batch <;> simp [deliveries, online, found]

end Client

/-- Two states of a client differ in their tickers and in what they note at most. -/
structure Client.KeepsTrafficOf (used client : Client) : Prop where
  settings : used.settings = client.settings
  outbox : used.outbox = client.outbox
  transport : used.transport = client.transport
  disposed : used.disposed = client.disposed

namespace Client.KeepsTrafficOf

variable {used client : Client}

private theorem refl (client : Client) : client.KeepsTrafficOf client :=
  ⟨rfl, rfl, rfl, rfl⟩

private theorem withNotes
    (kept : used.KeepsTrafficOf client)
    (consultations : List Feature.Consultation)
    (warnings : List LogRecord) :
    ({ used with consultations, warnings } : Client).KeepsTrafficOf client :=
  ⟨kept.settings, kept.outbox, kept.transport, kept.disposed⟩

/-- An offer changes the queue only, and a batch that it filled is sent by a new task. -/
theorem of_enqueue
    {now : Moment}
    {transport : Transport}
    {message : Message}
    {queued : Client}
    {batches : List Client.Batch}
    (online : client.settings.mode ≠ .offline)
    (found : client.transport = some transport)
    (offered : client.enqueue now message = (queued, batches)) :
    queued.KeepsTrafficOf
        { client with outbox := (client.outbox.perform now (.offer message)).after } ∧
      queued.deliveries batches =
        (((client.outbox.perform now (.offer message)).event.batch?.bind
          transport.deliveryRequest?).map ClientTask.ofRequest).toList := by
  rw [Client.enqueue_eq online] at offered
  obtain ⟨rfl, rfl⟩ := Prod.mk.inj offered
  exact ⟨.refl _, Client.deliveries_eq (by exact found) _⟩

end Client.KeepsTrafficOf

/-! ## Turns -/

/-- A task that has just begun. -/
structure ClientTask.IsNew (task : ClientTask) : Prop where
  routed : task.IsRouted
  unflushed : task.isFlushed = false

/-- A task that sends a full batch is new when it begins. -/
theorem ClientTask.IsNew.ofRequest
    {transport : Transport}
    {batch : Option (List Message)}
    {new : ClientTask}
    (begins :
      new ∈ ((batch.bind transport.deliveryRequest?).map ClientTask.ofRequest).toList) :
    new.IsNew := by
  obtain ⟨request, found, rfl⟩ := Option.map_eq_some_iff.mp (Option.mem_toList.mp begins)
  obtain ⟨messages, -, sends⟩ := Option.bind_eq_some_iff.mp found
  exact ⟨Transport.method_of_deliveryRequest? sends, rfl⟩

/-- A task that neither sends nor takes messages, and has not been told that they were sent. -/
structure ClientTask.IsSilent (task : ClientTask) : Prop where
  dispatch : task.dispatch? = none
  drain : task.mayDrain = false
  flush : task.isFlushed = false
  routed : task.IsRouted

/-- A turn that leaves queue and transport alone, and a silent task. -/
structure Client.IsQuiet
    (client : Client)
    (turn : Turn Client ClientTask) :
    Prop where
  kept : turn.shared.KeepsTrafficOf client
  silent : ∀ {left}, turn.task = some left → left.IsSilent
  begun : ∀ {new}, new ∈ turn.begun → new.dispatch? = none ∧ new.IsNew

namespace Client.IsQuiet

variable {now : Moment} {client used : Client}

/-- A caller goes on in silence. -/
private theorem goTo
    {stage : CallStage}
    {new : List ClientTask}
    (kept : used.KeepsTrafficOf client)
    (silent : (ClientTask.caller stage).IsSilent)
    (begun : ∀ task ∈ new, task.dispatch? = none ∧ task.IsNew) :
    client.IsQuiet (used.goTo stage new) where
  kept := kept
  silent := by
    intro left shape
    cases shape
    exact silent
  begun := by
    intro task member
    exact begun task member

/-- A loop goes on in silence, whatever refresh it begins. -/
private theorem loopMoves
    {loop? : Option TickerLoop}
    {loopTask : TickerLoop → ClientTask}
    {new : List ClientTask}
    (kept : used.KeepsTrafficOf client)
    (silent : ∀ loop, (loopTask loop).IsSilent)
    (begun : ∀ task ∈ new, task.dispatch? = none ∧ task.IsNew) :
    client.IsQuiet ⟨used, loop?.map loopTask, new⟩ where
  kept := kept
  silent := by
    intro left shape
    obtain ⟨loop, -, rfl⟩ := Option.map_eq_some_iff.mp shape
    exact silent loop
  begun := by
    intro task member
    exact begun task member

theorem giveFrom
    (kept : used.KeepsTrafficOf client)
    (query : Query)
    (base : Table Evaluated) :
    client.IsQuiet (used.giveFrom query base) := by
  simp only [Client.giveFrom, Client.conclude]
  split
  · exact goTo (kept.withNotes _ _) ⟨rfl, rfl, rfl, trivial⟩ (by simp)
  · refine goTo (kept.withNotes _ _) ⟨rfl, rfl, ?_, trivial⟩ (by simp)
    simp only [Query.answer]
    split <;> rfl

theorem useSnapshot
    (kept : used.KeepsTrafficOf client)
    (query : Query)
    (snapshot : Except Failure (Snapshot (List Prepared))) :
    client.IsQuiet (used.useSnapshot now query snapshot) := by
  cases snapshot with
  | error failure =>
      exact goTo kept ⟨rfl, rfl, rfl, trivial⟩ (by simp)
  | ok snapshot =>
      exact goTo (kept.withNotes _ _) ⟨rfl, rfl, rfl, trivial⟩ (by simp)

theorem askForDownload
    {turn : Turn Client ClientTask}
    {ticker : Ticker (List Prepared)}
    {waiting : Nat → CallStage}
    (asks : client.AsksForDownload ticker waiting turn)
    (silent : ∀ refresh, (ClientTask.caller (waiting refresh)).IsSilent) :
    client.IsQuiet turn := by
  cases asks with
  | refused =>
      exact goTo (.refl client) ⟨rfl, rfl, rfl, trivial⟩ (by simp)
  | joins =>
      exact goTo ⟨rfl, rfl, rfl, rfl⟩ (silent _) (by simp)
  | begins =>
      refine goTo ⟨rfl, rfl, rfl, rfl⟩ (silent _) ?_
      intro task member
      rcases List.mem_append.mp member with download | loop
      · obtain ⟨transport, -, rfl⟩ := Option.map_eq_some_iff.mp (Option.mem_toList.mp download)
        exact ⟨rfl, rfl, rfl⟩
      · cases List.mem_singleton.mp loop
        exact ⟨rfl, trivial, rfl⟩

theorem resolve
    {turn : Turn Client ClientTask}
    {query : Query}
    (resolves : client.Resolves now query turn) :
    client.IsQuiet turn := by
  cases resolves with
  | misses =>
      exact goTo (.refl client) ⟨rfl, rfl, rfl, trivial⟩ (by simp)
  | uses =>
      exact useSnapshot (.refl client) query _
  | consults =>
      exact goTo (.refl client) ⟨rfl, rfl, rfl, rfl⟩ (by simp)
  | concludes =>
      exact giveFrom (.refl client) query .empty

end Client.IsQuiet

/-- What a turn does with the queue and with requests, whatever else it does. -/
inductive ClientTask.Works
    (now : Moment)
    (client : Client)
    (transport : Transport)
    (task : ClientTask)
    (turn : Turn Client ClientTask) :
    Prop where
  /-- Neither queue nor transport is touched. -/
  | rests :
      task.outboxCall? = none →
      task.exchange? = none →
      client.IsQuiet turn →
      Works now client transport task turn
  /-- A caller that wants the queue to be sent is let in. -/
  | enters :
      task = .caller (.begun .flush) →
      turn = client.goTo .draining [] →
      Works now client transport task turn
  /-- A message is offered to the queue. -/
  | offers
      {message : Message}
      {left : ClientTask} :
      task.outboxCall? = some (.offer message) →
      turn.shared.KeepsTrafficOf
        { client with outbox := (client.outbox.perform now (.offer message)).after } →
      turn.task = some left →
      left.IsSilent →
      turn.begun =
        (((client.outbox.perform now (.offer message)).event.batch?.bind
          transport.deliveryRequest?).map ClientTask.ofRequest).toList →
      Works now client transport task turn
  /-- The queue is taken. -/
  | drains :
      task.outboxCall? = some .take →
      turn.shared.KeepsTrafficOf
        { client with outbox := (client.outbox.perform now .take).after } →
      turn.task.bind dispatch? =
        (transport.deliveryRequest? client.outbox.queue).map ({ request := · }) →
      (∀ {left}, turn.task = some left → left.mayDrain = false ∧ left.IsRouted) →
      turn.begun = [] →
      Works now client transport task turn
  /-- An exchange moves. -/
  | exchanges
      {exchange : Exchange}
      {after : Transport}
      {progress : Progress} :
      task.exchange? = some exchange →
      Exchange.Moves now transport exchange.request exchange.stage after progress →
      turn.shared.KeepsTrafficOf { client with transport := some after } →
      turn.task.bind dispatch? = task.dispatch?.bind (fun _ => progress.exchange?) →
      (∀ {left}, turn.task = some left →
        left.mayDrain = false ∧
          (left.isFlushed = true → task.dispatch? = some exchange) ∧
          (task.IsRouted → left.IsRouted)) →
      turn.begun = [] →
      Works now client transport task turn

namespace ClientTask.Works

variable
  {now : Moment}
  {client : Client}
  {transport : Transport}
  {task : ClientTask}
  {turn : Turn Client ClientTask}

/-- A caller that reports offers its message. -/
private theorem of_report
    (online : client.settings.mode ≠ .offline)
    (found : client.transport = some transport)
    {message : Message}
    {stage : CallStage}
    (calls : task.outboxCall? = some (.offer message))
    (silent : (ClientTask.caller stage).IsSilent) :
    task.Works now client transport (client.report now message stage) := by
  obtain ⟨kept, begun⟩ := Client.KeepsTrafficOf.of_enqueue online found
    (Prod.eta (client.enqueue now message)).symm
  exact .offers calls kept rfl silent begun

/-- Whoever takes the queue posts it, unless there is nothing that could be sent. -/
private theorem of_drain
    (found : client.transport = some transport)
    {taken : Client}
    {request? : Option Request}
    (takes : client.takeBatch now = (taken, request?))
    (calls : task.outboxCall? = some .take)
    (kept : turn.shared.KeepsTrafficOf taken)
    (dispatches : turn.task.bind dispatch? = request?.map ({ request := · }))
    (leaves :
      ∀ {left},
        turn.task = some left →
        left.mayDrain = false ∧
          ((∀ {request}, request? = some request → request.endpoint.method = .post) →
            left.IsRouted))
    (begun : turn.begun = []) :
    task.Works now client transport turn := by
  unfold Client.takeBatch at takes
  obtain ⟨rfl, shape⟩ := Prod.mk.inj takes
  have posts : transport.deliveryRequest? client.outbox.queue = request? := by
    rw [found] at shape
    exact shape
  refine .drains calls kept (posts ▸ dispatches) ?_ begun
  intro left stays
  obtain ⟨idle, routed⟩ := leaves stays
  exact ⟨idle, routed fun sends => Transport.method_of_deliveryRequest? (posts.trans sends)⟩

/-- A caller for whom the backend has evaluated no longer exchanges anything. -/
private theorem of_evaluated
    (found : client.transport = some transport)
    {query : Query}
    {exchange : Exchange}
    {moved : Client}
    {result : Except Failure Transport.Content}
    (possible : client.exchange? now exchange = some (moved, .ended result)) :
    (ClientTask.caller (.evaluating query exchange)).Works now client transport
      (moved.giveFrom query (Client.remoteBase query.fields result)) := by
  obtain ⟨after, moves, rfl⟩ := Client.moves_of_exchange? found possible
  have quiet :
      Client.IsQuiet
        { client with transport := some after }
        (({ client with transport := some after } : Client).giveFrom query
          (Client.remoteBase query.fields result)) :=
    .giveFrom (.refl _) query _
  refine .exchanges rfl moves quiet.kept ?_ ?_ rfl
  · cases left : Turn.task _ with
    | none =>
        rfl
    | some task =>
        exact (quiet.silent left).dispatch
  · intro left shape
    refine
      ⟨(quiet.silent shape).drain, fun flushed => ?_, fun _ => (quiet.silent shape).routed⟩
    simp [(quiet.silent shape).flush] at flushed

end ClientTask.Works

open ClientTask.Works in
/-- Every turn of a client that is not offline does one of these. -/
theorem ClientTask.Takes.works
    {now : Moment}
    {client : Client}
    {transport : Transport}
    {task : ClientTask}
    {turn : Turn Client ClientTask}
    (taken : task.Takes now client turn)
    (online : client.settings.mode ≠ .offline)
    (found : client.transport = some transport) :
    task.Works now client transport turn := by
  cases taken with
  | definitionsLoopMoves =>
      refine .rests rfl rfl (.loopMoves ⟨rfl, rfl, rfl, rfl⟩ (fun _ => ⟨rfl, rfl, rfl, trivial⟩) ?_)
      intro new member
      obtain ⟨refresh, -, begun⟩ := Option.bind_eq_some_iff.mp (Option.mem_toList.mp member)
      obtain ⟨transport, -, rfl⟩ := Option.map_eq_some_iff.mp begun
      exact ⟨rfl, rfl, rfl⟩
  | flushLoopMoves =>
      refine .rests rfl rfl (.loopMoves ⟨rfl, rfl, rfl, rfl⟩ (fun _ => ⟨rfl, rfl, rfl, trivial⟩) ?_)
      intro new member
      obtain ⟨refresh, -, rfl⟩ := List.mem_map.mp member
      exact ⟨rfl, trivial, rfl⟩
  | downloadGoes possible | flushingGoes possible | deliveryGoes possible
  | evaluatingGoes possible | callerFlushingGoes possible =>
      obtain ⟨after, moves, rfl⟩ := Client.moves_of_exchange? found possible
      refine .exchanges rfl moves ⟨rfl, rfl, rfl, rfl⟩ rfl ?_ rfl
      intro left shape
      cases shape
      refine ⟨rfl, nofun, fun routed => ?_⟩
      simpa [ClientTask.IsRouted, moves.of_going.1] using routed
  | downloadEnds possible | flushingEnds possible | deliveryEnds possible =>
      obtain ⟨after, moves, rfl⟩ := Client.moves_of_exchange? found possible
      exact .exchanges rfl moves ⟨rfl, rfl, rfl, rfl⟩ rfl nofun rfl
  | evaluatingEnds possible =>
      exact of_evaluated found possible
  | callerFlushed possible =>
      obtain ⟨after, moves, rfl⟩ := Client.moves_of_exchange? found possible
      refine .exchanges rfl moves ⟨rfl, rfl, rfl, rfl⟩ rfl ?_ rfl
      intro left shape
      cases shape
      exact ⟨rfl, fun _ => rfl, fun _ => trivial⟩
  | flushFindsNothing takes =>
      exact of_drain found takes rfl ⟨rfl, rfl, rfl, rfl⟩ rfl nofun rfl
  | flushTakes takes =>
      refine of_drain found takes rfl (.refl _) rfl ?_ rfl
      rintro left ⟨⟩
      exact ⟨rfl, fun posts => posts rfl⟩
  | callerDrainsNothing takes =>
      refine of_drain found takes rfl ⟨rfl, rfl, rfl, rfl⟩ rfl ?_ rfl
      rintro left ⟨⟩
      exact ⟨rfl, fun _ => trivial⟩
  | callerDrains takes =>
      refine of_drain found takes rfl ⟨rfl, rfl, rfl, rfl⟩ rfl ?_ rfl
      rintro left ⟨⟩
      exact ⟨rfl, fun posts => posts rfl⟩
  | callRefused =>
      exact .rests rfl rfl (.goTo ⟨rfl, rfl, rfl, rfl⟩ ⟨rfl, rfl, rfl, trivial⟩ (by simp))
  | callEnters => 
      rename_i call _
      cases call with
      | flush =>
          exact .enters rfl rfl
      | features | feature | refresh =>
          exact .rests rfl rfl (.goTo ⟨rfl, rfl, rfl, rfl⟩ ⟨rfl, rfl, rfl, trivial⟩ (by simp))
  | callerUpdates =>
      exact of_report online found rfl ⟨rfl, rfl, rfl, trivial⟩
  | callerReports =>
      exact of_report online found rfl ⟨rfl, rfl, rfl, trivial⟩
  | callerUpdated =>
      exact .rests rfl rfl (.goTo ⟨rfl, rfl, rfl, rfl⟩ ⟨rfl, rfl, rfl, trivial⟩ (by simp))
  | callerResolves =>
      exact .rests rfl rfl (.resolve (client.resolves now _))
  | callerAsks =>
      exact
        .rests rfl rfl
          (.askForDownload (client.asksForDownload _ _) fun _ => ⟨rfl, rfl, rfl, trivial⟩)
  | callerDownloaded =>
      refine .rests rfl rfl (.useSnapshot ?_ _ _)
      exact ⟨rfl, rfl, rfl, rfl⟩
  | callerReported =>
      exact .rests rfl rfl (.giveFrom (.refl client) _ _)
  | callerRequestsNothing =>
      exact .rests rfl rfl (.goTo ⟨rfl, rfl, rfl, rfl⟩ ⟨rfl, rfl, rfl, trivial⟩ (by simp))
  | callerRequests =>
      exact
        .rests rfl rfl
          (.askForDownload (client.asksForDownload _ _) fun _ => ⟨rfl, rfl, rfl, trivial⟩)
  | callerRefreshed =>
      exact .rests rfl rfl (.goTo ⟨rfl, rfl, rfl, rfl⟩ ⟨rfl, rfl, rfl, trivial⟩ (by simp))

namespace ClientTask.Works

variable
  {now : Moment}
  {client : Client}
  {transport : Transport}
  {task left new : ClientTask}
  {turn : Turn Client ClientTask}

/-- What a turn leaves alone. -/
theorem kept
    (works : task.Works now client transport turn) :
    turn.shared.settings = client.settings ∧ turn.shared.disposed = client.disposed := by
  cases works with
  | rests _ _ quiet =>
      exact ⟨quiet.kept.settings, quiet.kept.disposed⟩
  | enters _ isDraining =>
      subst isDraining
      exact ⟨rfl, rfl⟩
  | offers _ kept | drains _ kept | exchanges _ _ kept =>
      exact ⟨kept.settings, kept.disposed⟩

/-- A transport leads to where it led before, and is not given up by a turn. -/
theorem transport_kept
    (works : task.Works now client transport turn)
    (found : client.transport = some transport) :
    ∃ after,
      turn.shared.transport = some after ∧
        after.baseUrl = transport.baseUrl ∧
        after.cancelled = transport.cancelled := by
  cases works with
  | rests _ _ quiet =>
      exact ⟨transport, quiet.kept.transport.trans found, rfl, rfl⟩
  | enters _ isDraining =>
      subst isDraining
      exact ⟨transport, found, rfl, rfl⟩
  | offers _ kept | drains _ kept =>
      exact ⟨transport, kept.transport.trans found, rfl, rfl⟩
  | exchanges _ moves kept =>
      exact ⟨_, kept.transport, moves.kept⟩

/-- A turn leaves its task routed. -/
theorem routed
    (works : task.Works now client transport turn)
    (routedBefore : task.IsRouted)
    (leaves : turn.task = some left) :
    left.IsRouted := by
  cases works with
  | rests _ _ quiet =>
      exact (quiet.silent leaves).routed
  | enters _ isDraining =>
      subst isDraining
      cases leaves
      trivial
  | offers _ _ leavesSilent silent =>
      obtain rfl := Option.some.inj (leavesSilent.symm.trans leaves)
      exact silent.routed
  | drains _ _ _ idle =>
      exact (idle leaves).2
  | exchanges _ _ _ _ idle =>
      exact (idle leaves).2.2 routedBefore

/-- A turn begins new tasks only. -/
theorem isNew_of_begun
    (works : task.Works now client transport turn)
    (begins : new ∈ turn.begun) :
    new.IsNew := by
  cases works with
  | rests _ _ quiet =>
      exact (quiet.begun begins).2
  | enters _ isDraining =>
      subst isDraining
      cases begins
  | offers _ _ _ _ begun =>
      rw [begun] at begins
      exact .ofRequest begins
  | drains _ _ _ _ begun | exchanges _ _ _ _ _ begun =>
      rw [begun] at begins
      cases begins

end ClientTask.Works

end FeatureFlags
