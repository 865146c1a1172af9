import FeatureFlags.Proofs.Client.Equipment
import FeatureFlags.Proofs.Client.Posting

namespace FeatureFlags

/-!
# Requests of a client

What is requested by whom: downloads request the definitions, callers have the backend evaluate
their fields, and everybody else posts messages. Whatever has been sent is a request of one of
these kinds, to where the transport of the client leads.
-/

open FeatureFlags.Feature (Evaluated Prepared)
open FeatureFlags.Telemetry (Message)
open FeatureFlags.Transport (Exchange Progress Request Sent)

namespace Transport

variable {transport other : Transport}

/-- A request has been sent as it was made. -/
structure Sent.Is
    (sent : Sent)
    (request : Request) :
    Prop where
  endpoint : sent.endpoint = request.endpoint
  address : request.address = .ok sent.address
  body : sent.body = request.body

/-- A request is sent as it was made. -/
theorem Sent.Is.of_address
    {request : Request}
    {address : Address}
    (addressed : request.address = .ok address)
    (now : Moment) :
    Sent.Is ⟨now, request.endpoint, address, request.body⟩ request :=
  ⟨rfl, addressed, rfl⟩

/-- A request posts some messages. -/
def Delivers
    (transport : Transport)
    (request : Request) :
    Prop :=
  ∃ batch, transport.deliveryRequest? batch = some request

theorem definitionsRequest_congr
    (same : transport.baseUrl = other.baseUrl) :
    transport.definitionsRequest = other.definitionsRequest := by
  simp [definitionsRequest, addressOf, same]

theorem evaluationsRequest_congr
    (same : transport.baseUrl = other.baseUrl)
    (fields : Fields) :
    transport.evaluationsRequest fields = other.evaluationsRequest fields := by
  simp [evaluationsRequest, addressOf, same]

theorem Delivers.congr
    {request : Request}
    (delivers : transport.Delivers request)
    (same : transport.baseUrl = other.baseUrl) :
    other.Delivers request := by
  obtain ⟨batch, found⟩ := delivers
  exact ⟨batch, (deliveryRequest?_congr same batch).symm.trans found⟩

/-- What has been sent for a batch carries it. -/
theorem Sent.Is.exists_carries
    {sent : Sent}
    {request : Request}
    (is : sent.Is request)
    (delivers : transport.Delivers request) :
    ∃ batch, sent.Carries transport batch := by
  obtain ⟨batch, found⟩ := delivers
  obtain ⟨moment, endpoint, address, body⟩ := sent
  obtain ⟨rfl, addressed, rfl⟩ := is
  exact ⟨batch, carries_of_deliveryRequest? found addressed moment⟩

end Transport

/-- What a task requests is its own to request. -/
def ClientTask.Requests (first : Transport) : ClientTask → Prop
  | .download _ running => running.request = first.definitionsRequest
  | .caller (.evaluating query running) => running.request = first.evaluationsRequest query.fields
  | .flushing _ running => first.Delivers running.request
  | .delivery running => first.Delivers running.request
  | .caller (.flushing running) => first.Delivers running.request
  | _ => True

/-- An exchange downloads the definitions, or has the backend evaluate, or posts messages. -/
theorem ClientTask.Requests.cases
    {first : Transport}
    {task : ClientTask}
    {exchange : Exchange}
    (requests : task.Requests first)
    (drives : task.exchange? = some exchange) :
    (∃ refresh,
      task = .download refresh exchange ∧ exchange.request = first.definitionsRequest) ∨
    (∃ query,
      task = .caller (.evaluating query exchange) ∧
        exchange.request = first.evaluationsRequest query.fields) ∨
    first.Delivers exchange.request := by
  unfold exchange? at drives
  split at drives
  · cases drives
    exact .inl ⟨_, rfl, requests⟩
  · cases drives
    exact .inr (.inr requests)
  · cases drives
    exact .inr (.inr requests)
  · cases drives
    exact .inr (.inl ⟨_, rfl, requests⟩)
  · cases drives
    exact .inr (.inr requests)
  · cases drives

/-! ## Turns -/

/-- Whoever a turn leaves or begins requests what is its own to request. -/
structure Transport.Covers
    (first : Transport)
    (turn : Turn Client ClientTask) :
    Prop where
  left : ∀ {left}, turn.task = some left → left.Requests first
  begun : ∀ {new}, new ∈ turn.begun → new.Requests first

/-- If a client has a transport, it leads to where the first one leads. -/
def Client.LeadsAs
    (client : Client)
    (first : Transport) :
    Prop :=
  ∀ transport, client.transport = some transport → transport.baseUrl = first.baseUrl

theorem Client.IsConnected.leadsAs
    {client : Client}
    {first : Transport}
    (connected : client.IsConnected first) :
    client.LeadsAs first := by
  intro transport present
  obtain ⟨other, alsoPresent, leads, -⟩ := connected.connected
  obtain rfl := Option.some.inj (alsoPresent.symm.trans present)
  exact leads

namespace Transport.Covers

variable {now : Moment} {first : Transport} {client used : Client}

private theorem goTo
    {stage : CallStage}
    (requests : (ClientTask.caller stage).Requests first) :
    first.Covers (used.goTo stage []) where
  left := by
    rintro left ⟨⟩
    exact requests
  begun := nofun

private theorem giveFrom
    (query : Query)
    (base : Table Evaluated) :
    first.Covers (used.giveFrom query base) := by
  obtain ⟨consultations, warnings, shape⟩ := used.exists_giveFrom query base
  rw [shape]
  exact goTo trivial

private theorem useSnapshot
    (query : Query)
    (snapshot : Except Failure (Snapshot (List Prepared))) :
    first.Covers (used.useSnapshot now query snapshot) := by
  cases snapshot <;> exact goTo trivial

/-- Tasks that send full batches post messages. -/
theorem requests_of_mem_deliveries
    {batches : List Client.Batch}
    {new : ClientTask}
    (leads : client.LeadsAs first)
    (begins : new ∈ client.deliveries batches) :
    new.Requests first := by
  unfold Client.deliveries at begins
  split at begins
  · cases begins
  · rename_i transport present
    obtain ⟨batch, -, sends⟩ := List.mem_filterMap.mp begins
    obtain ⟨request, found, rfl⟩ := Option.map_eq_some_iff.mp sends
    exact Delivers.congr ⟨batch, found⟩ (leads _ present)

private theorem report
    (leads : client.LeadsAs first)
    (message : Message)
    {stage : CallStage}
    (requests : (ClientTask.caller stage).Requests first) :
    first.Covers (client.report now message stage) := by
  obtain ⟨outbox, batches, shape⟩ := client.exists_report now message stage
  rw [shape]
  refine ⟨?_, requests_of_mem_deliveries leads⟩
  rintro left ⟨⟩
  exact requests

/-- A download requests the definitions. -/
private theorem requests_of_downloadTask?
    {refresh : Nat}
    {new : ClientTask}
    (leads : client.LeadsAs first)
    (begins : client.downloadTask? refresh = some new) :
    new.Requests first := by
  obtain ⟨transport, present, rfl⟩ := Option.map_eq_some_iff.mp begins
  exact definitionsRequest_congr (leads _ present)

private theorem askForDownload
    {turn : Turn Client ClientTask}
    {ticker : Ticker (List Prepared)}
    {waiting : Nat → CallStage}
    (asks : client.AsksForDownload ticker waiting turn)
    (leads : client.LeadsAs first)
    (requests : ∀ refresh, (ClientTask.caller (waiting refresh)).Requests first) :
    first.Covers turn := by
  cases asks with
  | refused =>
      exact goTo trivial
  | joins =>
      exact goTo (requests _)
  | begins =>
      refine ⟨?_, ?_⟩
      · rintro left ⟨⟩
        exact requests _
      · intro new begins
        rcases List.mem_append.mp begins with download | loop
        · exact requests_of_downloadTask? leads (Option.mem_toList.mp download)
        · cases List.mem_singleton.mp loop
          trivial

private theorem resolve
    {turn : Turn Client ClientTask}
    {query : Query}
    (resolves : client.Resolves now query turn)
    (leads : client.LeadsAs first) :
    first.Covers turn := by
  cases resolves with
  | misses =>
      exact goTo trivial
  | uses =>
      exact useSnapshot query _
  | consults _ present =>
      exact goTo (evaluationsRequest_congr (leads _ present) query.fields)
  | concludes =>
      exact giveFrom query .empty

/-- What is taken from the queue is posted. -/
private theorem delivers_of_takeBatch
    {taken : Client}
    {request : Request}
    (leads : client.LeadsAs first)
    (takes : client.takeBatch now = (taken, some request)) :
    first.Delivers request := by
  obtain ⟨transport, present, found⟩ := Option.bind_eq_some_iff.mp (Prod.mk.inj takes).2
  exact Delivers.congr ⟨_, found⟩ (leads _ present)

/-- An exchange that goes on keeps its request. -/
private theorem request_eq
    {moved : Client}
    {exchange next : Exchange}
    (possible : client.exchange? now exchange = some (moved, .going next)) :
    next.request = exchange.request := by
  obtain ⟨transport, after, -, moves, -⟩ := Client.exists_of_exchange? possible
  exact (Exchange.Moves.of_move? moves).of_going.1

end Transport.Covers

open Transport.Covers in
/-- Every turn of a task that requests what is its own leaves and begins such tasks. -/
theorem ClientTask.Takes.covers
    {now : Moment}
    {first : Transport}
    {client : Client}
    {task : ClientTask}
    {turn : Turn Client ClientTask}
    (taken : task.Takes now client turn)
    (leads : client.LeadsAs first)
    (requests : task.Requests first) :
    first.Covers turn := by
  cases taken with
  | definitionsLoopMoves =>
      refine ⟨?_, ?_⟩
      · intro left leaves
        obtain ⟨loop, -, rfl⟩ := Option.map_eq_some_iff.mp leaves
        trivial
      · intro new begins
        obtain ⟨refresh, -, begun⟩ := Option.bind_eq_some_iff.mp (Option.mem_toList.mp begins)
        exact requests_of_downloadTask? leads begun
  | flushLoopMoves =>
      refine ⟨?_, ?_⟩
      · intro left leaves
        obtain ⟨loop, -, rfl⟩ := Option.map_eq_some_iff.mp leaves
        trivial
      · intro new begins
        obtain ⟨refresh, -, rfl⟩ := List.mem_map.mp begins
        trivial
  | downloadGoes possible | flushingGoes possible | deliveryGoes possible =>
      refine ⟨?_, nofun⟩
      rintro left ⟨⟩
      simpa only [ClientTask.Requests, request_eq possible] using requests
  | downloadEnds | flushFindsNothing | flushingEnds | deliveryEnds =>
      exact ⟨nofun, nofun⟩
  | flushTakes takes =>
      refine ⟨?_, nofun⟩
      rintro left ⟨⟩
      exact delivers_of_takeBatch leads takes
  | callEnters =>
      rename_i call _
      cases call <;> exact goTo trivial
  | callRefused | callerUpdated | callerDrainsNothing | callerFlushed | callerRequestsNothing
  | callerRefreshed =>
      exact goTo trivial
  | callerUpdates | callerReports =>
      exact report leads _ trivial
  | callerResolves =>
      exact resolve (client.resolves now _) leads
  | callerAsks | callerRequests =>
      exact askForDownload (client.asksForDownload _ _) leads fun _ => trivial
  | callerDownloaded =>
      exact useSnapshot _ _
  | callerReported | evaluatingEnds =>
      exact giveFrom _ _
  | evaluatingGoes possible | callerFlushingGoes possible =>
      refine goTo ?_
      simpa only [ClientTask.Requests, request_eq possible] using requests
  | callerDrains takes =>
      exact goTo (delivers_of_takeBatch leads takes)

/-! ## Moves and runs -/

/-- Everybody requests what is its own to request. -/
def Client.RequestsOwn
    (first : Transport)
    (configuration : Configuration Client ClientTask) :
    Prop :=
  ∀ place task, configuration.task? place = some task → task.Requests first

namespace ClientMove

variable
  {first : Transport}
  {configuration next : Configuration Client ClientTask}
  {move : Move ClientAction}

theorem requestsOwn_step
    (moved : ClientMove configuration move next)
    (leads : configuration.shared.LeadsAs first)
    (requests : Client.RequestsOwn first configuration) :
    Client.RequestsOwn first next := by
  intro place task foundAfter
  cases moved with
  | turn found taken =>
      have covers := taken.covers leads (requests _ _ found)
      rcases Configuration.task?_update_cases found foundAfter with
        ⟨-, leaves⟩ | ⟨-, before⟩ | begins
      · exact covers.left leaves
      · exact requests _ _ before
      · exact covers.begun begins
  | wait | idle | dispose =>
      exact requests _ _ foundAfter
  | call =>
      rcases Configuration.task?_snoc_cases foundAfter with before | rfl
      · exact requests _ _ before
      · trivial
  | report _ _ _ queued =>
      obtain ⟨outbox, rfl⟩ := Client.exists_of_enqueue queued
      rcases Configuration.task?_append_cases foundAfter with before | new
      · exact requests _ _ (Option.join_eq_some_iff.mpr before)
      · exact Transport.Covers.requests_of_mem_deliveries (by exact leads) new

/-- What a turn adds to what the transport has sent is sent by its task. -/
theorem sends_of_update
    (place : Nat)
    {turn : Turn Client ClientTask}
    {transport after : Transport}
    (present : configuration.shared.transport = some transport)
    (kept : turn.shared.transport = some after) :
    ClientTransition.sends ⟨configuration, .turn place, configuration.update place turn⟩ =
      (after.sent.drop transport.sent.length).map fun sent => (place, sent) :=
  ClientTransition.sends_of_turn rfl present kept

/-- A move sends nothing, or one request whose task was about to send it. -/
theorem sends_cases
    (moved : ClientMove configuration move next)
    (connected : configuration.shared.IsConnected first) :
    ClientTransition.sends ⟨configuration, move, next⟩ = [] ∨
    ∃ place task exchange sent,
      move = .turn place ∧
        configuration.task? place = some task ∧
        task.exchange? = some exchange ∧
        exchange.stage = .prepared ∧
        sent.Is exchange.request ∧
        ClientTransition.sends ⟨configuration, move, next⟩ = [(place, sent)] := by
  obtain ⟨transport, present, -, -⟩ := connected.connected
  cases moved with
  | turn found taken =>
      rename_i place _ _
      cases taken.works connected.online present with
      | rests _ _ quiet =>
          exact .inl (ClientTransition.sends_of_kept quiet.kept.transport)
      | enters _ isDraining =>
          subst isDraining
          exact .inl (ClientTransition.sends_of_kept rfl)
      | offers _ kept | drains _ kept =>
          exact .inl (ClientTransition.sends_of_kept kept.transport)
      | exchanges drives moves kept =>
          have sends := sends_of_update place present kept.transport
          rcases moves.sent_cases with same | ⟨address, _, prepared, addressed, -, added⟩
          · refine .inl (sends.trans ?_)
            simp [same]
          · have is := Sent.Is.of_address addressed configuration.now
            refine .inr ⟨_, _, _, _, rfl, found, drives, prepared, is, sends.trans ?_⟩
            simp [added]
  | wait | call | idle | report | dispose =>
      exact .inl rfl

end ClientMove

namespace Client

variable
  {settings : Settings}
  {surroundings : Surroundings}
  {client : Client}
  {first : Transport}
  {history : List ClientTransition}
  {last : Configuration Client ClientTask}

/-- Wherever a run leads, everybody requests what is its own to request. -/
theorem requestsOwn_of_run
    (created : create settings surroundings = .ok client)
    (online : settings.mode ≠ .offline)
    (present : client.transport = some first)
    (run : Run system client.fresh history last) :
    RequestsOwn first last := by
  induction run with
  | start =>
      intro place task found
      rcases isLoop_of_fresh found with rfl | rfl <;> trivial
  | step run possible inductionHypothesis =>
      have trades : Trades first settings _ _ := .of_run created online present run
      exact
        (ClientMove.of_after? possible).requestsOwn_step trades.connected.leadsAs
          inductionHypothesis

/-- Whatever has been sent was sent by a task whose request it is. -/
theorem exists_of_mem_sends
    (created : create settings surroundings = .ok client)
    (online : settings.mode ≠ .offline)
    (present : client.transport = some first)
    (run : Run system client.fresh history last)
    {place : Nat}
    {sent : Sent}
    (member : (place, sent) ∈ sends history) :
    ∃ earlier before task exchange,
      Run system client.fresh earlier before ∧
        before.task? place = some task ∧
        task.exchange? = some exchange ∧
        sent.Is exchange.request := by
  obtain ⟨transition, transitionMember, sends⟩ := List.mem_flatMap.mp member
  obtain ⟨earlier, runBefore, possible⟩ := run.of_mem transitionMember
  have trades : Trades first settings earlier transition.before :=
    .of_run created online present runBefore
  rcases (ClientMove.of_after? possible).sends_cases trades.connected with
    none | ⟨_, task, exchange, _, -, found, drives, -, is, added⟩
  · simp [none] at sends
  · rw [added] at sends
    cases List.mem_singleton.mp sends
    exact ⟨earlier, transition.before, task, exchange, runBefore, found, drives, is⟩

end Client

end FeatureFlags
