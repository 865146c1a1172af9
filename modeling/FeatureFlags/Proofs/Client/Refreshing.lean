import FeatureFlags.Proofs.Client.Posting
import FeatureFlags.Proofs.Ticker.Pacing

namespace FeatureFlags

/-!
# Refreshing the definitions

What the turns of the tasks of a client do with the ticker of the definitions: a download
begins when the loop in force is due, or when somebody asks for it, and ends by itself.
-/

open FeatureFlags.Feature (Evaluated Prepared)
open FeatureFlags.Telemetry (Message)
open FeatureFlags.Transport (Content Exchange Progress)

/-! ## Roles -/

/-- What a task has to do with the downloads of the definitions. -/
inductive DownloadRole where
  | aside
  | periodic (loop : TickerLoop)
  | downloading (refresh : Nat) (exchange : Exchange)
  /-- A query that found no definitions is about to ask for a download. -/
  | asking (query : Query)
  /-- A caller is about to request a download, whether there are definitions or not. -/
  | requesting

/-- The exchange of a download. -/
def DownloadRole.exchange? : DownloadRole → Option Exchange
  | .downloading _ exchange => some exchange
  | _ => none

/-- The role of a task. -/
def ClientTask.downloadRole : ClientTask → DownloadRole
  | .definitionsLoop loop => .periodic loop
  | .download refresh exchange => .downloading refresh exchange
  | .caller (.asking query) => .asking query
  | .caller (.begun .refresh) => .requesting
  | .caller .requesting => .requesting
  | _ => .aside

/-- Only downloads send requests for the definitions. -/
theorem ClientTask.IsRouted.endpoint_ne_definitions
    {task : ClientTask}
    {exchange : Exchange}
    (routed : task.IsRouted)
    (drives : task.exchange? = some exchange)
    (noDownload : task.downloadRole.exchange? = none) :
    exchange.request.endpoint ≠ .definitions := by
  intro same
  unfold exchange? at drives
  split at drives
  · cases noDownload
  all_goals cases drives
  all_goals
    rw [IsRouted, same] at routed
    cases routed

/-! ## Turns -/

/-- A turn that leaves the definitions alone, with tasks that have nothing to do with them. -/
structure Client.SparesDefinitions
    (client : Client)
    (turn : Turn Client ClientTask) :
    Prop where
  definitions : turn.shared.definitions = client.definitions
  left : ∀ {left}, turn.task = some left → left.downloadRole = .aside
  begun : ∀ {new}, new ∈ turn.begun → new.downloadRole = .aside

namespace Client.SparesDefinitions

variable {now : Moment} {client used : Client}

private theorem goTo
    {stage : CallStage}
    (kept : used.definitions = client.definitions)
    (aside : (ClientTask.caller stage).downloadRole = .aside) :
    client.SparesDefinitions (used.goTo stage []) where
  definitions := kept
  left := by
    rintro left ⟨⟩
    exact aside
  begun := nofun

private theorem giveFrom
    (kept : used.definitions = client.definitions)
    (query : Query)
    (base : Table Evaluated) :
    client.SparesDefinitions (used.giveFrom query base) := by
  obtain ⟨consultations, warnings, shape⟩ := used.exists_giveFrom query base
  rw [shape]
  exact goTo kept rfl

private theorem useSnapshot
    (kept : used.definitions = client.definitions)
    (query : Query)
    (snapshot : Except Failure (Snapshot (List Prepared))) :
    client.SparesDefinitions (used.useSnapshot now query snapshot) := by
  cases snapshot <;> exact goTo kept rfl

/-- Reports concern the queue only. -/
theorem of_enqueue
    {message : Message}
    {batches : List Client.Batch}
    (offered : client.enqueue now message = (used, batches)) :
    used.definitions = client.definitions ∧
      ∀ {new}, new ∈ used.deliveries batches → new.downloadRole = .aside := by
  constructor
  · obtain ⟨outbox, rfl⟩ := exists_of_enqueue offered
    rfl
  · intro new begins
    obtain ⟨transport, request, -, rfl⟩ := exists_of_mem_deliveries begins
    rfl

private theorem report
    (message : Message)
    {stage : CallStage}
    (aside : (ClientTask.caller stage).downloadRole = .aside) :
    client.SparesDefinitions (client.report now message stage) := by
  obtain ⟨kept, begun⟩ := of_enqueue (Prod.eta (client.enqueue now message)).symm
  refine ⟨kept, ?_, begun⟩
  rintro left ⟨⟩
  exact aside

end Client.SparesDefinitions

/-- What a turn does with the definitions, whatever else it does. -/
inductive ClientTask.Refreshes
    (now : Moment)
    (client : Client)
    (transport : Transport)
    (ticker : Ticker (List Prepared)) :
    ClientTask → Turn Client ClientTask → Prop where
  /-- Nothing is done but perhaps to see the outcome of a download. -/
  | rests
      {task : ClientTask}
      {used : Client}
      {seen : Ticker (List Prepared)}
      {turn : Turn Client ClientTask} :
      task.downloadRole.exchange? = none →
      used.definitions = some seen →
      (seen = ticker ∨ ∃ refresh succeeded, ticker.await? refresh = some (seen, succeeded)) →
      used.SparesDefinitions turn →
      Refreshes now client transport ticker task turn
  /-- A query finds that there have been no definitions yet. -/
  | misses
      {query : Query} :
      ticker.last = none →
      Refreshes now client transport ticker
        (.caller (.resolving query))
        (client.goTo (.asking query) [])
  /-- The loop moves, and perhaps a download begins. -/
  | loopMoves
      {loop : TickerLoop}
      {move : TickerLoop.Move (List Prepared)} :
      loop.Moves now ticker move →
      Refreshes now client transport ticker
        (.definitionsLoop loop)
        ⟨{ client with definitions := some move.ticker }, move.loop.map .definitionsLoop,
          (move.refresh.map (.download · { request := transport.definitionsRequest })).toList⟩
  /-- A query begins a download, with a loop that waits for it. -/
  | queryBegins
      {query : Query} :
      ticker.inFlight? = none →
      Refreshes now client transport ticker
        (.caller (.asking query))
        (({ client with
            definitions := some { ticker.begin with loop := ticker.loop + 1 } } : Client).goTo
          (.downloading query ticker.refreshes.length)
          [.download ticker.refreshes.length { request := transport.definitionsRequest },
            .definitionsLoop ⟨ticker.loop + 1, .awaiting ticker.refreshes.length⟩])
  /-- A download goes on. -/
  | downloadGoes
      {refresh : Nat}
      {exchange next : Exchange}
      {moved : Transport} :
      client.exchange? now exchange =
        some ({ client with transport := some moved }, .going next) →
      Exchange.Moves now transport exchange.request exchange.stage moved (.going next) →
      Refreshes now client transport ticker
        (.download refresh exchange)
        ⟨{ client with transport := some moved }, some (.download refresh next), []⟩
  /-- A download ends. -/
  | downloadEnds
      {refresh : Nat}
      {exchange : Exchange}
      {moved : Transport}
      {result : Except Failure Content} :
      client.exchange? now exchange =
        some ({ client with transport := some moved }, .ended result) →
      Exchange.Moves now transport exchange.request exchange.stage moved (.ended result) →
      Refreshes now client transport ticker
        (.download refresh exchange)
        ⟨({ client with transport := some moved } : Client).endDownload now refresh result, none,
          []⟩

namespace ClientTask.Refreshes

variable
  {now : Moment}
  {client : Client}
  {transport : Transport}
  {ticker : Ticker (List Prepared)}
  {task : ClientTask}
  {turn : Turn Client ClientTask}

/-- A turn that has nothing to do with the definitions. -/
private theorem of_spares
    (present : client.definitions = some ticker)
    (noDownload : task.downloadRole.exchange? = none)
    (spares : client.SparesDefinitions turn) :
    task.Refreshes now client transport ticker turn :=
  .rests noDownload present (.inl rfl) spares

private theorem downloadTask?_eq
    (online : client.transport = some transport)
    (refresh : Nat) :
    client.downloadTask? refresh =
      some (.download refresh { request := transport.definitionsRequest }) := by
  simp [Client.downloadTask?, online]

private theorem of_resolve
    {query : Query}
    (resolves : client.Resolves now query turn)
    (present : client.definitions = some ticker) :
    (ClientTask.caller (.resolving query)).Refreshes now client transport ticker turn := by
  cases resolves with
  | misses _ found nothing =>
      obtain rfl := Option.some.inj (present.symm.trans found)
      exact .misses nothing
  | uses =>
      exact of_spares present rfl (.useSnapshot rfl query _)
  | consults =>
      exact of_spares present rfl (.goTo rfl rfl)
  | concludes =>
      exact of_spares present rfl (.giveFrom rfl query _)

private theorem of_asking
    {query : Query}
    (asks : client.AsksForDownload ticker (.downloading query) turn)
    (present : client.definitions = some ticker)
    (online : client.transport = some transport) :
    (ClientTask.caller (.asking query)).Refreshes now client transport ticker turn := by
  cases asks with
  | refused =>
      exact of_spares present rfl (.goTo rfl rfl)
  | joins =>
      exact .rests rfl rfl (.inl rfl) (.goTo rfl rfl)
  | begins _ free =>
      rw [downloadTask?_eq online]
      exact .queryBegins free

private theorem definitions_of_takeBatch
    {taken : Client}
    {request : Option Transport.Request}
    (takes : client.takeBatch now = (taken, request)) :
    taken.definitions = client.definitions := by
  cases takes
  rfl

/-- A turn of an exchange other than a download. -/
private theorem of_other
    {exchange : Exchange}
    {progress : Progress}
    {moved : Client}
    (present : client.definitions = some ticker)
    (online : client.transport = some transport)
    (noDownload : task.downloadRole.exchange? = none)
    (possible : client.exchange? now exchange = some (moved, progress))
    (spares : moved.SparesDefinitions turn) :
    task.Refreshes now client transport ticker turn := by
  obtain ⟨after, -, rfl⟩ := Client.moves_of_exchange? online possible
  exact .rests noDownload (by exact present) (.inl rfl) spares

end ClientTask.Refreshes

open ClientTask.Refreshes Client.SparesDefinitions in
/-- Every turn does one of these where nobody requests a download. -/
theorem ClientTask.Takes.refreshes
    {now : Moment}
    {client : Client}
    {transport : Transport}
    {ticker : Ticker (List Prepared)}
    {task : ClientTask}
    {turn : Turn Client ClientTask}
    (taken : task.Takes now client turn)
    (online : client.transport = some transport)
    (present : client.definitions = some ticker)
    (unrequested : task.downloadRole ≠ .requesting) :
    task.Refreshes now client transport ticker turn := by
  cases taken with
  | definitionsLoopMoves found moved =>
      obtain rfl := Option.some.inj (present.symm.trans found)
      rename_i loop move
      have begun :
          (move.refresh.bind client.downloadTask?).toList =
            (move.refresh.map
              (ClientTask.download · { request := transport.definitionsRequest })).toList := by
        cases move.refresh with
        | none =>
            rfl
        | some refresh =>
            exact congrArg Option.toList (downloadTask?_eq online refresh)
      rw [begun]
      exact .loopMoves (.of_move? moved)
  | flushLoopMoves =>
      refine of_spares present rfl ⟨rfl, ?_, ?_⟩
      · intro left shape
        obtain ⟨loop, -, rfl⟩ := Option.map_eq_some_iff.mp shape
        rfl
      · intro new member
        obtain ⟨refresh, -, rfl⟩ := List.mem_map.mp member
        rfl
  | downloadGoes possible =>
      obtain ⟨after, moves, rfl⟩ := Client.moves_of_exchange? online possible
      exact .downloadGoes possible moves
  | downloadEnds possible =>
      obtain ⟨after, moves, rfl⟩ := Client.moves_of_exchange? online possible
      exact .downloadEnds possible moves
  | flushFindsNothing takes =>
      have kept := definitions_of_takeBatch takes
      exact of_spares present rfl ⟨kept, nofun, nofun⟩
  | flushTakes takes =>
      have kept := definitions_of_takeBatch takes
      refine of_spares present rfl ⟨kept, ?_, nofun⟩
      rintro left ⟨⟩
      rfl
  | flushingGoes possible | deliveryGoes possible =>
      refine of_other present online rfl possible ⟨rfl, ?_, nofun⟩
      rintro left ⟨⟩
      rfl
  | flushingEnds possible | deliveryEnds possible =>
      exact of_other present online rfl possible ⟨rfl, nofun, nofun⟩
  | callRefused =>
      rename_i call _
      cases call with
      | refresh =>
          exact absurd rfl unrequested
      | features | feature | flush =>
          exact of_spares present rfl (goTo rfl rfl)
  | callEnters =>
      rename_i call _
      cases call with
      | refresh =>
          exact absurd rfl unrequested
      | features | feature | flush =>
          exact of_spares present rfl (goTo rfl rfl)
  | callerUpdates | callerReports =>
      exact of_spares present rfl (report _ rfl)
  | callerUpdated =>
      exact of_spares present rfl (goTo rfl rfl)
  | callerResolves =>
      exact of_resolve (client.resolves now _) present
  | callerAsks found =>
      obtain rfl := Option.some.inj (present.symm.trans found)
      exact of_asking (client.asksForDownload _ _) present online
  | callerDownloaded found sees =>
      obtain rfl := Option.some.inj (present.symm.trans found)
      exact .rests rfl rfl (.inr ⟨_, _, sees⟩) (useSnapshot rfl _ _)
  | callerReported =>
      exact of_spares present rfl (giveFrom rfl _ _)
  | evaluatingGoes possible | callerFlushingGoes possible | callerFlushed possible =>
      exact of_other present online rfl possible (goTo rfl rfl)
  | evaluatingEnds possible =>
      exact of_other present online rfl possible (giveFrom rfl _ _)
  | callerDrainsNothing takes | callerDrains takes =>
      exact of_spares present rfl (goTo (definitions_of_takeBatch takes) rfl)
  | callerRequestsNothing | callerRequests =>
      exact absurd rfl unrequested
  | callerRefreshed found sees =>
      obtain rfl := Option.some.inj (present.symm.trans found)
      exact .rests rfl rfl (.inr ⟨_, _, sees⟩) (goTo rfl rfl)

end FeatureFlags
