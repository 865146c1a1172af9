import FeatureFlags.Proofs.Client.Equipment
import FeatureFlags.Proofs.Ticker.Pacing
import FeatureFlags.Proofs.Transport.Cancellation

namespace FeatureFlags

/-!
# Winding up

A client that has been disposed refuses every use, and its tasks only come to their ends: no
loop goes to sleep again, no refresh begins, and nothing is sent any more.
-/

open FeatureFlags.Feature (Prepared)
open FeatureFlags.Telemetry (Message)
open FeatureFlags.Transport (Content Exchange Progress Sent)

/-! ## Closed clients -/

/-- A client that has been disposed together with all that it has. -/
structure Client.IsClosed (client : Client) : Prop where
  disposed : client.disposed = true
  cancelled : ∀ {transport}, client.transport = some transport → transport.cancelled = true
  definitions : ∀ {ticker}, client.definitions = some ticker → ticker.disposed = true
  flushes : ∀ {ticker}, client.flushes = some ticker → ticker.disposed = true

/-- Every use of a client and of its handles is refused, and leaves the client as it is. -/
structure Client.RefusesAll
    (now : Moment)
    (client : Client) :
    Prop where
  updateUser :
    ∀ user tracking,
      client.updateUser now user tracking = (client, [], .error (.disposed "client"))
  updateCompany :
    ∀ company user tracking,
      client.updateCompany now company user tracking = (client, [], .error (.disposed "client"))
  track :
    ∀ event,
      client.track now event = (client, [], .error (.disposed "client"))
  isEnabled :
    ∀ handle,
      client.isEnabled now handle = (client, [], .error (.disposed "client"))
  config :
    ∀ handle,
      client.config now handle = (client, [], .error (.disposed "client"))
  configAs :
    ∀ {α : Type} (reader : Json.Reader α) handle,
      client.configAs reader now handle = (client, [], .error (.disposed "client"))
  trackFeature :
    ∀ handle,
      client.trackFeature now handle = (client, [], .error (.disposed "client"))
  /-- So is every call that may have to wait, before it waits for anything. -/
  call :
    ∀ call,
      client.beginCall call = client.give (.error (.disposed "client"))
  dispose :
    client.dispose = client

namespace Client.IsClosed

variable
  {now : Moment}
  {client moved : Client}
  {exchange : Exchange}
  {progress : Progress}

/-- Disposal closes a client. -/
theorem of_dispose (client : Client) : client.dispose.IsClosed where
  disposed := rfl
  cancelled := by
    intro transport found
    obtain ⟨before, -, rfl⟩ := Option.map_eq_some_iff.mp found
    rfl
  definitions := by
    intro ticker found
    obtain ⟨before, -, rfl⟩ := Option.map_eq_some_iff.mp found
    rfl
  flushes := by
    intro ticker found
    obtain ⟨before, -, rfl⟩ := Option.map_eq_some_iff.mp found
    rfl

/-- There is nothing left to dispose of. -/
theorem dispose_eq (closed : client.IsClosed) : client.dispose = client := by
  obtain ⟨settings, wallClock, transport, definitions, flushes, outbox, disposed,
    consultations, warnings⟩ := client
  obtain rfl : disposed = true := closed.disposed
  have cancelled : transport.map Transport.cancel = transport := by
    cases transport with
    | none =>
        rfl
    | some transport =>
        have done := closed.cancelled rfl
        simp [Transport.cancel, ← done]
  have noDownloads : definitions.map Ticker.dispose = definitions := by
    cases definitions with
    | none =>
        rfl
    | some ticker =>
        have done := closed.definitions rfl
        simp [Ticker.dispose, ← done]
  have noFlushes : flushes.map Ticker.dispose = flushes := by
    cases flushes with
    | none =>
        rfl
    | some ticker =>
        have done := closed.flushes rfl
        simp [Ticker.dispose, ← done]
  simp only [dispose, cancelled, noDownloads, noFlushes]

/-- A closed client refuses every use. -/
theorem refusesAll
    (closed : client.IsClosed)
    (now : Moment) :
    client.RefusesAll now := by
  have refused : client.checkDisposed = .error (.disposed "client") := by
    simp [checkDisposed, closed.disposed]
  constructor
  case updateUser =>
    intro user tracking
    simp [updateUser, refused]
  case updateCompany =>
    intro company user tracking
    simp [updateCompany, refused]
  case track =>
    intro event
    simp [track, refused]
  case isEnabled =>
    intro handle
    simp [isEnabled, refused]
  case config =>
    intro handle
    simp [config, refused]
  case configAs =>
    intro α reader handle
    simp [configAs, config, refused]
  case trackFeature =>
    intro handle
    simp [trackFeature, refused]
  case call =>
    intro call
    simp [beginCall, refused]
  case dispose =>
    exact closed.dispose_eq

/-- Whatever exchange moves on a closed client ends with that. -/
theorem progress_eq
    (closed : client.IsClosed)
    (possible : client.exchange? now exchange = some (moved, progress)) :
    progress = .ended exchange.lastResult := by
  obtain ⟨transport, after, found, moves, -⟩ := exists_of_exchange? possible
  rw [exchange.move?_of_cancelled (closed.cancelled found)] at moves
  cases moves
  rfl

/-- A request that has not been sent is given up on a closed client, which stays as it is. -/
theorem exchange?_of_prepared
    (closed : client.IsClosed)
    (hasTransport : client.transport.isSome = true)
    (unsent : exchange.stage = .prepared) :
    client.exchange? now exchange =
      some (client, .ended (.error exchange.request.endpoint.cancelled)) := by
  obtain ⟨transport, found⟩ := Option.isSome_iff_exists.mp hasTransport
  have moves := exchange.move?_of_cancelled (closed.cancelled found) now
  have result : exchange.lastResult = .error exchange.request.endpoint.cancelled := by
    simp [Exchange.lastResult, unsent]
  have unchanged :
      transport.conclude (.error exchange.request.endpoint.cancelled) =
        (transport, .ended (.error exchange.request.endpoint.cancelled)) := by
    simp [Transport.conclude, Transport.recordOf, Transport.Endpoint.cancelled]
  rw [result, unchanged] at moves
  simp only [exchange?, found, moves, Option.bind_eq_bind, Option.bind_some, Option.pure_def,
    Option.some.injEq, Prod.mk.injEq, and_true]
  rw [← found]

end Client.IsClosed

/-! ## Turns on a closed client -/

/-- Whether a ticker has been disposed, and the number of its refreshes so far. -/
def Ticker.standing (ticker : Ticker α) : Bool × Nat :=
  (ticker.disposed, ticker.refreshes.length)

/-- What does not change any more once a client has been disposed. -/
structure Client.Standing where
  disposed : Bool
  transport : Option (Bool × List Sent)
  definitions : Option (Bool × Nat)
  flushes : Option (Bool × Nat)

/-- How a client stands. -/
def Client.standing (client : Client) : Standing where
  disposed := client.disposed
  transport := client.transport.map fun transport => (transport.cancelled, transport.sent)
  definitions := client.definitions.map Ticker.standing
  flushes := client.flushes.map Ticker.standing

/-- The loop that a task is. -/
def ClientTask.loop? : ClientTask → Option TickerLoop
  | .definitionsLoop loop => some loop
  | .flushLoop loop => some loop
  | _ => none

/-- Whether a task is one of those that keep a ticker going. -/
def ClientTask.isPeriodic : ClientTask → Bool
  | .definitionsLoop _ => true
  | .flushLoop _ => true
  | .download _ _ => true
  | .flush _ => true
  | .flushing _ _ => true
  | .delivery _ => false
  | .caller _ => false

/-- What a turn on a closed client leaves: nothing is sent, scheduled or refreshed. -/
structure Client.Winds
    (client : Client)
    (task : ClientTask)
    (turn : Turn Client ClientTask) :
    Prop where
  standing : turn.shared.standing = client.standing
  unsent :
    ∀ {left exchange},
      turn.task = some left →
      left.exchange? = some exchange →
      exchange.stage = .prepared
  rests :
    ∀ {left loop},
      turn.task = some left →
      left.loop? = some loop →
      loop.stage = .resting
  periodic :
    ∀ {left},
      turn.task = some left →
      left.isPeriodic = task.isPeriodic
  begun :
    ∀ {new},
      new ∈ turn.begun →
      ∃ request, new = .ofRequest request

namespace Ticker

variable {α : Type} {now : Moment} {ticker after : Ticker α}

private theorem standing_await?
    {refresh : Nat}
    {succeeded : Bool}
    (seen : ticker.await? refresh = some (after, succeeded)) :
    after.standing = ticker.standing := by
  rcases await?_cases seen with ⟨-, rfl⟩ | ⟨-, rfl⟩
  · rfl
  · simp [standing, setStatus]

private theorem standing_finish
    (refresh : Nat)
    (value : Option α) :
    (ticker.finish now refresh value).standing = ticker.standing := by
  cases value <;> simp [standing, finish, setStatus]

/-- A loop of a disposed ticker does not go to sleep again, and begins nothing. -/
private theorem winds_of_move?
    (disposed : ticker.disposed = true)
    {loop : TickerLoop}
    {move : TickerLoop.Move α}
    (possible : loop.move? now ticker = some move) :
    move.ticker.standing = ticker.standing ∧
      move.refresh = none ∧
      ∀ {left}, move.loop = some left → left.stage = .resting := by
  obtain ⟨number, stage⟩ := loop
  cases stage with
  | awaiting refresh =>
      obtain ⟨⟨after, succeeded⟩, seen, rfl⟩ := Option.map_eq_some_iff.mp possible
      refine ⟨standing_await? seen, rfl, ?_⟩
      rintro left ⟨⟩
      rfl
  | resting | sleeping | due =>
      simp only [TickerLoop.move?, isCancelled, disposed, Bool.true_or, ↓reduceIte,
        Option.some.injEq] at possible
      subst possible
      refine ⟨rfl, rfl, ?_⟩
      rintro left ⟨⟩

/-- A loop of a disposed ticker that waits for no refresh ends. -/
theorem move?_of_disposed
    (disposed : ticker.disposed = true)
    (now : Moment)
    {loop : TickerLoop}
    (idle : ∀ refresh, loop.stage ≠ .awaiting refresh) :
    loop.move? now ticker = some { ticker, loop := none } := by
  have cancelled : ticker.isCancelled loop.number = true := by
    simp [isCancelled, disposed]
  exact TickerLoop.move?_of_isCancelled idle cancelled

end Ticker

namespace Client.Winds

variable {now : Moment} {client used : Client} {task : ClientTask}

private theorem goTo
    {stage before : CallStage}
    (stands : used.standing = client.standing)
    (unsent :
      ∀ {exchange},
        (ClientTask.caller stage).exchange? = some exchange →
        exchange.stage = .prepared) :
    client.Winds (.caller before) (used.goTo stage []) where
  standing := stands
  unsent := by
    rintro left exchange ⟨⟩ drives
    exact unsent drives
  rests := by
    rintro left loop ⟨⟩ ⟨⟩
  periodic := by
    rintro left ⟨⟩
    rfl
  begun := nofun

private theorem giveFrom
    {before : CallStage}
    (stands : used.standing = client.standing)
    (query : Query)
    (base : Table Feature.Evaluated) :
    client.Winds (.caller before) (used.giveFrom query base) := by
  obtain ⟨consultations, warnings, shape⟩ := used.exists_giveFrom query base
  rw [shape]
  exact goTo stands nofun

private theorem useSnapshot
    {before : CallStage}
    (stands : used.standing = client.standing)
    (query : Query)
    (snapshot : Except Failure (Snapshot (List Prepared))) :
    client.Winds (.caller before) (used.useSnapshot now query snapshot) := by
  cases snapshot <;> exact goTo stands nofun

private theorem report
    {before stage : CallStage}
    (message : Message)
    (idle : (ClientTask.caller stage).exchange? = none) :
    client.Winds (.caller before) (client.report now message stage) := by
  obtain ⟨outbox, batches, shape⟩ := client.exists_report now message stage
  rw [shape]
  refine ⟨rfl, ?_, ?_, ?_, ?_⟩
  · rintro left exchange ⟨⟩ drives
    cases idle.symm.trans drives
  · rintro left loop ⟨⟩ ⟨⟩
  · rintro left ⟨⟩
    rfl
  · intro new begins
    obtain ⟨transport, request, -, rfl⟩ := exists_of_mem_deliveries begins
    exact ⟨request, rfl⟩

private theorem askForDownload
    {before : CallStage}
    {turn : Turn Client ClientTask}
    {ticker : Ticker (List Prepared)}
    {waiting : Nat → CallStage}
    (asks : client.AsksForDownload ticker waiting turn)
    (disposed : ticker.disposed = true) :
    client.Winds (.caller before) turn := by
  cases asks with
  | refused =>
      exact goTo rfl nofun
  | joins notDisposed | begins notDisposed =>
      cases disposed.symm.trans notDisposed

private theorem resolve
    {before : CallStage}
    {turn : Turn Client ClientTask}
    {query : Query}
    (resolves : client.Resolves now query turn) :
    client.Winds (.caller before) turn := by
  cases resolves with
  | misses =>
      exact goTo rfl nofun
  | uses =>
      exact useSnapshot rfl query _
  | consults =>
      refine goTo rfl ?_
      rintro exchange ⟨⟩
      rfl
  | concludes =>
      exact giveFrom rfl query .empty

private theorem standing_exchange?
    (closed : client.IsClosed)
    {exchange : Exchange}
    {progress : Progress}
    (possible : client.exchange? now exchange = some (used, progress)) :
    used.standing = client.standing := by
  obtain ⟨transport, after, found, moves, rfl⟩ := exists_of_exchange? possible
  rw [exchange.move?_of_cancelled (closed.cancelled found)] at moves
  cases moves
  simp [Client.standing, found]

private theorem standing_endDownload
    (refresh : Nat)
    (result : Except Failure Content) :
    (used.endDownload now refresh result).standing = used.standing := by
  simp [endDownload, Client.standing, Function.comp_def, Ticker.standing_finish]

private theorem standing_endFlush
    (refresh : Nat)
    (succeeded : Bool) :
    (used.endFlush now refresh succeeded).standing = used.standing := by
  simp [endFlush, Client.standing, Function.comp_def, Ticker.standing_finish]

/-- A task that ends leaves nothing. -/
private theorem ended
    (stands : used.standing = client.standing) :
    client.Winds task ⟨used, none, []⟩ :=
  ⟨stands, nofun, nofun, nofun, nofun⟩

end Client.Winds

open Client.Winds in
/-- Every turn on a closed client only brings its task closer to the end. -/
theorem ClientTask.Takes.winds
    {now : Moment}
    {client : Client}
    {task : ClientTask}
    {turn : Turn Client ClientTask}
    (taken : task.Takes now client turn)
    (closed : client.IsClosed) :
    client.Winds task turn := by
  cases taken with
  | definitionsLoopMoves found moved =>
      obtain ⟨stands, noRefresh, rests⟩ :=
        Ticker.winds_of_move? (closed.definitions found) moved
      refine ⟨by simp [Client.standing, found, stands], ?_, ?_, ?_, by simp [noRefresh]⟩
      · intro left exchange shape drives
        obtain ⟨loop, -, rfl⟩ := Option.map_eq_some_iff.mp shape
        cases drives
      · intro left loop shape isLoop
        obtain ⟨moving, leaves, rfl⟩ := Option.map_eq_some_iff.mp shape
        cases isLoop
        exact rests leaves
      · intro left shape
        obtain ⟨loop, -, rfl⟩ := Option.map_eq_some_iff.mp shape
        rfl
  | flushLoopMoves found moved =>
      obtain ⟨stands, noRefresh, rests⟩ := Ticker.winds_of_move? (closed.flushes found) moved
      refine ⟨by simp [Client.standing, found, stands], ?_, ?_, ?_, by simp [noRefresh]⟩
      · intro left exchange shape drives
        obtain ⟨loop, -, rfl⟩ := Option.map_eq_some_iff.mp shape
        cases drives
      · intro left loop shape isLoop
        obtain ⟨moving, leaves, rfl⟩ := Option.map_eq_some_iff.mp shape
        cases isLoop
        exact rests leaves
      · intro left shape
        obtain ⟨loop, -, rfl⟩ := Option.map_eq_some_iff.mp shape
        rfl
  | downloadGoes possible | flushingGoes possible | deliveryGoes possible
  | evaluatingGoes possible | callerFlushingGoes possible =>
      cases closed.progress_eq possible
  | downloadEnds possible =>
      exact ended ((standing_endDownload _ _).trans (standing_exchange? closed possible))
  | flushingEnds possible =>
      exact ended ((standing_endFlush _ _).trans (standing_exchange? closed possible))
  | deliveryEnds possible =>
      exact ended (standing_exchange? closed possible)
  | flushFindsNothing takes =>
      obtain ⟨⟨outbox, rfl⟩, -⟩ := Client.exists_of_takeBatch takes
      exact ended (standing_endFlush _ _)
  | flushTakes takes =>
      obtain ⟨⟨outbox, rfl⟩, -⟩ := Client.exists_of_takeBatch takes
      refine ⟨rfl, ?_, ?_, ?_, nofun⟩
      · rintro left exchange ⟨⟩ ⟨⟩
        rfl
      · rintro left loop ⟨⟩ ⟨⟩
      · rintro left ⟨⟩
        rfl
  | callRefused =>
      exact goTo rfl nofun
  | callEnters notDisposed =>
      cases closed.disposed.symm.trans notDisposed
  | callerUpdates | callerReports =>
      exact report _ rfl
  | callerUpdated | callerRequestsNothing =>
      exact goTo rfl nofun
  | callerResolves =>
      exact resolve (client.resolves now _)
  | callerAsks found | callerRequests found =>
      exact askForDownload (client.asksForDownload _ _) (closed.definitions found)
  | callerDownloaded found seen =>
      exact useSnapshot (by simp [Client.standing, found, Ticker.standing_await? seen]) _ _
  | callerReported =>
      exact giveFrom rfl _ _
  | evaluatingEnds possible =>
      exact giveFrom (standing_exchange? closed possible) _ _
  | callerDrainsNothing takes =>
      obtain ⟨⟨outbox, rfl⟩, -⟩ := Client.exists_of_takeBatch takes
      exact goTo rfl nofun
  | callerDrains takes =>
      obtain ⟨⟨outbox, rfl⟩, -⟩ := Client.exists_of_takeBatch takes
      refine goTo rfl ?_
      rintro exchange ⟨⟩
      rfl
  | callerFlushed possible =>
      exact goTo (standing_exchange? closed possible) nofun
  | callerRefreshed found seen =>
      exact goTo (by simp [Client.standing, found, Ticker.standing_await? seen]) nofun

/-! ## Runs -/

/-- Whether a loop sleeps, or has slept and is due. -/
def LoopStage.isScheduled : LoopStage → Bool
  | .sleeping _ => true
  | .due => true
  | _ => false

/-- What has become of a client and its tasks since it was closed. -/
structure Client.HasWound (closing last : Configuration Client ClientTask) : Prop where
  closed : last.shared.IsClosed
  standing : last.shared.standing = closing.shared.standing
  /-- No request has been sent, and no answer has come. -/
  driven :
    ∀ {place task exchange},
      last.task? place = some task →
      task.exchange? = some exchange →
      exchange.stage ≠ .prepared →
      closing.task? place = some task
  /-- No loop has gone to sleep, or has become due. -/
  scheduled :
    ∀ {place task loop},
      last.task? place = some task →
      task.loop? = some loop →
      loop.stage.isScheduled = true →
      closing.task? place = some task
  /-- Neither a loop nor a refresh has begun. -/
  newcomers :
    ∀ {place task},
      last.task? place = some task →
      closing.tasks.length ≤ place →
      task.isPeriodic = false

namespace Client.IsClosed

variable {client after : Client}

/-- Who stands the same is closed as well. -/
private theorem of_standing
    (closed : client.IsClosed)
    (same : after.standing = client.standing) :
    after.IsClosed where
  disposed := (congrArg Standing.disposed same).trans closed.disposed
  cancelled := by
    intro transport found
    have stands := congrArg Standing.transport same
    simp only [standing, found, Option.map_some] at stands
    obtain ⟨before, foundBefore, pair⟩ := Option.map_eq_some_iff.mp stands.symm
    exact (Prod.mk.inj pair).1.symm.trans (closed.cancelled foundBefore)
  definitions := by
    intro ticker found
    have stands := congrArg Standing.definitions same
    simp only [standing, found, Option.map_some] at stands
    obtain ⟨before, foundBefore, pair⟩ := Option.map_eq_some_iff.mp stands.symm
    exact (Prod.mk.inj pair).1.symm.trans (closed.definitions foundBefore)
  flushes := by
    intro ticker found
    have stands := congrArg Standing.flushes same
    simp only [standing, found, Option.map_some] at stands
    obtain ⟨before, foundBefore, pair⟩ := Option.map_eq_some_iff.mp stands.symm
    exact (Prod.mk.inj pair).1.symm.trans (closed.flushes foundBefore)

end Client.IsClosed

namespace Client.HasWound

variable
  {closing configuration next last : Configuration Client ClientTask}
  {move : Move ClientAction}
  {history : List ClientTransition}

private theorem start
    (closed : closing.shared.IsClosed) :
    HasWound closing closing where
  closed := closed
  standing := rfl
  driven found _ _ := found
  scheduled found _ _ := found
  newcomers found beyond :=
    absurd (Configuration.lt_length_of_task? found) (Nat.not_lt.mpr beyond)

/-- A turn only winds its task up. -/
private theorem turn
    (wound : HasWound closing configuration)
    {place : Nat}
    {task : ClientTask}
    {turn : Turn Client ClientTask}
    (found : configuration.task? place = some task)
    (taken : task.Takes configuration.now configuration.shared turn) :
    HasWound closing (configuration.update place turn) := by
  have winds := taken.winds wound.closed
  constructor
  case closed =>
    exact wound.closed.of_standing winds.standing
  case standing =>
    exact winds.standing.trans wound.standing
  case driven =>
    intro other left exchange foundAfter drives sent
    -- What takes its turn is left with nothing sent, and what begins sends nothing yet.
    rcases Configuration.task?_update_cases found foundAfter with
      ⟨-, leaves⟩ | ⟨-, before⟩ | begins
    · exact absurd (winds.unsent leaves drives) sent
    · exact wound.driven before drives sent
    · obtain ⟨request, rfl⟩ := winds.begun begins
      cases drives
      exact absurd rfl sent
  case scheduled =>
    intro other left loop foundAfter isLoop scheduled
    rcases Configuration.task?_update_cases found foundAfter with
      ⟨-, leaves⟩ | ⟨-, before⟩ | begins
    · rw [winds.rests leaves isLoop] at scheduled
      cases scheduled
    · exact wound.scheduled before isLoop scheduled
    · obtain ⟨request, rfl⟩ := winds.begun begins
      cases isLoop
  case newcomers =>
    intro other left foundAfter beyond
    rcases Configuration.task?_update_cases found foundAfter with
      ⟨rfl, leaves⟩ | ⟨-, before⟩ | begins
    · exact (winds.periodic leaves).trans (wound.newcomers found beyond)
    · exact wound.newcomers before beyond
    · obtain ⟨request, rfl⟩ := winds.begun begins
      rfl

/-- A caller that comes has done nothing yet. -/
private theorem call
    (wound : HasWound closing configuration)
    (called : Call) :
    HasWound closing
      { configuration with
        tasks := configuration.tasks ++ [some (.caller (.begun called))] } := by
  constructor
  case closed =>
    exact wound.closed
  case standing =>
    exact wound.standing
  case driven =>
    intro place task exchange found drives
    rcases Configuration.task?_snoc_cases found with before | rfl
    · exact wound.driven before drives
    · cases drives
  case scheduled =>
    intro place task loop found isLoop
    rcases Configuration.task?_snoc_cases found with before | rfl
    · exact wound.scheduled before isLoop
    · cases isLoop
  case newcomers =>
    intro place task found
    rcases Configuration.task?_snoc_cases found with before | rfl
    · exact wound.newcomers before
    · exact fun _ => rfl

private theorem step
    (wound : HasWound closing configuration)
    (moved : ClientMove configuration move next) :
    HasWound closing next := by
  cases moved with
  | turn found taken =>
      exact wound.turn found taken
  | wait | idle =>
      exact ⟨wound.closed, wound.standing, wound.driven, wound.scheduled, wound.newcomers⟩
  | call =>
      exact wound.call _
  | report _ notDisposed =>
      cases wound.closed.disposed.symm.trans notDisposed
  | dispose =>
      rw [wound.closed.dispose_eq]
      exact wound

/-- A closed client winds up along every run. -/
theorem of_run
    (closed : closing.shared.IsClosed)
    (run : Run system closing history last) :
    HasWound closing last := by
  induction run with
  | start =>
      exact start closed
  | step _ possible inductionHypothesis =>
      exact inductionHypothesis.step (.of_after? possible)

end Client.HasWound

end FeatureFlags
