import FeatureFlags.Proofs.Client.Changes
import FeatureFlags.Proofs.Client.Equipment
import FeatureFlags.Proofs.Ticker.Pacing

namespace FeatureFlags

/-!
# Periodic flushes

The ticker that sends what is queued carries out one refresh at a time, from taking the
queue to the end of the request. Whoever else takes the queue has nothing to do with it.
-/

open FeatureFlags.Feature (Evaluated Prepared)
open FeatureFlags.Telemetry (Message)
open FeatureFlags.Transport (Exchange Progress)

/-- The refresh that a task carries out by sending what is queued. -/
def ClientTask.flushRefresh? : ClientTask → Option Nat
  | .flush refresh => some refresh
  | .flushing refresh _ => some refresh
  | _ => none

/-! ## Turns -/

/-- A turn of somebody who has nothing to do with periodic flushes. -/
structure Client.SparesFlushes
    (client : Client)
    (turn : Turn Client ClientTask) :
    Prop where
  flushes : turn.shared.flushes = client.flushes
  left : turn.task.bind ClientTask.flushRefresh? = none
  begun : ∀ {new}, new ∈ turn.begun → new.flushRefresh? = none

namespace Client.SparesFlushes

variable {now : Moment} {client used : Client}

private theorem goTo
    {stage : CallStage}
    (kept : used.flushes = client.flushes) :
    client.SparesFlushes (used.goTo stage []) :=
  ⟨kept, rfl, nofun⟩

private theorem giveFrom
    (kept : used.flushes = client.flushes)
    (query : Query)
    (base : Table Evaluated) :
    client.SparesFlushes (used.giveFrom query base) := by
  obtain ⟨consultations, warnings, shape⟩ := used.exists_giveFrom query base
  rw [shape]
  exact goTo kept

private theorem useSnapshot
    (kept : used.flushes = client.flushes)
    (query : Query)
    (snapshot : Except Failure (Snapshot (List Prepared))) :
    client.SparesFlushes (used.useSnapshot now query snapshot) := by
  cases snapshot <;> exact goTo kept

private theorem report
    (message : Message)
    (stage : CallStage) :
    client.SparesFlushes (client.report now message stage) := by
  obtain ⟨outbox, batches, shape⟩ := client.exists_report now message stage
  rw [shape]
  refine ⟨rfl, rfl, ?_⟩
  intro new begins
  obtain ⟨transport, request, -, rfl⟩ := exists_of_mem_deliveries begins
  rfl

private theorem askForDownload
    {turn : Turn Client ClientTask}
    {ticker : Ticker (List Prepared)}
    {waiting : Nat → CallStage}
    (asks : client.AsksForDownload ticker waiting turn) :
    client.SparesFlushes turn := by
  cases asks with
  | refused | joins =>
      exact goTo rfl
  | begins =>
      refine ⟨rfl, rfl, ?_⟩
      intro new begins
      rcases List.mem_append.mp begins with download | loop
      · obtain ⟨transport, -, rfl⟩ := Option.map_eq_some_iff.mp (Option.mem_toList.mp download)
        rfl
      · cases List.mem_singleton.mp loop
        rfl

private theorem resolve
    {turn : Turn Client ClientTask}
    {query : Query}
    (resolves : client.Resolves now query turn) :
    client.SparesFlushes turn := by
  cases resolves with
  | misses | consults =>
      exact goTo rfl
  | uses =>
      exact useSnapshot rfl query _
  | concludes =>
      exact giveFrom rfl query .empty

private theorem flushes_exchange?
    {exchange : Exchange}
    {progress : Progress}
    (possible : client.exchange? now exchange = some (used, progress)) :
    used.flushes = client.flushes := by
  obtain ⟨_, _, -, -, rfl⟩ := exists_of_exchange? possible
  rfl

end Client.SparesFlushes

/-- What a turn does with the ticker of the periodic flushes. -/
inductive ClientTask.Flushes
    (now : Moment)
    (client : Client)
    (ticker : Ticker Unit) :
    ClientTask → Turn Client ClientTask → Prop where
  | spares
      {task : ClientTask}
      {turn : Turn Client ClientTask} :
      task.flushRefresh? = none →
      client.SparesFlushes turn →
      Flushes now client ticker task turn
  | loopMoves
      {loop : TickerLoop}
      {move : TickerLoop.Move Unit} :
      loop.Moves now ticker move →
      Flushes now client ticker
        (.flushLoop loop)
        ⟨{ client with flushes := some move.ticker }, move.loop.map .flushLoop,
          move.refresh.toList.map .flush⟩
  /-- A refresh goes on, and leaves its ticker alone. -/
  | goes
      {task left : ClientTask}
      {refresh : Nat}
      {used : Client} :
      task.flushRefresh? = some refresh →
      left.flushRefresh? = some refresh →
      used.flushes = client.flushes →
      Flushes now client ticker task ⟨used, some left, []⟩
  /-- A refresh ends. -/
  | ends
      {task : ClientTask}
      {refresh : Nat}
      {used : Client}
      {succeeded : Bool} :
      task.flushRefresh? = some refresh →
      used.flushes = client.flushes →
      Flushes now client ticker task ⟨used.endFlush now refresh succeeded, none, []⟩

open Client.SparesFlushes in
/-- Every turn does one of four things with the ticker of the periodic flushes. -/
theorem ClientTask.Takes.flushes
    {now : Moment}
    {client : Client}
    {ticker : Ticker Unit}
    {task : ClientTask}
    {turn : Turn Client ClientTask}
    (taken : task.Takes now client turn)
    (present : client.flushes = some ticker) :
    task.Flushes now client ticker turn := by
  cases taken with
  | definitionsLoopMoves =>
      rename_i move _ _
      refine .spares rfl ⟨rfl, ?_, ?_⟩
      · cases move.loop <;> rfl
      · intro new begins
        obtain ⟨refresh, -, begun⟩ := Option.bind_eq_some_iff.mp (Option.mem_toList.mp begins)
        obtain ⟨transport, -, rfl⟩ := Option.map_eq_some_iff.mp begun
        rfl
  | flushLoopMoves found moves =>
      obtain rfl := Option.some.inj (found.symm.trans present)
      exact .loopMoves (.of_move? moves)
  | downloadGoes possible | downloadEnds possible | deliveryGoes possible
  | deliveryEnds possible =>
      have kept := flushes_exchange? possible
      exact .spares rfl ⟨kept, rfl, nofun⟩
  | flushFindsNothing takes =>
      obtain ⟨⟨outbox, rfl⟩, -⟩ := Client.exists_of_takeBatch takes
      exact .ends rfl rfl
  | flushTakes takes =>
      obtain ⟨⟨outbox, rfl⟩, -⟩ := Client.exists_of_takeBatch takes
      exact .goes rfl rfl rfl
  | flushingGoes possible =>
      exact .goes rfl rfl (flushes_exchange? possible)
  | flushingEnds possible =>
      exact .ends rfl (flushes_exchange? possible)
  | callRefused | callEnters | callerUpdated | callerRequestsNothing | callerRefreshed =>
      exact .spares rfl (goTo rfl)
  | callerUpdates | callerReports =>
      exact .spares rfl (report _ _)
  | callerResolves =>
      exact .spares rfl (resolve (client.resolves now _))
  | callerAsks | callerRequests =>
      exact .spares rfl (askForDownload (client.asksForDownload _ _))
  | callerDownloaded =>
      exact .spares rfl (useSnapshot (by rfl) _ _)
  | callerReported =>
      exact .spares rfl (giveFrom rfl _ _)
  | evaluatingGoes possible | callerFlushingGoes possible | callerFlushed possible =>
      exact .spares rfl (goTo (flushes_exchange? possible))
  | evaluatingEnds possible =>
      exact .spares rfl (giveFrom (flushes_exchange? possible) _ _)
  | callerDrainsNothing takes | callerDrains takes =>
      obtain ⟨⟨outbox, rfl⟩, -⟩ := Client.exists_of_takeBatch takes
      exact .spares rfl (goTo rfl)

/-! ## Runs -/

/-- The ticker of the periodic flushes is in order, and what it carries out is what runs in it. -/
structure Client.FlushesInTurn
    (ticker : Ticker Unit)
    (configuration : Configuration Client ClientTask) :
    Prop where
  present : configuration.shared.flushes = some ticker
  orderly : ticker.Orderly
  carriedOut : configuration.collect ClientTask.flushRefresh? = ticker.running?.toList

namespace Client.FlushesInTurn

variable
  {ticker : Ticker Unit}
  {configuration next : Configuration Client ClientTask}
  {place : Nat}
  {task : ClientTask}
  {turn : Turn Client ClientTask}
  {move : Move ClientAction}
  {refresh : Nat}

/-- A refresh that sends what was queued is the one that runs. -/
private theorem running?_of_flushRefresh?
    (inTurn : FlushesInTurn ticker configuration)
    (found : configuration.task? place = some task)
    (carries : task.flushRefresh? = some refresh) :
    ticker.running? = some refresh := by
  have member : refresh ∈ configuration.collect ClientTask.flushRefresh? :=
    Configuration.mem_collect_iff.mpr ⟨place, task, found, carries⟩
  rw [inTurn.carriedOut] at member
  simpa using member

/-- At most one task at a time sends what was queued for a refresh. -/
theorem alone
    (inTurn : FlushesInTurn ticker configuration)
    {other another : Nat}
    {second : ClientTask}
    (found : configuration.task? place = some task)
    (carries : task.flushRefresh? = some refresh)
    (alsoFound : configuration.task? other = some second)
    (alsoCarries : second.flushRefresh? = some another) :
    place = other := by
  refine Configuration.place_eq_of_collect ?_ found carries alsoFound alsoCarries
  rw [inTurn.carriedOut]
  exact Option.length_toList_le

/-- A loop changes the ticker in one of the known ways, and what it begins runs. -/
private theorem change_of_moves
    {now : Moment}
    {loop : TickerLoop}
    {move : TickerLoop.Move Unit}
    (orderly : ticker.Orderly)
    (moves : loop.Moves now ticker move) :
    ticker.Change now move.ticker ∧
      move.ticker.running?.toList = ticker.running?.toList ++ move.refresh.toList := by
  cases moves with
  | sees sees =>
      refine ⟨.seen sees, ?_⟩
      rw [orderly.running?_await? sees, Option.toList_none, List.append_nil]
  | ends | sleeps | wakes | joins =>
      exact ⟨.unchanged, (List.append_nil _).symm⟩
  | begins notCancelled free =>
      simp only [Ticker.isCancelled, Bool.or_eq_false_iff] at notCancelled
      refine ⟨.begun notCancelled.1 free, ?_⟩
      rw [orderly.inFlight?_eq] at free
      rw [Ticker.running?_begin]
      simp [Ticker.running?, free]

private theorem turn_step
    (inTurn : FlushesInTurn ticker configuration)
    (found : configuration.task? place = some task)
    (flushes : task.Flushes configuration.now configuration.shared ticker turn) :
    ∃ after, FlushesInTurn after (configuration.update place turn) := by
  have carriedOut := inTurn.carriedOut
  cases flushes with
  | spares aside spares =>
      refine ⟨ticker, spares.flushes.trans inTurn.present, inTurn.orderly, ?_⟩
      have none : turn.begun.filterMap ClientTask.flushRefresh? = [] :=
        List.filterMap_eq_nil_iff.mpr fun _ begins => spares.begun begins
      rw [Configuration.collect_update_of_kept found (spares.left.trans aside.symm), carriedOut,
        none, List.append_nil]
  | loopMoves moves =>
      rename_i loop move
      obtain ⟨change, runs⟩ := change_of_moves inTurn.orderly moves
      refine ⟨move.ticker, rfl, change.orderly inTurn.orderly, ?_⟩
      have aside :
          (move.loop.map ClientTask.flushLoop).bind ClientTask.flushRefresh? =
            (ClientTask.flushLoop loop).flushRefresh? := by
        cases move.loop <;> rfl
      have begun :
          (move.refresh.toList.map ClientTask.flush).filterMap ClientTask.flushRefresh? =
            move.refresh.toList := by
        cases move.refresh <;> rfl
      rw [Configuration.collect_update_of_kept found aside, carriedOut, begun, runs]
  | goes carries carriesOn kept =>
      rename_i left refresh used
      refine ⟨ticker, kept.trans inTurn.present, inTurn.orderly, ?_⟩
      have same : (some left).bind ClientTask.flushRefresh? = task.flushRefresh? :=
        carriesOn.trans carries.symm
      rw [Configuration.collect_update_of_kept found same, carriedOut]
      exact List.append_nil _
  | ends carries kept =>
      rename_i refresh used succeeded
      have running := inTurn.running?_of_flushRefresh? found carries
      have present : used.flushes = some ticker := kept.trans inTurn.present
      refine
        ⟨ticker.finish configuration.now refresh (if succeeded then some () else none), ?_,
          inTurn.orderly.finish running _ _, ?_⟩
      · simp [Configuration.update, Client.endFlush, present]
      · obtain ⟨left, right, shape, shapeAfter⟩ :=
          Configuration.collect_update found
            ⟨used.endFlush configuration.now refresh succeeded, none, []⟩
            ClientTask.flushRefresh?
        rw [shape, running, carries] at carriedOut
        -- The refresh that ends is the only one that is carried out.
        have alone : left = [] ∧ right = [] := by
          have length := congrArg List.length carriedOut
          simp only [Option.toList_some, List.length_append, List.length_singleton] at length
          exact ⟨List.eq_nil_of_length_eq_zero (by omega),
            List.eq_nil_of_length_eq_zero (by omega)⟩
        rw [shapeAfter, inTurn.orderly.running?_finish running, alone.1, alone.2]
        rfl

private theorem step
    (inTurn : FlushesInTurn ticker configuration)
    (moved : ClientMove configuration move next) :
    ∃ after, FlushesInTurn after next := by
  cases moved with
  | turn found taken =>
      exact inTurn.turn_step found (taken.flushes inTurn.present)
  | wait | idle =>
      exact ⟨ticker, inTurn.present, inTurn.orderly, inTurn.carriedOut⟩
  | call =>
      rename_i called
      have aside : ∀ new ∈ [ClientTask.caller (.begun called)], new.flushRefresh? = none := by
        simp [ClientTask.flushRefresh?]
      exact
        ⟨ticker, inTurn.present, inTurn.orderly,
          (Configuration.collect_append_of_none aside configuration _).trans inTurn.carriedOut⟩
  | report _ _ _ queued =>
      obtain ⟨outbox, rfl⟩ := Client.exists_of_enqueue queued
      refine
        ⟨ticker, inTurn.present, inTurn.orderly,
          (Configuration.collect_append_of_none ?_ configuration _).trans inTurn.carriedOut⟩
      intro new begins
      obtain ⟨_, _, -, rfl⟩ := Client.exists_of_mem_deliveries begins
      rfl
  | dispose =>
      have change : ticker.Change configuration.now ticker.dispose := .disposed
      refine ⟨ticker.dispose, ?_, change.orderly inTurn.orderly, inTurn.carriedOut⟩
      simp [Client.dispose, inTurn.present]

/-- Wherever a run of a client that is not offline leads, periodic flushes take turns. -/
theorem of_run
    {settings : Settings}
    {surroundings : Surroundings}
    {client : Client}
    {history : List ClientTransition}
    (created : create settings surroundings = .ok client)
    (online : settings.mode ≠ .offline)
    (run : Run system client.fresh history configuration) :
    ∃ ticker, FlushesInTurn ticker configuration := by
  induction run with
  | start =>
      obtain ⟨transport, -, rfl⟩ := eq_of_create created
      refine
        ⟨{ name := "output", interval := settings.flushInterval }, ?_, .initial _ _, ?_⟩
      · simp [Client.fresh, createFlushes]
      · refine List.eq_nil_iff_forall_not_mem.mpr fun refresh member => ?_
        obtain ⟨place, task, found, carries⟩ := Configuration.mem_collect_iff.mp member
        rcases isLoop_of_fresh found with rfl | rfl <;> cases carries
  | step _ possible inductionHypothesis =>
      obtain ⟨ticker, inTurn⟩ := inductionHypothesis
      exact inTurn.step (.of_after? possible)

end Client.FlushesInTurn

/-! ## Those who carry a refresh out -/

/-- Whoever is at a place carries out one refresh, by sending what was queued. -/
structure Client.CarriesOut
    (refresh place : Nat)
    (configuration : Configuration Client ClientTask) :
    Prop where
  inside : place < configuration.tasks.length
  carries :
    ∀ {task},
      configuration.task? place = some task →
      task.flushRefresh? = some refresh

namespace Client.CarriesOut

variable {configuration next : Configuration Client ClientTask} {refresh place : Nat}

/-- A turn that leaves somebody with a refresh was taken by somebody with the same refresh. -/
private theorem flushRefresh?_of_flushes
    {now : Moment}
    {client : Client}
    {ticker : Ticker Unit}
    {task left : ClientTask}
    {turn : Turn Client ClientTask}
    (flushes : task.Flushes now client ticker turn)
    (carries : task.flushRefresh? = some refresh)
    (leaves : turn.task = some left) :
    left.flushRefresh? = some refresh := by
  cases flushes with
  | spares aside =>
      rw [aside] at carries
      cases carries
  | loopMoves =>
      cases carries
  | goes before after =>
      cases leaves
      exact after.trans (before.symm.trans carries)
  | ends =>
      cases leaves

private theorem step
    {move : Move ClientAction}
    {ticker : Ticker Unit}
    (carriesOut : CarriesOut refresh place configuration)
    (present : configuration.shared.flushes = some ticker)
    (moved : ClientMove configuration move next) :
    CarriesOut refresh place next := by
  refine ⟨Nat.lt_of_lt_of_le carriesOut.inside moved.length_le, ?_⟩
  intro left found
  cases moved with
  | turn foundMoving taken =>
      rw [Configuration.task?_update foundMoving, if_pos carriesOut.inside] at found
      split at found
      · rename_i same
        exact
          flushRefresh?_of_flushes (taken.flushes present)
            (carriesOut.carries (same ▸ foundMoving)) found
      · exact carriesOut.carries found
  | wait | idle | dispose =>
      exact carriesOut.carries found
  | call =>
      rename_i called
      have begun : [some (ClientTask.caller (.begun called))] =
        [ClientTask.caller (.begun called)].map some := rfl
      rw [begun, Configuration.task?_append, if_pos carriesOut.inside] at found
      exact carriesOut.carries found
  | report =>
      rw [Configuration.task?_append, if_pos carriesOut.inside] at found
      exact carriesOut.carries found

/-- A refresh is carried out at its place until it has ended, wherever a run leads. -/
theorem later
    {settings : Settings}
    {surroundings : Surroundings}
    {client : Client}
    {history more : List ClientTransition}
    {last : Configuration Client ClientTask}
    (created : create settings surroundings = .ok client)
    (online : settings.mode ≠ .offline)
    (runBefore : Run system client.fresh history configuration)
    (run : Run system configuration more last)
    (carriesOut : CarriesOut refresh place configuration) :
    CarriesOut refresh place last := by
  induction run with
  | start =>
      exact carriesOut
  | step run possible inductionHypothesis =>
      obtain ⟨ticker, inTurn⟩ :=
        FlushesInTurn.of_run created online (runBefore.append run)
      exact inductionHypothesis.step inTurn.present (.of_after? possible)

end Client.CarriesOut

end FeatureFlags
