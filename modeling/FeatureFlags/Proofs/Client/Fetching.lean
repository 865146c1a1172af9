import FeatureFlags.Proofs.Client.Downloads
import FeatureFlags.Proofs.Client.Equipment
import FeatureFlags.Proofs.Ticker.Latest

namespace FeatureFlags

/-!
# Fetching the definitions

Definitions are downloaded for the loop, for queries that find none, and for callers that
request them. Whoever asked, a download is carried out for the refresh in the slot, its end
is the outcome of that refresh, and the definitions kept are those of the last success.
-/

open FeatureFlags.Feature (Definition Evaluated Prepared)
open FeatureFlags.Telemetry (Message)
open FeatureFlags.Transport (Content Progress)

/-! ## Ends of downloads -/

/-- How a download ended, and for which refresh. -/
structure DownloadEnd where
  refresh : Nat
  result : Except Failure Content

/-- The definitions of a success. -/
def DownloadEnd.definitions? (ended : DownloadEnd) : Option (List Definition) :=
  (Progress.ended ended.result).definitions?

theorem DownloadEnd.definitions?_eq_some_iff
    {ended : DownloadEnd}
    {definitions : List Definition} :
    ended.definitions? = some definitions ↔ ended.result = .ok (.definitions definitions) := by
  obtain ⟨refresh, result⟩ := ended
  rcases result with failure | content
  · simp [definitions?, Progress.definitions?]
  · cases content <;> simp [definitions?, Progress.definitions?]

namespace ClientTask

/-- The refresh that a task carries out. -/
def download? : ClientTask → Option Nat
  | .download refresh _ => some refresh
  | _ => none

/-- The refresh that a caller waits for. -/
def awaited? : ClientTask → Option Nat
  | .caller (.downloading _ refresh) => some refresh
  | .caller (.refreshing refresh) => some refresh
  | _ => none

/-- The end of the download that a task carries out, if its turn is the last one. -/
def downloadEnd?
    (now : Moment)
    (client : Client) :
    ClientTask → Option DownloadEnd
  | .download refresh exchange =>
      match client.exchange? now exchange with
      | some (_, .ended result) => some ⟨refresh, result⟩
      | _ => none
  | _ => none

end ClientTask

namespace ClientTask

variable {now : Moment} {client : Client} {task : ClientTask}

/-- What ends is the download that the task carries out. -/
theorem download?_of_downloadEnd?
    {ended : DownloadEnd}
    (ends : task.downloadEnd? now client = some ended) :
    task.download? = some ended.refresh := by
  unfold downloadEnd? at ends
  split at ends
  · split at ends
    · cases ends
      rfl
    · cases ends
  · cases ends

theorem downloadEnd?_eq_none
    (noDownload : task.download? = none)
    (now : Moment)
    (client : Client) :
    task.downloadEnd? now client = none := by
  cases ends : task.downloadEnd? now client with
  | none =>
      rfl
  | some ended =>
      cases noDownload.symm.trans (download?_of_downloadEnd? ends)

end ClientTask

/-- The download that ends in a transition. -/
def ClientTransition.downloadEnd? (transition : ClientTransition) : Option DownloadEnd :=
  match transition.move with
  | .turn place =>
      (transition.before.task? place).bind
        (ClientTask.downloadEnd? transition.before.now transition.before.shared)
  | _ => none

namespace Client

/-- The downloads that ended along a history, in the order of their ends. -/
def downloadEnds (history : List ClientTransition) : List DownloadEnd :=
  history.filterMap ClientTransition.downloadEnd?

/-- The definitions of the download that was the last to succeed. -/
def latestDefinitions? (history : List ClientTransition) : Option (List Definition) :=
  ((downloadEnds history).filterMap DownloadEnd.definitions?).getLast?

theorem downloadEnds_snoc
    (history : List ClientTransition)
    (transition : ClientTransition) :
    downloadEnds (history ++ [transition]) =
      downloadEnds history ++ transition.downloadEnd?.toList := by
  cases ended : transition.downloadEnd? <;> simp [downloadEnds, ended]

/-- Whatever has ended stays among the downloads that have ended. -/
theorem mem_downloadEnds_append
    {history : List ClientTransition}
    {ended : DownloadEnd}
    (member : ended ∈ downloadEnds history)
    (more : List ClientTransition) :
    ended ∈ downloadEnds (history ++ more) := by
  rw [downloadEnds, List.filterMap_append]
  exact List.mem_append_left _ member

theorem latestDefinitions?_snoc
    (history : List ClientTransition)
    (transition : ClientTransition) :
    latestDefinitions? (history ++ [transition]) =
      (transition.downloadEnd?.bind DownloadEnd.definitions?).or (latestDefinitions? history) := by
  rw [latestDefinitions?, downloadEnds_snoc]
  cases transition.downloadEnd? with
  | none =>
      simp [latestDefinitions?]
  | some ended =>
      cases succeeded : ended.definitions? <;> simp [latestDefinitions?, succeeded]

/-- The latest definitions are those of the last end that gave any. -/
theorem latestDefinitions?_eq_some_iff
    {history : List ClientTransition}
    {definitions : List Definition} :
    latestDefinitions? history = some definitions ↔
      ∃ earlier transition later,
        history = earlier ++ transition :: later ∧
          transition.downloadEnd?.bind DownloadEnd.definitions? = some definitions ∧
          ∀ other ∈ later, other.downloadEnd?.bind DownloadEnd.definitions? = none := by
  rw [latestDefinitions?, downloadEnds, List.filterMap_filterMap, List.getLast?_filterMap,
    List.findSome?_eq_some_iff]
  constructor
  · rintro ⟨later, transition, earlier, shape, gives, silent⟩
    refine ⟨earlier.reverse, transition, later.reverse, ?_, gives, ?_⟩
    · simpa using congrArg List.reverse shape
    · exact fun other member => silent other (List.mem_reverse.mp member)
  · rintro ⟨earlier, transition, later, rfl, gives, silent⟩
    refine ⟨later.reverse, transition, earlier.reverse, by simp, gives, ?_⟩
    exact fun other member => silent other (List.mem_reverse.mp member)

end Client

/-! ## Turns -/

/-- What a turn does with the ticker of the definitions and its downloads. -/
inductive ClientTask.Fetches
    (now : Moment)
    (client : Client)
    (ticker : Ticker (List Prepared))
    (task : ClientTask)
    (turn : Turn Client ClientTask) :
    Ticker (List Prepared) → Prop where
  /-- The ticker is left alone; a caller may come to wait for the refresh in flight. -/
  | rests :
      task.downloadEnd? now client = none →
      turn.task.bind download? = task.download? →
      turn.begun.filterMap download? = [] →
      (∀ {refresh},
        turn.task.bind awaited? = some refresh →
        task.awaited? = some refresh ∨ ticker.inFlight? = some refresh) →
      Fetches now client ticker task turn ticker
  /-- Somebody sees an outcome. -/
  | sees
      {refresh : Nat}
      {succeeded : Bool}
      {after : Ticker (List Prepared)} :
      ticker.await? refresh = some (after, succeeded) →
      task.download? = none →
      turn.task.bind download? = none →
      turn.begun = [] →
      turn.task.bind awaited? = none →
      Fetches now client ticker task turn after
  /-- A download begins. -/
  | begins
      {loop : Nat} :
      ticker.disposed = false →
      ticker.inFlight? = none →
      loop = ticker.loop ∨ loop = ticker.loop + 1 →
      task.download? = none →
      turn.task.bind download? = none →
      turn.begun.filterMap download? = [ticker.refreshes.length] →
      (∀ {refresh},
        turn.task.bind awaited? = some refresh →
        refresh = ticker.refreshes.length) →
      Fetches now client ticker task turn { ticker.begin with loop }
  /-- A download ends. -/
  | ends
      {ended : DownloadEnd} :
      task.downloadEnd? now client = some ended →
      turn.task = none →
      turn.begun = [] →
      Fetches now client ticker task turn
        (ticker.finish now ended.refresh
          (ended.definitions?.map fun definitions => definitions.map Prepared.ofDefinition))

/-- A turn that leaves the definitions alone, with tasks that have nothing to do with them. -/
structure Client.LeavesDownloads
    (client : Client)
    (turn : Turn Client ClientTask) :
    Prop where
  definitions : turn.shared.definitions = client.definitions
  download : turn.task.bind ClientTask.download? = none
  awaited : turn.task.bind ClientTask.awaited? = none
  begun : turn.begun.filterMap ClientTask.download? = []

namespace Client.LeavesDownloads

variable {now : Moment} {client used : Client}

private theorem goTo
    {stage : CallStage}
    (kept : used.definitions = client.definitions)
    (free : (ClientTask.caller stage).awaited? = none) :
    client.LeavesDownloads (used.goTo stage []) :=
  ⟨kept, rfl, free, rfl⟩

private theorem giveFrom
    (kept : used.definitions = client.definitions)
    (query : Query)
    (base : Table Evaluated) :
    client.LeavesDownloads (used.giveFrom query base) := by
  obtain ⟨consultations, warnings, shape⟩ := used.exists_giveFrom query base
  rw [shape]
  exact goTo kept rfl

private theorem useSnapshot
    (kept : used.definitions = client.definitions)
    (query : Query)
    (snapshot : Except Failure (Snapshot (List Prepared))) :
    client.LeavesDownloads (used.useSnapshot now query snapshot) := by
  cases snapshot <;> exact goTo kept rfl

private theorem report
    (message : Message)
    {stage : CallStage}
    (free : (ClientTask.caller stage).awaited? = none) :
    client.LeavesDownloads (client.report now message stage) := by
  obtain ⟨outbox, batches, shape⟩ := client.exists_report now message stage
  rw [shape]
  refine ⟨rfl, rfl, free, ?_⟩
  refine List.filterMap_eq_nil_iff.mpr fun new begins => ?_
  obtain ⟨transport, request, -, rfl⟩ := exists_of_mem_deliveries begins
  rfl

private theorem resolve
    {turn : Turn Client ClientTask}
    {query : Query}
    (resolves : client.Resolves now query turn) :
    client.LeavesDownloads turn := by
  cases resolves with
  | misses | consults =>
      exact goTo rfl rfl
  | uses =>
      exact useSnapshot rfl query _
  | concludes =>
      exact giveFrom rfl query .empty

end Client.LeavesDownloads

/-- The definitions that a download has ended with are kept. -/
private theorem Client.definitions_of_downloadEnd
    {client : Client}
    {ticker : Ticker (List Prepared)}
    (present : client.definitions = some ticker)
    (now : Moment)
    (ended : DownloadEnd) :
    (client.endDownload now ended.refresh ended.result).definitions =
      some
        (ticker.finish now ended.refresh
          (ended.definitions?.map fun definitions => definitions.map Prepared.ofDefinition)) := by
  obtain ⟨refresh, result⟩ := ended
  simp only [endDownload, present, Option.map_some, DownloadEnd.definitions?]
  congr 2
  rcases result with failure | content
  · rfl
  · cases content <;> rfl

namespace ClientTask.Fetches

variable
  {now : Moment}
  {client used : Client}
  {ticker seen : Ticker (List Prepared)}
  {task : ClientTask}
  {turn : Turn Client ClientTask}

private theorem of_leaves
    (present : client.definitions = some ticker)
    (noDownload : task.download? = none)
    (noEnd : task.downloadEnd? now client = none)
    (leaves : client.LeavesDownloads turn) :
    ∃ after,
      turn.shared.definitions = some after ∧ task.Fetches now client ticker turn after := by
  refine ⟨ticker, leaves.definitions.trans present, .rests noEnd ?_ leaves.begun ?_⟩
  · rw [leaves.download, noDownload]
  · intro refresh waits
    cases leaves.awaited.symm.trans waits

/-- A caller that has seen an outcome goes on. -/
private theorem of_seen
    {refresh : Nat}
    {succeeded : Bool}
    {stage : CallStage}
    (saw : ticker.await? refresh = some (seen, succeeded))
    (leaves : ({ client with definitions := some seen } : Client).LeavesDownloads turn)
    (nobody : turn.begun = []) :
    ∃ after,
      turn.shared.definitions = some after ∧
        (ClientTask.caller stage).Fetches now client ticker turn after :=
  ⟨seen, leaves.definitions, .sees saw rfl leaves.download nobody leaves.awaited⟩

private theorem download?_of_downloadTask?
    (online : client.transport.isSome = true)
    (refresh : Nat) :
    (client.downloadTask? refresh).toList.filterMap download? = [refresh] := by
  obtain ⟨transport, found⟩ := Option.isSome_iff_exists.mp online
  simp [Client.downloadTask?, found, download?]

/-- A caller that asks for a download waits for the one in flight, or for a new one. -/
private theorem of_askForDownload
    {before : CallStage}
    {waiting : Nat → CallStage}
    (asks : client.AsksForDownload ticker waiting turn)
    (present : client.definitions = some ticker)
    (online : client.transport.isSome = true)
    (waits : ∀ refresh, (ClientTask.caller (waiting refresh)).awaited? = some refresh) :
    ∃ after,
      turn.shared.definitions = some after ∧
        (ClientTask.caller before).Fetches now client ticker turn after := by
  cases asks with
  | refused =>
      exact of_leaves present rfl rfl (.goTo rfl rfl)
  | joins _ held =>
      refine ⟨ticker, rfl, .rests rfl rfl rfl ?_⟩
      intro other awaited
      exact .inr (held.trans ((waits _).symm.trans awaited))
  | begins notDisposed free =>
      refine ⟨_, rfl, .begins notDisposed free (.inr rfl) rfl rfl ?_ ?_⟩
      · rw [Client.goTo, List.filterMap_append, download?_of_downloadTask? online]
        rfl
      · intro other awaited
        exact Option.some.inj (awaited.symm.trans (waits _))

/-- The loop of the definitions sees an outcome, joins or begins a download, or none of it. -/
private theorem of_loopMoves
    (online : client.transport.isSome = true)
    {loop : TickerLoop}
    {move : TickerLoop.Move (List Prepared)}
    (moves : loop.Moves now ticker move) :
    (ClientTask.definitionsLoop loop).Fetches now client ticker
      ⟨{ client with definitions := some move.ticker }, move.loop.map .definitionsLoop,
        (move.refresh.bind client.downloadTask?).toList⟩ move.ticker := by
  cases moves with
  | sees saw =>
      exact .sees saw rfl rfl rfl rfl
  | ends | sleeps | wakes | joins =>
      refine .rests rfl rfl rfl ?_
      intro refresh awaited
      cases awaited
  | begins inForce free =>
      have notDisposed : ticker.disposed = false := by
        simp only [Ticker.isCancelled, Bool.or_eq_false_iff] at inForce
        exact inForce.1
      refine .begins notDisposed free (.inl rfl) rfl rfl (download?_of_downloadTask? online _) ?_
      intro refresh awaited
      cases awaited

end ClientTask.Fetches

open ClientTask.Fetches Client.LeavesDownloads in
/-- Every turn does one of these. -/
theorem ClientTask.Takes.fetches
    {now : Moment}
    {client : Client}
    {ticker : Ticker (List Prepared)}
    {task : ClientTask}
    {turn : Turn Client ClientTask}
    (taken : task.Takes now client turn)
    (present : client.definitions = some ticker)
    (online : client.transport.isSome = true) :
    ∃ after,
      turn.shared.definitions = some after ∧ task.Fetches now client ticker turn after := by
  cases taken with
  | definitionsLoopMoves found moved =>
      obtain rfl := Option.some.inj (present.symm.trans found)
      exact ⟨_, rfl, of_loopMoves online (.of_move? moved)⟩
  | flushLoopMoves =>
      rename_i move _ _
      refine of_leaves present rfl rfl ⟨rfl, ?_, ?_, ?_⟩
      · cases move.loop <;> rfl
      · cases move.loop <;> rfl
      · cases move.refresh <;> rfl
  | downloadGoes possible =>
      obtain ⟨transport, moved, -, -, rfl⟩ := Client.exists_of_exchange? possible
      refine ⟨ticker, present, .rests ?_ rfl rfl nofun⟩
      simp [downloadEnd?, possible]
  | downloadEnds possible =>
      rename_i refresh exchange _ result
      obtain ⟨transport, moved, -, -, rfl⟩ := Client.exists_of_exchange? possible
      let ended : DownloadEnd := ⟨refresh, result⟩
      have ends : (ClientTask.download refresh exchange).downloadEnd? now client = some ended := by
        simp [downloadEnd?, possible, ended]
      exact
        ⟨_, Client.definitions_of_downloadEnd (by exact present) now ended,
          .ends ends rfl rfl⟩
  | flushFindsNothing takes =>
      obtain ⟨⟨outbox, rfl⟩, -⟩ := Client.exists_of_takeBatch takes
      exact of_leaves present rfl rfl ⟨rfl, rfl, rfl, rfl⟩
  | flushTakes takes =>
      obtain ⟨⟨outbox, rfl⟩, -⟩ := Client.exists_of_takeBatch takes
      exact of_leaves present rfl rfl ⟨rfl, rfl, rfl, rfl⟩
  | flushingGoes possible | flushingEnds possible | deliveryGoes possible
  | deliveryEnds possible =>
      obtain ⟨transport, moved, -, -, rfl⟩ := Client.exists_of_exchange? possible
      exact of_leaves present rfl rfl ⟨rfl, rfl, rfl, rfl⟩
  | callRefused | callerUpdated | callerRequestsNothing =>
      exact of_leaves present rfl rfl (goTo rfl rfl)
  | callEnters =>
      rename_i call _
      cases call <;> exact of_leaves present rfl rfl (goTo rfl rfl)
  | callerUpdates | callerReports =>
      exact of_leaves present rfl rfl (report _ rfl)
  | callerResolves =>
      exact of_leaves present rfl rfl (resolve (client.resolves now _))
  | callerAsks found | callerRequests found =>
      obtain rfl := Option.some.inj (present.symm.trans found)
      exact of_askForDownload (client.asksForDownload _ _) present online fun _ => rfl
  | callerDownloaded found saw =>
      obtain rfl := Option.some.inj (present.symm.trans found)
      refine of_seen saw (useSnapshot rfl _ _) ?_
      unfold Client.useSnapshot
      split <;> rfl
  | callerReported =>
      exact of_leaves present rfl rfl (giveFrom rfl _ _)
  | evaluatingGoes possible | callerFlushingGoes possible | callerFlushed possible =>
      obtain ⟨transport, moved, -, -, rfl⟩ := Client.exists_of_exchange? possible
      exact of_leaves present rfl rfl (goTo rfl rfl)
  | evaluatingEnds possible =>
      obtain ⟨transport, moved, -, -, rfl⟩ := Client.exists_of_exchange? possible
      exact of_leaves present rfl rfl (giveFrom (by exact rfl) _ _)
  | callerDrainsNothing takes | callerDrains takes =>
      obtain ⟨⟨outbox, rfl⟩, -⟩ := Client.exists_of_takeBatch takes
      exact of_leaves present rfl rfl (goTo rfl rfl)
  | callerRefreshed found saw =>
      obtain rfl := Option.some.inj (present.symm.trans found)
      exact of_seen saw (goTo rfl rfl) rfl

/-- No turn disposes of a ticker. -/
theorem ClientTask.Fetches.disposed_eq
    {now : Moment}
    {client : Client}
    {ticker after : Ticker (List Prepared)}
    {task : ClientTask}
    {turn : Turn Client ClientTask}
    (fetches : task.Fetches now client ticker turn after) :
    after.disposed = ticker.disposed := by
  cases fetches with
  | rests | begins =>
      rfl
  | sees saw =>
      rcases Ticker.await?_cases saw with ⟨-, rfl⟩ | ⟨-, rfl⟩ <;> rfl
  | ends =>
      simp only [Ticker.finish]
      split <;> rfl

/-! ## Moves -/

/-- How the ticker of the definitions stands with the downloads along a history. -/
structure Client.Fetching
    (history : List ClientTransition)
    (last : Configuration Client ClientTask)
    (ticker : Ticker (List Prepared)) :
    Prop where
  present : last.shared.definitions = some ticker
  disposed : ticker.disposed = last.shared.disposed
  orderly : ticker.Orderly
  /-- Downloads are carried out for the slot only. -/
  carried : last.collect ClientTask.download? = ticker.running?.toList
  /-- Whoever waits, waits for a refresh that has begun. -/
  known :
    ∀ {place task refresh},
      last.task? place = some task →
      task.awaited? = some refresh →
      refresh < ticker.refreshes.length
  /-- The outcome of a refresh is whether its download gave definitions. -/
  outcome :
    ∀ {refresh succeeded},
      ticker.outcome? refresh = some succeeded ↔
        ∃ ended ∈ downloadEnds history,
          ended.refresh = refresh ∧ ended.definitions?.isSome = succeeded
  distinct : ((downloadEnds history).map (·.refresh)).Nodup
  /-- The definitions kept are those of the last success. -/
  kept :
    ticker.last.map (·.1) =
      (latestDefinitions? history).map fun definitions => definitions.map Prepared.ofDefinition

namespace Client.Fetching

variable
  {equipment : Client.Equipment}
  {history : List ClientTransition}
  {configuration next : Configuration Client ClientTask}
  {ticker after : Ticker (List Prepared)}
  {move : Move ClientAction}
  {place : Nat}
  {task : ClientTask}
  {turn : Turn Client ClientTask}

/-- A download that is carried out is the one that runs in the slot. -/
theorem running?_of_download?
    (fetching : Fetching history configuration ticker)
    (found : configuration.task? place = some task)
    {refresh : Nat}
    (carries : task.download? = some refresh) :
    ticker.running? = some refresh := by
  have member : refresh ∈ configuration.collect ClientTask.download? :=
    Configuration.mem_collect_iff.mpr ⟨place, task, found, carries⟩
  rw [fetching.carried] at member
  simpa using member

/-- The running refresh has not ended before. -/
private theorem refresh_ne_of_running?
    (fetching : Fetching history configuration ticker)
    {refresh : Nat}
    (running : ticker.running? = some refresh) :
    ∀ ended ∈ downloadEnds history, ended.refresh ≠ refresh := by
  rintro ended member rfl
  have outcome := fetching.outcome.mpr ⟨ended, member, rfl, rfl⟩
  have runs := (Ticker.running?_eq_some_iff.mp running).2
  simp [Ticker.outcome?, runs, RefreshStatus.outcome?] at outcome

/-- A turn changes the ticker in one of the known ways. -/
private theorem change
    (fetching : Fetching history configuration ticker)
    (found : configuration.task? place = some task)
    (fetches : task.Fetches configuration.now configuration.shared ticker turn after) :
    ticker.Change configuration.now after := by
  cases fetches with
  | rests =>
      exact .unchanged
  | sees saw =>
      exact .seen saw
  | begins notDisposed free loop =>
      rcases loop with rfl | rfl
      · exact .begun notDisposed free
      · exact .forced notDisposed free
  | ends isEnd =>
      have carries := ClientTask.download?_of_downloadEnd? isEnd
      exact .finished _ (fetching.running?_of_download? found carries)

/-- After a turn, downloads are carried out for the slot only. -/
private theorem carried_update
    (fetching : Fetching history configuration ticker)
    (found : configuration.task? place = some task)
    (fetches : task.Fetches configuration.now configuration.shared ticker turn after) :
    (configuration.update place turn).collect ClientTask.download? = after.running?.toList := by
  have before := fetching.carried
  cases fetches with
  | rests _ kept begun =>
      rw [Configuration.collect_update_of_kept found kept, before, begun, List.append_nil]
  | sees saw noDownload left nobody =>
      rw [Configuration.collect_update_of_kept found (left.trans noDownload.symm), before, nobody,
        fetching.orderly.running?_await? saw]
      exact List.append_nil _
  | begins _ free _ noDownload left begun =>
      have idle : ticker.running? = none := by
        rw [fetching.orderly.inFlight?_eq] at free
        simp [Ticker.running?, free]
      rw [Configuration.collect_update_of_kept found (left.trans noDownload.symm), before, idle,
        begun]
      exact congrArg Option.toList (Ticker.running?_begin ticker).symm
  | ends isEnd none nobody =>
      have carries := ClientTask.download?_of_downloadEnd? isEnd
      have running := fetching.running?_of_download? found carries
      obtain ⟨left, right, shape, shapeAfter⟩ :=
        Configuration.collect_update found turn ClientTask.download?
      rw [shape, running, carries] at before
      -- The download that ends is the only one that is carried out.
      have alone : left = [] ∧ right = [] := by
        have length := congrArg List.length before
        simp only [Option.toList_some, List.length_append, List.length_singleton] at length
        exact ⟨List.eq_nil_of_length_eq_zero (by omega),
          List.eq_nil_of_length_eq_zero (by omega)⟩
      rw [shapeAfter, fetching.orderly.running?_finish running, alone.1, alone.2, none, nobody]
      rfl

/-- After a turn, whoever waits, waits for a refresh that has begun. -/
private theorem known_update
    (fetching : Fetching history configuration ticker)
    (found : configuration.task? place = some task)
    (equips : configuration.shared.Equips turn)
    (fetches : task.Fetches configuration.now configuration.shared ticker turn after)
    {other : Nat}
    {left : ClientTask}
    {refresh : Nat}
    (foundAfter : (configuration.update place turn).task? other = some left)
    (waits : left.awaited? = some refresh) :
    refresh < after.refreshes.length := by
  have longer := (fetching.change found fetches).length_refreshes_le fetching.orderly
  rcases Configuration.task?_update_cases found foundAfter with
    ⟨-, leaves⟩ | ⟨-, before⟩ | begins
  · have waitsAfter : turn.task.bind ClientTask.awaited? = some refresh :=
      Option.bind_eq_some_iff.mpr ⟨left, leaves, waits⟩
    cases fetches with
    | rests _ _ _ waiting =>
        rcases waiting waitsAfter with same | inFlight
        · exact fetching.known found same
        · rw [fetching.orderly.inFlight?_eq] at inFlight
          exact fetching.orderly.lt_length_of_slot inFlight
    | sees _ _ _ _ nobody =>
        cases nobody.symm.trans waitsAfter
    | begins _ _ _ _ _ _ waiting =>
        simp [waiting waitsAfter, Ticker.begin]
    | ends _ none =>
        cases none.symm.trans leaves
  · exact Nat.lt_of_lt_of_le (fetching.known before waits) longer
  · -- Only callers wait, and none of them begins in a turn.
    cases left with
    | caller stage =>
        exact absurd rfl (equips.background begins stage)
    | definitionsLoop | flushLoop | download | flush | flushing | delivery =>
        cases waits

/-- The outcomes after a turn. -/
private theorem outcome_update
    (fetching : Fetching history configuration ticker)
    (found : configuration.task? place = some task)
    (fetches : task.Fetches configuration.now configuration.shared ticker turn after)
    {refresh : Nat}
    {succeeded : Bool} :
    after.outcome? refresh = some succeeded ↔
      ∃ ended ∈
          downloadEnds history ++
            (task.downloadEnd? configuration.now configuration.shared).toList,
        ended.refresh = refresh ∧ ended.definitions?.isSome = succeeded := by
  cases fetches with
  | rests noEnd =>
      simpa [noEnd] using fetching.outcome
  | sees saw noDownload =>
      rw [Ticker.outcome?_await? saw, ClientTask.downloadEnd?_eq_none noDownload]
      simpa using fetching.outcome
  | @begins loop _ _ _ noDownload =>
      have same :
          Ticker.outcome? { ticker.begin with loop } refresh = ticker.outcome? refresh :=
        Ticker.outcome?_begin ticker refresh
      rw [ClientTask.downloadEnd?_eq_none noDownload, same]
      simpa using fetching.outcome
  | @ends ended isEnd =>
      have carries := ClientTask.download?_of_downloadEnd? isEnd
      have running := fetching.running?_of_download? found carries
      have known := fetching.orderly.lt_length_of_slot (Ticker.running?_eq_some_iff.mp running).1
      have unended := fetching.refresh_ne_of_running? running
      rw [Ticker.outcome?_finish ticker known, isEnd]
      by_cases same : refresh = ended.refresh
      · subst same
        simp only [↓reduceIte, Option.isSome_map, Option.some.injEq, Option.toList_some,
          List.mem_append, List.mem_singleton]
        constructor
        · intro outcome
          exact ⟨ended, .inr rfl, rfl, outcome⟩
        · rintro ⟨other, earlier | rfl, sameRefresh, outcome⟩
          · exact absurd sameRefresh (unended other earlier)
          · exact outcome
      · rw [if_neg same, fetching.outcome]
        simp only [Option.toList_some, List.mem_append, List.mem_singleton]
        constructor
        · rintro ⟨other, earlier, outcome⟩
          exact ⟨other, .inl earlier, outcome⟩
        · rintro ⟨other, earlier | rfl, sameRefresh, outcome⟩
          · exact ⟨other, earlier, sameRefresh, outcome⟩
          · exact absurd sameRefresh.symm same

/-- No download ends twice. -/
private theorem distinct_update
    (fetching : Fetching history configuration ticker)
    (found : configuration.task? place = some task) :
    ((downloadEnds history ++
      (task.downloadEnd? configuration.now configuration.shared).toList).map
        (·.refresh)).Nodup := by
  cases ends : task.downloadEnd? configuration.now configuration.shared with
  | none =>
      simpa using fetching.distinct
  | some ended =>
      have carries := ClientTask.download?_of_downloadEnd? ends
      have running := fetching.running?_of_download? found carries
      have unended := fetching.refresh_ne_of_running? running
      rw [Option.toList_some, List.map_append, List.map_singleton]
      refine List.nodup_append.mpr ⟨fetching.distinct, List.nodup_singleton _, ?_⟩
      intro refresh earlier other newest
      obtain ⟨before, member, rfl⟩ := List.mem_map.mp earlier
      rw [List.mem_singleton.mp newest]
      exact unended before member

/-- The definitions that are kept after a turn. -/
private theorem kept_update
    (fetching : Fetching history configuration ticker)
    (fetches : task.Fetches configuration.now configuration.shared ticker turn after) :
    after.last.map (·.1) =
      (((task.downloadEnd? configuration.now configuration.shared).bind
        DownloadEnd.definitions?).or (latestDefinitions? history)).map
          fun definitions => definitions.map Prepared.ofDefinition := by
  have kept := fetching.kept
  cases fetches with
  | rests noEnd =>
      simpa [noEnd] using kept
  | sees saw noDownload =>
      rw [Ticker.last_await? saw, ClientTask.downloadEnd?_eq_none noDownload]
      simpa using kept
  | begins _ _ _ noDownload =>
      rw [ClientTask.downloadEnd?_eq_none noDownload]
      simpa [Ticker.begin] using kept
  | @ends ended isEnd =>
      rw [Ticker.last_finish, isEnd]
      cases succeeded : ended.definitions? with
      | none =>
          simpa [succeeded] using kept
      | some definitions =>
          simp [succeeded]

/-- A turn keeps the account of downloads. -/
private theorem update
    (fetching : Fetching history configuration ticker)
    (equipped : IsEquipped equipment configuration)
    (online : configuration.shared.transport.isSome = true)
    (found : configuration.task? place = some task)
    (taken : task.Takes configuration.now configuration.shared turn) :
    ∃ after,
      Fetching
        (history ++ [⟨configuration, .turn place, configuration.update place turn⟩])
        (configuration.update place turn) after := by
  obtain ⟨after, present, fetches⟩ := taken.fetches fetching.present online
  have equips := taken.equips (equipped.kept ▸ equipped.tasks found)
  have ends :
      ClientTransition.downloadEnd?
          ⟨configuration, .turn place, configuration.update place turn⟩ =
        task.downloadEnd? configuration.now configuration.shared := by
    simp [ClientTransition.downloadEnd?, found]
  refine ⟨after, ?_⟩
  constructor
  case present =>
    exact present
  case disposed =>
    exact (fetches.disposed_eq.trans fetching.disposed).trans equips.kept.disposed.symm
  case orderly =>
    exact (fetching.change found fetches).orderly fetching.orderly
  case carried =>
    exact fetching.carried_update found fetches
  case known =>
    exact fetching.known_update found equips fetches
  case outcome =>
    rw [downloadEnds_snoc, ends]
    exact fetching.outcome_update found fetches
  case distinct =>
    rw [downloadEnds_snoc, ends]
    exact fetching.distinct_update found
  case kept =>
    rw [latestDefinitions?_snoc, ends]
    exact fetching.kept_update fetches

/-- A move other than a turn, which begins no downloads, keeps the account of them. -/
private theorem of_sameTicker
    (fetching : Fetching history configuration ticker)
    (present : next.shared.definitions = configuration.shared.definitions)
    (disposed : next.shared.disposed = configuration.shared.disposed)
    (sameDownloads :
      next.collect ClientTask.download? = configuration.collect ClientTask.download?)
    (known :
      ∀ {place task refresh},
        next.task? place = some task →
        task.awaited? = some refresh →
        configuration.task? place = some task)
    (noEnd : ClientTransition.downloadEnd? ⟨configuration, move, next⟩ = none) :
    Fetching (history ++ [⟨configuration, move, next⟩]) next ticker where
  present := present.trans fetching.present
  disposed := fetching.disposed.trans disposed.symm
  orderly := fetching.orderly
  carried := sameDownloads.trans fetching.carried
  known found waits := fetching.known (known found waits) waits
  outcome := by
    rw [downloadEnds_snoc, noEnd, Option.toList_none, List.append_nil]
    exact fetching.outcome
  distinct := by
    rw [downloadEnds_snoc, noEnd, Option.toList_none, List.append_nil]
    exact fetching.distinct
  kept := by
    rw [latestDefinitions?_snoc, noEnd]
    exact fetching.kept

/-- Disposal keeps the account of downloads. -/
private theorem dispose
    (fetching : Fetching history configuration ticker) :
    Fetching
      (history ++
        [⟨configuration, .intervene .dispose,
          { configuration with shared := configuration.shared.dispose }⟩])
      { configuration with shared := configuration.shared.dispose } ticker.dispose where
  present := by
    simp [Client.dispose, fetching.present]
  disposed := rfl
  orderly := ⟨fetching.orderly.newest, fetching.orderly.unpublished, fetching.orderly.settled⟩
  carried := fetching.carried
  known found waits := fetching.known found waits
  outcome := by
    rw [downloadEnds_snoc]
    exact (List.append_nil (downloadEnds history)).symm ▸ fetching.outcome
  distinct := by
    rw [downloadEnds_snoc]
    exact (List.append_nil (downloadEnds history)).symm ▸ fetching.distinct
  kept := by
    rw [latestDefinitions?_snoc]
    exact fetching.kept

/-- Every move keeps the account of downloads. -/
private theorem step
    (fetching : Fetching history configuration ticker)
    (equipped : IsEquipped equipment configuration)
    (online : configuration.shared.transport.isSome = true)
    (moved : ClientMove configuration move next) :
    ∃ after, Fetching (history ++ [⟨configuration, move, next⟩]) next after := by
  cases moved with
  | turn found taken =>
      exact fetching.update equipped online found taken
  | wait | idle =>
      exact ⟨ticker, fetching.of_sameTicker rfl rfl rfl (fun found _ => found) rfl⟩
  | call =>
      rename_i called
      refine ⟨ticker, fetching.of_sameTicker rfl rfl ?_ ?_ rfl⟩
      · exact
          Configuration.collect_append_of_none (List.forall_mem_singleton.mpr rfl) configuration _
      · intro place task refresh found waits
        rcases Configuration.task?_snoc_cases found with before | rfl
        · exact before
        · cases waits
  | report _ _ _ queued =>
      obtain ⟨outbox, rfl⟩ := exists_of_enqueue queued
      refine ⟨ticker, fetching.of_sameTicker rfl rfl ?_ ?_ rfl⟩
      · refine Configuration.collect_append_of_none (fun new begins => ?_) configuration _
        obtain ⟨transport, request, -, rfl⟩ := exists_of_mem_deliveries begins
        rfl
      · intro place task refresh found waits
        rcases Configuration.task?_append_cases found with before | begins
        · exact Option.join_eq_some_iff.mpr before
        · obtain ⟨transport, request, -, rfl⟩ := exists_of_mem_deliveries begins
          cases waits
  | dispose =>
      exact ⟨ticker.dispose, fetching.dispose⟩

/-- A new client has not downloaded anything. -/
private theorem fresh
    {settings : Settings}
    {surroundings : Surroundings}
    {client : Client}
    (created : create settings surroundings = .ok client)
    (isLocal : settings.mode = .localEvaluation) :
    ∃ ticker, Fetching [] client.fresh ticker := by
  obtain ⟨transport, -, rfl⟩ := eq_of_create created
  refine ⟨{ name := "features", interval := settings.refreshInterval }, ?_⟩
  constructor
  case present =>
    simp [Client.fresh, createDefinitions, isLocal]
  case disposed =>
    rfl
  case orderly =>
    exact .initial _ _
  case carried =>
    simp [Client.fresh, Configuration.collect, firstLoops, createDefinitions, createFlushes,
      isLocal, ClientTask.download?, Ticker.running?]
  case known =>
    intro place task refresh found waits
    rcases isLoop_of_fresh found with rfl | rfl <;> cases waits
  case outcome =>
    simp [downloadEnds, Ticker.outcome?, Ticker.status, RefreshStatus.outcome?]
  case distinct =>
    exact List.nodup_nil
  case kept =>
    rfl

/-- Downloads are accounted for along every run of a client that evaluates definitions. -/
theorem of_run
    {settings : Settings}
    {surroundings : Surroundings}
    {client : Client}
    (created : create settings surroundings = .ok client)
    (isLocal : settings.mode = .localEvaluation)
    (run : Run system client.fresh history configuration) :
    ∃ ticker, Fetching history configuration ticker := by
  induction run with
  | start =>
      exact fresh created isLocal
  | step run possible inductionHypothesis =>
      obtain ⟨ticker, fetching⟩ := inductionHypothesis
      have equipped := IsEquipped.of_run created run
      have online := equipped.isSome_transport (by simp [isLocal])
      exact fetching.step equipped online (.of_after? possible)

end Client.Fetching

end FeatureFlags
