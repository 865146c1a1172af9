import FeatureFlags.Proofs.Client.Equipment
import FeatureFlags.Proofs.Ticker.Slot

namespace FeatureFlags

/-!
# Callers

How callers go from one stage to the next, one rule for each way, and what follows for the
place of a call: from its beginning on it is held by a caller that serves this call.
-/

open FeatureFlags.Feature (Evaluated Prepared)
open FeatureFlags.Telemetry (Message)
open FeatureFlags.Transport (Content Exchange Request)

/-! ## Stages -/

/-- Whether a caller is about to turn to the definitions. -/
def CallStage.looks : CallStage → Bool
  | .resolving _ => true
  | .asking _ => true
  | .downloading _ _ => true
  | .requesting => true
  | _ => false

/-- The ways of a caller, by the client before and after its turn. -/
inductive CallStage.Proceeds
    (now : Moment)
    (client after : Client) :
    CallStage → CallStage → Prop where
  | refused
      {call : Call} :
      client.disposed = true →
      Proceeds now client after (.begun call) (.answered (.error (.disposed "client")))
  | enters
      {call : Call} :
      client.disposed = false →
      Proceeds now client after (.begun call) call.entry
  | updates
      {update : Message}
      {rest : List Message}
      {query : Query} :
      Proceeds now client after (.updating (update :: rest) query) (.updating rest query)
  | updated
      {query : Query} :
      Proceeds now client after (.updating [] query) (.resolving query)
  /-- Whoever turns to definitions that have been disposed of is refused. -/
  | shut
      {stage : CallStage}
      {ticker : Ticker (List Prepared)} :
      stage.looks = true →
      client.definitions = some ticker →
      ticker.disposed = true →
      Proceeds now client after stage (.answered (.error (.disposed ticker.name)))
  | resolvesOffline
      {query : Query} :
      client.settings.mode = .offline →
      Proceeds now client after
        (.resolving query)
        (.answered (client.conclude query .empty).2)
  | resolvesRemotely
      {query : Query}
      {request : Request} :
      client.settings.mode = .remoteEvaluation →
      Proceeds now client after (.resolving query) (.evaluating query { request })
  | misses
      {query : Query} :
      Proceeds now client after (.resolving query) (.asking query)
  | asks
      {query : Query}
      {refresh : Nat} :
      Proceeds now client after (.asking query) (.downloading query refresh)
  /-- The definitions are evaluated, when they are at hand or after a download. -/
  | evaluates
      {stage : CallStage}
      {query : Query}
      {ticker : Ticker (List Prepared)}
      {reports : List Message} :
      stage = .resolving query ∨ (∃ refresh, stage = .downloading query refresh) →
      client.definitions = some ticker →
      Proceeds now client after
        stage
        (.reporting reports query
          (Client.byKey
            (Client.evaluateAll query.fields (client.wallClock now)
              ((ticker.last.map (·.1)).getD []))))
  | reports
      {report : Message}
      {rest : List Message}
      {query : Query}
      {base : Table Evaluated} :
      Proceeds now client after
        (.reporting (report :: rest) query base)
        (.reporting rest query base)
  | reported
      {query : Query}
      {base : Table Evaluated} :
      Proceeds now client after
        (.reporting [] query base)
        (.answered (client.conclude query base).2)
  | evaluating
      {query : Query}
      {exchange next : Exchange}
      {moved : Client} :
      client.exchange? now exchange = some (moved, .going next) →
      Proceeds now client after (.evaluating query exchange) (.evaluating query next)
  | evaluated
      {query : Query}
      {exchange : Exchange}
      {moved : Client}
      {result : Except Failure Content} :
      client.exchange? now exchange = some (moved, .ended result) →
      Proceeds now client after
        (.evaluating query exchange)
        (.answered (client.conclude query (Client.remoteBase query.fields result)).2)
  | drainsNothing :
      Proceeds now client after .draining (.answered (.ok .flushed))
  | drains
      {request : Request} :
      Proceeds now client after .draining (.flushing { request })
  | flushing
      {exchange next : Exchange}
      {moved : Client} :
      client.exchange? now exchange = some (moved, .going next) →
      Proceeds now client after (.flushing exchange) (.flushing next)
  | flushed
      {exchange : Exchange}
      {moved : Client}
      {result : Except Failure Content} :
      client.exchange? now exchange = some (moved, .ended result) →
      Proceeds now client after (.flushing exchange) (.answered (.ok .flushed))
  | requestsNothing :
      client.settings.mode ≠ .localEvaluation →
      Proceeds now client after .requesting (.answered (.ok (.refreshed false)))
  /-- The download that is in flight from then on is shared. -/
  | requests
      {refresh : Nat}
      {ticker : Ticker (List Prepared)} :
      after.definitions = some ticker →
      ticker.inFlight? = some refresh →
      Proceeds now client after .requesting (.refreshing refresh)
  | refreshed
      {refresh : Nat}
      {ticker : Ticker (List Prepared)}
      {succeeded : Bool} :
      client.definitions = some ticker →
      ticker.outcome? refresh = some succeeded →
      Proceeds now client after
        (.refreshing refresh)
        (.answered (.ok (.refreshed succeeded)))

namespace Ticker

variable {α : Type} {ticker : Ticker α}

/-- A ticker that refuses a look has been disposed of. -/
theorem refused_of_snapshot
    {now : Moment}
    {failure : Failure}
    (refuses : ticker.snapshot now = .error failure) :
    ticker.disposed = true ∧ failure = .disposed ticker.name := by
  unfold snapshot at refuses
  split at refuses
  · rename_i disposed
    cases refuses
    exact ⟨disposed, rfl⟩
  · cases refuses

/-- A look that is not refused shows the value. -/
theorem value_of_snapshot
    {now : Moment}
    {snapshot : Snapshot α}
    (shows : ticker.snapshot now = .ok snapshot) :
    snapshot.value = ticker.last.map (·.1) := by
  unfold Ticker.snapshot at shows
  split at shows
  · cases shows
  · cases shows
    rfl

end Ticker

namespace CallStage.Proceeds

variable
  {now : Moment}
  {client used : Client}
  {stage next : CallStage}
  {query : Query}
  {ticker seen : Ticker (List Prepared)}

/-- An equipped client that has neither definitions nor a transport for its mode is offline. -/
private theorem mode_of_bare
    {settings : Settings}
    {surroundings : Surroundings}
    (equipped : client.equipment = .of settings surroundings)
    (noDefinitions : client.settings.mode = .localEvaluation → client.definitions = none)
    (noTransport : client.settings.mode = .remoteEvaluation → client.transport = none) :
    client.settings.mode = .offline := by
  have mode : client.settings.mode = settings.mode :=
    congrArg (fun equipment => equipment.settings.mode) equipped
  have hasDefinitions : client.definitions.isSome = (settings.mode == .localEvaluation) :=
    congrArg Client.Equipment.hasDefinitions equipped
  have hasTransport : client.transport.isSome = (settings.mode != .offline) :=
    congrArg Client.Equipment.hasTransport equipped
  cases isMode : client.settings.mode with
  | offline =>
      rfl
  | localEvaluation =>
      simp [noDefinitions isMode, ← mode, isMode] at hasDefinitions
  | remoteEvaluation =>
      simp [noTransport isMode, ← mode, isMode] at hasTransport

/-- The ways from a snapshot of the definitions. -/
private theorem of_useSnapshot
    (isQuery : stage = .resolving query ∨ ∃ refresh, stage = .downloading query refresh)
    (present : client.definitions = some ticker)
    (disposed : seen.disposed = ticker.disposed)
    (name : seen.name = ticker.name)
    (last : seen.last = ticker.last)
    (clock : used.wallClock = client.wallClock) :
    ∃ next,
      (used.useSnapshot now query (seen.snapshot now)).task = some (.caller next) ∧
        stage.Proceeds now client (used.useSnapshot now query (seen.snapshot now)).shared
          next := by
  cases shows : seen.snapshot now with
  | error failure =>
      obtain ⟨isDisposed, rfl⟩ := Ticker.refused_of_snapshot shows
      have looks : stage.looks = true := by
        rcases isQuery with rfl | ⟨refresh, rfl⟩ <;> rfl
      exact ⟨_, rfl, name ▸ .shut looks present (disposed ▸ isDisposed)⟩
  | ok snapshot =>
      refine ⟨_, rfl, ?_⟩
      rw [Ticker.value_of_snapshot shows, last, clock]
      exact .evaluates isQuery present

/-- The ways from where a caller sees where the features come from. -/
private theorem of_resolve
    {turn : Turn Client ClientTask}
    {settings : Settings}
    {surroundings : Surroundings}
    (resolves : client.Resolves now query turn)
    (equipped : client.equipment = .of settings surroundings) :
    ∃ next,
      turn.task = some (.caller next) ∧
        (CallStage.resolving query).Proceeds now client turn.shared next := by
  cases resolves with
  | misses =>
      exact ⟨_, rfl, .misses⟩
  | uses _ present =>
      exact of_useSnapshot (.inl rfl) present rfl rfl rfl rfl
  | consults isRemote =>
      exact ⟨_, rfl, .resolvesRemotely isRemote⟩
  | concludes noDefinitions noTransport =>
      have offline : client.settings.mode = .offline :=
        mode_of_bare equipped noDefinitions noTransport
      obtain ⟨consultations, warnings, shape⟩ := client.exists_giveFrom query .empty
      rw [shape]
      exact ⟨_, rfl, .resolvesOffline offline⟩

/-- The ways of whoever asks for a download. -/
private theorem of_askForDownload
    {turn : Turn Client ClientTask}
    {waiting : Nat → CallStage}
    (asks : client.AsksForDownload ticker waiting turn)
    (looks : stage.looks = true)
    (present : client.definitions = some ticker)
    (waits :
      ∀ {asked refresh after},
        asked.inFlight? = some refresh →
        after.definitions = some asked →
        stage.Proceeds now client after (waiting refresh)) :
    ∃ next,
      turn.task = some (.caller next) ∧ stage.Proceeds now client turn.shared next := by
  cases asks with
  | refused disposed =>
      exact ⟨_, rfl, .shut looks present disposed⟩
  | joins _ held =>
      exact ⟨_, rfl, waits held rfl⟩
  | begins =>
      have begun :
          ({ ticker.begin with loop := ticker.loop + 1 } : Ticker (List Prepared)).inFlight? =
            some ticker.refreshes.length :=
        ticker.inFlight?_begin
      exact ⟨_, rfl, waits begun rfl⟩

private theorem of_giveFrom
    {base : Table Evaluated}
    (settings : used.settings = client.settings)
    (proceeds :
      ∀ after, stage.Proceeds now client after (.answered (client.conclude query base).2)) :
    ∃ next,
      (used.giveFrom query base).task = some (.caller next) ∧
        stage.Proceeds now client (used.giveFrom query base).shared next := by
  have same : (used.conclude query base).2 = (client.conclude query base).2 := by
    rw [Client.conclude_snd, Client.conclude_snd, settings]
  obtain ⟨consultations, warnings, shape⟩ := used.exists_giveFrom query base
  rw [shape]
  exact ⟨_, rfl, same ▸ proceeds _⟩

end CallStage.Proceeds

open CallStage.Proceeds in
/-- Every turn of a caller is one of these ways. -/
theorem ClientTask.Takes.proceeds
    {now : Moment}
    {client : Client}
    {stage : CallStage}
    {turn : Turn Client ClientTask}
    {settings : Settings}
    {surroundings : Surroundings}
    (taken : (ClientTask.caller stage).Takes now client turn)
    (equipped : client.equipment = .of settings surroundings) :
    ∃ next, turn.task = some (.caller next) ∧ stage.Proceeds now client turn.shared next := by
  cases taken with
  | callRefused disposed =>
      exact ⟨_, rfl, .refused disposed⟩
  | callEnters notDisposed =>
      exact ⟨_, rfl, .enters notDisposed⟩
  | callerUpdates =>
      exact ⟨_, rfl, .updates⟩
  | callerUpdated =>
      exact ⟨_, rfl, .updated⟩
  | callerResolves =>
      exact of_resolve (client.resolves now _) equipped
  | callerAsks present =>
      exact of_askForDownload (client.asksForDownload _ _) rfl present fun _ _ => .asks
  | callerDownloaded present saw =>
      rcases Ticker.await?_cases saw with ⟨-, rfl⟩ | ⟨-, rfl⟩ <;>
        exact of_useSnapshot (.inr ⟨_, rfl⟩) present rfl rfl rfl rfl
  | callerReports =>
      exact ⟨_, rfl, .reports⟩
  | callerReported =>
      exact of_giveFrom rfl fun _ => .reported
  | evaluatingGoes possible =>
      exact ⟨_, rfl, .evaluating possible⟩
  | evaluatingEnds possible =>
      obtain ⟨transport, after, -, -, rfl⟩ := Client.exists_of_exchange? possible
      exact of_giveFrom (by exact rfl) fun _ => .evaluated possible
  | callerDrainsNothing =>
      exact ⟨_, rfl, .drainsNothing⟩
  | callerDrains =>
      exact ⟨_, rfl, .drains⟩
  | callerFlushingGoes possible =>
      exact ⟨_, rfl, .flushing possible⟩
  | callerFlushed possible =>
      exact ⟨_, rfl, .flushed possible⟩
  | callerRequestsNothing absent =>
      have hasDefinitions := congrArg Client.Equipment.hasDefinitions equipped
      have mode := congrArg (fun equipment => equipment.settings.mode) equipped
      refine ⟨_, rfl, .requestsNothing fun isLocal => ?_⟩
      simp only [Client.equipment, Client.Equipment.of] at hasDefinitions mode
      simp [absent, ← mode, isLocal] at hasDefinitions
  | callerRequests present =>
      exact
        of_askForDownload (client.asksForDownload _ _) rfl present fun inFlight after =>
          .requests after inFlight
  | callerRefreshed present saw =>
      exact ⟨_, rfl, .refreshed present (Ticker.outcome?_of_await? saw)⟩

/-- Only callers go on as callers. -/
theorem ClientTask.Takes.exists_caller
    {now : Moment}
    {client : Client}
    {task : ClientTask}
    {turn : Turn Client ClientTask}
    {stage : CallStage}
    (taken : task.Takes now client turn)
    (left : turn.task = some (.caller stage)) :
    ∃ earlier, task = .caller earlier := by
  cases task with
  | caller earlier =>
      exact ⟨earlier, rfl⟩
  | definitionsLoop | flushLoop =>
      cases taken
      obtain ⟨loop, -, same⟩ := Option.map_eq_some_iff.mp left
      cases same
  | download | flush | flushing | delivery =>
      cases taken <;> cases left

/-! ## Calls -/

/-- The query of a call for features. -/
def Call.query? : Call → Option Query
  | .features context => some { context }
  | .feature key context _ => some { context, wanted := some key }
  | .flush => none
  | .refresh => none

/-- Whether a caller is at a stage of a call. -/
def CallStage.Serves (call : Call) : CallStage → Prop
  | .begun called => called = call
  | .updating _ query => call.query? = some query
  | .resolving query => call.query? = some query
  | .asking query => call.query? = some query
  | .downloading query _ => call.query? = some query
  | .reporting _ query _ => call.query? = some query
  | .evaluating query _ => call.query? = some query
  | .draining => call = .flush
  | .flushing _ => call = .flush
  | .requesting => call = .refresh
  | .refreshing _ => call = .refresh
  | .answered _ => True

/-- A caller stays with its call. -/
theorem CallStage.Proceeds.serves
    {now : Moment}
    {client after : Client}
    {stage next : CallStage}
    {call : Call}
    (proceeds : stage.Proceeds now client after next)
    (serves : stage.Serves call) :
    next.Serves call := by
  cases proceeds with
  | refused | shut | resolvesOffline | reported | evaluated | drainsNothing | flushed
  | requestsNothing | refreshed =>
      trivial
  | enters =>
      cases serves
      cases call <;> rfl
  | updates | updated | resolvesRemotely | misses | asks | reports | evaluating | drains
  | flushing | requests =>
      exact serves
  | evaluates isQuery =>
      rcases isQuery with rfl | ⟨refresh, rfl⟩ <;> exact serves

namespace Client

variable
  {settings : Settings}
  {surroundings : Surroundings}
  {client : Client}
  {history earlier more : List ClientTransition}
  {begins : ClientTransition}
  {configuration middle next last : Configuration Client ClientTask}
  {move : Move ClientAction}
  {place : Nat}
  {stage : CallStage}
  {call : Call}

/-- A caller is left at its stage by a move, or its turn takes it to the next one. -/
theorem proceeds_of_after?
    (equipped : IsEquipped (.of settings surroundings) configuration)
    (possible : configuration.after? system move = some next)
    (found : configuration.task? place = some (.caller stage)) :
    next.task? place = some (.caller stage) ∨
    ∃ following,
      move = .turn place ∧
        next.task? place = some (.caller following) ∧
        stage.Proceeds configuration.now configuration.shared next.shared following := by
  rcases Configuration.task?_after?_cases possible found with same | ⟨turn, turns, taken, rfl⟩
  · exact .inl same
  · have takes : (ClientTask.caller stage).Takes configuration.now configuration.shared turn :=
      .of_turn taken
    obtain ⟨following, left, proceeds⟩ := takes.proceeds equipped.kept
    exact
      .inr ⟨following, turns, (Configuration.task?_update_self found turn).trans left, proceeds⟩

/-- A caller was there before a move, or has just come, or its turn has taken it to its stage. -/
theorem caller_cases
    (equipped : IsEquipped (.of settings surroundings) configuration)
    (possible : configuration.after? system move = some next)
    (found : next.task? place = some (.caller stage)) :
    configuration.task? place = some (.caller stage) ∨
    (∃ call,
      move = .intervene (.call call) ∧
        place = configuration.tasks.length ∧
        stage = .begun call) ∨
    ∃ earlier,
      move = .turn place ∧
        configuration.task? place = some (.caller earlier) ∧
        earlier.Proceeds configuration.now configuration.shared next.shared stage := by
  cases ClientMove.of_after? possible with
  | turn present taken =>
      rcases Configuration.task?_update_cases present found with
        ⟨rfl, left⟩ | ⟨-, before⟩ | begins
      · obtain ⟨earlier, rfl⟩ := taken.exists_caller left
        obtain ⟨following, leaves, proceeds⟩ := taken.proceeds equipped.kept
        cases Option.some.inj (leaves.symm.trans left)
        exact .inr (.inr ⟨earlier, rfl, present, proceeds⟩)
      · exact .inl before
      · have equips := taken.equips (equipped.kept ▸ equipped.tasks present)
        exact absurd rfl (equips.background begins stage)
  | wait | idle | dispose =>
      exact .inl found
  | @call called =>
      have begun : [some (ClientTask.caller (.begun called))] =
        [ClientTask.caller (.begun called)].map some := rfl
      rw [begun, Configuration.task?_append] at found
      split at found
      · exact .inl found
      · rename_i beyond
        obtain ⟨index, same⟩ := Nat.exists_eq_add_of_le (Nat.not_lt.mp beyond)
        subst same
        rw [Nat.add_sub_cancel_left] at found
        cases index with
        | zero =>
            cases found
            exact .inr (.inl ⟨called, rfl, rfl, rfl⟩)
        | succ index =>
            cases found
  | report _ _ _ queued =>
      rcases Configuration.task?_append_cases found with before | begins
      · exact .inl (Option.join_eq_some_iff.mpr before)
      · obtain ⟨transport, request, -, same⟩ := exists_of_mem_deliveries begins
        cases same

/-- A caller serves its call wherever a run leads. -/
theorem serves_of_run
    (created : create settings surroundings = .ok client)
    (runBefore : Run system client.fresh history middle)
    (run : Run system middle more last)
    (found : middle.task? place = some (.caller stage))
    (serves : stage.Serves call) :
    ∃ reached, last.task? place = some (.caller reached) ∧ reached.Serves call := by
  induction run with
  | start =>
      exact ⟨stage, found, serves⟩
  | step run possible inductionHypothesis =>
      obtain ⟨reached, there, servesThere⟩ := inductionHypothesis
      have equipped := IsEquipped.of_run created (runBefore.append run)
      rcases proceeds_of_after? equipped possible there with
        same | ⟨following, -, left, proceeds⟩
      · exact ⟨reached, same, servesThere⟩
      · exact ⟨following, left, proceeds.serves servesThere⟩

/-- From its beginning on, the place of a call is held by a caller that serves the call. -/
theorem exists_serves_of_call
    (created : create settings surroundings = .ok client)
    (run : Run system client.fresh (earlier ++ begins :: more) last)
    (called : begins.move = .intervene (.call call)) :
    ∃ stage,
      last.task? begins.before.tasks.length = some (.caller stage) ∧ stage.Serves call := by
  obtain ⟨before, move, after⟩ := begins
  obtain rfl : move = .intervene (.call call) := called
  obtain ⟨runBefore, possible⟩ := run.of_split
  exact
    serves_of_run created (runBefore.step possible) run.of_split_later (task?_of_call possible)
      rfl

/-- Whoever calls serves a call that has begun at its place. -/
theorem exists_call_of_caller
    (created : create settings surroundings = .ok client)
    (run : Run system client.fresh history last)
    (found : last.task? place = some (.caller stage)) :
    ∃ earlier begins later call,
      history = earlier ++ begins :: later ∧
        begins.move = .intervene (.call call) ∧
        begins.before.tasks.length = place ∧
        stage.Serves call := by
  have nobody : ¬ ∃ stage, client.fresh.task? place = some (.caller stage) := by
    rintro ⟨stage, there⟩
    rcases isLoop_of_fresh there with same | same <;> cases same
  obtain ⟨earlier, ⟨before, move, after⟩, later, rfl, absent, reached, there⟩ :=
    run.exists_change
      (fun configuration => ∃ stage, configuration.task? place = some (.caller stage))
      nobody ⟨stage, found⟩
  obtain ⟨runBefore, possible⟩ := run.of_split
  rcases caller_cases (.of_run created runBefore) possible there with
    before | ⟨call, rfl, rfl, -⟩ | ⟨before, -, present, -⟩
  · exact absurd ⟨reached, before⟩ absent
  · obtain ⟨serving, stands, serves⟩ := exists_serves_of_call created run rfl
    cases Option.some.inj (stands.symm.trans found)
    exact ⟨earlier, _, later, call, rfl, rfl, rfl, serves⟩
  · exact absurd ⟨before, present⟩ absent

end Client

end FeatureFlags
