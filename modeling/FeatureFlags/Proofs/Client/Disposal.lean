import FeatureFlags.Proofs.Client.Delivery
import FeatureFlags.Proofs.Client.Winding

namespace FeatureFlags

/-!
# Disposal of a client

The disposal of a client is final. Whoever uses the client or a handle afterwards is refused,
and whatever was begun before only comes to its end: loops end instead of going to sleep, and
requests that have not been sent yet are given up.
-/

open FeatureFlags.Transport (Content Exchange)

/-! ## Finality -/

namespace ClientTask

variable
  {now : Moment}
  {client : Client}
  {task : ClientTask}

/-- An exchange that can end takes its task along. -/
private theorem isSome_turn_of_ended
    {exchange : Exchange}
    {moved : Client}
    {result : Except Failure Content}
    (drives : task.exchange? = some exchange)
    (ends : client.exchange? now exchange = some (moved, .ended result)) :
    (client.turn now task).isSome = true := by
  unfold exchange? at drives
  split at drives
  · cases drives
    simp [Client.turn, ends]
  · cases drives
    simp [Client.turn, ends]
  · cases drives
    simp [Client.turn, ends]
  · cases drives
    simp [Client.turn, Client.callerTurn, ends]
  · cases drives
    simp [Client.turn, Client.callerTurn, ends]
  · cases drives

/-- A loop on a closed client that waits for no refresh ends. -/
private theorem turn_of_loop?
    (closed : client.IsClosed)
    (equipped : task.IsEquipped client.equipment)
    {loop : TickerLoop}
    (isLoop : task.loop? = some loop)
    (idle : ∀ refresh, loop.stage ≠ .awaiting refresh) :
    ∃ turn, client.turn now task = some turn ∧ turn.task = none := by
  unfold loop? at isLoop
  split at isLoop
  · cases isLoop
    obtain ⟨ticker, found⟩ := Option.isSome_iff_exists.mp equipped
    have moves := Ticker.move?_of_disposed (closed.definitions found) now idle
    refine ⟨⟨{ client with definitions := some ticker }, none, []⟩, ?_, rfl⟩
    simp [Client.turn, found, moves]
  · cases isLoop
    obtain ⟨ticker, found⟩ := Option.isSome_iff_exists.mp equipped
    have moves := Ticker.move?_of_disposed (closed.flushes found) now idle
    refine ⟨⟨{ client with flushes := some ticker }, none, []⟩, ?_, rfl⟩
    simp [Client.turn, found, moves]
  · cases isLoop

end ClientTask

namespace Client

/-- The disposal of a client is final. -/
structure DisposalIsFinal
    (closing : Configuration Client ClientTask)
    (later : List ClientTransition)
    (last : Configuration Client ClientTask) :
    Prop where
  /-- Every use of the client and of its handles is refused, and leaves the client as it is. -/
  refuses : last.shared.RefusesAll last.now
  /-- So nothing comes of what is done from outside but a caller that waits to be refused. -/
  untouched :
    ∀ action,
      last.after? system (.intervene action) =
        some { last with tasks := last.tasks ++ action.caller?.toList.map some }
  /-- Whoever has called since then has been refused, or still waits to be. -/
  refused :
    ∀ {earlier begins rest call},
      later = earlier ++ begins :: rest →
      begins.move = .intervene (.call call) →
      last.task? begins.before.tasks.length = some (.caller (.begun call)) ∨
        last.task? begins.before.tasks.length =
          some (.caller (.answered (.error (.disposed "client"))))
  /-- That takes a single turn, which leaves the client as it is. -/
  refusal :
    ∀ {place call},
      last.task? place = some (.caller (.begun call)) →
      last.after? system (.turn place) =
        some
          (last.update place
            ⟨last.shared, some (.caller (.answered (.error (.disposed "client")))), []⟩)
  /-- No refresh of a ticker has begun since then. -/
  unrefreshed :
    last.shared.definitions.map (·.refreshes.length) =
        closing.shared.definitions.map (·.refreshes.length) ∧
      last.shared.flushes.map (·.refreshes.length) =
        closing.shared.flushes.map (·.refreshes.length)
  /-- Whatever has begun since then is a caller or sends a batch. -/
  newcomers :
    ∀ {place task},
      last.task? place = some task →
      closing.tasks.length ≤ place →
      task.isPeriodic = false
  /-- No loop has gone to sleep or become due since then. -/
  scheduled :
    ∀ {place task loop},
      last.task? place = some task →
      task.loop? = some loop →
      loop.stage.isScheduled = true →
      closing.task? place = some task
  /-- The next turn of a loop is its last one, unless it waits for a refresh. -/
  loopsEnd :
    ∀ {place task loop},
      last.task? place = some task →
      task.loop? = some loop →
      (∀ refresh, loop.stage ≠ .awaiting refresh) →
      ∃ next, last.after? system (.turn place) = some next ∧ next.task? place = none
  /-- No request has been sent since then. -/
  unsent : last.shared.sent = closing.shared.sent
  /-- A request that has not been sent is given up without a trace when its task moves. -/
  givenUp :
    ∀ {place task exchange},
      last.task? place = some task →
      task.exchange? = some exchange →
      exchange.stage = .prepared →
      last.shared.exchange? last.now exchange =
          some (last.shared, .ended (.error exchange.request.endpoint.cancelled)) ∧
        (last.after? system (.turn place)).isSome = true
  /-- All other requests had been sent before. -/
  driven :
    ∀ {place task exchange},
      last.task? place = some task →
      task.exchange? = some exchange →
      exchange.stage ≠ .prepared →
      closing.task? place = some task

variable
  {settings : Settings}
  {surroundings : Surroundings}
  {client : Client}
  {closing configuration next last : Configuration Client ClientTask}
  {history earlier later : List ClientTransition}
  {disposes : ClientTransition}
  {move : Move ClientAction}
  {place : Nat}
  {called : Call}

/-- A caller of a closed client waits to be refused until it is. -/
private theorem refused_step
    (closed : configuration.shared.IsClosed)
    (possible : configuration.after? system move = some next)
    (refused :
      configuration.task? place = some (.caller (.begun called)) ∨
        configuration.task? place =
          some (.caller (.answered (.error (.disposed "client"))))) :
    next.task? place = some (.caller (.begun called)) ∨
      next.task? place = some (.caller (.answered (.error (.disposed "client")))) := by
  rcases refused with waits | answered
  · rcases Configuration.task?_after?_cases possible waits with same | ⟨turn, rfl, taken, rfl⟩
    · exact .inl same
    · have refusal := (closed.refusesAll configuration.now).call called
      obtain rfl := Option.some.inj ((congrArg some refusal).symm.trans taken)
      exact .inr (Configuration.task?_update_self waits _)
  · rcases Configuration.task?_after?_cases possible answered with same | ⟨turn, rfl, taken, rfl⟩
    · exact .inr same
    · cases taken

private theorem refused_of_run
    (closed : closing.shared.IsClosed)
    (run : Run system closing history last)
    (begun : closing.task? place = some (.caller (.begun called))) :
    last.task? place = some (.caller (.begun called)) ∨
      last.task? place = some (.caller (.answered (.error (.disposed "client")))) := by
  induction run with
  | start =>
      exact .inl begun
  | step run possible inductionHypothesis =>
      exact refused_step (HasWound.of_run closed run).closed possible inductionHypothesis

/-- Nothing done to a closed client from outside changes it. -/
private theorem after?_intervene_of_closed
    (closed : last.shared.IsClosed)
    (action : ClientAction) :
    last.after? system (.intervene action) =
      some { last with tasks := last.tasks ++ action.caller?.toList.map some } := by
  have unchanged : action.perform last.now last.shared = (last.shared, []) := by
    by_cases disposal : action = .dispose
    · subst disposal
      exact congrArg (·, []) closed.dispose_eq
    · rcases ClientAction.perform_cases last.now disposal with
        ⟨-, performed⟩ | ⟨_, _, notDisposed, -⟩
      · exact performed
      · cases closed.disposed.symm.trans notDisposed
  simp [Configuration.after?, system, unchanged]

/-- The disposal of a client is final along every run, in every mode. -/
theorem run_disposalIsFinal
    (created : create settings surroundings = .ok client)
    (run : Run system client.fresh (earlier ++ disposes :: later) last)
    (disposal : disposes.move = .intervene .dispose) :
    DisposalIsFinal disposes.after later last := by
  obtain ⟨before, move, closing⟩ := disposes
  obtain rfl : move = .intervene .dispose := disposal
  have disposed : before.after? system (.intervene .dispose) = some closing := run.of_split.2
  have closed : closing.shared.IsClosed := by
    cases ClientMove.of_after? disposed with
    | idle _ noDisposal =>
        exact absurd rfl noDisposal
    | report _ _ offered =>
        cases offered
    | dispose =>
        exact .of_dispose before.shared
  -- All that follows is what a closed client comes to, whatever was begun before.
  have since := run.of_split_later
  have wound := HasWound.of_run closed since
  have equipped := IsEquipped.of_run created run
  constructor
  case refuses =>
    exact wound.closed.refusesAll last.now
  case untouched =>
    exact after?_intervene_of_closed wound.closed
  case refused =>
    rintro between ⟨beforeCall, _, afterCall⟩ rest call rfl rfl
    obtain ⟨runBefore, possible⟩ := since.of_split
    have closedThen := (HasWound.of_run closed (runBefore.step possible)).closed
    exact refused_of_run closedThen since.of_split_later (task?_of_call possible)
  case refusal =>
    intro place call waits
    have refusal := (wound.closed.refusesAll last.now).call call
    exact
      Configuration.after?_turn_eq_some_iff.mpr
        ⟨_, _, waits, congrArg some refusal, rfl⟩
  case unrefreshed =>
    have downloads := congrArg Standing.definitions wound.standing
    have flushes := congrArg Standing.flushes wound.standing
    refine ⟨?_, ?_⟩
    · simpa [standing, Ticker.standing, Function.comp_def] using
        congrArg (Option.map Prod.snd) downloads
    · simpa [standing, Ticker.standing, Function.comp_def] using
        congrArg (Option.map Prod.snd) flushes
  case newcomers =>
    exact wound.newcomers
  case scheduled =>
    exact wound.scheduled
  case loopsEnd =>
    intro place task loop found isLoop idle
    have needs : task.IsEquipped last.shared.equipment := equipped.kept ▸ equipped.tasks found
    obtain ⟨turn, taken, ended⟩ := ClientTask.turn_of_loop? wound.closed needs isLoop idle
    exact
      ⟨_, Configuration.after?_turn_eq_some_iff.mpr ⟨_, _, found, taken, rfl⟩,
        (Configuration.task?_update_self found turn).trans ended⟩
  case unsent =>
    have sent := congrArg Standing.transport wound.standing
    simpa [standing, Client.sent, Function.comp_def] using
      congrArg (fun pair => (pair.map Prod.snd).getD []) sent
  case givenUp =>
    intro place task exchange found drives unsent
    have needs : task.IsEquipped last.shared.equipment := equipped.kept ▸ equipped.tasks found
    have givenUp :
        last.shared.exchange? last.now exchange =
          some (last.shared, .ended (.error exchange.request.endpoint.cancelled)) :=
      wound.closed.exchange?_of_prepared (needs.hasTransport drives) unsent
    obtain ⟨turn, taken⟩ :=
      Option.isSome_iff_exists.mp (ClientTask.isSome_turn_of_ended drives givenUp)
    have possible : last.after? system (.turn place) = some (last.update place turn) :=
      Configuration.after?_turn_eq_some_iff.mpr ⟨_, turn, found, taken, rfl⟩
    exact ⟨givenUp, Option.isSome_iff_exists.mpr ⟨_, possible⟩⟩
  case driven =>
    exact wound.driven

end Client

/-- The failure that a caller has been told. -/
def ClientTask.failure? : ClientTask → Option Failure
  | .caller (.answered (.error failure)) => some failure
  | _ => none

/-- A client is disposed before the batch that two clicks have filled is sent. -/
theorem Client.run_disposedBeforeSending :
    ∃ (client : Client)
      (earlier : List ClientTransition)
      (disposes : ClientTransition)
      (later : List ClientTransition)
      (last : Configuration Client ClientTask),
      create .ofTwo .failing = .ok client ∧
        Run system client.fresh (earlier ++ disposes :: later) last ∧
        disposes.move = .intervene .dispose ∧
        last.tasks.map (·.bind ClientTask.failure?) = [none, none, some (.disposed "client")] ∧
        last.tasks.map (·.isSome) = [false, false, true] ∧
        last.shared.sent.length = 0 ∧
        DisposalIsFinal disposes.after later last := by
  let before : List (Move ClientAction) :=
    [.intervene (.track (.click "a")), .intervene (.track (.click "b"))]
  let after : List (Move ClientAction) :=
    [.intervene (.call .flush), .intervene (.track (.click "c")), .turn 2, .turn 1, .turn 0]
  have observed :
      ((trace? .ofTwo .failing before).bind fun (_, _, middle) =>
          (middle.trace? system (.intervene .dispose :: after)).map fun (_, last) =>
            (last.tasks.map (·.bind ClientTask.failure?), last.tasks.map (·.isSome),
              last.shared.sent.length)) =
        some ([none, none, some (.disposed "client")], [false, false, true], 0) := by
    decide +kernel
  obtain ⟨⟨client, earlier, middle⟩, traced, seen⟩ := Option.bind_eq_some_iff.mp observed
  obtain ⟨⟨history, last⟩, continues, pairs⟩ := Option.map_eq_some_iff.mp seen
  simp only [Prod.mk.injEq] at pairs
  obtain ⟨failures, ended, unsent⟩ := pairs
  obtain ⟨created, runBefore⟩ := run_of_trace? traced
  obtain ⟨next, later, rfl, -, -⟩ := Configuration.trace?_cons continues
  have run := runBefore.append (.of_trace? continues)
  exact
    ⟨client, earlier, _, later, last, created, run, rfl, failures, ended, unsent,
      run_disposalIsFinal created run rfl⟩

end FeatureFlags
