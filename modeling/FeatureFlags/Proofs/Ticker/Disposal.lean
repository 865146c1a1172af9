import FeatureFlags.Proofs.Ticker.Latest

namespace FeatureFlags

/-!
# Disposal of a ticker

The disposal of a ticker ends what keeps it going. Loops end as soon as they wait for
nothing, and nobody begins a refresh any more; but the refresh in the slot comes to its
end, and whoever forced or joined it by a tick is told its outcome.
-/

variable {α : Type}

/-! ## Disposed tickers -/

/-- What a ticker keeps from its disposal on. -/
structure Ticker.StaysClosed (closing ticker : Ticker α) : Prop where
  disposed : ticker.disposed = true
  name : ticker.name = closing.name
  unbegun : ticker.refreshes.length = closing.refreshes.length
  /-- The refresh in the slot may leave it, and no other one comes. -/
  slot : ticker.slot = closing.slot ∨ ticker.slot = none

namespace Ticker.StaysClosed

variable {now : Moment} {closing ticker after : Ticker α} {refresh : Nat} {succeeded : Bool}

theorem start (disposed : ticker.disposed = true) : StaysClosed ticker ticker :=
  ⟨disposed, rfl, rfl, .inl rfl⟩

/-- Whoever sees an outcome empties the slot at most. -/
private theorem await?
    (closed : StaysClosed closing ticker)
    (seen : ticker.await? refresh = some (after, succeeded)) :
    StaysClosed closing after := by
  rcases await?_cases seen with ⟨-, rfl⟩ | ⟨-, rfl⟩
  · exact closed
  · refine ⟨closed.disposed, closed.name, by simpa [setStatus] using closed.unbegun, ?_⟩
    by_cases held : ticker.slot = some refresh
    · exact .inr (if_pos held)
    · simpa only [if_neg held, setStatus] using closed.slot

/-- No change of a disposed ticker begins a refresh. -/
theorem change
    (closed : StaysClosed closing ticker)
    (change : ticker.Change now after) :
    StaysClosed closing after := by
  cases change with
  | unchanged =>
      exact closed
  | seen seen =>
      exact closed.await? seen
  | begun notDisposed | forced notDisposed =>
      cases closed.disposed.symm.trans notDisposed
  | finished value =>
      rename_i ended _
      have length := length_refreshes_finish ticker now ended value
      have slot := slot_finish ticker now ended value
      cases value <;>
        exact ⟨closed.disposed, closed.name, length.trans closed.unbegun, slot ▸ closed.slot⟩
  | disposed =>
      exact ⟨rfl, closed.name, closed.unbegun, closed.slot⟩

/-- A disposed ticker shows no value. -/
theorem snapshot_eq
    (closed : StaysClosed closing ticker)
    (now : Moment) :
    ticker.snapshot now = .error (.disposed closing.name) := by
  simp [snapshot, closed.disposed, closed.name]

/-- There is nothing left to dispose of. -/
theorem dispose_eq (closed : StaysClosed closing ticker) : ticker.dispose = ticker := by
  obtain ⟨name, interval, last, refreshes, slot, loop, disposed⟩ := ticker
  obtain rfl : disposed = true := closed.disposed
  rfl

end Ticker.StaysClosed

/-! ## Turns around a disposed ticker -/

/-- Whether a task is a caller that has yet to look at the value or to ask for a refresh. -/
def TickerTask.isUnheard : TickerTask α → Bool
  | .looking => true
  | .asking _ => true
  | _ => false

/-- What a caller of a disposed ticker is told. -/
def TickerTask.refused (name : String) : TickerTask α :=
  .answered (.failed (.disposed name))

/-- What becomes of a task in a turn around a disposed ticker. -/
inductive TickerTask.Closes
    (ticker : Ticker α) :
    TickerTask α → Option (TickerTask α) → Prop where
  | loopRests
      {number refresh : Nat} :
      Closes ticker (.loop ⟨number, .awaiting refresh⟩) (some (.loop ⟨number, .resting⟩))
  | loopEnds
      {number : Nat}
      {stage : LoopStage} :
      (∀ refresh, stage ≠ .awaiting refresh) →
      Closes ticker (.loop ⟨number, stage⟩) none
  | refreshBegins
      {number : Nat}
      {wake : Moment}
      {result : RefreshEnd α} :
      Closes ticker (.refresh number) (some (.refreshing number wake result))
  | refreshEnds
      {number : Nat}
      {wake : Moment}
      {result : RefreshEnd α} :
      Closes ticker (.refreshing number wake result) none
  | callerRefused
      {task : TickerTask α} :
      task.isUnheard = true →
      Closes ticker task (some (.refused ticker.name))
  | tickReturns
      {refresh : Nat}
      {succeeded : Bool} :
      ticker.outcome? refresh = some succeeded →
      Closes ticker (.awaiting .tick refresh) (some (.answered (.refreshed succeeded)))
  | valueRefused
      {refresh : Nat} :
      Closes ticker (.awaiting .value refresh) (some (.refused ticker.name))

/-- A turn around a disposed ticker begins nothing. -/
theorem TickerTurn.closes
    {now : Moment}
    {scripted : ScriptedTicker α}
    {task : TickerTask α}
    {turn : Turn (ScriptedTicker α) (TickerTask α)}
    (taken : TickerTurn now scripted task turn)
    (disposed : scripted.ticker.disposed = true) :
    task.Closes scripted.ticker turn.task ∧ turn.begun = [] := by
  have closed := Ticker.StaysClosed.start disposed
  have cancelled (number : Nat) : scripted.ticker.isCancelled number = true := by
    simp [Ticker.isCancelled, disposed]
  cases taken with
  | loopSees =>
      exact ⟨.loopRests, rfl⟩
  | loopEnds idle =>
      exact ⟨.loopEnds idle, rfl⟩
  | loopSleeps notCancelled | loopWakes notCancelled | loopJoins notCancelled
  | loopBegins notCancelled =>
      cases (cancelled _).symm.trans notCancelled
  | refreshBegins =>
      exact ⟨.refreshBegins, rfl⟩
  | refreshEnds =>
      exact ⟨.refreshEnds, rfl⟩
  | callerLooks =>
      rw [closed.snapshot_eq]
      exact ⟨.callerRefused rfl, rfl⟩
  | callerRefused =>
      exact ⟨.callerRefused rfl, rfl⟩
  | callerMisses notDisposed | callerJoins notDisposed | callerBegins notDisposed =>
      cases disposed.symm.trans notDisposed
  | tickReturns seen =>
      exact ⟨.tickReturns (Ticker.outcome?_of_await? seen), rfl⟩
  | valueReturns seen =>
      have change : scripted.ticker.Change now _ := .seen seen
      rw [(closed.change change).snapshot_eq]
      exact ⟨.valueRefused, rfl⟩

namespace TickerMove

variable
  {configuration next : Configuration (ScriptedTicker α) (TickerTask α)}
  {move : Move TickerAction}
  {place : Nat}
  {task : TickerTask α}

/-- Around a disposed ticker, a task is as it was, or has come to an end, or is a new caller. -/
theorem closes_or_called
    (moved : TickerMove configuration move next)
    (disposed : configuration.shared.ticker.disposed = true)
    (found : next.task? place = some task) :
    configuration.task? place = some task ∨
    (∃ before,
      configuration.task? place = some before ∧
        before.Closes configuration.shared.ticker (some task)) ∨
    task.isUnheard = true := by
  cases moved with
  | turn present taken =>
      obtain ⟨closes, begunNothing⟩ := taken.closes disposed
      rcases Configuration.task?_update_cases present found with
        ⟨rfl, left⟩ | ⟨-, kept⟩ | begun
      · exact .inr (.inl ⟨_, present, left ▸ closes⟩)
      · exact .inl kept
      · simp [begunNothing] at begun
  | wait | dispose =>
      exact .inl found
  | call =>
      rename_i call
      rcases Configuration.task?_snoc_cases found with before | rfl
      · exact .inl before
      · cases call <;> exact .inr (.inr rfl)

/-- Around a disposed ticker, a task stays as it is until it comes to an end. -/
theorem kept_or_closes
    (moved : TickerMove configuration move next)
    (disposed : configuration.shared.ticker.disposed = true)
    (found : configuration.task? place = some task) :
    next.task? place = some task ∨
      task.Closes configuration.shared.ticker (next.task? place) := by
  rcases moved.task?_kept found with kept | ⟨turn, -, taken, left, -⟩
  · exact .inl kept
  · exact .inr (left ▸ (taken.closes disposed).1)

end TickerMove

/-! ## Runs after a disposal -/

/-- What has become of a ticker and its tasks since it was disposed. -/
structure ScriptedTicker.HasClosed
    (closing last : Configuration (ScriptedTicker α) (TickerTask α)) :
    Prop where
  ticker : Ticker.StaysClosed closing.shared.ticker last.shared.ticker
  /-- A loop is where it was, or has waited for a refresh and is about to end. -/
  loops :
    ∀ {place loop},
      last.task? place = some (.loop loop) →
      closing.task? place = some (.loop loop) ∨
      loop.stage = .resting ∧
        ∃ refresh, closing.task? place = some (.loop ⟨loop.number, .awaiting refresh⟩)
  unheard :
    ∀ {place task},
      closing.task? place = some task →
      task.isUnheard = true →
      last.task? place = some task ∨
        last.task? place = some (.refused closing.shared.ticker.name)
  ticks :
    ∀ {place refresh},
      closing.task? place = some (.awaiting .tick refresh) →
      last.task? place = some (.awaiting .tick refresh) ∨
      ∃ succeeded,
        last.shared.ticker.outcome? refresh = some succeeded ∧
          last.task? place = some (.answered (.refreshed succeeded))
  values :
    ∀ {place refresh},
      closing.task? place = some (.awaiting .value refresh) →
      last.task? place = some (.awaiting .value refresh) ∨
        last.task? place = some (.refused closing.shared.ticker.name)

namespace ScriptedTicker.HasClosed

variable
  {closing configuration next last : Configuration (ScriptedTicker α) (TickerTask α)}
  {move : Move TickerAction}
  {later : List (TickerTransition α)}
  {place refresh : Nat}
  {loop : TickerLoop}
  {task : TickerTask α}

private theorem start
    (disposed : closing.shared.ticker.disposed = true) :
    HasClosed closing closing where
  ticker := .start disposed
  loops found := .inl found
  unheard found _ := .inl found
  ticks found := .inl found
  values found := .inl found

private theorem loops_step
    (closed : HasClosed closing configuration)
    (moved : TickerMove configuration move next)
    (found : next.task? place = some (.loop loop)) :
    closing.task? place = some (.loop loop) ∨
    loop.stage = .resting ∧
      ∃ refresh, closing.task? place = some (.loop ⟨loop.number, .awaiting refresh⟩) := by
  rcases moved.closes_or_called closed.ticker.disposed found with
    before | ⟨_, before, closes⟩ | unheard
  · exact closed.loops before
  · cases closes with
    | loopRests =>
        rcases closed.loops before with same | ⟨rests, -⟩
        · exact .inr ⟨rfl, _, same⟩
        · cases rests
  · cases unheard

/-- A caller that has been refused has nothing more to do. -/
private theorem refused_step
    (moved : TickerMove configuration move next)
    {name : String}
    (refused : configuration.task? place = some (.refused name)) :
    next.task? place = some (.refused name) := by
  rcases moved.task?_kept refused with kept | ⟨_, -, taken, -, -⟩
  · exact kept
  · cases taken

private theorem unheard_step
    (closed : HasClosed closing configuration)
    (moved : TickerMove configuration move next)
    (found : closing.task? place = some task)
    (unheard : task.isUnheard = true) :
    next.task? place = some task ∨
      next.task? place = some (.refused closing.shared.ticker.name) := by
  rcases closed.unheard found unheard with waits | refused
  · rcases moved.kept_or_closes closed.ticker.disposed waits with kept | closes
    · exact .inl kept
    · rw [← closed.ticker.name]
      generalize next.task? place = left at closes
      cases closes with
      | callerRefused =>
          exact .inr rfl
      | loopRests | loopEnds | refreshBegins | refreshEnds | tickReturns | valueRefused =>
          cases unheard
  · exact .inr (refused_step moved refused)

private theorem ticks_step
    (closed : HasClosed closing configuration)
    (coherent : Coherent configuration)
    (moved : TickerMove configuration move next)
    (found : closing.task? place = some (.awaiting .tick refresh)) :
    next.task? place = some (.awaiting .tick refresh) ∨
    ∃ succeeded,
      next.shared.ticker.outcome? refresh = some succeeded ∧
        next.task? place = some (.answered (.refreshed succeeded)) := by
  have stays {succeeded : Bool}
      (outcome : configuration.shared.ticker.outcome? refresh = some succeeded) :
      next.shared.ticker.outcome? refresh = some succeeded :=
    (coherent.change moved).outcome?_eq coherent.orderly outcome
  rcases closed.ticks found with waits | ⟨succeeded, outcome, answered⟩
  · rcases moved.kept_or_closes closed.ticker.disposed waits with kept | closes
    · exact .inl kept
    · generalize next.task? place = left at closes
      cases closes with
      | tickReturns outcome =>
          exact .inr ⟨_, stays outcome, rfl⟩
      | callerRefused unheard =>
          cases unheard
  · rcases moved.task?_kept answered with kept | ⟨_, -, taken, -, -⟩
    · exact .inr ⟨succeeded, stays outcome, kept⟩
    · cases taken

private theorem values_step
    (closed : HasClosed closing configuration)
    (moved : TickerMove configuration move next)
    (found : closing.task? place = some (.awaiting .value refresh)) :
    next.task? place = some (.awaiting .value refresh) ∨
      next.task? place = some (.refused closing.shared.ticker.name) := by
  rcases closed.values found with waits | refused
  · rcases moved.kept_or_closes closed.ticker.disposed waits with kept | closes
    · exact .inl kept
    · rw [← closed.ticker.name]
      generalize next.task? place = left at closes
      cases closes with
      | valueRefused =>
          exact .inr rfl
      | callerRefused unheard =>
          cases unheard
  · exact .inr (refused_step moved refused)

private theorem step
    (closed : HasClosed closing configuration)
    (coherent : Coherent configuration)
    (moved : TickerMove configuration move next) :
    HasClosed closing next where
  ticker := closed.ticker.change (coherent.change moved)
  loops := closed.loops_step moved
  unheard := closed.unheard_step moved
  ticks := closed.ticks_step coherent moved
  values := closed.values_step moved

/-- What was begun before a disposal comes to its end along every run from there. -/
theorem of_run
    (coherent : Coherent closing)
    (disposed : closing.shared.ticker.disposed = true)
    (run : Run system closing later last) :
    HasClosed closing last := by
  induction run with
  | start =>
      exact .start disposed
  | step run possible inductionHypothesis =>
      exact inductionHypothesis.step (coherent.later run) (.of_after? possible)

end ScriptedTicker.HasClosed

/-! ## Finality -/

namespace ScriptedTicker

/-- The disposal of a ticker is final, and ends nothing but its loops. -/
structure DisposalWindsDown
    (closing : Configuration (ScriptedTicker α) (TickerTask α))
    (later : List (TickerTransition α))
    (last : Configuration (ScriptedTicker α) (TickerTask α)) :
    Prop where
  /-- It makes no difference how often the ticker is disposed. -/
  again : last.after? system (.intervene .dispose) = some last
  /-- No refresh has begun since then. -/
  unbegun :
    last.shared.ticker.refreshes.length = closing.shared.ticker.refreshes.length ∧
      (last.shared.ticker.slot = closing.shared.ticker.slot ∨ last.shared.ticker.slot = none)
  /-- No turn since then has begun anything, neither a refresh nor a loop. -/
  begunNothing :
    ∀ transition ∈ later,
      ∀ {place},
        transition.move = .turn place →
        transition.after.tasks.length = transition.before.tasks.length
  /-- The ticker shows no value any more. -/
  value :
    last.shared.ticker.snapshot last.now = .error (.disposed closing.shared.ticker.name)
  /-- Whoever has called since then has been refused, or still waits to be. -/
  refused :
    ∀ {earlier calls rest call},
      later = earlier ++ calls :: rest →
      calls.move = .intervene (.call call) →
      last.task? calls.before.tasks.length = some (.ofCall call) ∨
        last.task? calls.before.tasks.length = some (.refused closing.shared.ticker.name)
  /-- So has whoever had called before and had not been heard yet. -/
  unheard :
    ∀ {place task},
      closing.task? place = some task →
      task.isUnheard = true →
      last.task? place = some task ∨
        last.task? place = some (.refused closing.shared.ticker.name)
  /-- That takes a single turn, which leaves everything else as it is. -/
  refusal :
    ∀ {place task},
      last.task? place = some task →
      task.isUnheard = true →
      last.after? system (.turn place) =
        some
          (last.update place
            ⟨last.shared, some (.refused closing.shared.ticker.name), []⟩)
  /-- The refresh in the slot is carried out until it has its outcome. -/
  carried :
    ∀ {refresh},
      closing.shared.ticker.slot = some refresh →
      last.shared.ticker.outcome? refresh = none →
      ∃ place task, last.task? place = some task ∧ task.refresh? = some refresh
  /-- It comes to its end by turns and waiting alone. -/
  completes :
    ∀ {refresh},
      closing.shared.ticker.slot = some refresh →
      ∃ ending succeeded,
        last.LeadsTo system ending ∧ ending.shared.ticker.outcome? refresh = some succeeded
  /-- Whatever outcome has come since then is that with which the refresh itself has ended. -/
  outcomes :
    ∀ {refresh succeeded},
      last.shared.ticker.outcome? refresh = some succeeded ↔
        closing.shared.ticker.outcome? refresh = some succeeded ∨
        ∃ completion ∈ completions later,
          completion.refresh = refresh ∧ completion.result.value?.isSome = succeeded
  /-- Whoever waited for a refresh by a tick has been told its outcome, or still can be. -/
  ticks :
    ∀ {place refresh},
      closing.task? place = some (.awaiting .tick refresh) →
      (∃ succeeded,
          last.shared.ticker.outcome? refresh = some succeeded ∧
            last.task? place = some (.answered (.refreshed succeeded))) ∨
        last.task? place = some (.awaiting .tick refresh) ∧
          ∃ ending succeeded,
            last.LeadsTo system ending ∧
              ending.shared.ticker.outcome? refresh = some succeeded ∧
              ending.task? place = some (.answered (.refreshed succeeded))
  /-- Whoever waited for the value has been refused, or still can be. -/
  values :
    ∀ {place refresh},
      closing.task? place = some (.awaiting .value refresh) →
      last.task? place = some (.refused closing.shared.ticker.name) ∨
        last.task? place = some (.awaiting .value refresh) ∧
          ∃ ending,
            last.LeadsTo system ending ∧
              ending.task? place = some (.refused closing.shared.ticker.name)
  /-- No loop has gone to sleep or become due since then, and none has come. -/
  loops :
    ∀ {place loop},
      last.task? place = some (.loop loop) →
      closing.task? place = some (.loop loop) ∨
      loop.stage = .resting ∧
        ∃ refresh, closing.task? place = some (.loop ⟨loop.number, .awaiting refresh⟩)
  /-- A loop that waits for no refresh ends in its next turn, even while it sleeps. -/
  loopsEnd :
    ∀ {place loop},
      last.task? place = some (.loop loop) →
      (∀ refresh, loop.stage ≠ .awaiting refresh) →
      last.after? system (.turn place) = some (last.update place ⟨last.shared, none, []⟩)
  /-- A loop that waits for a refresh sees its outcome once there is one, and then ends. -/
  loopsSee :
    ∀ {place number refresh succeeded},
      last.task? place = some (.loop ⟨number, .awaiting refresh⟩) →
      last.shared.ticker.outcome? refresh = some succeeded →
      ∃ seeing ending,
        last.after? system (.turn place) = some seeing ∧
          seeing.after? system (.turn place) = some ending ∧
          ending.task? place = none ∧
          ending.tasks.length = last.tasks.length

variable
  {name : String}
  {interval : Nat}
  {script : RefreshScript α}
  {earlier later : List (TickerTransition α)}
  {disposes : TickerTransition α}
  {configuration last : Configuration (ScriptedTicker α) (TickerTask α)}
  {place refresh : Nat}
  {task : TickerTask α}

/-- A caller of a disposed ticker that has not been heard yet is refused in its next turn. -/
private theorem after?_of_unheard
    (disposed : configuration.shared.ticker.disposed = true)
    (found : configuration.task? place = some task)
    (unheard : task.isUnheard = true) :
    configuration.after? system (.turn place) =
      some
        (configuration.update place
          ⟨configuration.shared, some (.refused configuration.shared.ticker.name), []⟩) := by
  refine after?_of_turn found ?_
  cases task with
  | looking =>
      simp [turn, Ticker.snapshot, disposed, TickerTask.refused, TickerAnswer.ofSnapshot]
  | asking =>
      simp [turn, Ticker.tick, disposed, TickerTask.refused]
  | loop | refresh | refreshing | awaiting | answered =>
      cases unheard

/-- A loop of a disposed ticker that waits for no refresh ends in its next turn. -/
private theorem after?_of_idle
    (disposed : configuration.shared.ticker.disposed = true)
    {loop : TickerLoop}
    (found : configuration.task? place = some (.loop loop))
    (idle : ∀ refresh, loop.stage ≠ .awaiting refresh) :
    configuration.after? system (.turn place) =
      some (configuration.update place ⟨configuration.shared, none, []⟩) := by
  have cancelled : configuration.shared.ticker.isCancelled loop.number = true := by
    simp [Ticker.isCancelled, disposed]
  have moves :
      loop.move? configuration.now configuration.shared.ticker =
        some { ticker := configuration.shared.ticker, loop := none } :=
    TickerLoop.move?_of_isCancelled idle cancelled
  exact after?_of_turn found (Option.map_eq_some_iff.mpr ⟨_, moves, rfl⟩)

/-- A loop of a disposed ticker that waits for a refresh ends after it has seen the outcome. -/
private theorem ends_of_outcome?
    (disposed : configuration.shared.ticker.disposed = true)
    {number : Nat}
    (found : configuration.task? place = some (.loop ⟨number, .awaiting refresh⟩))
    {succeeded : Bool}
    (outcome : configuration.shared.ticker.outcome? refresh = some succeeded) :
    ∃ seeing ending,
      configuration.after? system (.turn place) = some seeing ∧
        seeing.after? system (.turn place) = some ending ∧
        ending.task? place = none ∧
        ending.tasks.length = configuration.tasks.length := by
  let after := configuration.shared.ticker.publish refresh succeeded
  have seen : configuration.shared.ticker.await? refresh = some (after, succeeded) := by
    simp [Ticker.await?, outcome, after]
  have moves :
      TickerLoop.move? configuration.now configuration.shared.ticker
          ⟨number, .awaiting refresh⟩ =
        some { ticker := after, loop := some ⟨number, .resting⟩ } :=
    Option.map_eq_some_iff.mpr ⟨_, seen, rfl⟩
  let rests : Turn (ScriptedTicker α) (TickerTask α) :=
    ⟨{ configuration.shared with ticker := after }, some (.loop ⟨number, .resting⟩), []⟩
  have resting :
      (configuration.update place rests).task? place = some (.loop ⟨number, .resting⟩) :=
    Configuration.task?_update_self found rests
  have change : configuration.shared.ticker.Change configuration.now after := .seen seen
  have stillDisposed := ((Ticker.StaysClosed.start disposed).change change).disposed
  have idle (other : Nat) : LoopStage.resting ≠ .awaiting other := by
    intro same
    cases same
  have ends := after?_of_idle (by exact stillDisposed) resting idle
  refine
    ⟨configuration.update place rests, _,
      after?_of_turn found (Option.map_eq_some_iff.mpr ⟨_, moves, rfl⟩), ends,
      Configuration.task?_update_self resting _, ?_⟩
  simp [Configuration.length_update, rests]

/-- The disposal of a ticker is final along every run, whatever goes on around it. -/
theorem run_disposalWindsDown
    (run : Run system (fresh name interval script) (earlier ++ disposes :: later) last)
    (disposal : disposes.move = .intervene .dispose) :
    DisposalWindsDown disposes.after later last := by
  obtain ⟨before, move, closing⟩ := disposes
  obtain rfl : move = .intervene .dispose := disposal
  have possible : before.after? system (.intervene .dispose) = some closing := run.of_split.2
  have disposed : closing.shared.ticker.disposed = true := by
    cases TickerMove.of_after? possible
    rfl
  have coherentThen : Coherent closing := .of_run (run.of_split.1.step possible)
  -- All that follows is what becomes of a ticker that has been disposed.
  have since := run.of_split_later
  have closed := HasClosed.of_run coherentThen disposed since
  have coherent := coherentThen.later since
  have stillDisposed := closed.ticker.disposed
  have known {refresh : Nat} (held : closing.shared.ticker.slot = some refresh) :
      refresh < last.shared.ticker.refreshes.length :=
    closed.ticker.unbegun ▸ coherentThen.orderly.lt_length_of_slot held
  constructor
  case again =>
    have unchanged := closed.ticker.dispose_eq
    simp [Configuration.after?, system, dispose, unchanged]
  case unbegun =>
    exact ⟨closed.ticker.unbegun, closed.ticker.slot⟩
  case begunNothing =>
    intro transition member place moves
    obtain ⟨_, runThen, possible⟩ := since.of_mem member
    have closedThen := HasClosed.of_run coherentThen disposed runThen
    rw [moves] at possible
    obtain ⟨task, turn, -, taken, after⟩ := Configuration.after?_turn_eq_some_iff.mp possible
    have begunNothing := ((TickerTurn.of_turn taken).closes closedThen.ticker.disposed).2
    rw [after, Configuration.length_update, begunNothing]
    rfl
  case value =>
    exact closed.ticker.snapshot_eq last.now
  case refused =>
    rintro between ⟨beforeCall, _, afterCall⟩ rest call rfl rfl
    have called : beforeCall.after? system (.intervene (.call call)) = some afterCall :=
      since.of_split.2
    have closedThen := HasClosed.of_run coherentThen disposed since.of_split.1
    have coherentCall := coherentThen.later (since.of_split.1.step called)
    cases TickerMove.of_after? called with
    | call =>
        have closedSince :=
          HasClosed.of_run coherentCall closedThen.ticker.disposed since.of_split_later
        rw [← closedThen.ticker.name]
        refine closedSince.unheard ?_ (by cases call <;> rfl)
        simp [Configuration.task?]
  case unheard =>
    exact closed.unheard
  case refusal =>
    intro place task found unheard
    rw [← closed.ticker.name]
    exact after?_of_unheard stillDisposed found unheard
  case carried =>
    intro refresh held noOutcome
    have running := coherent.orderly.running?_of_outcome?_eq_none (known held) noOutcome
    have member : refresh ∈ last.collect TickerTask.refresh? := by
      simp [coherent.carriedOut, running]
    exact Configuration.mem_collect_iff.mp member
  case completes =>
    intro refresh held
    obtain ⟨ending, succeeded, leads, outcome, -⟩ := coherent.leadsTo_outcome (known held)
    exact ⟨ending, succeeded, leads, outcome⟩
  case outcomes =>
    exact coherentThen.outcome?_iff since
  case ticks =>
    intro place refresh waited
    rcases closed.ticks waited with waits | told
    · obtain ⟨ending, succeeded, leads, outcome, answered⟩ := coherent.leadsTo_answer waits
      exact .inr ⟨waits, ending, succeeded, leads, outcome, answered⟩
    · exact .inl told
  case values =>
    intro place refresh waited
    rcases closed.values waited with waits | refused
    · obtain ⟨ending, succeeded, leads, -, answered⟩ := coherent.leadsTo_answer waits
      obtain ⟨_, sinceThen⟩ := leads.exists_run since
      have closedThen := HasClosed.of_run coherentThen disposed sinceThen
      refine .inr ⟨waits, ending, leads, answered.trans ?_⟩
      rw [TickerCall.answer, closedThen.ticker.snapshot_eq]
      rfl
    · exact .inl refused
  case loops =>
    exact closed.loops
  case loopsEnd =>
    intro place loop found idle
    exact after?_of_idle stillDisposed found idle
  case loopsSee =>
    intro place number refresh succeeded found outcome
    exact ends_of_outcome? stillDisposed found outcome

end ScriptedTicker

/-- A tick and a use of the value that wait for one refresh, with the loop that waits for it. -/
def TickerAction.twoWaiting : List (Move TickerAction) :=
  [.intervene (.call .tick), .intervene (.call .value), .turn 1, .turn 2, .turn 2, .turn 0,
    .turn 3]

/-- What comes after the disposal: one more tick, the end of the refresh, and all that waited. -/
def TickerAction.woundDown : List (Move TickerAction) :=
  [.intervene (.call .tick), .turn 5, .wait 5, .turn 3, .turn 1, .turn 2, .turn 4, .turn 4,
    .intervene .dispose]

/-- Of two who wait at the disposal only the tick is told of the success, and no loop is left. -/
theorem ScriptedTicker.run_disposedWhileWaiting :
    ∃ (earlier later : List (TickerTransition Nat))
      (disposes : TickerTransition Nat)
      (last : Configuration (ScriptedTicker Nat) (TickerTask Nat)),
      Run system (fresh "ticker" 60000 ⟨fun _ => 5, fun _ => .success 7⟩)
          (earlier ++ disposes :: later) last ∧
        disposes.move = .intervene .dispose ∧
        disposes.before.tasks =
          [none, some (.awaiting .tick 0), some (.awaiting .value 0),
            some (.refreshing 0 5 (.success 7)), some (.loop ⟨1, .awaiting 0⟩)] ∧
        last.tasks =
          [none, some (.answered (.refreshed true)), some (.refused "ticker"), none, none,
            some (.refused "ticker")] ∧
        DisposalWindsDown disposes.after later last := by
  have observed :
      ((fresh "ticker" 60000 ⟨fun _ => 5, fun _ => .success 7⟩).trace? system
          TickerAction.twoWaiting).bind (fun (_, middle) =>
            (middle.trace? system (.intervene .dispose :: TickerAction.woundDown)).map
              fun (_, last) => (middle.tasks, last.tasks)) =
        some
          ([none, some (.awaiting .tick 0), some (.awaiting .value 0),
            some (.refreshing 0 5 (.success 7)), some (.loop ⟨1, .awaiting 0⟩)],
          [none, some (.answered (.refreshed true)), some (.refused "ticker"), none, none,
            some (.refused "ticker")]) := by
    rfl
  obtain ⟨⟨earlier, middle⟩, traced, seen⟩ := Option.bind_eq_some_iff.mp observed
  obtain ⟨⟨history, last⟩, continues, pair⟩ := Option.map_eq_some_iff.mp seen
  obtain ⟨waiting, ended⟩ := Prod.mk.inj pair
  obtain ⟨next, later, rfl, -, -⟩ := Configuration.trace?_cons continues
  have run := (Run.of_trace? traced).append (.of_trace? continues)
  exact
    ⟨earlier, later, _, last, run, rfl, waiting, ended, run_disposalWindsDown run rfl⟩

end FeatureFlags
