import FeatureFlags.Proofs.Ticker.Latest

namespace FeatureFlags

/-!
# Intervals between refreshes

The loop in force waits for whatever is in the slot before it sleeps for the interval, and
a forced refresh interrupts the loop for good. So the slot has been empty for a whole
interval whenever a loop begins a refresh, whoever began the refreshes before.
-/

variable {α : Type}

/-! ## The loop in force -/

namespace Ticker

/-- The loop in force keeps apart from all marks, and waits for the refresh in the slot. -/
structure Attended
    (ticker : Ticker α)
    (loops : Nat → Option TickerLoop)
    (marks : List Moment)
    (now : Moment) :
    Prop where
  paced : ticker.Paced loops marks now
  awaited :
    ∀ {place loop refresh},
      loops place = some loop →
      loop.number = ticker.loop →
      ticker.slot = some refresh →
      loop.stage = .awaiting refresh

namespace Attended

variable
  {ticker after : Ticker α}
  {loops next : Nat → Option TickerLoop}
  {marks : List Moment}
  {now later : Moment}
  {place refresh : Nat}
  {loop : TickerLoop}
  {succeeded : Bool}

/-- Passing time and lost loops change nothing. -/
theorem mono
    (attended : Attended ticker loops marks now)
    (passes : now ≤ later)
    (fewer : ∀ {place loop}, next place = some loop → loops place = some loop) :
    Attended ticker next marks later where
  paced := attended.paced.mono passes fewer
  awaited found := attended.awaited (fewer found)

/-- While a refresh is in the slot, the moment may be marked. -/
theorem mark
    (attended : Attended ticker loops marks now)
    (held : ticker.slot = some refresh) :
    Attended ticker loops (marks ++ [now]) now where
  paced :=
    attended.paced.markWaiting fun found force => ⟨refresh, attended.awaited found force held⟩
  awaited := attended.awaited

/-- Whoever sees an outcome empties the slot, or finds it published already. -/
private theorem slot_of_seen
    (orderly : ticker.Orderly)
    (sees : ticker.await? refresh = some (after, succeeded))
    {other : Nat}
    (held : after.slot = some other) :
    ticker.slot = some other ∧ other ≠ refresh := by
  rcases orderly.await?_cases sees with ⟨published, rfl⟩ | ⟨-, -, rfl⟩
  · refine ⟨held, ?_⟩
    rintro rfl
    have unpublished := orderly.unpublished held
    simp [published, RefreshStatus.isPublished] at unpublished
  · cases held

theorem seen
    (attended : Attended ticker loops marks now)
    (sees : ticker.await? refresh = some (after, succeeded)) :
    Attended after loops marks now where
  paced := attended.paced.seen sees
  awaited found force held :=
    attended.awaited found (force.trans (loop_await? sees))
      (slot_of_seen attended.paced.orderly sees held).1

theorem finished
    (attended : Attended ticker loops marks now)
    (running : ticker.running? = some refresh)
    (value : Option α) :
    Attended (ticker.finish now refresh value) loops marks now where
  paced := attended.paced.finished running value
  awaited found force held :=
    attended.awaited found (force.trans (loop_finish ..)) ((slot_finish ..).symm.trans held)

theorem disposed
    (attended : Attended ticker loops marks now) :
    Attended ticker.dispose loops marks now where
  paced := attended.paced.disposed
  awaited := attended.awaited

/-- A forced refresh puts a loop in force that waits for it. -/
theorem forced
    (attended : Attended ticker loops marks now)
    (free : ticker.inFlight? = none)
    (moved :
      ∀ other,
        next other =
          if other = place then
            some ⟨ticker.loop + 1, .awaiting ticker.refreshes.length⟩
          else
            loops other) :
    Attended { ticker.begin with loop := ticker.loop + 1 } next marks now where
  paced := attended.paced.forced free moved
  awaited := by
    intro other loop refresh found force held
    rw [moved] at found
    split at found
    · cases found
      cases held
      rfl
    · have known : loop.number ≤ ticker.loop := attended.paced.known found
      have newest : loop.number = ticker.loop + 1 := force
      omega

/-- Every move of a loop leaves the loop in force with what is in the slot. -/
theorem move
    (attended : Attended ticker loops marks now)
    (found : loops place = some loop)
    {move : TickerLoop.Move α}
    (moves : loop.Moves now ticker move)
    (moved : ∀ other, next other = if other = place then move.loop else loops other) :
    Attended move.ticker next marks now where
  paced := attended.paced.move found moves moved
  awaited := by
    intro other left refresh foundAfter force held
    rw [moved] at foundAfter
    cases moves with
    | sees sees =>
        obtain ⟨heldBefore, different⟩ := slot_of_seen attended.paced.orderly sees held
        have forceBefore := force.trans (loop_await? sees)
        split at foundAfter
        · cases foundAfter
          cases attended.awaited found forceBefore heldBefore
          exact absurd rfl different
        · exact attended.awaited foundAfter forceBefore heldBefore
    | ends =>
        split at foundAfter
        · cases foundAfter
        · exact attended.awaited foundAfter force held
    | sleeps | wakes =>
        split at foundAfter
        · cases foundAfter
          cases attended.awaited found force held
        · exact attended.awaited foundAfter force held
    | joins _ flight =>
        rw [attended.paced.orderly.inFlight?_eq] at flight
        split at foundAfter
        · cases foundAfter
          cases flight.symm.trans held
          rfl
        · exact attended.awaited foundAfter force held
    | begins notCancelled =>
        cases held
        split at foundAfter
        · cases foundAfter
          rfl
        · -- Only the loop that begins the refresh is in force.
          have beginner := number_eq_of_not_cancelled notCancelled
          have same := attended.paced.distinct foundAfter found (force.trans beginner.symm)
          contradiction

end Attended

namespace Change

variable {now : Moment} {ticker after : Ticker α}

/-- The interval of a ticker never changes. -/
theorem interval_eq (change : Change now ticker after) : after.interval = ticker.interval := by
  cases change with
  | seen seen =>
      rcases await?_cases seen with ⟨-, rfl⟩ | ⟨-, rfl⟩ <;> rfl
  | finished value =>
      cases value <;> rfl
  | unchanged | begun | forced | disposed =>
      rfl

/-- No loop comes back into force. -/
theorem loop_le (change : Change now ticker after) : ticker.loop ≤ after.loop := by
  cases change with
  | seen seen =>
      exact Nat.le_of_eq (loop_await? seen).symm
  | finished =>
      exact Nat.le_of_eq (loop_finish ..).symm
  | forced =>
      exact Nat.le_succ _
  | unchanged | begun | disposed =>
      exact Nat.le_refl _

end Change

end Ticker

/-! ## Loops around a ticker -/

/-- The loop that a task is. -/
def TickerTask.periodic? : TickerTask α → Option TickerLoop
  | .loop periodic => some periodic
  | _ => none

/-- The moments of a history at which a refresh was in the slot. -/
def busyMoments (history : List (TickerTransition α)) : List Moment :=
  (history.filter (·.before.shared.ticker.slot.isSome)).map (·.before.now)

namespace ScriptedTicker

/-- The loop at a place. -/
def loopAt?
    (configuration : Configuration (ScriptedTicker α) (TickerTask α))
    (place : Nat) :
    Option TickerLoop :=
  (configuration.task? place).bind TickerTask.periodic?

section Places

variable
  {configuration : Configuration (ScriptedTicker α) (TickerTask α)}
  {place : Nat}
  {task : TickerTask α}
  {turn : Turn (ScriptedTicker α) (TickerTask α)}

private theorem loopAt?_of_task?
    {loop : TickerLoop}
    (found : configuration.task? place = some (.loop loop)) :
    loopAt? configuration place = some loop := by
  rw [loopAt?, found]
  rfl

private theorem loopAt?_beyond
    (beyond : configuration.tasks.length ≤ place) :
    loopAt? configuration place = none := by
  simp [loopAt?, Configuration.task?, beyond]

/-- A turn that begins no loop changes the loop of its own place at most. -/
private theorem loopAt?_update
    (found : configuration.task? place = some task)
    (noneBegun : ∀ new ∈ turn.begun, new.periodic? = none)
    (other : Nat) :
    loopAt? (configuration.update place turn) other =
      if other = place then
        turn.task.bind TickerTask.periodic?
      else
        loopAt? configuration other := by
  rw [loopAt?, Configuration.task?_update found]
  split
  · rfl
  · split
    · rfl
    · rename_i beyond
      rw [loopAt?_beyond (Nat.not_lt.mp beyond)]
      exact Option.bind_eq_none_iff.mpr fun new begun =>
        noneBegun new (List.mem_of_getElem? begun)

/-- A turn that neither moves nor begins a loop leaves all loops alone. -/
private theorem loopAt?_before
    (found : configuration.task? place = some task)
    (noneLeft : turn.task.bind TickerTask.periodic? = none)
    (noneBegun : turn.begun = [])
    {other : Nat}
    {loop : TickerLoop}
    (foundAfter : loopAt? (configuration.update place turn) other = some loop) :
    loopAt? configuration other = some loop := by
  rw [loopAt?_update found (by simp [noneBegun]), noneLeft] at foundAfter
  split at foundAfter
  · cases foundAfter
  · exact foundAfter

/-- A caller that begins a refresh begins a loop two places on. -/
private theorem loopAt?_of_forced
    {call : TickerCall}
    {refresh : Nat}
    {loop : TickerLoop}
    (found : configuration.task? place = some (.asking call))
    (left : turn.task = some (.awaiting call refresh))
    (begun : turn.begun = [.refresh refresh, .loop loop])
    (other : Nat) :
    loopAt? (configuration.update place turn) other =
      if other = configuration.tasks.length + 1 then some loop else loopAt? configuration other := by
  have inside := Configuration.lt_length_of_task? found
  rw [loopAt?, Configuration.task?_update found, left, begun]
  by_cases same : other = place
  · subst same
    rw [if_pos rfl, if_neg (by omega), loopAt?, found]
    rfl
  · rw [if_neg same]
    by_cases before : other < configuration.tasks.length
    · rw [if_pos before, if_neg (by omega)]
      rfl
    · rw [if_neg before]
      by_cases next : other = configuration.tasks.length + 1
      · subst next
        rw [if_pos rfl, Nat.add_sub_cancel_left]
        rfl
      · rw [if_neg next, loopAt?_beyond (Nat.not_lt.mp before)]
        -- What is left is the place of the refresh itself, and the places beyond both.
        rcases Nat.eq_or_lt_of_le (Nat.not_lt.mp before) with same | beyond
        · rw [← same, Nat.sub_self]
          rfl
        · rw [List.getElem?_eq_none (by simp; omega)]
          rfl

end Places

/-- The loop in force keeps apart from the creation and from every refresh in the slot. -/
structure Spaced
    (interval : Nat)
    (history : List (TickerTransition α))
    (last : Configuration (ScriptedTicker α) (TickerTask α)) :
    Prop where
  interval_eq : last.shared.ticker.interval = interval
  attended : last.shared.ticker.Attended (loopAt? last) (0 :: busyMoments history) last.now

namespace Spaced

variable
  {interval : Nat}
  {history : List (TickerTransition α)}
  {last next : Configuration (ScriptedTicker α) (TickerTask α)}
  {move : Move TickerAction}
  {marks : List Moment}
  {place : Nat}
  {task : TickerTask α}
  {turn : Turn (ScriptedTicker α) (TickerTask α)}

private theorem fresh
    (name : String)
    (interval : Nat)
    (script : RefreshScript α) :
    Spaced interval [] (ScriptedTicker.fresh name interval script) := by
  have first {place : Nat} {loop : TickerLoop}
      (found : loopAt? (ScriptedTicker.fresh name interval script) place = some loop) :
      place = 0 ∧ loop = .first := by
    cases place with
    | zero =>
        cases found
        exact ⟨rfl, rfl⟩
    | succ place =>
        simp [loopAt?, ScriptedTicker.fresh, Configuration.task?] at found
  have unslotted : (ScriptedTicker.fresh name interval script).shared.ticker.slot = none := rfl
  refine ⟨rfl, ⟨?_, fun _ _ slotted => absurd (unslotted.symm.trans slotted) (by simp)⟩⟩
  constructor
  case orderly =>
    exact Ticker.Orderly.initial name interval
  case past =>
    intro mark member
    exact Nat.le_of_eq (List.mem_singleton.mp member)
  case known =>
    intro place loop found
    rw [(first found).2]
    exact Nat.le_refl _
  case distinct =>
    intro place other loop twin found alsoFound _
    exact (first found).1.trans (first alsoFound).1.symm
  case inForce =>
    intro place loop found _
    rw [(first found).2]
    rfl

/-- The moment of a move is marked if a refresh is in the slot. -/
private theorem marked
    (spaced : Spaced interval history last)
    (move : Move TickerAction)
    (next : Configuration (ScriptedTicker α) (TickerTask α)) :
    last.shared.ticker.Attended (loopAt? last)
      (0 :: busyMoments (history ++ [⟨last, move, next⟩])) last.now := by
  cases held : last.shared.ticker.slot with
  | none =>
      simpa [busyMoments, held] using spaced.attended
  | some refresh =>
      simpa [busyMoments, held] using spaced.attended.mark held

/-- Whatever takes its turn, the loop in force keeps apart from all marks. -/
private theorem attended_turn
    (attended : last.shared.ticker.Attended (loopAt? last) marks last.now)
    (coherent : Coherent last)
    (found : last.task? place = some task)
    (taken : TickerTurn last.now last.shared task turn) :
    turn.shared.ticker.Attended (loopAt? (last.update place turn)) marks last.now := by
  have now := Nat.le_refl last.now
  cases taken with
  | loopSees seen =>
      exact attended.move (loopAt?_of_task? found) (.sees seen) (loopAt?_update found nofun)
  | loopEnds =>
      exact attended.move (loopAt?_of_task? found) .ends (loopAt?_update found nofun)
  | loopSleeps notCancelled =>
      exact attended.move (loopAt?_of_task? found) (.sleeps notCancelled)
        (loopAt?_update found nofun)
  | loopWakes notCancelled awake =>
      exact attended.move (loopAt?_of_task? found) (.wakes notCancelled awake)
        (loopAt?_update found nofun)
  | loopJoins notCancelled flight =>
      exact attended.move (loopAt?_of_task? found) (.joins notCancelled flight)
        (loopAt?_update found nofun)
  | loopBegins notCancelled free =>
      refine attended.move (loopAt?_of_task? found) (.begins notCancelled free)
        (loopAt?_update found ?_)
      intro new begun
      cases List.mem_singleton.mp begun
      rfl
  | refreshBegins | callerMisses | callerLooks | callerRefused | callerJoins =>
      exact attended.mono now (loopAt?_before found rfl rfl)
  | refreshEnds =>
      have running := coherent.running?_of_refresh? found rfl
      exact (attended.finished running _).mono now (loopAt?_before found rfl rfl)
  | tickReturns seen | valueReturns seen =>
      exact (attended.seen seen).mono now (loopAt?_before found rfl rfl)
  | callerBegins _ free =>
      exact attended.forced free (loopAt?_of_forced found rfl rfl)

private theorem step
    (spaced : Spaced interval history last)
    (coherent : Coherent last)
    (moved : TickerMove last move next) :
    Spaced interval (history ++ [⟨last, move, next⟩]) next where
  interval_eq := (coherent.change moved).interval_eq.trans spaced.interval_eq
  attended := by
    have marked := spaced.marked move next
    cases moved with
    | turn found taken =>
        exact attended_turn marked coherent found taken
    | wait =>
        exact marked.mono (Nat.le_add_right _ _) id
    | call =>
        rename_i call
        refine marked.mono (Nat.le_refl _) ?_
        intro place loop found
        obtain ⟨task, present, isLoop⟩ := Option.bind_eq_some_iff.mp found
        rcases Configuration.task?_snoc_cases present with before | rfl
        · exact Option.bind_eq_some_iff.mpr ⟨task, before, isLoop⟩
        · cases call <;> cases isLoop
    | dispose =>
        exact marked.disposed

/-- Wherever a run leads, the loop in force keeps apart from all that it has to. -/
theorem of_run
    {name : String}
    {script : RefreshScript α}
    (run : Run system (ScriptedTicker.fresh name interval script) history last) :
    Spaced interval history last := by
  induction run with
  | start =>
      exact fresh name interval script
  | step run possible inductionHypothesis =>
      exact inductionHypothesis.step (.of_run run) (.of_after? possible)

end Spaced

end ScriptedTicker

/-! ## Beginnings of refreshes -/

namespace TickerTransition

/-- A transition begins a refresh. -/
structure BeginsRefresh
    (transition : TickerTransition α)
    (refresh : Nat) :
    Prop where
  number : transition.before.shared.ticker.refreshes.length = refresh
  next : transition.after.shared.ticker.refreshes.length = refresh + 1

/-- The loop of a number begins a refresh. -/
structure BeginsPeriodically
    (transition : TickerTransition α)
    (number refresh : Nat) :
    Prop where
  begins : transition.BeginsRefresh refresh
  loop :
    ∃ place stage,
      transition.move = .turn place ∧
        transition.before.task? place = some (.loop ⟨number, stage⟩)

/-- A caller begins a refresh. -/
structure Forces
    (transition : TickerTransition α)
    (refresh : Nat) :
    Prop where
  begins : transition.BeginsRefresh refresh
  caller : ∃ place call, transition.Asks place call

/-- The task of a refresh goes about giving the value. -/
def CarriesOut
    (transition : TickerTransition α)
    (refresh : Nat) :
    Prop :=
  ∃ place,
    transition.move = .turn place ∧
      transition.before.task? place = some (.refresh refresh)

variable
  {transition : TickerTransition α}
  {number refresh : Nat}

/-- A refresh is begun by the loop in force once it is due, or by a caller, which interrupts it. -/
theorem BeginsRefresh.cases
    (begins : transition.BeginsRefresh refresh)
    (moved : TickerMove transition.before transition.move transition.after)
    (orderly : transition.before.shared.ticker.Orderly) :
    transition.before.shared.ticker.slot = none ∧
    ((∃ place number,
        transition.move = .turn place ∧
          transition.before.task? place = some (.loop ⟨number, .due⟩) ∧
          transition.before.shared.ticker.isCancelled number = false) ∨
      (∃ place call, transition.Asks place call) ∧
        transition.after.shared.ticker.loop = transition.before.shared.ticker.loop + 1) := by
  obtain ⟨before, move, after⟩ := transition
  obtain ⟨begun, longer⟩ := begins
  change TickerMove before move after at moved
  have grows : before.shared.ticker.refreshes.length ≠ after.shared.ticker.refreshes.length := by
    rw [begun, longer]
    exact (Nat.succ_ne_self refresh).symm
  cases moved with
  | turn found taken =>
      cases taken with
      | loopBegins notCancelled free =>
          rw [orderly.inFlight?_eq] at free
          exact ⟨free, .inl ⟨_, _, rfl, found, notCancelled⟩⟩
      | callerBegins _ free =>
          rw [orderly.inFlight?_eq] at free
          exact ⟨free, .inr ⟨⟨_, _, rfl, found⟩, rfl⟩⟩
      | loopSees seen | tickReturns seen | valueReturns seen =>
          rcases Ticker.await?_cases seen with ⟨-, rfl⟩ | ⟨-, rfl⟩
          · exact absurd rfl grows
          · exact absurd (by simp [Configuration.update, Ticker.setStatus]) grows
      | refreshEnds =>
          exact absurd (Ticker.length_refreshes_finish ..).symm grows
      | loopEnds | loopSleeps | loopWakes | loopJoins | refreshBegins | callerMisses
      | callerLooks | callerRefused | callerJoins =>
          exact absurd rfl grows
  | wait | call | dispose =>
      exact absurd rfl grows

/-- A loop that begins a refresh is due and in force. -/
theorem BeginsPeriodically.due
    (begins : transition.BeginsPeriodically number refresh)
    (moved : TickerMove transition.before transition.move transition.after)
    (orderly : transition.before.shared.ticker.Orderly) :
    transition.before.shared.ticker.slot = none ∧
    transition.before.shared.ticker.isCancelled number = false ∧
    ∃ place,
      transition.move = .turn place ∧
        transition.before.task? place = some (.loop ⟨number, .due⟩) := by
  obtain ⟨place, stage, moves, isLoop⟩ := begins.loop
  obtain ⟨free, ⟨other, due, alsoMoves, isDue, notCancelled⟩ | ⟨⟨other, _, asks⟩, -⟩⟩ :=
    begins.begins.cases moved orderly
  · cases moves.symm.trans alsoMoves
    cases isLoop.symm.trans isDue
    exact ⟨free, notCancelled, place, moves, isLoop⟩
  · cases moves.symm.trans asks.move
    cases isLoop.symm.trans asks.task

/-- Whatever completes a refresh finds it running. -/
theorem running?_of_completion?
    (coherent : ScriptedTicker.Coherent transition.before)
    {completion : Completion α}
    (completes : transition.completion? = some completion) :
    transition.before.shared.ticker.running? = some completion.refresh := by
  obtain ⟨before, move, after⟩ := transition
  cases move with
  | turn place =>
      obtain ⟨task, found, ends⟩ := Option.bind_eq_some_iff.mp completes
      cases task with
      | refreshing =>
          cases ends
          exact coherent.running?_of_refresh? found rfl
      | loop | refresh | looking | asking | awaiting | answered =>
          cases ends
  | wait | intervene =>
      cases completes

end TickerTransition

/-! ## Pace along a run -/

namespace ScriptedTicker

/-- A loop begins a refresh an interval after the creation and after all refreshes before it. -/
structure BeginsInTime
    (interval : Nat)
    (earlier : List (TickerTransition α))
    (begins : TickerTransition α)
    (later : List (TickerTransition α))
    (number refresh : Nat) :
    Prop where
  sinceCreation : interval ≤ begins.before.now
  /-- For an interval there has been no refresh in the slot. -/
  sinceHeld :
    ∀ transition ∈ earlier,
      transition.before.shared.ticker.slot.isSome = true →
      transition.before.now + interval ≤ begins.before.now
  /-- Every refresh before has been completed, never less than an interval ago. -/
  sinceCompletion :
    ∀ starts ∈ earlier,
      ∀ {other},
        starts.BeginsRefresh other →
        (∃ completion ∈ completions earlier, completion.refresh = other) ∧
          ∀ completion ∈ completions (earlier ++ begins :: later),
            completion.refresh = other →
            completion.moment + interval ≤ begins.before.now
  /-- So has its outcome been published. -/
  sincePublication :
    ∀ starts ∈ earlier,
      ∀ {other},
        starts.BeginsRefresh other →
        ∃ completes ∈ earlier,
          Ticker.Completes completes.before.shared.ticker completes.after.shared.ticker other ∧
            completes.before.now + interval ≤ begins.before.now
  /-- The refresh is not carried out before it has begun. -/
  carriedOut :
    ∀ starts ∈ earlier ++ begins :: later,
      starts.CarriesOut refresh →
      begins.before.now ≤ starts.before.now
  /-- No forced refresh has ever interrupted the loop that begins the refresh. -/
  uninterrupted :
    ∀ forces ∈ earlier,
      ∀ {other},
        forces.Forces other →
        forces.before.shared.ticker.loop < number

/-- Loops keep an interval between their refreshes and all refreshes before. -/
structure KeepsIntervals
    (interval : Nat)
    (history : List (TickerTransition α)) :
    Prop where
  /-- Whoever begins a refresh is a loop or a caller. -/
  begun :
    ∀ transition ∈ history,
      ∀ {refresh},
        transition.BeginsRefresh refresh →
        transition.Forces refresh ∨ ∃ number, transition.BeginsPeriodically number refresh
  periodic :
    ∀ {earlier begins later number refresh},
      history = earlier ++ begins :: later →
      begins.BeginsPeriodically number refresh →
      BeginsInTime interval earlier begins later number refresh

variable
  {name : String}
  {interval : Nat}
  {script : RefreshScript α}
  {history earlier later : List (TickerTransition α)}
  {begins : TickerTransition α}
  {start last : Configuration (ScriptedTicker α) (TickerTask α)}
  {number refresh other : Nat}

/-- Neither the time nor the number of refreshes or loops has gone back. -/
private structure GoesOn (start last : Configuration (ScriptedTicker α) (TickerTask α)) : Prop where
  now : start.now ≤ last.now
  refreshes : start.shared.ticker.refreshes.length ≤ last.shared.ticker.refreshes.length
  loop : start.shared.ticker.loop ≤ last.shared.ticker.loop

private theorem GoesOn.of_run
    (coherent : Coherent start)
    (run : Run system start history last) :
    GoesOn start last := by
  induction run with
  | start =>
      exact ⟨Nat.le_refl _, Nat.le_refl _, Nat.le_refl _⟩
  | step run possible inductionHypothesis =>
      have coherentThen := coherent.later run
      have change := coherentThen.change (.of_after? possible)
      exact
        ⟨Nat.le_trans inductionHypothesis.now (now_le_of_after? possible),
          Nat.le_trans inductionHypothesis.refreshes
            (change.length_refreshes_le coherentThen.orderly),
          Nat.le_trans inductionHypothesis.loop change.loop_le⟩

/-- Where a transition of a run stands between its start and its end. -/
private structure LiesWithin
    (start last : Configuration (ScriptedTicker α) (TickerTask α))
    (transition : TickerTransition α) :
    Prop where
  coherent : Coherent transition.before
  moved : TickerMove transition.before transition.move transition.after
  fromStart : GoesOn start transition.before
  toEnd : GoesOn transition.after last

private theorem LiesWithin.of_mem
    (coherent : Coherent start)
    (run : Run system start history last)
    {transition : TickerTransition α}
    (member : transition ∈ history) :
    LiesWithin start last transition := by
  obtain ⟨before, after, rfl⟩ := List.append_of_mem member
  obtain ⟨runBefore, possible⟩ := run.of_split
  have coherentThen := coherent.later runBefore
  have moved := TickerMove.of_after? possible
  exact
    ⟨coherentThen, moved, .of_run coherent runBefore,
      .of_run (coherentThen.step moved) run.of_split_later⟩

/-- A refresh that has begun is out of the slot once another one can begin. -/
private theorem isPublished_of_begun
    (coherent : Coherent start)
    (run : Run system start history last)
    (free : last.shared.ticker.slot = none)
    {starts : TickerTransition α}
    (member : starts ∈ history)
    (begun : starts.BeginsRefresh other) :
    (last.shared.ticker.status other).isPublished = true := by
  have within := LiesWithin.of_mem coherent run member
  have known := within.toEnd.refreshes
  rw [begun.next] at known
  exact (coherent.later run).orderly.settled known (by simp [free])

/-- No refresh is completed after it has had an outcome. -/
private theorem outcome?_of_completion?
    (coherent : Coherent start)
    (run : Run system start history last)
    {completion : Completion α}
    (member : completion ∈ completions history) :
    start.shared.ticker.outcome? completion.refresh = none := by
  obtain ⟨transition, inside, completes⟩ := List.mem_filterMap.mp member
  obtain ⟨before, after, rfl⟩ := List.append_of_mem inside
  have runBefore := run.of_split.1
  have coherentThen := coherent.later runBefore
  obtain ⟨-, runs⟩ :=
    Ticker.running?_eq_some_iff.mp
      (TickerTransition.running?_of_completion? coherentThen completes)
  cases outcome : start.shared.ticker.outcome? completion.refresh with
  | none =>
      rfl
  | some succeeded =>
      have stays := (coherent.outcome?_iff runBefore).mpr (.inl outcome)
      simp [Ticker.outcome?, runs, RefreshStatus.outcome?] at stays

/-- A loop that begins a refresh keeps the interval. -/
private theorem beginsInTime
    (run : Run system (fresh name interval script) (earlier ++ begins :: later) last)
    (periodic : begins.BeginsPeriodically number refresh) :
    BeginsInTime interval earlier begins later number refresh := by
  obtain ⟨runBefore, possible⟩ := run.of_split
  have first := Coherent.fresh name interval script
  have coherent := first.later runBefore
  have spaced := Spaced.of_run runBefore
  obtain ⟨free, notCancelled, place, moves, due⟩ :=
    periodic.due (.of_after? possible) coherent.orderly
  -- The loop in force is due, so all marks are an interval ago.
  have apart := spaced.attended.paced.apart (loopAt?_of_task? due) notCancelled
  rw [spaced.interval_eq] at apart
  have held
      {transition : TickerTransition α}
      (member : transition ∈ earlier)
      (isHeld : transition.before.shared.ticker.slot.isSome = true) :
      transition.before.now + interval ≤ begins.before.now :=
    apart _ (List.mem_cons_of_mem _
      (List.mem_map_of_mem (List.mem_filter.mpr ⟨member, isHeld⟩)))
  have onwards := run.of_split_from
  constructor
  case sinceCreation =>
    simpa using apart 0 List.mem_cons_self
  case sinceHeld =>
    exact fun transition member isHeld => held member isHeld
  case sinceCompletion =>
    intro starts member other begun
    have published := isPublished_of_begun first runBefore free member begun
    obtain ⟨succeeded, outcome⟩ :
        ∃ succeeded, begins.before.shared.ticker.outcome? other = some succeeded := by
      cases status : begins.before.shared.ticker.status other with
      | running | ended =>
          simp [status, RefreshStatus.isPublished] at published
      | published succeeded =>
          exact ⟨succeeded, congrArg RefreshStatus.outcome? status⟩
    obtain ⟨completion, completed, same, -⟩ := (outcome?_iff runBefore).mp outcome
    refine ⟨⟨completion, completed, same⟩, ?_⟩
    rintro completion completed rfl
    unfold completions at completed
    rw [List.filterMap_append] at completed
    rcases List.mem_append.mp completed with before | after
    · obtain ⟨transition, inside, completes⟩ := List.mem_filterMap.mp before
      have within := LiesWithin.of_mem first runBefore inside
      have running := TickerTransition.running?_of_completion? within.coherent completes
      rw [moment_of_completion? completes]
      exact held inside (by simp [(Ticker.running?_eq_some_iff.mp running).1])
    · cases (outcome?_of_completion? coherent onwards after).symm.trans outcome
  case sincePublication =>
    intro starts member other begun
    obtain ⟨before, completes, after, rfl, unpublished, published⟩ :=
      runBefore.exists_change
        (fun configuration => (configuration.shared.ticker.status other).isPublished = true)
        (by simp [fresh, Ticker.status, RefreshStatus.isPublished])
        (isPublished_of_begun first runBefore free member begun)
    have inside : completes ∈ before ++ completes :: after := by simp
    have within := LiesWithin.of_mem first runBefore inside
    have publishes :
        Ticker.Completes completes.before.shared.ticker completes.after.shared.ticker other :=
      ⟨Bool.eq_false_iff.mpr unpublished, published⟩
    have change := within.coherent.change within.moved
    have leaves := ((change.completes_iff within.coherent.orderly).mp publishes).1
    exact ⟨completes, inside, publishes, held inside (by simp [leaves])⟩
  case carriedOut =>
    rintro starts member ⟨worker, startMoves, works⟩
    rcases List.mem_append.mp member with before | after
    · -- Before it has begun there is nothing to carry out.
      have within := LiesWithin.of_mem first runBefore before
      have running := within.coherent.running?_of_refresh? works rfl
      have known :=
        within.coherent.orderly.lt_length_of_slot (Ticker.running?_eq_some_iff.mp running).1
      have change := within.coherent.change within.moved
      have longer := change.length_refreshes_le within.coherent.orderly
      have length := within.toEnd.refreshes
      have number := periodic.begins.number
      omega
    · exact (LiesWithin.of_mem coherent onwards after).fromStart.now
  case uninterrupted =>
    rintro forces member other ⟨begun, caller⟩
    have within := LiesWithin.of_mem first runBefore member
    have force := Ticker.number_eq_of_not_cancelled notCancelled
    have later := within.toEnd.loop
    obtain ⟨-, ⟨_, _, moves, isLoop, -⟩ | ⟨-, next⟩⟩ :=
      begun.cases within.moved within.coherent.orderly
    · obtain ⟨_, _, asks⟩ := caller
      cases moves.symm.trans asks.move
      cases isLoop.symm.trans asks.task
    · omega

/-- Along every run loops keep the interval, whatever is forced and however refreshes end. -/
theorem run_keepsIntervals
    (run : Run system (fresh name interval script) history last) :
    KeepsIntervals interval history := by
  constructor
  case begun =>
    intro transition member refresh begins
    have within := LiesWithin.of_mem (.fresh name interval script) run member
    obtain ⟨-, ⟨place, number, moves, isLoop, -⟩ | ⟨asks, -⟩⟩ :=
      begins.cases within.moved within.coherent.orderly
    · exact .inr ⟨number, begins, place, _, moves, isLoop⟩
    · exact .inl ⟨begins, asks⟩
  case periodic =>
    rintro earlier begins later number refresh rfl periodic
    exact beginsInTime run periodic

end ScriptedTicker

/--
A tick that is forced while the first loop sleeps, and takes two moments. The first loop ends
when it wakes up, and the loop that took its place goes on until it is due.
-/
def TickerAction.forcedWhileAsleep : List (Move TickerAction) :=
  [.turn 0, .wait 5, .intervene (.call .tick), .turn 1, .turn 2, .wait 2, .turn 2, .turn 1,
    .turn 3, .turn 3, .wait 3, .turn 0, .wait 7, .turn 3]

/-- The next periodic refresh begins an interval after the end of the forced one. -/
theorem ScriptedTicker.run_forcedWhileAsleep :
    ∃ (earlier : List (TickerTransition Nat))
      (begins : TickerTransition Nat)
      (last : Configuration (ScriptedTicker Nat) (TickerTask Nat)),
      Run system (fresh "ticker" 10 ⟨fun _ => 2, fun _ => .success 7⟩)
          (earlier ++ [begins]) last ∧
        begins.BeginsPeriodically 1 1 ∧
        begins.before.now = 17 ∧
        (completions earlier).map (fun completion => (completion.refresh, completion.moment)) =
          [(0, 7)] ∧
        KeepsIntervals 10 (earlier ++ [begins]) := by
  have observed :
      ((fresh "ticker" 10 ⟨fun _ => 2, fun _ => .success 7⟩).trace? system
          TickerAction.forcedWhileAsleep).bind (fun (earlier, before) =>
            (before.after? system (.turn 3)).map fun after =>
              (before.now, before.task? 3, before.shared.ticker.refreshes,
                after.shared.ticker.refreshes.length,
                (completions earlier).map fun completion =>
                  (completion.refresh, completion.moment))) =
        some (17, some (.loop ⟨1, .due⟩), [.published true], 2, [(0, 7)]) := by
    rfl
  obtain ⟨⟨earlier, before⟩, traced, seen⟩ := Option.bind_eq_some_iff.mp observed
  obtain ⟨last, possible, tuple⟩ := Option.map_eq_some_iff.mp seen
  simp only [Prod.mk.injEq] at tuple
  obtain ⟨now, due, refreshes, next, completed⟩ := tuple
  have run := (Run.of_trace? traced).step possible
  exact
    ⟨earlier, ⟨before, .turn 3, last⟩, last, run,
      ⟨⟨congrArg List.length refreshes, next⟩, 3, _, rfl, due⟩, now, completed,
      run_keepsIntervals run⟩

end FeatureFlags
