import FeatureFlags.Proofs.Interleaving
import FeatureFlags.Proofs.Ticker.Pacing
import FeatureFlags.Ticker.Scripted

namespace FeatureFlags

/-!
# Turns around a ticker

All turns that the tasks around a ticker can take, one rule for each, and the
system of those tasks in which callers come and the ticker is disposed at any
moment.
-/

variable {α : Type}

namespace TickerTask

/-- The refresh that a task carries out and has not ended yet. -/
def refresh? : TickerTask α → Option Nat
  | .refresh number => some number
  | .refreshing number _ _ => some number
  | _ => none

/-- The number of the loop that a task is. -/
def loop? : TickerTask α → Option Nat
  | .loop periodic => some periodic.number
  | _ => none

end TickerTask

/-- The tasks that others or callers begin. -/
inductive TickerTask.IsNew : TickerTask α → Prop where
  | refresh (number : Nat) : IsNew (.refresh number)
  | loop (loop : TickerLoop) : IsNew (.loop loop)
  | looking : IsNew .looking
  | asking : IsNew (.asking .tick)

/-- A look at the value is never answered with an outcome. -/
theorem TickerAnswer.ofSnapshot_ne_refreshed
    (seen : Except Failure (Snapshot α))
    (succeeded : Bool) :
    TickerAnswer.ofSnapshot seen ≠ .refreshed succeeded := by
  cases seen <;> exact nofun

/-! ## Rules -/

/-- The turns of the tasks around a ticker. -/
inductive TickerTurn
    (now : Moment)
    (scripted : ScriptedTicker α) :
    TickerTask α → Turn (ScriptedTicker α) (TickerTask α) → Prop where
  /-- A loop sees the outcome of the refresh that it waits for. -/
  | loopSees
      {number refresh : Nat}
      {after : Ticker α}
      {succeeded : Bool} :
      scripted.ticker.await? refresh = some (after, succeeded) →
      TickerTurn now scripted
        (.loop ⟨number, .awaiting refresh⟩)
        ⟨{ scripted with ticker := after }, some (.loop ⟨number, .resting⟩), []⟩
  /-- A loop that waits for no refresh ends when it has been told to. -/
  | loopEnds
      {number : Nat}
      {stage : LoopStage} :
      (∀ refresh, stage ≠ .awaiting refresh) →
      scripted.ticker.isCancelled number = true →
      TickerTurn now scripted
        (.loop ⟨number, stage⟩)
        ⟨scripted, none, []⟩
  /-- A loop goes to sleep. -/
  | loopSleeps
      {number : Nat} :
      scripted.ticker.isCancelled number = false →
      TickerTurn now scripted
        (.loop ⟨number, .resting⟩)
        ⟨scripted, some (.loop ⟨number, .sleeping (now + scripted.ticker.interval)⟩), []⟩
  /-- A loop wakes up. -/
  | loopWakes
      {number : Nat}
      {wake : Moment} :
      scripted.ticker.isCancelled number = false →
      wake ≤ now →
      TickerTurn now scripted
        (.loop ⟨number, .sleeping wake⟩)
        ⟨scripted, some (.loop ⟨number, .due⟩), []⟩
  /-- A loop joins the refresh in flight. -/
  | loopJoins
      {number refresh : Nat} :
      scripted.ticker.isCancelled number = false →
      scripted.ticker.inFlight? = some refresh →
      TickerTurn now scripted
        (.loop ⟨number, .due⟩)
        ⟨scripted, some (.loop ⟨number, .awaiting refresh⟩), []⟩
  /-- A loop begins a refresh. -/
  | loopBegins
      {number : Nat} :
      scripted.ticker.isCancelled number = false →
      scripted.ticker.inFlight? = none →
      TickerTurn now scripted
        (.loop ⟨number, .due⟩)
        ⟨{ scripted with ticker := scripted.ticker.begin },
          some (.loop ⟨number, .awaiting scripted.ticker.refreshes.length⟩),
          [.refresh scripted.ticker.refreshes.length]⟩
  /-- A refresh turns to its script. -/
  | refreshBegins
      {number : Nat} :
      TickerTurn now scripted
        (.refresh number)
        ⟨{ scripted with begun := scripted.begun + 1 },
          some (.refreshing number (now + scripted.script.delay scripted.begun)
            (scripted.script.result scripted.begun)), []⟩
  /-- A refresh ends. -/
  | refreshEnds
      {number : Nat}
      {wake : Moment}
      {result : RefreshEnd α} :
      wake ≤ now →
      TickerTurn now scripted
        (.refreshing number wake result)
        ⟨{ scripted with ticker := scripted.ticker.finish now number result.value? }, none, []⟩
  /-- A caller finds that there never was a value. -/
  | callerMisses :
      scripted.ticker.disposed = false →
      scripted.ticker.last = none →
      TickerTurn now scripted .looking ⟨scripted, some (.asking .value), []⟩
  /-- A caller is told the value, or that the ticker has been disposed. -/
  | callerLooks :
      (scripted.ticker.disposed = true ∨ scripted.ticker.last.isSome) →
      TickerTurn now scripted
        .looking
        ⟨scripted, some (.answered (.ofSnapshot (scripted.ticker.snapshot now))), []⟩
  /-- A caller finds the ticker disposed. -/
  | callerRefused
      {call : TickerCall} :
      scripted.ticker.disposed = true →
      TickerTurn now scripted
        (.asking call)
        ⟨scripted, some (.answered (.failed (.disposed scripted.ticker.name))), []⟩
  /-- A caller joins the refresh in flight. -/
  | callerJoins
      {call : TickerCall}
      {refresh : Nat} :
      scripted.ticker.disposed = false →
      scripted.ticker.inFlight? = some refresh →
      TickerTurn now scripted
        (.asking call)
        ⟨scripted, some (.awaiting call refresh), []⟩
  /-- A caller begins a refresh, and a new loop that waits for it. -/
  | callerBegins
      {call : TickerCall} :
      scripted.ticker.disposed = false →
      scripted.ticker.inFlight? = none →
      TickerTurn now scripted
        (.asking call)
        ⟨{ scripted with
            ticker := { scripted.ticker.begin with loop := scripted.ticker.loop + 1 } },
          some (.awaiting call scripted.ticker.refreshes.length),
          [.refresh scripted.ticker.refreshes.length,
            .loop ⟨scripted.ticker.loop + 1, .awaiting scripted.ticker.refreshes.length⟩]⟩
  /-- A caller is told the outcome of the refresh that it waits for. -/
  | tickReturns
      {refresh : Nat}
      {after : Ticker α}
      {succeeded : Bool} :
      scripted.ticker.await? refresh = some (after, succeeded) →
      TickerTurn now scripted
        (.awaiting .tick refresh)
        ⟨{ scripted with ticker := after }, some (.answered (.refreshed succeeded)), []⟩
  /-- A caller is told the value after the refresh that it waits for. -/
  | valueReturns
      {refresh : Nat}
      {after : Ticker α}
      {succeeded : Bool} :
      scripted.ticker.await? refresh = some (after, succeeded) →
      TickerTurn now scripted
        (.awaiting .value refresh)
        ⟨{ scripted with ticker := after },
          some (.answered (.ofSnapshot (after.snapshot now))), []⟩

namespace TickerTurn

variable
  {now : Moment}
  {scripted : ScriptedTicker α}
  {task : TickerTask α}
  {turn : Turn (ScriptedTicker α) (TickerTask α)}

/-- The turns of a loop that has not been told to end are among the rules. -/
private theorem of_loop_inForce
    {number : Nat}
    {stage : LoopStage}
    {move : TickerLoop.Move α}
    (inForce : scripted.ticker.isCancelled number = false)
    (waitsForNone : ∀ refresh, stage ≠ .awaiting refresh)
    (possible : TickerLoop.move? now scripted.ticker ⟨number, stage⟩ = some move) :
    TickerTurn now scripted
      (.loop ⟨number, stage⟩)
      ⟨{ scripted with ticker := move.ticker }, move.loop.map .loop,
        move.refresh.toList.map .refresh⟩ := by
  cases stage with
  | awaiting refresh =>
      exact absurd rfl (waitsForNone refresh)
  | resting =>
      simp only [TickerLoop.move?, inForce, Bool.false_eq_true, ↓reduceIte,
        Option.some.injEq] at possible
      subst move
      exact loopSleeps inForce
  | sleeping wake =>
      simp only [TickerLoop.move?, inForce, Bool.false_eq_true, ↓reduceIte,
        Option.ite_none_right_eq_some, Option.some.injEq] at possible
      obtain ⟨awake, rfl⟩ := possible
      exact loopWakes inForce awake
  | due =>
      cases flight : scripted.ticker.inFlight? with
      | some refresh =>
          simp only [TickerLoop.move?, inForce, Bool.false_eq_true, ↓reduceIte,
            Ticker.joinOrBegin, flight, Option.some.injEq] at possible
          subst move
          exact loopJoins inForce flight
      | none =>
          simp only [TickerLoop.move?, inForce, Bool.false_eq_true, ↓reduceIte,
            Ticker.joinOrBegin, flight, Option.some.injEq] at possible
          subst move
          exact loopBegins inForce flight

/-- The turns of a loop are among the rules. -/
private theorem of_loop
    {loop : TickerLoop}
    {move : TickerLoop.Move α}
    (possible : loop.move? now scripted.ticker = some move) :
    TickerTurn now scripted
      (.loop loop)
      ⟨{ scripted with ticker := move.ticker }, move.loop.map .loop,
        move.refresh.toList.map .refresh⟩ := by
  rcases loop with ⟨number, stage⟩
  by_cases waits : ∃ refresh, stage = .awaiting refresh
  · obtain ⟨refresh, rfl⟩ := waits
    obtain ⟨⟨after, succeeded⟩, seen, rfl⟩ := Option.map_eq_some_iff.mp possible
    exact loopSees seen
  · have waitsForNone : ∀ refresh, stage ≠ .awaiting refresh := not_exists.mp waits
    cases cancelled : scripted.ticker.isCancelled number with
    | true =>
        rw [TickerLoop.move?_of_isCancelled waitsForNone cancelled] at possible
        obtain rfl := Option.some.inj possible
        exact loopEnds waitsForNone cancelled
    | false =>
        exact of_loop_inForce cancelled waitsForNone possible

/-- Every turn that a task can take is among the rules. -/
theorem of_turn
    (possible : ScriptedTicker.turn now scripted task = some turn) :
    TickerTurn now scripted task turn := by
  cases task with
  | loop loop =>
      obtain ⟨move, moves, rfl⟩ := Option.map_eq_some_iff.mp possible
      exact of_loop moves
  | refresh number =>
      cases possible
      exact refreshBegins
  | refreshing number wake result =>
      simp only [ScriptedTicker.turn, Option.ite_none_right_eq_some,
        Option.some.injEq] at possible
      obtain ⟨awake, rfl⟩ := possible
      exact refreshEnds awake
  | looking =>
      cases disposed : scripted.ticker.disposed with
      | true =>
          have refused :
              scripted.ticker.snapshot now = .error (.disposed scripted.ticker.name) := by
            simp [Ticker.snapshot, disposed]
          simp only [ScriptedTicker.turn, refused, Option.some.injEq] at possible
          subst turn
          exact refused ▸ callerLooks (.inl disposed)
      | false =>
          cases last : scripted.ticker.last with
          | none =>
              simp only [ScriptedTicker.turn, Ticker.snapshot, disposed, Bool.false_eq_true,
                ↓reduceIte, last, Option.map_none, Option.some.injEq] at possible
              subst turn
              exact callerMisses disposed last
          | some kept =>
              have seen :
                  scripted.ticker.snapshot now =
                    .ok ⟨some kept.1, some (now - kept.2)⟩ := by
                simp [Ticker.snapshot, disposed, last]
              simp only [ScriptedTicker.turn, seen, Option.some.injEq] at possible
              subst turn
              exact seen ▸ callerLooks (.inr (by simp [last]))
  | asking call =>
      cases disposed : scripted.ticker.disposed with
      | true =>
          simp only [ScriptedTicker.turn, Ticker.tick, disposed, ↓reduceIte,
            Option.some.injEq] at possible
          subst turn
          exact callerRefused disposed
      | false =>
          cases flight : scripted.ticker.inFlight? with
          | some refresh =>
              simp only [ScriptedTicker.turn, Ticker.tick, disposed, Bool.false_eq_true,
                ↓reduceIte, Ticker.joinOrBegin, flight, Option.some.injEq] at possible
              subst turn
              exact callerJoins disposed flight
          | none =>
              simp only [ScriptedTicker.turn, Ticker.tick, disposed, Bool.false_eq_true,
                ↓reduceIte, Ticker.joinOrBegin, flight, Option.some.injEq] at possible
              subst turn
              exact callerBegins disposed flight
  | awaiting call refresh =>
      obtain ⟨⟨after, succeeded⟩, seen, rfl⟩ := Option.map_eq_some_iff.mp possible
      cases call with
      | tick =>
          exact tickReturns seen
      | value =>
          exact valueReturns seen
  | answered answer =>
      cases possible

/-- A turn changes the ticker in one of the known ways. -/
theorem change
    (taken : TickerTurn now scripted task turn)
    (runs : ∀ refresh, task.refresh? = some refresh → scripted.ticker.running? = some refresh) :
    scripted.ticker.Change now turn.shared.ticker := by
  cases taken with
  | loopSees seen | tickReturns seen | valueReturns seen =>
      exact .seen seen
  | loopEnds | loopSleeps | loopWakes | loopJoins | refreshBegins | callerMisses
  | callerLooks | callerRefused | callerJoins =>
      exact .unchanged
  | loopBegins inForce free =>
      exact .begun (by simp_all [Ticker.isCancelled]) free
  | callerBegins notDisposed free =>
      exact .forced notDisposed free
  | refreshEnds =>
      exact .finished _ (runs _ rfl)

/-- A refresh gets its outcome when it ends. -/
theorem outcome?_cases
    (taken : TickerTurn now scripted task turn)
    (inOrder : scripted.ticker.Orderly)
    (runs : ∀ refresh, task.refresh? = some refresh → scripted.ticker.running? = some refresh)
    {refresh : Nat}
    {succeeded : Bool}
    (found : turn.shared.ticker.outcome? refresh = some succeeded) :
    scripted.ticker.outcome? refresh = some succeeded ∨
    ∃ wake result,
      task = .refreshing refresh wake result ∧
        result.value?.isSome = succeeded ∧
        turn.shared.ticker = scripted.ticker.finish now refresh result.value? := by
  cases taken with
  | loopSees seen | tickReturns seen | valueReturns seen =>
      exact .inl ((Ticker.outcome?_await? seen refresh).symm.trans found)
  | loopEnds | loopSleeps | loopWakes | loopJoins | refreshBegins | callerMisses
  | callerLooks | callerRefused | callerJoins =>
      exact .inl found
  | loopBegins | callerBegins =>
      exact .inl ((Ticker.outcome?_begin scripted.ticker refresh).symm.trans found)
  | refreshEnds =>
      rename_i number wake result _
      obtain ⟨held, -⟩ := Ticker.running?_eq_some_iff.mp (runs number rfl)
      rw [Ticker.outcome?_finish _ (inOrder.lt_length_of_slot held)] at found
      by_cases same : refresh = number
      · subst same
        rw [if_pos rfl] at found
        exact .inr ⟨wake, result, rfl, Option.some.inj found, rfl⟩
      · rw [if_neg same] at found
        exact .inl found

/-- A turn begins new tasks only. -/
theorem isNew_of_begun
    (taken : TickerTurn now scripted task turn)
    {new : TickerTask α}
    (begun : new ∈ turn.begun) :
    new.IsNew := by
  cases taken with
  | loopSees | loopEnds | loopSleeps | loopWakes | loopJoins | refreshBegins | refreshEnds
  | callerMisses | callerLooks | callerRefused | callerJoins | tickReturns | valueReturns =>
      exact nomatch begun
  | loopBegins =>
      exact List.mem_singleton.mp begun ▸ .refresh _
  | callerBegins =>
      rcases List.mem_cons.mp begun with refresh | loop
      · exact refresh ▸ .refresh _
      · exact List.mem_singleton.mp loop ▸ .loop _

/-- A turn keeps its loop or ends it, and a loop that it begins is put in force. -/
theorem loop?_cases (taken : TickerTurn now scripted task turn) :
    (turn.task.bind TickerTask.loop? = task.loop? ∨ turn.task.bind TickerTask.loop? = none) ∧
      (turn.begun.filterMap TickerTask.loop? = [] ∧
          turn.shared.ticker.loop = scripted.ticker.loop ∨
        turn.begun.filterMap TickerTask.loop? = [scripted.ticker.loop + 1] ∧
          turn.shared.ticker.loop = scripted.ticker.loop + 1) := by
  cases taken with
  | loopSees seen =>
      exact ⟨.inl rfl, .inl ⟨rfl, Ticker.loop_await? seen⟩⟩
  | tickReturns seen | valueReturns seen =>
      exact ⟨.inl rfl, .inl ⟨rfl, Ticker.loop_await? seen⟩⟩
  | loopEnds =>
      exact ⟨.inr rfl, .inl ⟨rfl, rfl⟩⟩
  | loopSleeps | loopWakes | loopJoins | loopBegins | refreshBegins | callerMisses
  | callerLooks | callerRefused | callerJoins =>
      exact ⟨.inl rfl, .inl ⟨rfl, rfl⟩⟩
  | refreshEnds =>
      exact ⟨.inl rfl, .inl ⟨rfl, Ticker.loop_finish _ _ _ _⟩⟩
  | callerBegins =>
      exact ⟨.inl rfl, .inr ⟨rfl, rfl⟩⟩

/-- Whoever comes to wait for a refresh has asked for it, and it has begun. -/
theorem of_awaiting
    (taken : TickerTurn now scripted task turn)
    (inOrder : scripted.ticker.Orderly)
    {call : TickerCall}
    {refresh : Nat}
    (waits : turn.task = some (.awaiting call refresh)) :
    task = .asking call ∧ refresh < turn.shared.ticker.refreshes.length := by
  cases taken with
  | loopSees | loopEnds | loopSleeps | loopWakes | loopJoins | loopBegins | refreshBegins
  | refreshEnds | callerMisses | callerLooks | callerRefused | tickReturns | valueReturns =>
      cases waits
  | callerJoins _ flight =>
      cases waits
      rw [inOrder.inFlight?_eq] at flight
      exact ⟨rfl, inOrder.lt_length_of_slot flight⟩
  | callerBegins =>
      cases waits
      exact ⟨rfl, by simp [Ticker.begin]⟩

/-- Whoever is told an outcome has waited for a refresh with that outcome. -/
theorem of_refreshed
    (taken : TickerTurn now scripted task turn)
    {succeeded : Bool}
    (answered : turn.task = some (.answered (.refreshed succeeded))) :
    ∃ refresh,
      task = .awaiting .tick refresh ∧
        turn.shared.ticker.outcome? refresh = some succeeded := by
  cases taken with
  | tickReturns seen =>
      cases answered
      exact ⟨_, rfl, (Ticker.outcome?_await? seen _).trans (Ticker.outcome?_of_await? seen)⟩
  | callerLooks | valueReturns =>
      simp only [Option.some.injEq, TickerTask.answered.injEq] at answered
      exact absurd answered (TickerAnswer.ofSnapshot_ne_refreshed _ _)
  | loopSees | loopEnds | loopSleeps | loopWakes | loopJoins | loopBegins | refreshBegins
  | refreshEnds | callerMisses | callerRefused | callerJoins | callerBegins =>
      cases answered

end TickerTurn

/-! ## Moves -/

/-- What is done to a ticker from outside. -/
inductive TickerAction where
  | call (call : TickerCall)
  | dispose

namespace ScriptedTicker

/-- The tasks around a ticker, with callers that come and disposals at any moment. -/
def system : System (ScriptedTicker α) (TickerTask α) TickerAction where
  behaviour := behaviour
  intervene _ scripted
    | .call call => (scripted, [.ofCall call])
    | .dispose => (scripted.dispose, [])

/-- A new ticker with its first loop. -/
def fresh
    (name : String)
    (interval : Nat)
    (script : RefreshScript α) :
    Configuration (ScriptedTicker α) (TickerTask α) where
  shared := { ticker := { name, interval }, script }
  tasks := [some (.loop .first)]

end ScriptedTicker

/-- A task can take its turn at any moment at which the turn is possible. -/
theorem ScriptedTicker.after?_of_turn
    {configuration : Configuration (ScriptedTicker α) (TickerTask α)}
    {place : Nat}
    {task : TickerTask α}
    {turn : Turn (ScriptedTicker α) (TickerTask α)}
    (found : configuration.task? place = some task)
    (possible :
      ScriptedTicker.turn configuration.now configuration.shared task = some turn) :
    configuration.after? ScriptedTicker.system (.turn place) =
      some (configuration.update place turn) :=
  Configuration.after?_turn_eq_some_iff.mpr ⟨task, turn, found, possible, rfl⟩

/-- The moves of the system around a ticker. -/
inductive TickerMove
    (configuration : Configuration (ScriptedTicker α) (TickerTask α)) :
    Move TickerAction → Configuration (ScriptedTicker α) (TickerTask α) → Prop where
  | turn
      {place : Nat}
      {task : TickerTask α}
      {turn : Turn (ScriptedTicker α) (TickerTask α)} :
      configuration.task? place = some task →
      TickerTurn configuration.now configuration.shared task turn →
      TickerMove configuration (.turn place) (configuration.update place turn)
  | wait
      {duration : Nat} :
      TickerMove configuration
        (.wait duration)
        { configuration with now := configuration.now + duration }
  | call
      {call : TickerCall} :
      TickerMove configuration
        (.intervene (.call call))
        { configuration with tasks := configuration.tasks ++ [some (.ofCall call)] }
  | dispose :
      TickerMove configuration
        (.intervene .dispose)
        { configuration with shared := configuration.shared.dispose }

/-- Every possible move is among the rules. -/
theorem TickerMove.of_after?
    {configuration next : Configuration (ScriptedTicker α) (TickerTask α)}
    {move : Move TickerAction}
    (possible : configuration.after? ScriptedTicker.system move = some next) :
    TickerMove configuration move next := by
  cases move with
  | turn place =>
      obtain ⟨task, turn, found, taken, rfl⟩ :=
        Configuration.after?_turn_eq_some_iff.mp possible
      exact .turn found (.of_turn taken)
  | wait duration =>
      cases possible
      exact .wait
  | intervene action =>
      cases action with
      | call call =>
          cases possible
          exact .call
      | dispose =>
          simp only [Configuration.after?, ScriptedTicker.system, List.map_nil, List.append_nil,
            Option.some.injEq] at possible
          subst next
          exact .dispose

namespace TickerMove

variable
  {configuration next : Configuration (ScriptedTicker α) (TickerTask α)}
  {move : Move TickerAction}
  {place : Nat}
  {task : TickerTask α}

/-- A task was there before, or comes from a turn of its place, or is new. -/
theorem task?_cases
    (moved : TickerMove configuration move next)
    (found : next.task? place = some task) :
    configuration.task? place = some task ∨
    (∃ before turn,
      move = .turn place ∧
        configuration.task? place = some before ∧
        TickerTurn configuration.now configuration.shared before turn ∧
        turn.task = some task ∧
        next.shared = turn.shared) ∨
    task.IsNew := by
  cases moved with
  | turn present taken =>
      rcases Configuration.task?_update_cases present found with
        ⟨rfl, left⟩ | ⟨-, kept⟩ | begun
      · exact .inr (.inl ⟨_, _, rfl, present, taken, left, rfl⟩)
      · exact .inl kept
      · exact .inr (.inr (taken.isNew_of_begun begun))
  | wait | dispose =>
      exact .inl found
  | call =>
      rename_i call
      have oldOrNew :
          configuration.tasks[place]? = some (some task) ∨ task ∈ [TickerTask.ofCall call] :=
        Configuration.task?_append_cases found
      rcases oldOrNew with old | new
      · exact .inl (Option.join_eq_some_iff.mpr old)
      · rw [List.mem_singleton.mp new]
        cases call with
        | tick =>
            exact .inr (.inr .asking)
        | value =>
            exact .inr (.inr .looking)

/-- A task stays as it is until it takes a turn. -/
theorem task?_kept
    (moved : TickerMove configuration move next)
    (found : configuration.task? place = some task) :
    next.task? place = some task ∨
    ∃ turn,
      move = .turn place ∧
        TickerTurn configuration.now configuration.shared task turn ∧
        next.task? place = turn.task ∧
        next.shared = turn.shared := by
  cases moved with
  | turn present taken =>
      rename_i moving _ _
      by_cases same : place = moving
      · subst same
        obtain rfl := Option.some.inj (present.symm.trans found)
        exact .inr ⟨_, rfl, taken, Configuration.task?_update_self present _, rfl⟩
      · exact .inl (Configuration.task?_update_other same found _)
  | wait | dispose =>
      exact .inl found
  | call =>
      have inside := Configuration.lt_length_of_task? found
      simp only [Configuration.task?] at found
      exact .inl (by simpa [Configuration.task?, List.getElem?_append_left, inside] using found)

end TickerMove

end FeatureFlags
