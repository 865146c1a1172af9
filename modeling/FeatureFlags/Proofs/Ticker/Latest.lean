import FeatureFlags.Proofs.Ticker.Sharing

namespace FeatureFlags

/-!
# The latest success

Refreshes end in tasks of their own, forced and periodic ones alike, while callers look at
the value. Along every run the value of a ticker is that of the refresh that was the last
to succeed, and its age counts from that moment; failures and breakdowns leave no trace.
-/

variable {α : Type}

/-- How and when a refresh ended. -/
structure Completion (α : Type) where
  refresh : Nat
  moment : Moment
  result : RefreshEnd α

namespace Completion

/-- The value of a success together with its moment. -/
def success? (completion : Completion α) : Option (α × Moment) :=
  completion.result.value?.map fun value => (value, completion.moment)

end Completion

/-- What a task completes in its turn. -/
def TickerTask.completion?
    (now : Moment) :
    TickerTask α → Option (Completion α)
  | .refreshing number _ result => some ⟨number, now, result⟩
  | _ => none

namespace TickerTransition

/-- The refresh that ends in a transition. -/
def completion? (transition : TickerTransition α) : Option (Completion α) :=
  match transition.move with
  | .turn place =>
      (transition.before.task? place).bind (TickerTask.completion? transition.before.now)
  | _ => none

/-- A caller of the value looks whether there is one. -/
structure Looks
    (transition : TickerTransition α)
    (place : Nat) :
    Prop where
  move : transition.move = .turn place
  task : transition.before.task? place = some .looking

end TickerTransition

/-- The refreshes that ended along a history, in the order of their ends. -/
def completions (history : List (TickerTransition α)) : List (Completion α) :=
  history.filterMap TickerTransition.completion?

/-- The value of the refresh that was the last to succeed, and when that was. -/
def latestSuccess? (history : List (TickerTransition α)) : Option (α × Moment) :=
  ((completions history).filterMap Completion.success?).getLast?

theorem mem_completions_snoc
    {history : List (TickerTransition α)}
    {transition : TickerTransition α}
    {completion : Completion α} :
    completion ∈ completions (history ++ [transition]) ↔
      completion ∈ completions history ∨ transition.completion? = some completion := by
  simp [completions, List.filterMap_append]

theorem latestSuccess?_snoc
    (history : List (TickerTransition α))
    (transition : TickerTransition α) :
    latestSuccess? (history ++ [transition]) =
      (transition.completion?.bind Completion.success?).or (latestSuccess? history) := by
  unfold latestSuccess? completions
  cases ended : transition.completion? with
  | none =>
      simp [ended]
  | some completion =>
      cases succeeded : completion.success? <;>
        simp [ended, succeeded, List.filterMap_append]

namespace Ticker

theorem last_await?
    {ticker after : Ticker α}
    {refresh : Nat}
    {succeeded : Bool}
    (seen : ticker.await? refresh = some (after, succeeded)) :
    after.last = ticker.last := by
  rcases await?_cases seen with ⟨-, rfl⟩ | ⟨-, rfl⟩ <;> rfl

theorem last_finish
    (ticker : Ticker α)
    (now : Moment)
    (refresh : Nat)
    (value : Option α) :
    (ticker.finish now refresh value).last =
      (value.map fun value => (value, now)).or ticker.last := by
  cases value <;> rfl

end Ticker

/-! ## Steps -/

namespace TickerTurn

variable
  {now : Moment}
  {scripted : ScriptedTicker α}
  {task : TickerTask α}
  {turn : Turn (ScriptedTicker α) (TickerTask α)}

/-- Of all turns only the end of a refresh touches the value, and only if it is a success. -/
theorem last_eq
    (taken : TickerTurn now scripted task turn) :
    turn.shared.ticker.last =
      ((task.completion? now).bind Completion.success?).or scripted.ticker.last := by
  cases taken with
  | loopSees seen | tickReturns seen | valueReturns seen =>
      exact Ticker.last_await? seen
  | loopEnds | loopSleeps | loopWakes | loopJoins | loopBegins | refreshBegins
  | callerMisses | callerLooks | callerRefused | callerJoins | callerBegins =>
      rfl
  | refreshEnds =>
      exact Ticker.last_finish _ _ _ _

/-- A caller that asks for a refresh and is not refused comes to wait for one. -/
theorem awaits_of_asking
    {call : TickerCall}
    (taken : TickerTurn now scripted (.asking call) turn)
    (notDisposed : scripted.ticker.disposed = false) :
    ∃ refresh, turn.task = some (.awaiting call refresh) := by
  cases taken with
  | callerRefused disposed =>
      simp [notDisposed] at disposed
  | callerJoins =>
      exact ⟨_, rfl⟩
  | callerBegins =>
      exact ⟨_, rfl⟩

/-- Only a caller that finds no value comes to ask for the value's sake. -/
theorem of_asking_value
    (taken : TickerTurn now scripted task turn)
    (asks : turn.task = some (.asking .value)) :
    task = .looking ∧ scripted.ticker.last = none := by
  cases taken with
  | callerMisses _ missing =>
      exact ⟨rfl, missing⟩
  | loopSees | loopEnds | loopSleeps | loopWakes | loopJoins | loopBegins | refreshBegins
  | refreshEnds | callerLooks | callerRefused | callerJoins | callerBegins | tickReturns
  | valueReturns =>
      cases asks

end TickerTurn

namespace TickerMove

variable
  {configuration next : Configuration (ScriptedTicker α) (TickerTask α)}
  {move : Move TickerAction}

theorem last_eq
    (moved : TickerMove configuration move next) :
    next.shared.ticker.last =
      ((TickerTransition.completion? ⟨configuration, move, next⟩).bind
        Completion.success?).or configuration.shared.ticker.last := by
  cases moved with
  | turn found taken =>
      simp only [TickerTransition.completion?, found, Option.bind_some]
      exact taken.last_eq
  | wait | call | dispose =>
      rfl

/-- A move completes a refresh exactly when it gives the refresh its outcome. -/
theorem outcome?_iff
    (moved : TickerMove configuration move next)
    (coherent : ScriptedTicker.Coherent configuration)
    {refresh : Nat}
    {succeeded : Bool} :
    next.shared.ticker.outcome? refresh = some succeeded ↔
      configuration.shared.ticker.outcome? refresh = some succeeded ∨
      ∃ completion,
        TickerTransition.completion? ⟨configuration, move, next⟩ = some completion ∧
          completion.refresh = refresh ∧
          completion.result.value?.isSome = succeeded := by
  constructor
  · intro outcome
    cases moved with
    | turn found taken =>
        have runs (refresh : Nat) (carries : TickerTask.refresh? _ = some refresh) :
            configuration.shared.ticker.running? = some refresh :=
          coherent.running?_of_refresh? found carries
        rcases taken.outcome?_cases coherent.orderly runs outcome with
          known | ⟨wake, result, rfl, same, -⟩
        · exact .inl known
        · refine .inr ⟨⟨refresh, configuration.now, result⟩, ?_, rfl, same⟩
          simp [TickerTransition.completion?, found, TickerTask.completion?]
    | wait | call | dispose =>
        exact .inl outcome
  · rintro (known | ⟨completion, completes, rfl, rfl⟩)
    · exact (coherent.change moved).outcome?_eq coherent.orderly known
    · cases moved with
      | turn found taken =>
          simp only [TickerTransition.completion?, found, Option.bind_some] at completes
          cases taken with
          | refreshEnds =>
              cases completes
              -- Whoever carries out a refresh holds the slot, so the outcome is put down for it.
              have running := coherent.running?_of_refresh? found rfl
              obtain ⟨held, -⟩ := Ticker.running?_eq_some_iff.mp running
              have known := coherent.orderly.lt_length_of_slot held
              simp [Configuration.update, Ticker.outcome?_finish _ known]
          | loopSees | loopEnds | loopSleeps | loopWakes | loopJoins | loopBegins
          | refreshBegins | callerMisses | callerLooks | callerRefused | callerJoins
          | callerBegins | tickReturns | valueReturns =>
              cases completes
      | wait | call | dispose =>
          cases completes

end TickerMove

/-! ## Runs -/

namespace ScriptedTicker

variable
  {name : String}
  {interval : Nat}
  {script : RefreshScript α}
  {history : List (TickerTransition α)}
  {last : Configuration (ScriptedTicker α) (TickerTask α)}

/-- What a ticker keeps is the latest success of its whole history. -/
private theorem last_eq_latestSuccess?
    (run : Run system (fresh name interval script) history last) :
    last.shared.ticker.last = latestSuccess? history := by
  induction run with
  | start =>
      rfl
  | step run possible inductionHypothesis =>
      rw [latestSuccess?_snoc, ← inductionHypothesis]
      exact (TickerMove.of_after? possible).last_eq

/-- Time does not run back. -/
theorem now_le_of_after?
    {configuration next : Configuration (ScriptedTicker α) (TickerTask α)}
    {move : Move TickerAction}
    (possible : configuration.after? system move = some next) :
    configuration.now ≤ next.now := by
  cases TickerMove.of_after? possible with
  | wait =>
      exact Nat.le_add_right _ _
  | turn | call | dispose =>
      exact Nat.le_refl _

/-- A refresh is completed at the moment of the transition. -/
theorem moment_of_completion?
    {transition : TickerTransition α}
    {completion : Completion α}
    (completes : transition.completion? = some completion) :
    completion.moment = transition.before.now := by
  obtain ⟨before, move, after⟩ := transition
  cases move with
  | turn place =>
      obtain ⟨task, -, ends⟩ := Option.bind_eq_some_iff.mp completes
      cases task with
      | refreshing =>
          cases ends
          rfl
      | loop | refresh | looking | asking | awaiting | answered =>
          cases ends
  | wait | intervene =>
      cases completes

/-- Whatever ended did so in the past. -/
private theorem moment_le_now
    (run : Run system (fresh name interval script) history last)
    {completion : Completion α}
    (member : completion ∈ completions history) :
    completion.moment ≤ last.now := by
  induction run with
  | start =>
      simp [completions] at member
  | step run possible inductionHypothesis =>
      have later := now_le_of_after? possible
      rcases mem_completions_snoc.mp member with earlier | newest
      · exact Nat.le_trans (inductionHypothesis earlier) later
      · exact Nat.le_trans (Nat.le_of_eq (moment_of_completion? newest)) later

/-- The outcomes that have come in a run are those with which refreshes were completed. -/
theorem Coherent.outcome?_iff
    {start : Configuration (ScriptedTicker α) (TickerTask α)}
    (coherent : Coherent start)
    (run : Run system start history last)
    {refresh : Nat}
    {succeeded : Bool} :
    last.shared.ticker.outcome? refresh = some succeeded ↔
      start.shared.ticker.outcome? refresh = some succeeded ∨
      ∃ completion ∈ completions history,
        completion.refresh = refresh ∧ completion.result.value?.isSome = succeeded := by
  induction run with
  | start =>
      simp [completions]
  | step run possible inductionHypothesis =>
      rw [(TickerMove.of_after? possible).outcome?_iff (coherent.later run), inductionHypothesis]
      simp only [mem_completions_snoc, or_and_right, exists_or, or_assoc]

/-- The outcomes of refreshes are those with which they were completed. -/
theorem outcome?_iff
    (run : Run system (fresh name interval script) history last)
    {refresh : Nat}
    {succeeded : Bool} :
    last.shared.ticker.outcome? refresh = some succeeded ↔
      ∃ completion ∈ completions history,
        completion.refresh = refresh ∧ completion.result.value?.isSome = succeeded := by
  have none : (fresh name interval script).shared.ticker.outcome? refresh = none := by
    simp [fresh, Ticker.outcome?, Ticker.status, RefreshStatus.outcome?]
  simp [(Coherent.fresh name interval script).outcome?_iff run, none]

/-- Whoever asks for the sake of the value looked before any refresh had succeeded. -/
private theorem looked_of_asking
    (run : Run system (fresh name interval script) history last)
    {place : Nat}
    (asks : last.task? place = some (.asking .value)) :
    ∃ before look between,
      history = before ++ look :: between ∧
        TickerTransition.Looks look place ∧
        latestSuccess? before = none := by
  induction run with
  | start =>
      cases place <;> simp [fresh, Configuration.task?] at asks
  | step run possible inductionHypothesis =>
      rcases (TickerMove.of_after? possible).task?_cases asks with
        waited | ⟨_, turn, moves, present, taken, left, -⟩ | new
      · obtain ⟨before, look, between, rfl, looks, missing⟩ := inductionHypothesis waited
        exact
          ⟨before, look, between ++ [_], List.append_assoc before (look :: between) [_],
            looks, missing⟩
      -- The caller looks at this very moment, at what the whole run so far has stored.
      · obtain ⟨rfl, missing⟩ := taken.of_asking_value left
        refine ⟨_, _, [], rfl, ⟨moves, present⟩, ?_⟩
        rw [← last_eq_latestSuccess? run]
        exact missing
      · cases new

end ScriptedTicker

/-- What a ticker shows along a history, and when its value is reason for a refresh. -/
structure ShowsLatest
    (history : List (TickerTransition α))
    (last : Configuration (ScriptedTicker α) (TickerTask α)) :
    Prop where
  /-- Whoever began a refresh, it is completed when it gets its outcome. -/
  completed :
    ∀ {refresh succeeded},
      last.shared.ticker.outcome? refresh = some succeeded ↔
        ∃ completion ∈ completions history,
          completion.refresh = refresh ∧ completion.result.value?.isSome = succeeded
  value :
    last.shared.ticker.disposed = false →
    last.shared.ticker.snapshot last.now =
      .ok
        { value := (latestSuccess? history).map (·.1)
          age := (latestSuccess? history).map fun success => last.now - success.2 }
  past :
    ∀ {success},
      latestSuccess? history = some success →
      success.2 ≤ last.now
  /-- A success is kept with its moment. -/
  stored :
    ∀ transition ∈ history,
      ∀ {completion value},
        transition.completion? = some completion →
        completion.result = .success value →
        transition.after.shared.ticker.last = some (value, transition.before.now)
  /-- Failures and breakdowns, and all moves that complete nothing, change nothing. -/
  kept :
    ∀ transition ∈ history,
      (∀ completion value,
        transition.completion? = some completion → completion.result ≠ .success value) →
      transition.after.shared.ticker.last = transition.before.shared.ticker.last
  /-- Whoever finds that no refresh has succeeded goes on to ask for one. -/
  misses :
    ∀ {earlier transition later place},
      history = earlier ++ transition :: later →
      transition.Looks place →
      transition.before.shared.ticker.disposed = false →
      latestSuccess? earlier = none →
      transition.after.task? place = some (.asking .value)
  /-- Whoever finds a success is told its value, however old, and nothing else happens. -/
  finds :
    ∀ {earlier transition later place value moment},
      history = earlier ++ transition :: later →
      transition.Looks place →
      transition.before.shared.ticker.disposed = false →
      latestSuccess? earlier = some (value, moment) →
      transition.after =
        { transition.before with
          tasks :=
            transition.before.tasks.set place
              (some (.answered
                (.value ⟨some value, some (transition.before.now - moment)⟩))) }
  /-- Whoever asks for the sake of the value has found that no refresh had succeeded. -/
  asksMissed :
    ∀ {earlier transition later place},
      history = earlier ++ transition :: later →
      transition.Asks place .value →
      ∃ before look between,
        earlier = before ++ look :: between ∧
          look.Looks place ∧
          latestSuccess? before = none
  /-- Whoever asks joins a refresh or begins one. -/
  asksJoins :
    ∀ transition ∈ history,
      ∀ {place call},
        transition.Asks place call →
        transition.before.shared.ticker.disposed = false →
        ∃ refresh, transition.Joins place call refresh

/-- A caller that looks takes its only turn. -/
private theorem turn_of_looks
    {transition : TickerTransition α}
    (moved : TickerMove transition.before transition.move transition.after)
    {place : Nat}
    (looks : transition.Looks place) :
    ∃ turn,
      TickerTurn transition.before.now transition.before.shared .looking turn ∧
        transition.after = transition.before.update place turn := by
  obtain ⟨before, move, after⟩ := transition
  obtain ⟨moves, present⟩ := looks
  obtain rfl : move = .turn place := moves
  change TickerMove before (.turn place) after at moved
  cases moved with
  | turn found taken =>
      obtain rfl := Option.some.inj (found.symm.trans present)
      exact ⟨_, taken, rfl⟩

/-- Along every run from a new ticker, its value is that of the latest success. -/
theorem ScriptedTicker.run_showsLatest
    {name : String}
    {interval : Nat}
    {script : RefreshScript α}
    {history : List (TickerTransition α)}
    {last : Configuration (ScriptedTicker α) (TickerTask α)}
    (run : Run ScriptedTicker.system (ScriptedTicker.fresh name interval script) history last) :
    ShowsLatest history last := by
  have held := last_eq_latestSuccess? run
  have lastAfter :
      ∀ transition ∈ history,
        transition.after.shared.ticker.last =
          (transition.completion?.bind Completion.success?).or
            transition.before.shared.ticker.last := by
    intro transition member
    obtain ⟨_, -, possible⟩ := run.of_mem member
    exact (TickerMove.of_after? possible).last_eq
  refine
    { completed := outcome?_iff run
      value := ?value
      past := ?past
      stored := ?stored
      kept := ?kept
      misses := ?misses
      finds := ?finds
      asksMissed := ?asksMissed
      asksJoins := ?asksJoins }
  case value =>
    intro notDisposed
    simp [Ticker.snapshot, notDisposed, held]
  case past =>
    intro success latest
    obtain ⟨completion, member, succeeds⟩ :=
      List.mem_filterMap.mp (List.mem_of_getLast? latest)
    obtain ⟨value, -, rfl⟩ := Option.map_eq_some_iff.mp succeeds
    exact moment_le_now run member
  case stored =>
    intro transition member completion value completes succeeds
    rw [lastAfter transition member, completes, ← moment_of_completion? completes]
    simp [Completion.success?, succeeds, RefreshEnd.value?]
  case kept =>
    intro transition member fails
    rw [lastAfter transition member]
    cases completes : transition.completion? with
    | none =>
        rfl
    | some completion =>
        cases ended : completion.result with
        | success value =>
            exact absurd ended (fails completion value completes)
        | breakdown | failure =>
            simp [Completion.success?, ended, RefreshEnd.value?]
  case misses =>
    rintro earlier transition later place rfl looks notDisposed missing
    obtain ⟨before, possible⟩ := run.of_split
    obtain ⟨turn, taken, after⟩ := turn_of_looks (.of_after? possible) looks
    have empty := (last_eq_latestSuccess? before).trans missing
    rw [after, Configuration.task?_update_self looks.task turn]
    cases taken with
    | callerMisses =>
        rfl
    | callerLooks refusedOrFound =>
        simp [notDisposed, empty] at refusedOrFound
  case finds =>
    rintro earlier transition later place value moment rfl looks notDisposed found
    obtain ⟨before, possible⟩ := run.of_split
    obtain ⟨turn, taken, after⟩ := turn_of_looks (.of_after? possible) looks
    have kept := (last_eq_latestSuccess? before).trans found
    cases taken with
    | callerMisses _ missing =>
        simp [kept] at missing
    | callerLooks =>
        rw [after]
        simp [Configuration.update, Ticker.snapshot, notDisposed, kept,
          TickerAnswer.ofSnapshot]
  case asksMissed =>
    rintro earlier transition later place rfl asks
    exact looked_of_asking run.of_split.1 asks.task
  case asksJoins =>
    intro transition member place call asks notDisposed
    obtain ⟨_, -, possible⟩ := run.of_mem member
    obtain ⟨turn, taken, after⟩ := turn_of_asks (.of_after? possible) asks
    obtain ⟨refresh, waits⟩ := taken.awaits_of_asking notDisposed
    refine ⟨refresh, asks, ?_⟩
    rw [after, Configuration.task?_update_self asks.task turn, waits]

/-- The first refresh fails, the second succeeds, and all others break down. -/
def RefreshScript.failureSuccessBreakdown : RefreshScript Nat where
  delay _ := 0
  result
    | 0 => .failure
    | 1 => .success 7
    | _ => .breakdown

/--
A caller of the value for whom a refresh fails, a success at the fifth moment, a breakdown,
and three moments later another caller of the value.
-/
def TickerAction.failureSuccessBreakdown : List (Move TickerAction) :=
  [.intervene (.call .value), .turn 1, .turn 1, .turn 2, .turn 2, .turn 1, .wait 5,
    .intervene (.call .tick), .turn 4, .turn 5, .turn 5, .turn 4,
    .intervene (.call .tick), .turn 7, .turn 8, .turn 8, .turn 7, .wait 3,
    .intervene (.call .value), .turn 10]

/-- The success outlives the breakdown, and its age counts from the fifth moment. -/
theorem ScriptedTicker.run_failureSuccessBreakdown :
    ∃ (history : List (TickerTransition Nat))
      (last : Configuration (ScriptedTicker Nat) (TickerTask Nat)),
      last.shared.ticker.refreshes = [.published false, .published true, .published false] ∧
        last.shared.ticker.last = some (7, 5) ∧
        last.now = 8 ∧
        ShowsLatest history last := by
  have observed :
      ((ScriptedTicker.fresh "ticker" 60000 .failureSuccessBreakdown).follow?
          ScriptedTicker.system TickerAction.failureSuccessBreakdown).map
        (fun last => (last.shared.ticker.refreshes, last.shared.ticker.last, last.now)) =
      some ([.published false, .published true, .published false], some (7, 5), 8) := by
    decide +kernel
  obtain ⟨last, followed, seen⟩ := Option.map_eq_some_iff.mp observed
  obtain ⟨refreshes, kept⟩ := Prod.mk.inj seen
  obtain ⟨value, now⟩ := Prod.mk.inj kept
  obtain ⟨history, run⟩ := Run.of_follow? followed
  exact ⟨history, last, refreshes, value, now, ScriptedTicker.run_showsLatest run⟩

end FeatureFlags
