import FeatureFlags.Proofs.Ticker.Sharing

namespace FeatureFlags

/-!
# Freshness of outcomes

A refresh leaves the slot when somebody who waits for it sees its outcome, which is a
later move than the end of the refresh. Whoever asks in between shares an outcome that is
settled but that nobody has been told yet; nobody ever shares one that has been told.
-/

variable {α : Type}

/-- The refresh that a task waits for. -/
def TickerTask.awaited? : TickerTask α → Option Nat
  | .loop ⟨_, .awaiting number⟩ => some number
  | .awaiting _ number => some number
  | _ => none

namespace TickerTurn

variable
  {now : Moment}
  {scripted : ScriptedTicker α}
  {task : TickerTask α}
  {turn : Turn (ScriptedTicker α) (TickerTask α)}
  {refresh : Nat}

/-- Whatever is in the slot after a turn was there before, or is awaited from then on. -/
theorem slot_cases
    (taken : TickerTurn now scripted task turn)
    (inOrder : scripted.ticker.Orderly)
    (held : turn.shared.ticker.slot = some refresh) :
    scripted.ticker.slot = some refresh ∧ task.awaited? ≠ some refresh ∨
      turn.task.bind TickerTask.awaited? = some refresh := by
  cases taken with
  | loopSees seen | tickReturns seen | valueReturns seen =>
      rcases inOrder.await?_cases seen with ⟨published, rfl⟩ | ⟨-, -, rfl⟩
      · refine .inl ⟨held, ?_⟩
        rintro ⟨⟩
        have unpublished := inOrder.unpublished held
        simp [published, RefreshStatus.isPublished] at unpublished
      · cases held
  | loopBegins | callerBegins =>
      cases held
      exact .inr rfl
  | @loopEnds number stage notAwaiting =>
      cases stage with
      | awaiting awaited =>
          exact absurd rfl (notAwaiting awaited)
      | resting | sleeping | due =>
          exact .inl ⟨held, (Option.some_ne_none _).symm⟩
  | loopSleeps | loopWakes | loopJoins | refreshBegins | callerMisses | callerLooks
  | callerRefused | callerJoins =>
      exact .inl ⟨held, (Option.some_ne_none _).symm⟩
  | refreshEnds =>
      exact .inl ⟨(Ticker.slot_finish ..).symm.trans held, (Option.some_ne_none _).symm⟩

end TickerTurn

/-- Whoever waits for a refresh with an outcome can take its turn, and publishes the outcome. -/
theorem ScriptedTicker.exists_publishes
    {now : Moment}
    {scripted : ScriptedTicker α}
    {task : TickerTask α}
    {refresh : Nat}
    {succeeded : Bool}
    (awaits : task.awaited? = some refresh)
    (outcome : scripted.ticker.outcome? refresh = some succeeded) :
    ∃ turn,
      scripted.turn now task = some turn ∧
        turn.shared.ticker.status refresh = .published succeeded := by
  have seen :
      scripted.ticker.await? refresh =
        some (scripted.ticker.publish refresh succeeded, succeeded) := by
    simp [Ticker.await?, outcome]
  have published :
      (scripted.ticker.publish refresh succeeded).status refresh = .published succeeded :=
    (Ticker.status_of_await? seen refresh).trans (if_pos rfl)
  cases task with
  | loop loop =>
      obtain ⟨number, stage⟩ := loop
      cases stage with
      | awaiting awaited =>
          cases awaits
          exact ⟨_, by simp [ScriptedTicker.turn, TickerLoop.move?, seen]; rfl, published⟩
      | resting | sleeping | due =>
          cases awaits
  | awaiting call awaited =>
      cases awaits
      cases call <;> exact ⟨_, by simp [ScriptedTicker.turn, seen]; rfl, published⟩
  | refresh | refreshing | looking | asking | answered =>
      cases awaits

/-- Once an outcome is published, it stays so. -/
theorem Ticker.Change.isPublished
    {now : Moment}
    {ticker after : Ticker α}
    {refresh : Nat}
    (change : Change now ticker after)
    (inOrder : ticker.Orderly)
    (published : (ticker.status refresh).isPublished = true) :
    (after.status refresh).isPublished = true := by
  cases change with
  | unchanged | disposed =>
      exact published
  | seen seen =>
      rename_i other succeeded
      rw [status_of_await? seen]
      by_cases same : refresh = other
      · simp [same, RefreshStatus.isPublished]
      · simpa [same] using published
  | begun | forced =>
      exact (congrArg RefreshStatus.isPublished (status_begin ticker refresh)).trans published
  | finished value running =>
      rename_i other
      obtain ⟨held, isRunning⟩ := running?_eq_some_iff.mp running
      rw [status_finish ticker (inOrder.lt_length_of_slot held)]
      by_cases same : refresh = other
      · subst same
        simp [isRunning, RefreshStatus.isPublished] at published
      · simpa [same] using published

/-! ## Attention -/

/-- What a run up to a moment has to do with those who wait for refreshes, or have waited. -/
structure Attentive
    (history : List (TickerTransition α))
    (last : Configuration (ScriptedTicker α) (TickerTask α)) :
    Prop where
  /-- Somebody waits for the refresh in the slot. -/
  awaited :
    ∀ {refresh},
      last.shared.ticker.slot = some refresh →
      ∃ place task, last.task? place = some task ∧ task.awaited? = some refresh
  /-- What has been told is published. -/
  told :
    ∀ transition ∈ history,
      ∀ {place refresh succeeded},
        transition.Joins place .tick refresh →
        last.task? place = some (.answered (.refreshed succeeded)) →
        (last.shared.ticker.status refresh).isPublished = true

namespace Attentive

variable
  {history : List (TickerTransition α)}
  {last next : Configuration (ScriptedTicker α) (TickerTask α)}
  {move : Move TickerAction}

theorem fresh
    (name : String)
    (interval : Nat)
    (script : RefreshScript α) :
    Attentive [] (ScriptedTicker.fresh name interval script) where
  awaited := nofun
  told := by
    intro transition member
    cases member

private theorem awaited_step
    (attentive : Attentive history last)
    (coherent : ScriptedTicker.Coherent last)
    (moved : TickerMove last move next)
    {refresh : Nat}
    (held : next.shared.ticker.slot = some refresh) :
    ∃ place task, next.task? place = some task ∧ task.awaited? = some refresh := by
  -- Whoever waits goes on waiting, unless the move is its own.
  have goesOn
      (heldBefore : last.shared.ticker.slot = some refresh)
      (notMoving :
        ∀ place task, move = .turn place → last.task? place = some task →
          task.awaited? ≠ some refresh) :
      ∃ place task, next.task? place = some task ∧ task.awaited? = some refresh := by
    obtain ⟨place, task, found, awaits⟩ := attentive.awaited heldBefore
    rcases moved.task?_kept found with kept | ⟨turn, moves, -⟩
    · exact ⟨place, task, kept, awaits⟩
    · exact absurd awaits (notMoving place task moves found)
  cases moved with
  | @turn place task turn present taken =>
      rcases taken.slot_cases coherent.orderly held with ⟨heldBefore, notAwaiting⟩ | awaits
      · refine goesOn heldBefore ?_
        rintro other task ⟨⟩ found
        obtain rfl := Option.some.inj (present.symm.trans found)
        exact notAwaiting
      · obtain ⟨left, leaves, awaitsAfter⟩ := Option.bind_eq_some_iff.mp awaits
        exact
          ⟨place, left, (Configuration.task?_update_self present turn).trans leaves, awaitsAfter⟩
  | wait | call | dispose =>
      exact goesOn held nofun

private theorem told_step
    (attentive : Attentive history last)
    (accounted : Accounted history last)
    (coherent : ScriptedTicker.Coherent last)
    (moved : TickerMove last move next)
    {transition : TickerTransition α}
    (member : transition ∈ history ++ [⟨last, move, next⟩])
    {place refresh : Nat}
    {succeeded : Bool}
    (joins : transition.Joins place .tick refresh)
    (answered : next.task? place = some (.answered (.refreshed succeeded))) :
    (next.shared.ticker.status refresh).isPublished = true := by
  rcases List.mem_append.mp member with earlier | newest
  · rcases accounted.joined transition earlier joins with waits | ⟨told, -, answeredBefore⟩
    · rcases moved.task?_kept waits with kept | ⟨turn, -, taken, left, shared⟩
      · cases kept.symm.trans answered
      · cases taken with
        | tickReturns seen =>
            rw [shared, show _ = _ from Ticker.status_of_await? seen refresh, if_pos rfl]
            rfl
    · have published := attentive.told transition earlier joins answeredBefore
      exact (coherent.change moved).isPublished coherent.orderly published
  · -- Whoever has just joined has not been told anything yet.
    cases List.mem_singleton.mp newest
    cases joins.waits.symm.trans answered

/-- Every move keeps the attention. -/
theorem step
    (attentive : Attentive history last)
    (accounted : Accounted history last)
    (coherent : ScriptedTicker.Coherent last)
    (moved : TickerMove last move next) :
    Attentive (history ++ [⟨last, move, next⟩]) next where
  awaited := attentive.awaited_step coherent moved
  told _ member _ _ _ joins := attentive.told_step accounted coherent moved member joins

/-- Wherever a run leads, somebody waits for what is in the slot, and what was told is published. -/
theorem of_run
    {name : String}
    {interval : Nat}
    {script : RefreshScript α}
    (run :
      Run ScriptedTicker.system (ScriptedTicker.fresh name interval script) history last) :
    Attentive history last := by
  induction run with
  | start =>
      exact fresh name interval script
  | step run possible inductionHypothesis =>
      exact inductionHypothesis.step (.of_run run) (.of_run run) (.of_after? possible)

end Attentive

/-! ## Freshness -/

/-- A refresh that runs, or whose outcome is about to be published by somebody who waits. -/
structure Configuration.AboutToPublish
    (configuration : Configuration (ScriptedTicker α) (TickerTask α))
    (refresh : Nat) :
    Prop where
  unpublished : (configuration.shared.ticker.status refresh).isPublished = false
  publishes :
    ∀ {succeeded},
      configuration.shared.ticker.outcome? refresh = some succeeded →
      configuration.shared.ticker.slot = some refresh ∧
      ∃ place next,
        configuration.after? ScriptedTicker.system (.turn place) = some next ∧
          next.shared.ticker.status refresh = .published succeeded

/-- How fresh the outcomes are that callers are told along a run, whatever its moves. -/
structure AnswersFreshly
    (history : List (TickerTransition α))
    (last : Configuration (ScriptedTicker α) (TickerTask α)) :
    Prop where
  /-- Whoever is told an outcome asked when nobody had been told it yet. -/
  told :
    ∀ {place succeeded},
      last.task? place = some (.answered (.refreshed succeeded)) →
      ∃ transition ∈ history, ∃ refresh,
        transition.Joins place .tick refresh ∧
          transition.before.AboutToPublish refresh ∧
          last.shared.ticker.outcome? refresh = some succeeded ∧
          ∀ {settled},
            transition.before.shared.ticker.outcome? refresh = some settled →
            settled = succeeded
  /-- What a caller has been told, nobody who asks later shares. -/
  newAfterTold :
    ∀ {earlier transition later},
      history = earlier ++ transition :: later →
      ∀ joining ∈ earlier,
        ∀ {place refresh succeeded},
          joining.Joins place .tick refresh →
          transition.before.task? place = some (.answered (.refreshed succeeded)) →
          ∀ other call, ¬ transition.Joins other call refresh
  /-- Whoever asks when all outcomes are published begins a refresh. -/
  begins :
    ∀ transition ∈ history,
      ∀ {place call},
        transition.Asks place call →
        transition.before.shared.ticker.disposed = false →
        (∀ refresh < transition.before.shared.ticker.refreshes.length,
          (transition.before.shared.ticker.status refresh).isPublished = true) →
        ∃ refresh,
          transition.Joins place call refresh ∧ transition.Begins place call refresh
  /-- Whoever asks when the outcome of some refresh is not published shares that refresh. -/
  shares :
    ∀ transition ∈ history,
      ∀ {place call refresh},
        transition.Asks place call →
        transition.before.shared.ticker.disposed = false →
        refresh < transition.before.shared.ticker.refreshes.length →
        (transition.before.shared.ticker.status refresh).isPublished = false →
        transition.Joins place call refresh
  /-- Whoever asks when the ticker has been disposed is refused. -/
  refuses :
    ∀ transition ∈ history,
      ∀ {place call},
        transition.Asks place call →
        transition.before.shared.ticker.disposed = true →
        ∃ failure, transition.after.task? place = some (.answered (.failed failure))

namespace TickerTransition

variable
  {transition : TickerTransition α}
  {place refresh : Nat}
  {call : TickerCall}

/-- Whoever comes to wait for a refresh finds its outcome unpublished. -/
private theorem Joins.unpublished
    (joins : transition.Joins place call refresh)
    (coherent : ScriptedTicker.Coherent transition.before)
    (moved : TickerMove transition.before transition.move transition.after) :
    (transition.before.shared.ticker.status refresh).isPublished = false := by
  obtain ⟨turn, taken, after⟩ := turn_of_asks moved joins.asks
  have left := Configuration.task?_update_self joins.asks.task turn
  rw [← after, joins.waits] at left
  cases taken with
  | callerRefused =>
      cases left
  | callerJoins _ flight =>
      cases left
      exact coherent.orderly.unpublished (coherent.orderly.inFlight?_eq.symm.trans flight)
  | callerBegins =>
      cases left
      simp [Ticker.status, RefreshStatus.isPublished]

/-- Whoever comes to wait for a refresh is in time for its outcome. -/
private theorem Joins.aboutToPublish
    (joins : transition.Joins place call refresh)
    (coherent : ScriptedTicker.Coherent transition.before)
    (moved : TickerMove transition.before transition.move transition.after)
    {history : List (TickerTransition α)}
    (attentive : Attentive history transition.before) :
    transition.before.AboutToPublish refresh where
  unpublished := joins.unpublished coherent moved
  publishes := by
    intro succeeded outcome
    have unpublished := joins.unpublished coherent moved
    -- What has an outcome has begun, and what is not published is in the slot.
    have known : refresh < transition.before.shared.ticker.refreshes.length := by
      refine Ticker.lt_length_of_status_ne_running ?_
      intro running
      simp [Ticker.outcome?, running, RefreshStatus.outcome?] at outcome
    have held : transition.before.shared.ticker.slot = some refresh := by
      apply Decidable.byContradiction
      intro notHeld
      simp [coherent.orderly.settled known notHeld] at unpublished
    obtain ⟨waiting, task, found, awaits⟩ := attentive.awaited held
    obtain ⟨turn, possible, published⟩ :=
      ScriptedTicker.exists_publishes awaits outcome
    exact ⟨held, waiting, _, ScriptedTicker.after?_of_turn found possible, published⟩

end TickerTransition

/-- What a refresh has come to, it comes to along every run. -/
theorem ScriptedTicker.Coherent.outcome?_later
    {start last : Configuration (ScriptedTicker α) (TickerTask α)}
    {history : List (TickerTransition α)}
    (coherent : Coherent start)
    (run : Run system start history last)
    {refresh : Nat}
    {succeeded : Bool}
    (outcome : start.shared.ticker.outcome? refresh = some succeeded) :
    last.shared.ticker.outcome? refresh = some succeeded := by
  induction run with
  | start =>
      exact outcome
  | step run possible inductionHypothesis =>
      have coherentBefore := coherent.later run
      exact
        (coherentBefore.change (.of_after? possible)).outcome?_eq coherentBefore.orderly
          inductionHypothesis

/-- Along every run, whoever asks shares an outcome that nobody has been told, or begins anew. -/
theorem ScriptedTicker.run_answersFreshly
    {name : String}
    {interval : Nat}
    {script : RefreshScript α}
    {history : List (TickerTransition α)}
    {last : Configuration (ScriptedTicker α) (TickerTask α)}
    (run : Run system (fresh name interval script) history last) :
    AnswersFreshly history last := by
  have accounted := Accounted.of_run run
  have known :
      ∀ transition ∈ history,
        Coherent transition.before ∧
          TickerMove transition.before transition.move transition.after ∧
          ∃ earlier, Run system (fresh name interval script) earlier transition.before := by
    intro transition member
    obtain ⟨earlier, runBefore, possible⟩ := run.of_mem member
    exact ⟨.of_run runBefore, .of_after? possible, earlier, runBefore⟩
  constructor
  case told =>
    intro place succeeded answered
    obtain ⟨refresh, ⟨transition, member, joins⟩, outcome⟩ := accounted.told answered
    obtain ⟨coherentBefore, moved, earlier, runBefore⟩ := known transition member
    refine
      ⟨transition, member, refresh, joins,
        joins.aboutToPublish coherentBefore moved (.of_run runBefore), outcome, ?_⟩
    intro settled settledBefore
    obtain ⟨before, after, rfl⟩ := List.append_of_mem member
    have settledLast := coherentBefore.outcome?_later run.of_split_from settledBefore
    exact Option.some.inj (settledLast.symm.trans outcome)
  case newAfterTold =>
    rintro earlier transition later rfl joining member place refresh succeeded joins answered
      other call joinsLater
    obtain ⟨runBefore, possible⟩ := run.of_split
    have published := (Attentive.of_run runBefore).told joining member joins answered
    have unpublished := joinsLater.unpublished (.of_run runBefore) (.of_after? possible)
    simp [published] at unpublished
  case begins =>
    intro transition member place call asks notDisposed allPublished
    obtain ⟨coherentBefore, moved, -⟩ := known transition member
    have free : transition.before.shared.ticker.slot = none := by
      cases held : transition.before.shared.ticker.slot with
      | none =>
          rfl
      | some refresh =>
          have published := allPublished refresh (coherentBefore.orderly.lt_length_of_slot held)
          simp [coherentBefore.orderly.unpublished held] at published
    exact begins_of_asks coherentBefore moved asks notDisposed free
  case shares =>
    intro transition member place call refresh asks notDisposed begun unpublished
    obtain ⟨coherentBefore, moved, -⟩ := known transition member
    have held : transition.before.shared.ticker.slot = some refresh := by
      apply Decidable.byContradiction
      intro notHeld
      simp [coherentBefore.orderly.settled begun notHeld] at unpublished
    exact (joins_of_asks coherentBefore moved asks notDisposed held).1
  case refuses =>
    intro transition member place call asks disposed
    obtain ⟨coherentBefore, moved, -⟩ := known transition member
    obtain ⟨turn, taken, after⟩ := turn_of_asks moved asks
    have left := Configuration.task?_update_self asks.task turn
    rw [← after] at left
    cases taken with
    | callerRefused =>
        exact ⟨_, left⟩
    | callerJoins notDisposed | callerBegins notDisposed =>
        simp [disposed] at notDisposed

/-- A second caller comes when the refresh of the first has ended but nobody has seen that. -/
def TickerAction.lateTick : List (Move TickerAction) :=
  [.intervene (.call .tick), .turn 1, .turn 2, .turn 2, .intervene (.call .tick)]

/-- The late caller is told the outcome of the refresh that had ended before, as freshly as any. -/
theorem ScriptedTicker.run_lateTick :
    ∃ (history : List (TickerTransition Nat))
      (last : Configuration (ScriptedTicker Nat) (TickerTask Nat)),
      last.shared.ticker.refreshes = [.published true] ∧
        last.task? 4 = some (.answered (.refreshed true)) ∧
        AnswersFreshly history last := by
  have observed :
      ((ScriptedTicker.fresh "ticker" 60000 ⟨fun _ => 0, fun _ => .success 7⟩).trace?
          ScriptedTicker.system (TickerAction.lateTick ++ [.turn 4, .turn 4])).map
        (fun (_, last) => (last.shared.ticker.refreshes, last.task? 4)) =
      some ([.published true], some (.answered (.refreshed true))) := by
    rfl
  obtain ⟨⟨history, last⟩, traced, seen⟩ := Option.map_eq_some_iff.mp observed
  obtain ⟨refreshes, answer⟩ := Prod.mk.inj seen
  exact
    ⟨history, last, refreshes, answer, ScriptedTicker.run_answersFreshly (.of_trace? traced)⟩

/--
Not every refresh whose outcome a caller is told was unfinished when the caller asked, nor
does everybody begin a refresh who asks after one has finished.
-/
theorem ScriptedTicker.not_answersUnfinished :
    ¬ ∀ {history : List (TickerTransition Nat)}
        {last : Configuration (ScriptedTicker Nat) (TickerTask Nat)},
        Run system (fresh "ticker" 60000 ⟨fun _ => 0, fun _ => .success 7⟩) history last →
        ∀ transition ∈ history,
          ∀ {place},
            (∀ {refresh succeeded},
              transition.Joins place .tick refresh →
              last.task? place = some (.answered (.refreshed succeeded)) →
              transition.before.shared.ticker.outcome? refresh = none) ∧
            (∀ {refresh},
              transition.Asks place .tick →
              transition.before.shared.ticker.outcome? refresh ≠ none →
              ∃ next, transition.Begins place .tick next) := by
  intro answersUnfinished
  have observed :
      ((ScriptedTicker.fresh "ticker" 60000 ⟨fun _ => 0, fun _ => .success 7⟩).trace?
          ScriptedTicker.system TickerAction.lateTick).bind
        (fun (_, middle) =>
          (middle.trace? ScriptedTicker.system [.turn 4, .turn 4]).bind fun (history, last) =>
            history.head?.map fun joining =>
              (joining.before.task? 4, joining.before.shared.ticker.outcome? 0,
                joining.after.task? 4, last.task? 4)) =
      some (some (.asking .tick), some true, some (.awaiting .tick 0),
        some (.answered (.refreshed true))) := by
    rfl
  obtain ⟨⟨earlier, middle⟩, traced, seen⟩ := Option.bind_eq_some_iff.mp observed
  obtain ⟨⟨history, last⟩, continues, found⟩ := Option.bind_eq_some_iff.mp seen
  obtain ⟨next, later, rfl, -, -⟩ := Configuration.trace?_cons continues
  simp only [List.head?_cons, Option.map_some, Option.some.injEq, Prod.mk.injEq] at found
  obtain ⟨asking, settled, awaiting, answered⟩ := found
  have run := (Run.of_trace? traced).append (.of_trace? continues)
  have unfinished :=
    (answersUnfinished run _ (List.mem_append_right _ List.mem_cons_self)).1
      ⟨⟨rfl, asking⟩, awaiting⟩ answered
  cases settled.symm.trans unfinished

end FeatureFlags
