import FeatureFlags.Proofs.Ticker.Coherence

namespace FeatureFlags

/-!
# Sharing of refreshes

Whatever the order in which loops, refreshes and callers take their turns, one
refresh at a time is carried out for a ticker, one loop at a time is in force, and
all who come for a refresh while it is in flight are told the outcome of the same one.
-/

variable {α : Type}

/-- A move of the system around a ticker with what was before and after it. -/
abbrev TickerTransition (α : Type) :=
  Transition (ScriptedTicker α) (TickerTask α) TickerAction

namespace TickerTransition

/-- A caller asks for a refresh. -/
structure Asks
    (transition : TickerTransition α)
    (place : Nat)
    (call : TickerCall) :
    Prop where
  move : transition.move = .turn place
  task : transition.before.task? place = some (.asking call)

/-- A caller that asks for a refresh comes to wait for one, which it shares from then on. -/
structure Joins
    (transition : TickerTransition α)
    (place : Nat)
    (call : TickerCall)
    (refresh : Nat) :
    Prop where
  asks : transition.Asks place call
  waits : transition.after.task? place = some (.awaiting call refresh)

/-- A refresh ends and its value is stored. -/
def Stores
    (transition : TickerTransition α)
    (refresh : Nat) :
    Prop :=
  ∃ place wake value,
    transition.move = .turn place ∧
      transition.before.task? place = some (.refreshing refresh wake (.success value)) ∧
      transition.after.shared.ticker.last = some (value, transition.before.now)

/-- The next refresh begins for a caller, and a loop that waits for it, and nothing else. -/
structure Begins
    (transition : TickerTransition α)
    (place : Nat)
    (call : TickerCall)
    (refresh : Nat) :
    Prop where
  next : refresh = transition.before.shared.ticker.refreshes.length
  refreshes :
    transition.after.shared.ticker.refreshes =
      transition.before.shared.ticker.refreshes ++ [.running]
  slot : transition.after.shared.ticker.slot = some refresh
  tasks :
    transition.after.tasks =
      transition.before.tasks.set place (some (.awaiting call refresh)) ++
        [some (.refresh refresh),
          some (.loop ⟨transition.before.shared.ticker.loop + 1, .awaiting refresh⟩)]

end TickerTransition

/-! ## Answers -/

/-- What a run up to a moment has to do with the callers at that moment. -/
structure Accounted
    (history : List (TickerTransition α))
    (last : Configuration (ScriptedTicker α) (TickerTask α)) :
    Prop where
  stored :
    ∀ {refresh},
      last.shared.ticker.outcome? refresh = some true →
      ∃ transition ∈ history, transition.Stores refresh
  awaited :
    ∀ {place call refresh},
      last.task? place = some (.awaiting call refresh) →
      ∃ transition ∈ history, transition.Joins place call refresh
  told :
    ∀ {place succeeded},
      last.task? place = some (.answered (.refreshed succeeded)) →
      ∃ refresh,
        (∃ transition ∈ history, transition.Joins place .tick refresh) ∧
          last.shared.ticker.outcome? refresh = some succeeded
  joined :
    ∀ transition ∈ history,
      ∀ {place refresh},
        transition.Joins place .tick refresh →
        last.task? place = some (.awaiting .tick refresh) ∨
        ∃ succeeded,
          last.shared.ticker.outcome? refresh = some succeeded ∧
            last.task? place = some (.answered (.refreshed succeeded))

namespace Accounted

variable
  {history : List (TickerTransition α)}
  {last next : Configuration (ScriptedTicker α) (TickerTask α)}
  {move : Move TickerAction}

/-- At first nobody waits for a refresh or has been told an outcome. -/
theorem fresh
    (name : String)
    (interval : Nat)
    (script : RefreshScript α) :
    Accounted [] (ScriptedTicker.fresh name interval script) where
  stored := by
    intro refresh found
    simp [ScriptedTicker.fresh, Ticker.outcome?, Ticker.status, RefreshStatus.outcome?] at found
  awaited := by
    intro place call refresh found
    cases place <;> simp [ScriptedTicker.fresh, Configuration.task?] at found
  told := by
    intro place succeeded found
    cases place <;> simp [ScriptedTicker.fresh, Configuration.task?] at found
  joined := by
    intro transition member
    cases member

/-- A refresh that has succeeded has stored its value. -/
private theorem stored_step
    (accounted : Accounted history last)
    (coherent : ScriptedTicker.Coherent last)
    (moved : TickerMove last move next)
    {refresh : Nat}
    (found : next.shared.ticker.outcome? refresh = some true) :
    ∃ transition ∈ history ++ [⟨last, move, next⟩], transition.Stores refresh := by
  have known :
      last.shared.ticker.outcome? refresh = some true →
      ∃ transition ∈ history ++ [⟨last, move, next⟩], transition.Stores refresh := by
    intro before
    obtain ⟨transition, member, stores⟩ := accounted.stored before
    exact ⟨transition, List.mem_append_left _ member, stores⟩
  cases moved with
  | turn present taken =>
      rcases taken.outcome?_cases coherent.orderly
        (fun _ carries => coherent.running?_of_refresh? present carries) found with
        before | ⟨wake, result, rfl, succeeded, ticker⟩
      · exact known before
      · cases result with
        | breakdown | failure =>
            cases succeeded
        | success value =>
            refine
              ⟨_, List.mem_append_right _ (List.mem_singleton_self _), _, wake, value, rfl,
                present, ?_⟩
            exact congrArg Ticker.last ticker
  | wait | call | dispose =>
      exact known found

/-- Whoever waits for a refresh has joined it. -/
private theorem awaited_step
    (accounted : Accounted history last)
    (coherent : ScriptedTicker.Coherent last)
    (moved : TickerMove last move next)
    {place : Nat}
    {call : TickerCall}
    {refresh : Nat}
    (waits : next.task? place = some (.awaiting call refresh)) :
    ∃ transition ∈ history ++ [⟨last, move, next⟩], transition.Joins place call refresh := by
  rcases moved.task?_cases waits with
    before | ⟨_, turn, moves, present, taken, left, -⟩ | new
  · obtain ⟨transition, member, joins⟩ := accounted.awaited before
    exact ⟨transition, List.mem_append_left _ member, joins⟩
  · obtain ⟨rfl, -⟩ := taken.of_awaiting coherent.orderly left
    exact ⟨_, List.mem_append_right _ (List.mem_singleton_self _), ⟨moves, present⟩, waits⟩
  · cases new

/-- Whoever is told an outcome has joined a refresh with that outcome. -/
private theorem told_step
    (accounted : Accounted history last)
    (coherent : ScriptedTicker.Coherent last)
    (moved : TickerMove last move next)
    {place : Nat}
    {succeeded : Bool}
    (answered : next.task? place = some (.answered (.refreshed succeeded))) :
    ∃ refresh,
      (∃ transition ∈ history ++ [⟨last, move, next⟩],
        transition.Joins place .tick refresh) ∧
      next.shared.ticker.outcome? refresh = some succeeded := by
  rcases moved.task?_cases answered with
    before | ⟨_, turn, -, present, taken, left, shared⟩ | new
  · obtain ⟨refresh, ⟨transition, member, joins⟩, outcome⟩ := accounted.told before
    exact
      ⟨refresh, ⟨transition, List.mem_append_left _ member, joins⟩,
        (coherent.change moved).outcome?_eq coherent.orderly outcome⟩
  · obtain ⟨refresh, rfl, outcome⟩ := taken.of_refreshed left
    obtain ⟨transition, member, joins⟩ := accounted.awaited present
    exact
      ⟨refresh, ⟨transition, List.mem_append_left _ member, joins⟩, shared ▸ outcome⟩
  · cases new

/-- Whoever has joined a refresh waits for it until it is told its outcome. -/
private theorem joined_step
    (accounted : Accounted history last)
    (coherent : ScriptedTicker.Coherent last)
    (moved : TickerMove last move next)
    {transition : TickerTransition α}
    (member : transition ∈ history ++ [⟨last, move, next⟩])
    {place refresh : Nat}
    (joins : transition.Joins place .tick refresh) :
    next.task? place = some (.awaiting .tick refresh) ∨
    ∃ succeeded,
      next.shared.ticker.outcome? refresh = some succeeded ∧
        next.task? place = some (.answered (.refreshed succeeded)) := by
  rcases List.mem_append.mp member with earlier | newest
  · rcases accounted.joined transition earlier joins with
      waits | ⟨succeeded, outcome, answered⟩
    · rcases moved.task?_kept waits with kept | ⟨turn, -, taken, left, shared⟩
      · exact .inl kept
      · -- The only turn of a caller that waits is to be told the outcome.
        cases taken with
        | tickReturns seen =>
            rename_i after succeeded
            refine .inr ⟨succeeded, ?_, left⟩
            rw [shared]
            exact (Ticker.outcome?_await? seen refresh).trans (Ticker.outcome?_of_await? seen)
    · refine .inr ⟨succeeded, (coherent.change moved).outcome?_eq coherent.orderly outcome, ?_⟩
      rcases moved.task?_kept answered with kept | ⟨turn, -, taken, -, -⟩
      · exact kept
      · cases taken
  · cases List.mem_singleton.mp newest
    exact .inl joins.waits

/-- Every move keeps the account. -/
theorem step
    (accounted : Accounted history last)
    (coherent : ScriptedTicker.Coherent last)
    (moved : TickerMove last move next) :
    Accounted (history ++ [⟨last, move, next⟩]) next where
  stored := accounted.stored_step coherent moved
  awaited := accounted.awaited_step coherent moved
  told := accounted.told_step coherent moved
  joined := fun _ member _ _ joins => accounted.joined_step coherent moved member joins

/-- The account of every run is right. -/
theorem of_run
    {name : String}
    {interval : Nat}
    {script : RefreshScript α}
    (run :
      Run ScriptedTicker.system (ScriptedTicker.fresh name interval script) history last) :
    Accounted history last := by
  induction run with
  | start =>
      exact fresh name interval script
  | step run possible inductionHypothesis =>
      exact inductionHypothesis.step (.of_run run) (.of_after? possible)

/-- Whoever has joined a refresh is told nothing but its outcome. -/
theorem outcome?_of_joins
    (accounted : Accounted history last)
    {transition : TickerTransition α}
    (member : transition ∈ history)
    {place refresh : Nat}
    (joins : transition.Joins place .tick refresh)
    {succeeded : Bool}
    (answered : last.task? place = some (.answered (.refreshed succeeded))) :
    last.shared.ticker.outcome? refresh = some succeeded := by
  rcases accounted.joined transition member joins with waits | ⟨told, outcome, answeredTold⟩
  · cases Option.some.inj (waits.symm.trans answered)
  · cases Option.some.inj (answeredTold.symm.trans answered)
    exact outcome

end Accounted

/-! ## Return -/

/-- Some run from a configuration leads to where a caller has been told an outcome. -/
def MayReturn
    (configuration : Configuration (ScriptedTicker α) (TickerTask α))
    (place : Nat) :
    Prop :=
  ∃ more later succeeded,
    Run ScriptedTicker.system configuration more later ∧
      later.task? place = some (.answered (.refreshed succeeded))

/-- Whoever waits for a refresh may return. -/
theorem MayReturn.of_awaiting
    {configuration : Configuration (ScriptedTicker α) (TickerTask α)}
    {place refresh : Nat}
    (coherent : ScriptedTicker.Coherent configuration)
    (waits : configuration.task? place = some (.awaiting .tick refresh)) :
    MayReturn configuration place := by
  obtain ⟨ending, succeeded, ⟨more, run, -⟩, -, answered⟩ := coherent.leadsTo_answer waits
  exact ⟨more, ending, succeeded, run, answered⟩

/-! ## Sharing -/

/-- How refreshes are shared along a run, whatever the order of its moves. -/
structure SharesRefreshes
    (history : List (TickerTransition α))
    (last : Configuration (ScriptedTicker α) (TickerTask α)) :
    Prop where
  oneRefresh : (last.collect TickerTask.refresh?).length ≤ 1
  oneLoop :
    ((last.collect TickerTask.loop?).filter
      fun loop => !last.shared.ticker.isCancelled loop).length ≤ 1
  /-- Whoever asks while a refresh is in flight joins it, and nothing else happens. -/
  joinsInFlight :
    ∀ transition ∈ history,
      ∀ {place call refresh},
        transition.Asks place call →
        transition.before.shared.ticker.disposed = false →
        transition.before.shared.ticker.slot = some refresh →
        (transition.before.shared.ticker.status refresh).isPublished = false →
        transition.Joins place call refresh ∧
          transition.after =
            { transition.before with
              tasks := transition.before.tasks.set place (some (.awaiting call refresh)) }
  /-- Whoever else asks begins exactly one refresh, unless the ticker has been disposed. -/
  beginsOtherwise :
    ∀ transition ∈ history,
      ∀ {place call},
        transition.Asks place call →
        transition.before.shared.ticker.disposed = false →
        (∀ refresh,
          transition.before.shared.ticker.slot = some refresh →
          (transition.before.shared.ticker.status refresh).isPublished = true) →
        ∃ refresh,
          transition.Joins place call refresh ∧ transition.Begins place call refresh
  slotNewest :
    ∀ {refresh},
      last.shared.ticker.slot = some refresh →
      refresh + 1 = last.shared.ticker.refreshes.length
  /-- A refresh is completed out of the slot, and nothing else empties the slot. -/
  slotCleared :
    ∀ transition ∈ history,
      ∀ refresh,
        Ticker.Completes transition.before.shared.ticker transition.after.shared.ticker
            refresh ↔
          transition.before.shared.ticker.slot = some refresh ∧
            transition.after.shared.ticker.slot ≠ some refresh
  /-- Whoever has joined a refresh may still return, or has been told its outcome. -/
  returnsOutcome :
    ∀ transition ∈ history,
      ∀ {place refresh},
        transition.Joins place .tick refresh →
        last.task? place = some (.awaiting .tick refresh) ∧ MayReturn last place ∨
        ∃ succeeded,
          last.shared.ticker.outcome? refresh = some succeeded ∧
            last.task? place = some (.answered (.refreshed succeeded))
  /-- Whoever has been told an outcome has joined a refresh. -/
  returnsJoined :
    ∀ {place succeeded},
      last.task? place = some (.answered (.refreshed succeeded)) →
      ∃ transition ∈ history, ∃ refresh, transition.Joins place .tick refresh
  sameOutcome :
    ∀ first ∈ history,
      ∀ second ∈ history,
        ∀ {firstPlace secondPlace refresh firstSucceeded secondSucceeded},
          first.Joins firstPlace .tick refresh →
          second.Joins secondPlace .tick refresh →
          last.task? firstPlace = some (.answered (.refreshed firstSucceeded)) →
          last.task? secondPlace = some (.answered (.refreshed secondSucceeded)) →
          firstSucceeded = secondSucceeded
  /-- Whoever has been told of a success shared a refresh that has stored its value. -/
  storedBefore :
    ∀ transition ∈ history,
      ∀ {place refresh},
        transition.Joins place .tick refresh →
        last.task? place = some (.answered (.refreshed true)) →
        ∃ storing ∈ history, storing.Stores refresh

/-- Distinct loops that are all in force are at most one. -/
private theorem length_inForce_le_one
    (ticker : Ticker α)
    {loops : List Nat}
    (distinct : loops.Nodup) :
    (loops.filter fun loop => !ticker.isCancelled loop).length ≤ 1 := by
  have distinctKept := distinct.filter fun loop => !ticker.isCancelled loop
  have inForce :
      ∀ loop ∈ loops.filter fun loop => !ticker.isCancelled loop, loop = ticker.loop := by
    intro loop member
    have notCancelled := (List.mem_filter.mp member).2
    simp only [Ticker.isCancelled, Bool.not_eq_eq_eq_not, Bool.not_true,
      Bool.or_eq_false_iff, bne_eq_false_iff_eq] at notCancelled
    exact notCancelled.2
  rcases kept : loops.filter fun loop => !ticker.isCancelled loop with
    _ | ⟨first, _ | ⟨second, rest⟩⟩
  · exact Nat.zero_le 1
  · exact Nat.le_refl 1
  · rw [kept] at distinctKept inForce
    have same : first = second :=
      (inForce first (by simp)).trans (inForce second (by simp)).symm
    simp [same] at distinctKept

/-- Whoever asks for a refresh takes the turn of a caller that asks. -/
theorem turn_of_asks
    {transition : TickerTransition α}
    (moved : TickerMove transition.before transition.move transition.after)
    {place : Nat}
    {call : TickerCall}
    (asks : transition.Asks place call) :
    ∃ turn,
      TickerTurn transition.before.now transition.before.shared (.asking call) turn ∧
        transition.after = transition.before.update place turn := by
  obtain ⟨before, move, after⟩ := transition
  obtain ⟨moves, asked⟩ := asks
  obtain rfl : move = .turn place := moves
  change TickerMove before (.turn place) after at moved
  cases moved with
  | turn present taken =>
      obtain rfl := Option.some.inj (present.symm.trans asked)
      exact ⟨_, taken, rfl⟩

/-- Whoever asks while a refresh is in flight joins it. -/
theorem joins_of_asks
    {transition : TickerTransition α}
    (coherent : ScriptedTicker.Coherent transition.before)
    (moved : TickerMove transition.before transition.move transition.after)
    {place refresh : Nat}
    {call : TickerCall}
    (asks : transition.Asks place call)
    (notDisposed : transition.before.shared.ticker.disposed = false)
    (held : transition.before.shared.ticker.slot = some refresh) :
    transition.Joins place call refresh ∧
      transition.after =
        { transition.before with
          tasks := transition.before.tasks.set place (some (.awaiting call refresh)) } := by
  obtain ⟨turn, taken, after⟩ := turn_of_asks moved asks
  have inFlight := coherent.orderly.inFlight?_eq.trans held
  have left := Configuration.task?_update_self asks.task turn
  rw [← after] at left
  cases taken with
  | callerRefused disposed =>
      simp [notDisposed] at disposed
  | callerJoins _ flight =>
      obtain rfl := Option.some.inj (flight.symm.trans inFlight)
      refine ⟨⟨asks, left⟩, ?_⟩
      simp [after, Configuration.update]
  | callerBegins _ free =>
      simp [inFlight] at free

/-- Whoever asks while no refresh is in flight begins one. -/
theorem begins_of_asks
    {transition : TickerTransition α}
    (coherent : ScriptedTicker.Coherent transition.before)
    (moved : TickerMove transition.before transition.move transition.after)
    {place : Nat}
    {call : TickerCall}
    (asks : transition.Asks place call)
    (notDisposed : transition.before.shared.ticker.disposed = false)
    (free : transition.before.shared.ticker.slot = none) :
    ∃ refresh,
      transition.Joins place call refresh ∧ transition.Begins place call refresh := by
  obtain ⟨turn, taken, after⟩ := turn_of_asks moved asks
  have idle := coherent.orderly.inFlight?_eq.trans free
  have left := Configuration.task?_update_self asks.task turn
  rw [← after] at left
  cases taken with
  | callerRefused disposed =>
      simp [notDisposed] at disposed
  | callerJoins _ flight =>
      simp [idle] at flight
  | callerBegins =>
      refine ⟨_, ⟨asks, left⟩, rfl, ?_, ?_, ?_⟩ <;> rw [after] <;> rfl

/-- Along every run from a new ticker, refreshes are shared. -/
theorem ScriptedTicker.run_sharesRefreshes
    {name : String}
    {interval : Nat}
    {script : RefreshScript α}
    {history : List (TickerTransition α)}
    {last : Configuration (ScriptedTicker α) (TickerTask α)}
    (run : Run ScriptedTicker.system (ScriptedTicker.fresh name interval script) history last) :
    SharesRefreshes history last := by
  have coherent := ScriptedTicker.Coherent.of_run run
  have accounted := Accounted.of_run run
  have known :
      ∀ transition ∈ history,
        ScriptedTicker.Coherent transition.before ∧
          TickerMove transition.before transition.move transition.after := by
    intro transition member
    obtain ⟨_, earlier, possible⟩ := run.of_mem member
    exact ⟨.of_run earlier, .of_after? possible⟩
  refine
    { oneRefresh := ?oneRefresh
      oneLoop := length_inForce_le_one _ coherent.loopsDistinct
      joinsInFlight := ?joinsInFlight
      beginsOtherwise := ?beginsOtherwise
      slotNewest := coherent.orderly.newest
      slotCleared := ?slotCleared
      returnsOutcome := ?returnsOutcome
      returnsJoined := ?returnsJoined
      sameOutcome := ?sameOutcome
      storedBefore := ?storedBefore }
  case oneRefresh =>
    rw [coherent.carriedOut]
    exact Option.length_toList_le
  case joinsInFlight =>
    intro transition member place call refresh asks notDisposed held _
    obtain ⟨coherentBefore, moved⟩ := known transition member
    exact joins_of_asks coherentBefore moved asks notDisposed held
  case beginsOtherwise =>
    intro transition member place call asks notDisposed allPublished
    obtain ⟨coherentBefore, moved⟩ := known transition member
    have free : transition.before.shared.ticker.slot = none := by
      cases held : transition.before.shared.ticker.slot with
      | none =>
          rfl
      | some refresh =>
          have unpublished := coherentBefore.orderly.unpublished held
          simp [allPublished refresh held] at unpublished
    exact begins_of_asks coherentBefore moved asks notDisposed free
  case slotCleared =>
    intro transition member refresh
    obtain ⟨coherentBefore, moved⟩ := known transition member
    exact (coherentBefore.change moved).completes_iff coherentBefore.orderly
  case returnsOutcome =>
    intro transition member place refresh joins
    rcases accounted.joined transition member joins with waits | told
    · exact .inl ⟨waits, .of_awaiting coherent waits⟩
    · exact .inr told
  case returnsJoined =>
    intro place succeeded answered
    obtain ⟨refresh, ⟨transition, member, joins⟩, -⟩ := accounted.told answered
    exact ⟨transition, member, refresh, joins⟩
  case sameOutcome =>
    intro first firstMember second secondMember firstPlace secondPlace refresh
      firstSucceeded secondSucceeded firstJoins secondJoins firstAnswered secondAnswered
    have firstOutcome := accounted.outcome?_of_joins firstMember firstJoins firstAnswered
    have secondOutcome := accounted.outcome?_of_joins secondMember secondJoins secondAnswered
    exact Option.some.inj (firstOutcome.symm.trans secondOutcome)
  case storedBefore =>
    intro transition member place refresh joins answered
    exact accounted.stored (accounted.outcome?_of_joins member joins answered)

/-- Two callers, of whom the second comes while the refresh of the first is on the way. -/
def TickerAction.twoTicks : List (Move TickerAction) :=
  [.intervene (.call .tick), .intervene (.call .tick), .turn 1, .turn 3, .turn 2, .turn 3,
    .turn 2, .turn 1]

/-- Of two callers that come together, both are told of the success of one refresh. -/
theorem ScriptedTicker.run_twoTicks :
    ∃ (history : List (TickerTransition Nat))
      (last : Configuration (ScriptedTicker Nat) (TickerTask Nat)),
      last.shared.ticker.refreshes = [.published true] ∧
        last.task? 1 = some (.answered (.refreshed true)) ∧
        last.task? 2 = some (.answered (.refreshed true)) ∧
        SharesRefreshes history last := by
  have observed :
      ((ScriptedTicker.fresh "ticker" 60000 ⟨fun _ => 0, fun _ => .success 7⟩).follow?
          ScriptedTicker.system TickerAction.twoTicks).map
        (fun last => (last.shared.ticker.refreshes, last.task? 1, last.task? 2)) =
      some ([.published true], some (.answered (.refreshed true)),
        some (.answered (.refreshed true))) := by
    rfl
  obtain ⟨last, followed, seen⟩ := Option.map_eq_some_iff.mp observed
  obtain ⟨refreshes, answers⟩ := Prod.mk.inj seen
  obtain ⟨first, second⟩ := Prod.mk.inj answers
  obtain ⟨history, run⟩ := Run.of_follow? followed
  exact
    ⟨history, last, refreshes, first, second, ScriptedTicker.run_sharesRefreshes run⟩

end FeatureFlags
