import FeatureFlags.Proofs.Ticker.Turns

namespace FeatureFlags

/-!
# Coherence of a ticker with its tasks

Whatever the order in which loops, refreshes and callers take their turns, the slot of
a ticker stays in order, the only refresh that is carried out is the one that runs in
the slot, and no two loops have the same number.
-/

variable {α : Type}

/-- What holds of a ticker and of all tasks around it at every moment. -/
structure ScriptedTicker.Coherent
    (configuration : Configuration (ScriptedTicker α) (TickerTask α)) :
    Prop where
  orderly : configuration.shared.ticker.Orderly
  /-- Refreshes are carried out for the slot only. -/
  carriedOut :
    configuration.collect TickerTask.refresh? = configuration.shared.ticker.running?.toList
  loopsDistinct : (configuration.collect TickerTask.loop?).Nodup
  loopsKnown :
    ∀ loop ∈ configuration.collect TickerTask.loop?,
      loop ≤ configuration.shared.ticker.loop
  /-- Whoever waits, waits for a refresh that has begun. -/
  awaitedKnown :
    ∀ {place call refresh},
      configuration.task? place = some (.awaiting call refresh) →
      refresh < configuration.shared.ticker.refreshes.length

namespace ScriptedTicker.Coherent

variable
  {configuration next : Configuration (ScriptedTicker α) (TickerTask α)}
  {place : Nat}
  {task : TickerTask α}
  {turn : Turn (ScriptedTicker α) (TickerTask α)}
  {move : Move TickerAction}

/-- A new ticker is coherent with its first loop. -/
theorem fresh
    (name : String)
    (interval : Nat)
    (script : RefreshScript α) :
    Coherent (ScriptedTicker.fresh name interval script) where
  orderly := Ticker.Orderly.initial name interval
  carriedOut := rfl
  loopsDistinct := by
    simp [ScriptedTicker.fresh, Configuration.collect, TickerTask.loop?]
  loopsKnown := by
    intro loop member
    have first : loop = 0 := List.mem_singleton.mp member
    simp [first]
  awaitedKnown := by
    intro place call refresh found
    cases place <;> simp [ScriptedTicker.fresh, Configuration.task?] at found

/-- A refresh that is carried out is the one that runs in the slot. -/
theorem running?_of_refresh?
    (coherent : Coherent configuration)
    (found : configuration.task? place = some task)
    {refresh : Nat}
    (carries : task.refresh? = some refresh) :
    configuration.shared.ticker.running? = some refresh := by
  have member : refresh ∈ configuration.collect TickerTask.refresh? :=
    Configuration.mem_collect_iff.mpr ⟨place, task, found, carries⟩
  rw [coherent.carriedOut] at member
  simpa using member

/-- Every move changes the ticker in one of the known ways. -/
theorem change
    (coherent : Coherent configuration)
    (moved : TickerMove configuration move next) :
    configuration.shared.ticker.Change configuration.now next.shared.ticker := by
  cases moved with
  | turn found taken =>
      exact taken.change fun _ carries => coherent.running?_of_refresh? found carries
  | wait =>
      exact .unchanged
  | call =>
      exact .unchanged
  | dispose =>
      exact .disposed

/-- Turns carry out refreshes for the slot only. -/
private theorem carriedOut_update
    (coherent : Coherent configuration)
    (found : configuration.task? place = some task)
    (taken : TickerTurn configuration.now configuration.shared task turn) :
    (configuration.update place turn).collect TickerTask.refresh? =
      turn.shared.ticker.running?.toList := by
  have before := coherent.carriedOut
  cases taken with
  | loopSees seen | tickReturns seen | valueReturns seen =>
      rw [Configuration.collect_update_of_kept found rfl, before,
        coherent.orderly.running?_await? seen]
      exact List.append_nil _
  | loopEnds | loopSleeps | loopWakes | loopJoins | refreshBegins | callerMisses
  | callerLooks | callerRefused | callerJoins =>
      rw [Configuration.collect_update_of_kept found rfl, before]
      exact List.append_nil _
  | loopBegins _ free | callerBegins _ free =>
      have idle : configuration.shared.ticker.running? = none := by
        rw [coherent.orderly.inFlight?_eq] at free
        simp [Ticker.running?, free]
      rw [Configuration.collect_update_of_kept found rfl, before, idle]
      exact congrArg Option.toList (Ticker.running?_begin configuration.shared.ticker).symm
  | refreshEnds =>
      rename_i number wake result _
      have running := coherent.running?_of_refresh? found rfl
      obtain ⟨left, right, shape, shapeAfter⟩ :=
        Configuration.collect_update found
          ⟨{ configuration.shared with
              ticker := configuration.shared.ticker.finish configuration.now number
                result.value? }, none, []⟩
          TickerTask.refresh?
      rw [shape, running] at before
      -- The refresh that ends is the only one that is carried out.
      have alone : left = [] ∧ right = [] := by
        have length := congrArg List.length before
        simp only [TickerTask.refresh?, Option.toList_some, List.length_append,
          List.length_singleton] at length
        exact ⟨List.eq_nil_of_length_eq_zero (by omega),
          List.eq_nil_of_length_eq_zero (by omega)⟩
      rw [shapeAfter, coherent.orderly.running?_finish running, alone.1, alone.2]
      rfl

/-- Turns keep loops distinct, and none is newer than the one in force. -/
private theorem loops_update
    (coherent : Coherent configuration)
    (found : configuration.task? place = some task)
    (taken : TickerTurn configuration.now configuration.shared task turn) :
    ((configuration.update place turn).collect TickerTask.loop?).Nodup ∧
      ∀ loop ∈ (configuration.update place turn).collect TickerTask.loop?,
        loop ≤ turn.shared.ticker.loop := by
  obtain ⟨keptOrEnded, begunLoops⟩ := taken.loop?_cases
  have sublist := Configuration.collect_update_sublist found keptOrEnded
  rcases begunLoops with ⟨none, sameLoop⟩ | ⟨new, nextLoop⟩
  · rw [none, List.append_nil] at sublist
    refine ⟨coherent.loopsDistinct.sublist sublist, fun loop member => ?_⟩
    rw [sameLoop]
    exact coherent.loopsKnown loop (sublist.subset member)
  · rw [new] at sublist
    -- No loop so far has the number of the new one, which is above the one in force.
    have distinct :
        (configuration.collect TickerTask.loop? ++
          [configuration.shared.ticker.loop + 1]).Nodup := by
      refine List.nodup_append.mpr ⟨coherent.loopsDistinct, by simp, ?_⟩
      intro old oldMember newest newestMember
      have known := coherent.loopsKnown old oldMember
      have shape := List.mem_singleton.mp newestMember
      omega
    refine ⟨distinct.sublist sublist, fun loop member => ?_⟩
    rw [nextLoop]
    rcases List.mem_append.mp (sublist.subset member) with old | newest
    · exact Nat.le_succ_of_le (coherent.loopsKnown loop old)
    · exact Nat.le_of_eq (List.mem_singleton.mp newest)

/-- After every move, whoever waits, waits for a refresh that has begun. -/
private theorem awaitedKnown_step
    (coherent : Coherent configuration)
    (moved : TickerMove configuration move next)
    {place : Nat}
    {call : TickerCall}
    {refresh : Nat}
    (waits : next.task? place = some (.awaiting call refresh)) :
    refresh < next.shared.ticker.refreshes.length := by
  rcases moved.task?_cases waits with
    before | ⟨_, turn, -, -, taken, left, shared⟩ | new
  · have longer := (coherent.change moved).length_refreshes_le coherent.orderly
    exact Nat.lt_of_lt_of_le (coherent.awaitedKnown before) longer
  · rw [shared]
    exact (taken.of_awaiting coherent.orderly left).2
  · cases new

/-- A caller that comes carries out no refresh and is no loop. -/
private theorem collect_call
    (configuration : Configuration (ScriptedTicker α) (TickerTask α))
    (call : TickerCall)
    {select : TickerTask α → Option β}
    (none : select (.ofCall call) = none) :
    Configuration.collect select
        { configuration with tasks := configuration.tasks ++ [some (.ofCall call)] } =
      configuration.collect select :=
  Configuration.collect_append_of_none (List.forall_mem_singleton.mpr none) configuration _

/-- After every move, refreshes are carried out for the slot only. -/
private theorem carriedOut_step
    (coherent : Coherent configuration)
    (moved : TickerMove configuration move next) :
    next.collect TickerTask.refresh? = next.shared.ticker.running?.toList := by
  cases moved with
  | turn found taken =>
      exact coherent.carriedOut_update found taken
  | wait | dispose =>
      exact coherent.carriedOut
  | call =>
      rename_i call
      rw [collect_call configuration call (by cases call <;> rfl)]
      exact coherent.carriedOut

/-- After every move, loops are distinct, and none is newer than the one in force. -/
private theorem loops_step
    (coherent : Coherent configuration)
    (moved : TickerMove configuration move next) :
    (next.collect TickerTask.loop?).Nodup ∧
      ∀ loop ∈ next.collect TickerTask.loop?, loop ≤ next.shared.ticker.loop := by
  cases moved with
  | turn found taken =>
      exact coherent.loops_update found taken
  | wait | dispose =>
      exact ⟨coherent.loopsDistinct, coherent.loopsKnown⟩
  | call =>
      rename_i call
      rw [collect_call configuration call (by cases call <;> rfl)]
      exact ⟨coherent.loopsDistinct, coherent.loopsKnown⟩

/-- Every move keeps a ticker coherent with its tasks. -/
theorem step
    (coherent : Coherent configuration)
    (moved : TickerMove configuration move next) :
    Coherent next where
  orderly := (coherent.change moved).orderly coherent.orderly
  carriedOut := coherent.carriedOut_step moved
  loopsDistinct := (coherent.loops_step moved).1
  loopsKnown := (coherent.loops_step moved).2
  awaitedKnown := coherent.awaitedKnown_step moved

/-- A ticker stays coherent with its tasks along every run. -/
theorem later
    {start : Configuration (ScriptedTicker α) (TickerTask α)}
    {history : List (Transition (ScriptedTicker α) (TickerTask α) TickerAction)}
    (coherent : Coherent start)
    (run : Run ScriptedTicker.system start history configuration) :
    Coherent configuration := by
  induction run with
  | start =>
      exact coherent
  | step _ possible inductionHypothesis =>
      exact inductionHypothesis.step (.of_after? possible)

/-- A ticker is coherent with its tasks wherever a run leads. -/
theorem of_run
    {name : String}
    {interval : Nat}
    {script : RefreshScript α}
    {history : List (Transition (ScriptedTicker α) (TickerTask α) TickerAction)}
    (run :
      Run ScriptedTicker.system (ScriptedTicker.fresh name interval script)
        history configuration) :
    Coherent configuration :=
  (fresh name interval script).later run

end ScriptedTicker.Coherent

/-! ## Ends of refreshes -/

/-- What a caller is told of a refresh that it has waited for. -/
def TickerCall.answer
    (now : Moment)
    (ticker : Ticker α)
    (succeeded : Bool) :
    TickerCall → TickerAnswer α
  | .tick => .refreshed succeeded
  | .value => .ofSnapshot (ticker.snapshot now)

namespace ScriptedTicker.Coherent

variable
  {configuration : Configuration (ScriptedTicker α) (TickerTask α)}
  {place refresh : Nat}

/-- A refresh on its way comes to its end once its time is over, beside all other tasks. -/
private theorem leadsTo_outcome_of_refreshing
    (known : refresh < configuration.shared.ticker.refreshes.length)
    {worker : Nat}
    {wake : Moment}
    {result : RefreshEnd α}
    (works : configuration.task? worker = some (.refreshing refresh wake result)) :
    ∃ later,
      configuration.LeadsTo ScriptedTicker.system later ∧
        later.shared.ticker.outcome? refresh = some result.value?.isSome ∧
        ∀ {other task},
          other ≠ worker →
          configuration.task? other = some task →
          later.task? other = some task := by
  let waited : Configuration (ScriptedTicker α) (TickerTask α) :=
    { configuration with now := configuration.now + wake }
  let turn : Turn (ScriptedTicker α) (TickerTask α) :=
    ⟨{ configuration.shared with
        ticker := configuration.shared.ticker.finish waited.now refresh result.value? },
      none, []⟩
  have possible :
      ScriptedTicker.turn waited.now waited.shared (.refreshing refresh wake result) =
        some turn :=
    if_pos (Nat.le_add_left _ _)
  have worksLater : waited.task? worker = some (.refreshing refresh wake result) := works
  refine
    ⟨waited.update worker turn,
      (Configuration.LeadsTo.wait _ configuration wake).trans (.turn worksLater possible), ?_,
      fun apart found => Configuration.task?_update_other apart found turn⟩
  refine (Ticker.outcome?_finish _ known waited.now result.value? refresh).trans ?_
  exact if_pos rfl

/-- Every refresh comes to its end, beside all tasks that carry out none. -/
theorem leadsTo_outcome
    (coherent : Coherent configuration)
    (known : refresh < configuration.shared.ticker.refreshes.length) :
    ∃ later succeeded,
      configuration.LeadsTo ScriptedTicker.system later ∧
        later.shared.ticker.outcome? refresh = some succeeded ∧
        ∀ {place task},
          configuration.task? place = some task →
          task.refresh? = none →
          later.task? place = some task := by
  cases outcome : configuration.shared.ticker.outcome? refresh with
  | some succeeded =>
      exact ⟨configuration, succeeded, .refl _ _, outcome, fun found _ => found⟩
  | none =>
      -- Without an outcome the refresh runs in the slot, so that some task carries it out.
      have running := coherent.orderly.running?_of_outcome?_eq_none known outcome
      have member : refresh ∈ configuration.collect TickerTask.refresh? := by
        simp [coherent.carriedOut, running]
      obtain ⟨worker, working, works, carries⟩ := Configuration.mem_collect_iff.mp member
      have apart
          {place : Nat}
          {task : TickerTask α}
          (found : configuration.task? place = some task)
          (idle : task.refresh? = none) :
          place ≠ worker := by
        rintro rfl
        obtain rfl := Option.some.inj (found.symm.trans works)
        cases carries.symm.trans idle
      cases working with
      | refresh number =>
          obtain rfl : number = refresh := Option.some.inj carries
          let scripted := configuration.shared
          let turn : Turn (ScriptedTicker α) (TickerTask α) :=
            ⟨{ scripted with begun := scripted.begun + 1 },
              some (.refreshing number (configuration.now + scripted.script.delay scripted.begun)
                (scripted.script.result scripted.begun)), []⟩
          have begins :
              configuration.LeadsTo ScriptedTicker.system (configuration.update worker turn) :=
            .turn works rfl
          have working :
              (configuration.update worker turn).task? worker =
                some (.refreshing number (configuration.now + scripted.script.delay scripted.begun)
                  (scripted.script.result scripted.begun)) :=
            Configuration.task?_update_self works turn
          obtain ⟨later, leads, ended, kept⟩ :=
            leadsTo_outcome_of_refreshing (by exact known) working
          refine ⟨later, _, begins.trans leads, ended, ?_⟩
          intro place task found idle
          exact kept (apart found idle)
            (Configuration.task?_update_other (apart found idle) found turn)
      | refreshing number wake result =>
          obtain rfl : number = refresh := Option.some.inj carries
          obtain ⟨later, leads, ended, kept⟩ := leadsTo_outcome_of_refreshing known works
          exact ⟨later, _, leads, ended, fun found idle => kept (apart found idle) found⟩
      | loop | looking | asking | awaiting | answered =>
          cases carries

/-- Whoever waits for a refresh comes to be told its outcome, or what the value is then. -/
theorem leadsTo_answer
    (coherent : Coherent configuration)
    {call : TickerCall}
    (waits : configuration.task? place = some (.awaiting call refresh)) :
    ∃ ending succeeded,
      configuration.LeadsTo ScriptedTicker.system ending ∧
        ending.shared.ticker.outcome? refresh = some succeeded ∧
        ending.task? place =
          some (.answered (call.answer ending.now ending.shared.ticker succeeded)) := by
  obtain ⟨later, succeeded, leads, outcome, kept⟩ :=
    coherent.leadsTo_outcome (coherent.awaitedKnown waits)
  have waitsLater := kept waits rfl
  let after := later.shared.ticker.publish refresh succeeded
  let turn : Turn (ScriptedTicker α) (TickerTask α) :=
    ⟨{ later.shared with ticker := after },
      some (.answered (call.answer later.now after succeeded)), []⟩
  have seen : later.shared.ticker.await? refresh = some (after, succeeded) := by
    simp [Ticker.await?, outcome, after]
  have possible :
      ScriptedTicker.turn later.now later.shared (.awaiting call refresh) = some turn := by
    cases call <;> exact Option.map_eq_some_iff.mpr ⟨_, seen, rfl⟩
  exact
    ⟨later.update place turn, succeeded, leads.trans (.turn waitsLater possible),
      (Ticker.outcome?_await? seen refresh).trans outcome,
      Configuration.task?_update_self waitsLater turn⟩

end ScriptedTicker.Coherent

end FeatureFlags
