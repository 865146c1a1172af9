import FeatureFlags.Proofs.Interleaving

namespace FeatureFlags

/-!
# Schedules are interleavings

Whatever a world does with its tasks, be it to serve its queue or to let time pass, is
a run of the same tasks in which the order is left open. What holds along all runs
therefore holds of every world.
-/

variable {σ τ ε ρ : Type}

/-! ## Stands -/

/-- Tasks that share a state at a moment, in no particular order. -/
structure Stand (σ τ : Type) where
  now : Moment
  shared : σ
  tasks : List τ

/-- All tasks of a world. -/
def World.stand (world : World σ τ) : Stand σ τ where
  now := world.now
  shared := world.shared
  tasks := world.foreground.toList ++ (world.ready ++ world.waiting).map (·.2)

/-- A configuration has the tasks of a stand, and perhaps others that are never served again. -/
structure Configuration.Holds
    (configuration : Configuration σ τ)
    (stand : Stand σ τ) :
    Prop where
  now : configuration.now = stand.now
  shared : configuration.shared = stand.shared
  tasks : ∃ dropped, (configuration.collect some).Perm (stand.tasks ++ dropped)

/-- From wherever tasks stand, some run leads to where others stand. -/
def System.Leads
    (system : System σ τ ε)
    (first second : Stand σ τ) :
    Prop :=
  ∀ configuration : Configuration σ τ,
    configuration.Holds first →
    ∃ history last, Run system configuration history last ∧ last.Holds second

namespace System.Leads

variable {system : System σ τ ε} {first second third : Stand σ τ}

/-- A run may be continued. -/
theorem trans
    (earlier : system.Leads first second)
    (later : system.Leads second third) :
    system.Leads first third := by
  intro configuration holds
  obtain ⟨history, middle, run, holdsMiddle⟩ := earlier configuration holds
  obtain ⟨more, last, continuation, holdsLast⟩ := later middle holdsMiddle
  exact ⟨history ++ more, last, run.append continuation, holdsLast⟩

/-- A run that leads to a stand may be continued. -/
theorem exists_run
    (leads : system.Leads first second)
    {start : Configuration σ τ}
    (reached : ∃ history last, Run system start history last ∧ last.Holds first) :
    ∃ history last, Run system start history last ∧ last.Holds second := by
  obtain ⟨history, middle, run, holdsMiddle⟩ := reached
  obtain ⟨more, last, continuation, holdsLast⟩ := leads middle holdsMiddle
  exact ⟨history ++ more, last, run.append continuation, holdsLast⟩

/-- The order of tasks does not matter. -/
theorem of_perm
    {now : Moment}
    {shared : σ}
    {tasks others : List τ}
    (perm : tasks.Perm others) :
    system.Leads ⟨now, shared, tasks⟩ ⟨now, shared, others⟩ := by
  intro configuration holds
  obtain ⟨dropped, present⟩ := holds.tasks
  exact
    ⟨[], configuration, .start, holds.now, holds.shared, dropped,
      present.trans (perm.append_right dropped)⟩

/-- Tasks may be dropped. -/
theorem drop
    (now : Moment)
    (shared : σ)
    (tasks others : List τ) :
    system.Leads ⟨now, shared, others ++ tasks⟩ ⟨now, shared, tasks⟩ := by
  intro configuration holds
  obtain ⟨dropped, present⟩ := holds.tasks
  refine ⟨[], configuration, .start, holds.now, holds.shared, others ++ dropped, ?_⟩
  calc
    (configuration.collect some).Perm (others ++ tasks ++ dropped) :=
        present
    (others ++ tasks ++ dropped).Perm (tasks ++ others ++ dropped) :=
        List.perm_append_comm.append_right dropped
    _ = tasks ++ (others ++ dropped) :=
        List.append_assoc _ _ _

/-- A task may take its turn. -/
theorem turn
    {now : Moment}
    {shared : σ}
    {task : τ}
    {rest : List τ}
    {turn : Turn σ τ}
    (possible : system.behaviour.turn now shared task = some turn) :
    system.Leads
      ⟨now, shared, task :: rest⟩
      ⟨now, turn.shared, turn.task.toList ++ turn.begun ++ rest⟩ := by
  intro configuration holds
  obtain ⟨dropped, present⟩ := holds.tasks
  have member : task ∈ configuration.collect some :=
    present.mem_iff.mpr (List.mem_append_left _ List.mem_cons_self)
  obtain ⟨place, task, found, same⟩ := Configuration.mem_collect_iff.mp member
  obtain rfl := Option.some.inj same
  obtain ⟨left, right, before, after⟩ := Configuration.collect_update found turn some
  have others : (left ++ right).Perm (rest ++ dropped) := by
    have withTask : (task :: (left ++ right)).Perm (task :: (rest ++ dropped)) :=
      calc
        (task :: (left ++ right)).Perm (left ++ task :: right) :=
          List.perm_middle.symm
        (left ++ task :: right).Perm (task :: (rest ++ dropped)) := by
          simpa [before] using present
    exact withTask.cons_inv
  have taken :
      configuration.after? system (.turn place) = some (configuration.update place turn) := by
    refine Configuration.after?_turn_eq_some_iff.mpr ⟨task, turn, found, ?_, rfl⟩
    rw [holds.now, holds.shared]
    exact possible
  refine
    ⟨_, configuration.update place turn, Run.single taken, holds.now, rfl, dropped, ?_⟩
  calc
    (configuration.update place turn).collect some
      = left ++ (turn.task.toList ++ (right ++ turn.begun)) := by
        simp [after]
    (left ++ (turn.task.toList ++ (right ++ turn.begun))).Perm
        (turn.task.toList ++ (left ++ (right ++ turn.begun))) :=
        List.perm_append_comm_assoc _ _ _
    _ = turn.task.toList ++ (left ++ right ++ turn.begun) := by
        rw [List.append_assoc]
    (turn.task.toList ++ (left ++ right ++ turn.begun)).Perm
        (turn.task.toList ++ (turn.begun ++ (rest ++ dropped))) :=
        (List.perm_append_comm.trans (others.append_left _)).append_left _
    _ = turn.task.toList ++ turn.begun ++ rest ++ dropped := by
        simp only [List.append_assoc]

/-- Time may pass. -/
theorem wait
    {now later : Moment}
    (notBefore : now ≤ later)
    (shared : σ)
    (tasks : List τ) :
    system.Leads ⟨now, shared, tasks⟩ ⟨later, shared, tasks⟩ := by
  intro configuration holds
  have waited :
      configuration.after? system (.wait (later - now)) =
        some { configuration with now := configuration.now + (later - now) } :=
    rfl
  refine ⟨_, _, Run.single waited, ?_, holds.shared, holds.tasks⟩
  rw [holds.now]
  exact Nat.add_sub_cancel' notBefore

/-- Something may be done from outside. -/
theorem intervene
    {now : Moment}
    {shared changed : σ}
    {begun : List τ}
    {action : ε}
    (effect : system.intervene now shared action = (changed, begun))
    (tasks : List τ) :
    system.Leads ⟨now, shared, tasks⟩ ⟨now, changed, begun ++ tasks⟩ := by
  intro configuration holds
  obtain ⟨dropped, present⟩ := holds.tasks
  have done :
      configuration.after? system (.intervene action) =
        some { configuration with
          shared := changed
          tasks := configuration.tasks ++ begun.map some } := by
    simp [Configuration.after?, holds.now, holds.shared, effect]
  refine ⟨_, _, Run.single done, holds.now, rfl, dropped, ?_⟩
  calc
    ({ configuration with
        shared := changed
        tasks := configuration.tasks ++ begun.map some } : Configuration σ τ).collect some
      = configuration.collect some ++ begun := by
        simp [Configuration.collect_append]
    (configuration.collect some ++ begun).Perm (begun ++ configuration.collect some) :=
        List.perm_append_comm
    (begun ++ configuration.collect some).Perm (begun ++ (tasks ++ dropped)) :=
        present.append_left begun
    _ = begun ++ tasks ++ dropped :=
        (List.append_assoc _ _ _).symm

end System.Leads

/-! ## Worlds -/

namespace World

variable
  {system : System σ τ ε}
  {world : World σ τ}

/-- A task that moves as often as it can takes one turn after the other. -/
theorem leads_moveOn
    (system : System σ τ ε)
    (now : Moment)
    (moves : Nat)
    (shared : σ)
    (task : τ)
    (begun rest : List τ) :
    let turn := moveOn system.behaviour now moves shared task begun
    system.Leads
      ⟨now, shared, task :: (begun ++ rest)⟩
      ⟨now, turn.shared, turn.task.toList ++ turn.begun ++ rest⟩ := by
  induction moves generalizing shared task begun with
  | zero =>
      exact .of_perm (.of_eq (by simp [moveOn]))
  | succ moves inductionHypothesis =>
      cases possible : system.behaviour.turn now shared task with
      | none =>
          simp only [moveOn, possible]
          exact .of_perm (.of_eq (by simp))
      | some turn =>
          -- What the task began before waits in line with what it begins now.
          have reorder :
              (turn.task.toList ++ turn.begun ++ (begun ++ rest)).Perm
                (turn.task.toList ++ (begun ++ turn.begun ++ rest)) := by
            rw [List.append_assoc, List.append_assoc begun]
            exact (List.perm_append_comm_assoc _ _ _).append_left _
          have moved := (System.Leads.turn possible).trans (.of_perm reorder)
          cases left : turn.task with
          | none =>
              simp only [moveOn, possible, left]
              simpa [left] using moved
          | some next =>
              simp only [moveOn, possible, left]
              refine System.Leads.trans ?_ (inductionHypothesis turn.shared next _)
              simpa [left] using moved

/-- The tasks of a world after new ones have been queued. -/
private theorem stand_begin
    (world : World σ τ)
    (tasks : List τ) :
    (world.begin tasks).stand.tasks.Perm (tasks ++ world.stand.tasks) := by
  have queued :
      (tasks.mapIdx fun index task => (world.begun + index, task)).map (·.2) = tasks := by
    apply List.ext_getElem?
    intro index
    simp [Function.comp_def]
  calc
    (world.begin tasks).stand.tasks
      = world.foreground.toList ++ (world.ready.map (·.2) ++
          (tasks ++ world.waiting.map (·.2))) := by
        simp only [stand, begin, List.map_append, queued, List.append_assoc]
    _ = (world.foreground.toList ++ world.ready.map (·.2)) ++
          (tasks ++ world.waiting.map (·.2)) :=
        (List.append_assoc _ _ _).symm
    ((world.foreground.toList ++ world.ready.map (·.2)) ++
          (tasks ++ world.waiting.map (·.2))).Perm
        (tasks ++ ((world.foreground.toList ++ world.ready.map (·.2)) ++
          world.waiting.map (·.2))) :=
        List.perm_append_comm_assoc _ _ _
    _ = tasks ++ world.stand.tasks := by
        simp only [stand, List.map_append, List.append_assoc]

/-- Tasks that are the first of a world are those of a configuration. -/
theorem holds_begin
    (shared : σ)
    (tasks : List τ) :
    Configuration.Holds
      { shared, tasks := tasks.map some }
      (({ shared } : World σ τ).begin tasks).stand where
  now := rfl
  shared := rfl
  tasks := by
    have queued := stand_begin { shared } tasks
    refine ⟨[], ?_⟩
    simpa [Configuration.collect, stand, List.filterMap_map, Function.comp_def] using queued.symm

/-- To queue tasks that can move is to reorder them. -/
theorem leads_release
    (system : System σ τ ε)
    (world : World σ τ) :
    system.Leads world.stand (world.release system.behaviour).stand := by
  refine System.Leads.of_perm ?_
  have released :
      ((world.waiting.filter fun entry => world.canMove system.behaviour entry.2) ++
        world.waiting.filter fun entry => !world.canMove system.behaviour entry.2).Perm
      world.waiting :=
    List.filter_append_perm _ _
  simp only [release, List.partition_eq_filter_filter, List.append_assoc]
  exact ((released.symm.append_left world.ready).map (·.2)).append_left _

/-- To serve a task of the queue is a run. -/
theorem leads_poll
    (system : System σ τ ε)
    (world : World σ τ)
    (entry : Nat × τ) :
    system.Leads
      ⟨world.now, world.shared, entry.2 :: world.stand.tasks⟩
      (world.poll system.behaviour entry).stand := by
  let turn := moveOn system.behaviour world.now movesPerPoll world.shared entry.2 []
  let served := { world with shared := turn.shared }.begin turn.begun
  let parked :=
    { served with
      waiting := served.waiting ++ turn.task.toList.map fun task => (entry.1, task) }
  have shape : world.poll system.behaviour entry = parked.release system.behaviour := by
    cases left : turn.task <;> simp [poll, parked, served, turn, left]
  have moved :
      system.Leads
        ⟨world.now, world.shared, entry.2 :: world.stand.tasks⟩
        ⟨world.now, turn.shared, turn.task.toList ++ turn.begun ++ world.stand.tasks⟩ :=
    leads_moveOn system world.now movesPerPoll world.shared entry.2 [] world.stand.tasks
  have queued : served.stand.tasks.Perm (turn.begun ++ world.stand.tasks) :=
    stand_begin { world with shared := turn.shared } turn.begun
  have arranged :
      (turn.task.toList ++ turn.begun ++ world.stand.tasks).Perm parked.stand.tasks :=
    calc
      turn.task.toList ++ turn.begun ++ world.stand.tasks
        = turn.task.toList ++ (turn.begun ++ world.stand.tasks) :=
          List.append_assoc _ _ _
      (turn.task.toList ++ (turn.begun ++ world.stand.tasks)).Perm
          (turn.task.toList ++ served.stand.tasks) :=
          queued.symm.append_left _
      (turn.task.toList ++ served.stand.tasks).Perm
          (served.stand.tasks ++ turn.task.toList) :=
          List.perm_append_comm
      _ = parked.stand.tasks := by
          simp [parked, stand, Function.comp_def]
  rw [shape]
  exact (moved.trans (.of_perm arranged)).trans (leads_release system parked)

/-- To serve the task in the foreground is a run. -/
theorem leads_pollForeground
    (system : System σ τ ε)
    (world : World σ τ) :
    system.Leads world.stand (world.pollForeground system.behaviour).stand := by
  cases held : world.foreground with
  | none =>
      rw [pollForeground, held]
      exact .of_perm (.refl _)
  | some task =>
      let turn := moveOn system.behaviour world.now movesPerPoll world.shared task []
      let served := { world with shared := turn.shared, foreground := turn.task }
      let others := (world.ready ++ world.waiting).map (·.2)
      have before : world.stand = ⟨world.now, world.shared, task :: ([] ++ others)⟩ := by
        simp [stand, held, others]
      have moved :
          system.Leads world.stand
            ⟨world.now, turn.shared, turn.task.toList ++ turn.begun ++ others⟩ := by
        rw [before]
        exact leads_moveOn system world.now movesPerPoll world.shared task [] others
      have arranged :
          (turn.task.toList ++ turn.begun ++ others).Perm
            (served.begin turn.begun).stand.tasks := by
        rw [List.append_assoc]
        exact
          (List.perm_append_comm_assoc _ _ _).trans (stand_begin served turn.begun).symm
      simp only [pollForeground, held]
      exact
        (moved.trans (.of_perm arranged)).trans
          (leads_release system (served.begin turn.begun))

/-- To let tasks move until none can is a run. -/
theorem leads_settleWithin
    (system : System σ τ ε)
    (polls : Nat)
    (world : World σ τ) :
    system.Leads world.stand (world.settleWithin system.behaviour polls).stand := by
  induction polls generalizing world with
  | zero =>
      exact .of_perm (.refl _)
  | succ polls inductionHypothesis =>
      cases queue : world.ready with
      | cons entry rest =>
          simp only [settleWithin, queue]
          have taken :
              world.stand.tasks.Perm
                (entry.2 :: { world with ready := rest }.stand.tasks) := by
            simp [stand, queue]
          exact
            (System.Leads.of_perm taken).trans
              ((leads_poll system { world with ready := rest } entry).trans
                (inductionHypothesis _))
      | nil =>
          simp only [settleWithin, queue]
          split
          · exact (leads_pollForeground system world).trans (inductionHypothesis _)
          · exact .of_perm (.refl _)

/-! ## Time -/

@[simp] theorem now_release
    (behaviour : Behaviour σ τ)
    (world : World σ τ) :
    (world.release behaviour).now = world.now :=
  rfl

@[simp] theorem now_poll
    (behaviour : Behaviour σ τ)
    (world : World σ τ)
    (entry : Nat × τ) :
    (world.poll behaviour entry).now = world.now := by
  simp only [poll, now_release]
  split <;> rfl

@[simp] theorem now_pollForeground
    (behaviour : Behaviour σ τ)
    (world : World σ τ) :
    (world.pollForeground behaviour).now = world.now := by
  unfold pollForeground
  split <;> rfl

/-- No time passes while tasks move. -/
@[simp] theorem now_settleWithin
    (behaviour : Behaviour σ τ)
    (polls : Nat)
    (world : World σ τ) :
    (world.settleWithin behaviour polls).now = world.now := by
  induction polls generalizing world with
  | zero =>
      rfl
  | succ polls inductionHypothesis =>
      unfold settleWithin
      split
      · simp [inductionHypothesis]
      · split <;> simp [inductionHypothesis]

/-- A task waits for a moment that is still to come. -/
theorem lt_of_nextMoment?
    {behaviour : Behaviour σ τ}
    {world : World σ τ}
    {moment : Moment}
    (next : world.nextMoment? behaviour = some moment) :
    world.now < moment := by
  have member := List.min?_mem next
  simpa using (List.mem_filter.mp member).2

/-- To let time pass up to a moment and to let the tasks move is a run. -/
theorem leads_jump
    (system : System σ τ ε)
    (world : World σ τ)
    {moment : Moment}
    (notBefore : world.now ≤ moment) :
    system.Leads world.stand (world.jump system.behaviour moment).stand :=
  (System.Leads.wait notBefore world.shared world.stand.tasks).trans
    ((leads_release system { world with now := moment }).trans
      ((leads_pollForeground system _).trans (leads_settleWithin system pollLimit _)))

/-- To let time pass within a number of jumps is a run. -/
theorem leads_waitWithin
    (system : System σ τ ε)
    (moment : Moment)
    (jumps : Nat)
    (world : World σ τ)
    (notBefore : world.now ≤ moment) :
    system.Leads world.stand (world.waitWithin system.behaviour moment jumps).stand := by
  induction jumps generalizing world with
  | zero =>
      exact .of_perm (.refl _)
  | succ jumps inductionHypothesis =>
      unfold waitWithin
      split
      case h_1 =>
        exact .wait notBefore world.shared world.stand.tasks
      case h_2 next found =>
        split
        case isTrue within =>
          have jumped := leads_jump system world (Nat.le_of_lt (lt_of_nextMoment? found))
          refine jumped.trans (inductionHypothesis _ ?_)
          simpa [jump, settle] using within
        case isFalse =>
          exact .wait notBefore world.shared world.stand.tasks

/-- To let a duration pass is a run. -/
theorem leads_wait
    (system : System σ τ ε)
    (duration : Nat)
    (world : World σ τ) :
    system.Leads world.stand (world.wait system.behaviour duration).stand :=
  leads_waitWithin system _ _ world (Nat.le_add_right world.now duration)

/-- To let time pass until a condition holds is a run. -/
theorem leads_awaitWithin
    (system : System σ τ ε)
    (isDone : World σ τ → Bool)
    (jumps : Nat)
    (world : World σ τ) :
    system.Leads world.stand (world.awaitWithin system.behaviour isDone jumps).stand := by
  induction jumps generalizing world with
  | zero =>
      exact .of_perm (.refl _)
  | succ jumps inductionHypothesis =>
      unfold awaitWithin
      split
      case isTrue =>
        exact .of_perm (.refl _)
      case isFalse =>
        split
        case h_1 =>
          exact .of_perm (.refl _)
        case h_2 next found =>
          have jumped := leads_jump system world (Nat.le_of_lt (lt_of_nextMoment? found))
          exact jumped.trans (inductionHypothesis _)

/-! ## Operations -/

/-- To change the shared state and begin tasks is a run, if it can be done from outside. -/
theorem leads_act
    (system : System σ τ ε)
    {change : σ → σ × List τ × ρ}
    {world : World σ τ}
    (action : ε)
    (effect :
      system.intervene world.now world.shared action =
        ((change world.shared).1, (change world.shared).2.1)) :
    system.Leads world.stand (world.act system.behaviour change).1.stand := by
  let changed :=
    { world with shared := (change world.shared).1 }.begin (change world.shared).2.1
  have intervened := System.Leads.intervene effect world.stand.tasks
  have queued :=
    stand_begin { world with shared := (change world.shared).1 } (change world.shared).2.1
  exact
    (intervened.trans (.of_perm queued.symm)).trans
      ((leads_release system changed).trans
        (leads_settleWithin system pollLimit (changed.release system.behaviour)))

/-- To begin a task in the background is a run, if it can be done from outside. -/
theorem leads_start
    (system : System σ τ ε)
    {task : τ}
    {world : World σ τ}
    (action : ε)
    (effect : system.intervene world.now world.shared action = (world.shared, [task])) :
    system.Leads world.stand (world.start system.behaviour task).1.stand := by
  have intervened := System.Leads.intervene effect world.stand.tasks
  have queued := stand_begin world [task]
  exact
    (intervened.trans (.of_perm queued.symm)).trans
      (leads_settleWithin system pollLimit (world.begin [task]))

/-- To wait for a task in the background is a run. -/
theorem leads_join
    (system : System σ τ ε)
    (result? : τ → Option ρ)
    (id : Nat)
    (world : World σ τ) :
    system.Leads world.stand (world.join system.behaviour result? id).1.stand :=
  leads_awaitWithin system _ pollLimit world

/-- To dismiss the task in the foreground is to drop it. -/
private theorem leads_dismiss
    (system : System σ τ ε)
    (world : World σ τ) :
    system.Leads world.stand { world with foreground := none }.stand :=
  .drop world.now world.shared ((world.ready ++ world.waiting).map (·.2))
    world.foreground.toList

/-- To wait for a task in the foreground is a run, if it can be begun from outside. -/
theorem leads_call
    (system : System σ τ ε)
    {result? : τ → Option ρ}
    {task : τ}
    {world : World σ τ}
    (action : ε)
    (effect : system.intervene world.now world.shared action = (world.shared, [task])) :
    system.Leads world.stand (world.call system.behaviour result? task).1.stand := by
  let others : List τ := (world.ready ++ world.waiting).map (·.2)
  have intervened :
      system.Leads { world with foreground := none }.stand
        { world with foreground := some task }.stand :=
    System.Leads.intervene effect others
  simp only [call, settle]
  -- The limit is a large number, which must not be computed with.
  generalize pollLimit = polls
  exact
    (leads_dismiss system world).trans
      (intervened.trans
        ((leads_pollForeground system _).trans
          ((leads_settleWithin system polls _).trans
            ((leads_awaitWithin system _ polls _).trans (leads_dismiss system _)))))

end World

end FeatureFlags
