import FeatureFlags.Schedule

namespace FeatureFlags

/-!
# Interleavings

A schedule serves its tasks in one fixed order. Here the order is left open: at
any moment any task that can move may take its turn, time may pass, and something
may be done from outside. Whatever holds along all runs of this kind does not
depend on the order in which tasks are served.
-/

variable {σ τ ε : Type}

/-- What tasks do by themselves, and what can be done to them from outside. -/
structure System (σ τ ε : Type) where
  behaviour : Behaviour σ τ
  /-- The shared state after an action from outside, and the tasks that the action begins. -/
  intervene : Moment → σ → ε → σ × List τ

/-- A shared state at a moment with all tasks ever begun; an ended task leaves its place empty. -/
structure Configuration (σ τ : Type) where
  now : Moment := 0
  shared : σ
  tasks : List (Option τ) := []

/-- What happens next. -/
inductive Move (ε : Type) where
  /-- The task at a place takes a turn. -/
  | turn (place : Nat)
  /-- Time passes. -/
  | wait (duration : Nat)
  /-- Something is done from outside. -/
  | intervene (action : ε)

namespace Configuration

/-- The task at a place, unless it has ended. -/
def task?
    (configuration : Configuration σ τ)
    (place : Nat) :
    Option τ :=
  configuration.tasks[place]?.join

/-- Replace the task at a place and begin new tasks. -/
def update
    (configuration : Configuration σ τ)
    (place : Nat)
    (turn : Turn σ τ) :
    Configuration σ τ :=
  { configuration with
    shared := turn.shared
    tasks := configuration.tasks.set place turn.task ++ turn.begun.map some }

/-- The configuration after a move, if the move is possible. -/
def after?
    (system : System σ τ ε)
    (configuration : Configuration σ τ) :
    Move ε → Option (Configuration σ τ)
  | .turn place => do
      let task ← configuration.task? place
      let turn ← system.behaviour.turn configuration.now configuration.shared task
      return configuration.update place turn
  | .wait duration =>
      some { configuration with now := configuration.now + duration }
  | .intervene action =>
      let (shared, begun) :=
        system.intervene configuration.now configuration.shared action
      some { configuration with shared, tasks := configuration.tasks ++ begun.map some }

/-- A possible turn is the turn of a task. -/
theorem after?_turn_eq_some_iff
    {system : System σ τ ε}
    {configuration next : Configuration σ τ}
    {place : Nat} :
    configuration.after? system (.turn place) = some next ↔
      ∃ task turn,
        configuration.task? place = some task ∧
          system.behaviour.turn configuration.now configuration.shared task = some turn ∧
          next = configuration.update place turn := by
  simp only [after?, Option.bind_eq_bind, Option.bind_eq_some_iff, Option.pure_def,
    Option.some.injEq]
  constructor
  · rintro ⟨task, found, turn, possible, rfl⟩
    exact ⟨task, turn, found, possible, rfl⟩
  · rintro ⟨task, turn, found, possible, rfl⟩
    exact ⟨task, found, turn, possible, rfl⟩

theorem lt_length_of_task?
    {configuration : Configuration σ τ}
    {place : Nat}
    {task : τ}
    (found : configuration.task? place = some task) :
    place < configuration.tasks.length := by
  simp only [task?, Option.join_eq_some_iff] at found
  exact (List.getElem?_eq_some_iff.mp found).1

/-- No place is ever given up. -/
theorem length_update
    (configuration : Configuration σ τ)
    (place : Nat)
    (turn : Turn σ τ) :
    (configuration.update place turn).tasks.length =
      configuration.tasks.length + turn.begun.length := by
  simp [update]

/-- What the tasks have of some kind, in their order. -/
def collect
    (select : τ → Option β)
    (configuration : Configuration σ τ) :
    List β :=
  configuration.tasks.filterMap fun task => task.bind select

private theorem filterMap_bind_map_some
    (select : τ → Option β)
    (begun : List τ) :
    (begun.map some).filterMap (fun task => task.bind select) = begun.filterMap select := by
  rw [List.filterMap_map]
  rfl

/-- What new tasks have is collected after what the others have. -/
theorem collect_append
    (select : τ → Option β)
    (configuration : Configuration σ τ)
    (shared : σ)
    (begun : List τ) :
    collect select
        { configuration with shared, tasks := configuration.tasks ++ begun.map some } =
      configuration.collect select ++ begun.filterMap select := by
  simp only [collect, List.filterMap_append, filterMap_bind_map_some]

/-- New tasks that have nothing of some kind leave what there is. -/
theorem collect_append_of_none
    {select : τ → Option β}
    {begun : List τ}
    (none : ∀ new ∈ begun, select new = none)
    (configuration : Configuration σ τ)
    (shared : σ) :
    collect select
        { configuration with shared, tasks := configuration.tasks ++ begun.map some } =
      configuration.collect select := by
  rw [collect_append, List.filterMap_eq_nil_iff.mpr none, List.append_nil]

/-- How many tasks before a place have something of some kind. -/
def rank
    (select : τ → Option β)
    (configuration : Configuration σ τ)
    (place : Nat) :
    Nat :=
  ((configuration.tasks.take place).filterMap fun task => task.bind select).length

/-- What a task has is at its rank, where a turn changes it. -/
theorem collect_update_rank
    {configuration : Configuration σ τ}
    {place : Nat}
    {task : τ}
    (found : configuration.task? place = some task)
    (turn : Turn σ τ)
    (select : τ → Option β) :
    ∃ left right,
      left.length = configuration.rank select place ∧
        configuration.collect select = left ++ (select task).toList ++ right ∧
        (configuration.update place turn).collect select =
          left ++ (turn.task.bind select).toList ++ right ++ turn.begun.filterMap select := by
  have inside := lt_length_of_task? found
  simp only [task?, List.getElem?_eq_getElem inside, Option.join_some] at found
  have shape :
      configuration.tasks =
        configuration.tasks.take place ++ some task :: configuration.tasks.drop (place + 1) := by
    rw [← found, List.getElem_cons_drop, List.take_append_drop]
  refine
    ⟨(configuration.tasks.take place).filterMap fun task => task.bind select,
      (configuration.tasks.drop (place + 1)).filterMap fun task => task.bind select, rfl, ?_, ?_⟩
  · calc
      configuration.collect select
        = (configuration.tasks.take place ++
            some task :: configuration.tasks.drop (place + 1)).filterMap
              fun task => task.bind select := by
          rw [← shape]
          rfl
      _ = _ := by
          cases selected : select task <;>
            simp [selected]
  · simp only [collect, update, List.filterMap_append, filterMap_bind_map_some]
    rw [List.set_eq_take_append_cons_drop, if_pos inside]
    cases selected : turn.task.bind select <;>
      simp [selected]

/-- A turn changes what its task has, and appends what the new tasks have. -/
theorem collect_update
    {configuration : Configuration σ τ}
    {place : Nat}
    {task : τ}
    (found : configuration.task? place = some task)
    (turn : Turn σ τ)
    (select : τ → Option β) :
    ∃ left right,
      configuration.collect select = left ++ (select task).toList ++ right ∧
        (configuration.update place turn).collect select =
          left ++ (turn.task.bind select).toList ++ right ++ turn.begun.filterMap select := by
  obtain ⟨left, right, -, before, after⟩ := collect_update_rank found turn select
  exact ⟨left, right, before, after⟩

/-- What a task has is collected at its rank. -/
theorem getElem?_collect
    {configuration : Configuration σ τ}
    {place : Nat}
    {task : τ}
    {select : τ → Option β}
    {item : β}
    (found : configuration.task? place = some task)
    (selected : select task = some item) :
    (configuration.collect select)[configuration.rank select place]? = some item := by
  obtain ⟨left, right, length, before, -⟩ :=
    collect_update_rank found ⟨configuration.shared, none, []⟩ select
  simp [before, selected, ← length]

/-- A turn of a task that has something changes what is collected at its rank. -/
theorem collect_update_eq
    {configuration : Configuration σ τ}
    {place : Nat}
    {task : τ}
    {select : τ → Option β}
    {item : β}
    (found : configuration.task? place = some task)
    (selected : select task = some item)
    (turn : Turn σ τ) :
    (configuration.update place turn).collect select =
      (configuration.collect select).take (configuration.rank select place) ++
        (turn.task.bind select).toList ++
        (configuration.collect select).drop (configuration.rank select place + 1) ++
        turn.begun.filterMap select := by
  obtain ⟨left, right, length, before, after⟩ := collect_update_rank found turn select
  simp [after, before, selected, ← length]

/-- A turn that keeps what its task has only appends what the new tasks have. -/
theorem collect_update_of_kept
    {configuration : Configuration σ τ}
    {place : Nat}
    {task : τ}
    (found : configuration.task? place = some task)
    {turn : Turn σ τ}
    {select : τ → Option β}
    (kept : turn.task.bind select = select task) :
    (configuration.update place turn).collect select =
      configuration.collect select ++ turn.begun.filterMap select := by
  obtain ⟨left, right, before, after⟩ := collect_update found turn select
  rw [after, before, kept]

/-- A turn that drops what its task has, if anything, brings in only what the new tasks have. -/
theorem collect_update_sublist
    {configuration : Configuration σ τ}
    {place : Nat}
    {task : τ}
    (found : configuration.task? place = some task)
    {turn : Turn σ τ}
    {select : τ → Option β}
    (keptOrDropped : turn.task.bind select = select task ∨ turn.task.bind select = none) :
    ((configuration.update place turn).collect select).Sublist
      (configuration.collect select ++ turn.begun.filterMap select) := by
  rcases keptOrDropped with kept | dropped
  · exact collect_update_of_kept found kept ▸ List.Sublist.refl _
  · obtain ⟨left, right, before, after⟩ := collect_update found turn select
    rw [after, before, dropped]
    simp

/-- Whatever a task has is collected. -/
theorem mem_collect_iff
    {configuration : Configuration σ τ}
    {select : τ → Option β}
    {item : β} :
    item ∈ configuration.collect select ↔
      ∃ place task, configuration.task? place = some task ∧ select task = some item := by
  constructor
  · intro member
    obtain ⟨kept, keptMember, selects⟩ := List.mem_filterMap.mp member
    obtain ⟨task, rfl, selected⟩ := Option.bind_eq_some_iff.mp selects
    obtain ⟨place, found⟩ := List.mem_iff_getElem?.mp keptMember
    exact ⟨place, task, Option.join_eq_some_iff.mpr found, selected⟩
  · rintro ⟨place, task, found, selected⟩
    have member : some task ∈ configuration.tasks :=
      List.mem_of_getElem? (Option.join_eq_some_iff.mp found)
    exact List.mem_filterMap.mpr ⟨some task, member, selected⟩

/-- Two tasks at different places that have something are two that have something. -/
private theorem two_le_length_collect
    {configuration : Configuration σ τ}
    {select : τ → Option β}
    {place other : Nat}
    {task another : τ}
    {item second : β}
    (before : place < other)
    (found : configuration.task? place = some task)
    (selected : select task = some item)
    (alsoFound : configuration.task? other = some another)
    (alsoSelected : select another = some second) :
    2 ≤ (configuration.collect select).length := by
  let has (tasks : List (Option τ)) : List β := tasks.filterMap fun task => task.bind select
  have left : item ∈ has (configuration.tasks.take other) := by
    refine List.mem_filterMap.mpr ⟨some task, List.mem_iff_getElem?.mpr ⟨place, ?_⟩, selected⟩
    rw [List.getElem?_take_of_lt before]
    exact Option.join_eq_some_iff.mp found
  have right : second ∈ has (configuration.tasks.drop other) := by
    refine List.mem_filterMap.mpr ⟨some another, List.mem_iff_getElem?.mpr ⟨0, ?_⟩, alsoSelected⟩
    rw [List.getElem?_drop, Nat.add_zero]
    exact Option.join_eq_some_iff.mp alsoFound
  rw [collect, ← List.take_append_drop other configuration.tasks, List.filterMap_append,
    List.length_append]
  exact Nat.add_le_add (List.length_pos_of_mem left) (List.length_pos_of_mem right)

/-- Where at most one task has something, it is at one place. -/
theorem place_eq_of_collect
    {configuration : Configuration σ τ}
    {select : τ → Option β}
    (one : (configuration.collect select).length ≤ 1)
    {place other : Nat}
    {task another : τ}
    {item second : β}
    (found : configuration.task? place = some task)
    (selected : select task = some item)
    (alsoFound : configuration.task? other = some another)
    (alsoSelected : select another = some second) :
    place = other := by
  rcases Nat.lt_trichotomy place other with before | same | after
  · have := two_le_length_collect before found selected alsoFound alsoSelected
    omega
  · exact same
  · have := two_le_length_collect after alsoFound alsoSelected found selected
    omega

/-- After a turn, the task at its place is the one that the turn left. -/
theorem task?_update_self
    {configuration : Configuration σ τ}
    {place : Nat}
    {task : τ}
    (found : configuration.task? place = some task)
    (turn : Turn σ τ) :
    (configuration.update place turn).task? place = turn.task := by
  have inside := lt_length_of_task? found
  simp [task?, update, List.getElem?_append_left, inside]

/-- A turn leaves the tasks at all other places alone. -/
theorem task?_update_other
    {configuration : Configuration σ τ}
    {place other : Nat}
    {task : τ}
    (different : other ≠ place)
    (found : configuration.task? other = some task)
    (turn : Turn σ τ) :
    (configuration.update place turn).task? other = some task := by
  have inside := lt_length_of_task? found
  simp only [task?] at found
  simpa [task?, update, List.getElem?_append_left, inside, Ne.symm different] using found

/-- A task among old and new ones is one of the old ones in its place, or a new one. -/
theorem task?_append_cases
    {tasks : List (Option τ)}
    {begun : List τ}
    {now : Moment}
    {shared : σ}
    {place : Nat}
    {task : τ}
    (found : ({ now, shared, tasks := tasks ++ begun.map some } : Configuration σ τ).task? place =
      some task) :
    tasks[place]? = some (some task) ∨ task ∈ begun := by
  by_cases inside : place < tasks.length
  · refine .inl ?_
    simpa [task?, List.getElem?_append_left, inside, Option.join_eq_some_iff] using found
  · refine .inr ?_
    simp only [task?, List.getElem?_append_right, Nat.not_lt.mp inside, List.getElem?_map,
      Option.join_eq_some_iff, Option.map_eq_some_iff, Option.some.injEq] at found
    obtain ⟨new, member, rfl⟩ := found
    exact List.mem_of_getElem? member

/-- A task among the old ones and a single new one is one of the old ones, or the new one. -/
theorem task?_snoc_cases
    {configuration : Configuration σ τ}
    {new : τ}
    {now : Moment}
    {shared : σ}
    {place : Nat}
    {task : τ}
    (found :
      ({ now, shared, tasks := configuration.tasks ++ [some new] } :
        Configuration σ τ).task? place = some task) :
    configuration.task? place = some task ∨ task = new := by
  have begun : [some new] = [new].map some := rfl
  rw [begun] at found
  rcases task?_append_cases found with before | isNew
  · exact .inl (Option.join_eq_some_iff.mpr before)
  · exact .inr (List.mem_singleton.mp isNew)

/-- The tasks among old and new ones, place by place. -/
theorem task?_append
    (configuration : Configuration σ τ)
    (begun : List τ)
    (now : Moment)
    (shared : σ)
    (place : Nat) :
    ({ now, shared, tasks := configuration.tasks ++ begun.map some } :
        Configuration σ τ).task? place =
      if place < configuration.tasks.length then
        configuration.task? place
      else
        begun[place - configuration.tasks.length]? := by
  by_cases inside : place < configuration.tasks.length
  · simp [task?, List.getElem?_append_left, inside]
  · cases found : begun[place - configuration.tasks.length]? <;>
      simp [task?, List.getElem?_append_right, Nat.not_lt.mp inside, inside, found]

/-- The tasks after a turn, place by place. -/
theorem task?_update
    {configuration : Configuration σ τ}
    {place : Nat}
    {task : τ}
    (found : configuration.task? place = some task)
    (turn : Turn σ τ)
    (other : Nat) :
    (configuration.update place turn).task? other =
      if other = place then
        turn.task
      else if other < configuration.tasks.length then
        configuration.task? other
      else
        turn.begun[other - configuration.tasks.length]? := by
  by_cases same : other = place
  · subst same
    rw [if_pos rfl, task?_update_self found]
  · let replaced : Configuration σ τ :=
      { configuration with tasks := configuration.tasks.set place turn.task }
    have appended :=
      task?_append replaced turn.begun configuration.now turn.shared other
    rw [if_neg same]
    simpa [replaced, task?, update, List.getElem?_set_ne (Ne.symm same)] using appended

/-- After a turn, a task is the one that the turn left, or was there before, or is new. -/
theorem task?_update_cases
    {configuration : Configuration σ τ}
    {place other : Nat}
    {task left : τ}
    (found : configuration.task? place = some task)
    {turn : Turn σ τ}
    (foundAfter : (configuration.update place turn).task? other = some left) :
    (other = place ∧ turn.task = some left) ∨
    (other ≠ place ∧ configuration.task? other = some left) ∨
    left ∈ turn.begun := by
  by_cases same : other = place
  · subst same
    exact .inl ⟨rfl, (task?_update_self found turn).symm.trans foundAfter⟩
  · rcases task?_append_cases foundAfter with old | new
    · refine .inr (.inl ⟨same, ?_⟩)
      rw [List.getElem?_set_ne (Ne.symm same)] at old
      exact Option.join_eq_some_iff.mpr old
    · exact .inr (.inr new)

/-- After a move, a task is what it was, or what its own turn has made of it. -/
theorem task?_after?_cases
    {system : System σ τ ε}
    {configuration next : Configuration σ τ}
    {move : Move ε}
    {place : Nat}
    {task : τ}
    (possible : configuration.after? system move = some next)
    (found : configuration.task? place = some task) :
    next.task? place = some task ∨
    ∃ turn,
      move = .turn place ∧
        system.behaviour.turn configuration.now configuration.shared task = some turn ∧
        next = configuration.update place turn := by
  cases move with
  | turn other =>
      obtain ⟨moving, turn, foundOther, taken, rfl⟩ := after?_turn_eq_some_iff.mp possible
      by_cases same : place = other
      · subst same
        obtain rfl := Option.some.inj (found.symm.trans foundOther)
        exact .inr ⟨turn, rfl, taken, rfl⟩
      · exact .inl (task?_update_other same found turn)
  | wait duration =>
      cases possible
      exact .inl found
  | intervene action =>
      cases possible
      exact .inl ((task?_append configuration _ _ _ place).trans
        ((if_pos (lt_length_of_task? found)).trans found))

/-! ## All tasks but one -/

/-- A configuration without the task at a place. -/
def without
    (configuration : Configuration σ τ)
    (place : Nat) :
    Configuration σ τ :=
  { configuration with tasks := configuration.tasks.set place none }

theorem task?_without
    {place other : Nat}
    (different : other ≠ place)
    (configuration : Configuration σ τ) :
    (configuration.without place).task? other = configuration.task? other := by
  simp [task?, without, List.getElem?_set_ne (Ne.symm different)]

/-- Another task takes the same turns. -/
theorem without_update
    {configuration : Configuration σ τ}
    {place mover : Nat}
    (different : mover ≠ place)
    (inside : place < configuration.tasks.length)
    (turn : Turn σ τ) :
    (configuration.update mover turn).without place =
      (configuration.without place).update mover turn := by
  simp [without, update, List.set_append_left, inside, List.set_comm _ _ different]

/-- New tasks are among all others. -/
theorem collect_without_append
    {configuration : Configuration σ τ}
    {place : Nat}
    (inside : place < configuration.tasks.length)
    (shared : σ)
    (begun : List τ)
    (select : τ → Option β) :
    collect select
        (without
          { configuration with shared, tasks := configuration.tasks ++ begun.map some } place) =
      (configuration.without place).collect select ++ begun.filterMap select := by
  simp only [collect, without, List.set_append_left _ _ inside, List.filterMap_append,
    filterMap_bind_map_some]

/-- The task at a place adds to all others only the tasks that it begins. -/
theorem collect_without_update
    {configuration : Configuration σ τ}
    {place : Nat}
    (inside : place < configuration.tasks.length)
    (turn : Turn σ τ)
    (select : τ → Option β) :
    ((configuration.update place turn).without place).collect select =
      (configuration.without place).collect select ++ turn.begun.filterMap select := by
  have stillInside : place < (configuration.tasks.set place turn.task).length := by
    rwa [List.length_set]
  simp only [collect, without, update, List.set_append_left _ _ stillInside, List.set_set,
    List.filterMap_append, filterMap_bind_map_some]

end Configuration

/-! ## Runs -/

/-- A move together with the configurations before and after it. -/
structure Transition (σ τ ε : Type) where
  before : Configuration σ τ
  move : Move ε
  after : Configuration σ τ

/-- Make some moves one after the other, if they are possible. -/
def Configuration.follow?
    (system : System σ τ ε)
    (configuration : Configuration σ τ) :
    List (Move ε) → Option (Configuration σ τ)
  | [] => some configuration
  | move :: moves => do
      let next ← configuration.after? system move
      next.follow? system moves

/-- A run from a start is a sequence of possible moves, of which the last leads to the end. -/
inductive Run
    (system : System σ τ ε)
    (start : Configuration σ τ) :
    List (Transition σ τ ε) → Configuration σ τ → Prop where
  | start :
      Run system start [] start
  | step
      {history : List (Transition σ τ ε)}
      {last next : Configuration σ τ}
      {move : Move ε} :
      Run system start history last →
      last.after? system move = some next →
      Run system start (history ++ [⟨last, move, next⟩]) next

/-- A run can be continued by a run from where it has led. -/
theorem Run.append
    {system : System σ τ ε}
    {start middle last : Configuration σ τ}
    {history more : List (Transition σ τ ε)}
    (run : Run system start history middle)
    (continuation : Run system middle more last) :
    Run system start (history ++ more) last := by
  induction continuation with
  | start =>
      simpa using run
  | step _ possible inductionHypothesis =>
      rw [← List.append_assoc]
      exact .step inductionHypothesis possible

/-- A single possible move is a run. -/
theorem Run.single
    {system : System σ τ ε}
    {start next : Configuration σ τ}
    {move : Move ε}
    (possible : start.after? system move = some next) :
    Run system start [⟨start, move, next⟩] next :=
  .step .start possible

/-- Moves that are made one after the other are a run. -/
theorem Run.of_follow?
    {system : System σ τ ε}
    {start last : Configuration σ τ}
    {moves : List (Move ε)}
    (followed : start.follow? system moves = some last) :
    ∃ history, Run system start history last := by
  induction moves generalizing start with
  | nil =>
      cases followed
      exact ⟨[], .start⟩
  | cons move moves inductionHypothesis =>
      obtain ⟨next, possible, later⟩ := Option.bind_eq_some_iff.mp followed
      obtain ⟨history, run⟩ := inductionHypothesis later
      exact ⟨_, (Run.single possible).append run⟩

/-- The transitions of some moves made one after the other, and where they lead. -/
def Configuration.trace?
    (system : System σ τ ε)
    (configuration : Configuration σ τ) :
    List (Move ε) → Option (List (Transition σ τ ε) × Configuration σ τ)
  | [] => some ([], configuration)
  | move :: moves => do
      let next ← configuration.after? system move
      let (history, last) ← next.trace? system moves
      return (⟨configuration, move, next⟩ :: history, last)

/-- The transitions of some moves begin with that of the first. -/
theorem Configuration.trace?_cons
    {system : System σ τ ε}
    {start last : Configuration σ τ}
    {move : Move ε}
    {moves : List (Move ε)}
    {history : List (Transition σ τ ε)}
    (traced : start.trace? system (move :: moves) = some (history, last)) :
    ∃ next later,
      history = ⟨start, move, next⟩ :: later ∧
        start.after? system move = some next ∧
        next.trace? system moves = some (later, last) := by
  obtain ⟨next, possible, continues⟩ := Option.bind_eq_some_iff.mp traced
  obtain ⟨⟨later, arrived⟩, traces, pair⟩ := Option.bind_eq_some_iff.mp continues
  cases pair
  exact ⟨next, later, rfl, possible, traces⟩

/-- The transitions of moves that are made one after the other are a run. -/
theorem Run.of_trace?
    {system : System σ τ ε}
    {start last : Configuration σ τ}
    {moves : List (Move ε)}
    {history : List (Transition σ τ ε)}
    (traced : start.trace? system moves = some (history, last)) :
    Run system start history last := by
  induction moves generalizing start history with
  | nil =>
      cases traced
      exact .start
  | cons move moves inductionHypothesis =>
      obtain ⟨next, later, rfl, possible, traces⟩ := Configuration.trace?_cons traced
      exact (Run.single possible).append (inductionHypothesis traces)

/-- The transitions of some moves are made by these moves. -/
theorem Configuration.moves_of_trace?
    {system : System σ τ ε}
    {start last : Configuration σ τ}
    {moves : List (Move ε)}
    {history : List (Transition σ τ ε)}
    (traced : start.trace? system moves = some (history, last)) :
    history.map (·.move) = moves := by
  induction moves generalizing start history with
  | nil =>
      cases traced
      rfl
  | cons move moves inductionHypothesis =>
      obtain ⟨next, later, rfl, -, traces⟩ := Configuration.trace?_cons traced
      rw [List.map_cons, inductionHypothesis traces]

/-- A run up to a transition leads to where the transition was made. -/
theorem Run.of_split
    {system : System σ τ ε}
    {start last : Configuration σ τ}
    {earlier later : List (Transition σ τ ε)}
    {transition : Transition σ τ ε}
    (run : Run system start (earlier ++ transition :: later) last) :
    Run system start earlier transition.before ∧
      transition.before.after? system transition.move = some transition.after := by
  generalize whole : earlier ++ transition :: later = history at run
  induction run generalizing later with
  | start =>
      simp at whole
  | step run possible inductionHypothesis =>
      rcases List.eq_nil_or_concat later with none | ⟨before, newest, shape⟩
      · rw [none] at whole
        obtain ⟨rfl, same⟩ := List.append_inj' whole rfl
        cases List.singleton_inj.mp same
        exact ⟨run, possible⟩
      · rw [shape, List.concat_eq_append, ← List.cons_append, ← List.append_assoc] at whole
        exact inductionHypothesis (List.append_inj' whole rfl).1

/-- What follows a transition of a run is a run from where the transition led. -/
theorem Run.of_split_later
    {system : System σ τ ε}
    {start last : Configuration σ τ}
    {earlier later : List (Transition σ τ ε)}
    {transition : Transition σ τ ε}
    (run : Run system start (earlier ++ transition :: later) last) :
    Run system transition.after later last := by
  generalize whole : earlier ++ transition :: later = history at run
  induction run generalizing later with
  | start =>
      simp at whole
  | step run possible inductionHypothesis =>
      rcases List.eq_nil_or_concat later with none | ⟨before, newest, shape⟩
      · rw [none] at whole ⊢
        cases List.singleton_inj.mp (List.append_inj' whole rfl).2
        exact .start
      · rw [shape, List.concat_eq_append, ← List.cons_append, ← List.append_assoc] at whole
        obtain ⟨same, newestSame⟩ := List.append_inj' whole rfl
        cases List.singleton_inj.mp newestSame
        rw [shape, List.concat_eq_append]
        exact .step (inductionHypothesis same) possible

/-- A transition of a run, and what follows it, are a run from where the transition was made. -/
theorem Run.of_split_from
    {system : System σ τ ε}
    {start last : Configuration σ τ}
    {earlier later : List (Transition σ τ ε)}
    {transition : Transition σ τ ε}
    (run : Run system start (earlier ++ transition :: later) last) :
    Run system transition.before (transition :: later) last :=
  (Run.single run.of_split.2).append run.of_split_later

/-- Every transition of a run is possible where a part of the run has led. -/
theorem Run.of_mem
    {system : System σ τ ε}
    {start last : Configuration σ τ}
    {history : List (Transition σ τ ε)}
    (run : Run system start history last)
    {transition : Transition σ τ ε}
    (member : transition ∈ history) :
    ∃ earlier,
      Run system start earlier transition.before ∧
        transition.before.after? system transition.move = some transition.after := by
  induction run with
  | start =>
      exact nomatch member
  | step run possible inductionHypothesis =>
      rcases List.mem_append.mp member with earlier | newest
      · exact inductionHypothesis earlier
      · cases List.mem_singleton.mp newest
        exact ⟨_, run, possible⟩

/-- Whatever holds where a run has led but not at its start has come about in a transition. -/
theorem Run.exists_change
    {system : System σ τ ε}
    {start last : Configuration σ τ}
    {history : List (Transition σ τ ε)}
    (run : Run system start history last)
    (property : Configuration σ τ → Prop)
    (before : ¬ property start)
    (after : property last) :
    ∃ earlier transition later,
      history = earlier ++ transition :: later ∧
        ¬ property transition.before ∧
        property transition.after := by
  induction run with
  | start =>
      exact absurd after before
  | @step history last next move run possible inductionHypothesis =>
      by_cases already : property last
      · obtain ⟨earlier, transition, later, rfl, changes⟩ := inductionHypothesis already
        exact
          ⟨earlier, transition, later ++ [⟨last, move, next⟩], by simp, changes⟩
      · exact ⟨history, ⟨last, move, next⟩, [], rfl, already, after⟩

/-! ## Continuations -/

/-- Where turns and waiting lead from a configuration, with nothing done from outside. -/
def Configuration.LeadsTo
    (system : System σ τ ε)
    (configuration later : Configuration σ τ) :
    Prop :=
  ∃ more,
    Run system configuration more later ∧
      ∀ transition ∈ more, ∀ action, transition.move ≠ .intervene action

namespace Configuration.LeadsTo

variable
  {system : System σ τ ε}
  {start configuration middle later : Configuration σ τ}
  {history : List (Transition σ τ ε)}

theorem refl
    (system : System σ τ ε)
    (configuration : Configuration σ τ) :
    configuration.LeadsTo system configuration :=
  ⟨[], .start, nofun⟩

theorem trans
    (first : configuration.LeadsTo system middle)
    (second : middle.LeadsTo system later) :
    configuration.LeadsTo system later := by
  obtain ⟨more, run, unaided⟩ := first
  obtain ⟨evenMore, continuation, unaidedLater⟩ := second
  refine ⟨more ++ evenMore, run.append continuation, ?_⟩
  intro transition member
  rcases List.mem_append.mp member with earlier | rest
  · exact unaided transition earlier
  · exact unaidedLater transition rest

/-- Time may pass. -/
theorem wait
    (system : System σ τ ε)
    (configuration : Configuration σ τ)
    (duration : Nat) :
    configuration.LeadsTo system { configuration with now := configuration.now + duration } := by
  have possible :
      configuration.after? system (.wait duration) =
        some { configuration with now := configuration.now + duration } := rfl
  refine ⟨_, .single possible, ?_⟩
  intro transition member
  cases List.mem_singleton.mp member
  exact fun _ => nofun

/-- A task that can move may take its turn. -/
theorem turn
    {place : Nat}
    {task : τ}
    {turn : Turn σ τ}
    (found : configuration.task? place = some task)
    (taken : system.behaviour.turn configuration.now configuration.shared task = some turn) :
    configuration.LeadsTo system (configuration.update place turn) := by
  refine ⟨_, .single (after?_turn_eq_some_iff.mpr ⟨task, turn, found, taken, rfl⟩), ?_⟩
  intro transition member
  cases List.mem_singleton.mp member
  exact fun _ => nofun

/-- Where a run leads on is where a run leads. -/
theorem exists_run
    (leads : configuration.LeadsTo system later)
    (run : Run system start history configuration) :
    ∃ whole, Run system start whole later := by
  obtain ⟨more, continuation, -⟩ := leads
  exact ⟨history ++ more, run.append continuation⟩

end Configuration.LeadsTo

end FeatureFlags
