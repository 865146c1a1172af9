import FeatureFlags.Time.Moment

namespace FeatureFlags

/-!
# Schedules

Tasks share a state and take turns on it. A turn is one indivisible move; a task
whose next move is not possible yet waits. A behaviour says what the moves are,
and nothing about their order.

A world also fixes an order. Tasks that can move queue up: new ones at the end of
the queue, and those released by the same poll or by the same moment in the order
in which they began to wait. The task that a caller waits for is served when the
queue is empty, and before the queue when time has passed. Time passes only when
no task can move, and then up to the next moment that some task waits for.
-/

/-- What a task does in a turn: the shared state, the task unless it has ended, and new tasks. -/
structure Turn (σ τ : Type) where
  shared : σ
  task : Option τ
  begun : List τ := []

/-- What the tasks of a kind do. -/
structure Behaviour (σ τ : Type) where
  /-- The next move of a task, if it is possible at the moment. -/
  turn : Moment → σ → τ → Option (Turn σ τ)
  /-- The moment that a task waits for, if it waits for one. -/
  deadline? : τ → Option Moment

/-- A shared state and its tasks at a moment. -/
structure World (σ τ : Type) where
  now : Moment := 0
  shared : σ
  /-- The tasks that may move, in the order of the queue. -/
  ready : List (Nat × τ) := []
  /-- The tasks that wait, in the order in which they began to. -/
  waiting : List (Nat × τ) := []
  /-- The task that a caller waits for. -/
  foreground : Option τ := none
  /-- The number of tasks begun so far, by which they are told apart. -/
  begun : Nat := 0

namespace World

variable {σ τ : Type}

/-- Queue new tasks. -/
def begin
    (world : World σ τ)
    (tasks : List τ) :
    World σ τ :=
  { world with
    ready := world.ready ++ tasks.mapIdx fun index task => (world.begun + index, task)
    begun := world.begun + tasks.length }

/-- Whether a task can move. -/
def canMove
    (behaviour : Behaviour σ τ)
    (world : World σ τ)
    (task : τ) :
    Bool :=
  (behaviour.turn world.now world.shared task).isSome

/-- Queue the waiting tasks that can move. -/
def release
    (behaviour : Behaviour σ τ)
    (world : World σ τ) :
    World σ τ :=
  let (released, waiting) := world.waiting.partition fun entry => world.canMove behaviour entry.2
  { world with
    ready := world.ready ++ released
    waiting }

/-- The most moves that a task makes before the next one is served. -/
def movesPerPoll : Nat := 1000000

/-- Let a task move as often as it can: the shared state, the task, and the tasks it began. -/
def moveOn
    (behaviour : Behaviour σ τ)
    (now : Moment) :
    Nat → σ → τ → List τ → Turn σ τ
  | 0, shared, task, begun => ⟨shared, some task, begun⟩
  | moves + 1, shared, task, begun =>
      match behaviour.turn now shared task with
      | none => ⟨shared, some task, begun⟩
      | some turn =>
          match turn.task with
          | none => ⟨turn.shared, none, begun ++ turn.begun⟩
          | some next => moveOn behaviour now moves turn.shared next (begun ++ turn.begun)

/-- Serve a task that has been taken from the queue. -/
def poll
    (behaviour : Behaviour σ τ)
    (world : World σ τ)
    (entry : Nat × τ) :
    World σ τ :=
  let turn := moveOn behaviour world.now movesPerPoll world.shared entry.2 []
  let served := { world with shared := turn.shared }.begin turn.begun
  let parked :=
    match turn.task with
    | none => served
    | some task => { served with waiting := served.waiting ++ [(entry.1, task)] }
  parked.release behaviour

/-- Serve the task in the foreground. -/
def pollForeground
    (behaviour : Behaviour σ τ)
    (world : World σ τ) :
    World σ τ :=
  match world.foreground with
  | none => world
  | some task =>
      let turn := moveOn behaviour world.now movesPerPoll world.shared task []
      let served := { world with shared := turn.shared, foreground := turn.task }
      (served.begin turn.begun).release behaviour

/-- The most polls before the world is left as it is. -/
def pollLimit : Nat := 1000000000000

/-- Let tasks move until none can, within a number of polls. -/
def settleWithin (behaviour : Behaviour σ τ) : Nat → World σ τ → World σ τ
  | 0, world => world
  | polls + 1, world =>
      match world.ready with
      | entry :: rest =>
          settleWithin behaviour polls ({ world with ready := rest }.poll behaviour entry)
      | [] =>
          if world.foreground.any (world.canMove behaviour) then
            settleWithin behaviour polls (world.pollForeground behaviour)
          else
            world

/-- Let tasks move until none can. -/
def settle
    (behaviour : Behaviour σ τ)
    (world : World σ τ) :
    World σ τ :=
  world.settleWithin behaviour pollLimit

/-- The next moment that a task waits for. -/
def nextMoment?
    (behaviour : Behaviour σ τ)
    (world : World σ τ) :
    Option Moment :=
  let tasks := world.foreground.toList ++ world.waiting.map (·.2)
  ((tasks.filterMap behaviour.deadline?).filter (world.now < ·)).min?

/-- Let time pass up to a moment that some task waits for, and let the tasks move. -/
def jump
    (behaviour : Behaviour σ τ)
    (world : World σ τ)
    (moment : Moment) :
    World σ τ :=
  let later := { world with now := moment }.release behaviour
  (later.pollForeground behaviour).settle behaviour

/-- Let time pass up to a moment. -/
def waitWithin
    (behaviour : Behaviour σ τ)
    (moment : Moment) :
    Nat → World σ τ → World σ τ
  | 0, world => world
  | jumps + 1, world =>
      match world.nextMoment? behaviour with
      | none => { world with now := moment }
      | some next =>
          if next ≤ moment then
            waitWithin behaviour moment jumps (world.jump behaviour next)
          else
            { world with now := moment }

/-- Let a duration pass. -/
def wait
    (behaviour : Behaviour σ τ)
    (duration : Nat)
    (world : World σ τ) :
    World σ τ :=
  world.waitWithin behaviour (world.now + duration) (duration + 1)

/-- Let time pass until a condition holds or no task waits for a moment. -/
def awaitWithin
    (behaviour : Behaviour σ τ)
    (isDone : World σ τ → Bool) :
    Nat → World σ τ → World σ τ
  | 0, world => world
  | jumps + 1, world =>
      if isDone world then
        world
      else
        match world.nextMoment? behaviour with
        | none => world
        | some next => awaitWithin behaviour isDone jumps (world.jump behaviour next)

/-- A task by its number. -/
def find?
    (world : World σ τ)
    (id : Nat) :
    Option τ :=
  (world.ready ++ world.waiting).lookup id

/-- Change the shared state at once, begin tasks, and let all tasks move. -/
def act
    (behaviour : Behaviour σ τ)
    (change : σ → σ × List τ × ρ)
    (world : World σ τ) :
    World σ τ × ρ :=
  let (shared, begun, result) := change world.shared
  let changed := ({ world with shared }.begin begun).release behaviour
  (changed.settle behaviour, result)

/-- Begin a task in the background; its number is returned. -/
def start
    (behaviour : Behaviour σ τ)
    (task : τ)
    (world : World σ τ) :
    World σ τ × Nat :=
  ((world.begin [task]).settle behaviour, world.begun)

/-- Wait for a task in the background to give its result, if there is such a task. -/
def join
    (behaviour : Behaviour σ τ)
    (result? : τ → Option ρ)
    (id : Nat)
    (world : World σ τ) :
    World σ τ × Option ρ :=
  let found (world : World σ τ) : Option ρ := world.find? id >>= result?
  let isDone (world : World σ τ) : Bool := (world.find? id).isNone || (found world).isSome
  let ended := world.awaitWithin behaviour isDone pollLimit
  (ended, found ended)

/-- Wait for a task in the foreground to give its result. -/
def call
    (behaviour : Behaviour σ τ)
    (result? : τ → Option ρ)
    (task : τ)
    (world : World σ τ) :
    World σ τ × Option ρ :=
  let found (world : World σ τ) : Option ρ := world.foreground >>= result?
  let called := { world with foreground := some task }.pollForeground behaviour
  let started := called.settle behaviour
  let ended := started.awaitWithin behaviour (fun world => (found world).isSome) pollLimit
  ({ ended with foreground := none }, found ended)

end World

end FeatureFlags
