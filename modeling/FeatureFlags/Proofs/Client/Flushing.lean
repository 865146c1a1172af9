import FeatureFlags.Proofs.Client.Delivery

namespace FeatureFlags

/-!
# Flushing

A call that flushes waits for what it takes from the queue itself. What others took from
the queue before may still be on its way when the call returns.
-/

open FeatureFlags.Transport (Sent)
open Client (accepted carriers dispatching? posts)

/-- A call that flushes is let in, or refused. -/
structure ClientTransition.BeginsFlush
    (transition : ClientTransition)
    (place : Nat) :
    Prop where
  move : transition.move = .turn place
  task : transition.before.task? place = some (.caller (.begun .flush))

namespace Client

/-- The carrier at a place has sent a post, and nothing is awaited for it any more. -/
structure HasCompleted
    (history : List ClientTransition)
    (last : Configuration Client ClientTask)
    (place : Nat)
    (sent : Sent) :
    Prop where
  posted : (place, sent) ∈ posts history
  ended : dispatching? last place = none

/-- Whenever a flush has returned, all that was accepted before it began has been delivered. -/
def FlushIsBarrier
    (history : List ClientTransition)
    (last : Configuration Client ClientTask) :
    Prop :=
  last.shared.disposed = false →
  ∀ {earlier later begins place},
    history = earlier ++ begins :: later →
    ClientTransition.BeginsFlush begins place →
    last.task? place = some (.caller (.answered (.ok .flushed))) →
    ∀ message ∈ accepted earlier,
      ∃ carrier batch sent,
        (carrier, batch) ∈ carriers history ∧
          message ∈ batch ∧
          HasCompleted history last carrier sent

/-- What a flush that has returned did with what was accepted before it began. -/
structure SettlesQueue
    (transport : Transport)
    (earlier history : List ClientTransition)
    (last : Configuration Client ClientTask)
    (place : Nat)
    (others : List (Nat × Batch))
    (batch : Batch) :
    Prop where
  /-- It took a batch after others had been taken. -/
  took : others ++ [(place, batch)] <+: carriers history
  takenByOthers : ∀ other ∈ others, other.1 ≠ place
  /-- What was accepted before is in the batches of the others or in its own. -/
  emptied : accepted earlier <+: (others.map (·.2)).flatten ++ batch
  /-- Its own batch has been delivered, if there was anything to deliver and where to. -/
  delivered :
    batch ≠ [] →
    (∃ sent, HasCompleted history last place sent ∧ sent.Carries transport batch) ∨
    ∃ request fault,
      transport.deliveryRequest? batch = some request ∧ request.address = .error fault

variable
  {settings : Settings}
  {surroundings : Surroundings}
  {client : Client}
  {transport : Transport}
  {history earlier later : List ClientTransition}
  {begins : ClientTransition}
  {last : Configuration Client ClientTask}
  {place : Nat}

/-- Whoever has returned from a flush has taken the queue after it began. -/
private theorem exists_taking
    (created : create settings surroundings = .ok client)
    (online : settings.mode ≠ .offline)
    (found : client.transport = some transport)
    (run : Run system client.fresh (earlier ++ begins :: later) last)
    (beginsFlush : begins.BeginsFlush place)
    (returned : last.task? place = some (.caller (.answered (.ok .flushed)))) :
    ∃ between after taking batch,
      begins :: later = between ++ taking :: after ∧
        ClientTransition.carrier? taking = some (place, batch) := by
  have trades : Trades transport settings (earlier ++ begins :: later) last :=
    .of_run created online found run
  have before : Trades transport settings earlier begins.before :=
    .of_run created online found run.of_split.1
  obtain ⟨batch, carried⟩ := trades.flushed returned rfl
  have untaken : (place, batch) ∉ carriers earlier :=
    before.delivering.untaken ⟨_, beginsFlush.task, rfl⟩ batch
  have member : (place, batch) ∈ carriers (begins :: later) := by
    rw [carriers, List.filterMap_append] at carried
    exact (List.mem_append.mp carried).resolve_left untaken
  obtain ⟨taking, inside, takes⟩ := List.mem_filterMap.mp member
  obtain ⟨between, after, shape⟩ := List.append_of_mem inside
  exact ⟨between, after, taking, batch, shape, takes⟩

/-- Whoever takes the queue, or fills it, leaves it empty. -/
private theorem queue_of_carrier?
    {first : Transport}
    {transition : ClientTransition}
    (does : transition.Does first)
    {batch : Batch}
    (takes : transition.carrier? = some (place, batch)) :
    transition.after.shared.outbox.queue = [] := by
  cases does with
  | rests noStep | dispatches noStep =>
      rw [ClientTransition.carrier?_of_rest noStep] at takes
      cases takes
  | calls performed stepped _ after carried =>
      subst performed
      rw [carried] at takes
      obtain ⟨_, drained, -⟩ := Option.map_eq_some_iff.mp takes
      rw [after]
      exact Telemetry.Outbox.queue_of_batch drained

/-- What has been accepted stays accepted. -/
private theorem accepted_grows (history more : List ClientTransition) :
    accepted history <+: accepted (history ++ more) := by
  simp [accepted, outboxSteps, Telemetry.OutboxStep.acceptances]

/-- Nothing is awaited for a batch any more once it has been delivered. -/
private theorem exists_completed
    (trades : Trades transport settings history last)
    (notDisposed : last.shared.disposed = false)
    {batch : Batch}
    (carried : (place, batch) ∈ carriers history)
    (filled : batch ≠ [])
    (idle : dispatching? last place = none) :
    (∃ sent, HasCompleted history last place sent ∧ sent.Carries transport batch) ∨
    ∃ request fault,
      transport.deliveryRequest? batch = some request ∧ request.address = .error fault := by
  rcases trades.delivering.notLost carried filled with
    ⟨sent, posted⟩ | ⟨exchange, drives, -⟩ | disposed | unaddressed
  · obtain ⟨other, alsoCarried, carries⟩ := trades.delivering.posted posted
    obtain rfl := trades.delivering.batch_eq alsoCarried carried
    exact .inl ⟨sent, ⟨posted, idle⟩, carries⟩
  · rw [idle] at drives
    cases drives
  · rw [notDisposed] at disposed
    cases disposed
  · exact .inr unaddressed

end Client

/-! ## Flushing while a full batch is on its way -/

/-- A caller that has not been let in yet to flush. -/
def ClientTask.isFlushCall : ClientTask → Bool
  | .caller (.begun .flush) => true
  | _ => false

/-- A backend that takes its time. -/
def Surroundings.slow : Surroundings where
  backend _ _ := { delay := 5000, arrival := .answered 200 (.ok "") }
  wallClock _ := ⟨0, 0⟩

/-- Two clicks fill the queue, and the task that sends them has sent them. -/
def ClientAction.filled : List (Move ClientAction) :=
  [.intervene (.track (.click "a")), .intervene (.track (.click "b")), .turn 1]

namespace Client

/-- A call that flushes goes on with its first turn. -/
private theorem exists_run_of_traces
    {settings : Settings}
    {surroundings : Surroundings}
    {moves more : List (Move ClientAction)}
    {client : Client}
    {earlier history : List ClientTransition}
    {middle last : Configuration Client ClientTask}
    {place : Nat}
    (traced : trace? settings surroundings moves = some (client, earlier, middle))
    (continues : middle.trace? system (.turn place :: more) = some (history, last))
    (flushCall : (middle.task? place).any ClientTask.isFlushCall = true) :
    ∃ begins later,
      history = begins :: later ∧
        begins.BeginsFlush place ∧
        create settings surroundings = .ok client ∧
        Run system client.fresh (earlier ++ begins :: later) last := by
  obtain ⟨created, run⟩ := run_of_trace? traced
  obtain ⟨next, later, rfl, -, -⟩ := Configuration.trace?_cons continues
  have begun : middle.task? place = some (.caller (.begun .flush)) := by
    cases found : middle.task? place with
    | none =>
        simp [found] at flushCall
    | some task =>
        rw [found, Option.any_some] at flushCall
        unfold ClientTask.isFlushCall at flushCall
        split at flushCall <;> trivial
  exact ⟨_, later, rfl, ⟨rfl, begun⟩, created, run.append (.of_trace? continues)⟩

/-- A caller that has been told that what was queued has been sent is known by that. -/
private theorem returned_of_isFlushed
    {last : Configuration Client ClientTask}
    {place : Nat}
    (flushed : (last.task? place).any ClientTask.isFlushed = true) :
    last.task? place = some (.caller (.answered (.ok .flushed))) := by
  cases found : last.task? place with
  | none =>
      simp [found] at flushed
  | some task =>
      rw [found, Option.any_some] at flushed
      unfold ClientTask.isFlushed at flushed
      split at flushed <;> trivial

end Client

end FeatureFlags
