import FeatureFlags.Proofs.Telemetry.Outbox

namespace FeatureFlags.Telemetry

/-!
# Runs of an outbox

An outbox is offered messages and has its queue taken, at moments that do not
decrease. Every call of such a run is answered as by a limiter that forgets
nothing, and every accepted message is handed out once and in order.
-/

/-- A call on an outbox. -/
inductive OutboxCall where
  | offer (message : Message)
  /-- The queue is taken. -/
  | take

/-- What a call on an outbox did. -/
inductive OutboxEvent where
  | offered (message : Message) (result : Enqueued)
  | taken (batch : List Message)

/-- An answered call, and the outbox after it. -/
structure OutboxStep where
  now : Moment
  event : OutboxEvent
  after : Outbox

namespace OutboxEvent

/-- The message that was accepted, if one was. -/
def accepted? : OutboxEvent → Option Message
  | .offered _ .discarded => none
  | .offered message _ => some message
  | .taken _ => none

/-- The batch that was handed out, if the queue was drained. -/
def batch? : OutboxEvent → Option (List Message)
  | .offered _ (.full batch) => some batch
  | .offered _ _ => none
  | .taken batch => some batch

end OutboxEvent

namespace OutboxStep

/-- All acceptances of some steps. -/
def acceptances (steps : List OutboxStep) : AcceptanceLog :=
  steps.filterMap fun step => step.event.accepted?.map fun message => (step.now, message)

/-- All messages that some steps handed out, batch after batch. -/
def handedOut (steps : List OutboxStep) : List Message :=
  (steps.filterMap fun step => step.event.batch?).flatten

theorem acceptances_snoc
    (steps : List OutboxStep)
    (step : OutboxStep) :
    acceptances (steps ++ [step]) =
      acceptances steps ++
        (step.event.accepted?.map fun message => (step.now, message)).toList := by
  cases accepted : step.event.accepted? <;>
    simp [acceptances, accepted]

theorem handedOut_snoc
    (steps : List OutboxStep)
    (step : OutboxStep) :
    handedOut (steps ++ [step]) = handedOut steps ++ step.event.batch?.getD [] := by
  cases drained : step.event.batch? <;>
    simp [handedOut, drained]

end OutboxStep

open OutboxStep (acceptances acceptances_snoc handedOut handedOut_snoc)

namespace Outbox

/-- Answer a call. -/
def perform
    (outbox : Outbox)
    (now : Moment) :
    OutboxCall → OutboxStep
  | .offer message =>
      let (after, result) := outbox.enqueue now message
      ⟨now, .offered message result, after⟩
  | .take =>
      let (after, batch) := outbox.drain now
      ⟨now, .taken batch, after⟩

/-- Answer calls one after the other. -/
def run (outbox : Outbox) : List (Moment × OutboxCall) → List OutboxStep
  | [] => []
  | (now, call) :: rest =>
      let step := outbox.perform now call
      step :: step.after.run rest

/-- What holds of a step of a run after the steps before it. -/
structure LawfulStep
    (capacity window : Nat)
    (earlier : List OutboxStep)
    (step : OutboxStep) : Prop where
  /-- A message is discarded exactly if an equal one was ever accepted within the window. -/
  discarded_iff :
    ∀ {message result},
      step.event = .offered message result →
      (result = .discarded ↔
        (acceptances earlier).IsRecent window step.now message.identity)
  /-- What was handed out and what waits are the accepted messages, once and in order. -/
  conserved :
    handedOut (earlier ++ [step]) ++ step.after.queue =
      (acceptances (earlier ++ [step])).map (·.2)
  queue_short :
    step.after.queue.length < capacity
  full_length :
    ∀ {message batch},
      step.event = .offered message (.full batch) →
      batch.length = capacity
  /-- After the queue was drained, only acceptances within the window are remembered. -/
  remembered_recent :
    ∀ {batch},
      step.event.batch? = some batch →
      ∀ {identity moment},
        step.after.accepted.get? identity = some moment →
        step.now - moment < window ∧
          ∃ message,
            (moment, message) ∈ acceptances (earlier ++ [step]) ∧
              message.identity = identity

/-- An outbox with its bounds that agrees with the steps so far. -/
structure Follows
    (capacity window : Nat)
    (outbox : Outbox)
    (steps : List OutboxStep)
    (now : Moment) : Prop where
  capacity_eq : outbox.capacity = capacity
  window_eq : outbox.window = window
  queue_short : outbox.queue.length < capacity
  records : outbox.Records (acceptances steps) (handedOut steps) now

namespace Follows

variable {capacity window : Nat} {outbox : Outbox} {steps : List OutboxStep} {now : Moment}

/-- A new outbox agrees with no steps. -/
theorem initial
    {capacity : Nat}
    (positive : 0 < capacity)
    (window : Nat) :
    Follows capacity window { capacity, window } [] 0 :=
  ⟨rfl, rfl, positive, .initial capacity window⟩

/-- The agreement lasts while time passes. -/
theorem later
    (follows : outbox.Follows capacity window steps now)
    {moment : Moment}
    (passed : now ≤ moment) :
    outbox.Follows capacity window steps moment :=
  ⟨follows.capacity_eq, follows.window_eq, follows.queue_short, follows.records.later passed⟩

/-- A drained outbox holds fewer messages than it may. -/
private theorem capacity_pos
    (follows : outbox.Follows capacity window steps now) :
    0 < capacity :=
  Nat.lt_of_le_of_lt (Nat.zero_le _) follows.queue_short

/-- The agreement lasts over an offer. -/
theorem perform_offer
    (follows : outbox.Follows capacity window steps now)
    (message : Message) :
    (outbox.perform now (.offer message)).after.Follows capacity window
      (steps ++ [outbox.perform now (.offer message)]) now := by
  rcases outbox.enqueue_cases now message with
    ⟨limited, shape⟩ | ⟨unlimited, short, shape⟩ | ⟨unlimited, filled, shape⟩
  · simp only [perform, shape]
    refine ⟨follows.capacity_eq, follows.window_eq, follows.queue_short, ?_⟩
    simpa [acceptances_snoc, handedOut_snoc, OutboxEvent.accepted?, OutboxEvent.batch?]
      using follows.records
  · simp only [perform, shape]
    refine ⟨follows.capacity_eq, follows.window_eq, ?_, ?_⟩
    · rw [← follows.capacity_eq]
      simpa using short
    · simpa [acceptances_snoc, handedOut_snoc, OutboxEvent.accepted?, OutboxEvent.batch?]
        using follows.records.accept message
  · simp only [perform, shape]
    refine ⟨follows.capacity_eq, follows.window_eq, follows.capacity_pos, ?_⟩
    simpa [acceptances_snoc, handedOut_snoc, OutboxEvent.accepted?, OutboxEvent.batch?]
      using (follows.records.accept message).drain

/-- The agreement lasts when the queue is taken. -/
theorem perform_take
    (follows : outbox.Follows capacity window steps now) :
    (outbox.perform now .take).after.Follows capacity window
      (steps ++ [outbox.perform now .take]) now := by
  refine ⟨follows.capacity_eq, follows.window_eq, follows.capacity_pos, ?_⟩
  simpa [perform, acceptances_snoc, handedOut_snoc, OutboxEvent.accepted?,
    OutboxEvent.batch?] using follows.records.drain

/-- The agreement lasts over every call. -/
theorem perform
    (follows : outbox.Follows capacity window steps now)
    (call : OutboxCall) :
    (outbox.perform now call).after.Follows capacity window
      (steps ++ [outbox.perform now call]) now := by
  cases call with
  | offer message =>
      exact follows.perform_offer message
  | take =>
      exact follows.perform_take

/-- The log decides which offers are discarded. -/
private theorem discarded_iff
    (follows : outbox.Follows capacity window steps now)
    {message : Message}
    {result : Enqueued}
    (answered : (outbox.enqueue now message).2 = result) :
    result = .discarded ↔ (acceptances steps).IsRecent window now message.identity := by
  rw [← follows.window_eq, ← follows.records.isLimited_iff, ← answered]
  rcases outbox.enqueue_cases now message with
    ⟨limited, shape⟩ | ⟨unlimited, _, shape⟩ | ⟨unlimited, _, shape⟩
  · simp [shape, limited]
  · simp [shape, unlimited]
  · simp [shape, unlimited]

/-- An offer fills the queue with exactly as many messages as it may hold. -/
private theorem full_length
    (follows : outbox.Follows capacity window steps now)
    {message : Message}
    {batch : List Message}
    (answered : (outbox.enqueue now message).2 = .full batch) :
    batch.length = capacity := by
  have queueShort := follows.queue_short
  have capacityIs := follows.capacity_eq
  rcases outbox.enqueue_cases now message with
    ⟨_, shape⟩ | ⟨_, _, shape⟩ | ⟨_, filled, shape⟩
  · simp [shape] at answered
  · simp [shape] at answered
  · simp only [shape, Enqueued.full.injEq] at answered
    subst answered
    simp only [List.length_append, List.length_singleton]
    omega

/-- A call that hands a batch out leaves only acceptances within the window. -/
private theorem recent_of_batch
    (follows : outbox.Follows capacity window steps now)
    {call : OutboxCall}
    {batch : List Message}
    (drained : (outbox.perform now call).event.batch? = some batch)
    {identity : String}
    {moment : Moment}
    (held : (outbox.perform now call).after.accepted.get? identity = some moment) :
    now - moment < window := by
  rw [← follows.window_eq]
  cases call with
  | offer message =>
      rcases outbox.enqueue_cases now message with
        ⟨_, shape⟩ | ⟨_, _, shape⟩ | ⟨_, _, shape⟩
      · simp [Outbox.perform, shape, OutboxEvent.batch?] at drained
      · simp [Outbox.perform, shape, OutboxEvent.batch?] at drained
      · simp only [Outbox.perform, shape] at held
        have recent := recent_of_get?_drain held
        exact recent
  | take =>
      exact recent_of_get?_drain held

/-- Every call of an outbox that agrees with the steps so far is a lawful step. -/
theorem lawful
    (follows : outbox.Follows capacity window steps now)
    (call : OutboxCall) :
    LawfulStep capacity window steps (outbox.perform now call) where
  discarded_iff := by
    intro message result shape
    cases call with
    | offer offered =>
        simp only [Outbox.perform, OutboxEvent.offered.injEq] at shape
        obtain ⟨rfl, answered⟩ := shape
        exact follows.discarded_iff answered
    | take =>
        cases shape
  conserved := (follows.perform call).records.conserved
  queue_short := (follows.perform call).queue_short
  full_length := by
    intro message batch shape
    cases call with
    | offer offered =>
        simp only [Outbox.perform, OutboxEvent.offered.injEq] at shape
        exact follows.full_length shape.2
    | take =>
        cases shape
  remembered_recent := by
    intro batch drained identity moment held
    refine ⟨?_, (follows.perform call).records.grounded held⟩
    cases call <;> exact follows.recent_of_batch drained held

end Follows

/-- A run from an outbox that agrees with earlier steps continues them lawfully. -/
private theorem Follows.lawful_of_run
    {capacity window : Nat}
    {outbox : Outbox}
    {before : List OutboxStep}
    {now : Moment}
    (follows : outbox.Follows capacity window before now)
    {calls : List (Moment × OutboxCall)}
    (notBefore : ∀ call ∈ calls, now ≤ call.1)
    (ordered : calls.Pairwise fun earlier later => earlier.1 ≤ later.1)
    {earlier later : List OutboxStep}
    {step : OutboxStep}
    (split : outbox.run calls = earlier ++ step :: later) :
    LawfulStep capacity window (before ++ earlier) step := by
  -- The steps of the calls that are done move from the front of the run to `before`.
  induction calls generalizing outbox before now earlier with
  | nil =>
      simp [run] at split
  | cons call rest inductionHypothesis =>
      obtain ⟨moment, call⟩ := call
      obtain ⟨firstBefore, restOrdered⟩ := List.pairwise_cons.mp ordered
      have arrived := follows.later (notBefore _ List.mem_cons_self)
      cases earlier with
      | nil =>
          simp only [run, List.nil_append, List.cons.injEq] at split
          rw [List.append_nil, ← split.1]
          exact arrived.lawful call
      | cons first others =>
          simp only [run, List.cons_append, List.cons.injEq] at split
          have continued :=
            inductionHypothesis (arrived.perform call) firstBefore restOrdered split.2
          rw [split.1] at continued
          simpa using continued

/--
Every step of every run of an outbox with room for a message is lawful: the rate
limit never forgets what it would need, and no message is lost, doubled or
overtaken on its way through the queue.
-/
theorem run_lawful
    {capacity window : Nat}
    (positive : 0 < capacity)
    {calls : List (Moment × OutboxCall)}
    (ordered : calls.Pairwise fun earlier later => earlier.1 ≤ later.1)
    {earlier later : List OutboxStep}
    {step : OutboxStep}
    (split : run { capacity, window } calls = earlier ++ step :: later) :
    LawfulStep capacity window earlier step :=
  (Follows.initial positive window).lawful_of_run
    (fun _ _ => Nat.zero_le _) ordered split

/-- An event offered three times, the last time when the window of the first is just over. -/
def repeatedOffers : List (Moment × OutboxCall) :=
  let event : Message := .event ⟨"opened", "u1", none, .empty⟩
  [(0, .offer event), (4, .offer event), (5, .offer event)]

theorem run_repeatedOffers_lawful :
    0 < 2 ∧
      repeatedOffers.Pairwise (fun earlier later => earlier.1 ≤ later.1) ∧
      ∃ first second third : OutboxStep,
        run { capacity := 2, window := 5 } repeatedOffers = [first, second] ++ third :: [] ∧
          second.event.accepted?.isSome = false ∧
          third.event.batch?.map List.length = some 2 ∧
          LawfulStep 2 5 [first, second] third := by
  have ordered : repeatedOffers.Pairwise fun earlier later => earlier.1 ≤ later.1 := by
    simp [repeatedOffers]
  exact ⟨by decide, ordered, _, _, _, rfl, rfl, rfl, run_lawful (by decide) ordered rfl⟩

end Outbox

end FeatureFlags.Telemetry
