import FeatureFlags.Proofs.Client.Traffic

namespace FeatureFlags

/-!
# Carriers of batches

A batch that leaves the queue is carried by one task, either by whoever took it or, if it
had filled the queue, by a task that begins. A move of a client calls on the queue, or
moves the exchange of one carrier, or leaves both alone.
-/

open FeatureFlags.Telemetry (Message OutboxCall OutboxStep)
open FeatureFlags.Transport (Exchange Progress Request Sent)

/-! ## What a move did -/

namespace ClientTransition

/-- What was done with the queue, if anything. -/
def outboxStep? (transition : ClientTransition) : Option OutboxStep :=
  let before := transition.before
  let called : Option OutboxCall :=
    match transition.move with
    | .turn place => (before.task? place).bind ClientTask.outboxCall?
    | .wait _ => none
    | .intervene action =>
        if before.shared.disposed then none else action.message?.map .offer
  called.map (before.shared.outbox.perform before.now)

/-- The batch that left the queue, and the place of the task that carries it. -/
def carrier? (transition : ClientTransition) : Option (Nat × Client.Batch) := do
  let step ← transition.outboxStep?
  let batch ← step.event.batch?
  match transition.move, step.event with
  | .turn place, .taken _ => some (place, batch)
  | _, _ => some (transition.before.tasks.length, batch)

/-- The requests that were sent, and the place of the task that sent them. -/
def sends (transition : ClientTransition) : List (Nat × Sent) :=
  match transition.move with
  | .turn place =>
      (transition.after.shared.sent.drop transition.before.shared.sent.length).map fun sent =>
        (place, sent)
  | _ => []

/-- The posts that were sent. -/
def posts (transition : ClientTransition) : List (Nat × Sent) :=
  transition.sends.filter (·.2.endpoint.method = .post)

end ClientTransition

namespace Client

/-- What was done with the queue along some moves. -/
def outboxSteps (history : List ClientTransition) : List OutboxStep :=
  history.filterMap ClientTransition.outboxStep?

/-- All messages that the queue accepted along some moves. -/
def accepted (history : List ClientTransition) : List Message :=
  (OutboxStep.acceptances (outboxSteps history)).map (·.2)

/-- The batches that left the queue along some moves, each with the place of its carrier. -/
def carriers (history : List ClientTransition) : List (Nat × Batch) :=
  history.filterMap ClientTransition.carrier?

/-- The requests sent along some moves, each with the place of the task that sent it. -/
def sends (history : List ClientTransition) : List (Nat × Sent) :=
  history.flatMap ClientTransition.sends

/-- The posts sent along some moves. -/
def posts (history : List ClientTransition) : List (Nat × Sent) :=
  history.flatMap ClientTransition.posts

/-- The exchange by which the task at a place sends messages. -/
def dispatching?
    (configuration : Configuration Client ClientTask)
    (place : Nat) :
    Option Exchange :=
  (configuration.task? place).bind ClientTask.dispatch?

/-- A task that takes the queue some time is at a place. -/
def MayDrainAt
    (configuration : Configuration Client ClientTask)
    (place : Nat) :
    Prop :=
  ∃ task, configuration.task? place = some task ∧ task.mayDrain = true

/-- A client that is not offline, on a transport to where the first one leads. -/
structure IsConnected
    (first : Transport)
    (client : Client) :
    Prop where
  online : client.settings.mode ≠ .offline
  connected :
    ∃ transport,
      client.transport = some transport ∧
        transport.baseUrl = first.baseUrl ∧
        transport.cancelled = client.disposed

end Client

/-- Requests for messages depend only on where a transport leads. -/
theorem Transport.deliveryRequest?_congr
    {transport other : Transport}
    (same : transport.baseUrl = other.baseUrl)
    (batch : List Message) :
    transport.deliveryRequest? batch = other.deliveryRequest? batch := by
  unfold deliveryRequest?
  split <;> simp [eventRequest, bulkRequest, addressOf, same]

open Client (dispatching? MayDrainAt)

/-- What a move does with the queue, and with the exchanges by which messages are sent. -/
inductive ClientTransition.Does
    (first : Transport)
    (transition : ClientTransition) :
    Prop where
  /-- Nothing is done with either. -/
  | rests :
      transition.outboxStep? = none →
      transition.posts = [] →
      transition.after.shared.outbox = transition.before.shared.outbox →
      (∀ place, dispatching? transition.after place = dispatching? transition.before place) →
      Does first transition
  /-- The queue is called; the task at a place carries what comes out of it. -/
  | calls
      {called : OutboxCall}
      {step : OutboxStep}
      {place : Nat} :
      transition.before.shared.outbox.perform transition.before.now called = step →
      transition.outboxStep? = some step →
      transition.posts = [] →
      transition.after.shared.outbox = step.after →
      transition.carrier? = step.event.batch?.map (place, ·) →
      transition.before.tasks.length ≤ place ∨ MayDrainAt transition.before place →
      ¬ MayDrainAt transition.after place →
      (step.event.batch? ≠ none → place < transition.after.tasks.length) →
      (∀ other,
        dispatching? transition.after other =
          if other = place then
            (step.event.batch?.bind first.deliveryRequest?).map ({ request := · })
          else
            dispatching? transition.before other) →
      Does first transition
  /-- The exchange of the task at a place moves. -/
  | dispatches
      {place : Nat}
      {exchange : Exchange}
      {transport moved : Transport}
      {progress : Progress} :
      transition.outboxStep? = none →
      transition.after.shared.outbox = transition.before.shared.outbox →
      transition.before.shared.transport = some transport →
      transition.after.shared.transport = some moved →
      dispatching? transition.before place = some exchange →
      exchange.request.endpoint.method = .post →
      Exchange.Moves transition.before.now transport exchange.request exchange.stage moved
        progress →
      transition.posts =
        (moved.sent.drop transport.sent.length).map (fun post => (place, post)) →
      (∀ other,
        dispatching? transition.after other =
          if other = place then progress.exchange? else dispatching? transition.before other) →
      Does first transition

/-! ## Places -/

namespace Client

variable
  {configuration : Configuration Client ClientTask}
  {place other : Nat}
  {task : ClientTask}

theorem dispatching?_of_task?
    (found : configuration.task? place = some task) :
    dispatching? configuration place = task.dispatch? := by
  simp [dispatching?, found]

/-- Nobody is at a place that has not been given away. -/
theorem dispatching?_beyond
    (beyond : configuration.tasks.length ≤ place) :
    dispatching? configuration place = none := by
  simp [dispatching?, Configuration.task?, beyond]

/-- The exchanges of old and new tasks, place by place. -/
private theorem dispatching?_append
    (configuration : Configuration Client ClientTask)
    (begun : List ClientTask)
    (shared : Client)
    (place : Nat) :
    dispatching?
        { configuration with shared, tasks := configuration.tasks ++ begun.map some } place =
      if place < configuration.tasks.length then
        dispatching? configuration place
      else
        begun[place - configuration.tasks.length]?.bind ClientTask.dispatch? := by
  unfold dispatching?
  rw [Configuration.task?_append]
  split <;> rfl

/-- The exchanges after a turn, place by place. -/
private theorem dispatching?_update
    (found : configuration.task? place = some task)
    (turn : Turn Client ClientTask)
    (other : Nat) :
    dispatching? (configuration.update place turn) other =
      if other = place then
        turn.task.bind ClientTask.dispatch?
      else if other < configuration.tasks.length then
        dispatching? configuration other
      else
        turn.begun[other - configuration.tasks.length]?.bind ClientTask.dispatch? := by
  unfold dispatching?
  rw [Configuration.task?_update found]
  split
  · rfl
  · split <;> rfl

/-- New tasks that send nothing have no exchange. -/
private theorem dispatch?_of_silent
    {begun : List ClientTask}
    (silent : ∀ new ∈ begun, new.dispatch? = none)
    (index : Nat) :
    begun[index]?.bind ClientTask.dispatch? = none := by
  cases found : begun[index]? with
  | none =>
      rfl
  | some new =>
      exact silent new (List.mem_of_getElem? found)

/-- A task that begins with a request for messages is about to send it. -/
private theorem dispatch?_ofRequest
    (request : Option Request)
    (index : Nat) :
    (request.map ClientTask.ofRequest).toList[index]?.bind ClientTask.dispatch? =
      if index = 0 then request.map ({ request := · }) else none := by
  cases request with
  | none =>
      simp
  | some request =>
      cases index <;> simp [ClientTask.ofRequest, ClientTask.dispatch?]

/-- A task that begins with a request for messages never takes the queue. -/
private theorem mayDrain_ofRequest
    {request : Option Request}
    {index : Nat}
    {new : ClientTask}
    (begins : (request.map ClientTask.ofRequest).toList[index]? = some new) :
    new.mayDrain = false := by
  obtain ⟨sent, -, rfl⟩ :=
    Option.map_eq_some_iff.mp (Option.mem_toList.mp (List.mem_of_getElem? begins))
  rfl

/-- New tasks that send nothing change nothing about exchanges. -/
theorem dispatching?_append_of_silent
    {begun : List ClientTask}
    (silent : ∀ new ∈ begun, new.dispatch? = none)
    (shared : Client)
    (place : Nat) :
    dispatching?
        { configuration with shared, tasks := configuration.tasks ++ begun.map some } place =
      dispatching? configuration place := by
  rw [dispatching?_append, dispatch?_of_silent silent]
  split
  · rfl
  · rename_i beyond
    exact (dispatching?_beyond (Nat.not_lt.mp beyond)).symm

/-- A request for messages that is handed to a new task changes nothing else about exchanges. -/
theorem dispatching?_append_ofRequest
    (request : Option Request)
    (shared : Client)
    (place : Nat) :
    dispatching?
        { configuration with
          shared
          tasks :=
            configuration.tasks ++ (request.map ClientTask.ofRequest).toList.map some } place =
      if place = configuration.tasks.length then
        request.map ({ request := · })
      else
        dispatching? configuration place := by
  rw [dispatching?_append, dispatch?_ofRequest]
  rcases Nat.lt_trichotomy place configuration.tasks.length with old | new | beyond
  · rw [if_pos old, if_neg (Nat.ne_of_lt old)]
  · simp [new]
  · rw [if_neg (Nat.not_lt.mpr (Nat.le_of_lt beyond)), if_neg (Nat.sub_ne_zero_of_lt beyond),
      if_neg (Nat.ne_of_gt beyond), dispatching?_beyond (Nat.le_of_lt beyond)]

/-- A turn that begins nobody who sends changes the exchange of its own place only. -/
theorem dispatching?_update_of_silent
    (found : configuration.task? place = some task)
    {turn : Turn Client ClientTask}
    (silent : ∀ new ∈ turn.begun, new.dispatch? = none)
    (other : Nat) :
    dispatching? (configuration.update place turn) other =
      if other = place then
        turn.task.bind ClientTask.dispatch?
      else
        dispatching? configuration other := by
  rw [dispatching?_update found, dispatch?_of_silent silent]
  split
  · rfl
  · split
    · rfl
    · rename_i beyond
      exact (dispatching?_beyond (Nat.not_lt.mp beyond)).symm

/-- A turn of a task that sends nothing hands a request for messages to a new task. -/
theorem dispatching?_update_ofRequest
    (found : configuration.task? place = some task)
    (silentBefore : task.dispatch? = none)
    {turn : Turn Client ClientTask}
    (silentAfter : turn.task.bind ClientTask.dispatch? = none)
    {request : Option Request}
    (begun : turn.begun = (request.map ClientTask.ofRequest).toList)
    (other : Nat) :
    dispatching? (configuration.update place turn) other =
      if other = configuration.tasks.length then
        request.map ({ request := · })
      else
        dispatching? configuration other := by
  have inside := Configuration.lt_length_of_task? found
  have before : dispatching? configuration place = none := by
    simpa [dispatching?, found] using silentBefore
  rw [dispatching?_update found, begun, dispatch?_ofRequest, silentAfter]
  by_cases same : other = place
  · rw [if_pos same, same, if_neg (Nat.ne_of_lt inside), before]
  · rw [if_neg same]
    have appended :
        dispatching?
            { configuration with
              tasks :=
                configuration.tasks ++ (request.map ClientTask.ofRequest).toList.map some } other =
          _ :=
      dispatching?_append_ofRequest request configuration.shared other
    rw [dispatching?_append, dispatch?_ofRequest] at appended
    exact appended

end Client

/-! ## All moves -/

namespace ClientTransition

variable {transition : ClientTransition} {transport moved : Transport} {place : Nat}

/-- A turn does with the queue what its task was about to do. -/
theorem outboxStep?_of_turn
    {before : Configuration Client ClientTask}
    {task : ClientTask}
    (found : before.task? place = some task)
    (after : Configuration Client ClientTask) :
    outboxStep? ⟨before, .turn place, after⟩ =
      task.outboxCall?.map (before.shared.outbox.perform before.now) := by
  simp [outboxStep?, found]

/-- A report from outside is an offer. -/
private theorem outboxStep?_of_report
    {before : Configuration Client ClientTask}
    {action : ClientAction}
    {message : Message}
    (notDisposed : before.shared.disposed = false)
    (offered : action.message? = some message)
    (after : Configuration Client ClientTask) :
    outboxStep? ⟨before, .intervene action, after⟩ =
      some (before.shared.outbox.perform before.now (.offer message)) := by
  simp [outboxStep?, notDisposed, offered]

/-- Nothing is sent where the transport stays the same. -/
theorem sends_of_kept
    (kept : transition.after.shared.transport = transition.before.shared.transport) :
    transition.sends = [] := by
  unfold sends
  split
  · simp [Client.sent, kept]
  · rfl

/-- Whatever a turn adds to what has been sent is sent by its task. -/
theorem sends_of_turn
    (turns : transition.move = .turn place)
    (before : transition.before.shared.transport = some transport)
    (after : transition.after.shared.transport = some moved) :
    transition.sends = (moved.sent.drop transport.sent.length).map fun sent => (place, sent) := by
  simp [sends, turns, Client.sent, before, after]

/-- Nothing is posted where nothing is sent. -/
private theorem posts_of_kept
    (kept : transition.after.shared.transport = transition.before.shared.transport) :
    transition.posts = [] := by
  rw [posts, sends_of_kept kept, List.filter_nil]

/-- Whatever a turn adds to what has been sent is posted by its task, if it is a post. -/
private theorem posts_of_turn
    (turns : transition.move = .turn place)
    (before : transition.before.shared.transport = some transport)
    (after : transition.after.shared.transport = some moved) :
    transition.posts =
      ((moved.sent.drop transport.sent.length).filter
        (·.endpoint.method = .post)).map fun post => (place, post) := by
  rw [posts, sends_of_turn turns before after, List.filter_map]
  rfl

/-- An offer that fills the queue has its batch carried by the next task. -/
private theorem carrier?_of_offer
    {outbox : Telemetry.Outbox}
    {now : Moment}
    {message : Message}
    (stepped : transition.outboxStep? = some (outbox.perform now (.offer message))) :
    transition.carrier? =
      (outbox.perform now (.offer message)).event.batch?.map
        (transition.before.tasks.length, ·) := by
  have shape :
      (outbox.perform now (.offer message)).event =
        .offered message (outbox.enqueue now message).2 := rfl
  unfold carrier?
  rw [stepped, Option.bind_eq_bind, Option.bind_some, shape]
  cases (outbox.enqueue now message).2 with
  | discarded | queued =>
      rfl
  | full batch =>
      cases transition.move <;> rfl

/-- Whoever takes the queue carries what was in it. -/
theorem carrier?_of_take
    {outbox : Telemetry.Outbox}
    {now : Moment}
    (turns : transition.move = .turn place)
    (stepped : transition.outboxStep? = some (outbox.perform now .take)) :
    transition.carrier? = some (place, outbox.queue) := by
  unfold carrier?
  rw [stepped, turns]
  rfl

/-- A full batch gives a new task something to send. -/
private theorem length_of_offer
    (first : Transport)
    {outbox : Telemetry.Outbox}
    {now : Moment}
    {message : Message}
    (filled : (outbox.perform now (.offer message)).event.batch? ≠ none) :
    (((outbox.perform now (.offer message)).event.batch?.bind
      first.deliveryRequest?).map ClientTask.ofRequest).toList.length = 1 := by
  obtain ⟨batch, drained⟩ := Option.ne_none_iff_exists'.mp filled
  obtain ⟨request, sends⟩ :=
    first.exists_deliveryRequest? (Telemetry.Outbox.batch_ne_nil_of_offer drained)
  simp [drained, sends]

end ClientTransition

namespace ClientMove

variable
  {first : Transport}
  {configuration next : Configuration Client ClientTask}
  {move : Move ClientAction}

/-- A turn that leaves the queue, the transport and all exchanges of messages alone. -/
private theorem does_of_quiet
    {place : Nat}
    {task : ClientTask}
    {turn : Turn Client ClientTask}
    (found : configuration.task? place = some task)
    (noCall : task.outboxCall? = none)
    (silentBefore : task.dispatch? = none)
    (quiet : configuration.shared.IsQuiet turn) :
    ClientTransition.Does first
      ⟨configuration, .turn place, configuration.update place turn⟩ := by
  have stepped := ClientTransition.outboxStep?_of_turn found (configuration.update place turn)
  rw [noCall] at stepped
  have silentAfter : turn.task.bind ClientTask.dispatch? = none :=
    Option.bind_eq_none_iff.mpr fun _ left => (quiet.silent left).dispatch
  apply ClientTransition.Does.rests stepped
  · exact ClientTransition.posts_of_kept quiet.kept.transport
  · exact quiet.kept.outbox
  · intro other
    rw [Client.dispatching?_update_of_silent found fun _ new => (quiet.begun new).1]
    split
    · rename_i same
      rw [same, Client.dispatching?_of_task? found, silentBefore, silentAfter]
    · rfl

/-- A turn that offers a message to the queue. -/
private theorem does_of_offer
    {transport : Transport}
    {place : Nat}
    {task left : ClientTask}
    {turn : Turn Client ClientTask}
    {message : Message}
    (found : configuration.task? place = some task)
    (leads : transport.baseUrl = first.baseUrl)
    (calls : task.outboxCall? = some (.offer message))
    (kept :
      turn.shared.KeepsTrafficOf
        { configuration.shared with
          outbox :=
            (configuration.shared.outbox.perform configuration.now (.offer message)).after })
    (leaves : turn.task = some left)
    (silent : left.IsSilent)
    (begun :
      turn.begun =
        (((configuration.shared.outbox.perform configuration.now
          (.offer message)).event.batch?.bind transport.deliveryRequest?).map
            ClientTask.ofRequest).toList) :
    ClientTransition.Does first
      ⟨configuration, .turn place, configuration.update place turn⟩ := by
  have stepped := ClientTransition.outboxStep?_of_turn found (configuration.update place turn)
  rw [calls] at stepped
  have silentBefore := ClientTask.dispatch?_of_outboxCall? calls
  have silentAfter : turn.task.bind ClientTask.dispatch? = none := by
    rw [leaves]
    exact silent.dispatch
  apply ClientTransition.Does.calls rfl stepped
  · exact ClientTransition.posts_of_kept kept.transport
  · exact kept.outbox
  · exact ClientTransition.carrier?_of_offer stepped
  · exact .inl (Nat.le_refl _)
  · rintro ⟨new, begins, drains⟩
    rw [Configuration.task?_update found,
      if_neg (Nat.ne_of_gt (Configuration.lt_length_of_task? found)),
      if_neg (Nat.lt_irrefl _), begun] at begins
    simp [Client.mayDrain_ofRequest begins] at drains
  · intro filled
    have one := ClientTransition.length_of_offer transport filled
    rw [Configuration.length_update, begun, one]
    exact Nat.lt_succ_self _
  · intro other
    rw [Client.dispatching?_update_ofRequest found silentBefore silentAfter begun,
      funext (Transport.deliveryRequest?_congr leads)]

/-- A turn that moves an exchange. -/
private theorem does_of_exchange
    {transport after : Transport}
    {place : Nat}
    {task : ClientTask}
    {turn : Turn Client ClientTask}
    {exchange : Exchange}
    {progress : Progress}
    (found : configuration.task? place = some task)
    (present : configuration.shared.transport = some transport)
    (routed : task.IsRouted)
    (drives : task.exchange? = some exchange)
    (moves :
      Exchange.Moves configuration.now transport exchange.request exchange.stage after progress)
    (kept : turn.shared.KeepsTrafficOf { configuration.shared with transport := some after })
    (sends :
      turn.task.bind ClientTask.dispatch? = task.dispatch?.bind (fun _ => progress.exchange?))
    (begun : turn.begun = []) :
    ClientTransition.Does first
      ⟨configuration, .turn place, configuration.update place turn⟩ := by
  have stepped := ClientTransition.outboxStep?_of_turn found (configuration.update place turn)
  rw [ClientTask.outboxCall?_of_exchange? drives] at stepped
  have atPlace := Client.dispatching?_of_task? found
  have posted :
      ClientTransition.posts ⟨configuration, .turn place, configuration.update place turn⟩ = _ :=
    ClientTransition.posts_of_turn rfl present kept.transport
  have exchanges (other : Nat) :
      dispatching? (configuration.update place turn) other =
        if other = place then
          task.dispatch?.bind (fun _ => progress.exchange?)
        else
          dispatching? configuration other := by
    rw [Client.dispatching?_update_of_silent found (by simp [begun]), sends]
  cases dispatches : task.dispatch? with
  | none =>
      -- Without messages the exchange gets something, and posts nothing.
      have gets := routed.method_of_dispatch?_eq_none drives dispatches
      apply ClientTransition.Does.rests stepped
      · rw [posted, List.map_eq_nil_iff, List.filter_eq_nil_iff]
        intro sent new
        simp [moves.endpoint_of_sent new, gets]
      · exact kept.outbox
      · intro other
        rw [exchanges, dispatches]
        split
        · rename_i same
          rw [same, atPlace, dispatches]
          rfl
        · rfl
  | some driven =>
      obtain rfl : exchange = driven :=
        Option.some.inj (drives.symm.trans (ClientTask.exchange?_of_dispatch? dispatches))
      have isPost := routed.method_of_dispatch? dispatches
      apply ClientTransition.Does.dispatches stepped kept.outbox present kept.transport
        (atPlace.trans dispatches) isPost moves
      · rw [posted, List.filter_eq_self.mpr]
        intro sent new
        simp [moves.endpoint_of_sent new, isPost]
      · intro other
        rw [exchanges, dispatches]
        rfl

/-- Every turn does one of three things with the queue and with the exchanges of messages. -/
private theorem does_of_turn
    {place : Nat}
    {task : ClientTask}
    {turn : Turn Client ClientTask}
    (found : configuration.task? place = some task)
    (taken : task.Takes configuration.now configuration.shared turn)
    (connected : configuration.shared.IsConnected first)
    (routed : task.IsRouted) :
    ClientTransition.Does first
      ⟨configuration, .turn place, configuration.update place turn⟩ := by
  obtain ⟨transport, present, leads, -⟩ := connected.connected
  cases taken.works connected.online present with
  | rests noCall noExchange quiet =>
      exact
        does_of_quiet found noCall (ClientTask.dispatch?_of_exchange?_eq_none noExchange) quiet
  | enters isBegun isDraining =>
      subst isBegun isDraining
      apply ClientTransition.Does.rests (ClientTransition.outboxStep?_of_turn found _)
      · exact ClientTransition.posts_of_kept rfl
      · rfl
      · intro other
        rw [Client.dispatching?_update_of_silent found (by simp [Client.goTo])]
        split
        · rename_i same
          rw [same, Client.dispatching?_of_task? found]
          rfl
        · rfl
  | offers calls kept left silent begun =>
      exact does_of_offer found leads calls kept left silent begun
  | drains calls kept sends idle begun =>
      have stepped := ClientTransition.outboxStep?_of_turn found (configuration.update place turn)
      rw [calls] at stepped
      apply ClientTransition.Does.calls rfl stepped
      · exact ClientTransition.posts_of_kept kept.transport
      · exact kept.outbox
      · exact ClientTransition.carrier?_of_take rfl stepped
      · exact .inr ⟨task, found, ClientTask.mayDrain_of_take calls⟩
      · rintro ⟨left, leaves, drains⟩
        rw [Configuration.task?_update_self found] at leaves
        simp [(idle leaves).1] at drains
      · intro filled
        rw [Configuration.length_update]
        exact Nat.lt_add_right _ (Configuration.lt_length_of_task? found)
      · intro other
        rw [Client.dispatching?_update_of_silent found (by simp [begun]), sends,
          Transport.deliveryRequest?_congr leads]
        rfl
  | exchanges drives moves kept sends idle begun =>
      exact does_of_exchange found present routed drives moves kept sends begun

/-- Every move does one of three things with the queue and with the exchanges of messages. -/
theorem does
    (moved : ClientMove configuration move next)
    (connected : configuration.shared.IsConnected first)
    (routed : ∀ {place task}, configuration.task? place = some task → task.IsRouted) :
    ClientTransition.Does first ⟨configuration, move, next⟩ := by
  cases moved with
  | turn found taken =>
      exact does_of_turn found taken connected (routed found)
  | wait =>
      exact .rests rfl rfl rfl fun _ => rfl
  | call =>
      refine .rests ?_ rfl rfl fun place => ?_
      · simp [ClientTransition.outboxStep?, ClientAction.message?]
      · rename_i called
        have silent : ∀ new ∈ [ClientTask.caller (.begun called)], new.dispatch? = none := by
          simp [ClientTask.dispatch?]
        exact Client.dispatching?_append_of_silent silent configuration.shared place
  | idle noCaller noDisposal silent =>
      refine .rests ?_ rfl rfl fun _ => rfl
      rcases silent with disposed | nothing
      · simp [ClientTransition.outboxStep?, disposed]
      · simp [ClientTransition.outboxStep?, nothing]
  | report noCaller notDisposed offered queued =>
      obtain ⟨transport, present, leads, -⟩ := connected.connected
      obtain ⟨kept, begun⟩ := Client.KeepsTrafficOf.of_enqueue connected.online present queued
      have stepped := ClientTransition.outboxStep?_of_report notDisposed offered
      refine
        .calls rfl (stepped _) (ClientTransition.posts_of_kept kept.transport) kept.outbox
          (ClientTransition.carrier?_of_offer (stepped _)) (.inl (Nat.le_refl _)) ?_ ?_ ?_
      · rintro ⟨new, begins, drains⟩
        rw [begun, Configuration.task?_append, if_neg (Nat.lt_irrefl _)] at begins
        simp [Client.mayDrain_ofRequest begins] at drains
      · intro filled
        have one := ClientTransition.length_of_offer transport filled
        rw [begun, List.length_append, List.length_map, one]
        exact Nat.lt_succ_self _
      · intro other
        rw [begun, Client.dispatching?_append_ofRequest,
          funext (Transport.deliveryRequest?_congr leads)]
  | dispose =>
      refine .rests ?_ rfl rfl fun _ => rfl
      simp [ClientTransition.outboxStep?, ClientAction.message?]

end ClientMove

end FeatureFlags
