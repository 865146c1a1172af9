import FeatureFlags.Proofs.Client.Changes
import Mathlib.Data.List.Nodup

namespace FeatureFlags

/-!
# Posts

What a run up to a moment has to do with the tasks that send messages at that moment: each
of them carries one batch, sends that batch and nothing else, and does so once.
-/

open FeatureFlags.Telemetry (Event Message OutboxStep)
open FeatureFlags.Transport (Exchange Request Sent)

namespace Transport

/-- A request carries a batch: an event on its own as it is, all else as a list of its messages. -/
inductive Sent.Carries
    (transport : Transport)
    (sent : Sent) :
    List Message → Prop where
  | event
      {event : Event} :
      sent.endpoint = .event →
      transport.addressOf .event = .ok sent.address →
      sent.body = some event.toTree.toText →
      Carries transport sent [.event event]
  | bulk
      {batch : List Message} :
      batch ≠ [] →
      (∀ event, batch ≠ [.event event]) →
      sent.endpoint = .bulk →
      transport.addressOf .bulk = .ok sent.address →
      sent.body = some (Json.Tree.array (batch.map Message.toTree)).toText →
      Carries transport sent batch

/-- What is sent for a batch carries it. -/
theorem carries_of_deliveryRequest?
    {transport : Transport}
    {batch : List Message}
    {request : Request}
    {address : Address}
    (found : transport.deliveryRequest? batch = some request)
    (addressed : request.address = .ok address)
    (now : Moment) :
    Sent.Carries transport ⟨now, request.endpoint, address, request.body⟩ batch := by
  unfold deliveryRequest? at found
  split at found
  · cases found
  · cases found
    exact .event rfl addressed rfl
  · rename_i filled noEvent
    cases found
    exact .bulk filled noEvent rfl addressed rfl

/-- Nothing carries an empty batch. -/
theorem Sent.Carries.ne_nil
    {transport : Transport}
    {sent : Sent}
    {batch : List Message}
    (carries : sent.Carries transport batch) :
    batch ≠ [] := by
  cases carries with
  | event =>
      exact List.cons_ne_nil _ _
  | bulk filled =>
      exact filled

end Transport

open Client (carriers dispatching? outboxSteps posts sends MayDrainAt)

/-! ## Histories -/

namespace Client

variable (history : List ClientTransition) (transition : ClientTransition)

theorem carriers_snoc :
    carriers (history ++ [transition]) = carriers history ++ transition.carrier?.toList := by
  cases carried : transition.carrier? <;> simp [carriers, carried]

theorem mem_carriers_snoc
    {history : List ClientTransition}
    {transition : ClientTransition}
    {carrier : Nat × Batch} :
    carrier ∈ carriers (history ++ [transition]) ↔
      carrier ∈ carriers history ∨ transition.carrier? = some carrier := by
  rw [carriers_snoc, List.mem_append, Option.mem_toList, eq_comm]

theorem posts_snoc :
    posts (history ++ [transition]) = posts history ++ transition.posts := by
  simp [posts]

theorem outboxSteps_snoc :
    outboxSteps (history ++ [transition]) =
      outboxSteps history ++ transition.outboxStep?.toList := by
  cases called : transition.outboxStep? <;> simp [outboxSteps, called]

end Client

/-- Only a call on the queue takes a batch out of it. -/
theorem ClientTransition.carrier?_of_rest
    {transition : ClientTransition}
    (rests : transition.outboxStep? = none) :
    transition.carrier? = none := by
  simp [carrier?, rests]

/-- What is carried is what came out of the queue. -/
private theorem ClientTransition.batch_carrier?
    (transition : ClientTransition) :
    transition.carrier?.map (·.2) = transition.outboxStep?.bind (·.event.batch?) := by
  unfold carrier?
  cases transition.outboxStep? with
  | none =>
      rfl
  | some step =>
      cases drained : step.event.batch? with
      | none =>
          simp [drained]
      | some batch =>
          simp only [Option.bind_eq_bind, Option.bind_some, drained]
          split <;> rfl

/-- What is handed out step by step is what is carried. -/
theorem Client.handedOut_eq
    (history : List ClientTransition) :
    OutboxStep.handedOut (outboxSteps history) =
      ((carriers history).map (·.2)).flatten := by
  rw [OutboxStep.handedOut, outboxSteps, carriers, List.filterMap_filterMap, List.map_filterMap]
  exact congrArg (fun batch => (history.filterMap batch).flatten)
    (funext fun transition => transition.batch_carrier?.symm)

/-! ## Carriers and posts -/

/-- A batch comes out of the queue, and the task at a place is to send it if that can be done. -/
structure ClientTransition.Hands
    (first : Transport)
    (transition : ClientTransition)
    (place : Nat)
    (batch : Client.Batch) :
    Prop where
  free : transition.before.tasks.length ≤ place ∨ MayDrainAt transition.before place
  idle : ¬ MayDrainAt transition.after place
  inside : place < transition.after.tasks.length
  sends :
    dispatching? transition.after place =
      (first.deliveryRequest? batch).map ({ request := · })

namespace ClientTransition.Does

variable
  {first : Transport}
  {transition : ClientTransition}
  {place : Nat}
  {batch : Client.Batch}
  {exchange : Exchange}

/-- Whatever is carried has been handed to its carrier. -/
theorem hands
    (does : transition.Does first)
    (takes : transition.carrier? = some (place, batch)) :
    transition.Hands first place batch := by
  cases does with
  | rests noStep | dispatches noStep =>
      rw [carrier?_of_rest noStep] at takes
      cases takes
  | calls _ _ _ _ carried free idle inside sends =>
      rw [carried] at takes
      obtain ⟨handed, drained, pair⟩ := Option.map_eq_some_iff.mp takes
      cases pair
      refine ⟨free, idle, inside (by simp [drained]), ?_⟩
      rw [sends, if_pos rfl, drained]
      rfl

/-- An exchange was there before, or has just sent its request, or sends what was handed out. -/
theorem dispatching?_cases
    (does : transition.Does first)
    (sendsAfter : dispatching? transition.after place = some exchange) :
    dispatching? transition.before place = some exchange ∨
    (exchange.stage ≠ .prepared ∧
      ∃ before,
        dispatching? transition.before place = some before ∧
          before.request = exchange.request) ∨
    ∃ batch,
      transition.carrier? = some (place, batch) ∧
        first.deliveryRequest? batch = some exchange.request := by
  cases does with
  | rests _ _ _ same =>
      exact .inl ((same place).symm.trans sendsAfter)
  | calls _ _ _ _ carried _ _ _ sends =>
      rw [sends] at sendsAfter
      split at sendsAfter
      · rename_i same
        obtain ⟨request, found, rfl⟩ := Option.map_eq_some_iff.mp sendsAfter
        obtain ⟨batch, drained, requested⟩ := Option.bind_eq_some_iff.mp found
        exact .inr (.inr ⟨batch, by rw [carried, drained, same]; rfl, requested⟩)
      · exact .inl sendsAfter
  | dispatches noStep kept found present driven isPost moves post sends =>
      rename_i progress
      rw [sends] at sendsAfter
      split at sendsAfter
      · rename_i same
        cases progress with
        | going next =>
            cases sendsAfter
            obtain ⟨request, sent⟩ := moves.of_going
            exact .inr (.inl ⟨sent, _, same ▸ driven, request.symm⟩)
        | ended =>
            cases sendsAfter
      · exact .inl sendsAfter

/-- A post is sent by an exchange that had prepared it. -/
theorem posts_cases
    (does : transition.Does first) :
    transition.posts = [] ∨
    ∃ place exchange address,
      dispatching? transition.before place = some exchange ∧
        exchange.stage = .prepared ∧
        exchange.request.address = .ok address ∧
        transition.posts =
          [(place, ⟨transition.before.now, exchange.request.endpoint, address,
            exchange.request.body⟩)] ∧
        ∀ {next}, dispatching? transition.after place = some next → next.stage ≠ .prepared := by
  cases does with
  | rests _ unposted | calls _ _ unposted =>
      exact .inl unposted
  | dispatches _ _ _ _ driven _ moves post sends =>
      rcases moves.sent_cases with same | ⟨address, _, prepared, addressed, rfl, added⟩
      · refine .inl ?_
        rw [post, same]
        simp
      · refine .inr ⟨_, _, address, driven, prepared, addressed, ?_, ?_⟩
        · rw [post, added]
          simp
        · intro next sendsAfter
          rw [sends, if_pos rfl] at sendsAfter
          cases sendsAfter
          exact moves.of_going.2

/-- A request that is about to be sent stays so, or is sent, unless it cannot be. -/
theorem prepared_cases
    (does : transition.Does first)
    (connected : transition.before.shared.IsConnected first)
    (taken : ¬ MayDrainAt transition.before place)
    (inside : place < transition.before.tasks.length)
    (driven : dispatching? transition.before place = some exchange)
    (prepared : exchange.stage = .prepared) :
    dispatching? transition.after place = some exchange ∨
    (∃ sent, (place, sent) ∈ transition.posts) ∨
    transition.before.shared.disposed = true ∨
    ∃ fault, exchange.request.address = .error fault := by
  cases does with
  | rests _ _ _ same =>
      exact .inl ((same place).trans driven)
  | calls _ _ _ _ _ free _ _ sends =>
      rw [sends]
      split
      · rename_i same
        rcases free with beyond | mayDrain
        · omega
        · exact absurd (same ▸ mayDrain) taken
      · exact .inl driven
  | dispatches noStep kept found present drives isPost moves post sends =>
      rename_i mover _ _ _ _
      by_cases same : place = mover
      · subst same
        obtain rfl := Option.some.inj (driven.symm.trans drives)
        obtain ⟨transport, present, -, cancelled⟩ := connected.connected
        obtain rfl := Option.some.inj (present.symm.trans found)
        rw [prepared] at moves
        rcases moves.sent_of_prepared with given | unaddressed | ⟨address, added⟩
        · exact .inr (.inr (.inl (cancelled.symm.trans given)))
        · exact .inr (.inr (.inr unaddressed))
        · rw [post, added, List.drop_left]
          exact .inr (.inl ⟨_, List.mem_singleton_self _⟩)
      · rw [sends, if_neg same]
        exact .inl driven

end ClientTransition.Does

/-- What a run up to a moment has to do with the tasks that send messages at that moment. -/
structure Client.Delivering
    (first : Transport)
    (history : List ClientTransition)
    (last : Configuration Client ClientTask) :
    Prop where
  known : ∀ {place batch}, (place, batch) ∈ carriers history → place < last.tasks.length
  distinct : ((carriers history).map (·.1)).Nodup
  /-- Whoever is still to take the queue carries nothing yet. -/
  untaken : ∀ {place}, MayDrainAt last place → ∀ batch, (place, batch) ∉ carriers history
  /-- Whoever sends messages sends the batch that it carries. -/
  driven :
    ∀ {place exchange},
      dispatching? last place = some exchange →
      ∃ batch,
        (place, batch) ∈ carriers history ∧
          first.deliveryRequest? batch = some exchange.request
  /-- Nothing has been posted by whoever is still to send its request. -/
  unsent :
    ∀ {place exchange},
      dispatching? last place = some exchange →
      exchange.stage = .prepared →
      ∀ sent, (place, sent) ∉ posts history
  posted :
    ∀ {place sent},
      (place, sent) ∈ posts history →
      ∃ batch, (place, batch) ∈ carriers history ∧ sent.Carries first batch
  postsDistinct : ((posts history).map (·.1)).Nodup
  /-- A batch is posted, or about to be, unless it cannot be. -/
  notLost :
    ∀ {place batch},
      (place, batch) ∈ carriers history →
      batch ≠ [] →
      (∃ sent, (place, sent) ∈ posts history) ∨
      (∃ exchange, dispatching? last place = some exchange ∧ exchange.stage = .prepared) ∨
      last.shared.disposed = true ∨
      ∃ request fault,
        first.deliveryRequest? batch = some request ∧ request.address = .error fault

namespace Client.Delivering

variable
  {first : Transport}
  {history : List ClientTransition}
  {last next : Configuration Client ClientTask}
  {move : Move ClientAction}

/-- A batch is told by its carrier. -/
theorem batch_eq
    (delivering : Delivering first history last)
    {place : Nat}
    {batch other : Batch}
    (carried : (place, batch) ∈ carriers history)
    (alsoCarried : (place, other) ∈ carriers history) :
    batch = other := by
  have same := List.inj_on_of_nodup_map delivering.distinct carried alsoCarried rfl
  exact (Prod.mk.inj same).2

/-- A batch is handed to somebody who carries nothing yet. -/
theorem uncarried
    (delivering : Delivering first history last)
    {place : Nat}
    {batch : Batch}
    (hands : ClientTransition.Hands first ⟨last, move, next⟩ place batch)
    (other : Batch) :
    (place, other) ∉ carriers history := by
  intro known
  rcases hands.free with beyond | mayDrain
  · exact Nat.not_le.mpr (delivering.known known) beyond
  · exact delivering.untaken mayDrain other known

private theorem known_step
    (delivering : Delivering first history last)
    (does : ClientTransition.Does first ⟨last, move, next⟩)
    (longer : last.tasks.length ≤ next.tasks.length)
    {place : Nat}
    {batch : Batch}
    (carried : (place, batch) ∈ carriers (history ++ [⟨last, move, next⟩])) :
    place < next.tasks.length := by
  rcases mem_carriers_snoc.mp carried with old | new
  · exact Nat.lt_of_lt_of_le (delivering.known old) longer
  · exact (does.hands new).inside

private theorem distinct_step
    (delivering : Delivering first history last)
    (does : ClientTransition.Does first ⟨last, move, next⟩) :
    ((carriers (history ++ [⟨last, move, next⟩])).map (·.1)).Nodup := by
  rw [carriers_snoc, List.map_append]
  cases takes : ClientTransition.carrier? ⟨last, move, next⟩ with
  | none =>
      simpa using delivering.distinct
  | some carrier =>
      obtain ⟨place, batch⟩ := carrier
      -- Whoever takes this batch has carried none before.
      refine List.nodup_append.mpr ⟨delivering.distinct, by simp, ?_⟩
      rintro other known _ new rfl
      obtain ⟨⟨_, earlier⟩, member, rfl⟩ := List.mem_map.mp known
      obtain rfl : _ = place := by simpa using new
      exact delivering.uncarried (does.hands takes) earlier member

private theorem untaken_step
    (delivering : Delivering first history last)
    (does : ClientTransition.Does first ⟨last, move, next⟩)
    {place : Nat}
    (before : MayDrainAt last place ∨ last.tasks.length ≤ place)
    (drains : MayDrainAt next place)
    (batch : Batch) :
    (place, batch) ∉ carriers (history ++ [⟨last, move, next⟩]) := by
  intro carried
  rcases mem_carriers_snoc.mp carried with old | new
  · rcases before with mayDrain | beyond
    · exact delivering.untaken mayDrain batch old
    · exact Nat.not_le.mpr (delivering.known old) beyond
  · exact (does.hands new).idle drains

private theorem driven_step
    (delivering : Delivering first history last)
    (does : ClientTransition.Does first ⟨last, move, next⟩)
    {place : Nat}
    {exchange : Exchange}
    (sends : dispatching? next place = some exchange) :
    ∃ batch,
      (place, batch) ∈ carriers (history ++ [⟨last, move, next⟩]) ∧
        first.deliveryRequest? batch = some exchange.request := by
  rcases does.dispatching?_cases sends with
    same | ⟨-, before, drives, request⟩ | ⟨batch, takes, requested⟩
  · obtain ⟨batch, old, requested⟩ := delivering.driven same
    exact ⟨batch, mem_carriers_snoc.mpr (.inl old), requested⟩
  · obtain ⟨batch, old, requested⟩ := delivering.driven drives
    exact ⟨batch, mem_carriers_snoc.mpr (.inl old), request ▸ requested⟩
  · exact ⟨batch, mem_carriers_snoc.mpr (.inr takes), requested⟩

private theorem unsent_step
    (delivering : Delivering first history last)
    (does : ClientTransition.Does first ⟨last, move, next⟩)
    {place : Nat}
    {exchange : Exchange}
    (sends : dispatching? next place = some exchange)
    (prepared : exchange.stage = .prepared)
    (sent : Sent) :
    (place, sent) ∉ posts (history ++ [⟨last, move, next⟩]) := by
  intro post
  rcases List.mem_append.mp (posts_snoc history _ ▸ post) with old | new
  · rcases does.dispatching?_cases sends with same | ⟨moved, -⟩ | ⟨batch, takes, -⟩
    · exact delivering.unsent same prepared sent old
    · exact moved prepared
    -- Whoever comes to send a request of a new batch has carried none, so it has posted none.
    · obtain ⟨earlier, known, -⟩ := delivering.posted old
      exact delivering.uncarried (does.hands takes) earlier known
  · rcases does.posts_cases with none | ⟨other, _, _, -, -, -, added, leaves⟩
    · simp [none] at new
    · rw [added] at new
      cases List.mem_singleton.mp new
      exact leaves sends prepared

private theorem posted_step
    (delivering : Delivering first history last)
    (does : ClientTransition.Does first ⟨last, move, next⟩)
    {place : Nat}
    {sent : Sent}
    (post : (place, sent) ∈ posts (history ++ [⟨last, move, next⟩])) :
    ∃ batch,
      (place, batch) ∈ carriers (history ++ [⟨last, move, next⟩]) ∧ sent.Carries first batch := by
  rcases List.mem_append.mp (posts_snoc history _ ▸ post) with old | new
  · obtain ⟨batch, known, carries⟩ := delivering.posted old
    exact ⟨batch, mem_carriers_snoc.mpr (.inl known), carries⟩
  · rcases does.posts_cases with none | ⟨other, _, _, drives, -, addressed, added, -⟩
    · simp [none] at new
    · rw [added] at new
      cases List.mem_singleton.mp new
      obtain ⟨batch, known, requested⟩ := delivering.driven drives
      exact
        ⟨batch, mem_carriers_snoc.mpr (.inl known),
          Transport.carries_of_deliveryRequest? requested addressed last.now⟩

private theorem postsDistinct_step
    (delivering : Delivering first history last)
    (does : ClientTransition.Does first ⟨last, move, next⟩) :
    ((posts (history ++ [⟨last, move, next⟩])).map (·.1)).Nodup := by
  rw [posts_snoc, List.map_append]
  rcases does.posts_cases with none | ⟨place, _, _, drives, prepared, -, added, -⟩
  · simpa [none] using delivering.postsDistinct
  · rw [added]
    -- The sender had still to send its request, so it has posted nothing before.
    refine List.nodup_append.mpr ⟨delivering.postsDistinct, by simp, ?_⟩
    rintro other known _ new rfl
    obtain ⟨⟨_, sent⟩, member, rfl⟩ := List.mem_map.mp known
    obtain rfl : _ = place := by simpa using new
    exact delivering.unsent drives prepared sent member

/-- A request that is about to be sent is not lost. -/
private theorem prepared_step
    (delivering : Delivering first history last)
    (does : ClientTransition.Does first ⟨last, move, next⟩)
    (connected : last.shared.IsConnected first)
    {place : Nat}
    {batch : Batch}
    {exchange : Exchange}
    (carried : (place, batch) ∈ carriers history)
    (drives : dispatching? last place = some exchange)
    (prepared : exchange.stage = .prepared) :
    (∃ sent, (place, sent) ∈ posts (history ++ [⟨last, move, next⟩])) ∨
    dispatching? next place = some exchange ∨
    last.shared.disposed = true ∨
    ∃ request fault,
      first.deliveryRequest? batch = some request ∧ request.address = .error fault := by
  have taken : ¬ MayDrainAt last place := fun mayDrain =>
    delivering.untaken mayDrain batch carried
  rcases does.prepared_cases connected taken (delivering.known carried) drives prepared with
    same | ⟨sent, new⟩ | disposed | ⟨fault, faulty⟩
  · exact .inr (.inl same)
  · refine .inl ⟨sent, ?_⟩
    rw [posts_snoc]
    exact List.mem_append_right _ new
  · exact .inr (.inr (.inl disposed))
  · obtain ⟨other, alsoCarried, requested⟩ := delivering.driven drives
    obtain rfl := delivering.batch_eq carried alsoCarried
    exact .inr (.inr (.inr ⟨_, fault, requested, faulty⟩))

private theorem notLost_step
    (delivering : Delivering first history last)
    (does : ClientTransition.Does first ⟨last, move, next⟩)
    (connected : last.shared.IsConnected first)
    (final : last.shared.disposed = true → next.shared.disposed = true)
    {place : Nat}
    {batch : Batch}
    (carried : (place, batch) ∈ carriers (history ++ [⟨last, move, next⟩]))
    (filled : batch ≠ []) :
    (∃ sent, (place, sent) ∈ posts (history ++ [⟨last, move, next⟩])) ∨
    (∃ exchange, dispatching? next place = some exchange ∧ exchange.stage = .prepared) ∨
    next.shared.disposed = true ∨
    ∃ request fault,
      first.deliveryRequest? batch = some request ∧ request.address = .error fault := by
  rcases mem_carriers_snoc.mp carried with old | new
  · rcases delivering.notLost old filled with
      ⟨sent, known⟩ | ⟨exchange, drives, prepared⟩ | disposed | unaddressed
    · refine .inl ⟨sent, ?_⟩
      rw [posts_snoc]
      exact List.mem_append_left _ known
    · rcases delivering.prepared_step does connected old drives prepared with
        sent | same | disposed | unaddressed
      · exact .inl sent
      · exact .inr (.inl ⟨exchange, same, prepared⟩)
      · exact .inr (.inr (.inl (final disposed)))
      · exact .inr (.inr (.inr unaddressed))
    · exact .inr (.inr (.inl (final disposed)))
    · exact .inr (.inr (.inr unaddressed))
  -- A batch that has just been taken is about to be sent by whoever took it.
  · obtain ⟨request, requested⟩ := first.exists_deliveryRequest? filled
    refine .inr (.inl ⟨{ request }, ?_, rfl⟩)
    rw [(does.hands new).sends, requested]
    rfl

/-- Every move keeps the account of carriers and posts. -/
theorem step
    (delivering : Delivering first history last)
    (moved : ClientMove last move next)
    (connected : last.shared.IsConnected first)
    (routed : ∀ {place task}, last.task? place = some task → task.IsRouted) :
    Delivering first (history ++ [⟨last, move, next⟩]) next := by
  have does := moved.does connected routed
  constructor
  case known =>
    exact delivering.known_step does moved.length_le
  case distinct =>
    exact delivering.distinct_step does
  case untaken =>
    intro place drains
    exact delivering.untaken_step does (moved.mayDrainAt_cases connected drains) drains
  case driven =>
    exact delivering.driven_step does
  case unsent =>
    exact delivering.unsent_step does
  case posted =>
    exact delivering.posted_step does
  case postsDistinct =>
    exact delivering.postsDistinct_step does
  case notLost =>
    exact delivering.notLost_step does connected (moved.connected_step connected).2

end Client.Delivering

/-! ## Runs -/

/-- What holds of a client, of its queue and of those who send messages wherever a run leads. -/
structure Client.Trades
    (first : Transport)
    (settings : Settings)
    (history : List ClientTransition)
    (last : Configuration Client ClientTask) :
    Prop where
  connected : last.shared.IsConnected first
  routed : ∀ {place task}, last.task? place = some task → task.IsRouted
  delivering : Delivering first history last
  follows :
    last.shared.outbox.Follows settings.maxMessages settings.rollingWindow
      (outboxSteps history) last.now
  sent_eq : last.shared.sent = (sends history).map (·.2)
  /-- Whoever has been told that what was queued has been sent has taken it. -/
  flushed :
    ∀ {place task},
      last.task? place = some task →
      task.isFlushed = true →
      ∃ batch, (place, batch) ∈ carriers history

namespace Client.Trades

variable
  {first : Transport}
  {settings : Settings}
  {surroundings : Surroundings}
  {client : Client}
  {history : List ClientTransition}
  {last next : Configuration Client ClientTask}
  {move : Move ClientAction}

/-- A new client has its loops only. -/
theorem fresh
    (created : create settings surroundings = .ok client)
    (online : settings.mode ≠ .offline)
    (found : client.transport = some first) :
    Trades first settings [] client.fresh := by
  have silent {place : Nat} {task : ClientTask} (standing : client.fresh.task? place = some task) :
      task.IsSilent := by
    rcases isLoop_of_fresh standing with rfl | rfl <;> exact ⟨rfl, rfl, rfl, trivial⟩
  have nobody {place : Nat} {exchange : Exchange}
      (sends : dispatching? client.fresh place = some exchange) : False := by
    obtain ⟨task, standing, dispatches⟩ := Option.bind_eq_some_iff.mp sends
    simp [(silent standing).dispatch] at dispatches
  obtain ⟨transport, present, unsent, notCancelled⟩ := transport_of_create created online
  obtain rfl := Option.some.inj (found.symm.trans present)
  obtain ⟨_, -, rfl⟩ := eq_of_create created
  constructor
  case connected =>
    exact ⟨online, first, found, rfl, notCancelled⟩
  case routed =>
    exact fun standing => (silent standing).routed
  case delivering =>
    constructor
    case driven | unsent =>
      exact fun sends => (nobody sends).elim
    all_goals simp [carriers, posts]
  case follows =>
    exact .initial settings.maxMessages_pos settings.rollingWindow
  case sent_eq =>
    simp [Client.fresh, Client.sent, found, unsent, sends]
  case flushed =>
    intro place task standing flushed
    simp [(silent standing).flush] at flushed

/-- The queue goes on as its steps say. -/
private theorem follows_step
    (trades : Trades first settings history last)
    (moved : ClientMove last move next) :
    next.shared.outbox.Follows settings.maxMessages settings.rollingWindow
      (outboxSteps (history ++ [⟨last, move, next⟩])) next.now := by
  rw [outboxSteps_snoc]
  cases moved.does trades.connected trades.routed with
  | rests noStep _ same | dispatches noStep same =>
      rw [noStep, same, Option.toList_none, List.append_nil]
      exact trades.follows.later moved.now_le
  | calls performed stepped _ after =>
      subst performed
      rw [stepped, after]
      exact (trades.follows.perform _).later moved.now_le

/-- Whoever is told that what was queued has been sent has taken it. -/
private theorem flushed_step
    (trades : Trades first settings history last)
    (moved : ClientMove last move next)
    {place : Nat}
    {task : ClientTask}
    (found : next.task? place = some task)
    (flushed : task.isFlushed = true) :
    ∃ batch, (place, batch) ∈ carriers (history ++ [⟨last, move, next⟩]) := by
  rw [carriers_snoc]
  rcases moved.isFlushed_cases trades.connected found flushed with
    before | ⟨batch, taken⟩ | ⟨exchange, drives⟩
  · obtain ⟨batch, carried⟩ := trades.flushed before flushed
    exact ⟨batch, List.mem_append_left _ carried⟩
  · exact ⟨batch, List.mem_append_right _ (Option.mem_toList.mpr taken)⟩
  · obtain ⟨batch, carried, -⟩ := trades.delivering.driven drives
    exact ⟨batch, List.mem_append_left _ carried⟩

/-- Every move keeps the account. -/
theorem step
    (trades : Trades first settings history last)
    (moved : ClientMove last move next) :
    Trades first settings (history ++ [⟨last, move, next⟩]) next where
  connected := (moved.connected_step trades.connected).1
  routed := moved.routed_step trades.connected trades.routed
  delivering := trades.delivering.step moved trades.connected trades.routed
  follows := trades.follows_step moved
  sent_eq := by
    rw [moved.sent_step trades.connected, trades.sent_eq, ← List.map_append]
    simp [sends]
  flushed := trades.flushed_step moved

/-- The account of every run is right. -/
theorem of_run
    (created : create settings surroundings = .ok client)
    (online : settings.mode ≠ .offline)
    (found : client.transport = some first)
    (run : Run system client.fresh history last) :
    Trades first settings history last := by
  induction run with
  | start =>
      exact fresh created online found
  | step _ possible inductionHypothesis =>
      exact inductionHypothesis.step (.of_after? possible)

/-- What left the queue in batches, and what waits, are the accepted messages in order. -/
theorem conserved
    (trades : Trades first settings history last) :
    ((carriers history).map (·.2)).flatten ++ last.shared.outbox.queue = accepted history := by
  rw [← handedOut_eq]
  exact trades.follows.records.conserved

/-- All posts are sent by tasks. -/
theorem posts_eq
    (trades : Trades first settings history last) :
    last.shared.sent.filter (·.endpoint.method = .post) = (posts history).map (·.2) := by
  have filtered : posts history = (sends history).filter (·.2.endpoint.method = .post) := by
    simp only [posts, sends, List.filter_flatMap]
    rfl
  rw [trades.sent_eq, filtered, List.filter_map]
  rfl

end Client.Trades

end FeatureFlags
