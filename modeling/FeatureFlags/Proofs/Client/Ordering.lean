import FeatureFlags.Proofs.Client.Delivery
import FeatureFlags.Proofs.Client.PeriodicFlushes

namespace FeatureFlags

/-!
# Order of posts

Messages leave the queue in the order in which they were accepted. Every batch is sent by a
task of its own, so the post of a later batch may be sent before that of an earlier one, but
only if the batch left the queue before the earlier sender had come to send its request.
-/

open FeatureFlags.Telemetry (Message)
open FeatureFlags.Transport (Exchange)
open Client (accepted carriers dispatching? posts)

namespace Client

/-- The messages that left the queue along some moves, each with the place of its carrier. -/
def handed (history : List ClientTransition) : List (Nat × Message) :=
  (carriers history).flatMap fun (place, batch) => batch.map (place, ·)

/-- If both of two carriers have sent a post, the first of them has sent its post first. -/
def PostsBefore
    (history : List ClientTransition)
    (first second : Nat) :
    Prop :=
  first ∈ (posts history).map (·.1) →
  second ∈ (posts history).map (·.1) →
  [first, second].Sublist ((posts history).map (·.1))

/-- Posts that carry different messages are sent in the order in which these were accepted. -/
def PostsInOrder (history : List ClientTransition) : Prop :=
  (handed history).Pairwise fun one other =>
    one.1 ≠ other.1 → PostsBefore history one.1 other.1

/-- A batch leaves the queue for a carrier while another one has still to send its request. -/
def MayOvertake
    (history : List ClientTransition)
    (first second : Nat) :
    Prop :=
  ∃ earlier takes later batch exchange,
    history = earlier ++ takes :: later ∧
      takes.carrier? = some (second, batch) ∧
      dispatching? takes.before first = some exchange ∧
      exchange.stage = .prepared

/-- A periodic flush is at a place somewhere along some moves. -/
def FlushesPeriodically
    (history : List ClientTransition)
    (place : Nat) :
    Prop :=
  ∃ transition ∈ history, ∃ refresh, transition.before.task? place = some (.flush refresh)

/-! ## Histories -/

variable {history : List ClientTransition}

theorem posts_append (more : List ClientTransition) :
    posts (history ++ more) = posts history ++ posts more := by
  simp [posts]

/-- What left the queue message by message is what left it batch by batch. -/
theorem handed_eq : (handed history).map (·.2) = ((carriers history).map (·.2)).flatten := by
  rw [handed, List.map_flatMap]
  simp [Function.comp_def, List.flatMap_def]

/-- Of two carriers, the first had its batch already when the second took its own. -/
theorem exists_takes_of_sublist
    {one other : Nat × Batch}
    (ordered : [one, other].Sublist (carriers history)) :
    ∃ earlier takes later,
      history = earlier ++ takes :: later ∧
        one ∈ carriers earlier ∧
        takes.carrier? = some other := by
  obtain ⟨left, right, shape, oneMember, otherSublist⟩ := List.cons_sublist_iff.mp ordered
  obtain ⟨before, after, rfl, rfl, rfl⟩ := List.filterMap_eq_append_iff.mp shape
  obtain ⟨takes, member, taken⟩ :=
    List.mem_filterMap.mp (List.singleton_sublist.mp otherSublist)
  obtain ⟨between, later, rfl⟩ := List.append_of_mem member
  refine ⟨before ++ between, takes, later, (List.append_assoc ..).symm, ?_, taken⟩
  rw [carriers, List.filterMap_append]
  exact List.mem_append_left _ oneMember

/-- What holds of any two carriers in their order holds of any two messages that they carry. -/
theorem pairwise_handed
    (related : Nat → Nat → Prop)
    (carried :
      ∀ {one other},
        [one, other].Sublist (carriers history) →
        related one.1 other.1) :
    (handed history).Pairwise fun one other => one.1 ≠ other.1 → related one.1 other.1 := by
  have pairwise : (carriers history).Pairwise fun one other => related one.1 other.1 :=
    List.pairwise_iff_forall_sublist.mpr carried
  refine List.pairwise_flatMap.mpr ⟨?_, pairwise.imp ?_⟩
  -- Messages of one batch have the same carrier.
  · rintro ⟨place, batch⟩ -
    refine List.pairwise_map.mpr (List.pairwise_of_forall ?_)
    exact fun _ _ different => absurd rfl different
  · rintro ⟨place, batch⟩ ⟨other, next⟩ relates one oneMember another otherMember -
    obtain ⟨_, -, rfl⟩ := List.mem_map.mp oneMember
    obtain ⟨_, -, rfl⟩ := List.mem_map.mp otherMember
    exact relates

/-! ## Runs -/

variable
  {settings : Settings}
  {surroundings : Surroundings}
  {client : Client}
  {transport : Transport}
  {earlier later more : List ClientTransition}
  {takes : ClientTransition}
  {middle last : Configuration Client ClientTask}
  {first second : Nat}
  {batch next : Batch}

/-- A carrier that has still to send its request has had to since it took its batch. -/
private theorem dispatching?_of_later
    {exchange : Exchange}
    (created : create settings surroundings = .ok client)
    (online : settings.mode ≠ .offline)
    (present : client.transport = some transport)
    (runBefore : Run system client.fresh earlier middle)
    (run : Run system middle more last)
    (carried : (first, batch) ∈ carriers earlier)
    (drives : dispatching? last first = some exchange)
    (prepared : exchange.stage = .prepared) :
    dispatching? middle first = some exchange := by
  induction run with
  | start =>
      exact drives
  | @step between reached _ _ run possible inductionHypothesis =>
      have trades : Trades transport settings (earlier ++ between) reached :=
        .of_run created online present (runBefore.append run)
      have does := (ClientMove.of_after? possible).does trades.connected trades.routed
      rcases does.dispatching?_cases drives with same | ⟨moved, -⟩ | ⟨other, taken, -⟩
      · exact inductionHypothesis same
      · exact absurd prepared moved
      -- Nobody takes a second batch.
      · refine absurd ?_ (trades.delivering.uncarried (does.hands taken) batch)
        rw [carriers, List.filterMap_append]
        exact List.mem_append_left _ carried

/-- Whoever posts after another batch has left had still to send its request by then. -/
private theorem exists_prepared_of_posts
    (created : create settings surroundings = .ok client)
    (online : settings.mode ≠ .offline)
    (present : client.transport = some transport)
    (run : Run system client.fresh (earlier ++ takes :: later) last)
    (carried : (first, batch) ∈ carriers earlier)
    (posted : first ∈ (posts (takes :: later)).map (·.1)) :
    ∃ exchange,
      dispatching? takes.before first = some exchange ∧ exchange.stage = .prepared := by
  have runBefore := run.of_split.1
  have onward := run.of_split_from
  obtain ⟨⟨_, sent⟩, member, rfl⟩ := List.mem_map.mp posted
  obtain ⟨sends, sendsMember, post⟩ := List.mem_flatMap.mp member
  obtain ⟨between, rest, shape⟩ := List.append_of_mem sendsMember
  rw [shape] at onward
  obtain ⟨runBetween, sendsPossible⟩ := onward.of_split
  have trades : Trades transport settings (earlier ++ between) sends.before :=
    .of_run created online present (runBefore.append runBetween)
  have does := (ClientMove.of_after? sendsPossible).does trades.connected trades.routed
  rcases does.posts_cases with none | ⟨_, exchange, _, drives, prepared, -, added, -⟩
  · simp [none] at post
  · rw [added] at post
    cases List.mem_singleton.mp post
    exact
      ⟨exchange,
        dispatching?_of_later created online present runBefore runBetween carried drives prepared,
        prepared⟩

/-- Whoever has sent its post before another batch leaves has sent it before that one is posted. -/
private theorem postsBefore_of_posted
    (created : create settings surroundings = .ok client)
    (online : settings.mode ≠ .offline)
    (present : client.transport = some transport)
    (run : Run system client.fresh (earlier ++ takes :: later) last)
    (taken : takes.carrier? = some (second, next))
    (posted : first ∈ (posts earlier).map (·.1)) :
    PostsBefore (earlier ++ takes :: later) first second := by
  intro _ postedSecond
  obtain ⟨runBefore, possible⟩ := run.of_split
  have trades : Trades transport settings earlier takes.before :=
    .of_run created online present runBefore
  have does := (ClientMove.of_after? possible).does trades.connected trades.routed
  rw [posts_append, List.map_append] at postedSecond ⊢
  rcases List.mem_append.mp postedSecond with before | after
  · obtain ⟨⟨_, sent⟩, member, rfl⟩ := List.mem_map.mp before
    obtain ⟨other, carried, -⟩ := trades.delivering.posted member
    exact absurd carried (trades.delivering.uncarried (does.hands taken) other)
  · exact (List.singleton_sublist.mpr posted).append (List.singleton_sublist.mpr after)

/-- Posts are in order unless the earlier carrier had still to send its request. -/
private theorem postsBefore_or_prepared
    (created : create settings surroundings = .ok client)
    (online : settings.mode ≠ .offline)
    (run : Run system client.fresh (earlier ++ takes :: later) last)
    (carried : (first, batch) ∈ carriers earlier)
    (taken : takes.carrier? = some (second, next)) :
    PostsBefore (earlier ++ takes :: later) first second ∨
    ∃ exchange,
      dispatching? takes.before first = some exchange ∧ exchange.stage = .prepared := by
  obtain ⟨transport, present, -, -⟩ := transport_of_create created online
  by_cases already : first ∈ (posts earlier).map (·.1)
  · exact .inl (postsBefore_of_posted created online present run taken already)
  · by_cases after : first ∈ (posts (takes :: later)).map (·.1)
    · exact .inr (exists_prepared_of_posts created online present run carried after)
    · refine .inl fun posted => ?_
      rw [posts_append, List.map_append, List.mem_append] at posted
      exact absurd posted (not_or.mpr ⟨already, after⟩)

/-- Whoever has taken a batch for a periodic flush goes on with it until it has ended. -/
private theorem exists_carriesOut
    (created : create settings surroundings = .ok client)
    (online : settings.mode ≠ .offline)
    (run : Run system client.fresh (earlier ++ takes :: later) last)
    (carried : (first, batch) ∈ carriers (earlier ++ [takes]))
    (periodic : FlushesPeriodically (earlier ++ takes :: later) first) :
    ∃ refresh, CarriesOut refresh first takes.before := by
  obtain ⟨flushes, member, refresh, found⟩ := periodic
  have carriesOut : CarriesOut refresh first flushes.before :=
    ⟨Configuration.lt_length_of_task? found, fun there => by
      cases found.symm.trans there
      rfl⟩
  refine ⟨refresh, ?_⟩
  rcases List.mem_append.mp member with before | rest
  · obtain ⟨start, between, rfl⟩ := List.append_of_mem before
    have runBefore := run.of_split.1
    exact carriesOut.later created online runBefore.of_split.1 runBefore.of_split_from
  rcases List.mem_cons.mp rest with rfl | after
  · exact carriesOut
  -- Whoever still has to take the queue has not taken a batch.
  · obtain ⟨between, following, rfl⟩ := List.append_of_mem after
    have shape :
        earlier ++ takes :: (between ++ flushes :: following) =
          (earlier ++ [takes] ++ between) ++ flushes :: following := by
      simp
    rw [shape] at run
    obtain ⟨transport, present, -, -⟩ := transport_of_create created online
    have trades : Trades transport settings (earlier ++ [takes] ++ between) flushes.before :=
      .of_run created online present run.of_split.1
    refine absurd ?_ (trades.delivering.untaken ⟨_, found, rfl⟩ batch)
    rw [carriers, List.filterMap_append]
    exact List.mem_append_left _ carried

/-- Of two periodic flushes, the first has nothing more to send when the second takes a batch. -/
private theorem dispatching?_of_flushesPeriodically
    (created : create settings surroundings = .ok client)
    (online : settings.mode ≠ .offline)
    (run : Run system client.fresh (earlier ++ takes :: later) last)
    (different : first ≠ second)
    (carried : (first, batch) ∈ carriers earlier)
    (taken : takes.carrier? = some (second, next))
    (firstPeriodic : FlushesPeriodically (earlier ++ takes :: later) first)
    (secondPeriodic : FlushesPeriodically (earlier ++ takes :: later) second) :
    dispatching? takes.before first = none := by
  obtain ⟨transport, present, -, -⟩ := transport_of_create created online
  obtain ⟨runBefore, possible⟩ := run.of_split
  have trades : Trades transport settings earlier takes.before :=
    .of_run created online present runBefore
  have does := (ClientMove.of_after? possible).does trades.connected trades.routed
  obtain ⟨refresh, carriesOut⟩ :=
    exists_carriesOut created online run (mem_carriers_snoc.mpr (.inl carried)) firstPeriodic
  obtain ⟨another, alsoCarriesOut⟩ :=
    exists_carriesOut created online run (mem_carriers_snoc.mpr (.inr taken)) secondPeriodic
  obtain ⟨ticker, inTurn⟩ := FlushesInTurn.of_run created online runBefore
  rcases (does.hands taken).free with beyond | ⟨taker, found, -⟩
  · exact absurd alsoCarriesOut.inside (Nat.not_lt.mpr beyond)
  · cases there : takes.before.task? first with
    | none =>
        simp [dispatching?, there]
    | some task =>
        refine absurd ?_ different
        exact
          inTurn.alone there (carriesOut.carries there) found (alsoCarriesOut.carries found)

end Client

/-- Messages leave in order, and are posted in order unless an earlier request is outstanding. -/
structure Client.OrdersPosts
    (history : List ClientTransition)
    (last : Configuration Client ClientTask) :
    Prop where
  /-- What left the queue, and what waits, are the accepted messages in order. -/
  leaves : (handed history).map (·.2) ++ last.shared.outbox.queue = accepted history
  /-- Posts are in order unless a batch left while the earlier request had still to be sent. -/
  ordered :
    (handed history).Pairwise fun one other =>
      one.1 ≠ other.1 →
      PostsBefore history one.1 other.1 ∨ MayOvertake history one.1 other.1
  /-- Periodic flushes are always in order. -/
  periodic :
    (handed history).Pairwise fun one other =>
      one.1 ≠ other.1 →
      FlushesPeriodically history one.1 →
      FlushesPeriodically history other.1 →
      PostsBefore history one.1 other.1

/-- Posts are in the order of their messages along every run of a client that is not offline. -/
theorem Client.run_ordersPosts
    {settings : Settings}
    {surroundings : Surroundings}
    {client : Client}
    (created : create settings surroundings = .ok client)
    (online : settings.mode ≠ .offline)
    {history : List ClientTransition}
    {last : Configuration Client ClientTask}
    (run : Run system client.fresh history last) :
    OrdersPosts history last := by
  obtain ⟨transport, present, -, -⟩ := transport_of_create created online
  have trades : Trades transport settings history last :=
    .of_run created online present run
  have different : (carriers history).Pairwise fun one other => one.1 ≠ other.1 :=
    List.pairwise_map.mp trades.delivering.distinct
  constructor
  case leaves =>
    rw [handed_eq]
    exact trades.conserved
  case ordered =>
    refine
      pairwise_handed
        (fun first second => PostsBefore history first second ∨ MayOvertake history first second)
        fun {one other} pair => ?_
    obtain ⟨earlier, takes, later, rfl, carried, taken⟩ := exists_takes_of_sublist pair
    rcases postsBefore_or_prepared created online run carried taken with
      before | ⟨exchange, drives, prepared⟩
    · exact .inl before
    · exact .inr ⟨earlier, takes, later, _, exchange, rfl, taken, drives, prepared⟩
  case periodic =>
    refine
      pairwise_handed
        (fun first second =>
          FlushesPeriodically history first →
          FlushesPeriodically history second →
          PostsBefore history first second)
        fun {one other} pair firstPeriodic secondPeriodic => ?_
    have distinct := List.pairwise_iff_forall_sublist.mp different pair
    obtain ⟨earlier, takes, later, rfl, carried, taken⟩ := exists_takes_of_sublist pair
    rcases postsBefore_or_prepared created online run carried taken with
      before | ⟨exchange, drives, -⟩
    · exact before
    -- When the second took its batch, the first had nothing more to send.
    · have none :=
        dispatching?_of_flushesPeriodically created online run distinct carried taken
          firstPeriodic secondPeriodic
      rw [none] at drives
      cases drives

/-- Two clicks are posted when they fill the queue, and before a third, which is flushed. -/
theorem Client.run_fullBeforeFlushed :
    ∃ (client : Client)
      (history : List ClientTransition)
      (last : Configuration Client ClientTask),
      create .ofTwo .failing = .ok client ∧
        Settings.ofTwo.mode ≠ .offline ∧
        Run system client.fresh history last ∧
        (handed history).map (·.1) = [1, 1, 2] ∧
        (posts history).map (·.1) = [1, 2] ∧
        OrdersPosts history last := by
  have observed :
      (trace? .ofTwo .failing ClientAction.fullAndFlushed).map (fun (_, history, _) =>
          ((handed history).map (·.1), (posts history).map (·.1))) =
        some ([1, 1, 2], [1, 2]) := by
    decide +kernel
  obtain ⟨⟨client, history, last⟩, traced, seen⟩ := Option.map_eq_some_iff.mp observed
  obtain ⟨handedOut, posted⟩ := Prod.mk.inj seen
  obtain ⟨created, run⟩ := run_of_trace? traced
  have online : Settings.ofTwo.mode ≠ .offline := by decide
  exact
    ⟨client, history, last, created, online, run, handedOut, posted,
      run_ordersPosts created online run⟩

/-- Two clicks fill the queue, but a third is flushed before the two come to be sent. -/
def ClientAction.overtaken : List (Move ClientAction) :=
  [.intervene (.track (.click "a")), .intervene (.track (.click "b")),
    .intervene (.track (.click "c")), .intervene (.call .flush), .turn 2, .turn 2, .turn 2,
    .turn 1]

/-- A flush may post its batch before that of a task which has not come to send a full one. -/
theorem Client.not_postsInOrder :
    ¬ ∀ {settings : Settings}
        {surroundings : Surroundings}
        {client : Client}
        {history : List ClientTransition}
        {last : Configuration Client ClientTask},
        create settings surroundings = .ok client →
        settings.mode ≠ .offline →
        Run system client.fresh history last →
        PostsInOrder history := by
  intro inOrder
  have observed :
      (trace? .ofTwo .failing ClientAction.overtaken).map (fun (_, history, _) =>
          ((handed history).map (·.1), (posts history).map (·.1))) =
        some ([1, 1, 2], [2, 1]) := by
    decide +kernel
  obtain ⟨⟨client, history, last⟩, traced, seen⟩ := Option.map_eq_some_iff.mp observed
  obtain ⟨handedOut, posted⟩ := Prod.mk.inj seen
  obtain ⟨created, run⟩ := run_of_trace? traced
  have ordered : ((handed history).map (·.1)).Pairwise fun one other =>
      one ≠ other → PostsBefore history one other :=
    List.pairwise_map.mpr (inOrder created (by decide) run)
  rw [handedOut] at ordered
  have before : PostsBefore history 1 2 :=
    (List.pairwise_cons.mp ordered).1 2 (by decide) (by decide)
  simp only [PostsBefore, posted] at before
  exact absurd (before (by decide) (by decide)) (by decide)

end FeatureFlags
