import FeatureFlags.Proofs.Client.Carriers

namespace FeatureFlags

/-!
# Changes of a client

What every move of a client does to its tasks, to its transport and to what has been sent:
places are never given up, tasks stay routed, and requests are sent in turns only.
-/

open Client (dispatching? MayDrainAt)

namespace ClientTask.Works

/-- A turn only adds to what has been sent. -/
theorem sent_grows
    {now : Moment}
    {client : Client}
    {transport : Transport}
    {task : ClientTask}
    {turn : Turn Client ClientTask}
    (works : task.Works now client transport turn)
    (found : client.transport = some transport) :
    client.sent <+: turn.shared.sent := by
  have same (kept : turn.shared.transport = client.transport) :
      client.sent <+: turn.shared.sent := by
    simp [Client.sent, kept]
  cases works with
  | rests _ _ quiet =>
      exact same quiet.kept.transport
  | enters _ isDraining =>
      subst isDraining
      exact same rfl
  | offers _ kept | drains _ kept =>
      exact same kept.transport
  | exchanges _ moves kept =>
      simp only [Client.sent, kept.transport, found, Option.map_some, Option.getD_some]
      rcases moves.sent_cases with unchanged | ⟨_, _, -, -, -, added⟩
      · simp [unchanged]
      · rw [added]
        exact List.prefix_append _ _

end ClientTask.Works

namespace ClientMove

variable
  {first : Transport}
  {configuration next : Configuration Client ClientTask}
  {move : Move ClientAction}
  {place : Nat}
  {task : ClientTask}

/-- A task was there before, or comes from a turn of its place, or is new. -/
theorem task?_cases
    (moved : ClientMove configuration move next)
    (connected : configuration.shared.IsConnected first)
    (found : next.task? place = some task) :
    configuration.task? place = some task ∨
    (∃ before transport turn,
      move = .turn place ∧
        configuration.task? place = some before ∧
        before.Works configuration.now configuration.shared transport turn ∧
        turn.task = some task) ∨
    configuration.tasks.length ≤ place ∧ task.IsNew := by
  obtain ⟨transport, present, -, -⟩ := connected.connected
  cases moved with
  | turn present taken =>
      have works := taken.works connected.online ‹_›
      rw [Configuration.task?_update present] at found
      split at found
      · rename_i same
        subst same
        exact .inr (.inl ⟨_, _, _, rfl, present, works, found⟩)
      · split at found
        · exact .inl found
        · rename_i beyond
          have new := works.isNew_of_begun (List.mem_of_getElem? found)
          exact .inr (.inr ⟨Nat.not_lt.mp beyond, new⟩)
  | wait | idle | dispose =>
      exact .inl found
  | call =>
      rename_i called
      have appended :=
        Configuration.task?_append configuration [ClientTask.caller (.begun called)]
          configuration.now configuration.shared place
      simp only [List.map_cons, List.map_nil] at appended
      rw [appended] at found
      split at found
      · exact .inl found
      · rename_i beyond
        have new := List.mem_singleton.mp (List.mem_of_getElem? found)
        exact .inr (.inr ⟨Nat.not_lt.mp beyond, new ▸ ⟨trivial, rfl⟩⟩)
  | report _ _ _ queued =>
      obtain ⟨-, begun⟩ := Client.KeepsTrafficOf.of_enqueue connected.online present queued
      rw [begun, Configuration.task?_append] at found
      split at found
      · exact .inl found
      · rename_i beyond
        have new := ClientTask.IsNew.ofRequest (List.mem_of_getElem? found)
        exact .inr (.inr ⟨Nat.not_lt.mp beyond, new⟩)

/-- A client stays connected, and its disposal is final. -/
theorem connected_step
    (moved : ClientMove configuration move next)
    (connected : configuration.shared.IsConnected first) :
    next.shared.IsConnected first ∧
      (configuration.shared.disposed = true → next.shared.disposed = true) := by
  obtain ⟨transport, present, leads, cancelled⟩ := connected.connected
  cases moved with
  | turn _ taken =>
      have works := taken.works connected.online present
      obtain ⟨settings, disposed⟩ := works.kept
      obtain ⟨after, found, sameLead, sameCancelled⟩ := works.transport_kept present
      refine ⟨⟨?_, after, found, sameLead.trans leads, ?_⟩, disposed.trans⟩
      · simpa [Configuration.update, settings] using connected.online
      · exact sameCancelled.trans (cancelled.trans disposed.symm)
  | wait | call | idle =>
      exact ⟨connected, id⟩
  | report _ _ _ queued =>
      obtain ⟨kept, -⟩ := Client.KeepsTrafficOf.of_enqueue connected.online present queued
      refine ⟨⟨?_, transport, kept.transport.trans present, leads, ?_⟩, kept.disposed.trans⟩
      · simpa [kept.settings] using connected.online
      · exact cancelled.trans kept.disposed.symm
  | dispose =>
      refine ⟨⟨connected.online, transport.cancel, ?_, leads, rfl⟩, fun _ => rfl⟩
      simp [Client.dispose, present]

/-- No place is ever given up. -/
theorem length_le (moved : ClientMove configuration move next) :
    configuration.tasks.length ≤ next.tasks.length := by
  cases moved with
  | turn =>
      rw [Configuration.length_update]
      exact Nat.le_add_right _ _
  | wait | idle | dispose =>
      exact Nat.le_refl _
  | call | report =>
      rw [List.length_append]
      exact Nat.le_add_right _ _

/-- Tasks stay routed. -/
theorem routed_step
    (moved : ClientMove configuration move next)
    (connected : configuration.shared.IsConnected first)
    (routed : ∀ {place task}, configuration.task? place = some task → task.IsRouted)
    (found : next.task? place = some task) :
    task.IsRouted := by
  rcases moved.task?_cases connected found with
    before | ⟨_, _, _, -, present, works, leaves⟩ | ⟨-, new⟩
  · exact routed before
  · exact works.routed (routed present) leaves
  · exact new.routed

/-- Whoever takes the queue some time was there to do so before, or is new. -/
theorem mayDrainAt_cases
    (moved : ClientMove configuration move next)
    (connected : configuration.shared.IsConnected first)
    (drains : MayDrainAt next place) :
    MayDrainAt configuration place ∨ configuration.tasks.length ≤ place := by
  obtain ⟨task, found, mayDrain⟩ := drains
  rcases moved.task?_cases connected found with
    before | ⟨_, _, _, -, present, works, leaves⟩ | ⟨beyond, -⟩
  · exact .inl ⟨task, before, mayDrain⟩
  · cases works with
    | rests _ _ quiet =>
        simp [(quiet.silent leaves).drain] at mayDrain
    | enters isBegun =>
        subst isBegun
        exact .inl ⟨_, present, rfl⟩
    | offers _ _ leavesSilent silent =>
        obtain rfl := Option.some.inj (leavesSilent.symm.trans leaves)
        simp [silent.drain] at mayDrain
    | drains _ _ _ idle =>
        simp [(idle leaves).1] at mayDrain
    | exchanges _ _ _ _ idle =>
        simp [(idle leaves).1] at mayDrain
  · exact .inr beyond

/-- Whoever is told that what was queued has been sent has sent it, or found nothing to send. -/
theorem isFlushed_cases
    (moved : ClientMove configuration move next)
    (connected : configuration.shared.IsConnected first)
    (found : next.task? place = some task)
    (flushed : task.isFlushed = true) :
    configuration.task? place = some task ∨
    (∃ batch, ClientTransition.carrier? ⟨configuration, move, next⟩ = some (place, batch)) ∨
    ∃ exchange, dispatching? configuration place = some exchange := by
  rcases moved.task?_cases connected found with
    before | ⟨_, _, _, rfl, present, works, leaves⟩ | ⟨-, new⟩
  · exact .inl before
  · cases works with
    | rests _ _ quiet =>
        simp [(quiet.silent leaves).flush] at flushed
    | enters _ isDraining =>
        subst isDraining
        cases leaves
        cases flushed
    | offers _ _ leavesSilent silent =>
        obtain rfl := Option.some.inj (leavesSilent.symm.trans leaves)
        simp [silent.flush] at flushed
    | drains calls =>
        have stepped := ClientTransition.outboxStep?_of_turn present next
        rw [calls] at stepped
        exact .inr (.inl ⟨_, ClientTransition.carrier?_of_take rfl stepped⟩)
    | exchanges _ _ _ _ idle =>
        -- Only an exchange of messages ends by telling its caller that they were sent.
        have sends := (idle leaves).2.1 flushed
        exact .inr (.inr ⟨_, Option.bind_eq_some_iff.mpr ⟨_, present, sends⟩⟩)
  · simp [new.unflushed] at flushed

/-- Time does not run backwards. -/
theorem now_le (moved : ClientMove configuration move next) :
    configuration.now ≤ next.now := by
  cases moved with
  | turn | call | idle | report | dispose =>
      exact Nat.le_refl _
  | wait =>
      exact Nat.le_add_right _ _

/-- All requests are sent by tasks. -/
theorem sent_step
    (moved : ClientMove configuration move next)
    (connected : configuration.shared.IsConnected first) :
    next.shared.sent =
      configuration.shared.sent ++
        (ClientTransition.sends ⟨configuration, move, next⟩).map (·.2) := by
  obtain ⟨transport, present, -, -⟩ := connected.connected
  cases moved with
  | turn _ taken =>
      have grows := (taken.works connected.online present).sent_grows present
      have shape := List.prefix_iff_eq_append.mp grows
      simpa [ClientTransition.sends, Configuration.update, Function.comp_def] using shape.symm
  | wait | call | idle =>
      simp [ClientTransition.sends]
  | report _ _ _ queued =>
      obtain ⟨kept, -⟩ := Client.KeepsTrafficOf.of_enqueue connected.online present queued
      simp [ClientTransition.sends, Client.sent, kept.transport]
  | dispose =>
      simp [ClientTransition.sends, Client.sent, Client.dispose, present, Transport.cancel]

end ClientMove

end FeatureFlags
