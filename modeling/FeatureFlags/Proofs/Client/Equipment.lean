import FeatureFlags.Proofs.Client.Moves
import FeatureFlags.Proofs.Client.Operations

namespace FeatureFlags

/-!
# Equipment of a client

What a client has from its creation on, in every mode: its settings, its clock, and whether
there is a transport and which tickers there are. No move changes that, and every task finds
what it needs.
-/

open FeatureFlags.Feature (Evaluated Prepared)
open FeatureFlags.Telemetry (Message)
open FeatureFlags.Transport (Exchange Progress Request)

/-! ## Equipment -/

/-- What a client has for good. -/
structure Client.Equipment where
  settings : Settings
  wallClock : Moment → Time.Instant
  hasTransport : Bool
  hasDefinitions : Bool
  hasFlushes : Bool

/-- The equipment of a client. -/
def Client.equipment (client : Client) : Equipment where
  settings := client.settings
  wallClock := client.wallClock
  hasTransport := client.transport.isSome
  hasDefinitions := client.definitions.isSome
  hasFlushes := client.flushes.isSome

/-- The equipment that a client is created with. -/
def Client.Equipment.of
    (settings : Settings)
    (surroundings : Surroundings) :
    Equipment where
  settings := settings
  wallClock := surroundings.wallClock
  hasTransport := settings.mode != .offline
  hasDefinitions := settings.mode == .localEvaluation
  hasFlushes := settings.mode != .offline

/-- Whether a task finds what it needs. -/
def ClientTask.IsEquipped (equipment : Client.Equipment) : ClientTask → Prop
  | .definitionsLoop _ => equipment.hasDefinitions = true
  | .flushLoop _ => equipment.hasFlushes = true
  | .download _ _ => equipment.hasDefinitions = true ∧ equipment.hasTransport = true
  | .flush _ => equipment.hasFlushes = true
  | .flushing _ _ => equipment.hasFlushes = true ∧ equipment.hasTransport = true
  | .delivery _ => equipment.hasTransport = true
  | .caller (.asking _) =>
      equipment.settings.mode = .localEvaluation ∧ equipment.hasDefinitions = true
  | .caller (.downloading _ _) =>
      equipment.settings.mode = .localEvaluation ∧ equipment.hasDefinitions = true
  | .caller (.reporting _ _ _) => equipment.settings.mode = .localEvaluation
  | .caller (.evaluating _ _) =>
      equipment.settings.mode = .remoteEvaluation ∧ equipment.hasTransport = true
  | .caller (.flushing _) => equipment.hasTransport = true
  | .caller (.refreshing _) => equipment.hasDefinitions = true
  | _ => True

/-- A task that drives an exchange finds a transport. -/
theorem ClientTask.IsEquipped.hasTransport
    {equipment : Client.Equipment}
    {task : ClientTask}
    {exchange : Exchange}
    (equipped : task.IsEquipped equipment)
    (drives : task.exchange? = some exchange) :
    equipment.hasTransport = true := by
  unfold exchange? at drives
  split at drives
  · exact equipped.2
  · exact equipped.2
  · exact equipped
  · exact equipped.2
  · exact equipped
  · cases drives

/-- Two states of a client have the same equipment, and both have been disposed or neither. -/
structure Client.Resembles (used client : Client) : Prop where
  equipment : used.equipment = client.equipment
  disposed : used.disposed = client.disposed

/-- A turn keeps the equipment, and leaves and begins tasks that find what they need. -/
structure Client.Equips
    (client : Client)
    (turn : Turn Client ClientTask) :
    Prop where
  kept : turn.shared.Resembles client
  left : ∀ {left}, turn.task = some left → left.IsEquipped client.equipment
  begun : ∀ {new}, new ∈ turn.begun → new.IsEquipped client.equipment
  /-- Callers come from outside only. -/
  background : ∀ {new}, new ∈ turn.begun → ∀ stage, new ≠ .caller stage

namespace Client.Equips

variable {now : Moment} {client used : Client}

private theorem goTo
    {stage : CallStage}
    (kept : used.Resembles client)
    (equipped : (ClientTask.caller stage).IsEquipped client.equipment) :
    client.Equips (used.goTo stage []) where
  kept := kept
  left := by
    rintro left ⟨⟩
    exact equipped
  begun := nofun
  background := nofun

private theorem giveFrom
    (kept : used.Resembles client)
    (query : Query)
    (base : Table Evaluated) :
    client.Equips (used.giveFrom query base) := by
  obtain ⟨consultations, warnings, shape⟩ := used.exists_giveFrom query base
  rw [shape]
  exact goTo ⟨kept.equipment, kept.disposed⟩ trivial

private theorem report
    (message : Message)
    {stage : CallStage}
    (equipped : (ClientTask.caller stage).IsEquipped client.equipment) :
    client.Equips (client.report now message stage) := by
  obtain ⟨outbox, batches, shape⟩ := client.exists_report now message stage
  rw [shape]
  refine ⟨⟨rfl, rfl⟩, ?_, ?_, ?_⟩
  · rintro left ⟨⟩
    exact equipped
  · intro new begins
    obtain ⟨transport, request, found, rfl⟩ := exists_of_mem_deliveries begins
    exact congrArg Option.isSome found
  · rintro new begins stage rfl
    obtain ⟨transport, request, found, same⟩ := exists_of_mem_deliveries begins
    cases same

private theorem useSnapshot
    (kept : used.Resembles client)
    (isLocal : client.settings.mode = .localEvaluation)
    (query : Query)
    (snapshot : Except Failure (Snapshot (List Prepared))) :
    client.Equips (used.useSnapshot now query snapshot) := by
  cases snapshot with
  | error failure =>
      exact goTo kept trivial
  | ok snapshot =>
      exact goTo ⟨kept.equipment, kept.disposed⟩ isLocal

private theorem askForDownload
    {turn : Turn Client ClientTask}
    {ticker : Ticker (List Prepared)}
    {waiting : Nat → CallStage}
    (asks : client.AsksForDownload ticker waiting turn)
    (present : client.definitions = some ticker)
    (equipped : ∀ refresh, (ClientTask.caller (waiting refresh)).IsEquipped client.equipment) :
    client.Equips turn := by
  have hasDefinitions : client.equipment.hasDefinitions = true :=
    congrArg Option.isSome present
  cases asks with
  | refused =>
      exact goTo ⟨rfl, rfl⟩ trivial
  | joins =>
      exact goTo ⟨by simp [Client.equipment, present], rfl⟩ (equipped _)
  | begins =>
      refine ⟨⟨by simp [Client.goTo, Client.equipment, present], rfl⟩, ?_, ?_, ?_⟩
      · rintro left ⟨⟩
        exact equipped _
      · intro new member
        rcases List.mem_append.mp member with download | loop
        · obtain ⟨transport, found, rfl⟩ :=
            Option.map_eq_some_iff.mp (Option.mem_toList.mp download)
          exact ⟨hasDefinitions, congrArg Option.isSome found⟩
        · cases List.mem_singleton.mp loop
          exact hasDefinitions
      · intro new member stage
        rcases List.mem_append.mp member with download | loop
        · obtain ⟨transport, found, rfl⟩ :=
            Option.map_eq_some_iff.mp (Option.mem_toList.mp download)
          exact nofun
        · cases List.mem_singleton.mp loop
          exact nofun

private theorem resolve
    {turn : Turn Client ClientTask}
    {query : Query}
    (resolves : client.Resolves now query turn) :
    client.Equips turn := by
  cases resolves with
  | misses isLocal present =>
      exact goTo ⟨rfl, rfl⟩ ⟨isLocal, congrArg Option.isSome present⟩
  | uses isLocal =>
      exact useSnapshot ⟨rfl, rfl⟩ isLocal query _
  | consults isRemote found =>
      exact goTo ⟨rfl, rfl⟩ ⟨isRemote, congrArg Option.isSome found⟩
  | concludes =>
      exact giveFrom ⟨rfl, rfl⟩ query .empty

private theorem endDownload
    (kept : used.Resembles client)
    (refresh : Nat)
    (result : Except Failure Transport.Content) :
    (used.endDownload now refresh result).Resembles client where
  equipment := by simpa [Client.endDownload, Client.equipment] using kept.equipment
  disposed := kept.disposed

private theorem endFlush
    (kept : used.Resembles client)
    (refresh : Nat)
    (succeeded : Bool) :
    (used.endFlush now refresh succeeded).Resembles client where
  equipment := by simpa [Client.endFlush, Client.equipment] using kept.equipment
  disposed := kept.disposed

private theorem exchanged
    {exchange : Exchange}
    {progress : Progress}
    (possible : client.exchange? now exchange = some (used, progress)) :
    used.Resembles client := by
  obtain ⟨transport, after, found, -, rfl⟩ := exists_of_exchange? possible
  exact ⟨by simp [Client.equipment, found], rfl⟩

end Client.Equips

open Client.Equips in
/-- Every turn of a task that finds what it needs keeps the equipment, and begins such tasks. -/
theorem ClientTask.Takes.equips
    {now : Moment}
    {client : Client}
    {task : ClientTask}
    {turn : Turn Client ClientTask}
    (taken : task.Takes now client turn)
    (equipped : task.IsEquipped client.equipment) :
    client.Equips turn := by
  cases taken with
  | definitionsLoopMoves found =>
      rename_i move
      refine ⟨⟨by simp [Client.equipment, found], rfl⟩, ?_, ?_, ?_⟩
      · intro left shape
        obtain ⟨loop, -, rfl⟩ := Option.map_eq_some_iff.mp shape
        exact equipped
      · intro new member
        obtain ⟨refresh, -, begun⟩ := Option.bind_eq_some_iff.mp (Option.mem_toList.mp member)
        obtain ⟨transport, present, rfl⟩ := Option.map_eq_some_iff.mp begun
        exact ⟨equipped, congrArg Option.isSome present⟩
      · intro new member stage
        obtain ⟨refresh, -, begun⟩ := Option.bind_eq_some_iff.mp (Option.mem_toList.mp member)
        obtain ⟨transport, -, rfl⟩ := Option.map_eq_some_iff.mp begun
        exact nofun
  | flushLoopMoves found =>
      refine ⟨⟨by simp [Client.equipment, found], rfl⟩, ?_, ?_, ?_⟩
      · intro left shape
        obtain ⟨loop, -, rfl⟩ := Option.map_eq_some_iff.mp shape
        exact equipped
      · intro new member
        obtain ⟨refresh, -, rfl⟩ := List.mem_map.mp member
        exact equipped
      · intro new member stage
        obtain ⟨refresh, -, rfl⟩ := List.mem_map.mp member
        exact nofun
  | downloadGoes possible | flushingGoes possible | deliveryGoes possible =>
      refine ⟨exchanged possible, ?_, nofun, nofun⟩
      rintro left ⟨⟩
      exact equipped
  | downloadEnds possible =>
      exact ⟨endDownload (exchanged possible) _ _, nofun, nofun, nofun⟩
  | flushingEnds possible =>
      exact ⟨endFlush (exchanged possible) _ _, nofun, nofun, nofun⟩
  | deliveryEnds possible =>
      exact ⟨exchanged possible, nofun, nofun, nofun⟩
  | flushFindsNothing takes =>
      obtain ⟨⟨outbox, rfl⟩, -⟩ := Client.exists_of_takeBatch takes
      exact ⟨endFlush (by exact ⟨rfl, rfl⟩) _ _, nofun, nofun, nofun⟩
  | flushTakes takes =>
      obtain ⟨⟨outbox, rfl⟩, sends⟩ := Client.exists_of_takeBatch takes
      obtain ⟨transport, found⟩ := sends rfl
      refine ⟨⟨rfl, rfl⟩, ?_, nofun, nofun⟩
      rintro left ⟨⟩
      exact ⟨equipped, congrArg Option.isSome found⟩
  | callRefused =>
      exact goTo ⟨rfl, rfl⟩ trivial
  | callEnters =>
      rename_i call _
      cases call <;> exact goTo ⟨rfl, rfl⟩ trivial
  | callerUpdates =>
      exact report _ trivial
  | callerUpdated =>
      exact goTo ⟨rfl, rfl⟩ trivial
  | callerResolves =>
      exact resolve (client.resolves now _)
  | callerAsks found =>
      exact askForDownload (client.asksForDownload _ _) found fun _ => equipped
  | callerDownloaded found =>
      exact useSnapshot (by exact ⟨by simp [Client.equipment, found], rfl⟩) equipped.1 _ _
  | callerReports =>
      exact report _ equipped
  | callerReported =>
      exact giveFrom ⟨rfl, rfl⟩ _ _
  | evaluatingGoes possible | callerFlushingGoes possible =>
      exact goTo (exchanged possible) equipped
  | evaluatingEnds possible =>
      exact giveFrom (exchanged possible) _ _
  | callerDrainsNothing takes =>
      obtain ⟨⟨outbox, rfl⟩, -⟩ := Client.exists_of_takeBatch takes
      exact goTo ⟨rfl, rfl⟩ trivial
  | callerDrains takes =>
      obtain ⟨⟨outbox, rfl⟩, sends⟩ := Client.exists_of_takeBatch takes
      obtain ⟨transport, found⟩ := sends rfl
      exact goTo ⟨rfl, rfl⟩ (congrArg Option.isSome found)
  | callerFlushed possible =>
      exact goTo (exchanged possible) trivial
  | callerRequestsNothing =>
      exact goTo ⟨rfl, rfl⟩ trivial
  | callerRequests found =>
      exact
        askForDownload (client.asksForDownload _ _) found fun _ =>
          congrArg Option.isSome found
  | callerRefreshed found =>
      exact goTo ⟨by simp [Client.equipment, found], rfl⟩ trivial

/-! ## Moves and runs -/

/-- A client keeps its equipment, and all its tasks find what they need. -/
structure Client.IsEquipped
    (equipment : Client.Equipment)
    (configuration : Configuration Client ClientTask) :
    Prop where
  kept : configuration.shared.equipment = equipment
  tasks : ∀ {place task}, configuration.task? place = some task → task.IsEquipped equipment

namespace Client.IsEquipped

variable
  {equipment : Client.Equipment}
  {configuration next : Configuration Client ClientTask}
  {move : Move ClientAction}

/-- Every move keeps the equipment. -/
theorem step
    (equipped : IsEquipped equipment configuration)
    (moved : ClientMove configuration move next) :
    IsEquipped equipment next := by
  have kept := equipped.kept
  cases moved with
  | turn found taken =>
      have equips := taken.equips (kept ▸ equipped.tasks found)
      refine ⟨equips.kept.equipment.trans kept, ?_⟩
      intro place task foundAfter
      rcases Configuration.task?_update_cases found foundAfter with
        ⟨-, leaves⟩ | ⟨-, before⟩ | begins
      · exact kept ▸ equips.left leaves
      · exact equipped.tasks before
      · exact kept ▸ equips.begun begins
  | wait | idle =>
      exact ⟨kept, equipped.tasks⟩
  | call =>
      refine ⟨kept, ?_⟩
      intro place task foundAfter
      rcases Configuration.task?_snoc_cases foundAfter with before | rfl
      · exact equipped.tasks before
      · trivial
  | report _ _ _ queued =>
      obtain ⟨outbox, rfl⟩ := Client.exists_of_enqueue queued
      refine ⟨kept, ?_⟩
      intro place task foundAfter
      rcases Configuration.task?_append_cases foundAfter with before | new
      · exact equipped.tasks (Option.join_eq_some_iff.mpr before)
      · obtain ⟨transport, request, found, rfl⟩ := Client.exists_of_mem_deliveries new
        exact (congrArg Client.Equipment.hasTransport kept).symm.trans
          (congrArg Option.isSome found)
  | dispose =>
      refine ⟨?_, equipped.tasks⟩
      rw [← kept]
      simp [Client.equipment, Client.dispose]

/-- A new client has what its mode demands. -/
private theorem equipment_of_create
    {settings : Settings}
    {surroundings : Surroundings}
    {client : Client}
    (created : create settings surroundings = .ok client) :
    client.equipment = .of settings surroundings := by
  obtain ⟨transport, made, rfl⟩ := eq_of_create created
  have hasTransport : transport.isSome = (settings.mode != .offline) := by
    unfold createTransport at made
    split at made
    · cases made
      simp [*]
    · cases started : Transport.create settings.baseUrl settings.secretKey
          settings.requestTimeout surroundings.backend with
      | error failure =>
          rw [started] at made
          cases made
      | ok first =>
          rw [started] at made
          cases made
          simpa using ‹settings.mode = .offline → False›
  cases mode : settings.mode <;>
    simp [Client.equipment, Equipment.of, createDefinitions, createFlushes, hasTransport, mode]

/-- A new client is equipped, with its loops. -/
private theorem of_create
    {settings : Settings}
    {surroundings : Surroundings}
    {client : Client}
    (created : create settings surroundings = .ok client) :
    IsEquipped (.of settings surroundings) client.fresh where
  kept := equipment_of_create created
  tasks := by
    intro place task found
    rw [← equipment_of_create created]
    have member : some task ∈ client.firstLoops.map some :=
      List.mem_of_getElem? (Option.join_eq_some_iff.mp found)
    obtain ⟨loop, begun, same⟩ := List.mem_map.mp member
    obtain rfl := Option.some.inj same
    rcases List.mem_append.mp begun with definitions | flushes
    · obtain ⟨_, present, rfl⟩ := Option.map_eq_some_iff.mp (Option.mem_toList.mp definitions)
      exact congrArg Option.isSome present
    · obtain ⟨_, present, rfl⟩ := Option.map_eq_some_iff.mp (Option.mem_toList.mp flushes)
      exact congrArg Option.isSome present

/-- A client is equipped as its mode demands wherever a run leads. -/
theorem of_run
    {settings : Settings}
    {surroundings : Surroundings}
    {client : Client}
    {history : List ClientTransition}
    (created : create settings surroundings = .ok client)
    (run : Run system client.fresh history configuration) :
    IsEquipped (.of settings surroundings) configuration := by
  induction run with
  | start =>
      exact of_create created
  | step _ possible inductionHypothesis =>
      exact inductionHypothesis.step (.of_after? possible)

/-- Only a client that evaluates definitions itself has any. -/
theorem mode_of_definitions
    {settings : Settings}
    {surroundings : Surroundings}
    {ticker : Ticker (List Prepared)}
    (equipped : IsEquipped (.of settings surroundings) configuration)
    (present : configuration.shared.definitions = some ticker) :
    settings.mode = .localEvaluation := by
  have hasDefinitions := congrArg Client.Equipment.hasDefinitions equipped.kept
  exact eq_of_beq (hasDefinitions.symm.trans (congrArg Option.isSome present))

/-- A client that is not offline has a transport. -/
theorem isSome_transport
    {settings : Settings}
    {surroundings : Surroundings}
    (equipped : IsEquipped (.of settings surroundings) configuration)
    (online : settings.mode ≠ .offline) :
    configuration.shared.transport.isSome = true := by
  have hasTransport := congrArg Client.Equipment.hasTransport equipped.kept
  exact hasTransport.trans (bne_iff_ne.mpr online)

end Client.IsEquipped

end FeatureFlags
