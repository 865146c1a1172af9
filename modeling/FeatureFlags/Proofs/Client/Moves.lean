import FeatureFlags.Proofs.Client.Turns

namespace FeatureFlags

/-!
# Moves of a client

What can be done to a client from outside, and the system in which that happens at any
moment between the turns of its tasks. A report from outside is an offer to the queue, or
nothing.
-/

open FeatureFlags.Telemetry (Message)

/-- What is done to a client from outside. -/
inductive ClientAction where
  | call (call : Call)
  | updateUser (user : User) (tracking : Tracking)
  | updateCompany (company : Company) (user : Option User) (tracking : Tracking)
  | track (event : Telemetry.Event)
  | isEnabled (handle : Handle)
  | config (handle : Handle)
  /-- The payload of a config is read; only whether that fails matters to the client. -/
  | configAs (reader : Json.Reader Unit) (handle : Handle)
  | trackFeature (handle : Handle)
  | dispose

namespace ClientAction

/-- The client after an action, and the batches that have to be sent. -/
def perform
    (now : Moment)
    (client : Client) :
    ClientAction → Client × List Client.Batch
  | .call _ => (client, [])
  | .updateUser user tracking =>
      let (used, batches, _) := client.updateUser now user tracking
      (used, batches)
  | .updateCompany company user tracking =>
      let (used, batches, _) := client.updateCompany now company user tracking
      (used, batches)
  | .track event =>
      let (used, batches, _) := client.track now event
      (used, batches)
  | .isEnabled handle =>
      let (used, batches, _) := client.isEnabled now handle
      (used, batches)
  | .config handle =>
      let (used, batches, _) := client.config now handle
      (used, batches)
  | .configAs reader handle =>
      let (used, batches, _) := client.configAs reader now handle
      (used, batches)
  | .trackFeature handle =>
      let (used, batches, _) := client.trackFeature now handle
      (used, batches)
  | .dispose => (client.dispose, [])

/-- The caller that an action brings in. -/
def caller? : ClientAction → Option ClientTask
  | .call begun => some (.caller (.begun begun))
  | _ => none

/-- The message that an action offers to a client that has not been disposed. -/
def message? : ClientAction → Option Message
  | .updateUser user tracking =>
      if tracking = .disabled then none else some (.ofUser user tracking)
  | .updateCompany company user tracking =>
      if tracking = .disabled then none else some (.ofCompany company user tracking)
  | .track event => some (.event event)
  | .isEnabled handle => some handle.checkReport
  | .config handle => some handle.configReport
  | .configAs _ handle => some handle.configReport
  | .trackFeature handle => handle.event?.map .event
  | .call _ => none
  | .dispose => none

/-- A disposed client is left as it is by every action but disposal. -/
private theorem perform_of_disposed
    (now : Moment)
    {client : Client}
    {action : ClientAction}
    (disposed : client.disposed = true)
    (noDisposal : action ≠ .dispose) :
    action.perform now client = (client, []) := by
  cases action with
  | dispose =>
      exact absurd rfl noDisposal
  | call =>
      rfl
  | updateUser | updateCompany | track | isEnabled | config | configAs | trackFeature =>
      simp [perform, Client.updateUser, Client.updateCompany, Client.track, Client.isEnabled,
        Client.config, Client.configAs, Client.trackFeature, Client.checkDisposed, disposed]

/-- Reading the payload of a config offers the same as reading the config. -/
private theorem perform_configAs
    (now : Moment)
    {client : Client}
    (reader : Json.Reader Unit)
    (handle : Handle)
    (notDisposed : client.disposed = false) :
    ∃ warnings,
      (configAs reader handle).perform now client =
        ({ (client.enqueue now handle.configReport).1 with warnings },
          (client.enqueue now handle.configReport).2) := by
  simp only [perform, Client.configAs, Client.config, Client.checkDisposed, notDisposed,
    Bool.false_eq_true, ↓reduceIte]
  cases handle.evaluated.config with
  | none =>
      exact ⟨_, rfl⟩
  | some config =>
      cases read : reader .parsed (.ofTree config.payload.toTree) with
      | ok payload =>
          exact ⟨(client.enqueue now handle.configReport).1.warnings, by simp [read]⟩
      | error fault =>
          exact ⟨_, by simp only [read]; rfl⟩

/-- An action other than disposal offers its message, if it has one; a warning may remain. -/
private theorem perform_of_not_disposed
    (now : Moment)
    {client : Client}
    {action : ClientAction}
    (notDisposed : client.disposed = false)
    (noDisposal : action ≠ .dispose) :
    (action.message? = none ∧ action.perform now client = (client, [])) ∨
    ∃ message warnings,
      action.message? = some message ∧
        action.perform now client =
          ({ (client.enqueue now message).1 with warnings }, (client.enqueue now message).2) := by
  cases action with
  | dispose =>
      exact absurd rfl noDisposal
  | call =>
      exact .inl ⟨rfl, rfl⟩
  | updateUser user tracking =>
      by_cases disabled : tracking = .disabled
      · refine .inl ⟨if_pos disabled, ?_⟩
        simp [perform, Client.updateUser, Client.checkDisposed, notDisposed, disabled]
      · refine .inr ⟨.ofUser user tracking, (client.enqueue now (.ofUser user tracking)).1.warnings,
          if_neg disabled, ?_⟩
        simp [perform, Client.updateUser, Client.checkDisposed, notDisposed, disabled]
  | updateCompany company user tracking =>
      by_cases disabled : tracking = .disabled
      · refine .inl ⟨if_pos disabled, ?_⟩
        simp [perform, Client.updateCompany, Client.checkDisposed, notDisposed, disabled]
      · refine .inr ⟨.ofCompany company user tracking,
          (client.enqueue now (.ofCompany company user tracking)).1.warnings,
          if_neg disabled, ?_⟩
        simp [perform, Client.updateCompany, Client.checkDisposed, notDisposed, disabled]
  | track event =>
      refine .inr ⟨.event event, (client.enqueue now (.event event)).1.warnings, rfl, ?_⟩
      simp [perform, Client.track, Client.checkDisposed, notDisposed]
  | isEnabled handle =>
      refine .inr ⟨handle.checkReport, (client.enqueue now handle.checkReport).1.warnings,
        rfl, ?_⟩
      simp [perform, Client.isEnabled, Client.checkDisposed, notDisposed]
  | config handle =>
      refine .inr ⟨handle.configReport, (client.enqueue now handle.configReport).1.warnings,
        rfl, ?_⟩
      simp [perform, Client.config, Client.checkDisposed, notDisposed]
  | configAs reader handle =>
      obtain ⟨warnings, performed⟩ := perform_configAs now reader handle notDisposed
      exact .inr ⟨handle.configReport, warnings, rfl, performed⟩
  | trackFeature handle =>
      cases named : handle.event? with
      | none =>
          refine .inl ⟨congrArg (Option.map _) named, ?_⟩
          simp [perform, Client.trackFeature, Client.checkDisposed, notDisposed, named]
      | some event =>
          refine .inr ⟨.event event, (client.enqueue now (.event event)).1.warnings,
            congrArg (Option.map _) named, ?_⟩
          simp [perform, Client.trackFeature, Client.checkDisposed, notDisposed, named]

/-- An action other than disposal does nothing, or offers its message; a warning may remain. -/
theorem perform_cases
    (now : Moment)
    {client : Client}
    {action : ClientAction}
    (noDisposal : action ≠ .dispose) :
    ((client.disposed = true ∨ action.message? = none) ∧
      action.perform now client = (client, [])) ∨
    ∃ message warnings,
      client.disposed = false ∧
        action.message? = some message ∧
        action.perform now client =
          ({ (client.enqueue now message).1 with warnings }, (client.enqueue now message).2) := by
  cases disposed : client.disposed with
  | true =>
      exact .inl ⟨.inl rfl, perform_of_disposed now disposed noDisposal⟩
  | false =>
      rcases perform_of_not_disposed now disposed noDisposal with
        ⟨silent, performed⟩ | ⟨message, warnings, offered, performed⟩
      · exact .inl ⟨.inr silent, performed⟩
      · exact .inr ⟨message, warnings, rfl, offered, performed⟩

end ClientAction

/-! ## The system -/

namespace Client

/-- The tasks of a client, with whatever is done to it from outside at any moment. -/
def system : System Client ClientTask ClientAction where
  behaviour := behaviour
  intervene now client action :=
    let (used, batches) := action.perform now client
    (used, action.caller?.toList ++ used.deliveries batches)

/-- Nothing has to be sent for no batches. -/
@[simp]
theorem deliveries_nil (client : Client) : client.deliveries [] = [] := by
  cases transport : client.transport <;> simp [deliveries, transport]

/-- A new client has not done anything yet. -/
theorem eq_of_create
    {settings : Settings}
    {surroundings : Surroundings}
    {client : Client}
    (created : create settings surroundings = .ok client) :
    ∃ transport,
      createTransport settings surroundings.backend = .ok transport ∧
        client =
          { settings
            wallClock := surroundings.wallClock
            transport
            definitions := createDefinitions settings
            flushes := createFlushes settings
            outbox := { capacity := settings.maxMessages, window := settings.rollingWindow } } := by
  unfold create at created
  split at created
  · cases made : createTransport settings surroundings.backend with
    | error failure =>
        rw [made] at created
        cases created
    | ok transport =>
        rw [made] at created
        cases created
        exact ⟨transport, rfl, rfl⟩
  · cases created

/-- A new client that is not offline has a transport that has not done anything yet. -/
theorem transport_of_create
    {settings : Settings}
    {surroundings : Surroundings}
    {client : Client}
    (created : create settings surroundings = .ok client)
    (online : settings.mode ≠ .offline) :
    ∃ transport,
      client.transport = some transport ∧
        transport.sent = [] ∧
        transport.cancelled = false := by
  obtain ⟨transport, made, rfl⟩ := eq_of_create created
  unfold createTransport at made
  split at made
  · contradiction
  · unfold Transport.create at made
    split at made
    · cases made
      exact ⟨_, rfl, rfl, rfl⟩
    · cases made

/-- A client with its loops, before anything has moved. -/
def fresh (client : Client) : Configuration Client ClientTask where
  shared := client
  tasks := client.firstLoops.map some

/-- Before anything has moved, there are loops only. -/
theorem isLoop_of_fresh
    {client : Client}
    {place : Nat}
    {task : ClientTask}
    (found : client.fresh.task? place = some task) :
    task = .definitionsLoop .first ∨ task = .flushLoop .first := by
  have member : some task ∈ client.firstLoops.map some :=
    List.mem_of_getElem? (Option.join_eq_some_iff.mp found)
  obtain ⟨loop, begun, same⟩ := List.mem_map.mp member
  obtain rfl := Option.some.inj same
  rcases List.mem_append.mp begun with definitions | flushes
  · obtain ⟨_, -, rfl⟩ := Option.map_eq_some_iff.mp (Option.mem_toList.mp definitions)
    exact .inl rfl
  · obtain ⟨_, -, rfl⟩ := Option.map_eq_some_iff.mp (Option.mem_toList.mp flushes)
    exact .inr rfl

end Client

/-- A caller that has just come has not been let in. -/
theorem Client.task?_of_call
    {configuration next : Configuration Client ClientTask}
    {call : Call}
    (possible : configuration.after? system (.intervene (.call call)) = some next) :
    next.task? configuration.tasks.length = some (.caller (.begun call)) := by
  cases possible
  simp [ClientAction.caller?, Configuration.task?]

/-- A move of the system of a client with what was before and after it. -/
abbrev ClientTransition := Transition Client ClientTask ClientAction

/-- The moves of the system of a client. -/
inductive ClientMove
    (configuration : Configuration Client ClientTask) :
    Move ClientAction → Configuration Client ClientTask → Prop where
  | turn
      {place : Nat}
      {task : ClientTask}
      {turn : Turn Client ClientTask} :
      configuration.task? place = some task →
      task.Takes configuration.now configuration.shared turn →
      ClientMove configuration (.turn place) (configuration.update place turn)
  | wait
      {duration : Nat} :
      ClientMove configuration
        (.wait duration)
        { configuration with now := configuration.now + duration }
  | call
      {begun : Call} :
      ClientMove configuration
        (.intervene (.call begun))
        { configuration with tasks := configuration.tasks ++ [some (.caller (.begun begun))] }
  /-- The client has been disposed, or there is nothing to report. -/
  | idle
      {action : ClientAction} :
      action.caller? = none →
      action ≠ .dispose →
      configuration.shared.disposed = true ∨ action.message? = none →
      ClientMove configuration (.intervene action) configuration
  | report
      {action : ClientAction}
      {message : Message}
      {queued : Client}
      {batches : List Client.Batch}
      {warnings : List LogRecord} :
      action.caller? = none →
      configuration.shared.disposed = false →
      action.message? = some message →
      configuration.shared.enqueue configuration.now message = (queued, batches) →
      ClientMove configuration
        (.intervene action)
        { configuration with
          shared := { queued with warnings }
          tasks := configuration.tasks ++ (queued.deliveries batches).map some }
  | dispose :
      ClientMove configuration
        (.intervene .dispose)
        { configuration with shared := configuration.shared.dispose }

namespace ClientMove

variable
  {configuration next : Configuration Client ClientTask}

/-- Actions are among the rules. -/
private theorem of_intervene
    {action : ClientAction}
    (possible : configuration.after? Client.system (.intervene action) = some next) :
    ClientMove configuration (.intervene action) next := by
  simp only [Configuration.after?, Client.system, Option.some.injEq] at possible
  subst next
  cases called : action.caller? with
  | some caller =>
      cases action with
      | call begun =>
          cases called
          simpa [ClientAction.perform, ClientAction.caller?] using ClientMove.call
      | updateUser | updateCompany | track | isEnabled | config | configAs | trackFeature
      | dispose =>
          cases called
  | none =>
      by_cases disposal : action = .dispose
      · subst disposal
        simpa [ClientAction.perform] using ClientMove.dispose
      · rcases ClientAction.perform_cases configuration.now disposal with
          ⟨silent, performed⟩ | ⟨message, warnings, notDisposed, offered, performed⟩
        · rw [performed]
          simpa using ClientMove.idle called disposal silent
        · rw [performed]
          exact .report called notDisposed offered rfl

/-- Every possible move is among the rules. -/
theorem of_after?
    {move : Move ClientAction}
    (possible : configuration.after? Client.system move = some next) :
    ClientMove configuration move next := by
  cases move with
  | turn place =>
      obtain ⟨task, turn, found, taken, rfl⟩ :=
        Configuration.after?_turn_eq_some_iff.mp possible
      exact .turn found (.of_turn taken)
  | wait duration =>
      cases possible
      exact .wait
  | intervene action =>
      exact of_intervene possible

end ClientMove

namespace Client

variable {settings : Settings} {surroundings : Surroundings} {moves : List (Move ClientAction)}

/-- A new client with the transitions of some moves, and where they lead. -/
def trace?
    (settings : Settings)
    (surroundings : Surroundings)
    (moves : List (Move ClientAction)) :
    Option (Client × List ClientTransition × Configuration Client ClientTask) :=
  match create settings surroundings with
  | .error _ => none
  | .ok client => (client.fresh.trace? system moves).map fun traced => (client, traced)

/-- The transitions of some moves of a new client are a run. -/
theorem run_of_trace?
    {client : Client}
    {history : List ClientTransition}
    {last : Configuration Client ClientTask}
    (traced : trace? settings surroundings moves = some (client, history, last)) :
    create settings surroundings = .ok client ∧ Run system client.fresh history last := by
  unfold trace? at traced
  split at traced
  · cases traced
  · rename_i created
    obtain ⟨_, found, same⟩ := Option.map_eq_some_iff.mp traced
    cases same
    exact ⟨created, .of_trace? found⟩

/-- The transitions of some moves of a new client are made by these moves. -/
theorem moves_of_trace?
    {client : Client}
    {history : List ClientTransition}
    {last : Configuration Client ClientTask}
    (traced : trace? settings surroundings moves = some (client, history, last)) :
    history.map (·.move) = moves := by
  unfold trace? at traced
  split at traced
  · cases traced
  · obtain ⟨_, found, same⟩ := Option.map_eq_some_iff.mp traced
    cases same
    exact Configuration.moves_of_trace? found

end Client

end FeatureFlags
