import FeatureFlags.Proofs.Client.Consulting
import FeatureFlags.Proofs.Client.Delivery

namespace FeatureFlags

/-!
# Confinement of traffic

What a client requests, by its mode, whatever is called or read and whatever comes back. Offline
nothing is requested and nothing is kept for sending; only a client that evaluates definitions
itself downloads them; and only one that does not has the backend evaluate, once for each call.
-/

open FeatureFlags.Telemetry (Outbox)
open FeatureFlags.Transport (Exchange Sent)

/-! ## Offline -/

/-- The queue of a client that is offline stays as it is, or is taken. -/
private theorem ClientTask.Takes.outbox_cases_of_offline
    {now : Moment}
    {client : Client}
    {task : ClientTask}
    {turn : Turn Client ClientTask}
    (taken : task.Takes now client turn)
    (offline : client.settings.mode = .offline) :
    turn.shared.outbox = client.outbox ∨
    turn.shared.outbox = (client.outbox.drain now).1 := by
  cases taken with
  | definitionsLoopMoves | flushLoopMoves | callRefused | callEnters | callerUpdated
  | callerRequestsNothing | callerRefreshed =>
      exact .inl rfl
  | downloadGoes possible | downloadEnds possible | flushingGoes possible
  | flushingEnds possible | deliveryGoes possible | deliveryEnds possible
  | evaluatingGoes possible | callerFlushingGoes possible | callerFlushed possible =>
      obtain ⟨_, _, -, -, rfl⟩ := Client.exists_of_exchange? possible
      exact .inl rfl
  | evaluatingEnds possible =>
      obtain ⟨_, after, -, -, rfl⟩ := Client.exists_of_exchange? possible
      obtain ⟨_, _, shape⟩ := Client.exists_giveFrom { client with transport := some after } _ _
      rw [shape]
      exact .inl rfl
  | flushFindsNothing takes | flushTakes takes | callerDrainsNothing takes
  | callerDrains takes =>
      cases (Prod.mk.inj takes).1
      exact .inr rfl
  | callerUpdates | callerReports =>
      refine .inl ?_
      simp [Client.report, Client.enqueue, offline, Client.goTo]
  | callerResolves =>
      exact .inl (Client.IsQuiet.resolve (client.resolves now _)).kept.outbox
  | callerAsks | callerRequests =>
      refine .inl (Client.IsQuiet.askForDownload (client.asksForDownload _ _) ?_).kept.outbox
      exact fun _ => ⟨rfl, rfl, rfl, trivial⟩
  | callerDownloaded =>
      exact .inl (Client.IsQuiet.useSnapshot ⟨rfl, rfl, rfl, rfl⟩ _ _).kept.outbox
  | callerReported =>
      exact .inl (Client.IsQuiet.giveFrom ⟨rfl, rfl, rfl, rfl⟩ _ _).kept.outbox

/-- Nothing waits, and nothing has been accepted that is still remembered. -/
structure Telemetry.Outbox.IsUntouched (outbox : Outbox) : Prop where
  queue : outbox.queue = []
  accepted : outbox.accepted = .empty

/-- Where nothing waits, nothing can be taken. -/
private theorem Telemetry.Outbox.IsUntouched.drain
    {outbox : Outbox}
    (untouched : outbox.IsUntouched)
    (now : Moment) :
    (outbox.drain now).1.IsUntouched where
  queue := rfl
  accepted := by
    simp only [Outbox.drain, untouched.accepted]
    rfl

namespace Client

variable
  {settings : Settings}
  {surroundings : Surroundings}
  {client : Client}
  {history more : List ClientTransition}
  {configuration next middle last : Configuration Client ClientTask}
  {move : Move ClientAction}
  {place : Nat}

private theorem isUntouched_step
    (offline : configuration.shared.settings.mode = .offline)
    (moved : ClientMove configuration move next)
    (untouched : configuration.shared.outbox.IsUntouched) :
    next.shared.outbox.IsUntouched := by
  cases moved with
  | turn _ taken =>
      rcases taken.outbox_cases_of_offline offline with same | drained
      · exact same ▸ untouched
      · exact drained ▸ untouched.drain configuration.now
  | wait | call | idle | dispose =>
      exact untouched
  | report _ _ _ queued =>
      simp only [enqueue, offline] at queued
      cases queued
      exact untouched

/-- The queue of a client that is offline is never touched. -/
private theorem isUntouched_of_run
    (created : create settings surroundings = .ok client)
    (offline : settings.mode = .offline)
    (run : Run system client.fresh history last) :
    last.shared.outbox.IsUntouched := by
  induction run with
  | start =>
      obtain ⟨_, -, rfl⟩ := eq_of_create created
      exact ⟨rfl, rfl⟩
  | step run possible inductionHypothesis =>
      have kept := (IsEquipped.of_run created run).kept
      have mode := congrArg (fun equipment => equipment.settings.mode) kept
      exact isUntouched_step (mode.trans offline) (.of_after? possible) inductionHypothesis

/-- Whoever requests a download offline is told that there was none. -/
private theorem refreshed_of_offline
    (created : create settings surroundings = .ok client)
    (offline : settings.mode = .offline)
    (runBefore : Run system client.fresh history middle)
    (run : Run system middle more last)
    (found : middle.task? place = some (.caller .requesting)) :
    last.task? place = some (.caller .requesting) ∨
    last.task? place = some (.caller (.answered (.ok (.refreshed false)))) := by
  have notLocal : settings.mode ≠ .localEvaluation := by
    simp [offline]
  induction run with
  | start =>
      exact .inl found
  | step run possible inductionHypothesis =>
      have before := IsEquipped.of_run created (runBefore.append run)
      have after := before.step (.of_after? possible)
      rcases inductionHypothesis with requesting | answered
      · rcases proceeds_of_after? before possible requesting with
          same | ⟨reached, -, left, proceeds⟩
        · exact .inl same
        · cases proceeds with
          | requestsNothing =>
              exact .inr left
          | shut _ present =>
              exact absurd (before.mode_of_definitions present) notLocal
          | requests present =>
              exact absurd (after.mode_of_definitions present) notLocal
          | evaluates isQuery =>
              rcases isQuery with same | ⟨_, same⟩ <;> cases same
      · rcases proceeds_of_after? before possible answered with same | ⟨_, -, -, proceeds⟩
        · exact .inr same
        · cases proceeds with
          | shut looks =>
              cases looks
          | evaluates isQuery =>
              rcases isQuery with same | ⟨_, same⟩ <;> cases same

/-! ## By the mode -/

/-- Whatever has been sent is a download or an evaluation, if the mode is right, or a post. -/
private theorem kind_of_mem_sends
    {first : Transport}
    {sent : Sent}
    (created : create settings surroundings = .ok client)
    (online : settings.mode ≠ .offline)
    (present : client.transport = some first)
    (run : Run system client.fresh history last)
    (member : (place, sent) ∈ sends history) :
    (settings.mode = .localEvaluation ∧ sent.Is first.definitionsRequest) ∨
    (settings.mode = .remoteEvaluation ∧ ∃ fields, sent.Is (first.evaluationsRequest fields)) ∨
    ∃ batch, sent.Carries first batch := by
  obtain ⟨earlier, before, task, exchange, runBefore, found, drives, is⟩ :=
    exists_of_mem_sends created online present run member
  have equipped := (IsEquipped.of_run created runBefore).tasks found
  have requests := requestsOwn_of_run created online present runBefore _ _ found
  rcases requests.cases drives with ⟨_, rfl, request⟩ | ⟨query, rfl, request⟩ | delivers
  · exact .inl ⟨eq_of_beq equipped.1, request ▸ is⟩
  · exact .inr (.inl ⟨equipped.1, query.fields, request ▸ is⟩)
  · exact .inr (.inr (is.exists_carries delivers))

end Client

/-- Whether a task has to do with definitions, or with what they were evaluated to. -/
def ClientTask.usesDefinitions : ClientTask → Bool
  | .definitionsLoop _ => true
  | .download _ _ => true
  | .caller (.asking _) => true
  | .caller (.downloading _ _) => true
  | .caller (.reporting _ _ _) => true
  | .caller (.refreshing _) => true
  | _ => false

/-- Only a client that evaluates definitions itself has tasks that have to do with them. -/
private theorem ClientTask.IsEquipped.mode_of_usesDefinitions
    {settings : Settings}
    {surroundings : Surroundings}
    {task : ClientTask}
    (equipped : task.IsEquipped (.of settings surroundings))
    (uses : task.usesDefinitions = true) :
    settings.mode = .localEvaluation := by
  unfold usesDefinitions at uses
  split at uses
  · exact eq_of_beq equipped
  · exact eq_of_beq equipped.1
  · exact equipped.1
  · exact equipped.1
  · exact equipped
  · exact eq_of_beq equipped
  · cases uses

/-- A post is no request for anything. -/
private theorem Transport.Sent.Carries.isPost
    {transport : Transport}
    {sent : Sent}
    {batch : Client.Batch}
    (carries : sent.Carries transport batch) :
    sent.endpoint.method = .post := by
  cases carries with
  | event endpoint | bulk _ _ endpoint =>
      rw [endpoint]
      rfl

/-- Nothing is requested, kept or downloaded. -/
structure Client.StaysOffline
    (history : List ClientTransition)
    (last : Configuration Client ClientTask) :
    Prop where
  disconnected : last.shared.transport = none
  unsent : last.shared.sent = []
  queue : last.shared.outbox.queue = []
  accepted : last.shared.outbox.accepted = .empty
  /-- Whoever may request a download is told that there was none. -/
  refreshed :
    ∀ {place answer},
      LetsIn history place .refresh →
      last.task? place = some (.caller (.answered answer)) →
      answer = .ok (.refreshed false)

/-- Definitions are requested, and messages are posted, but nothing is evaluated elsewhere. -/
structure Client.RequestsLocally
    (transport : Transport)
    (last : Configuration Client ClientTask) :
    Prop where
  requests :
    ∀ sent ∈ last.shared.sent,
      sent.Is transport.definitionsRequest ∨ ∃ batch, sent.Carries transport batch
  neverEvaluations : ∀ sent ∈ last.shared.sent, sent.endpoint ≠ .evaluations

/-- Evaluations are requested once for each call, and messages are posted. -/
structure Client.RequestsRemotely
    (transport : Transport)
    (history : List ClientTransition)
    (last : Configuration Client ClientTask) :
    Prop where
  requests :
    ∀ sent ∈ last.shared.sent,
      (∃ fields, sent.Is (transport.evaluationsRequest fields)) ∨
      ∃ batch, sent.Carries transport batch
  neverDefinitions : ∀ sent ∈ last.shared.sent, sent.endpoint ≠ .definitions
  /-- There are no definitions, and nobody evaluates any. -/
  undefined : last.shared.definitions = none
  unevaluated :
    ∀ {place task},
      last.task? place = some task →
      task.usesDefinitions = false
  /-- All evaluations are requested by tasks. -/
  evaluations_eq :
    last.shared.sent.filter (·.endpoint = .evaluations) = (evaluations history).map (·.2)
  /-- Whoever requests an evaluation does so for a call that has been let in. -/
  requested :
    ∀ {place sent},
      (place, sent) ∈ evaluations history →
      ∃ call query,
        LetsIn history place call ∧
          call.query? = some query ∧
          sent.Is (transport.evaluationsRequest query.fields)
  /-- No call has two evaluations requested. -/
  once : ((evaluations history).map (·.1)).Nodup
  /-- A call that was let in has had one requested when it is answered, unless it could not be. -/
  answered :
    ∀ {place call query answer},
      LetsIn history place call →
      call.query? = some query →
      last.task? place = some (.caller (.answered answer)) →
      ((evaluations history).map (·.1)).count place = 1 ∨
      last.shared.disposed = true ∨
      ∃ fault, (transport.evaluationsRequest query.fields).address = .error fault

/-- What a client requests is confined by its mode. -/
structure Client.ConfinesTraffic
    (client : Client)
    (history : List ClientTransition)
    (last : Configuration Client ClientTask) :
    Prop where
  offline : client.settings.mode = .offline → StaysOffline history last
  localEvaluation :
    client.settings.mode = .localEvaluation →
    ∃ transport, client.transport = some transport ∧ RequestsLocally transport last
  remoteEvaluation :
    client.settings.mode = .remoteEvaluation →
    ∃ transport, client.transport = some transport ∧ RequestsRemotely transport history last

namespace Client

variable
  {settings : Settings}
  {surroundings : Surroundings}
  {client : Client}
  {history : List ClientTransition}
  {last : Configuration Client ClientTask}

private theorem staysOffline_of_run
    (created : create settings surroundings = .ok client)
    (offline : settings.mode = .offline)
    (run : Run system client.fresh history last) :
    StaysOffline history last := by
  have equipped := IsEquipped.of_run created run
  have disconnected : last.shared.transport = none := by
    have hasTransport := congrArg Equipment.hasTransport equipped.kept
    simpa [equipment, Equipment.of, offline] using hasTransport
  have untouched := isUntouched_of_run created offline run
  constructor
  case disconnected =>
    exact disconnected
  case unsent =>
    simp [sent, disconnected]
  case queue =>
    exact untouched.queue
  case accepted =>
    exact untouched.accepted
  case refreshed =>
    intro place answer letsIn answered
    obtain ⟨earlier, middle, later, rfl, runBefore, runLater, entry⟩ :=
      exists_entry_of_letsIn run letsIn
    rcases refreshed_of_offline created offline runBefore runLater entry with
      requesting | refreshed
    · cases requesting.symm.trans answered
    · cases refreshed.symm.trans answered
      rfl

private theorem requestsLocally_of_run
    {transport : Transport}
    (created : create settings surroundings = .ok client)
    (isLocal : settings.mode = .localEvaluation)
    (present : client.transport = some transport)
    (run : Run system client.fresh history last) :
    RequestsLocally transport last := by
  have online : settings.mode ≠ .offline := by simp [isLocal]
  have trades : Trades transport settings history last := .of_run created online present run
  have requests :
      ∀ sent ∈ last.shared.sent,
        sent.Is transport.definitionsRequest ∨ ∃ batch, sent.Carries transport batch := by
    intro sent member
    rw [trades.sent_eq] at member
    obtain ⟨⟨place, _⟩, sends, rfl⟩ := List.mem_map.mp member
    rcases kind_of_mem_sends created online present run sends with
      ⟨-, download⟩ | ⟨isRemote, -⟩ | post
    · exact .inl download
    · cases isLocal.symm.trans isRemote
    · exact .inr post
  refine ⟨requests, ?_⟩
  intro sent member isEvaluation
  rcases requests sent member with download | ⟨batch, carries⟩
  · cases isEvaluation.symm.trans download.endpoint
  · have isPost := carries.isPost
    rw [isEvaluation] at isPost
    cases isPost

private theorem requestsRemotely_of_run
    {transport : Transport}
    (created : create settings surroundings = .ok client)
    (isRemote : settings.mode = .remoteEvaluation)
    (present : client.transport = some transport)
    (run : Run system client.fresh history last) :
    RequestsRemotely transport history last := by
  have online : settings.mode ≠ .offline := by simp [isRemote]
  have notLocal : settings.mode ≠ .localEvaluation := by simp [isRemote]
  have equipped := IsEquipped.of_run created run
  have trades : Trades transport settings history last := .of_run created online present run
  have consults := ConsultsOnce.of_run created online present run
  have requests :
      ∀ sent ∈ last.shared.sent,
        (∃ fields, sent.Is (transport.evaluationsRequest fields)) ∨
        ∃ batch, sent.Carries transport batch := by
    intro sent member
    rw [trades.sent_eq] at member
    obtain ⟨⟨place, _⟩, sends, rfl⟩ := List.mem_map.mp member
    rcases kind_of_mem_sends created online present run sends with
      ⟨isLocal, -⟩ | ⟨-, evaluation⟩ | post
    · exact absurd isLocal notLocal
    · exact .inl evaluation
    · exact .inr post
  constructor
  case requests =>
    exact requests
  case neverDefinitions =>
    intro sent member isDownload
    rcases requests sent member with ⟨fields, evaluation⟩ | ⟨batch, carries⟩
    · cases isDownload.symm.trans evaluation.endpoint
    · have isPost := carries.isPost
      rw [isDownload] at isPost
      cases isPost
  case undefined =>
    cases there : last.shared.definitions with
    | none =>
        rfl
    | some ticker =>
        exact absurd (equipped.mode_of_definitions there) notLocal
  case unevaluated =>
    intro place task found
    cases uses : task.usesDefinitions with
    | false =>
        rfl
    | true =>
        exact absurd ((equipped.tasks found).mode_of_usesDefinitions uses) notLocal
  case evaluations_eq =>
    rw [trades.sent_eq, evaluations_eq, List.filter_map]
    rfl
  case requested =>
    intro place sent member
    exact exists_letsIn_of_evaluations created online present run member
  case once =>
    exact consults.once
  case answered =>
    intro place call query answer letsIn asks answered
    rcases consulted_of_letsIn created isRemote present run letsIn asks answered with
      asked | excused
    · exact .inl (List.count_eq_one_of_mem consults.once asked)
    · exact .inr excused

end Client

/-! ## A client without a valid address -/

/-- The call that a transition lets in at a place, if it does. -/
def ClientTransition.letsIn?
    (place : Nat)
    (transition : ClientTransition) :
    Option Call :=
  match transition.move, transition.before.task? place with
  | .turn mover, some (.caller (.begun call)) =>
      if mover = place ∧ transition.before.shared.disposed = false then some call else none
  | _, _ => none

/-- Every call for features that is let in has one evaluation requested before it is answered. -/
def Client.ConsultsForEach
    (history : List ClientTransition)
    (last : Configuration Client ClientTask) :
    Prop :=
  ∀ {place call query answer},
    LetsIn history place call →
    call.query? = some query →
    last.task? place = some (.caller (.answered answer)) →
    ((evaluations history).map (·.1)).count place = 1

/-- A client whose requests have no valid addresses. -/
def Settings.misaddressed : Settings :=
  { Settings.ofTwo with baseUrl := "http://h " }

namespace Client

/-- A call that is let in at a place is let in there. -/
private theorem letsIn_of_letsIn?
    {history : List ClientTransition}
    {place : Nat}
    {call : Call}
    (member : call ∈ history.filterMap (ClientTransition.letsIn? place)) :
    LetsIn history place call := by
  obtain ⟨enters, entersMember, lets⟩ := List.mem_filterMap.mp member
  unfold ClientTransition.letsIn? at lets
  split at lets
  · split at lets
    · rename_i turns found isOpen
      cases lets
      exact ⟨enters, entersMember, isOpen.1 ▸ turns, found, isOpen.2⟩
    · cases lets
  · cases lets

/-- Whoever has got an answer is answered. -/
private theorem answered_of_answer?
    {last : Configuration Client ClientTask}
    {place : Nat}
    {answer : Except Failure Answer}
    (has : (last.task? place).bind ClientTask.answer? = some answer) :
    last.task? place = some (.caller (.answered answer)) := by
  obtain ⟨task, found, answers⟩ := Option.bind_eq_some_iff.mp has
  unfold ClientTask.answer? at answers
  split at answers
  · cases answers
    exact found
  · cases answers

end Client

end FeatureFlags
