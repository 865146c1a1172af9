import FeatureFlags.Client.Task
import FeatureFlags.Proofs.Feature.Merging

namespace FeatureFlags

/-!
# Operations of a client

What a client does within the turns of its tasks, said once for each operation: what changes,
where a caller stands afterwards, and which tasks are begun.
-/

open FeatureFlags.Feature (Evaluated Prepared)
open FeatureFlags.Telemetry (Message)
open FeatureFlags.Transport (Exchange Progress Request)

namespace Client

/-! ## Queue and transport -/

section

variable
  {now : Moment}
  {client used moved : Client}
  {batches : List Batch}

/-- An offer concerns the queue only. -/
theorem exists_of_enqueue
    {message : Message}
    (offered : client.enqueue now message = (used, batches)) :
    ∃ outbox, used = { client with outbox } := by
  unfold enqueue at offered
  split at offered
  · cases offered
    exact ⟨client.outbox, rfl⟩
  · split at offered <;> cases offered <;> exact ⟨_, rfl⟩

/-- Whoever takes the queue changes nothing else, and sends nothing without a transport. -/
theorem exists_of_takeBatch
    {request? : Option Request}
    (takes : client.takeBatch now = (used, request?)) :
    (∃ outbox, used = { client with outbox }) ∧
      ∀ {request}, request? = some request → ∃ transport, client.transport = some transport := by
  cases takes
  refine ⟨⟨_, rfl⟩, ?_⟩
  intro request sends
  obtain ⟨transport, found, -⟩ := Option.bind_eq_some_iff.mp sends
  exact ⟨transport, found⟩

/-- An exchange moves on the transport, and changes nothing else. -/
theorem exists_of_exchange?
    {exchange : Exchange}
    {progress : Progress}
    (possible : client.exchange? now exchange = some (moved, progress)) :
    ∃ transport after,
      client.transport = some transport ∧
        exchange.move? now transport = some (after, progress) ∧
        moved = { client with transport := some after } := by
  obtain ⟨transport, found, rest⟩ := Option.bind_eq_some_iff.mp possible
  obtain ⟨⟨after, _⟩, moves, pair⟩ := Option.bind_eq_some_iff.mp rest
  cases pair
  exact ⟨transport, after, found, moves, rfl⟩

/-- Batches are sent by tasks of their own, on a transport. -/
theorem exists_of_mem_deliveries
    {new : ClientTask}
    (begins : new ∈ client.deliveries batches) :
    ∃ transport request, client.transport = some transport ∧ new = .ofRequest request := by
  unfold deliveries at begins
  split at begins
  · cases begins
  · rename_i transport found
    obtain ⟨batch, -, sends⟩ := List.mem_filterMap.mp begins
    obtain ⟨request, -, rfl⟩ := Option.map_eq_some_iff.mp sends
    exact ⟨transport, request, found, rfl⟩

end

/-! ## Answers and reports -/

/-- Whoever concludes is answered; consultations of resolvers and warnings may remain. -/
theorem exists_giveFrom
    (client : Client)
    (query : Query)
    (base : Table Evaluated) :
    ∃ consultations warnings,
      client.giveFrom query base =
        ({ client with consultations, warnings } : Client).give
          (client.conclude query base).2 := by
  simp only [giveFrom, conclude]
  split <;> exact ⟨_, _, rfl⟩

/-- Whoever offers a message changes the queue only, and full batches are sent by new tasks. -/
theorem exists_report
    (now : Moment)
    (client : Client)
    (message : Message)
    (stage : CallStage) :
    ∃ outbox batches,
      client.report now message stage =
        ({ client with outbox } : Client).goTo stage (client.deliveries batches) := by
  rcases offered : client.enqueue now message with ⟨queued, batches⟩
  obtain ⟨outbox, rfl⟩ := exists_of_enqueue offered
  refine ⟨outbox, batches, ?_⟩
  rw [report, offered]
  rfl

/-! ## Downloads and the origin of features -/

/-- What a caller does that asks for a download. -/
inductive AsksForDownload
    (client : Client)
    (ticker : Ticker (List Prepared))
    (waiting : Nat → CallStage) :
    ClientTurn → Prop where
  /-- The definitions have been disposed of. -/
  | refused :
      ticker.disposed = true →
      AsksForDownload client ticker waiting (client.give (.error (.disposed ticker.name)))
  /-- The download in flight is shared. -/
  | joins
      {refresh : Nat} :
      ticker.disposed = false →
      ticker.inFlight? = some refresh →
      AsksForDownload client ticker waiting
        (({ client with definitions := some ticker } : Client).goTo (waiting refresh) [])
  /-- A download begins, with a loop that waits for it. -/
  | begins :
      ticker.disposed = false →
      ticker.inFlight? = none →
      AsksForDownload client ticker waiting
        (({ client with
            definitions := some { ticker.begin with loop := ticker.loop + 1 } } : Client).goTo
          (waiting ticker.refreshes.length)
          ((client.downloadTask? ticker.refreshes.length).toList ++
            [.definitionsLoop ⟨ticker.loop + 1, .awaiting ticker.refreshes.length⟩]))

/-- Whoever asks for a download does one of these. -/
theorem asksForDownload
    (client : Client)
    (ticker : Ticker (List Prepared))
    (waiting : Nat → CallStage) :
    client.AsksForDownload ticker waiting (client.askForDownload ticker waiting) := by
  unfold askForDownload
  cases disposed : ticker.disposed with
  | true =>
      simp only [Ticker.tick, disposed, ↓reduceIte]
      exact .refused disposed
  | false =>
      cases held : ticker.inFlight? with
      | some refresh =>
          simp only [Ticker.tick, disposed, Ticker.joinOrBegin, held, Bool.false_eq_true,
            ↓reduceIte]
          exact .joins disposed held
      | none =>
          simp only [Ticker.tick, disposed, Ticker.joinOrBegin, held, Bool.false_eq_true,
            ↓reduceIte]
          exact .begins disposed held

/-- What a caller does that sees where the features come from. -/
inductive Resolves
    (now : Moment)
    (client : Client)
    (query : Query) :
    ClientTurn → Prop where
  /-- There have been no definitions yet. -/
  | misses
      {ticker : Ticker (List Prepared)} :
      client.settings.mode = .localEvaluation →
      client.definitions = some ticker →
      ticker.last = none →
      Resolves now client query (client.goTo (.asking query) [])
  /-- The definitions are at hand. -/
  | uses
      {ticker : Ticker (List Prepared)} :
      client.settings.mode = .localEvaluation →
      client.definitions = some ticker →
      Resolves now client query (client.useSnapshot now query (ticker.snapshot now))
  /-- The backend is asked. -/
  | consults
      {transport : Transport} :
      client.settings.mode = .remoteEvaluation →
      client.transport = some transport →
      Resolves now client query
        (client.goTo
          (.evaluating query { request := transport.evaluationsRequest query.fields }) [])
  /-- There is nothing but local features. -/
  | concludes :
      (client.settings.mode = .localEvaluation → client.definitions = none) →
      (client.settings.mode = .remoteEvaluation → client.transport = none) →
      Resolves now client query (client.giveFrom query .empty)

/-- Whoever sees where the features come from does one of these. -/
theorem resolves
    (now : Moment)
    (client : Client)
    (query : Query) :
    client.Resolves now query (client.resolve now query) := by
  unfold resolve
  split
  · rename_i ticker isLocal present
    split
    · rename_i absent
      unfold Ticker.snapshot at absent
      split at absent
      · cases absent
      · have nothing : ticker.last = none := by
          cases last : ticker.last with
          | none =>
              rfl
          | some pair =>
              simp [last] at absent
        exact .misses isLocal present nothing
    · exact .uses isLocal present
  · rename_i transport isRemote found
    exact .consults isRemote found
  · rename_i noDefinitions noTransport
    refine .concludes (fun isLocal => ?_) fun isRemote => ?_
    · cases present : client.definitions with
      | none =>
          rfl
      | some ticker =>
          exact (noDefinitions ticker isLocal present).elim
    · cases found : client.transport with
      | none =>
          rfl
      | some transport =>
          exact (noTransport transport isRemote found).elim

end Client

end FeatureFlags
