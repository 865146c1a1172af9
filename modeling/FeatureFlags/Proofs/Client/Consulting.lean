import FeatureFlags.Proofs.Client.Callers
import FeatureFlags.Proofs.Client.Requests

namespace FeatureFlags

/-!
# Evaluation by the backend

A call for features of a client that leaves evaluation to the backend sends one request for
its fields, after it has been let in and before it is answered. No request is sent only if the
client is disposed in between, or if there is no such address.
-/

open FeatureFlags.Transport (Exchange Request Sent)

/-- The requests for evaluations sent in a transition, each with the place of its sender. -/
def ClientTransition.evaluations (transition : ClientTransition) : List (Nat × Sent) :=
  transition.sends.filter (·.2.endpoint = .evaluations)

namespace Client

/-- The requests for evaluations sent along some moves, each with the place of its sender. -/
def evaluations (history : List ClientTransition) : List (Nat × Sent) :=
  history.flatMap ClientTransition.evaluations

/-- A call at a place passes the check whether the client has been disposed. -/
def LetsIn
    (history : List ClientTransition)
    (place : Nat)
    (call : Call) :
    Prop :=
  ∃ enters ∈ history,
    enters.move = .turn place ∧
      enters.before.task? place = some (.caller (.begun call)) ∧
      enters.before.shared.disposed = false

theorem evaluations_append (history more : List ClientTransition) :
    evaluations (history ++ more) = evaluations history ++ evaluations more := by
  simp [evaluations]

/-- All requests for evaluations are among those that are sent. -/
theorem evaluations_eq
    (history : List ClientTransition) :
    evaluations history = (sends history).filter (·.2.endpoint = .evaluations) := by
  simp only [evaluations, sends, List.filter_flatMap]
  rfl

end Client

open Client (evaluations LetsIn)

/-- A request for an evaluation that is sent alone is all that is requested. -/
theorem ClientTransition.evaluations_of_sends
    {first : Transport}
    {transition : ClientTransition}
    {place : Nat}
    {sent : Sent}
    {fields : Fields}
    (is : sent.Is (first.evaluationsRequest fields))
    (sends : transition.sends = [(place, sent)]) :
    transition.evaluations = [(place, sent)] := by
  have isEvaluation : sent.endpoint = .evaluations := is.endpoint
  simp [evaluations, sends, isEvaluation]

/-! ## Turns -/

/-- What the turn of a caller does for whom the backend is to evaluate. -/
inductive ClientTransition.Consults
    (transition : ClientTransition)
    (place : Nat)
    (query : Query)
    (exchange : Exchange) :
    Prop where
  /-- The request is sent. -/
  | sends
      {sent : Sent}
      {next : Exchange} :
      exchange.stage = .prepared →
      sent.Is exchange.request →
      transition.sends = [(place, sent)] →
      transition.after.task? place = some (.caller (.evaluating query next)) →
      next.stage ≠ .prepared →
      Consults transition place query exchange
  /-- What has come back is about to be read. -/
  | receives
      {next : Exchange} :
      exchange.stage ≠ .prepared →
      transition.sends = [] →
      transition.after.task? place = some (.caller (.evaluating query next)) →
      next.stage ≠ .prepared →
      Consults transition place query exchange
  /-- The caller is answered; a request that has not been sent could not be. -/
  | ends
      {answer : Except Failure Answer} :
      (exchange.stage = .prepared →
        transition.before.shared.disposed = true ∨
        ∃ fault, exchange.request.address = .error fault) →
      transition.sends = [] →
      transition.after.task? place = some (.caller (.answered answer)) →
      Consults transition place query exchange

/-- Every turn of a caller for whom the backend is to evaluate does one of these. -/
theorem ClientMove.consults
    {first : Transport}
    {configuration next : Configuration Client ClientTask}
    {place : Nat}
    {query : Query}
    {exchange : Exchange}
    (moved : ClientMove configuration (.turn place) next)
    (connected : configuration.shared.IsConnected first)
    (found : configuration.task? place = some (.caller (.evaluating query exchange))) :
    ClientTransition.Consults ⟨configuration, .turn place, next⟩ place query exchange := by
  obtain ⟨transport, present, -, cancelled⟩ := connected.connected
  obtain ⟨request, stage⟩ := exchange
  cases moved with
  | turn alsoFound taken =>
      obtain rfl := Option.some.inj (found.symm.trans alsoFound)
      have leaves := Configuration.task?_update_self found
      cases taken with
      | evaluatingGoes possible =>
          obtain ⟨after, moves, rfl⟩ := Client.moves_of_exchange? present possible
          cases moves with
          | sends notCancelled addressed =>
              refine
                .sends rfl (.of_address addressed configuration.now)
                  ((ClientMove.sends_of_update place present rfl).trans ?_) (leaves _) nofun
              simp [Transport.note]
          | answered =>
              refine
                .receives nofun ((ClientMove.sends_of_update place present rfl).trans ?_)
                  (leaves _) nofun
              simp
      | evaluatingEnds possible =>
          obtain ⟨after, moves, rfl⟩ := Client.moves_of_exchange? present possible
          obtain ⟨consultations, warnings, shape⟩ :=
            Client.exists_giveFrom { configuration.shared with transport := some after } query _
          rw [shape]
          refine
            .ends ?_ ((ClientMove.sends_of_update place present rfl).trans ?_) (leaves _)
          · rintro rfl
            cases moves with
            | cancelled isCancelled =>
                exact .inl (cancelled.symm.trans isCancelled)
            | unaddressed _ faulty =>
                exact .inr ⟨_, faulty⟩
          · rcases moves.sent_cases with same | ⟨_, _, -, -, goes, -⟩
            · simp [same]
            · cases goes

/-- A move requests no evaluation, or the one that its task was about to request. -/
theorem ClientMove.evaluations_cases
    {first : Transport}
    {configuration next : Configuration Client ClientTask}
    {move : Move ClientAction}
    (moved : ClientMove configuration move next)
    (connected : configuration.shared.IsConnected first)
    (requests : Client.RequestsOwn first configuration) :
    ClientTransition.evaluations ⟨configuration, move, next⟩ = [] ∨
    ∃ place query exchange sent going,
      configuration.task? place = some (.caller (.evaluating query exchange)) ∧
        exchange.stage = .prepared ∧
        sent.Is (first.evaluationsRequest query.fields) ∧
        ClientTransition.evaluations ⟨configuration, move, next⟩ = [(place, sent)] ∧
        next.task? place = some (.caller (.evaluating query going)) ∧
        going.stage ≠ .prepared := by
  rcases moved.sends_cases connected with
    none | ⟨place, task, exchange, sent, rfl, found, drives, prepared, is, sends⟩
  · exact .inl (by simp [ClientTransition.evaluations, none])
  rcases (requests _ _ found).cases drives with
    ⟨_, -, definitions⟩ | ⟨query, rfl, evaluations⟩ | ⟨batch, delivers⟩
  · refine .inl ?_
    rw [definitions] at is
    simp [ClientTransition.evaluations, sends, is.endpoint, Transport.definitionsRequest]
  · rw [evaluations] at is
    have filtered := ClientTransition.evaluations_of_sends is sends
    cases moved.consults connected found with
    | sends _ _ _ leaves going =>
        exact .inr ⟨place, query, exchange, sent, _, found, prepared, is, filtered, leaves, going⟩
    | receives _ silent | ends _ silent =>
        cases sends.symm.trans silent
  · refine .inl ?_
    have method := Transport.method_of_deliveryRequest? delivers
    rw [← is.endpoint] at method
    have other : sent.endpoint ≠ .evaluations := by
      rintro isEvaluation
      rw [isEvaluation] at method
      cases method
    simp [ClientTransition.evaluations, sends, other]

/-! ## Stages -/

/-- Whether a caller may have requested an evaluation. -/
def CallStage.HasConsulted : CallStage → Prop
  | .evaluating _ running => running.stage ≠ .prepared
  | .answered _ => True
  | _ => False

/-- Whether a caller has been let in and not been answered. -/
def CallStage.isInside : CallStage → Bool
  | .begun _ => false
  | .answered _ => false
  | _ => true

namespace CallStage.Proceeds

variable {now : Moment} {client after : Client} {stage next : CallStage}

/-- Whoever has requested an evaluation requests no other one. -/
theorem hasConsulted
    (proceeds : stage.Proceeds now client after next)
    (consulted : stage.HasConsulted) :
    next.HasConsulted := by
  cases proceeds with
  | evaluating possible =>
      obtain ⟨transport, _, -, moves, -⟩ := Client.exists_of_exchange? possible
      exact (Exchange.Moves.of_move? moves).of_going.2
  | refused | shut | resolvesOffline | reported | evaluated | drainsNothing | flushed
  | requestsNothing | refreshed =>
      trivial
  | enters | updates | updated | resolvesRemotely | misses | asks | reports | drains | flushing
  | requests =>
      exact consulted.elim
  | evaluates isQuery =>
      rcases isQuery with rfl | ⟨refresh, rfl⟩ <;> exact consulted.elim

/-- Whoever is inside has been there before, or has just been let in. -/
theorem isInside_or_begun
    (proceeds : stage.Proceeds now client after next)
    (inside : next.isInside = true) :
    stage.isInside = true ∨ ∃ call, stage = .begun call ∧ client.disposed = false := by
  cases proceeds with
  | enters notDisposed =>
      exact .inr ⟨_, rfl, notDisposed⟩
  | refused | shut | resolvesOffline | reported | evaluated | drainsNothing | flushed
  | requestsNothing | refreshed =>
      cases inside
  | updates | updated | resolvesRemotely | misses | asks | reports | evaluating | drains
  | flushing | requests =>
      exact .inl rfl
  | evaluates isQuery =>
      rcases isQuery with rfl | ⟨refresh, rfl⟩ <;> exact .inl rfl

end CallStage.Proceeds

/-! ## Runs -/

/-- Requests for evaluations are sent by callers, and no caller sends a second one. -/
structure Client.ConsultsOnce
    (history : List ClientTransition)
    (last : Configuration Client ClientTask) :
    Prop where
  known :
    ∀ {place},
      place ∈ (evaluations history).map (·.1) →
      ∃ stage, last.task? place = some (.caller stage) ∧ stage.HasConsulted
  once : ((evaluations history).map (·.1)).Nodup
  /-- Whoever waits for an evaluation has requested it. -/
  requested :
    ∀ {place query exchange},
      last.task? place = some (.caller (.evaluating query exchange)) →
      exchange.stage ≠ .prepared →
      place ∈ (evaluations history).map (·.1)

namespace Client.ConsultsOnce

variable
  {settings : Settings}
  {surroundings : Surroundings}
  {client : Client}
  {first : Transport}
  {history : List ClientTransition}
  {last next : Configuration Client ClientTask}
  {move : Move ClientAction}
  {place : Nat}

private theorem known_step
    (consults : ConsultsOnce history last)
    (equipped : IsEquipped (.of settings surroundings) last)
    (possible : last.after? system move = some next)
    (connected : last.shared.IsConnected first)
    (requests : RequestsOwn first last)
    (asked : place ∈ (evaluations (history ++ [⟨last, move, next⟩])).map (·.1)) :
    ∃ stage, next.task? place = some (.caller stage) ∧ stage.HasConsulted := by
  rw [evaluations_append, List.map_append] at asked
  rcases List.mem_append.mp asked with old | new
  · obtain ⟨stage, found, consulted⟩ := consults.known old
    rcases proceeds_of_after? equipped possible found with same | ⟨reached, -, left, proceeds⟩
    · exact ⟨stage, same, consulted⟩
    · exact ⟨reached, left, proceeds.hasConsulted consulted⟩
  · rcases (ClientMove.of_after? possible).evaluations_cases connected requests with
      none | ⟨_, _, _, _, going, -, -, -, added, left, sent⟩
    · simp [evaluations, none] at new
    · simp only [evaluations, List.flatMap_singleton, added, List.map_singleton,
        List.mem_singleton] at new
      subst new
      exact ⟨_, left, sent⟩

private theorem once_step
    (consults : ConsultsOnce history last)
    (possible : last.after? system move = some next)
    (connected : last.shared.IsConnected first)
    (requests : RequestsOwn first last) :
    ((evaluations (history ++ [⟨last, move, next⟩])).map (·.1)).Nodup := by
  rw [evaluations_append, List.map_append]
  rcases (ClientMove.of_after? possible).evaluations_cases connected requests with
    none | ⟨sender, _, _, _, _, found, prepared, -, added, -⟩
  · simpa [evaluations, none] using consults.once
  · refine List.nodup_append.mpr ⟨consults.once, by simp [evaluations, added], ?_⟩
    rintro other known _ new rfl
    simp only [evaluations, List.flatMap_singleton, added, List.map_singleton,
      List.mem_singleton] at new
    subst new
    -- The sender had still to send its request, so it has sent none before.
    obtain ⟨stage, there, consulted⟩ := consults.known known
    cases there.symm.trans found
    exact consulted prepared

private theorem requested_step
    (consults : ConsultsOnce history last)
    (equipped : IsEquipped (.of settings surroundings) last)
    (possible : last.after? system move = some next)
    (connected : last.shared.IsConnected first)
    (requests : RequestsOwn first last)
    {query : Query}
    {exchange : Exchange}
    (found : next.task? place = some (.caller (.evaluating query exchange)))
    (sent : exchange.stage ≠ .prepared) :
    place ∈ (evaluations (history ++ [⟨last, move, next⟩])).map (·.1) := by
  rw [evaluations_append, List.map_append]
  rcases caller_cases equipped possible found with
    before | ⟨_, -, -, begun⟩ | ⟨stage, rfl, there, proceeds⟩
  · exact List.mem_append_left _ (consults.requested before sent)
  · cases begun
  generalize reached : CallStage.evaluating query exchange = stageAfter at proceeds
  cases proceeds with
  | resolvesRemotely =>
      cases reached
      exact absurd rfl sent
  | enters =>
      rename_i call _
      cases call <;> cases reached
  | evaluating =>
      cases (ClientMove.of_after? possible).consults connected there with
      | sends _ is added =>
          have request : _ = first.evaluationsRequest _ := requests _ _ there
          rw [request] at is
          refine List.mem_append_right _ ?_
          simp [evaluations, ClientTransition.evaluations_of_sends is added]
      | receives sentBefore =>
          exact List.mem_append_left _ (consults.requested there sentBefore)
      | ends _ _ answered =>
          cases answered.symm.trans found
  | refused | updates | updated | shut | resolvesOffline | misses | asks | evaluates | reports
  | reported | evaluated | drainsNothing | drains | flushing | flushed | requestsNothing
  | requests | refreshed =>
      cases reached

/-- No caller ever requests two evaluations. -/
theorem of_run
    (created : create settings surroundings = .ok client)
    (online : settings.mode ≠ .offline)
    (present : client.transport = some first)
    (run : Run system client.fresh history last) :
    ConsultsOnce history last := by
  induction run with
  | start =>
      refine ⟨by simp [evaluations], by simp [evaluations], ?_⟩
      intro place query exchange found
      rcases isLoop_of_fresh found with same | same <;> cases same
  | step run possible inductionHypothesis =>
      have equipped := IsEquipped.of_run created run
      have trades : Trades first settings _ _ := .of_run created online present run
      have requests := requestsOwn_of_run created online present run
      exact
        ⟨inductionHypothesis.known_step equipped possible trades.connected requests,
          inductionHypothesis.once_step possible trades.connected requests,
          inductionHypothesis.requested_step equipped possible trades.connected requests⟩

end Client.ConsultsOnce

namespace Client

variable
  {settings : Settings}
  {surroundings : Surroundings}
  {client : Client}
  {first : Transport}
  {history more : List ClientTransition}
  {middle last : Configuration Client ClientTask}
  {place : Nat}
  {call : Call}

/-- A disposal is final. -/
theorem disposed_later
    (created : create settings surroundings = .ok client)
    (online : settings.mode ≠ .offline)
    (present : client.transport = some first)
    (runBefore : Run system client.fresh history middle)
    (run : Run system middle more last)
    (disposed : middle.shared.disposed = true) :
    last.shared.disposed = true := by
  induction run with
  | start =>
      exact disposed
  | step run possible inductionHypothesis =>
      have trades : Trades first settings _ _ :=
        .of_run created online present (runBefore.append run)
      exact
        ((ClientMove.of_after? possible).connected_step trades.connected).2 inductionHypothesis

/-- Whoever has been let in has gone on to the first stage of its call. -/
theorem exists_entry_of_letsIn
    (run : Run system client.fresh history last)
    (letsIn : LetsIn history place call) :
    ∃ earlier middle later,
      history = earlier ++ later ∧
        Run system client.fresh earlier middle ∧
        Run system middle later last ∧
        middle.task? place = some (.caller call.entry) := by
  obtain ⟨enters, member, turns, found, notDisposed⟩ := letsIn
  obtain ⟨earlier, later, rfl⟩ := List.append_of_mem member
  obtain ⟨runBefore, possible⟩ := run.of_split
  refine
    ⟨earlier ++ [enters], enters.after, later, by simp, runBefore.step possible,
      run.of_split_later, ?_⟩
  rw [turns] at possible
  obtain ⟨task, turn, alsoFound, taken, leads⟩ :=
    Configuration.after?_turn_eq_some_iff.mp possible
  obtain rfl := Option.some.inj (found.symm.trans alsoFound)
  rw [leads]
  have takes :
      (ClientTask.caller (.begun call)).Takes enters.before.now enters.before.shared turn :=
    .of_turn taken
  cases takes with
  | callRefused disposed =>
      cases notDisposed.symm.trans disposed
  | callEnters =>
      exact Configuration.task?_update_self found _

/-- Whoever is inside at a place has been let in there. -/
theorem exists_letsIn_of_isInside
    (created : create settings surroundings = .ok client)
    (run : Run system client.fresh history last)
    {stage : CallStage}
    (found : last.task? place = some (.caller stage))
    (inside : stage.isInside = true) :
    ∃ call, LetsIn history place call ∧ stage.Serves call := by
  have nobody :
      ¬ ∃ stage, client.fresh.task? place = some (.caller stage) ∧ stage.isInside = true := by
    rintro ⟨stage, there, -⟩
    rcases isLoop_of_fresh there with same | same <;> cases same
  obtain ⟨earlier, ⟨before, move, after⟩, later, rfl, absent, reached, there, insideThere⟩ :=
    run.exists_change
      (fun configuration =>
        ∃ stage, configuration.task? place = some (.caller stage) ∧ stage.isInside = true)
      nobody ⟨stage, found, inside⟩
  obtain ⟨runBefore, possible⟩ := run.of_split
  rcases caller_cases (.of_run created runBefore) possible there with
    same | ⟨_, -, -, rfl⟩ | ⟨before, rfl, present, proceeds⟩
  · exact absurd ⟨reached, same, insideThere⟩ absent
  · cases insideThere
  rcases proceeds.isInside_or_begun insideThere with already | ⟨call, rfl, notDisposed⟩
  · exact absurd ⟨before, present, already⟩ absent
  · obtain ⟨serving, stands, serves⟩ :=
      serves_of_run created runBefore run.of_split_from present (by exact rfl)
    cases Option.some.inj (stands.symm.trans found)
    exact
      ⟨call, ⟨_, List.mem_append_right _ List.mem_cons_self, rfl, present, notDisposed⟩, serves⟩

/-- Whoever requests an evaluation does so for a call that has been let in. -/
theorem exists_letsIn_of_evaluations
    {sent : Sent}
    (created : create settings surroundings = .ok client)
    (online : settings.mode ≠ .offline)
    (present : client.transport = some first)
    (run : Run system client.fresh history last)
    (member : (place, sent) ∈ evaluations history) :
    ∃ call query,
      LetsIn history place call ∧
        call.query? = some query ∧
        sent.Is (first.evaluationsRequest query.fields) := by
  obtain ⟨sends, sendsMember, requested⟩ := List.mem_flatMap.mp member
  obtain ⟨earlier, later, rfl⟩ := List.append_of_mem sendsMember
  obtain ⟨runBefore, possible⟩ := run.of_split
  have trades : Trades first settings earlier sends.before :=
    .of_run created online present runBefore
  have requests := requestsOwn_of_run created online present runBefore
  rcases (ClientMove.of_after? possible).evaluations_cases trades.connected requests with
    none | ⟨_, query, exchange, _, _, found, -, is, added, -⟩
  · simp [none] at requested
  · rw [added] at requested
    cases List.mem_singleton.mp requested
    obtain ⟨call, ⟨enters, entersMember, letsIn⟩, serves⟩ :=
      exists_letsIn_of_isInside created runBefore found rfl
    exact ⟨call, query, ⟨enters, List.mem_append_left _ entersMember, letsIn⟩, serves, is⟩

/-- Whoever is answered has requested an evaluation, unless that could not be. -/
private theorem consulted_of_answers
    {configuration next : Configuration Client ClientTask}
    {stage : CallStage}
    {query : Query}
    {answer : Except Failure Answer}
    (isRemote : settings.mode = .remoteEvaluation)
    (equipped : IsEquipped (.of settings surroundings) configuration)
    (connected : configuration.shared.IsConnected first)
    (requests : RequestsOwn first configuration)
    (consults : ConsultsOnce history configuration)
    (found : configuration.task? place = some (.caller stage))
    (serves : stage.Serves call)
    (asks : call.query? = some query)
    (unanswered : ∀ answer, stage ≠ .answered answer)
    (possible : configuration.after? system (.turn place) = some next)
    (answered : next.task? place = some (.caller (.answered answer))) :
    place ∈ (evaluations history).map (·.1) ∨
    configuration.shared.disposed = true ∨
    ∃ fault, (first.evaluationsRequest query.fields).address = .error fault := by
  have notLocal : settings.mode ≠ .localEvaluation := by
    simp [isRemote]
  rcases proceeds_of_after? equipped possible found with same | ⟨_, -, left, proceeds⟩
  · cases same.symm.trans answered
    exact absurd rfl (unanswered answer)
  cases left.symm.trans answered
  generalize reached : CallStage.answered answer = stageAfter at proceeds
  cases proceeds with
  | refused disposed =>
      exact .inr (.inl disposed)
  | shut _ present =>
      exact absurd (equipped.mode_of_definitions present) notLocal
  | resolvesOffline isOffline =>
      have mode : configuration.shared.settings.mode = settings.mode :=
        congrArg (fun equipment => equipment.settings.mode) equipped.kept
      cases isOffline.symm.trans (mode.trans isRemote)
  | reported =>
      exact absurd (equipped.tasks found) notLocal
  | evaluated =>
      rename_i _ exchange _ _ _
      obtain rfl := Option.some.inj (serves.symm.trans asks)
      have request : _ = first.evaluationsRequest _ := requests _ _ found
      cases (ClientMove.of_after? possible).consults connected found with
      | sends _ _ _ goes | receives _ _ goes =>
          cases goes.symm.trans answered
      | ends excused =>
          by_cases prepared : exchange.stage = .prepared
          · exact .inr (request ▸ excused prepared)
          · exact .inl (consults.requested found prepared)
  | drainsNothing | flushed =>
      cases serves
      cases asks
  | requestsNothing | refreshed =>
      cases serves
      cases asks
  | enters =>
      rename_i call _
      cases call <;> cases reached
  | updates | updated | resolvesRemotely | misses | asks | evaluates | reports | evaluating
  | drains | flushing | requests =>
      cases reached

/-- Whoever has been let in and answered has requested an evaluation, unless that could not be. -/
theorem consulted_of_letsIn
    {query : Query}
    {answer : Except Failure Answer}
    (created : create settings surroundings = .ok client)
    (isRemote : settings.mode = .remoteEvaluation)
    (present : client.transport = some first)
    (run : Run system client.fresh history last)
    (letsIn : LetsIn history place call)
    (asks : call.query? = some query)
    (answered : last.task? place = some (.caller (.answered answer))) :
    place ∈ (evaluations history).map (·.1) ∨
    last.shared.disposed = true ∨
    ∃ fault, (first.evaluationsRequest query.fields).address = .error fault := by
  have online : settings.mode ≠ .offline := by simp [isRemote]
  obtain ⟨earlier, middle, later, rfl, runBefore, runLater, entry⟩ :=
    exists_entry_of_letsIn run letsIn
  have serves : call.entry.Serves call := by
    cases call <;> rfl
  have unanswered : ¬ ∃ answer, middle.task? place = some (.caller (.answered answer)) := by
    rintro ⟨answer, there⟩
    cases call <;> cases entry.symm.trans there
  obtain ⟨between, ⟨before, move, after⟩, rest, rfl, notYet, given, there⟩ :=
    runLater.exists_change
      (fun configuration => ∃ answer, configuration.task? place = some (.caller (.answered answer)))
      unanswered ⟨answer, answered⟩
  obtain ⟨runBetween, possible⟩ := runLater.of_split
  have reaches := runBefore.append runBetween
  obtain ⟨stage, found, servesThere⟩ :=
    serves_of_run created runBefore runBetween entry serves
  have equipped := IsEquipped.of_run created reaches
  obtain rfl : move = .turn place := by
    rcases proceeds_of_after? equipped possible found with same | ⟨_, turns, -, -⟩
    · exact absurd ⟨given, found.trans (same.symm.trans there)⟩ notYet
    · exact turns
  have trades : Trades first settings (earlier ++ between) before :=
    .of_run created online present reaches
  have consults := ConsultsOnce.of_run created online present reaches
  have requests := requestsOwn_of_run created online present reaches
  rcases consulted_of_answers isRemote equipped trades.connected requests consults found
      servesThere asks (fun other same => notYet ⟨other, same ▸ found⟩) possible there with
    asked | disposed | faulty
  · refine .inl ?_
    rw [← List.append_assoc, evaluations_append, List.map_append]
    exact List.mem_append_left _ asked
  · exact
      .inr (.inl (disposed_later created online present reaches runLater.of_split_from disposed))
  · exact .inr (.inr faulty)

end Client

end FeatureFlags
