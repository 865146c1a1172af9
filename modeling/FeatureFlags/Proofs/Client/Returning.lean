import FeatureFlags.Proofs.Client.Callers
import FeatureFlags.Proofs.Client.Fetching
import FeatureFlags.Proofs.Transport.Moves

namespace FeatureFlags

/-!
# Return of calls

Whatever a caller waits for comes: requests are answered or time out, and downloads end.
Wherever a run has led, every call may return, and nothing more has to be done from outside.
-/

open FeatureFlags.Transport (Exchange)

/-! ## Exchanges -/

namespace Client

/-- Some time later an exchange can move. -/
theorem exists_exchange?
    {client : Client}
    (online : client.transport.isSome = true)
    (now : Moment)
    (exchange : Exchange) :
    ∃ duration moved progress,
      client.exchange? (now + duration) exchange = some (moved, progress) := by
  obtain ⟨transport, present⟩ := Option.isSome_iff_exists.mp online
  have due (wake : Moment) (waits : exchange.deadline? = some wake) :
      wake ≤ now + exchange.deadline?.getD 0 := by
    simp [waits]
  obtain ⟨⟨moved, progress⟩, moves⟩ :=
    Option.isSome_iff_exists.mp (Exchange.isSome_move? due transport)
  refine ⟨exchange.deadline?.getD 0, { client with transport := some moved }, progress, ?_⟩
  simp [exchange?, present, moves]

theorem rank_lt_of_exchange?
    {now : Moment}
    {client moved : Client}
    {exchange next : Exchange}
    (possible : client.exchange? now exchange = some (moved, .going next)) :
    next.stage.rank < exchange.stage.rank := by
  obtain ⟨transport, after, -, moves, -⟩ := exists_of_exchange? possible
  exact (Exchange.Moves.of_move? moves).rank_lt

end Client

/-! ## Stages -/

/-- How far a caller is from its answer: the stages before it, and the turns at its stage. -/
def CallStage.rank : CallStage → Nat × Nat
  | .begun _ => (6, 0)
  | .updating updates _ => (5, updates.length)
  | .resolving _ => (4, 0)
  | .asking _ => (3, 0)
  | .downloading _ _ => (2, 0)
  | .evaluating _ exchange => (1, exchange.stage.rank)
  | .reporting reports _ _ => (1, reports.length)
  | .draining => (2, 0)
  | .flushing exchange => (1, exchange.stage.rank)
  | .requesting => (2, 0)
  | .refreshing _ => (1, 0)
  | .answered _ => (0, 0)

/-- Every turn of a caller brings it closer to its answer. -/
theorem CallStage.Proceeds.rank_lt
    {now : Moment}
    {client after : Client}
    {stage next : CallStage}
    (proceeds : stage.Proceeds now client after next) :
    Prod.Lex (· < ·) (· < ·) next.rank stage.rank := by
  cases proceeds with
  | refused | updated | resolvesOffline | resolvesRemotely | misses | asks | reported | evaluated
  | drainsNothing | drains | flushed | requestsNothing | requests | refreshed =>
      exact .left _ _ (by decide)
  | enters =>
      rename_i call _
      cases call <;> exact .left _ _ (by decide)
  | shut looks =>
      cases stage with
      | resolving | asking | downloading | requesting =>
          exact .left _ _ (by decide)
      | begun | updating | evaluating | reporting | draining | flushing | refreshing
      | answered =>
          cases looks
  | evaluates isQuery =>
      rcases isQuery with rfl | ⟨refresh, rfl⟩ <;> exact .left _ _ (by decide)
  | updates | reports =>
      exact .right _ (Nat.lt_succ_self _)
  | evaluating possible | flushing possible =>
      exact .right _ (Client.rank_lt_of_exchange? possible)

namespace Client

variable
  {settings : Settings}
  {surroundings : Surroundings}
  {client : Client}
  {history : List ClientTransition}
  {configuration : Configuration Client ClientTask}
  {place refresh : Nat}
  {stage : CallStage}
  {exchange : Exchange}

/-! ## Downloads -/

/-- The refresh of a download that is carried out gets its outcome, whoever else is about. -/
private theorem exists_outcome_of_download
    (created : create settings surroundings = .ok client)
    (isLocal : settings.mode = .localEvaluation)
    {history : List ClientTransition}
    {configuration : Configuration Client ClientTask}
    {exchange : Exchange}
    (run : Run system client.fresh history configuration)
    (works : configuration.task? place = some (.download refresh exchange)) :
    ∃ later ticker succeeded,
      configuration.LeadsTo system later ∧
        (∀ {other task},
          other ≠ place →
          configuration.task? other = some task →
          later.task? other = some task) ∧
        later.shared.definitions = some ticker ∧
        ticker.outcome? refresh = some succeeded := by
  have equipped : IsEquipped (.of settings surroundings) configuration := .of_run created run
  obtain ⟨duration, moved, progress, possible⟩ :=
    exists_exchange? (equipped.isSome_transport (by simp [isLocal])) configuration.now exchange
  let later : Configuration Client ClientTask :=
    { configuration with now := configuration.now + duration }
  have waited : configuration.LeadsTo system later := .wait system configuration duration
  cases progress with
  | going next =>
      have taken :
          system.behaviour.turn later.now later.shared (.download refresh exchange) =
            some ⟨moved, some (.download refresh next), []⟩ := by
        simp [system, behaviour, Client.turn, later, possible]
      have leads := waited.trans (.turn works taken)
      obtain ⟨whole, runLater⟩ := leads.exists_run run
      -- The request is one stage further, and the rest of its way is that of a shorter rank.
      have closer := rank_lt_of_exchange? possible
      obtain ⟨last, ticker, succeeded, leadsOn, undisturbed, present, outcome⟩ :=
        exists_outcome_of_download created isLocal runLater
          (Configuration.task?_update_self works _)
      refine ⟨last, ticker, succeeded, leads.trans leadsOn, ?_, present, outcome⟩
      intro other task different found
      exact undisturbed different (Configuration.task?_update_other different found _)
  | ended result =>
      have taken :
          system.behaviour.turn later.now later.shared (.download refresh exchange) =
            some ⟨moved.endDownload later.now refresh result, none, []⟩ := by
        simp [system, behaviour, Client.turn, later, possible]
      have moves : later.after? system (.turn place) = some (later.update place _) :=
        Configuration.after?_turn_eq_some_iff.mpr ⟨_, _, works, taken, rfl⟩
      obtain ⟨whole, runLater⟩ := waited.exists_run run
      obtain ⟨ticker, fetching⟩ := Fetching.of_run created isLocal (runLater.step moves)
      let ended : DownloadEnd := ⟨refresh, result⟩
      have ends :
          ClientTransition.downloadEnd?
              ⟨later, .turn place,
                later.update place ⟨moved.endDownload later.now refresh result, none, []⟩⟩ =
            some ended := by
        have found : later.task? place = some (.download refresh exchange) := works
        simp [ClientTransition.downloadEnd?, found, ClientTask.downloadEnd?, later, possible, ended]
      have outcome : ticker.outcome? refresh = some ended.definitions?.isSome :=
        fetching.outcome.mpr ⟨ended, by simp [downloadEnds_snoc, ends], rfl, rfl⟩
      refine ⟨_, ticker, _, waited.trans (.turn works taken), ?_, fetching.present, outcome⟩
      intro other task different found
      exact Configuration.task?_update_other different found _
termination_by exchange.stage.rank

/-- Whoever waits for a refresh will find its outcome. -/
private theorem exists_outcome
    (created : create settings surroundings = .ok client)
    (isLocal : settings.mode = .localEvaluation)
    (run : Run system client.fresh history configuration)
    {task : ClientTask}
    (found : configuration.task? place = some task)
    (waits : task.awaited? = some refresh) :
    ∃ later ticker succeeded,
      configuration.LeadsTo system later ∧
        later.task? place = some task ∧
        later.shared.definitions = some ticker ∧
        ticker.outcome? refresh = some succeeded := by
  obtain ⟨ticker, fetching⟩ := Fetching.of_run created isLocal run
  cases outcome : ticker.outcome? refresh with
  | some succeeded =>
      exact ⟨configuration, ticker, succeeded, .refl _ _, found, fetching.present, outcome⟩
  | none =>
      -- Without an outcome the refresh runs in the slot, so that some task carries it out.
      have running :=
        fetching.orderly.running?_of_outcome?_eq_none (fetching.known found waits) outcome
      have member : refresh ∈ configuration.collect ClientTask.download? := by
        simp [fetching.carried, running]
      obtain ⟨worker, download, works, carries⟩ := Configuration.mem_collect_iff.mp member
      cases download with
      | download number exchange =>
          obtain rfl : number = refresh := Option.some.inj carries
          have different : place ≠ worker := by
            rintro rfl
            cases Option.some.inj (found.symm.trans works)
            cases waits
          obtain ⟨later, ticker, succeeded, leads, undisturbed, rest⟩ :=
            exists_outcome_of_download created isLocal run works
          exact ⟨later, ticker, succeeded, leads, undisturbed different found, rest⟩
      | definitionsLoop | flushLoop | flush | flushing | delivery | caller =>
          cases carries

/-! ## Return -/

/-- A caller can take its turn. -/
def IsReady
    (configuration : Configuration Client ClientTask)
    (stage : CallStage) :
    Prop :=
  (configuration.shared.turn configuration.now (.caller stage)).isSome = true

/-- Some time later a caller that drives an exchange can take its turn. -/
private theorem exists_ready_of_exchange?
    (online : configuration.shared.transport.isSome = true)
    (found : configuration.task? place = some (.caller stage))
    (drives : (ClientTask.caller stage).exchange? = some exchange) :
    ∃ ready,
      configuration.LeadsTo system ready ∧
        ready.task? place = some (.caller stage) ∧
        IsReady ready stage := by
  obtain ⟨duration, moved, progress, possible⟩ :=
    exists_exchange? online configuration.now exchange
  refine ⟨_, .wait system configuration duration, found, ?_⟩
  unfold ClientTask.exchange? at drives
  split at drives
  all_goals cases drives
  all_goals rename_i same
  all_goals cases same
  all_goals cases progress <;> simp [IsReady, Client.turn, callerTurn, possible]

/-- Whoever has not been answered can take its turn some time. -/
private theorem exists_ready
    (created : create settings surroundings = .ok client)
    (run : Run system client.fresh history configuration)
    (found : configuration.task? place = some (.caller stage))
    (unanswered : ∀ answer, stage ≠ .answered answer) :
    ∃ ready,
      configuration.LeadsTo system ready ∧
        ready.task? place = some (.caller stage) ∧
        IsReady ready stage := by
  have equipped : IsEquipped (.of settings surroundings) configuration := .of_run created run
  have needs := equipped.tasks found
  cases stage with
  | begun | resolving =>
      exact ⟨configuration, .refl _ _, found, rfl⟩
  | updating updates =>
      cases updates <;> exact ⟨configuration, .refl _ _, found, rfl⟩
  | reporting reports =>
      cases reports <;> exact ⟨configuration, .refl _ _, found, rfl⟩
  | asking =>
      have hasDefinitions := congrArg Equipment.hasDefinitions equipped.kept
      obtain ⟨ticker, present⟩ := Option.isSome_iff_exists.mp (hasDefinitions.trans needs.2)
      refine ⟨configuration, .refl _ _, found, ?_⟩
      simp [IsReady, Client.turn, callerTurn, present]
  | draining =>
      refine ⟨configuration, .refl _ _, found, ?_⟩
      simp only [IsReady, Client.turn, callerTurn]
      split <;> rfl
  | requesting =>
      refine ⟨configuration, .refl _ _, found, ?_⟩
      simp only [IsReady, Client.turn, callerTurn]
      split <;> rfl
  | evaluating =>
      have hasTransport := congrArg Equipment.hasTransport equipped.kept
      exact exists_ready_of_exchange? (hasTransport.trans needs.2) found rfl
  | flushing =>
      have hasTransport := congrArg Equipment.hasTransport equipped.kept
      exact exists_ready_of_exchange? (hasTransport.trans needs) found rfl
  | downloading query refresh =>
      obtain ⟨later, ticker, succeeded, leads, there, present, outcome⟩ :=
        exists_outcome created needs.1 run found rfl
      refine ⟨later, leads, there, ?_⟩
      simp [IsReady, Client.turn, callerTurn, present, Ticker.await?, outcome]
  | refreshing refresh =>
      have isLocal : settings.mode = .localEvaluation := by
        simpa [ClientTask.IsEquipped, Equipment.of] using needs
      obtain ⟨later, ticker, succeeded, leads, there, present, outcome⟩ :=
        exists_outcome created isLocal run found rfl
      refine ⟨later, leads, there, ?_⟩
      simp [IsReady, Client.turn, callerTurn, present, Ticker.await?, outcome]
  | answered answer =>
      exact absurd rfl (unanswered answer)

/-- Some run from a configuration, with nothing done from outside, answers a caller. -/
def MayReturn
    (configuration : Configuration Client ClientTask)
    (place : Nat) :
    Prop :=
  ∃ later answer,
    configuration.LeadsTo system later ∧ later.task? place = some (.caller (.answered answer))

/-- Wherever a run has led, every caller may return. -/
theorem mayReturn_of_run
    (created : create settings surroundings = .ok client)
    {history : List ClientTransition}
    {configuration : Configuration Client ClientTask}
    {stage : CallStage}
    (run : Run system client.fresh history configuration)
    (found : configuration.task? place = some (.caller stage)) :
    MayReturn configuration place := by
  by_cases unanswered : ∀ answer, stage ≠ .answered answer
  · obtain ⟨ready, leads, there, isReady⟩ := exists_ready created run found unanswered
    obtain ⟨turn, taken⟩ := Option.isSome_iff_exists.mp isReady
    obtain ⟨whole, runReady⟩ := leads.exists_run run
    have takes : (ClientTask.caller stage).Takes ready.now ready.shared turn := .of_turn taken
    obtain ⟨next, left, proceeds⟩ := takes.proceeds (IsEquipped.of_run created runReady).kept
    have leadsOn := leads.trans (.turn there taken)
    obtain ⟨longer, runOn⟩ := leadsOn.exists_run run
    have closer := proceeds.rank_lt
    obtain ⟨later, answer, leadsLater, answered⟩ :=
      mayReturn_of_run created runOn ((Configuration.task?_update_self there turn).trans left)
    exact ⟨later, answer, leadsOn.trans leadsLater, answered⟩
  · obtain ⟨answer, same⟩ := Classical.not_forall.mp unanswered
    obtain rfl := Classical.not_not.mp same
    exact ⟨configuration, answer, .refl _ _, found⟩
termination_by stage.rank
decreasing_by exact closer

end Client

end FeatureFlags
