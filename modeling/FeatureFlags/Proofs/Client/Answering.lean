import FeatureFlags.Proofs.Client.Evaluating
import FeatureFlags.Proofs.Client.Returning
import FeatureFlags.Proofs.Feature.Merging

namespace FeatureFlags

/-!
# Answers

What callers are told, whatever the backend does. Failures of requests are no failures of
calls: features are resolved from whatever there is, and only a resolver that fails or the
disposal of the client makes a call fail.
-/

open FeatureFlags.Feature (Evaluated HoldsMerge IsMerge remoteFeaturesOfText)
open FeatureFlags.Transport (Exchange)

/-! ## What warrants an answer -/

/-- A caller is answered in a transition. -/
structure ClientTransition.Answers
    (transition : ClientTransition)
    (place : Nat)
    (answer : Except Failure Answer) :
    Prop where
  before : transition.before.task? place ≠ some (.caller (.answered answer))
  after : transition.after.task? place = some (.caller (.answered answer))

/-- A caller that requests a download comes to share the one that is in flight from then on. -/
structure ClientTransition.Shares
    (transition : ClientTransition)
    (place refresh : Nat) :
    Prop where
  requests : transition.before.task? place = some (.caller .requesting)
  waits : transition.after.task? place = some (.caller (.refreshing refresh))
  inFlight : transition.after.shared.definitions.bind Ticker.inFlight? = some refresh

/-- Whoever comes to wait for a download that it requested shares the one in flight. -/
private theorem CallStage.Proceeds.shares
    {transition : ClientTransition}
    {place refresh : Nat}
    {stage reached : CallStage}
    (proceeds :
      stage.Proceeds transition.before.now transition.before.shared transition.after.shared
        reached)
    (found : transition.before.task? place = some (.caller stage))
    (waits : transition.after.task? place = some (.caller reached))
    (isRefreshing : reached = .refreshing refresh) :
    transition.Shares place refresh := by
  cases proceeds with
  | requests present inFlight =>
      cases isRefreshing
      exact ⟨found, waits, by simp [present, inFlight]⟩
  | enters =>
      rename_i call _
      cases call <;> cases isRefreshing
  | refused | updates | updated | shut | resolvesOffline | resolvesRemotely | misses | asks
  | evaluates | reports | reported | evaluating | evaluated | drainsNothing | drains | flushing
  | flushed | requestsNothing | refreshed =>
      cases isRefreshing

namespace Client

/-- The exchange by which the backend evaluates for the caller at a place ends next. -/
def EvaluationEnds
    (before : Configuration Client ClientTask)
    (place : Nat)
    (query : Query)
    (exchange : Exchange)
    (result : Except Failure Transport.Content) :
    Prop :=
  before.task? place = some (.caller (.evaluating query exchange)) ∧
    ∃ moved, before.shared.exchange? before.now exchange = some (moved, .ended result)

/-- Where the base set of a query is from that is answered after a history. -/
inductive IsBase
    (settings : Settings)
    (surroundings : Surroundings)
    (history : List ClientTransition)
    (before : Configuration Client ClientTask)
    (place : Nat)
    (query : Query) :
    Table Evaluated → Prop where
  | offline :
      settings.mode = .offline →
      IsBase settings surroundings history before place query .empty
  /-- The definitions of the last download that succeeded before the evaluation count. -/
  | evaluated
      {earlier later : List ClientTransition}
      {looks : ClientTransition}
      {base : Table Evaluated} :
      settings.mode = .localEvaluation →
      history = earlier ++ looks :: later →
      looks.Evaluates place query base →
      base =
        localBase query.fields (surroundings.wallClock looks.before.now)
          ((latestDefinitions? earlier).getD []) →
      IsBase settings surroundings history before place query base
  | received
      {exchange : Exchange}
      {result : Except Failure Transport.Content}
      {text : String}
      {content : Feature.RemoteFeatures} :
      settings.mode = .remoteEvaluation →
      EvaluationEnds before place query exchange result →
      exchange.stage = .reading (.ok text) →
      remoteFeaturesOfText text = .ok content →
      IsBase settings surroundings history before place query
        (byKey (content.features.map fun feature => feature.toEvaluated query.fields))
  | failed
      {exchange : Exchange}
      {failure : Failure} :
      settings.mode = .remoteEvaluation →
      EvaluationEnds before place query exchange (.error failure) →
      IsBase settings surroundings history before place query .empty

/-- What warrants the answer to a call that is given at a place after a history. -/
inductive Warrants
    (settings : Settings)
    (surroundings : Surroundings)
    (history : List ClientTransition)
    (before : Configuration Client ClientTask)
    (place : Nat) :
    Call → Except Failure Answer → Prop where
  | refused
      {call : Call}
      {failure : Failure} :
      before.shared.disposed = true →
      failure.kind = .disposed →
      Warrants settings surroundings history before place call (.error failure)
  /-- The first resolver that fails does so with its reason. -/
  | resolverFails
      {call : Call}
      {query : Query}
      {earlier later : List Feature.Resolver}
      {failing : Feature.Resolver}
      {reason : String} :
      call.query? = some query →
      settings.resolvers = earlier ++ failing :: later →
      (∀ resolver ∈ earlier, ∃ features, resolver query.context = .ok features) →
      failing query.context = .error reason →
      Warrants settings surroundings history before place call (.error (resolverFailure reason))
  /-- The features of all resolvers are merged over the base set. -/
  | resolved
      {call : Call}
      {query : Query}
      {base merged : Table Evaluated}
      {decided : List (List Evaluated)} :
      call.query? = some query →
      IsBase settings surroundings history before place query base →
      settings.resolvers.map (· query.context) = decided.map .ok →
      IsMerge query.fields base decided.flatten merged →
      Warrants settings surroundings history before place call (.ok (query.answer merged))
  | flushed :
      Warrants settings surroundings history before place .flush (.ok .flushed)
  | notRefreshed :
      settings.mode ≠ .localEvaluation →
      Warrants settings surroundings history before place .refresh (.ok (.refreshed false))
  /-- The download that the call has shared has ended, and gave definitions or not. -/
  | refreshed
      {shares : ClientTransition}
      {ended : DownloadEnd} :
      settings.mode = .localEvaluation →
      shares ∈ history →
      shares.Shares place ended.refresh →
      ended ∈ downloadEnds history →
      Warrants settings surroundings history before place .refresh
        (.ok (.refreshed ended.definitions?.isSome))

variable
  {settings : Settings}
  {surroundings : Surroundings}
  {client : Client}
  {history earlier later : List ClientTransition}
  {configuration before next last : Configuration Client ClientTask}
  {transition : ClientTransition}
  {move : Move ClientAction}
  {place : Nat}
  {call : Call}
  {query : Query}
  {base : Table Evaluated}

/-- The conclusion from a base set is warranted. -/
private theorem warrants_of_conclude
    (same : client.settings = settings)
    (asks : call.query? = some query)
    (isBase : IsBase settings surroundings history before place query base) :
    Warrants settings surroundings history before place call (client.conclude query base).2 := by
  rcases Feature.succeed_or_first_fails query.context settings.resolvers with
    ⟨answers, succeed⟩ | ⟨earlier, failing, later, reason, shape, succeed, fails⟩
  · obtain ⟨merged, resolved, holds⟩ :=
      (HoldsMerge.initial query.fields base).resolveAll succeed client.consultations
    have concluded : (client.conclude query base).2 = .ok (query.answer merged) := by
      simp [conclude, same, resolved]
    rw [concluded]
    exact .resolved asks isBase succeed (by simpa using holds.isMerge)
  · have failed :=
      Feature.resolveAll_eq_error succeed fails query.fields later client.consultations base
    have concluded : (client.conclude query base).2 = .error (resolverFailure reason) := by
      simp [conclude, same, shape, failed]
    rw [concluded]
    exact .resolverFails asks shape succeed fails

/-- What the backend gave, or failed to give, is a base set. -/
private theorem isBase_of_ended
    (isRemote : settings.mode = .remoteEvaluation)
    (routed : ∀ {place task}, before.task? place = some task → task.IsRouted)
    {exchange : Exchange}
    {result : Except Failure Transport.Content}
    (ends : EvaluationEnds before place query exchange result) :
    IsBase settings surroundings history before place query (remoteBase query.fields result) := by
  cases result with
  | error failure =>
      exact .failed isRemote ends
  | ok content =>
      obtain ⟨found, moved, possible⟩ := ends
      obtain ⟨transport, after, -, moves, -⟩ := exists_of_exchange? possible
      obtain ⟨body, reads, given⟩ := (Exchange.Moves.of_move? moves).of_ended_ok rfl
      have endpoint : exchange.request.endpoint = .evaluations := routed found
      rw [endpoint] at given
      obtain ⟨text, content, rfl, parsed, rfl⟩ :=
        Transport.readBody_evaluations_eq_ok_iff.mp given
      exact .received isRemote ⟨found, moved, possible⟩ reads parsed

/-- Whoever waits for a download that it has requested has come to share it. -/
private theorem exists_shares_of_run
    (created : create settings surroundings = .ok client)
    (run : Run system client.fresh history last)
    {refresh : Nat}
    (waits : last.task? place = some (.caller (.refreshing refresh))) :
    ∃ shares ∈ history, shares.Shares place refresh := by
  have nobody : client.fresh.task? place ≠ some (.caller (.refreshing refresh)) := by
    intro there
    rcases isLoop_of_fresh there with same | same <;> cases same
  obtain ⟨earlier, shares, later, rfl, notBefore, waitsAfter⟩ :=
    run.exists_change
      (fun configuration => configuration.task? place = some (.caller (.refreshing refresh)))
      nobody waits
  obtain ⟨runBefore, possible⟩ := run.of_split
  rcases caller_cases (.of_run created runBefore) possible waitsAfter with
    same | ⟨call, -, -, begun⟩ | ⟨stage, -, there, proceeds⟩
  · exact absurd same notBefore
  · cases begun
  · exact ⟨shares, by simp, proceeds.shares there waitsAfter rfl⟩

/-- Whatever a caller is told is warranted. -/
private theorem warrants_of_proceeds
    (created : create settings surroundings = .ok client)
    (run : Run system client.fresh history before)
    {stage reached : CallStage}
    {answer : Except Failure Answer}
    {after : Client}
    (found : before.task? place = some (.caller stage))
    (serves : stage.Serves call)
    (proceeds : stage.Proceeds before.now before.shared after reached)
    (answered : reached = .answered answer) :
    Warrants settings surroundings history before place call answer := by
  have equipped : IsEquipped (.of settings surroundings) before := .of_run created run
  have same : before.shared.settings = settings := congrArg Equipment.settings equipped.kept
  have needs := equipped.tasks found
  cases proceeds with
  | refused disposed =>
      cases answered
      exact .refused disposed rfl
  | shut looks present disposed =>
      cases answered
      -- The ticker is never disposed on its own, so the client has been disposed with it.
      obtain ⟨kept, fetching⟩ :=
        Fetching.of_run created (equipped.mode_of_definitions present) run
      obtain rfl := Option.some.inj (present.symm.trans fetching.present)
      exact .refused (fetching.disposed.symm.trans disposed) rfl
  | resolvesOffline isOffline =>
      cases answered
      exact warrants_of_conclude same serves (.offline (same ▸ isOffline))
  | @reported query base =>
      cases answered
      have isLocal : settings.mode = .localEvaluation := needs
      have has : baseAt? before place = some (query, base) := by
        simp [baseAt?, found, ClientTask.base?]
      obtain ⟨earlier, looks, later, rfl, evaluates⟩ := exists_evaluates_of_baseAt? run has
      obtain ⟨runBefore, possible⟩ := run.of_split
      have base := eq_localBase_of_evaluates created isLocal runBefore possible evaluates
      exact warrants_of_conclude same serves (.evaluated isLocal rfl evaluates base)
  | evaluated possible =>
      cases answered
      have isRemote : settings.mode = .remoteEvaluation := needs.1
      have online : settings.mode ≠ .offline := by simp [isRemote]
      obtain ⟨transport, isFirst, -, -⟩ := transport_of_create created online
      have trades : Trades transport settings history before :=
        .of_run created online isFirst run
      exact
        warrants_of_conclude same serves
          (isBase_of_ended isRemote trades.routed ⟨found, _, possible⟩)
  | drainsNothing | flushed =>
      cases answered
      cases serves
      exact .flushed
  | requestsNothing notLocal =>
      cases answered
      cases serves
      exact .notRefreshed (same ▸ notLocal)
  | refreshed present outcome =>
      cases answered
      cases serves
      have isLocal := equipped.mode_of_definitions present
      obtain ⟨kept, fetching⟩ := Fetching.of_run created isLocal run
      obtain rfl := Option.some.inj (present.symm.trans fetching.present)
      obtain ⟨ended, member, rfl, rfl⟩ := fetching.outcome.mp outcome
      obtain ⟨shares, earlier, isShared⟩ := exists_shares_of_run created run found
      exact .refreshed isLocal earlier isShared member
  | enters =>
      cases serves
      cases call <;> cases answered
  | updates | updated | resolvesRemotely | misses | asks | evaluates | reports | evaluating
  | drains | flushing | requests =>
      cases answered

/-- Whoever has been answered was answered after its call, with a warrant. -/
private theorem exists_warrants_of_call
    (created : create settings surroundings = .ok client)
    {begins : ClientTransition}
    (run : Run system client.fresh (earlier ++ begins :: later) last)
    (called : begins.move = .intervene (.call call))
    {answer : Except Failure Answer}
    (answered : last.task? begins.before.tasks.length = some (.caller (.answered answer))) :
    ∃ between answers rest,
      later = between ++ answers :: rest ∧
        answers.Answers begins.before.tasks.length answer ∧
        Warrants settings surroundings (earlier ++ begins :: between) answers.before
          begins.before.tasks.length call answer := by
  have notYet :
      begins.after.task? begins.before.tasks.length ≠ some (.caller (.answered answer)) := by
    intro already
    have possible := called ▸ run.of_split.2
    cases (task?_of_call possible).symm.trans already
  obtain ⟨between, answers, rest, rfl, before, after⟩ :=
    run.of_split_later.exists_change
      (fun configuration =>
        configuration.task? begins.before.tasks.length = some (.caller (.answered answer)))
      notYet answered
  -- What the answer rests on is read off right before the transition that gives it.
  rw [← List.cons_append, ← List.append_assoc] at run
  obtain ⟨runBefore, possible⟩ := run.of_split
  obtain ⟨stage, there, serves⟩ := exists_serves_of_call created runBefore called
  rcases proceeds_of_after? (.of_run created runBefore) possible there with
    same | ⟨reached, -, left, proceeds⟩
  · exact absurd (there.trans (same.symm.trans after)) before
  · cases left.symm.trans after
    exact
      ⟨between, answers, rest, rfl, ⟨before, after⟩,
        warrants_of_proceeds created runBefore there serves proceeds rfl⟩

/-- Where no download succeeds, the definitions at hand stay in force. -/
private theorem kept_of_after?
    (created : create settings surroundings = .ok client)
    (run : Run system client.fresh history before)
    (possible : before.after? system move = some next)
    (unsuccessful :
      (ClientTransition.downloadEnd? ⟨before, move, next⟩).bind DownloadEnd.definitions? =
        none) :
    next.shared.definitions.map (·.last.map (·.1)) =
      before.shared.definitions.map (·.last.map (·.1)) := by
  by_cases isLocal : settings.mode = .localEvaluation
  · obtain ⟨ticker, fetching⟩ := Fetching.of_run created isLocal run
    obtain ⟨after, fetchingAfter⟩ := Fetching.of_run created isLocal (run.step possible)
    have kept := fetchingAfter.kept
    rw [latestDefinitions?_snoc, unsuccessful, Option.none_or] at kept
    rw [fetching.present, fetchingAfter.present, Option.map_some, Option.map_some, fetching.kept,
      kept]
  · have absent
        {configuration : Configuration Client ClientTask}
        (equipped : IsEquipped (.of settings surroundings) configuration) :
        configuration.shared.definitions = none :=
      Option.eq_none_iff_forall_ne_some.mpr fun ticker present =>
        isLocal (equipped.mode_of_definitions present)
    rw [absent (.of_run created run), absent (.of_run created (run.step possible))]

/-! ## Runs -/

/-- What becomes of calls along a history, whatever the backend does. -/
structure AnswersDespiteFailures
    (settings : Settings)
    (surroundings : Surroundings)
    (history : List ClientTransition)
    (last : Configuration Client ClientTask) :
    Prop where
  /-- Every call may return, and nothing has to be done from outside for that. -/
  returns :
    ∀ {earlier begins later call},
      history = earlier ++ begins :: later →
      begins.move = .intervene (.call call) →
      MayReturn last begins.before.tasks.length
  /-- A call that has returned was given its answer with a warrant. -/
  warranted :
    ∀ {earlier begins later call answer},
      history = earlier ++ begins :: later →
      begins.move = .intervene (.call call) →
      last.task? begins.before.tasks.length = some (.caller (.answered answer)) →
      ∃ between answers rest,
        later = between ++ answers :: rest ∧
          answers.Answers begins.before.tasks.length answer ∧
          Warrants settings surroundings (earlier ++ begins :: between) answers.before
            begins.before.tasks.length call answer
  /-- A call for features fails with a resolver only, unless the client is disposed first. -/
  failures :
    ∀ {earlier begins later call query failure},
      history = earlier ++ begins :: later →
      begins.move = .intervene (.call call) →
      call.query? = some query →
      last.task? begins.before.tasks.length = some (.caller (.answered (.error failure))) →
      (∃ answers ∈ later,
        answers.Answers begins.before.tasks.length (.error failure) ∧
          answers.before.shared.disposed = true) ∨
      ∃ resolver ∈ settings.resolvers, ∃ reason,
        resolver query.context = .error reason ∧ failure = resolverFailure reason
  /-- Whoever flushes is told that all has been sent, unless the client is disposed first. -/
  flushes :
    ∀ {earlier begins later answer},
      history = earlier ++ begins :: later →
      begins.move = .intervene (.call .flush) →
      (∀ transition ∈ later, transition.before.shared.disposed = false) →
      last.task? begins.before.tasks.length = some (.caller (.answered answer)) →
      answer = .ok .flushed
  /-- Whoever requests a download is told how the one ended that it has shared. -/
  refreshes :
    ∀ {earlier begins later answer},
      settings.mode = .localEvaluation →
      history = earlier ++ begins :: later →
      begins.move = .intervene (.call .refresh) →
      (∀ transition ∈ later, transition.before.shared.disposed = false) →
      last.task? begins.before.tasks.length = some (.caller (.answered answer)) →
      ∃ shares ∈ history, ∃ ended ∈ downloadEnds history,
        shares.Shares begins.before.tasks.length ended.refresh ∧
          answer = .ok (.refreshed ended.definitions?.isSome)
  /-- A download ends only once. -/
  endsOnce :
    settings.mode = .localEvaluation →
    ((downloadEnds history).map (·.refresh)).Nodup
  /-- The definitions at hand stay in force unless a download succeeds. -/
  kept :
    ∀ {earlier transition later},
      history = earlier ++ transition :: later →
      transition.downloadEnd?.bind DownloadEnd.definitions? = none →
      transition.after.shared.definitions.map (·.last.map (·.1)) =
        transition.before.shared.definitions.map (·.last.map (·.1))

/-- Calls are answered along every run, in every mode, whatever the backend does. -/
theorem run_answersDespiteFailures
    (created : create settings surroundings = .ok client)
    (run : Run system client.fresh history last) :
    AnswersDespiteFailures settings surroundings history last := by
  constructor
  case returns =>
    rintro earlier begins later call rfl called
    obtain ⟨stage, found, -⟩ := exists_serves_of_call created run called
    exact mayReturn_of_run created run found
  case warranted =>
    rintro earlier begins later call answer rfl called answered
    exact exists_warrants_of_call created run called answered
  case failures =>
    rintro earlier begins later call query failure rfl called asks answered
    obtain ⟨between, answers, rest, rfl, isAnswer, warrants⟩ :=
      exists_warrants_of_call created run called answered
    cases warrants with
    | refused disposed =>
        exact .inl ⟨answers, by simp, isAnswer, disposed⟩
    | resolverFails asked shape _ fails =>
        cases asked.symm.trans asks
        exact .inr ⟨_, by simp [shape], _, fails, rfl⟩
  case flushes =>
    rintro earlier begins later answer rfl called undisposed answered
    obtain ⟨between, answers, rest, rfl, -, warrants⟩ :=
      exists_warrants_of_call created run called answered
    cases warrants with
    | refused disposed =>
        cases (undisposed answers (by simp)).symm.trans disposed
    | resolverFails asked | resolved asked =>
        cases asked
    | flushed =>
        rfl
  case refreshes =>
    rintro earlier begins later answer isLocal rfl called undisposed answered
    obtain ⟨between, answers, rest, rfl, -, warrants⟩ :=
      exists_warrants_of_call created run called answered
    cases warrants with
    | refused disposed =>
        cases (undisposed answers (by simp)).symm.trans disposed
    | resolverFails asked | resolved asked =>
        cases asked
    | notRefreshed notLocal =>
        exact absurd isLocal notLocal
    | refreshed _ earlierShares shares hasEnded =>
        rw [← List.cons_append, ← List.append_assoc]
        exact
          ⟨_, List.mem_append_left _ earlierShares, _, mem_downloadEnds_append hasEnded _, shares,
            rfl⟩
  case endsOnce =>
    intro isLocal
    obtain ⟨ticker, fetching⟩ := Fetching.of_run created isLocal run
    exact fetching.distinct
  case kept =>
    rintro earlier ⟨before, move, after⟩ later rfl unsuccessful
    obtain ⟨runBefore, possible⟩ := run.of_split
    exact kept_of_after? created runBefore possible unsuccessful

end Client

/-! ## A backend that always fails -/

/-- A client that evaluates definitions itself, and has a feature of its own. -/
def Settings.withBeta : Settings :=
  { Settings.everyMinute with resolvers := [fun _ => .ok [{ key := "beta", enabled := true }]] }

/-- What a caller has been told, in brief: the keys of all features, or how it went. -/
def ClientTask.told? : ClientTask → Option (List String × Bool)
  | .caller (.answered (.ok (.features features))) => some (features.keys, true)
  | .caller (.answered (.ok .flushed)) => some ([], true)
  | .caller (.answered (.ok (.refreshed succeeded))) => some ([], succeeded)
  | _ => none

namespace Client

/-- A query is given the own feature, a requested download fails, and a flush succeeds. -/
theorem run_answeredAtFailingBackend :
    ∃ (client : Client)
      (history : List ClientTransition)
      (last : Configuration Client ClientTask),
      create .withBeta .failing = .ok client ∧
        Run system client.fresh history last ∧
        [2, 5, 8].map (fun place => (last.task? place).bind ClientTask.told?) =
          [some (["beta"], true), some ([], false), some ([], true)] ∧
        AnswersDespiteFailures .withBeta .failing history last := by
  let moves : List (Move ClientAction) :=
    [.intervene (.call (.features {})), .turn 2, .turn 2, .turn 2, .turn 3, .turn 3, .turn 2,
      .turn 2, .intervene (.call .refresh), .turn 5, .turn 5, .turn 6, .turn 6, .turn 5,
      .intervene (.call .flush), .turn 8, .turn 8]
  have observed :
      (trace? .withBeta .failing moves).map (fun (_, _, last) =>
          [2, 5, 8].map fun place => (last.task? place).bind ClientTask.told?) =
        some [some (["beta"], true), some ([], false), some ([], true)] := by
    decide +kernel
  obtain ⟨⟨client, history, last⟩, traced, seen⟩ := Option.map_eq_some_iff.mp observed
  obtain ⟨created, run⟩ := run_of_trace? traced
  exact ⟨client, history, last, created, run, seen, run_answersDespiteFailures created run⟩

end Client

end FeatureFlags
