import FeatureFlags.Proofs.Client.Callers
import FeatureFlags.Proofs.Client.Fetching
import FeatureFlags.Proofs.Client.Pacing
import FeatureFlags.Proofs.Client.Posting
import FeatureFlags.Proofs.Table

namespace FeatureFlags

/-!
# Evaluating definitions

A client that evaluates definitions itself gives every query the features of the download
that was the last to succeed when the query came to its evaluation. Nothing else counts.
-/

open FeatureFlags.Feature (Definition Evaluated Prepared definitionsOfText)
open FeatureFlags.Telemetry (Message)
open FeatureFlags.Transport (Exchange Progress)

/-! ## Base sets -/

namespace Client

/-- The base set that definitions give on fields at an instant. -/
def localBase
    (fields : Fields)
    (instant : Time.Instant)
    (definitions : List Definition) :
    Table Evaluated :=
  byKey (evaluateAll fields instant (definitions.map Prepared.ofDefinition))

/-- In a base set, a key has the evaluation of its last definition. -/
theorem get?_localBase
    (fields : Fields)
    (instant : Time.Instant)
    (definitions : List Definition)
    (key : String) :
    (localBase fields instant definitions).get? key =
      (definitions.filter (·.key = key)).getLast?.map fun definition =>
        (Prepared.ofDefinition definition).evaluate fields instant := by
  let entry (definition : Definition) : String × Evaluated :=
    (definition.key, (Prepared.ofDefinition definition).evaluate fields instant)
  have entries : localBase fields instant definitions = .ofList (definitions.map entry) := by
    simp only [localBase, byKey, evaluateAll, List.map_map]
    rfl
  rw [entries, Table.get?_ofList, List.filter_map, List.getLast?_map, Option.map_map]
  rfl

end Client

/-- The query of a caller that has evaluated the definitions, and its base set. -/
def ClientTask.base? : ClientTask → Option (Query × Table Evaluated)
  | .caller (.reporting _ query base) => some (query, base)
  | _ => none

/-- What the caller at a place has evaluated. -/
def Client.baseAt?
    (configuration : Configuration Client ClientTask)
    (place : Nat) :
    Option (Query × Table Evaluated) :=
  (configuration.task? place).bind ClientTask.base?

open Client (baseAt? localBase latestDefinitions?)

/-- A query comes to its evaluation in a transition, which gives it a base set. -/
structure ClientTransition.Evaluates
    (transition : ClientTransition)
    (place : Nat)
    (query : Query)
    (base : Table Evaluated) :
    Prop where
  before : baseAt? transition.before place ≠ some (query, base)
  after : baseAt? transition.after place = some (query, base)

/-- The body that a download reads in a transition is a text with definitions. -/
def ClientTransition.Obtains
    (transition : ClientTransition)
    (definitions : List Definition) :
    Prop :=
  ∃ place refresh exchange text,
    transition.move = .turn place ∧
      transition.before.task? place = some (.download refresh exchange) ∧
      exchange.stage = .reading (.ok text) ∧
      definitionsOfText text = .ok definitions

/-! ## Ways to an evaluation -/

/-- Whoever has come to its evaluation has evaluated what was kept. -/
theorem CallStage.Proceeds.of_reporting
    {now : Moment}
    {client after : Client}
    {stage reached : CallStage}
    {reports : List Message}
    {query : Query}
    {base : Table Evaluated}
    (proceeds : stage.Proceeds now client after reached)
    (isReporting : reached = .reporting reports query base) :
    (ClientTask.caller stage).base? = some (query, base) ∨
    (stage = .resolving query ∨ ∃ refresh, stage = .downloading query refresh) ∧
      ∃ ticker,
        client.definitions = some ticker ∧
          base =
            Client.byKey
              (Client.evaluateAll query.fields (client.wallClock now)
                ((ticker.last.map (·.1)).getD [])) := by
  cases proceeds with
  | enters =>
      rename_i call _
      cases call <;> cases isReporting
  | evaluates isQuery present =>
      cases isReporting
      exact .inr ⟨isQuery, _, present, rfl⟩
  | reports =>
      cases isReporting
      exact .inl rfl
  | refused | updates | updated | shut | resolvesOffline | resolvesRemotely | misses | asks
  | reported | evaluating | evaluated | drainsNothing | drains | flushing | flushed
  | requestsNothing | requests | refreshed =>
      cases isReporting

namespace Client

variable
  {settings : Settings}
  {surroundings : Surroundings}
  {client : Client}
  {history earlier later : List ClientTransition}
  {configuration next last : Configuration Client ClientTask}
  {transition : ClientTransition}
  {move : Move ClientAction}
  {place : Nat}
  {query : Query}
  {base : Table Evaluated}

theorem exists_reporting_of_baseAt?
    (has : baseAt? configuration place = some (query, base)) :
    ∃ reports, configuration.task? place = some (.caller (.reporting reports query base)) := by
  obtain ⟨task, found, evaluated⟩ := Option.bind_eq_some_iff.mp has
  unfold ClientTask.base? at evaluated
  split at evaluated
  · cases evaluated
    exact ⟨_, found⟩
  · cases evaluated

/-- Whoever comes to its evaluation does so from an earlier stage. -/
theorem exists_proceeds_of_evaluates
    (equipped : IsEquipped (.of settings surroundings) transition.before)
    (possible : transition.before.after? system transition.move = some transition.after)
    (evaluates : transition.Evaluates place query base) :
    ∃ stage reports,
      transition.before.task? place = some (.caller stage) ∧
        transition.after.task? place = some (.caller (.reporting reports query base)) ∧
        (ClientTask.caller stage).base? ≠ some (query, base) ∧
        stage.Proceeds transition.before.now transition.before.shared transition.after.shared
          (.reporting reports query base) := by
  obtain ⟨reports, found⟩ := exists_reporting_of_baseAt? evaluates.after
  rcases caller_cases equipped possible found with
    same | ⟨call, -, -, begun⟩ | ⟨stage, -, there, proceeds⟩
  · have already : baseAt? transition.before place = some (query, base) := by
      simp [baseAt?, same, ClientTask.base?]
    exact absurd already evaluates.before
  · cases begun
  · refine ⟨stage, reports, there, found, ?_, proceeds⟩
    intro had
    have already : baseAt? transition.before place = some (query, base) := by
      simpa [baseAt?, there] using had
    exact evaluates.before already

/-- What a query is given at its evaluation. -/
theorem eq_localBase_of_evaluates
    (created : create settings surroundings = .ok client)
    (isLocal : settings.mode = .localEvaluation)
    (run : Run system client.fresh earlier transition.before)
    (possible : transition.before.after? system transition.move = some transition.after)
    (evaluates : transition.Evaluates place query base) :
    base =
      localBase query.fields (surroundings.wallClock transition.before.now)
        ((latestDefinitions? earlier).getD []) := by
  have equipped := IsEquipped.of_run created run
  obtain ⟨stage, reports, -, -, hadNot, proceeds⟩ :=
    exists_proceeds_of_evaluates equipped possible evaluates
  -- The base set is new, so it has been made in this transition, of what the ticker keeps by now.
  rcases proceeds.of_reporting rfl with had | ⟨-, ticker, present, rfl⟩
  · exact absurd had hadNot
  · obtain ⟨kept, fetching⟩ := Fetching.of_run created isLocal run
    obtain rfl := Option.some.inj (present.symm.trans fetching.present)
    have clock : transition.before.shared.wallClock = surroundings.wallClock :=
      congrArg Equipment.wallClock equipped.kept
    rw [clock, fetching.kept, localBase]
    cases latestDefinitions? earlier <;> rfl

/-- Whoever comes to its evaluation has called with its query. -/
private theorem exists_call_of_evaluates
    (created : create settings surroundings = .ok client)
    (run : Run system client.fresh earlier transition.before)
    (possible : transition.before.after? system transition.move = some transition.after)
    (evaluates : transition.Evaluates place query base) :
    ∃ begins ∈ earlier, ∃ call,
      begins.move = .intervene (.call call) ∧
        begins.before.tasks.length = place ∧
        call.query? = some query := by
  obtain ⟨stage, reports, there, -, -, proceeds⟩ :=
    exists_proceeds_of_evaluates (.of_run created run) possible evaluates
  obtain ⟨before, begins, after, call, rfl, called, length, serves⟩ :=
    exists_call_of_caller created run there
  exact
    ⟨begins, List.mem_append_right _ List.mem_cons_self, call, called, length,
      proceeds.serves serves⟩

/-- Whoever has a base set has come to its evaluation. -/
theorem exists_evaluates_of_baseAt?
    (run : Run system client.fresh history last)
    (has : baseAt? last place = some (query, base)) :
    ∃ earlier looks later,
      history = earlier ++ looks :: later ∧ looks.Evaluates place query base := by
  have nothing : baseAt? client.fresh place ≠ some (query, base) := by
    intro already
    obtain ⟨reports, found⟩ := exists_reporting_of_baseAt? already
    rcases isLoop_of_fresh found with same | same <;> cases same
  obtain ⟨earlier, looks, later, shape, before, after⟩ :=
    run.exists_change (fun configuration => baseAt? configuration place = some (query, base))
      nothing has
  exact ⟨earlier, looks, later, shape, before, after⟩

/-- Whoever is answered after its evaluation is answered from its base set. -/
theorem answer_of_baseAt?
    (equipped : IsEquipped (.of settings surroundings) configuration)
    (possible : configuration.after? system move = some next)
    (has : baseAt? configuration place = some (query, base))
    {answer : Except Failure Answer}
    (answered : next.task? place = some (.caller (.answered answer))) :
    answer = (configuration.shared.conclude query base).2 := by
  obtain ⟨reports, found⟩ := exists_reporting_of_baseAt? has
  rcases proceeds_of_after? equipped possible found with same | ⟨reached, -, left, proceeds⟩
  · cases same.symm.trans answered
  · cases left.symm.trans answered
    cases proceeds with
    | shut looks =>
        cases looks
    | reported =>
        rfl

/-- A download ends with definitions when it reads them, and not otherwise. -/
theorem obtains_iff
    (online : transition.before.shared.transport.isSome = true)
    (routed : ∀ {place task}, transition.before.task? place = some task → task.IsRouted)
    {definitions : List Definition} :
    transition.Obtains definitions ↔
      transition.downloadEnd?.bind DownloadEnd.definitions? = some definitions := by
  obtain ⟨transport, present⟩ := Option.isSome_iff_exists.mp online
  constructor
  · rintro ⟨place, refresh, exchange, text, turns, found, reads, parsed⟩
    have endpoint : exchange.request.endpoint = .definitions := routed found
    have content :
        exchange.request.endpoint.readBody (.ok text) = .ok (.definitions definitions) := by
      rw [endpoint]
      exact Transport.readBody_definitions_eq_ok_iff.mpr ⟨text, definitions, rfl, parsed, rfl⟩
    simp [ClientTransition.downloadEnd?, turns, found, ClientTask.downloadEnd?, exchange?, present,
      Exchange.move?, reads, content, Transport.conclude, DownloadEnd.definitions?,
      Progress.definitions?]
  · intro gives
    obtain ⟨ended, ends, succeeded⟩ := Option.bind_eq_some_iff.mp gives
    unfold ClientTransition.downloadEnd? at ends
    split at ends
    · rename_i place turns
      obtain ⟨task, found, ends⟩ := Option.bind_eq_some_iff.mp ends
      unfold ClientTask.downloadEnd? at ends
      split at ends
      · rename_i refresh exchange
        split at ends
        · rename_i moved result possible
          cases ends
          obtain ⟨transport, after, -, moves, -⟩ := exists_of_exchange? possible
          have result := DownloadEnd.definitions?_eq_some_iff.mp succeeded
          obtain ⟨body, reads, content⟩ :=
            (Exchange.Moves.of_move? moves).of_ended_ok (congrArg Progress.ended result)
          have endpoint : exchange.request.endpoint = .definitions := routed found
          rw [endpoint] at content
          obtain ⟨text, read, rfl, parsed, same⟩ :=
            Transport.readBody_definitions_eq_ok_iff.mp content
          cases same
          exact ⟨place, refresh, exchange, text, turns, found, reads, parsed⟩
        · cases ends
      · cases ends
    · cases ends

/-- The latest definitions are those that a download was the last to read. -/
private theorem latestDefinitions?_iff_obtains
    (created : create settings surroundings = .ok client)
    (isLocal : settings.mode = .localEvaluation)
    (run : Run system client.fresh history last)
    {definitions : List Definition} :
    latestDefinitions? history = some definitions ↔
      ∃ earlier reads later,
        history = earlier ++ reads :: later ∧
          reads.Obtains definitions ∧
          ∀ transition ∈ later, ∀ others, ¬ transition.Obtains others := by
  have online : settings.mode ≠ .offline := by simp [isLocal]
  obtain ⟨transport, found, -, -⟩ := transport_of_create created online
  have obtains
      {transition : ClientTransition}
      (member : transition ∈ history)
      {definitions : List Definition} :
      transition.Obtains definitions ↔
        transition.downloadEnd?.bind DownloadEnd.definitions? = some definitions := by
    obtain ⟨earlier, runBefore, -⟩ := run.of_mem member
    have trades : Trades transport settings earlier transition.before :=
      .of_run created online found runBefore
    exact
      obtains_iff ((IsEquipped.of_run created runBefore).isSome_transport online) trades.routed
  rw [latestDefinitions?_eq_some_iff]
  constructor
  · rintro ⟨earlier, reads, later, rfl, gives, silent⟩
    refine ⟨earlier, reads, later, rfl, (obtains (by simp)).mpr gives, ?_⟩
    intro other member others reads
    cases (silent other member).symm.trans ((obtains (by simp [member])).mp reads)
  · rintro ⟨earlier, reads, later, rfl, gives, silent⟩
    refine ⟨earlier, reads, later, rfl, (obtains (by simp)).mp gives, ?_⟩
    intro other member
    refine Option.eq_none_iff_forall_ne_some.mpr fun others gives => ?_
    exact silent other member others ((obtains (by simp [member])).mpr gives)

/-! ## Runs -/

/-- Queries are evaluated along a history on the latest definitions, and on nothing else. -/
structure EvaluatesLatest
    (surroundings : Surroundings)
    (history : List ClientTransition)
    (last : Configuration Client ClientTask) :
    Prop where
  /-- What a query is given depends on itself, the time, and the latest definitions by then. -/
  evaluated :
    ∀ {earlier looks later place query base},
      history = earlier ++ looks :: later →
      looks.Evaluates place query base →
      base =
        localBase query.fields (surroundings.wallClock looks.before.now)
          ((latestDefinitions? earlier).getD [])
  /-- Every definition is evaluated, and the last definition of a key counts. -/
  chosen :
    ∀ {earlier looks later place query base definitions},
      history = earlier ++ looks :: later →
      looks.Evaluates place query base →
      latestDefinitions? earlier = some definitions →
      ∀ key,
        base.get? key =
          (definitions.filter (·.key = key)).getLast?.map fun definition =>
            (Prepared.ofDefinition definition).evaluate query.fields
              (surroundings.wallClock looks.before.now)
  /-- Without definitions there are no features. -/
  absent :
    ∀ {earlier looks later place query base},
      history = earlier ++ looks :: later →
      looks.Evaluates place query base →
      latestDefinitions? earlier = none →
      base = .empty
  /-- The latest definitions are those that a download was the last to read. -/
  latest :
    ∀ {before after definitions},
      history = before ++ after →
      (latestDefinitions? before = some definitions ↔
        ∃ earlier reads later,
          before = earlier ++ reads :: later ∧
            reads.Obtains definitions ∧
            ∀ transition ∈ later, ∀ others, ¬ transition.Obtains others)
  /-- The query is that of the call at its place. -/
  asked :
    ∀ {earlier looks later place query base},
      history = earlier ++ looks :: later →
      looks.Evaluates place query base →
      ∃ begins ∈ earlier, ∃ call,
        begins.move = .intervene (.call call) ∧
          begins.before.tasks.length = place ∧
          call.query? = some query
  /-- Whoever has a base set has come to its evaluation. -/
  held :
    ∀ {place query base},
      baseAt? last place = some (query, base) →
      ∃ earlier looks later,
        history = earlier ++ looks :: later ∧ looks.Evaluates place query base
  /-- It is answered from that base set. -/
  answered :
    ∀ {earlier answers later place query base answer},
      history = earlier ++ answers :: later →
      baseAt? answers.before place = some (query, base) →
      answers.after.task? place = some (.caller (.answered answer)) →
      answer = (answers.before.shared.conclude query base).2

/-- Queries are evaluated on the latest definitions along every run. -/
theorem run_evaluatesLatest
    (created : create settings surroundings = .ok client)
    (isLocal : settings.mode = .localEvaluation)
    (run : Run system client.fresh history last) :
    EvaluatesLatest surroundings history last := by
  have evaluated
      {earlier later : List ClientTransition}
      {looks : ClientTransition}
      {place : Nat}
      {query : Query}
      {base : Table Evaluated}
      (shape : history = earlier ++ looks :: later)
      (evaluates : looks.Evaluates place query base) :
      base =
        localBase query.fields (surroundings.wallClock looks.before.now)
          ((latestDefinitions? earlier).getD []) := by
    subst shape
    obtain ⟨runBefore, possible⟩ := run.of_split
    exact eq_localBase_of_evaluates created isLocal runBefore possible evaluates
  constructor
  case evaluated =>
    exact evaluated
  case chosen =>
    intro earlier looks later place query base definitions shape evaluates latest key
    rw [evaluated shape evaluates, latest]
    exact get?_localBase query.fields _ definitions key
  case absent =>
    intro earlier looks later place query base shape evaluates none
    rw [evaluated shape evaluates, none]
    rfl
  case latest =>
    rintro before after definitions rfl
    cases after with
    | nil =>
        rw [List.append_nil] at run
        exact latestDefinitions?_iff_obtains created isLocal run
    | cons transition after =>
        exact latestDefinitions?_iff_obtains created isLocal run.of_split.1
  case asked =>
    rintro earlier looks later place query base rfl evaluates
    obtain ⟨runBefore, possible⟩ := run.of_split
    exact exists_call_of_evaluates created runBefore possible evaluates
  case held =>
    intro place query base has
    exact exists_evaluates_of_baseAt? run has
  case answered =>
    rintro earlier answers later place query base answer rfl has answered
    obtain ⟨runBefore, possible⟩ := run.of_split
    exact answer_of_baseAt? (.of_run created runBefore) possible has answered

end Client

/-- A backend that fails once, and then knows two definitions of a key. -/
def Surroundings.recovering : Surroundings where
  backend _ earlier :=
    if earlier = 0 then
      { arrival := .answered 500 (.ok "") }
    else
      .giving [.ofFeature "a" 1 [], .ofFeature "a" 2 []]
  wallClock _ := ⟨0, 0⟩

namespace Client

/-- The versions of the features that the caller at a place has evaluated. -/
def versionsAt?
    (configuration : Configuration Client ClientTask)
    (place : Nat) :
    Option (List (String × Option Int64)) :=
  (baseAt? configuration place).map fun (_, base) =>
    base.entries.map fun (key, evaluated) => (key, evaluated.targeting.map (·.version))

/-- The download for the first query fails; the second query comes after one that succeeds. -/
theorem run_askedBeforeAndAfterSuccess :
    ∃ (client : Client)
      (history : List ClientTransition)
      (last : Configuration Client ClientTask),
      create .everyMinute .recovering = .ok client ∧
        Settings.everyMinute.mode = .localEvaluation ∧
        Run system client.fresh history last ∧
        [2, 8].map (versionsAt? last) = [some [], some [("a", some 2)]] ∧
        EvaluatesLatest .recovering history last := by
  let moves : List (Move ClientAction) :=
    [.intervene (.call (.features {})), .turn 2, .turn 2, .turn 2, .turn 3, .turn 3, .turn 2,
      .intervene (.call .refresh), .turn 5, .turn 5, .turn 6, .turn 6, .turn 6,
      .intervene (.call (.features {})), .turn 8, .turn 8]
  have observed :
      (trace? .everyMinute .recovering moves).map (fun (_, _, last) =>
          [2, 8].map (versionsAt? last)) =
        some [some [], some [("a", some 2)]] := by
    decide +kernel
  obtain ⟨⟨client, history, last⟩, traced, seen⟩ := Option.map_eq_some_iff.mp observed
  obtain ⟨created, run⟩ := run_of_trace? traced
  exact ⟨client, history, last, created, rfl, run, seen, run_evaluatesLatest created rfl run⟩

end Client

end FeatureFlags
