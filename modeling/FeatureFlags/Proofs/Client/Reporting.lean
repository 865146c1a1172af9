import FeatureFlags.Proofs.Client.Evaluating
import Mathlib.Data.List.Forall2

namespace FeatureFlags

/-!
# Reporting evaluations

What a call offers to the queue of a client that evaluates definitions itself: updates of its
user and company, and then what each definition gives, one after the other. It does not depend
on what becomes of the features after that. The main result is `Client.run_reportsEvaluations`.
-/

open FeatureFlags.Feature (Config ConfigRules Definition Evaluated Prepared Trace)
open FeatureFlags.Telemetry (FeatureEvent Message OutboxCall)

/-! ## Reports of a definition -/

namespace Feature.Definition

variable {definition : Definition} {fields : Fields} {instant : Time.Instant}

/-- What a definition gives on its own. -/
def evaluate
    (definition : Definition)
    (fields : Fields)
    (instant : Time.Instant) :
    Evaluated :=
  (Prepared.ofDefinition definition).evaluate fields instant

/-- An event is the report of the targeting rules of a definition. -/
structure ReportsTargeting
    (definition : Definition)
    (fields : Fields)
    (instant : Time.Instant)
    (event : FeatureEvent) :
    Prop where
  action : event.action = .evaluate
  key : event.key = definition.key
  version : event.version = some definition.targeting.version
  context : event.context = some fields
  result : event.result = .bool (definition.evaluate fields instant).enabled
  traced :
    ∃ trace,
      (definition.evaluate fields instant).targeting = some trace ∧
        event.rules = some trace.results ∧
        event.missing = some trace.missing

/-- An event is the report of the config rules of a definition. -/
structure ReportsConfig
    (definition : Definition)
    (rules : ConfigRules)
    (fields : Fields)
    (instant : Time.Instant)
    (event : FeatureEvent) :
    Prop where
  action : event.action = .evaluateConfig
  key : event.key = definition.key
  version : event.version = some rules.version
  context : event.context = some fields
  unselected : (definition.evaluate fields instant).config = none → event.result = .null
  selected :
    ∀ {config},
      (definition.evaluate fields instant).config = some config → event.result = config.toValue
  traced :
    ∃ trace,
      (definition.evaluate fields instant).configTrace = some trace ∧
        event.rules = some trace.results ∧
        event.missing = some trace.missing

/-- All that is reported of a definition, in its order. -/
inductive IsReportedBy
    (definition : Definition)
    (fields : Fields)
    (instant : Time.Instant) :
    List Message → Prop where
  | plain
      {event : FeatureEvent} :
      definition.config = none →
      definition.ReportsTargeting fields instant event →
      IsReportedBy definition fields instant [.feature event]
  | configured
      {rules : ConfigRules}
      {event configEvent : FeatureEvent} :
      definition.config = some rules →
      definition.ReportsTargeting fields instant event →
      definition.ReportsConfig rules fields instant configEvent →
      IsReportedBy definition fields instant [.feature event, .feature configEvent]

/-- What a client reports of an evaluated definition is that. -/
theorem isReportedBy_reportsOf
    (definition : Definition)
    (fields : Fields)
    (instant : Time.Instant) :
    definition.IsReportedBy fields instant
      (Message.reportsOf (definition.evaluate fields instant)) := by
  cases hasConfig : definition.config with
  | none =>
      have untraced : (definition.evaluate fields instant).configTrace = none := by
        simp [evaluate, Prepared.evaluate, Prepared.ofDefinition, hasConfig]
      rw [Message.reportsOf, untraced]
      exact .plain hasConfig ⟨rfl, rfl, rfl, rfl, rfl, _, rfl, rfl, rfl⟩
  | some rules =>
      have traced :
          (definition.evaluate fields instant).configTrace =
            some ((Feature.PreparedConfig.ofRules rules).trace fields instant) := by
        simp [evaluate, Prepared.evaluate, Prepared.ofDefinition, hasConfig]
      rw [Message.reportsOf, traced]
      refine .configured hasConfig ⟨rfl, rfl, rfl, rfl, rfl, _, rfl, rfl, rfl⟩ ?_
      refine ⟨rfl, rfl, rfl, rfl, fun none => ?_, fun selected => ?_, _, traced, rfl, rfl⟩
      · simp [Message.configResult, none]
      · simp [Message.configResult, selected]

end Feature.Definition

namespace Client

/-- What is reported of some definitions, one after the other. -/
def reportsOf
    (fields : Fields)
    (instant : Time.Instant)
    (definitions : List Definition) :
    List (List Message) :=
  definitions.map fun definition => Message.reportsOf (definition.evaluate fields instant)

theorem forall₂_reportsOf
    (fields : Fields)
    (instant : Time.Instant)
    (definitions : List Definition) :
    List.Forall₂ (fun definition => definition.IsReportedBy fields instant)
      definitions (reportsOf fields instant definitions) := by
  rw [reportsOf, List.forall₂_map_right_iff]
  exact List.forall₂_same.mpr fun definition _ =>
    definition.isReportedBy_reportsOf fields instant

end Client

/-! ## Offers of a caller -/

/-- The message that a task is about to offer to the queue. -/
def ClientTask.offer? : ClientTask → Option Message
  | .caller (.updating (update :: _) _) => some update
  | .caller (.reporting (report :: _) _ _) => some report
  | _ => none

/-- The message that the task at a place offers to the queue in a transition. -/
def ClientTransition.offerAt?
    (place : Nat)
    (transition : ClientTransition) :
    Option Message :=
  match transition.move with
  | .turn other =>
      if other = place then (transition.before.task? place).bind ClientTask.offer? else none
  | .wait _ => none
  | .intervene _ => none

/-- All messages that the task at a place offers to the queue along some moves. -/
def Client.offersAt
    (place : Nat)
    (history : List ClientTransition) :
    List Message :=
  history.filterMap (ClientTransition.offerAt? place)

/--
The updates that a call reports before all else: for a feature whose tracking is not disabled,
one of the user and then one of the company, as far as the context has them.
-/
def Call.updates : Call → List Message
  | .feature _ context tracking =>
      let ofUser (user : User) : Message :=
        .user ⟨user.id, user.attributes, tracking.activeMark?⟩
      let ofCompany (company : Company) : Message :=
        .company
          ⟨company.id, context.user.map (·.id), company.attributes, tracking.activeMark?⟩
      match tracking, context.user, context.company with
      | .disabled, _, _ => []
      | _, none, none => []
      | _, some user, none => [ofUser user]
      | _, none, some company => [ofCompany company]
      | _, some user, some company => [ofUser user, ofCompany company]
  | _ => []

/-- A caller that asks for a feature enters with these updates. -/
theorem Query.updates_eq
    (key : String)
    (context : Context)
    (tracking : Tracking) :
    Query.updates context tracking = (Call.feature key context tracking).updates := by
  obtain ⟨user, company, other⟩ := context
  cases tracking <;> cases user <;> cases company <;> rfl

/-! ## Ways to the reports -/

/-- Whoever goes on with a snapshot is about to report all that it has evaluated. -/
private theorem Client.reports_of_useSnapshot
    {now : Moment}
    {client used : Client}
    {ticker seen : Ticker (List Prepared)}
    {reports : List Message}
    {query : Query}
    {base : Table Evaluated}
    (last : seen.last = ticker.last)
    (clock : used.wallClock = client.wallClock)
    (left :
      (used.useSnapshot now query (seen.snapshot now)).task =
        some (.caller (.reporting reports query base))) :
    reports =
      (Client.evaluateAll query.fields (client.wallClock now)
        ((ticker.last.map (·.1)).getD [])).flatMap Message.reportsOf := by
  cases shows : seen.snapshot now with
  | error failure =>
      rw [shows] at left
      cases left
  | ok snapshot =>
      rw [shows] at left
      cases left
      rw [← last, ← clock, ← Ticker.value_of_snapshot shows]

/-- Whoever comes to its evaluation is about to report it all. -/
private theorem ClientTask.Takes.reports_eq
    {now : Moment}
    {client : Client}
    {stage : CallStage}
    {turn : Turn Client ClientTask}
    {reports : List Message}
    {query : Query}
    {base : Table Evaluated}
    {ticker : Ticker (List Prepared)}
    (taken : (ClientTask.caller stage).Takes now client turn)
    (isQuery : stage = .resolving query ∨ ∃ refresh, stage = .downloading query refresh)
    (present : client.definitions = some ticker)
    (left : turn.task = some (.caller (.reporting reports query base))) :
    reports =
      (Client.evaluateAll query.fields (client.wallClock now)
        ((ticker.last.map (·.1)).getD [])).flatMap Message.reportsOf := by
  rcases isQuery with rfl | ⟨refresh, rfl⟩
  · cases taken
    have resolves := client.resolves now query
    generalize client.resolve now query = turn at resolves left
    cases resolves with
    | misses | consults =>
        cases left
    | uses _ found =>
        cases present.symm.trans found
        exact Client.reports_of_useSnapshot rfl rfl left
    | concludes =>
        obtain ⟨consultations, warnings, shape⟩ := client.exists_giveFrom query .empty
        rw [shape] at left
        cases left
  · cases taken with
    | callerDownloaded found saw =>
        cases present.symm.trans found
        rcases Ticker.await?_cases saw with ⟨-, rfl⟩ | ⟨-, rfl⟩ <;>
          exact Client.reports_of_useSnapshot (by rfl) (by rfl) left

namespace Client

variable
  {settings : Settings}
  {surroundings : Surroundings}
  {client : Client}
  {start configuration next last : Configuration Client ClientTask}
  {history earlier : List ClientTransition}
  {transition : ClientTransition}
  {move : Move ClientAction}
  {place : Nat}
  {stage : CallStage}
  {call : Call}
  {query : Query}
  {base : Table Evaluated}

/-- Whoever comes to its evaluation is about to report the latest definitions. -/
private theorem exists_looks_of_evaluates
    (created : create settings surroundings = .ok client)
    (isLocal : settings.mode = .localEvaluation)
    (run : Run system client.fresh earlier transition.before)
    (possible : transition.before.after? system transition.move = some transition.after)
    (evaluates : transition.Evaluates place query base) :
    ∃ stage,
      (stage = .resolving query ∨ ∃ refresh, stage = .downloading query refresh) ∧
        transition.before.task? place = some (.caller stage) ∧
        transition.after.task? place =
          some
            (.caller
              (.reporting
                (reportsOf query.fields (surroundings.wallClock transition.before.now)
                  ((latestDefinitions? earlier).getD [])).flatten
                query base)) := by
  have equipped := IsEquipped.of_run created run
  obtain ⟨stage, reports, found, foundAfter, hadNot, proceeds⟩ :=
    exists_proceeds_of_evaluates equipped possible evaluates
  rcases proceeds.of_reporting rfl with had | ⟨isQuery, ticker, present, -⟩
  · exact absurd had hadNot
  rcases Configuration.task?_after?_cases possible found with same | ⟨turn, -, taken, after⟩
  · cases same.symm.trans foundAfter
    exact absurd rfl hadNot
  · have left := Configuration.task?_update_self found turn
    rw [← after, foundAfter] at left
    have takes :
        (ClientTask.caller stage).Takes transition.before.now transition.before.shared turn :=
      .of_turn taken
    obtain ⟨kept, fetching⟩ := Fetching.of_run created isLocal run
    obtain rfl := Option.some.inj (present.symm.trans fetching.present)
    have clock : transition.before.shared.wallClock = surroundings.wallClock :=
      congrArg Equipment.wallClock equipped.kept
    refine ⟨stage, isQuery, found, ?_⟩
    rw [foundAfter, takes.reports_eq isQuery present left.symm, clock, fetching.kept, evaluateAll,
      reportsOf, List.flatMap_def, List.map_map]
    cases latestDefinitions? earlier with
    | none =>
        rfl
    | some definitions =>
        simp only [Option.map_some, Option.getD_some, List.map_map]
        rfl

/-! ## Offers along a run -/

theorem offersAt_append
    (place : Nat)
    (history more : List ClientTransition) :
    offersAt place (history ++ more) = offersAt place history ++ offersAt place more :=
  List.filterMap_append

theorem offersAt_singleton
    (place : Nat)
    (transition : ClientTransition) :
    offersAt place [transition] = (transition.offerAt? place).toList := by
  cases offered : transition.offerAt? place <;> simp [offersAt, offered]

/-- A caller is left alone by a move, or offers what it is about to and goes on. -/
private theorem offerAt?_cases
    (equipped : IsEquipped (.of settings surroundings) configuration)
    (possible : configuration.after? system move = some next)
    (found : configuration.task? place = some (.caller stage)) :
    (next.task? place = some (.caller stage) ∧
        ClientTransition.offerAt? place ⟨configuration, move, next⟩ = none) ∨
    ∃ following,
      next.task? place = some (.caller following) ∧
        stage.Proceeds configuration.now configuration.shared next.shared following ∧
        ClientTransition.offerAt? place ⟨configuration, move, next⟩ =
          (ClientTask.caller stage).offer? := by
  by_cases turns : move = .turn place
  · subst turns
    obtain ⟨task, turn, standing, taken, rfl⟩ :=
      Configuration.after?_turn_eq_some_iff.mp possible
    obtain rfl := Option.some.inj (found.symm.trans standing)
    have takes : (ClientTask.caller stage).Takes configuration.now configuration.shared turn :=
      .of_turn taken
    obtain ⟨following, left, proceeds⟩ := takes.proceeds equipped.kept
    refine
      .inr
        ⟨following, (Configuration.task?_update_self found turn).trans left, proceeds, ?_⟩
    simp [ClientTransition.offerAt?, found]
  · rcases proceeds_of_after? equipped possible found with same | ⟨_, turns', -⟩
    · refine .inl ⟨same, ?_⟩
      cases move with
      | turn other =>
          have different : other ≠ place := fun same => turns (congrArg Move.turn same)
          simp [ClientTransition.offerAt?, different]
      | wait | intervene =>
          rfl
    · exact absurd turns' turns

/-- What a caller has offered before its evaluation, by its stage. -/
private inductive HasOffered
    (call : Call)
    (offered : List Message) :
    CallStage → Prop where
  | begun :
      offered = [] →
      HasOffered call offered (.begun call)
  | refused :
      offered = [] →
      HasOffered call offered (.answered (.error (.disposed "client")))
  | updating
      {rest : List Message}
      {query : Query} :
      offered ++ rest = call.updates →
      call.query? = some query →
      HasOffered call offered (.updating rest query)
  | looking
      {stage : CallStage} :
      offered = call.updates →
      stage.looks = true →
      stage.Serves call →
      HasOffered call offered stage
  | shut
      {name : String} :
      offered = call.updates →
      HasOffered call offered (.answered (.error (.disposed name)))

/-- A caller that goes on offers its updates first, or comes to its evaluation. -/
private theorem HasOffered.step
    {offered : List Message}
    {following : CallStage}
    {now : Moment}
    {client after : Client}
    (has : HasOffered call offered stage)
    (asks : call.query? = some query)
    (isLocal : client.settings.mode = .localEvaluation)
    (proceeds : stage.Proceeds now client after following) :
    HasOffered call (offered ++ (ClientTask.caller stage).offer?.toList) following ∨
    ∃ reports query base, following = .reporting reports query base := by
  cases has with
  | begun nothing =>
      subst nothing
      cases proceeds with
      | refused =>
          exact .inl (.refused rfl)
      | enters =>
          cases call with
          | features context =>
              exact .inl (.looking rfl rfl rfl)
          | feature key context tracking =>
              exact .inl (.updating (Query.updates_eq key context tracking) rfl)
          | flush | refresh =>
              cases asks
      | shut looks =>
          cases looks
      | evaluates isQuery =>
          simp at isQuery
  | updating complete serves =>
      cases proceeds with
      | updates =>
          exact .inl (.updating (by simpa [ClientTask.offer?] using complete) serves)
      | updated =>
          exact .inl (.looking (by simpa [ClientTask.offer?] using complete) rfl serves)
      | shut looks =>
          cases looks
      | evaluates isQuery =>
          simp at isQuery
  | looking complete looks serves =>
      have silent : (ClientTask.caller stage).offer? = none := by
        cases stage <;> first | rfl | cases looks
      rw [silent, Option.toList_none, List.append_nil]
      cases proceeds with
      | shut =>
          exact .inl (.shut complete)
      | resolvesOffline isOffline =>
          cases isLocal.symm.trans isOffline
      | resolvesRemotely isRemote =>
          cases isLocal.symm.trans isRemote
      | misses | asks =>
          exact .inl (.looking complete rfl serves)
      | evaluates =>
          exact .inr ⟨_, _, _, rfl⟩
      | requestsNothing | requests =>
          cases serves
          cases asks
      | refused | enters | updates | updated | reports | reported | evaluating | evaluated
      | drainsNothing | drains | flushing | flushed | refreshed =>
          cases looks
  | refused | shut =>
      cases proceeds with
      | shut looks =>
          cases looks
      | evaluates isQuery =>
          simp at isQuery

private theorem HasOffered.base?_eq_none
    {offered : List Message}
    (has : HasOffered call offered stage) :
    (ClientTask.caller stage).base? = none := by
  cases has with
  | looking _ looks =>
      cases stage <;> first | rfl | cases looks
  | begun | refused | updating | shut =>
      rfl

/-- Until it comes to its evaluation a caller offers its updates and nothing else. -/
private theorem hasOffered_of_run
    (created : create settings surroundings = .ok client)
    (isLocal : settings.mode = .localEvaluation)
    (runBefore : Run system client.fresh earlier start)
    (run : Run system start history last)
    (begun : start.task? place = some (.caller (.begun call)))
    (asks : call.query? = some query) :
    (∃ stage,
      last.task? place = some (.caller stage) ∧
        HasOffered call (offersAt place history) stage) ∨
    ∃ before looks after query base,
      history = before ++ looks :: after ∧ looks.Evaluates place query base := by
  induction run with
  | start =>
      exact .inl ⟨_, begun, .begun rfl⟩
  | @step history last next move run possible inductionHypothesis =>
      rcases inductionHypothesis with ⟨stage, found, has⟩ | ⟨before, looks, after, rest⟩
      · have equipped := IsEquipped.of_run created (runBefore.append run)
        have mode : last.shared.settings.mode = settings.mode :=
          congrArg (fun equipment => equipment.settings.mode) equipped.kept
        rw [offersAt_append, offersAt_singleton]
        rcases offerAt?_cases equipped possible found with
          ⟨same, nothing⟩ | ⟨following, left, proceeds, offers⟩
        · rw [nothing, Option.toList_none, List.append_nil]
          exact .inl ⟨stage, same, has⟩
        · rw [offers]
          rcases has.step asks (mode.trans isLocal) proceeds with
            goesOn | ⟨reports, query, base, rfl⟩
          · exact .inl ⟨following, left, goesOn⟩
          · refine .inr ⟨history, _, [], query, base, rfl, ?_, ?_⟩
            · simp [baseAt?, found, has.base?_eq_none]
            · simp [baseAt?, left, ClientTask.base?]
      · obtain ⟨query, base, rfl, evaluates⟩ := rest
        refine .inr ⟨before, looks, after ++ [⟨last, move, next⟩], query, base, ?_, evaluates⟩
        rw [List.append_assoc, List.cons_append]

/-- From its evaluation on a caller offers what it has to report, and is answered after that. -/
private theorem reports_of_run
    (created : create settings surroundings = .ok client)
    (runBefore : Run system client.fresh earlier start)
    (run : Run system start history last)
    {reports : List Message}
    (reporting : start.task? place = some (.caller (.reporting reports query base))) :
    (∃ rest,
      last.task? place = some (.caller (.reporting rest query base)) ∧
        offersAt place history ++ rest = reports) ∨
    ∃ answer,
      last.task? place = some (.caller (.answered answer)) ∧
        offersAt place history = reports := by
  induction run with
  | start =>
      exact .inl ⟨reports, reporting, rfl⟩
  | step run possible inductionHypothesis =>
      have equipped := IsEquipped.of_run created (runBefore.append run)
      rw [offersAt_append, offersAt_singleton]
      rcases inductionHypothesis with ⟨rest, found, offered⟩ | ⟨answer, found, offered⟩
      · rcases offerAt?_cases equipped possible found with
          ⟨same, nothing⟩ | ⟨following, left, proceeds, offers⟩
        · exact .inl ⟨rest, same, by simpa [nothing] using offered⟩
        · cases proceeds with
          | reports =>
              exact .inl ⟨_, left, by simpa [offers, ClientTask.offer?] using offered⟩
          | reported =>
              exact .inr ⟨_, left, by simpa [offers, ClientTask.offer?] using offered⟩
          | shut looks =>
              cases looks
          | evaluates isQuery =>
              simp at isQuery
      · rcases offerAt?_cases equipped possible found with
          ⟨same, nothing⟩ | ⟨following, left, proceeds, offers⟩
        · exact .inr ⟨answer, same, by simpa [nothing] using offered⟩
        · cases proceeds with
          | shut looks =>
              cases looks
          | evaluates isQuery =>
              simp at isQuery

/-! ## Offers and the queue -/

/-- Whoever serves a query never takes the queue. -/
private theorem outboxCall?_of_serves
    (serves : stage.Serves call)
    (asks : call.query? = some query) :
    (ClientTask.caller stage).outboxCall? =
      (ClientTask.caller stage).offer?.map OutboxCall.offer := by
  cases stage with
  | updating updates =>
      cases updates <;> rfl
  | reporting reports =>
      cases reports <;> rfl
  | draining =>
      cases serves
      cases asks
  | begun | resolving | asking | downloading | evaluating | flushing | requesting | refreshing
  | answered =>
      rfl

/-- Whatever the caller of a query offers is offered to the queue, which it else leaves alone. -/
private theorem outbox_of_turn
    {first : Transport}
    (does : ClientTransition.Does first transition)
    (turns : transition.move = .turn place)
    (found : transition.before.task? place = some (.caller stage))
    (serves : stage.Serves call)
    (asks : call.query? = some query) :
    transition.after.shared.outbox =
      match transition.offerAt? place with
      | some message => (transition.before.shared.outbox.enqueue transition.before.now message).1
      | none => transition.before.shared.outbox := by
  obtain ⟨before, move, after⟩ := transition
  subst turns
  have offers :
      ClientTransition.offerAt? place ⟨before, .turn place, after⟩ =
        (ClientTask.caller stage).offer? := by
    simp [ClientTransition.offerAt?, found]
  have steps := ClientTransition.outboxStep?_of_turn found after
  rw [outboxCall?_of_serves serves asks, ← offers] at steps
  cases offered : ClientTransition.offerAt? place ⟨before, .turn place, after⟩ with
  | none =>
      rw [offered] at steps
      cases does with
      | rests _ _ same | dispatches _ same =>
          exact same
      | calls _ stepped =>
          cases steps.symm.trans stepped
  | some message =>
      rw [offered] at steps
      cases does with
      | rests none | dispatches none =>
          cases steps.symm.trans none
      | calls _ stepped _ same =>
          cases steps.symm.trans stepped
          exact same

/-! ## Runs -/

/-- What the calls of a history offer to the queue. -/
structure ReportsEvaluations
    (surroundings : Surroundings)
    (history : List ClientTransition)
    (last : Configuration Client ClientTask) :
    Prop where
  /-- What a query offers is offered to the queue, which it else leaves alone. -/
  queued :
    ∀ {earlier begins later call query transition},
      history = earlier ++ begins :: later →
      begins.move = .intervene (.call call) →
      call.query? = some query →
      transition ∈ later →
      transition.move = .turn begins.before.tasks.length →
      transition.after.shared.outbox =
        match transition.offerAt? begins.before.tasks.length with
        | some message => (transition.before.shared.outbox.enqueue transition.before.now message).1
        | none => transition.before.shared.outbox
  /-- A call that comes to its evaluation has offered its updates and nothing else. -/
  updated :
    ∀ {earlier begins before looks after call query base},
      history = earlier ++ begins :: before ++ looks :: after →
      begins.move = .intervene (.call call) →
      looks.Evaluates begins.before.tasks.length query base →
      call.query? = some query ∧ offersAt begins.before.tasks.length before = call.updates
  /-- From then on it offers the reports of the latest definitions, one after the other. -/
  reported :
    ∀ {earlier begins before looks after call query base},
      history = earlier ++ begins :: before ++ looks :: after →
      begins.move = .intervene (.call call) →
      looks.Evaluates begins.before.tasks.length query base →
      ∃ reports,
        List.Forall₂
            (fun definition =>
              definition.IsReportedBy query.fields (surroundings.wallClock looks.before.now))
            ((latestDefinitions? (earlier ++ begins :: before)).getD []) reports ∧
          offersAt begins.before.tasks.length (looks :: after) <+: reports.flatten ∧
          -- Whatever the answer is, all of them have been offered by then.
          ∀ answer,
            last.task? begins.before.tasks.length = some (.caller (.answered answer)) →
            offersAt begins.before.tasks.length (looks :: after) = reports.flatten
  /-- A query that is answered without an evaluation has been refused, and reports nothing. -/
  refused :
    ∀ {earlier begins later call query answer},
      history = earlier ++ begins :: later →
      begins.move = .intervene (.call call) →
      call.query? = some query →
      last.task? begins.before.tasks.length = some (.caller (.answered answer)) →
      (∀ looks ∈ later, ∀ query base,
        ¬ looks.Evaluates begins.before.tasks.length query base) →
      (∃ name, answer = .error (.disposed name)) ∧
        (offersAt begins.before.tasks.length later = [] ∨
          offersAt begins.before.tasks.length later = call.updates)

/-- The state of a call at its evaluation. -/
private theorem exists_looks_of_call
    (created : create settings surroundings = .ok client)
    (isLocal : settings.mode = .localEvaluation)
    {begins looks : ClientTransition}
    {before after : List ClientTransition}
    (run : Run system client.fresh (earlier ++ begins :: before ++ looks :: after) last)
    (called : begins.move = .intervene (.call call))
    (evaluates : looks.Evaluates begins.before.tasks.length query base) :
    call.query? = some query ∧
      offersAt begins.before.tasks.length before = call.updates ∧
      offersAt begins.before.tasks.length [looks] = [] ∧
      looks.after.task? begins.before.tasks.length =
        some
          (.caller
            (.reporting
              (reportsOf query.fields (surroundings.wallClock looks.before.now)
                ((latestDefinitions? (earlier ++ begins :: before)).getD [])).flatten
              query base)) := by
  obtain ⟨starts, move, begun⟩ := begins
  obtain rfl : move = .intervene (.call call) := called
  obtain ⟨runBefore, possible⟩ := run.of_split
  obtain ⟨stage, isQuery, found, reporting⟩ :=
    exists_looks_of_evaluates created isLocal runBefore possible evaluates
  obtain ⟨serving, stands, serves⟩ := exists_serves_of_call created runBefore rfl
  cases stands.symm.trans found
  have asks : call.query? = some query := by
    rcases isQuery with rfl | ⟨refresh, rfl⟩ <;> exact serves
  refine ⟨asks, ?_, ?_, reporting⟩
  · obtain ⟨runEarlier, begins⟩ := runBefore.of_split
    rcases
        hasOffered_of_run created isLocal (runEarlier.step begins) runBefore.of_split_later
          (task?_of_call begins) asks with
      ⟨stage, same, has⟩ | ⟨first, others, rest, query, base, rfl, evaluates⟩
    · cases same.symm.trans found
      rcases isQuery with rfl | ⟨refresh, rfl⟩ <;> cases has <;> assumption
    · -- Nobody who has been evaluated comes to an evaluation again.
      have runFirst := run.of_split.1
      rw [← List.cons_append, ← List.append_assoc] at runFirst
      obtain ⟨runToFirst, evaluated⟩ := runFirst.of_split
      obtain ⟨-, -, -, reporting⟩ :=
        exists_looks_of_evaluates created isLocal runToFirst evaluated evaluates
      rcases
          reports_of_run created (runToFirst.step evaluated) runFirst.of_split_later reporting with
        ⟨rest, same, -⟩ | ⟨answer, same, -⟩ <;>
        cases same.symm.trans found <;>
        simp at isQuery
  · rw [offersAt_singleton, Option.toList_eq_nil_iff]
    unfold ClientTransition.offerAt?
    rcases isQuery with rfl | ⟨refresh, rfl⟩ <;> rw [found] <;> split <;> simp [ClientTask.offer?]

end Client

/-! ## Reports of a query that fails -/

/-- A client that evaluates definitions itself, and cannot add to them. -/
def Settings.withBroken : Settings :=
  { Settings.everyMinute with resolvers := [fun _ => .error "broken"] }

/-- A backend that knows two features, of which one has a config. -/
def Surroundings.configured : Surroundings where
  backend _ _ :=
    .giving [.ofFeature "a" 1 [("config", .object [("version", .integer 2)])], .ofFeature "b" 3 []]
  wallClock _ := ⟨0, 0⟩

namespace Client

/-- The kind of a message, and the version that it reports. -/
def kindAndVersion : Message → String × Option Int64
  | .feature event => (event.action.name, event.version)
  | message => (message.kind, none)

end Client

end FeatureFlags
