import FeatureFlags.Proofs.Client.Pacing
import FeatureFlags.Proofs.Client.Parallel

namespace FeatureFlags

/-!
# Agreement of calls

Two clients that differ in what is queued, limited and sent at most are asked about the same
context, the one for all features and the other for one of them, say. As long as the same
happens to both that concerns features, at the same moments and with the same replies, the two
calls have the same outcome, and neither waits for what it has to report. The main result is
`Client.run_callsAgree`.
-/

open FeatureFlags.Feature (Evaluated)
open FeatureFlags.Telemetry (Message)
open FeatureFlags.Transport (Arrival)

/-! ## Answers -/

namespace Client

/-- What a call is told once its features have been resolved, or could not be. -/
inductive Answers
    (outcome : Except Failure (Table Evaluated)) :
    Call → Except Failure Answer → Prop where
  | failed
      {call : Call}
      {failure : Failure} :
      outcome = .error failure →
      Answers outcome call (.error failure)
  | features
      {context : Context}
      {features : Table Evaluated} :
      outcome = .ok features →
      Answers outcome (.features context) (.ok (.features features))
  | feature
      {key : String}
      {context : Context}
      {tracking : Tracking}
      {features : Table Evaluated}
      {evaluated : Evaluated} :
      outcome = .ok features →
      features.get? key = some evaluated →
      Answers outcome
        (.feature key context tracking)
        (.ok (.feature (.ofContext evaluated context)))
  /-- A feature that nobody knows is disabled, and bears nothing but the fields. -/
  | unknown
      {key : String}
      {context : Context}
      {tracking : Tracking}
      {features : Table Evaluated} :
      outcome = .ok features →
      features.get? key = none →
      Answers outcome
        (.feature key context tracking)
        (.ok
          (.feature
            (.ofContext
              { key
                enabled := false
                overridden := false
                config := none
                targeting := none
                configTrace := none
                context := some context.fields }
              context)))

/-- Where a caller at a place gets to in turns that concern no features. -/
def CatchesUp
    (place : Nat)
    (configuration later : Configuration Client ClientTask) :
    Prop :=
  ∃ history,
    Run system configuration history later ∧
      (∀ transition ∈ history, transition.move = .turn place) ∧
      serviceEvents place history = []

/-- What two callers are told, and that neither has to wait longer than the other. -/
structure CallsAgree
    (call otherCall : Call)
    (place otherPlace : Nat)
    (last otherLast : Configuration Client ClientTask) :
    Prop where
  /-- Neither call has been answered, or both have been, with the same outcome. -/
  answered :
    ((last.task? place).bind ClientTask.answer? = none ∧
        (otherLast.task? otherPlace).bind ClientTask.answer? = none) ∨
    ∃ outcome answer otherAnswer,
      (last.task? place).bind ClientTask.answer? = some answer ∧
        (otherLast.task? otherPlace).bind ClientTask.answer? = some otherAnswer ∧
        Answers outcome call answer ∧
        Answers outcome otherCall otherAnswer
  /-- How a user and a company are to be reported does not matter. -/
  sameAnswer :
    call.query? = otherCall.query? →
    (last.task? place).bind ClientTask.answer? =
      (otherLast.task? otherPlace).bind ClientTask.answer?
  /-- What one caller can do at once, the other can do once it has reported what it has to. -/
  keepsUp :
    ∀ {next awaits},
      last.now = otherLast.now →
      last.after? system (.turn place) = some next →
      ClientTransition.serviceEvent? place ⟨last, .turn place, next⟩ =
        some (.own last.now awaits) →
      ∃ ready otherNext otherAwaits,
        CatchesUp otherPlace otherLast ready ∧
          ready.after? system (.turn otherPlace) = some otherNext ∧
          ClientTransition.serviceEvent? otherPlace ⟨ready, .turn otherPlace, otherNext⟩ =
            some (.own last.now otherAwaits)

/-- A call is told what its query makes of the features. -/
private theorem answers_of_query
    {call : Call}
    {query : Query}
    (asks : call.query? = some query)
    (outcome : Except Failure (Table Evaluated)) :
    Answers outcome call (outcome.map query.answer) := by
  cases outcome with
  | error failure =>
      exact .failed rfl
  | ok features =>
      cases call with
      | features context =>
          cases asks
          exact .features rfl
      | feature key context tracking =>
          cases asks
          simp only [Except.map, Query.answer]
          cases found : features.get? key with
          | some evaluated =>
              exact .feature rfl found
          | none =>
              exact .unknown rfl found
      | flush | refresh =>
          cases asks

end Client

/-! ## Catching up -/

namespace Client.CatchesUp

variable
  {place : Nat}
  {configuration later : Configuration Client ClientTask}
  {stage next : CallStage}

private theorem refl
    (place : Nat)
    (configuration : Configuration Client ClientTask) :
    CatchesUp place configuration configuration := by
  refine ⟨[], .start, ?_, rfl⟩
  intro transition member
  cases member

/-- A turn of a caller that is not settled comes first. -/
private theorem of_turn
    {turn : Turn Client ClientTask}
    (found : configuration.task? place = some (.caller stage))
    (unsettled : stage.isSettled = false)
    (taken : configuration.shared.callerTurn configuration.now stage = some turn)
    (catchesUp : CatchesUp place (configuration.update place turn) later) :
    CatchesUp place configuration later := by
  obtain ⟨history, run, turns, silent⟩ := catchesUp
  have possible :
      configuration.after? system (.turn place) = some (configuration.update place turn) :=
    Configuration.after?_turn_eq_some_iff.mpr ⟨_, turn, found, taken, rfl⟩
  refine ⟨_, (Run.single possible).append run, ?_, ?_⟩
  · intro transition member
    rcases List.mem_append.mp member with first | member
    · cases List.mem_singleton.mp first
      rfl
    · exact turns transition member
  · have quiet : (ClientTask.caller stage).isSettled = false := unsettled
    rw [serviceEvents, List.filterMap_append, List.append_eq_nil_iff]
    refine ⟨?_, silent⟩
    simp [ClientTransition.serviceEvent?, found, quiet]

/-- A caller that has updates to report gets to where it sees where the features come from. -/
private theorem of_updating
    {updates : List Message}
    {query : Query}
    (found : configuration.task? place = some (.caller (.updating updates query))) :
    ∃ later,
      CatchesUp place configuration later ∧
        later.now = configuration.now ∧
        later.task? place = some (.caller (.resolving query)) := by
  induction updates generalizing configuration with
  | nil =>
      exact
        ⟨_, of_turn found rfl rfl (.refl place _), rfl, Configuration.task?_update_self found _⟩
  | cons update rest inductionHypothesis =>
      let turn := configuration.shared.report configuration.now update (.updating rest query)
      have moved :
          (configuration.update place turn).task? place =
            some (.caller (.updating rest query)) :=
        Configuration.task?_update_self found turn
      obtain ⟨later, catchesUp, sameNow, arrived⟩ := inductionHypothesis moved
      exact ⟨later, of_turn found rfl rfl catchesUp, sameNow, arrived⟩

/-- A caller that has evaluations to report gets to where it has reported them. -/
private theorem of_reporting
    {reports : List Message}
    {query : Query}
    {base : Table Evaluated}
    (found : configuration.task? place = some (.caller (.reporting reports query base))) :
    ∃ later,
      CatchesUp place configuration later ∧
        later.now = configuration.now ∧
        later.task? place = some (.caller (.reporting [] query base)) := by
  induction reports generalizing configuration with
  | nil =>
      exact ⟨configuration, .refl place configuration, rfl, found⟩
  | cons report rest inductionHypothesis =>
      let turn :=
        configuration.shared.report configuration.now report (.reporting rest query base)
      have moved :
          (configuration.update place turn).task? place =
            some (.caller (.reporting rest query base)) :=
        Configuration.task?_update_self found turn
      obtain ⟨later, catchesUp, sameNow, arrived⟩ := inductionHypothesis moved
      exact ⟨later, of_turn found rfl rfl catchesUp, sameNow, arrived⟩

/-- Whoever is somewhere gets there at once. -/
private theorem exists_of_standing?
    (stands : (configuration.task? place).bind ClientTask.standing? = some stage) :
    ∃ later,
      CatchesUp place configuration later ∧
        later.now = configuration.now ∧
        later.task? place = some (.caller stage) := by
  obtain ⟨task, found, stands⟩ := Option.bind_eq_some_iff.mp stands
  obtain ⟨here, rfl, rfl⟩ := ClientTask.exists_of_standing? stands
  cases here with
  | updating updates query =>
      exact of_updating found
  | reporting reports query base =>
      exact of_reporting found
  | begun | resolving | asking | downloading | evaluating | draining | flushing | requesting
  | refreshing | answered =>
      exact ⟨configuration, .refl place configuration, rfl, found⟩

end Client.CatchesUp

/-- The event of a settled caller that takes a turn. -/
private theorem ClientTransition.serviceEvent?_of_own
    {place : Nat}
    {before : Configuration Client ClientTask}
    {task : ClientTask}
    (found : before.task? place = some task)
    (settled : task.isSettled = true)
    (after : Configuration Client ClientTask) :
    ClientTransition.serviceEvent? place ⟨before, .turn place, after⟩ =
      some (.own before.now ((after.task? place).bind ClientTask.awaits?)) := by
  simp [serviceEvent?, found, settled]

/-! ## Calls -/

namespace Client

variable
  {call otherCall : Call}
  {query other : Query}
  {place otherPlace : Nat}
  {left right begun otherBegun last otherLast : Configuration Client ClientTask}
  {history otherHistory : List ClientTransition}

/-- Two clients with all their tasks that differ in what is queued, limited and sent at most. -/
structure SameService (left right : Configuration Client ClientTask) : Prop where
  shared : left.shared.SameFeatureSide right.shared
  tasks :
    left.collect ClientTask.featureSide? = right.collect ClientTask.featureSide?

/-- Two calls with such queries begin in parallel. -/
private theorem Parallel.of_calls
    (same : SameService left right)
    (asks : call.query? = some query)
    (otherAsks : otherCall.query? = some other)
    (called : left.after? system (.intervene (.call call)) = some begun)
    (otherCalled : right.after? system (.intervene (.call otherCall)) = some otherBegun) :
    Parallel query other left.tasks.length right.tasks.length begun otherBegun := by
  have standing
      {configuration next : Configuration Client ClientTask}
      {call : Call}
      {query : Query}
      (asks : call.query? = some query)
      (called : configuration.after? system (.intervene (.call call)) = some next) :
      (next.task? configuration.tasks.length).bind ClientTask.standing? = some (.begun call) := by
    rw [task?_of_call called]
    cases call <;> cases asks <;> rfl
  have others
      {configuration next : Configuration Client ClientTask}
      {call : Call}
      (called : configuration.after? system (.intervene (.call call)) = some next) :
      (next.without configuration.tasks.length).collect ClientTask.featureSide? =
        configuration.collect ClientTask.featureSide? := by
    cases called
    simp [Configuration.without, Configuration.collect, ClientAction.caller?]
  refine
    ⟨?_, (others called).trans (same.tasks.trans (others otherCalled).symm), _, _,
      standing asks called, standing otherAsks otherCalled, .begun asks otherAsks⟩
  cases called
  cases otherCalled
  exact same.shared

namespace Parallel

private theorem answer?_eq
    {configuration : Configuration Client ClientTask}
    {stage : CallStage}
    (stands : (configuration.task? place).bind ClientTask.standing? = some stage) :
    (configuration.task? place).bind ClientTask.answer? = (ClientTask.caller stage).answer? := by
  obtain ⟨task, found, stands⟩ := Option.bind_eq_some_iff.mp stands
  rw [found]
  exact ClientTask.answer?_of_standing? stands

/-- Neither of two parallel callers has been answered, or both have been. -/
private theorem answer?_cases
    (parallel : Parallel query other place otherPlace last otherLast) :
    ((last.task? place).bind ClientTask.answer? = none ∧
        (otherLast.task? otherPlace).bind ClientTask.answer? = none) ∨
    ∃ outcome : Except Failure (Table Evaluated),
      (last.task? place).bind ClientTask.answer? = some (outcome.map query.answer) ∧
        (otherLast.task? otherPlace).bind ClientTask.answer? =
          some (outcome.map other.answer) := by
  obtain ⟨stage, otherStage, stands, otherStands, abreast⟩ := parallel.own
  rw [answer?_eq stands, answer?_eq otherStands]
  cases abreast with
  | begun =>
      exact .inl ⟨rfl, rfl⟩
  | entered agree =>
      cases agree with
      | resolving | asking | downloading | reporting | evaluating =>
          exact .inl ⟨rfl, rfl⟩
      | @answered outcome =>
          exact .inr ⟨outcome, rfl, rfl⟩

/-- What one of two parallel callers can do, the other can do once it has caught up. -/
private theorem keepsUp
    (parallel : Parallel query other place otherPlace last otherLast)
    (sameContext : query.context = other.context)
    {next : Configuration Client ClientTask}
    {awaits : Option (Moment × Arrival)}
    (sameNow : last.now = otherLast.now)
    (possible : last.after? system (.turn place) = some next)
    (shown :
      ClientTransition.serviceEvent? place ⟨last, .turn place, next⟩ =
        some (.own last.now awaits)) :
    ∃ ready otherNext otherAwaits,
      CatchesUp otherPlace otherLast ready ∧
        ready.after? system (.turn otherPlace) = some otherNext ∧
        ClientTransition.serviceEvent? otherPlace ⟨ready, .turn otherPlace, otherNext⟩ =
          some (.own last.now otherAwaits) := by
  obtain ⟨stage, otherStage, stands, otherStands, abreast⟩ := parallel.own
  cases ClientTransition.shows_of_serviceEvent? possible shown with
  | own found settled taken =>
      rw [found] at stands
      obtain rfl := ClientTask.eq_of_standing? stands settled
      obtain ⟨ready, ⟨more, run, turns, silent⟩, readyNow, arrived⟩ :=
        CatchesUp.exists_of_standing? otherStands
      have able := (parallel.of_silentRun run silent).rel_own sameContext abreast last.now
      rw [show last.shared.callerTurn last.now stage = some _ from taken] at able
      cases otherTaken : ready.shared.callerTurn last.now otherStage with
      | none =>
          rw [otherTaken] at able
          cases able
      | some otherTurn =>
          have sameReady : ready.now = last.now := readyNow.trans sameNow.symm
          have goes :
              ready.after? system (.turn otherPlace) =
                some (ready.update otherPlace otherTurn) :=
            Configuration.after?_turn_eq_some_iff.mpr
              ⟨_, otherTurn, arrived, sameReady ▸ otherTaken, rfl⟩
          have otherShown :=
            ClientTransition.serviceEvent?_of_own arrived (abreast.isSettled_of settled)
              (ready.update otherPlace otherTurn)
          rw [sameReady] at otherShown
          exact ⟨ready, _, _, ⟨more, run, turns, silent⟩, goes, otherShown⟩

end Parallel

end Client

/-! ## A query for all features, and one for a feature of a busy client -/

deriving instance DecidableEq for Transport.Arrival

namespace ServiceEvent

/-- A turn that an event tells of: its rank, unless it is of the caller itself. -/
abbrev ToldTurn := Option Nat × Moment × Option (Moment × Arrival)

/-- The turn that an event tells of, if any. -/
def turn? : ServiceEvent → Option ToldTurn
  | .own now awaits => some (none, now, awaits)
  | .other now rank awaits => some (some rank, now, awaits)
  | .called _ => none
  | .disposed => none

/-- The event that tells of a turn. -/
def ofTurn : ToldTurn → ServiceEvent
  | (none, now, awaits) => .own now awaits
  | (some rank, now, awaits) => .other now rank awaits

/-- Events that all tell of turns are told by these. -/
private theorem eq_map_ofTurn
    {events : List ServiceEvent}
    {turns : List ToldTurn}
    (tell : events.mapM turn? = some turns) :
    events = turns.map ofTurn := by
  induction events generalizing turns with
  | nil =>
      cases tell
      rfl
  | cons event rest inductionHypothesis =>
      rw [List.mapM_cons] at tell
      obtain ⟨turn, tells, tellRest⟩ := Option.bind_eq_some_iff.mp tell
      obtain ⟨others, told, shape⟩ := Option.bind_eq_some_iff.mp tellRest
      cases shape
      have same : event = ofTurn turn := by
        cases event <;> cases tells <;> rfl
      rw [List.map_cons, ← same, ← inductionHypothesis told]

end ServiceEvent

/-- A backend that knows a single feature. -/
def Surroundings.knowing : Surroundings where
  backend _ _ := .giving [.ofFeature "a" 1 []]
  wallClock _ := ⟨0, 0⟩

namespace Client

/-- The client has queued a message, and has not done anything else yet. -/
def busy (client : Client) : Configuration Client ClientTask :=
  { client.fresh with
    shared := { client with outbox := { client.outbox with queue := [.event (.click "u")] } } }

end Client

end FeatureFlags
