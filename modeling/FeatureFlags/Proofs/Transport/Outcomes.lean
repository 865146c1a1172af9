import Mathlib.Data.List.Forall2
import Mathlib.Data.List.Nodup
import FeatureFlags.Proofs.Transport.Cancellation
import FeatureFlags.Proofs.Transport.Classification

namespace FeatureFlags.Transport

/-!
# Outcomes of calls

Along every run of a transport, whatever its backend answers and whenever it is cancelled, a
call returns what the outcome that it meets is classified as, and logs what it returns. The
main result is `run_classifiesOutcomes`.
-/

/-! ## Returns -/

/-- A call at a place has returned. -/
structure CallReturn where
  place : Nat
  result : Except Failure Content

/-- The return of a call in a transition, if there is one. -/
def TransportTransition.return? (transition : TransportTransition) : Option CallReturn :=
  match transition.move with
  | .turn place =>
      ((transition.after.task? place).bind TransportTask.result?).map fun result =>
        ⟨place, result⟩
  | .wait _ => none
  | .intervene _ => none

/-- The returns of a history, in their order. -/
def returns (history : List TransportTransition) : List CallReturn :=
  history.filterMap TransportTransition.return?

/-- What a call logs that returns a result. -/
inductive IsLogged : Except Failure Content → List LogRecord → Prop where
  | content
      {content : Content} :
      IsLogged (.ok content) []
  | cancelled
      {failure : Failure} :
      failure.kind = .requestCancelled →
      IsLogged (.error failure) []
  | failure
      {failure : Failure} :
      failure.kind ≠ .requestCancelled →
      IsLogged (.error failure)
        [{ number := failure.kind.code, level := .error, text := failure.message }]

theorem isLogged_recordOf (result : Except Failure Content) :
    IsLogged result (recordOf result) := by
  cases result with
  | ok content =>
      exact .content
  | error failure =>
      by_cases cancelled : failure.kind = .requestCancelled
      · rw [recordOf, if_pos cancelled]
        exact .cancelled cancelled
      · rw [recordOf, if_neg cancelled]
        exact .failure cancelled

/-! ## Outcomes -/

/-- The request of the call at a place is sent, and a reply to it is under way. -/
structure Sends
    (transition : TransportTransition)
    (place : Nat)
    (request : Request)
    (reply : Reply) :
    Prop where
  move : transition.move = .turn place
  prepared : transition.before.task? place = some (.exchange { request })
  active : transition.before.shared.cancelled = false
  /-- It is the reply that the backend gives, unless that takes too long. -/
  replied :
    ∃ address,
      request.address = .ok address ∧ reply = transition.before.shared.replyFor address

/-- The outcomes that the call at a place meets in a transition. -/
inductive Meets
    (transition : TransportTransition)
    (place : Nat)
    (request : Request) :
    Outcome → Prop where
  /-- There is no response yet, and the transport has been cancelled. -/
  | cancelled
      {stage : ExchangeStage} :
      transition.move = .turn place →
      transition.before.task? place = some (.exchange { request, stage }) →
      transition.before.shared.cancelled = true →
      (∀ body, stage ≠ .reading body) →
      Meets transition place request .cancelled
  /-- A request without an address cannot be sent. -/
  | unaddressed
      {fault : Address.Fault} :
      transition.move = .turn place →
      transition.before.task? place = some (.exchange { request }) →
      transition.before.shared.cancelled = false →
      request.address = .error fault →
      Meets transition place request (.met (.failed fault.message))
  /-- The reply to the request has come in. -/
  | received
      {wake : Moment}
      {arrival : Arrival} :
      transition.move = .turn place →
      transition.before.task? place =
        some (.exchange { request, stage := .pending wake arrival }) →
      transition.before.shared.cancelled = false →
      wake ≤ transition.before.now →
      Meets transition place request (.met arrival)

variable
  {start last configuration next : Configuration Transport TransportTask}
  {history earlier later : List TransportTransition}
  {transition : TransportTransition}
  {move : Move TransportAction}
  {place : Nat}
  {request : Request}
  {outcome : Outcome}
  {result : Except Failure Content}

/-! ## Turns -/

/-- The task that an exchange has become. -/
def Progress.toTask : Progress → TransportTask
  | .going next => .exchange next
  | .ended result => .answered result

/-- The turn of an exchange is one of its moves. -/
private theorem exists_moves_of_turn
    {exchange : Exchange}
    (found : configuration.task? place = some (.exchange exchange))
    (possible : configuration.after? system (.turn place) = some next) :
    ∃ moved progress,
      Exchange.Moves configuration.now configuration.shared exchange.request exchange.stage
          moved progress ∧
        next.shared = moved ∧
        next.task? place = some progress.toTask := by
  obtain ⟨task, turn, foundTask, taken, rfl⟩ :=
    Configuration.after?_turn_eq_some_iff.mp possible
  cases found.symm.trans foundTask
  obtain ⟨⟨moved, progress⟩, moves, rest⟩ := Option.map_eq_some_iff.mp taken
  have moves := Exchange.Moves.of_move? moves
  have becomes := Configuration.task?_update_self found turn
  cases progress with
  | going | ended =>
      cases rest
      exact ⟨_, _, moves, rfl, becomes⟩

/-- Only the last move of an exchange logs anything. -/
private theorem Exchange.Moves.log_eq
    {now : Moment}
    {transport moved : Transport}
    {stage : ExchangeStage}
    {progress : Progress}
    (moves : Exchange.Moves now transport request stage moved progress) :
    moved.log = transport.log ++ (progress.toTask.result?.map recordOf).getD [] := by
  cases moves with
  | sends | answered =>
      exact (List.append_nil _).symm
  | cancelled | unaddressed | rejected | reads =>
      rfl

/-! ## What a call returns -/

/-- What has become of a call that has met an outcome. -/
private inductive IsSettled
    (request : Request)
    (outcome : Outcome) :
    TransportTask → Prop where
  | answered :
      IsSettled request outcome (.answered (request.endpoint.result outcome))
  | reading
      {body : Except String String} :
      request.endpoint.readBody body = request.endpoint.result outcome →
      IsSettled request outcome (.exchange { request, stage := .reading body })

/-- What a body gives that counts is what its arrival gives. -/
private theorem result_of_judge_ok
    {endpoint : Endpoint}
    {arrival : Arrival}
    {body : Except String String}
    (judged : endpoint.judge arrival = .ok body) :
    endpoint.readBody body = endpoint.result (.met arrival) := by
  simp only [Endpoint.result, judged]

private theorem result_of_judge_error
    {endpoint : Endpoint}
    {arrival : Arrival}
    {failure : Failure}
    (judged : endpoint.judge arrival = .error failure) :
    .error failure = endpoint.result (.met arrival) := by
  simp only [Endpoint.result, judged]

/-- The transition in which a call meets an outcome settles what it returns. -/
private theorem Meets.isSettled
    (meets : Meets transition place request outcome)
    (possible : transition.before.after? system transition.move = some transition.after) :
    ∃ task, transition.after.task? place = some task ∧ IsSettled request outcome task := by
  cases meets with
  | cancelled turns found cancelled waits =>
      rw [turns] at possible
      obtain ⟨moved, progress, moves, -, becomes⟩ := exists_moves_of_turn found possible
      refine ⟨_, becomes, ?_⟩
      cases moves with
      | cancelled =>
          exact .answered
      | unaddressed active | sends active | rejected active | answered active =>
          cases cancelled.symm.trans active
      | reads =>
          exact absurd rfl (waits _)
  | unaddressed turns found active faulty =>
      rw [turns] at possible
      obtain ⟨moved, progress, moves, -, becomes⟩ := exists_moves_of_turn found possible
      refine ⟨_, becomes, ?_⟩
      cases moves with
      | cancelled cancelled =>
          cases active.symm.trans cancelled
      | unaddressed _ alsoFaulty =>
          cases faulty.symm.trans alsoFaulty
          exact .answered
      | sends _ addressed =>
          cases faulty.symm.trans addressed
  | received turns found active awake =>
      rw [turns] at possible
      obtain ⟨moved, progress, moves, -, becomes⟩ := exists_moves_of_turn found possible
      refine ⟨_, becomes, ?_⟩
      cases moves with
      | cancelled cancelled =>
          cases active.symm.trans cancelled
      | rejected _ _ judged =>
          rw [result_of_judge_error judged]
          exact .answered
      | answered _ _ judged =>
          exact .reading (result_of_judge_ok judged)

private theorem IsSettled.step
    {task : TransportTask}
    (settled : IsSettled request outcome task)
    (found : configuration.task? place = some task)
    (possible : configuration.after? system move = some next) :
    ∃ task, next.task? place = some task ∧ IsSettled request outcome task := by
  rcases Configuration.task?_after?_cases possible found with same | ⟨turn, rfl, taken, rfl⟩
  · exact ⟨task, same, settled⟩
  · refine ⟨.answered (request.endpoint.result outcome), ?_, .answered⟩
    cases settled with
    | answered =>
        cases taken
    | reading reads =>
        cases taken
        rw [← reads]
        exact Configuration.task?_update_self found _

private theorem IsSettled.of_run
    (run : Run system start history last)
    (settled : ∃ task, start.task? place = some task ∧ IsSettled request outcome task) :
    ∃ task, last.task? place = some task ∧ IsSettled request outcome task := by
  induction run with
  | start =>
      exact settled
  | step _ possible inductionHypothesis =>
      obtain ⟨task, found, settled⟩ := inductionHypothesis
      exact settled.step found possible

/-- A call that has met an outcome returns nothing else than what the outcome gives. -/
private theorem Meets.result_eq
    (meets : Meets transition place request outcome)
    (member : transition ∈ history)
    (run : Run system start history last)
    (returned : last.task? place = some (.answered result)) :
    result = request.endpoint.result outcome := by
  obtain ⟨earlier, later, rfl⟩ := List.append_of_mem member
  obtain ⟨task, found, settled⟩ :=
    IsSettled.of_run run.of_split_later (meets.isSettled run.of_split.2)
  cases found.symm.trans returned
  cases settled
  rfl

/-! ## What a call has met -/

/-- How a call has come to where it is. -/
private inductive HasCome
    (history : List TransportTransition)
    (place : Nat)
    (request : Request) :
    TransportTask → Prop where
  | prepared :
      HasCome history place request (.exchange { request })
  | pending
      {sends : TransportTransition}
      {reply : Reply} :
      sends ∈ history →
      Sends sends place request reply →
      HasCome history place request
        (.exchange
          { request, stage := .pending (sends.before.now + reply.delay) reply.arrival })
  | reading
      {looks : TransportTransition}
      {outcome : Outcome}
      {body : Except String String} :
      looks ∈ history →
      Meets looks place request outcome →
      HasCome history place request (.exchange { request, stage := .reading body })
  | answered
      {looks : TransportTransition}
      {outcome : Outcome}
      {result : Except Failure Content} :
      looks ∈ history →
      Meets looks place request outcome →
      HasCome history place request (.answered result)

private theorem HasCome.mono
    {task : TransportTask}
    (come : HasCome history place request task)
    (more : List TransportTransition) :
    HasCome (history ++ more) place request task := by
  cases come with
  | prepared =>
      exact .prepared
  | pending sent sends =>
      exact .pending (List.mem_append_left _ sent) sends
  | reading looked meets =>
      exact .reading (List.mem_append_left _ looked) meets
  | answered looked meets =>
      exact .answered (List.mem_append_left _ looked) meets

/-- No exchange has come to where it is with another request. -/
private theorem HasCome.request_eq
    {exchange : Exchange}
    (come : HasCome history place request (.exchange exchange)) :
    exchange.request = request := by
  cases come <;> rfl

private theorem HasCome.step
    {task : TransportTask}
    (come : HasCome history place request task)
    (found : configuration.task? place = some task)
    (possible : configuration.after? system move = some next) :
    ∃ task,
      next.task? place = some task ∧
        HasCome (history ++ [⟨configuration, move, next⟩]) place request task := by
  rcases Configuration.task?_after?_cases possible found with same | ⟨turn, rfl, taken, -⟩
  · exact ⟨task, same, come.mono _⟩
  · have newest (transition : TransportTransition) : transition ∈ history ++ [transition] :=
      List.mem_append_right _ (List.mem_singleton.mpr rfl)
    cases task with
    | exchange exchange =>
        have same := come.request_eq
        obtain ⟨request, stage⟩ := exchange
        subst same
        obtain ⟨moved, progress, moves, -, becomes⟩ := exists_moves_of_turn found possible
        refine ⟨_, becomes, ?_⟩
        cases moves with
        | cancelled cancelled waits =>
            exact .answered (newest _) (.cancelled rfl found cancelled waits)
        | unaddressed active faulty =>
            exact .answered (newest _) (.unaddressed rfl found active faulty)
        | sends active addressed =>
            exact .pending (newest _) ⟨rfl, found, active, _, addressed, rfl⟩
        | rejected active awake judged =>
            exact .answered (newest _) (.received rfl found active awake)
        | answered active awake judged =>
            exact .reading (newest _) (.received rfl found active awake)
        | reads =>
            cases come with
            | reading looked meets =>
                exact .answered (List.mem_append_left _ looked) meets
    | answered result =>
        cases taken
    | cancelAfter | cancelAt =>
        cases come

private theorem HasCome.of_run
    (run : Run system start history last)
    (prepared : start.task? place = some (.exchange { request })) :
    ∃ task, last.task? place = some task ∧ HasCome history place request task := by
  induction run with
  | start =>
      exact ⟨_, prepared, .prepared⟩
  | step _ possible inductionHypothesis =>
      obtain ⟨task, found, come⟩ := inductionHypothesis
      exact come.step found possible

/-! ## Returns of calls -/

/-- A task that stands for a call. -/
def TransportTask.IsCall : TransportTask → Prop
  | .exchange _ => True
  | .answered _ => True
  | _ => False

/-- A transition returns nothing and logs nothing, or it is the last turn of an exchange. -/
private theorem return?_cases
    (possible : configuration.after? system move = some next) :
    (TransportTransition.return? ⟨configuration, move, next⟩ = none ∧
        next.shared.log = configuration.shared.log) ∨
    ∃ place exchange result,
      TransportTransition.return? ⟨configuration, move, next⟩ = some ⟨place, result⟩ ∧
        configuration.task? place = some (.exchange exchange) ∧
        next.task? place = some (.answered result) ∧
        next.shared.log = configuration.shared.log ++ recordOf result := by
  cases move with
  | turn place =>
      obtain ⟨task, turn, found, taken, same⟩ := Configuration.after?_turn_eq_some_iff.mp possible
      cases task with
      | exchange exchange =>
          obtain ⟨moved, progress, moves, rfl, becomes⟩ := exists_moves_of_turn found possible
          cases progress with
          | going next =>
              refine .inl ⟨?_, moves.log_eq.trans (List.append_nil _)⟩
              simp [TransportTransition.return?, becomes, Progress.toTask, TransportTask.result?]
          | ended result =>
              refine .inr ⟨place, exchange, result, ?_, found, becomes, moves.log_eq⟩
              simp [TransportTransition.return?, becomes, Progress.toTask, TransportTask.result?]
      | answered result =>
          cases taken
      | cancelAfter duration =>
          cases taken
          refine .inl ⟨?_, by rw [same]; rfl⟩
          simp [TransportTransition.return?, same, Configuration.task?_update_self found,
            TransportTask.result?]
      | cancelAt wake =>
          obtain ⟨-, taken⟩ := Option.ite_none_right_eq_some.mp taken
          cases taken
          refine .inl ⟨?_, by rw [same]; rfl⟩
          simp [TransportTransition.return?, same, Configuration.task?_update_self found]
  | wait duration =>
      cases possible
      exact .inl ⟨rfl, rfl⟩
  | intervene action =>
      refine .inl ⟨rfl, ?_⟩
      cases possible
      cases action <;> rfl

/-- A task was there before a move, or its own turn has left it, or it has just been begun. -/
private theorem task?_before_cases
    {task : TransportTask}
    (possible : configuration.after? system move = some next)
    (found : next.task? place = some task) :
    configuration.task? place = some task ∨
    (∃ before turn,
      move = .turn place ∧
        configuration.task? place = some before ∧
        before.turn configuration.now configuration.shared = some turn ∧
        turn.task = some task) ∨
    ∃ action,
      move = .intervene action ∧
        place = configuration.tasks.length ∧
        task ∈ (system.intervene configuration.now configuration.shared action).2 := by
  cases move with
  | turn other =>
      obtain ⟨before, turn, foundBefore, taken, rfl⟩ :=
        Configuration.after?_turn_eq_some_iff.mp possible
      rcases Configuration.task?_update_cases foundBefore found with
        ⟨rfl, left⟩ | ⟨-, old⟩ | new
      · exact .inr (.inl ⟨before, turn, rfl, foundBefore, taken, left⟩)
      · exact .inl old
      · have none : turn.begun = [] := by
          cases before with
          | exchange exchange =>
              obtain ⟨⟨moved, progress⟩, -, rest⟩ := Option.map_eq_some_iff.mp taken
              cases progress <;> cases rest <;> rfl
          | answered result =>
              cases taken
          | cancelAfter duration =>
              cases taken
              rfl
          | cancelAt wake =>
              cases (Option.ite_none_right_eq_some.mp taken).2
              rfl
        rw [none] at new
        cases new
  | wait duration =>
      cases possible
      exact .inl found
  | intervene action =>
      cases possible
      rw [Configuration.task?_append configuration] at found
      split at found
      · exact .inl found
      · next outside =>
          refine .inr (.inr ⟨action, rfl, ?_, List.mem_of_getElem? found⟩)
          have atMostOne :
              (system.intervene configuration.now configuration.shared action).2.length ≤ 1 := by
            cases action <;> simp [system]
          have inside := Nat.lt_of_lt_of_le (List.getElem?_eq_some_iff.mp found).1 atMostOne
          omega

/-- A call that has returned after a move has returned before, or returns in it. -/
private theorem return?_of_answered
    (possible : configuration.after? system move = some next)
    (returned : next.task? place = some (.answered result)) :
    configuration.task? place = some (.answered result) ∨
      TransportTransition.return? ⟨configuration, move, next⟩ = some ⟨place, result⟩ := by
  rcases task?_before_cases possible returned with
    before | ⟨before, turn, rfl, -⟩ | ⟨action, -, -, begun⟩
  · exact .inl before
  · exact .inr (by simp [TransportTransition.return?, returned, TransportTask.result?])
  · cases action <;> simp [system] at begun

/-- What stands for a call after a move has stood for one before, or a call has begun it. -/
private theorem isCall_before_cases
    {task : TransportTask}
    (possible : configuration.after? system move = some next)
    (found : next.task? place = some task)
    (isCall : task.IsCall) :
    (∃ before, configuration.task? place = some before ∧ before.IsCall) ∨
    ∃ call, move = .intervene (.call call) ∧ configuration.tasks.length = place := by
  rcases task?_before_cases possible found with
    old | ⟨before, turn, rfl, old, taken, left⟩ | ⟨action, rfl, rfl, begun⟩
  · exact .inl ⟨task, old, isCall⟩
  · refine .inl ⟨before, old, ?_⟩
    cases before with
    | exchange | answered =>
        trivial
    | cancelAfter duration =>
        cases taken
        cases left
        cases isCall
    | cancelAt wake =>
        cases (Option.ite_none_right_eq_some.mp taken).2
        cases left
  · cases action with
    | call call =>
        exact .inr ⟨call, rfl, rfl⟩
    | cancel =>
        cases begun
    | cancelLater duration =>
        cases List.mem_singleton.mp begun
        cases isCall

/-- Whatever stands for a call has been begun by one. -/
private theorem exists_call_of_isCall
    {transport : Transport}
    {task : TransportTask}
    (run : Run system transport.fresh history last)
    (found : last.task? place = some task)
    (isCall : task.IsCall) :
    ∃ begins ∈ history, ∃ call,
      begins.move = .intervene (.call call) ∧ begins.before.tasks.length = place := by
  induction run generalizing task with
  | start =>
      simp [fresh, Configuration.task?] at found
  | step run possible inductionHypothesis =>
      rcases isCall_before_cases possible found isCall with ⟨before, old, wasCall⟩ | ⟨call, begun⟩
      · obtain ⟨begins, member, begun⟩ := inductionHypothesis old wasCall
        exact ⟨begins, List.mem_append_left _ member, begun⟩
      · exact ⟨_, List.mem_append_right _ (List.mem_singleton.mpr rfl), call, begun⟩

/-! ## Logs -/

/-- The newest transition adds its own return, if there is one. -/
theorem returns_concat
    (history : List TransportTransition)
    (transition : TransportTransition) :
    returns (history ++ [transition]) =
      returns history ++ (TransportTransition.return? transition).toList := by
  rw [returns, List.filterMap_append, ← returns]
  cases newest : TransportTransition.return? transition <;> simp [newest]

/-- The calls that have returned are those with a return in the history. -/
private theorem mem_returns_iff
    {transport : Transport}
    (run : Run system transport.fresh history last) :
    ⟨place, result⟩ ∈ returns history ↔ last.task? place = some (.answered result) := by
  induction run with
  | start =>
      simp [returns, fresh, Configuration.task?]
  | step run possible inductionHypothesis =>
      rw [returns_concat, List.mem_append, inductionHypothesis, Option.mem_toList]
      constructor
      · rintro (returned | newest)
        · exact TransportTask.answered_step possible returned
        · rcases return?_cases possible with ⟨none, -⟩ | ⟨_, _, _, newer, -, returned, -⟩
          · cases none.symm.trans newest
          · cases newer.symm.trans newest
            exact returned
      · exact return?_of_answered possible

/-- Every call returns at most once. -/
private theorem nodup_returns
    {transport : Transport}
    (run : Run system transport.fresh history last) :
    ((returns history).map (·.place)).Nodup := by
  induction run with
  | start =>
      exact .nil
  | step run possible inductionHypothesis =>
      rcases return?_cases possible with ⟨none, -⟩ | ⟨place, exchange, result, newest, found, -⟩
      · simpa [returns_concat, none] using inductionHypothesis
      · rw [returns_concat, newest, Option.toList_some, List.map_append, List.map_singleton]
        refine List.Nodup.append inductionHypothesis (List.nodup_singleton place) ?_
        rw [List.disjoint_singleton]
        intro earlier
        obtain ⟨⟨_, given⟩, member, rfl⟩ := List.mem_map.mp earlier
        cases found.symm.trans ((mem_returns_iff run).mp member)

/-- The log grows by what the returns log, in their order. -/
private theorem exists_records
    {transport : Transport}
    (run : Run system transport.fresh history last) :
    ∃ records,
      List.Forall₂ IsLogged ((returns history).map (·.result)) records ∧
        last.shared.log = transport.log ++ records.flatten := by
  induction run with
  | start =>
      exact ⟨[], .nil, (List.append_nil _).symm⟩
  | step run possible inductionHypothesis =>
      obtain ⟨records, logged, log⟩ := inductionHypothesis
      rcases return?_cases possible with ⟨none, same⟩ | ⟨place, _, result, newest, -, -, more⟩
      · refine ⟨records, ?_, same.trans log⟩
        simpa [returns_concat, none] using logged
      · refine ⟨records ++ [recordOf result], ?_, ?_⟩
        · rw [returns_concat, newest, Option.toList_some, List.map_append, List.map_singleton]
          exact List.rel_append logged (.cons (isLogged_recordOf result) .nil)
        · rw [more, log, List.flatten_append, List.flatten_singleton, List.append_assoc]

/-! ## Ends of calls -/

/-- A call can return, whatever it waits for. -/
private theorem exists_leadsTo_answered
    {exchange : Exchange}
    (found : configuration.task? place = some (.exchange exchange)) :
    ∃ later result,
      configuration.LeadsTo system later ∧ later.task? place = some (.answered result) := by
  -- Once its deadline has passed it can move, which leaves fewer moves to it.
  induction isRank : exchange.stage.rank using Nat.strongRecOn
    generalizing configuration exchange with
  | ind rank inductionHypothesis =>
      let awake : Configuration Transport TransportTask :=
        { configuration with now := configuration.now + exchange.deadline?.getD 0 }
      have waits : configuration.LeadsTo system awake := .wait system configuration _
      have due (wake : Moment) (deadline : exchange.deadline? = some wake) : wake ≤ awake.now := by
        simp [awake, deadline]
      obtain ⟨⟨moved, progress⟩, moves⟩ :=
        Option.isSome_iff_exists.mp (Exchange.isSome_move? due awake.shared)
      let turn : Turn Transport TransportTask := ⟨moved, some progress.toTask, []⟩
      have taken :
          system.behaviour.turn awake.now awake.shared (.exchange exchange) = some turn := by
        refine Option.map_eq_some_iff.mpr ⟨_, moves, ?_⟩
        cases progress <;> rfl
      have turns : configuration.LeadsTo system (awake.update place turn) :=
        waits.trans (.turn found taken)
      have becomes : (awake.update place turn).task? place = turn.task :=
        Configuration.task?_update_self found turn
      cases progress with
      | going next =>
          have closer : next.stage.rank < rank := by
            rw [← isRank]
            exact (Exchange.Moves.of_move? moves).rank_lt
          obtain ⟨later, result, leads, returned⟩ := inductionHypothesis _ closer becomes rfl
          exact ⟨later, result, turns.trans leads, returned⟩
      | ended result =>
          exact ⟨_, result, turns, becomes⟩

/-! ## Runs -/

/-- The endpoint of a call. -/
def TransportCall.endpoint : TransportCall → Endpoint
  | .definitions => .definitions
  | .evaluations _ => .evaluations
  | .bulk _ => .bulk
  | .event _ => .event

/-- How the calls on a transport return and what they log, whatever they meet. -/
structure ClassifiesOutcomes
    (transport : Transport)
    (history : List TransportTransition)
    (last : Configuration Transport TransportTask) :
    Prop where
  /-- Nothing returns but calls. -/
  called :
    ∀ {returned},
      returned ∈ returns history →
      ∃ begins ∈ history, ∃ call,
        begins.move = .intervene (.call call) ∧
          begins.before.tasks.length = returned.place
  /-- A call returns once. -/
  once : ((returns history).map (·.place)).Nodup
  /-- What has been returned is where the calls are in the end. -/
  returned :
    ∀ {place result},
      ⟨place, result⟩ ∈ returns history ↔ last.task? place = some (.answered result)
  /-- Every call has returned or can return. -/
  returns :
    ∀ {earlier begins later call},
      history = earlier ++ begins :: later →
      begins.move = .intervene (.call call) →
      ∃ following result,
        last.LeadsTo system following ∧
          following.task? begins.before.tasks.length = some (.answered result)
  /-- Whatever a call waits for is the reply to its own request. -/
  replied :
    ∀ {earlier begins later call looks request wake arrival},
      history = earlier ++ begins :: later →
      begins.move = .intervene (.call call) →
      looks ∈ later →
      looks.before.task? begins.before.tasks.length =
        some (.exchange { request, stage := .pending wake arrival }) →
      ∃ sends ∈ later, ∃ reply,
        Sends sends begins.before.tasks.length (call.request transport) reply ∧
          wake = sends.before.now + reply.delay ∧
          arrival = reply.arrival
  /-- A call that has returned has met an outcome before. -/
  met :
    ∀ {earlier begins later call result},
      history = earlier ++ begins :: later →
      begins.move = .intervene (.call call) →
      last.task? begins.before.tasks.length = some (.answered result) →
      ∃ looks ∈ later, ∃ outcome,
        Meets looks begins.before.tasks.length (call.request transport) outcome
  /-- It returns a content if the outcome is a success, and else a failure of its kind. -/
  classified :
    ∀ {earlier begins later call looks outcome result},
      history = earlier ++ begins :: later →
      begins.move = .intervene (.call call) →
      looks ∈ later →
      Meets looks begins.before.tasks.length (call.request transport) outcome →
      last.task? begins.before.tasks.length = some (.answered result) →
      ((∃ content, result = .ok content) ↔ call.endpoint.Succeeds outcome) ∧
        ∀ kind,
          (∃ failure, result = .error failure ∧ failure.kind = kind) ↔
            call.endpoint.FailsWith outcome kind
  /-- The log has the records of the returned results, in the order of the returns. -/
  logged :
    ∃ records,
      List.Forall₂ IsLogged ((Transport.returns history).map (·.result)) records ∧
        last.shared.log = transport.log ++ records.flatten

/-- A call begins with its own request, whatever has been before. -/
private theorem prepared_of_call
    {transport : Transport}
    {before after : Configuration Transport TransportTask}
    {call : TransportCall}
    (run :
      Run system transport.fresh (earlier ++ ⟨before, .intervene (.call call), after⟩ :: later)
        last) :
    after.task? before.tasks.length = some (.exchange { request := call.request transport }) :=
  let ⟨runBefore, possible⟩ := run.of_split
  TransportTask.exchange_of_call possible (Precedes.of_run runBefore).baseUrl

/-- Along every run of a transport the outcomes of its calls are classified and logged. -/
theorem run_classifiesOutcomes
    {transport : Transport}
    {history : List TransportTransition}
    {last : Configuration Transport TransportTask}
    (run : Run system transport.fresh history last) :
    ClassifiesOutcomes transport history last := by
  have endpoint_request (call : TransportCall) :
      (call.request transport).endpoint = call.endpoint := by
    cases call <;> rfl
  constructor
  case called =>
    rintro ⟨place, result⟩ returned
    exact exists_call_of_isCall run ((mem_returns_iff run).mp returned) trivial
  case once =>
    exact nodup_returns run
  case returned =>
    exact mem_returns_iff run
  case returns =>
    rintro earlier ⟨before, move, after⟩ later call rfl rfl
    obtain ⟨task, found, come⟩ := HasCome.of_run run.of_split_later (prepared_of_call run)
    cases come with
    | prepared | pending | reading =>
        exact exists_leadsTo_answered found
    | answered =>
        exact ⟨last, _, .refl system last, found⟩
  case replied =>
    rintro earlier ⟨before, move, after⟩ later call looks request wake arrival rfl rfl looked found
    obtain ⟨before, rest, rfl⟩ := List.append_of_mem looked
    obtain ⟨task, foundTask, come⟩ :=
      HasCome.of_run run.of_split_later.of_split.1 (prepared_of_call run)
    cases found.symm.trans foundTask
    cases come with
    | pending sent sends =>
        exact ⟨_, List.mem_append_left _ sent, _, sends, rfl, rfl⟩
  case met =>
    rintro earlier ⟨before, move, after⟩ later call result rfl rfl given
    obtain ⟨task, found, come⟩ := HasCome.of_run run.of_split_later (prepared_of_call run)
    cases found.symm.trans given
    cases come with
    | answered looked meets =>
        exact ⟨_, looked, _, meets⟩
  case classified =>
    rintro earlier ⟨before, move, after⟩ later call looks outcome result rfl rfl looked meets given
    obtain rfl := meets.result_eq looked run.of_split_later given
    rw [endpoint_request]
    exact ⟨Endpoint.result_eq_ok_iff, fun kind => Endpoint.result_eq_error_iff⟩
  case logged =>
    exact exists_records run

/-- A transport with a backend that reports no success, and takes nothing. -/
def unwilling : Transport where
  baseUrl := "http://h.test"
  secretKey := "sec"
  timeout := 10000
  backend route _ :=
    if route = "features" then
      let response := Json.Tree.object [("success", .bool false), ("features", .array [])]
      { arrival := .answered 200 (.ok response.toText) }
    else
      { arrival := .answered 403 (.ok "") }

/-- Of three calls the last one is given up, and only the others are logged. -/
theorem run_classifiesOutcomes_unwilling :
    ∃ history last,
      Run system unwilling.fresh history last ∧
        (last.tasks.map fun task => (task.bind TransportTask.failure?).map (·.kind)) =
          [some .unexpectedResponse, some .invalidSecretKey, some .requestCancelled] ∧
        last.shared.log.map (·.number) = [1101, 1001] ∧
        ClassifiesOutcomes unwilling history last := by
  let calls : List (Move TransportAction) :=
    [.intervene (.call .definitions), .intervene (.call (.bulk [])), .intervene (.call (.bulk []))]
  let moves : List (Move TransportAction) :=
    calls ++ [.turn 0, .turn 0, .turn 1, .turn 0, .turn 1, .intervene .cancel, .turn 2]
  have observed :
      (unwilling.fresh.trace? system moves).map (fun (_, last) =>
          (last.tasks.map fun task => (task.bind TransportTask.failure?).map (·.kind),
            last.shared.log.map (·.number))) =
        some
          ([some .unexpectedResponse, some .invalidSecretKey, some .requestCancelled],
            [1101, 1001]) := by
    decide +kernel
  obtain ⟨⟨history, last⟩, traced, seen⟩ := Option.map_eq_some_iff.mp observed
  obtain ⟨kinds, numbers⟩ := Prod.mk.inj seen
  have run := Run.of_trace? traced
  exact ⟨history, last, run, kinds, numbers, run_classifiesOutcomes run⟩

end FeatureFlags.Transport
