import FeatureFlags.Proofs.Interleaving
import FeatureFlags.Proofs.Transport.Moves
import FeatureFlags.Transport.Calls

namespace FeatureFlags.Transport

/-!
# Cancelling a transport

Calls on a transport and its cancellation in every order. A call that has not been sent, or
waits for what comes back, is given up. A call that has got an answer no longer looks whether
the transport has been cancelled: it reads the body to the end.
-/

open FeatureFlags.Telemetry (Event Message)

/-! ## The system -/

/-- A call on a transport. -/
inductive TransportCall where
  | definitions
  | evaluations (fields : Fields)
  | bulk (messages : List Message)
  | event (reported : Event)

/-- The request of a call. -/
def TransportCall.request (transport : Transport) : TransportCall → Request
  | .definitions => transport.definitionsRequest
  | .evaluations fields => transport.evaluationsRequest fields
  | .bulk messages => transport.bulkRequest messages
  | .event reported => transport.eventRequest reported

/-- What is done to a transport from outside. -/
inductive TransportAction where
  | call (call : TransportCall)
  | cancel
  /-- A cancellation is set up that comes after a duration. -/
  | cancelLater (duration : Nat)

/-- The tasks around a transport, with calls and cancellations at any moment. -/
def system : System Transport TransportTask TransportAction where
  behaviour := TransportTask.behaviour
  intervene _ transport
    | .call call => (transport, [.exchange { request := call.request transport }])
    | .cancel => (transport.cancel, [])
    | .cancelLater duration => (transport, [.cancelAfter duration])

/-- A transport that nobody has used yet. -/
def fresh (transport : Transport) : Configuration Transport TransportTask where
  shared := transport

/-- A move of the system of a transport with what was before and after it. -/
abbrev TransportTransition := Transition Transport TransportTask TransportAction

/-! ## Exchanges on a cancelled transport -/

variable
  {now : Moment}
  {transport : Transport}
  {exchange : Exchange}

/-- Whether the body of an answer is about to be read. -/
def Exchange.isReading (exchange : Exchange) : Bool :=
  match exchange.stage with
  | .reading _ => true
  | _ => false

/-- What an exchange gives once the transport has been cancelled. -/
def Exchange.lastResult (exchange : Exchange) : Except Failure Content :=
  match exchange.stage with
  | .reading body => exchange.request.endpoint.readBody body
  | _ => .error exchange.request.endpoint.cancelled

/-- On a cancelled transport every exchange can move, and ends with that. -/
theorem Exchange.move?_of_cancelled
    (cancelled : transport.cancelled = true)
    (now : Moment)
    (exchange : Exchange) :
    exchange.move? now transport = some (transport.conclude exchange.lastResult) := by
  obtain ⟨request, stage⟩ := exchange
  cases stage <;> simp [move?, lastResult, cancelled]

/-- No body is read as a cancellation. -/
theorem Endpoint.readBody_ne_cancelled
    (endpoint : Endpoint)
    (body : Except String String) :
    endpoint.readBody body ≠ .error endpoint.cancelled := by
  cases body with
  | error reason =>
      simp [readBody, unusable, Endpoint.cancelled]
  | ok text =>
      cases interpreted : endpoint.interpret text with
      | ok content =>
          simp [readBody_eq_ok_iff.mpr ⟨text, rfl, interpreted⟩]
      | error fault =>
          rw [readBody_of_interpret_eq_error interpreted]
          cases fault <;> simp [ofResponseError, unsuccessful, unusable, Endpoint.cancelled]

/-- An exchange is given up on a cancelled transport unless it is about to read a body. -/
theorem Exchange.lastResult_eq_cancelled_iff (exchange : Exchange) :
    exchange.lastResult = .error exchange.request.endpoint.cancelled ↔
      exchange.isReading = false := by
  obtain ⟨request, stage⟩ := exchange
  cases stage with
  | prepared | pending =>
      simp [lastResult, isReading]
  | reading body =>
      simpa [lastResult, isReading] using request.endpoint.readBody_ne_cancelled body

/-! ## Steps -/

/-- What a transport keeps from one state to a later one. -/
structure Precedes (earlier later : Transport) : Prop where
  baseUrl : later.baseUrl = earlier.baseUrl
  cancelled : earlier.cancelled = true → later.cancelled = true
  /-- A cancelled transport sends nothing. -/
  unsent : earlier.cancelled = true → later.sent = earlier.sent

namespace Precedes

variable {configuration next : Configuration Transport TransportTask} {move : Move TransportAction}

private theorem refl (transport : Transport) : transport.Precedes transport :=
  ⟨rfl, id, fun _ => rfl⟩

private theorem cancel (transport : Transport) : transport.Precedes transport.cancel :=
  ⟨rfl, fun _ => rfl, fun _ => rfl⟩

theorem trans
    {earlier middle later : Transport}
    (first : earlier.Precedes middle)
    (second : middle.Precedes later) :
    earlier.Precedes later where
  baseUrl := second.baseUrl.trans first.baseUrl
  cancelled := second.cancelled ∘ first.cancelled
  unsent cancelled := (second.unsent (first.cancelled cancelled)).trans (first.unsent cancelled)

private theorem of_moves
    {request : Request}
    {stage : ExchangeStage}
    {moved : Transport}
    {progress : Progress}
    (moves : Exchange.Moves now transport request stage moved progress) :
    transport.Precedes moved where
  baseUrl := moves.kept.1
  cancelled := moves.kept.2.trans
  unsent := by
    intro cancelled
    cases moves with
    | sends notCancelled =>
        simp [notCancelled] at cancelled
    | cancelled | unaddressed | rejected | answered | reads =>
        rfl

private theorem of_turn
    {task : TransportTask}
    {turn : Turn Transport TransportTask}
    (possible : task.turn now transport = some turn) :
    transport.Precedes turn.shared := by
  cases task with
  | exchange exchange =>
      obtain ⟨⟨moved, progress⟩, moves, rest⟩ := Option.map_eq_some_iff.mp possible
      cases progress with
      | going | ended =>
          cases rest
          exact of_moves (.of_move? moves)
  | answered result =>
      cases possible
  | cancelAfter duration =>
      cases possible
      exact .refl transport
  | cancelAt wake =>
      simp only [TransportTask.turn, Option.ite_none_right_eq_some, Option.some.injEq] at possible
      obtain ⟨-, rfl⟩ := possible
      exact .cancel transport

/-- Every move keeps the address, and cancellations are final. -/
theorem of_after?
    (possible : configuration.after? system move = some next) :
    configuration.shared.Precedes next.shared := by
  cases move with
  | turn place =>
      obtain ⟨task, turn, -, taken, rfl⟩ := Configuration.after?_turn_eq_some_iff.mp possible
      exact of_turn taken
  | wait duration =>
      cases possible
      exact .refl _
  | intervene action =>
      cases action with
      | call | cancelLater =>
          cases possible
          exact .refl _
      | cancel =>
          cases possible
          exact .cancel _

end Precedes

/-- Whatever becomes of a call leaves its request alone. -/
def TransportTask.Carries (request : Request) : TransportTask → Prop
  | .exchange running => running.request = request
  | .answered _ => True
  | _ => False

namespace TransportTask

variable
  {configuration next : Configuration Transport TransportTask}
  {move : Move TransportAction}
  {place : Nat}
  {task : TransportTask}

/-- A call keeps its request until it has returned. -/
theorem Carries.step
    {request : Request}
    (possible : configuration.after? system move = some next)
    (carried : ∃ task, configuration.task? place = some task ∧ task.Carries request) :
    ∃ task, next.task? place = some task ∧ task.Carries request := by
  obtain ⟨task, found, carries⟩ := carried
  rcases Configuration.task?_after?_cases possible found with same | ⟨turn, rfl, taken, rfl⟩
  · exact ⟨task, same, carries⟩
  · rw [Configuration.task?_update_self found]
    cases task with
    | exchange exchange =>
        obtain ⟨⟨moved, progress⟩, moves, rest⟩ := Option.map_eq_some_iff.mp taken
        cases progress with
        | going next =>
            cases rest
            have kept := (Exchange.Moves.of_move? moves).of_going.1
            exact ⟨_, rfl, kept.trans carries⟩
        | ended result =>
            cases rest
            exact ⟨_, rfl, trivial⟩
    | answered result =>
        cases taken
    | cancelAfter | cancelAt =>
        cases carries

/-- A call that has returned stays so. -/
theorem answered_step
    {result : Except Failure Content}
    (possible : configuration.after? system move = some next)
    (found : configuration.task? place = some (.answered result)) :
    next.task? place = some (.answered result) := by
  rcases Configuration.task?_after?_cases possible found with same | ⟨turn, rfl, taken, rfl⟩
  · exact same
  · cases taken

/-- The turn of a call on a cancelled transport is its last. -/
theorem turn_of_cancelled
    (cancelled : transport.cancelled = true)
    (now : Moment)
    (exchange : Exchange) :
    (TransportTask.exchange exchange).turn now transport =
      some
        ⟨(transport.conclude exchange.lastResult).1, some (.answered exchange.lastResult), []⟩ := by
  simp only [turn, exchange.move?_of_cancelled cancelled]
  rfl

/-- A call on a cancelled transport waits for its turn, and then returns. -/
theorem exchange_step
    (possible : configuration.after? system move = some next)
    (cancelled : configuration.shared.cancelled = true)
    (found : configuration.task? place = some (.exchange exchange)) :
    next.task? place = some (.exchange exchange) ∨
      next.task? place = some (.answered exchange.lastResult) := by
  rcases Configuration.task?_after?_cases possible found with same | ⟨turn, rfl, taken, rfl⟩
  · exact .inl same
  · obtain rfl := Option.some.inj (taken.symm.trans (turn_of_cancelled cancelled _ exchange))
    exact .inr (Configuration.task?_update_self found _)

/-- A call begins with its own request. -/
theorem exchange_of_call
    {call : TransportCall}
    (possible : configuration.after? system (.intervene (.call call)) = some next)
    (sameUrl : configuration.shared.baseUrl = transport.baseUrl) :
    next.task? configuration.tasks.length =
      some (.exchange { request := call.request transport }) := by
  have sameAddress (endpoint : Endpoint) :
      configuration.shared.addressOf endpoint = transport.addressOf endpoint := by
    simp [addressOf, sameUrl]
  have sameRequest : call.request configuration.shared = call.request transport := by
    cases call <;>
      simp [TransportCall.request, definitionsRequest, evaluationsRequest, bulkRequest,
        eventRequest, sameAddress]
  cases possible
  rw [← sameRequest]
  simp [Configuration.task?]

end TransportTask

/-! ## Runs -/

section Runs

variable
  {start last : Configuration Transport TransportTask}
  {history : List TransportTransition}
  {place : Nat}

theorem Precedes.of_run
    (run : Run system start history last) :
    start.shared.Precedes last.shared := by
  induction run with
  | start =>
      exact .refl _
  | step _ possible inductionHypothesis =>
      exact inductionHypothesis.trans (.of_after? possible)

private theorem TransportTask.Carries.of_run
    {request : Request}
    (run : Run system start history last)
    (carried : ∃ task, start.task? place = some task ∧ task.Carries request) :
    ∃ task, last.task? place = some task ∧ task.Carries request := by
  induction run with
  | start =>
      exact carried
  | step _ possible inductionHypothesis =>
      exact TransportTask.Carries.step possible inductionHypothesis

theorem TransportTask.answered_of_run
    {result : Except Failure Content}
    (run : Run system start history last)
    (found : start.task? place = some (.answered result)) :
    last.task? place = some (.answered result) := by
  induction run with
  | start =>
      exact found
  | step _ possible inductionHypothesis =>
      exact answered_step possible inductionHypothesis

private theorem TransportTask.exchange_of_run
    (run : Run system start history last)
    (cancelled : start.shared.cancelled = true)
    (found : start.task? place = some (.exchange exchange)) :
    last.task? place = some (.exchange exchange) ∨
      last.task? place = some (.answered exchange.lastResult) := by
  induction run with
  | start =>
      exact .inl found
  | step run possible inductionHypothesis =>
      -- A call that still waits has not moved since, so what it gives has been settled by then.
      rcases inductionHypothesis with waits | returned
      · exact exchange_step possible ((Precedes.of_run run).cancelled cancelled) waits
      · exact .inr (answered_step possible returned)

end Runs

/-- What becomes of the calls on a transport once it has been cancelled. -/
structure CancellationSettles
    (transport : Transport)
    (history : List TransportTransition)
    (last : Configuration Transport TransportTask) :
    Prop where
  /-- Every call is on its way with its request, or has returned. -/
  carried :
    ∀ {earlier begins later call},
      history = earlier ++ begins :: later →
      begins.move = .intervene (.call call) →
      ∃ task,
        last.task? begins.before.tasks.length = some task ∧
          task.Carries (call.request transport)
  /-- Cancellations are final, and nothing is sent after them. -/
  silent :
    ∀ {earlier cancels later},
      history = earlier ++ cancels :: later →
      cancels.after.shared.cancelled = true →
      last.shared.cancelled = true ∧ last.shared.sent = cancels.after.shared.sent
  /-- A call that has returned by then is left alone. -/
  returned :
    ∀ {earlier cancels later place result},
      history = earlier ++ cancels :: later →
      cancels.after.task? place = some (.answered result) →
      last.task? place = some (.answered result)
  /-- Any other call goes no further than where it is by then, and returns from there. -/
  settled :
    ∀ {earlier cancels later place exchange},
      history = earlier ++ cancels :: later →
      cancels.after.shared.cancelled = true →
      cancels.after.task? place = some (.exchange exchange) →
      last.task? place = some (.exchange exchange) ∨
        last.task? place = some (.answered exchange.lastResult)
  /-- It can return at once. -/
  returns :
    ∀ {place exchange},
      last.shared.cancelled = true →
      last.task? place = some (.exchange exchange) →
      ∃ next,
        last.after? system (.turn place) = some next ∧
          next.task? place = some (.answered exchange.lastResult)
  /-- It is given up unless it is about to read a body by then, and only then. -/
  givenUp :
    ∀ {earlier cancels later place exchange result},
      history = earlier ++ cancels :: later →
      cancels.after.shared.cancelled = true →
      cancels.after.task? place = some (.exchange exchange) →
      last.task? place = some (.answered result) →
      (result = .error exchange.request.endpoint.cancelled ↔ exchange.isReading = false)

/-- A cancellation settles all calls along every run of a transport. -/
theorem run_cancellationSettles
    {transport : Transport}
    {history : List TransportTransition}
    {last : Configuration Transport TransportTask}
    (run : Run system transport.fresh history last) :
    CancellationSettles transport history last := by
  constructor
  case carried =>
    rintro earlier ⟨before, move, after⟩ later call rfl rfl
    obtain ⟨runBefore, possible⟩ := run.of_split
    exact TransportTask.Carries.of_run run.of_split_later
      ⟨_, TransportTask.exchange_of_call possible (Precedes.of_run runBefore).baseUrl, rfl⟩
  case silent =>
    rintro earlier cancels later rfl cancelled
    have precedes := Precedes.of_run run.of_split_later
    exact ⟨precedes.cancelled cancelled, precedes.unsent cancelled⟩
  case returned =>
    rintro earlier cancels later place result rfl found
    exact TransportTask.answered_of_run run.of_split_later found
  case settled =>
    rintro earlier cancels later place exchange rfl cancelled found
    exact TransportTask.exchange_of_run run.of_split_later cancelled found
  case returns =>
    intro place exchange cancelled found
    let turn : Turn Transport TransportTask :=
      ⟨(last.shared.conclude exchange.lastResult).1, some (.answered exchange.lastResult), []⟩
    have possible : last.after? system (.turn place) = some (last.update place turn) :=
      Configuration.after?_turn_eq_some_iff.mpr
        ⟨_, turn, found, TransportTask.turn_of_cancelled cancelled last.now exchange, rfl⟩
    exact ⟨_, possible, Configuration.task?_update_self found turn⟩
  case givenUp =>
    rintro earlier cancels later place exchange result rfl cancelled found returned
    rcases TransportTask.exchange_of_run run.of_split_later cancelled found with waits | ended
    · cases waits.symm.trans returned
    · cases ended.symm.trans returned
      exact exchange.lastResult_eq_cancelled_iff

/-! ## A cancellation while a body is read -/

/-- The exchange of a call that has not returned. -/
def TransportTask.exchange? : TransportTask → Option Exchange
  | .exchange running => some running
  | _ => none

/-- The failure that a call has returned. -/
def TransportTask.failure? : TransportTask → Option Failure
  | .answered (.error failure) => some failure
  | _ => none

/-- A transport whose requests are answered after a while, with a body that cannot be read. -/
def broken : Transport where
  baseUrl := "http://h.test"
  secretKey := "sec"
  timeout := 10000
  backend _ _ := { delay := 500, arrival := .answered 200 (.error "connection reset") }

/-- A call is sent, and gets an answer after a while. -/
def TransportAction.answeredCall : List (Move TransportAction) :=
  [.intervene (.call (.bulk [])), .turn 0, .wait 500, .turn 0]

/-- Of two calls that are under way at a cancellation, only the second one is given up. -/
theorem run_cancelledUnderWay :
    ∃ history last,
      Run system broken.fresh history last ∧
        last.tasks.map (·.bind TransportTask.failure?) =
          [some (Endpoint.unusable .bulk "connection reset"),
            some (Endpoint.cancelled .definitions)] ∧
        last.shared.sent.map (·.endpoint) = [.bulk, .definitions] ∧
        CancellationSettles broken history last := by
  let moves : List (Move TransportAction) :=
    TransportAction.answeredCall ++
      [.intervene (.call .definitions), .turn 1, .intervene .cancel, .turn 0, .turn 1]
  have observed :
      (broken.fresh.trace? system moves).map (fun (_, last) =>
          (last.tasks.map (·.bind TransportTask.failure?), last.shared.sent.map (·.endpoint))) =
        some
          ([some (Endpoint.unusable .bulk "connection reset"),
            some (Endpoint.cancelled .definitions)], [.bulk, .definitions]) := by
    decide +kernel
  obtain ⟨⟨history, last⟩, traced, seen⟩ := Option.map_eq_some_iff.mp observed
  obtain ⟨failures, sent⟩ := Prod.mk.inj seen
  have run := Run.of_trace? traced
  exact ⟨history, last, run, failures, sent, run_cancellationSettles run⟩

/-- Whatever is under way at a cancellation is given up. -/
def CancellationAborts
    (history : List TransportTransition)
    (last : Configuration Transport TransportTask) :
    Prop :=
  ∀ {earlier cancels later place exchange result},
    history = earlier ++ cancels :: later →
    cancels.after.shared.cancelled = true →
    cancels.after.task? place = some (.exchange exchange) →
    last.task? place = some (.answered result) →
    result = .error exchange.request.endpoint.cancelled

/-- A call that is about to read a body is not given up. -/
theorem not_cancellationAborts :
    ¬ ∀ {transport : Transport}
        {history : List TransportTransition}
        {last : Configuration Transport TransportTask},
        Run system transport.fresh history last →
        CancellationAborts history last := by
  intro aborts
  have observed :
      ((broken.fresh.trace? system TransportAction.answeredCall).bind fun (_, middle) =>
          (middle.after? system (.intervene .cancel)).bind fun next =>
            (next.after? system (.turn 0)).map fun last =>
              (next.shared.cancelled,
                ((next.task? 0).bind TransportTask.exchange?).isSome,
                (last.task? 0).bind TransportTask.failure?)) =
        some (true, true, some (Endpoint.unusable .bulk "connection reset")) := by
    decide +kernel
  obtain ⟨⟨earlier, middle⟩, traced, continues⟩ := Option.bind_eq_some_iff.mp observed
  obtain ⟨next, cancels, reads⟩ := Option.bind_eq_some_iff.mp continues
  obtain ⟨last, possible, seen⟩ := Option.map_eq_some_iff.mp reads
  simp only [Prod.mk.injEq] at seen
  obtain ⟨cancelled, underWay, failed⟩ := seen
  obtain ⟨exchange, found⟩ := Option.isSome_iff_exists.mp underWay
  obtain ⟨task, present, drives⟩ := Option.bind_eq_some_iff.mp found
  obtain ⟨ended, returned, fails⟩ := Option.bind_eq_some_iff.mp failed
  unfold TransportTask.exchange? at drives
  split at drives
  · unfold TransportTask.failure? at fails
    split at fails
    · have run := ((Run.of_trace? traced).step cancels).step possible
      rw [List.append_assoc] at run
      have given := aborts run rfl cancelled present returned
      cases fails
      cases given
    · cases fails
  · cases drives

end FeatureFlags.Transport
