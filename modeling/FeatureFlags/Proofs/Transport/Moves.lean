import FeatureFlags.Transport.Exchange

namespace FeatureFlags.Transport

/-!
# Moves of an exchange

All moves that an exchange can make, one rule for each, and what they have in common: an
exchange never changes its request, it sends it at most once, and it comes to an end, which
is a good one only if a body with the right content is read.
-/

variable
  {now : Moment}
  {transport moved : Transport}
  {exchange : Exchange}
  {progress : Progress}

/-- The moves of an exchange. -/
inductive Exchange.Moves
    (now : Moment)
    (transport : Transport)
    (request : Request) :
    ExchangeStage → Transport → Progress → Prop where
  /-- An exchange that still waits is given up. -/
  | cancelled
      {stage : ExchangeStage} :
      transport.cancelled = true →
      (∀ body, stage ≠ .reading body) →
      Moves now transport request stage
        (transport.conclude (.error request.endpoint.cancelled)).1
        (.ended (.error request.endpoint.cancelled))
  /-- A request without an address cannot be sent. -/
  | unaddressed
      {fault : Address.Fault} :
      transport.cancelled = false →
      request.address = .error fault →
      Moves now transport request .prepared
        (transport.conclude (.error (request.endpoint.unreachable fault.message))).1
        (.ended (.error (request.endpoint.unreachable fault.message)))
  /-- The request is sent. -/
  | sends
      {address : Address} :
      transport.cancelled = false →
      request.address = .ok address →
      Moves now transport request .prepared
        (transport.note now request address)
        (.going
          { request
            stage :=
              .pending (now + (transport.replyFor address).delay)
                (transport.replyFor address).arrival })
  /-- What came back fails the request. -/
  | rejected
      {wake : Moment}
      {arrival : Arrival}
      {failure : Failure} :
      transport.cancelled = false →
      wake ≤ now →
      request.endpoint.judge arrival = .error failure →
      Moves now transport request (.pending wake arrival)
        (transport.conclude (.error failure)).1
        (.ended (.error failure))
  /-- An answer has come, whose body counts. -/
  | answered
      {wake : Moment}
      {arrival : Arrival}
      {body : Except String String} :
      transport.cancelled = false →
      wake ≤ now →
      request.endpoint.judge arrival = .ok body →
      Moves now transport request (.pending wake arrival)
        transport
        (.going { request, stage := .reading body })
  /-- The body is read. -/
  | reads
      {body : Except String String} :
      Moves now transport request (.reading body)
        (transport.conclude (request.endpoint.readBody body)).1
        (.ended (request.endpoint.readBody body))

/-- The exchange that goes on, if one does. -/
def Progress.exchange? : Progress → Option Exchange
  | .going next => some next
  | .ended _ => none

namespace Exchange

/-- Every possible move is among the rules. -/
theorem Moves.of_move?
    (possible : exchange.move? now transport = some (moved, progress)) :
    Moves now transport exchange.request exchange.stage moved progress := by
  obtain ⟨request, stage⟩ := exchange
  cases stage with
  | prepared =>
      cases cancelled : transport.cancelled with
      | true =>
          simp only [move?, cancelled, ↓reduceIte, Option.some.injEq] at possible
          cases possible
          exact .cancelled cancelled (fun _ => nofun)
      | false =>
          cases addressed : request.address with
          | error fault =>
              simp only [move?, cancelled, Bool.false_eq_true, ↓reduceIte, addressed,
                Option.some.injEq] at possible
              cases possible
              exact .unaddressed cancelled addressed
          | ok address =>
              simp only [move?, cancelled, Bool.false_eq_true, ↓reduceIte, addressed,
                Option.some.injEq] at possible
              cases possible
              exact .sends cancelled addressed
  | pending wake arrival =>
      cases cancelled : transport.cancelled with
      | true =>
          simp only [move?, cancelled, ↓reduceIte, Option.some.injEq] at possible
          cases possible
          exact .cancelled cancelled (fun _ => nofun)
      | false =>
          by_cases awake : wake ≤ now
          · cases judged : request.endpoint.judge arrival with
            | error failure =>
                simp only [move?, cancelled, Bool.false_eq_true, ↓reduceIte, awake, judged,
                  Option.some.injEq] at possible
                cases possible
                exact .rejected cancelled awake judged
            | ok body =>
                simp only [move?, cancelled, Bool.false_eq_true, ↓reduceIte, awake, judged,
                  Option.some.injEq] at possible
                cases possible
                exact .answered cancelled awake judged
          · simp [move?, cancelled, awake] at possible
  | reading body =>
      cases possible
      exact .reads

end Exchange

namespace Exchange.Moves

variable
  {request : Request}
  {stage : ExchangeStage}

/-- Moves change neither what a transport was given nor whether it has been cancelled. -/
theorem kept
    (moves : Moves now transport request stage moved progress) :
    moved.baseUrl = transport.baseUrl ∧ moved.cancelled = transport.cancelled := by
  cases moves <;> exact ⟨rfl, rfl⟩

/-- An exchange that goes on has sent its request, and keeps it. -/
theorem of_going
    {next : Exchange}
    (moves : Moves now transport request stage moved (.going next)) :
    next.request = request ∧ next.stage ≠ .prepared := by
  cases moves with
  | sends | answered =>
      exact ⟨rfl, nofun⟩

/-- Only an exchange that has not sent its request sends one, which is its own. -/
theorem sent_cases
    (moves : Moves now transport request stage moved progress) :
    moved.sent = transport.sent ∨
    ∃ address next,
      stage = .prepared ∧
        request.address = .ok address ∧
        progress = .going next ∧
        moved.sent =
          transport.sent ++ [⟨now, request.endpoint, address, request.body⟩] := by
  cases moves with
  | sends _ addressed =>
      exact .inr ⟨_, _, rfl, addressed, rfl, rfl⟩
  | cancelled | unaddressed | rejected | answered | reads =>
      exact .inl rfl

/-- Whatever an exchange sends is sent to where its request goes. -/
theorem endpoint_of_sent
    (moves : Moves now transport request stage moved progress)
    {sent : Sent}
    (new : sent ∈ moved.sent.drop transport.sent.length) :
    sent.endpoint = request.endpoint := by
  rcases moves.sent_cases with same | ⟨address, next, -, -, -, added⟩
  · simp [same] at new
  · rw [added, List.drop_left, List.mem_singleton] at new
    rw [new]

/-- A request is sent unless it is given up or has no address. -/
theorem sent_of_prepared
    (moves : Moves now transport request .prepared moved progress) :
    transport.cancelled = true ∨
    (∃ fault, request.address = .error fault) ∨
    ∃ address,
      moved.sent = transport.sent ++ [⟨now, request.endpoint, address, request.body⟩] := by
  cases moves with
  | cancelled isCancelled =>
      exact .inl isCancelled
  | unaddressed _ faulty =>
      exact .inr (.inl ⟨_, faulty⟩)
  | sends =>
      exact .inr (.inr ⟨_, rfl⟩)

/-- An exchange ends well only by reading a body. -/
theorem of_ended_ok
    {content : Content}
    (moves : Moves now transport request stage moved progress)
    (ends : progress = .ended (.ok content)) :
    ∃ body, stage = .reading body ∧ request.endpoint.readBody body = .ok content := by
  cases moves with
  | cancelled | unaddressed | sends | rejected | answered =>
      cases ends
  | reads =>
      exact ⟨_, rfl, by simpa using ends⟩

end Exchange.Moves

/-! ## Ends -/

/-- How many moves of an exchange are left at most before the last one. -/
def ExchangeStage.rank : ExchangeStage → Nat
  | .prepared => 2
  | .pending _ _ => 1
  | .reading _ => 0

/-- An exchange that goes on comes closer to its end. -/
theorem Exchange.Moves.rank_lt
    {request : Request}
    {stage : ExchangeStage}
    {next : Exchange}
    (moves : Exchange.Moves now transport request stage moved (.going next)) :
    next.stage.rank < stage.rank := by
  cases moves with
  | sends =>
      exact Nat.one_lt_two
  | answered =>
      exact Nat.zero_lt_one

/-- An exchange that waits for nothing any more can move. -/
theorem Exchange.isSome_move?
    (due : ∀ wake, exchange.deadline? = some wake → wake ≤ now)
    (transport : Transport) :
    (exchange.move? now transport).isSome = true := by
  obtain ⟨request, stage⟩ := exchange
  cases stage with
  | prepared =>
      simp only [move?]
      split
      · rfl
      · split <;> rfl
  | pending wake arrival =>
      have awake : wake ≤ now := due wake rfl
      simp only [move?, if_pos awake]
      split
      · rfl
      · split <;> rfl
  | reading body =>
      rfl

/-! ## Contents -/

/-- A body that cannot be interpreted is a failure of its endpoint. -/
theorem Endpoint.readBody_of_interpret_eq_error
    {endpoint : Endpoint}
    {text : String}
    {fault : Feature.ResponseError}
    (interpreted : endpoint.interpret text = .error fault) :
    endpoint.readBody (.ok text) = .error (endpoint.ofResponseError fault) := by
  rw [readBody, interpreted]
  rfl

/-- A body gives what can be interpreted in its text. -/
theorem Endpoint.readBody_eq_ok_iff
    {endpoint : Endpoint}
    {body : Except String String}
    {content : Content} :
    endpoint.readBody body = .ok content ↔
      ∃ text, body = .ok text ∧ endpoint.interpret text = .ok content := by
  cases body with
  | error reason =>
      simp [readBody]
  | ok text =>
      cases interpreted : endpoint.interpret text with
      | error fault =>
          simp [readBody_of_interpret_eq_error interpreted, interpreted]
      | ok given =>
          have read : endpoint.readBody (.ok text) = .ok given := by
            rw [readBody, interpreted]
            rfl
          simp [read, interpreted]

/-- What the body of an answer with definitions gives. -/
theorem readBody_definitions_eq_ok_iff
    {body : Except String String}
    {content : Content} :
    Endpoint.definitions.readBody body = .ok content ↔
      ∃ text definitions,
        body = .ok text ∧
          Feature.definitionsOfText text = .ok definitions ∧
          content = .definitions definitions := by
  rw [Endpoint.readBody_eq_ok_iff]
  refine exists_congr fun text => ?_
  cases parsed : Feature.definitionsOfText text <;>
    simp [Endpoint.interpret, parsed, Functor.map, Except.map, eq_comm]

/-- What the body of an answer with evaluations gives. -/
theorem readBody_evaluations_eq_ok_iff
    {body : Except String String}
    {content : Content} :
    Endpoint.evaluations.readBody body = .ok content ↔
      ∃ text evaluated,
        body = .ok text ∧
          Feature.remoteFeaturesOfText text = .ok evaluated ∧
          content = .evaluations evaluated.features := by
  rw [Endpoint.readBody_eq_ok_iff]
  refine exists_congr fun text => ?_
  cases parsed : Feature.remoteFeaturesOfText text <;>
    simp [Endpoint.interpret, parsed, Functor.map, Except.map, eq_comm]

end FeatureFlags.Transport
