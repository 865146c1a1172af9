import FeatureFlags.Proofs.Transport.Moves

namespace FeatureFlags.Transport

/-!
# Classification of outcomes

Whatever a call on a transport meets is a success, or a failure of one kind, and never both.
Statuses, bodies and responses are told apart here as such, and what the endpoints make of
them agrees: `Endpoint.result_eq_ok_iff` and `Endpoint.result_eq_error_iff`.
-/

open FeatureFlags.Json (Document)

/-- What a call meets in the end. -/
inductive Outcome where
  /-- The call is given up before there is a response. -/
  | cancelled
  | met (arrival : Arrival)

namespace Endpoint

/-- What a call gives that has met an outcome. -/
def result (endpoint : Endpoint) : Outcome → Except Failure Content
  | .cancelled => .error endpoint.cancelled
  | .met arrival =>
      match endpoint.judge arrival with
      | .error failure => .error failure
      | .ok body => endpoint.readBody body

/-- Whether a text reports success, if it is a response at all; only what is got is read. -/
def response?
    (endpoint : Endpoint)
    (text : String) :
    Option (Except Json.Fault Bool) :=
  match endpoint with
  | .definitions =>
      some
        (((Document.ofText text).readWith
            (Feature.readDefinitions (.text Json.nestingLimit))).map (·.1))
  | .evaluations =>
      some
        (((Document.ofText text).readWith
            (Feature.readRemoteFeatures (.text Json.nestingLimit))).map (·.1))
  | .bulk => none
  | .event => none

/-- A status that makes the body count. -/
def IsSuccessful (status : Nat) : Prop :=
  200 ≤ status ∧ status ≤ 299

/-- The outcomes that are successes. -/
inductive Succeeds (endpoint : Endpoint) : Outcome → Prop where
  /-- Whoever posts does not look at the text of the body. -/
  | posted
      {status : Nat}
      {text : String} :
      endpoint.method = .post →
      IsSuccessful status →
      Succeeds endpoint (.met (.answered status (.ok text)))
  | got
      {status : Nat}
      {text : String} :
      endpoint.method = .get →
      IsSuccessful status →
      endpoint.response? text = some (.ok true) →
      Succeeds endpoint (.met (.answered status (.ok text)))

/-- The outcomes that are failures, and of which kind. -/
inductive FailsWith (endpoint : Endpoint) : Outcome → FailureKind → Prop where
  | rejected
      {status : Nat}
      {body : Except String String} :
      status = 401 ∨ status = 403 →
      FailsWith endpoint (.met (.answered status body)) .invalidSecretKey
  | unexpected
      {status : Nat}
      {body : Except String String} :
      ¬ IsSuccessful status →
      status ≠ 401 →
      status ≠ 403 →
      FailsWith endpoint (.met (.answered status body)) .unexpectedResponse
  | unsuccessful
      {status : Nat}
      {text : String} :
      endpoint.method = .get →
      IsSuccessful status →
      endpoint.response? text = some (.ok false) →
      FailsWith endpoint (.met (.answered status (.ok text))) .unexpectedResponse
  | unreadable
      {status : Nat}
      {reason : String} :
      IsSuccessful status →
      FailsWith endpoint (.met (.answered status (.error reason))) .invalidResponseContent
  | malformed
      {status : Nat}
      {text : String}
      {fault : Json.Fault} :
      endpoint.method = .get →
      IsSuccessful status →
      endpoint.response? text = some (.error fault) →
      FailsWith endpoint (.met (.answered status (.ok text))) .invalidResponseContent
  | timedOut :
      FailsWith endpoint (.met .timedOut) .requestTimeout
  | failed
      {reason : String} :
      FailsWith endpoint (.met (.failed reason)) .requestFailure
  | cancelled :
      FailsWith endpoint .cancelled .requestCancelled

/-- Every outcome is a success or a failure. -/
theorem succeeds_or_failsWith
    (endpoint : Endpoint)
    (outcome : Outcome) :
    endpoint.Succeeds outcome ∨ ∃ kind, endpoint.FailsWith outcome kind := by
  cases outcome with
  | cancelled =>
      exact .inr ⟨_, .cancelled⟩
  | met arrival =>
      cases arrival with
      | failed reason =>
          exact .inr ⟨_, .failed⟩
      | timedOut =>
          exact .inr ⟨_, .timedOut⟩
      | answered status body =>
          by_cases successful : IsSuccessful status
          · cases body with
            | error reason =>
                exact .inr ⟨_, .unreadable successful⟩
            | ok text =>
                cases said : endpoint.response? text with
                | none =>
                    refine .inl (.posted ?_ successful)
                    cases endpoint <;> first | rfl | cases said
                | some response =>
                    have isGot : endpoint.method = .get := by
                      cases endpoint <;> first | rfl | cases said
                    match response with
                    | .ok true => exact .inl (.got isGot successful said)
                    | .ok false => exact .inr ⟨_, .unsuccessful isGot successful said⟩
                    | .error fault => exact .inr ⟨_, .malformed isGot successful said⟩
          · by_cases rejected : status = 401 ∨ status = 403
            · exact .inr ⟨_, .rejected rejected⟩
            · obtain ⟨not401, not403⟩ := not_or.mp rejected
              exact .inr ⟨_, .unexpected successful not401 not403⟩

/-! ## Bodies -/

/-- What is made of a response, told from whether it reports success. -/
private inductive Gives : Except Json.Fault Bool → Except Feature.ResponseError Content → Prop where
  | content
      {content : Content} :
      Gives (.ok true) (.ok content)
  | unsuccessful :
      Gives (.ok false) (.error .unsuccessful)
  | malformed
      {fault : Json.Fault} :
      Gives (.error fault) (.error (.malformed fault))

private theorem Gives.of_successful
    (response : Except Json.Fault (Bool × α))
    (toContent : α → Content) :
    Gives (response.map (·.1)) (toContent <$> Feature.successful response) := by
  match response with
  | .ok (true, _) => exact .content
  | .ok (false, _) => exact .unsuccessful
  | .error _ => exact .malformed

variable
  {endpoint : Endpoint}
  {text : String}
  {outcome : Outcome}
  {status : Nat}
  {said : Except Json.Fault Bool}

private theorem gives_interpret
    (reports : endpoint.response? text = some said) :
    Gives said (endpoint.interpret text) := by
  cases endpoint with
  | definitions =>
      cases reports
      exact .of_successful _ Content.definitions
  | evaluations =>
      cases reports
      exact .of_successful _ fun remote : Feature.RemoteFeatures => .evaluations remote.features
  | bulk | event =>
      cases reports

/-- A status that makes the body count leaves the rest to the body. -/
private theorem result_of_isSuccessful
    (endpoint : Endpoint)
    (successful : IsSuccessful status)
    (body : Except String String) :
    endpoint.result (.met (.answered status body)) = endpoint.readBody body := by
  have counts : 200 ≤ status ∧ status ≤ 299 := successful
  simp [result, judge, counts]

/-! ## Results -/

theorem Succeeds.exists_content
    (succeeds : endpoint.Succeeds outcome) :
    ∃ content, endpoint.result outcome = .ok content := by
  cases succeeds with
  | posted isPosted successful =>
      rw [result_of_isSuccessful endpoint successful]
      cases endpoint with
      | definitions | evaluations =>
          cases isPosted
      | bulk | event =>
          exact ⟨.taken, rfl⟩
  | @got status text _ successful reports =>
      rw [result_of_isSuccessful endpoint successful]
      have gives := gives_interpret reports
      cases interpreted : endpoint.interpret text with
      | ok content =>
          exact ⟨content, readBody_eq_ok_iff.mpr ⟨text, rfl, interpreted⟩⟩
      | error fault =>
          rw [interpreted] at gives
          cases gives

theorem FailsWith.exists_failure
    {kind : FailureKind}
    (fails : endpoint.FailsWith outcome kind) :
    ∃ failure, endpoint.result outcome = .error failure ∧ failure.kind = kind := by
  cases fails with
  | @rejected status body isRejected =>
      refine ⟨endpoint.rejected status, ?_, rfl⟩
      rcases isRejected with rfl | rfl <;> rfl
  | @unexpected status body unsuccessful not401 not403 =>
      have notCounts : ¬ (200 ≤ status ∧ status ≤ 299) := unsuccessful
      refine ⟨endpoint.unexpected status, ?_, rfl⟩
      simp only [result, judge, if_neg notCounts, if_neg (not_or.mpr ⟨not401, not403⟩)]
  | @unsuccessful status text _ successful reports =>
      have gives := gives_interpret reports
      refine ⟨endpoint.unsuccessful, ?_, rfl⟩
      rw [result_of_isSuccessful endpoint successful]
      cases interpreted : endpoint.interpret text with
      | ok content =>
          rw [interpreted] at gives
          cases gives
      | error fault =>
          rw [interpreted] at gives
          cases gives
          exact readBody_of_interpret_eq_error interpreted
  | @unreadable status reason successful =>
      exact ⟨endpoint.unusable reason, result_of_isSuccessful endpoint successful _, rfl⟩
  | @malformed status text fault _ successful reports =>
      have gives := gives_interpret reports
      refine ⟨endpoint.unusable (Feature.ResponseError.malformed fault).message, ?_, rfl⟩
      rw [result_of_isSuccessful endpoint successful]
      cases interpreted : endpoint.interpret text with
      | ok content =>
          rw [interpreted] at gives
          cases gives
      | error fault =>
          rw [interpreted] at gives
          cases gives
          exact readBody_of_interpret_eq_error interpreted
  | timedOut =>
      exact ⟨endpoint.timedOut, rfl, rfl⟩
  | failed =>
      exact ⟨endpoint.unreachable _, rfl, rfl⟩
  | cancelled =>
      exact ⟨endpoint.cancelled, rfl, rfl⟩

/-- A call gives a content exactly if its outcome is a success. -/
theorem result_eq_ok_iff :
    (∃ content, endpoint.result outcome = .ok content) ↔ endpoint.Succeeds outcome := by
  refine ⟨fun ⟨content, given⟩ => ?_, Succeeds.exists_content⟩
  rcases endpoint.succeeds_or_failsWith outcome with succeeds | ⟨kind, fails⟩
  · exact succeeds
  · obtain ⟨failure, failed, -⟩ := fails.exists_failure
    cases given.symm.trans failed

/-- A call gives a failure of a kind exactly if its outcome is a failure of that kind. -/
theorem result_eq_error_iff
    {kind : FailureKind} :
    (∃ failure, endpoint.result outcome = .error failure ∧ failure.kind = kind) ↔
      endpoint.FailsWith outcome kind := by
  refine ⟨?_, FailsWith.exists_failure⟩
  rintro ⟨failure, failed, rfl⟩
  rcases endpoint.succeeds_or_failsWith outcome with succeeds | ⟨kind, fails⟩
  · obtain ⟨content, given⟩ := succeeds.exists_content
    cases given.symm.trans failed
  · obtain ⟨given, same, rfl⟩ := fails.exists_failure
    cases same.symm.trans failed
    exact fails

end Endpoint

end FeatureFlags.Transport
