import FeatureFlags.Failure
import FeatureFlags.Feature.Remote

namespace FeatureFlags.Transport

/-!
# Endpoints

What the backend offers, and how what comes back from it is judged. A status
between 200 and 299 makes the body count; for definitions and evaluations the body
must then be a response that reports success.
-/

/-- What the backend offers. -/
inductive Endpoint where
  /-- The definitions of all features. -/
  | definitions
  /-- The evaluation of all features for some fields. -/
  | evaluations
  /-- A list of messages is taken. -/
  | bulk
  /-- A single event is taken. -/
  | event
deriving DecidableEq, Repr

/-- The method of a request. -/
inductive Method where
  | get
  | post
deriving DecidableEq, Repr

/-- The name of a method. -/
def Method.name : Method → String
  | .get => "GET"
  | .post => "POST"

/-- What came back for a request, and when nothing did, why. -/
inductive Arrival where
  /-- An answer; its body may turn out to be unreadable, which gives a text. -/
  | answered (status : Nat) (body : Except String String)
  | failed (reason : String)
  | timedOut

/-- What a request gives in the end. -/
inductive Content where
  | definitions (definitions : List Feature.Definition)
  | evaluations (features : List Feature.RemoteFeature)
  /-- The messages have been taken. -/
  | taken

namespace Endpoint

/-- The path of an endpoint. -/
def path : Endpoint → String
  | .definitions => "features"
  | .evaluations => "features/evaluated"
  | .bulk => "bulk"
  | .event => "event"

/-- The method of an endpoint. -/
def method : Endpoint → Method
  | .definitions => .get
  | .evaluations => .get
  | .bulk => .post
  | .event => .post

/-- What a request to an endpoint is for. -/
def action : Endpoint → String
  | .definitions => "fetch feature definitions"
  | .evaluations => "evaluate features remotely"
  | .bulk => "send output messages"
  | .event => "send event"

/-- The failure of a request that was given up. -/
def cancelled (endpoint : Endpoint) : Failure where
  kind := .requestCancelled
  message :=
    s!"Request to {endpoint.action} was cancelled because the client is being disposed."

/-- The failure of a request that was not answered in time. -/
def timedOut (endpoint : Endpoint) : Failure where
  kind := .requestTimeout
  message := s!"Request timed out while trying to {endpoint.action}."

/-- The failure of a request that could not be carried out. -/
def unreachable
    (endpoint : Endpoint)
    (reason : String) :
    Failure where
  kind := .requestFailure
  message :=
    s!"Unexpected error occurred while trying to {endpoint.action}. " ++
      s!"It is most likely due to a local network issue. {reason}"

/-- The failure of a request that was rejected for its secret key. -/
def rejected
    (endpoint : Endpoint)
    (status : Nat) :
    Failure where
  kind := .invalidSecretKey
  message :=
    "Your secret key seems to be wrong. " ++
      s!"Request to {endpoint.action} was rejected with status code {status}."

/-- The failure of a request that was answered with another status. -/
def unexpected
    (endpoint : Endpoint)
    (status : Nat) :
    Failure where
  kind := .unexpectedResponse
  message :=
    "Unexpected HTTP response was received while trying to " ++
      s!"{endpoint.action}. Status code: {status}"

/-- The failure of a request whose answer had an unusable content. -/
def unusable
    (endpoint : Endpoint)
    (reason : String) :
    Failure where
  kind := .invalidResponseContent
  message :=
    s!"Request to {endpoint.action} was successful " ++
      s!"but the HTTP response content was invalid. {reason}"

/-- The failure of a request whose answer reported no success. -/
def unsuccessful (endpoint : Endpoint) : Failure where
  kind := .unexpectedResponse
  message := "Request to " ++ endpoint.action ++ " was answered with `success: false`."

/-- The failure of a request whose answer was not a response that reports success. -/
def ofResponseError (endpoint : Endpoint) : Feature.ResponseError → Failure
  | .unsuccessful => endpoint.unsuccessful
  | .malformed fault => endpoint.unusable (Feature.ResponseError.malformed fault).message

/-- Whether the body counts, judged by what came back. -/
def judge (endpoint : Endpoint) : Arrival → Except Failure (Except String String)
  | .answered status body =>
      if 200 ≤ status ∧ status ≤ 299 then
        .ok body
      else if status = 401 ∨ status = 403 then
        .error (endpoint.rejected status)
      else
        .error (endpoint.unexpected status)
  | .failed reason => .error (endpoint.unreachable reason)
  | .timedOut => .error endpoint.timedOut

/-- What the text of a body gives. -/
def interpret
    (endpoint : Endpoint)
    (text : String) :
    Except Feature.ResponseError Content :=
  match endpoint with
  | .definitions => .definitions <$> Feature.definitionsOfText text
  | .evaluations => (.evaluations ·.features) <$> Feature.remoteFeaturesOfText text
  | .bulk => .ok .taken
  | .event => .ok .taken

/-- What a body gives once it has been read. -/
def readBody (endpoint : Endpoint) : Except String String → Except Failure Content
  | .error reason => .error (endpoint.unusable reason)
  | .ok text => (endpoint.interpret text).mapError endpoint.ofResponseError

end Endpoint

end FeatureFlags.Transport
