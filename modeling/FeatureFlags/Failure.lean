import FeatureFlags.Text.Quoted

namespace FeatureFlags

/-!
# Failures

What a caller of the client is told when something goes wrong: the kind of the
failure with its number, a text, and the cause if the failure has one of its own.
-/

/-- The kind of a failure. -/
inductive FailureKind where
  /-- The settings are invalid. -/
  | invalidConfiguration
  /-- The secret key is missing, unusable or was rejected. -/
  | invalidSecretKey
  /-- What was used had been disposed. -/
  | disposed
  /-- A resolver of local features failed. -/
  | resolverFailure
  /-- A config payload did not have the wanted shape. -/
  | configDeserializationFailure
  /-- The backend answered with an unexpected status, or reported no success. -/
  | unexpectedResponse
  /-- The backend did not answer in time. -/
  | requestTimeout
  /-- The request could not be carried out. -/
  | requestFailure
  /-- The backend answered with a content that could not be used. -/
  | invalidResponseContent
  /-- The request was given up because the client was disposed. -/
  | requestCancelled
deriving DecidableEq, Repr

namespace FailureKind

/-- The number of a kind, under which its failures are logged. -/
def code : FailureKind → Nat
  | .invalidConfiguration => 1000
  | .invalidSecretKey => 1001
  | .disposed => 1002
  | .resolverFailure => 1003
  | .configDeserializationFailure => 1004
  | .unexpectedResponse => 1101
  | .requestTimeout => 1102
  | .requestFailure => 1103
  | .invalidResponseContent => 1105
  | .requestCancelled => 1106

/-- The name of a kind in descriptions of failures. -/
def name : FailureKind → String
  | .invalidConfiguration => "InvalidConfiguration"
  | .invalidSecretKey => "InvalidSecretKey"
  | .disposed => "Disposed"
  | .resolverFailure => "ResolverFailure"
  | .configDeserializationFailure => "ConfigDeserializationFailure"
  | .unexpectedResponse => "UnexpectedHttpResponse"
  | .requestTimeout => "HttpRequestTimeout"
  | .requestFailure => "HttpRequestFailure"
  | .invalidResponseContent => "InvalidHttpResponseContent"
  | .requestCancelled => "RequestCancelled"

end FailureKind

/-- A failure that a caller is told. -/
structure Failure where
  kind : FailureKind
  message : String
  /-- The text of what caused the failure, if that is kept. -/
  cause : Option String := none
deriving DecidableEq, Repr

namespace Failure

/-- The failure of using something after it has been disposed. -/
def disposed (component : String) : Failure where
  kind := .disposed
  message := s!"The {component} has been disposed and can no longer be used."

/-- The failure of settings that are invalid. -/
def invalidConfiguration (message : String) : Failure where
  kind := .invalidConfiguration
  message := message

/-- A failure with all its parts, for people who look for its reason. -/
def describe (failure : Failure) : String :=
  let cause :=
    match failure.cause with
    | none => "None"
    | some text => "Some(" ++ Text.quoted text ++ ")"
  "ClientError \x7b kind: " ++ failure.kind.name ++ ", message: " ++
    Text.quoted failure.message ++ ", source: " ++ cause ++ " \x7d"

end Failure

end FeatureFlags
