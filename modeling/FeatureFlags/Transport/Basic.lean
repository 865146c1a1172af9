import FeatureFlags.Address.Basic
import FeatureFlags.Log
import FeatureFlags.Telemetry.Message
import FeatureFlags.Time.Moment
import FeatureFlags.Transport.Endpoint
import FeatureFlags.Value.Coercion

namespace FeatureFlags

/-!
# Transport

Requests to the backend. A transport has been given a base address and a secret
key, keeps a record of the requests that it sent, and can be cancelled as a whole.
The backend is any rule that tells for each request what comes back and when.
-/

namespace Transport

open FeatureFlags.Telemetry (Event Message)

/-- What comes back for a request, and how long that takes. -/
structure Reply where
  delay : Nat := 0
  arrival : Arrival

/-- What comes back: by the last part of the path, and the number of earlier requests there. -/
abbrev Backend := String → Nat → Reply

/-- A request that can be sent. -/
structure Request where
  endpoint : Endpoint
  address : Except Address.Fault Address
  body : Option String := none

/-- A request that has been sent. -/
structure Sent where
  moment : Moment
  endpoint : Endpoint
  address : Address
  body : Option String

/-- The names of the headers with their values, in the order of the names. -/
abbrev Headers := List (String × String)

end Transport

/-- The state of the transport. -/
structure Transport where
  /-- The address that all paths are added to, without slashes at its end. -/
  baseUrl : String
  secretKey : String
  /-- How long a request may take, in milliseconds. -/
  timeout : Nat
  backend : Transport.Backend
  cancelled : Bool := false
  /-- All requests sent so far, in the order of sending. -/
  sent : List Transport.Sent := []
  log : List LogRecord := []

namespace Transport

open FeatureFlags.Telemetry (Event Message)

/-- Whether a secret key can stand in a header: it has no control character but tabs. -/
def isHeaderText (secretKey : String) : Bool :=
  secretKey.toList.all fun c => c = '\t' || !Address.isControl c

/-- A transport that has not sent anything. -/
def create
    (baseUrl secretKey : String)
    (timeout : Nat)
    (backend : Backend) :
    Except Failure Transport :=
  if isHeaderText secretKey then
    let kept := (baseUrl.toList.reverse.dropWhile (· = '/')).reverse
    .ok { baseUrl := String.ofList kept, secretKey, timeout, backend }
  else
    .error
      { kind := .invalidSecretKey
        message :=
          "The secret key contains characters that are not allowed in an HTTP header." }

/-- The headers of every request. -/
def headers (transport : Transport) : Headers :=
  [("authorization", "Bearer " ++ transport.secretKey),
    ("bucket-sdk-version", "rust-sdk/0.1.0"),
    ("content-type", "application/json")]

/-- The address of an endpoint. -/
def addressOf
    (transport : Transport)
    (endpoint : Endpoint) :
    Except Address.Fault Address :=
  Address.ofText (transport.baseUrl ++ "/" ++ endpoint.path)

/-- The request for the definitions. -/
def definitionsRequest (transport : Transport) : Request where
  endpoint := .definitions
  address := transport.addressOf .definitions

/-- The request for the evaluation on fields; each field is a field of the form. -/
def evaluationsRequest
    (transport : Transport)
    (fields : Fields) :
    Request :=
  let form := fields.entries.map fun field => ("context." ++ field.1, field.2.toText)
  { endpoint := .evaluations
    address := (transport.addressOf .evaluations).map fun address => address.withForm form }

/-- The request that sends messages as they are. -/
def bulkRequest
    (transport : Transport)
    (messages : List Message) :
    Request where
  endpoint := .bulk
  address := transport.addressOf .bulk
  body := some (Json.Tree.array (messages.map Message.toTree)).toText

/-- The request that sends a single event. -/
def eventRequest
    (transport : Transport)
    (event : Event) :
    Request where
  endpoint := .event
  address := transport.addressOf .event
  body := some event.toTree.toText

/-- The request that sends a batch: nothing for an empty one, and a single event on its own. -/
def deliveryRequest?
    (transport : Transport) :
    List Message → Option Request
  | [] => none
  | [.event event] => some (transport.eventRequest event)
  | batch => some (transport.bulkRequest batch)

/-- The number of requests so far whose path ends in the same part. -/
def requestsTo
    (transport : Transport)
    (route : String) :
    Nat :=
  (transport.sent.filter fun sent => sent.address.lastSegment = route).length

/-- What comes back for the next request to an address within the time that it may take. -/
def replyFor
    (transport : Transport)
    (address : Address) :
    Reply :=
  let route := address.lastSegment
  let reply := transport.backend route (transport.requestsTo route)
  if transport.timeout ≤ reply.delay then
    { delay := transport.timeout, arrival := .timedOut }
  else
    reply

/-- Give up all requests that have not been answered, and refuse new ones. -/
def cancel (transport : Transport) : Transport :=
  { transport with cancelled := true }

end Transport

end FeatureFlags
