import FeatureFlags.Schedule
import FeatureFlags.Transport.Basic

namespace FeatureFlags.Transport

/-!
# Exchanges

A request on its way: it is sent, waits for what comes back, and reads the body of
the answer. Cancelling the transport ends it as long as it waits; once an answer is
there, its body is read to the end. Every failure but a cancellation is logged.
-/

/-- Where an exchange is. -/
inductive ExchangeStage where
  /-- The request has not been sent yet. -/
  | prepared
  /-- The request was sent, and something comes back at a moment. -/
  | pending (wake : Moment) (arrival : Arrival)
  /-- An answer is there, and its body is about to be read. -/
  | reading (body : Except String String)

/-- A request and how far it has come. -/
structure Exchange where
  request : Request
  stage : ExchangeStage := .prepared

/-- What an exchange has become: it goes on, or it has ended. -/
inductive Progress where
  | going (exchange : Exchange)
  | ended (result : Except Failure Content)

/-- Note a sent request. -/
def note
    (transport : Transport)
    (now : Moment)
    (request : Request)
    (address : Address) :
    Transport :=
  let sent : Sent := ⟨now, request.endpoint, address, request.body⟩
  { transport with sent := transport.sent ++ [sent] }

/-- The log record of a result, if it is a failure other than a cancellation. -/
def recordOf : Except Failure Content → List LogRecord
  | .ok _ => []
  | .error failure =>
      if failure.kind = .requestCancelled then [] else [.ofFailure .error failure]

/-- End an exchange with a result. -/
def conclude
    (transport : Transport)
    (result : Except Failure Content) :
    Transport × Progress :=
  ({ transport with log := transport.log ++ recordOf result }, .ended result)

namespace Exchange

/-- The moment that an exchange waits for. -/
def deadline? (exchange : Exchange) : Option Moment :=
  match exchange.stage with
  | .pending wake _ => some wake
  | _ => none

/-- The next move of an exchange, if it is possible. -/
def move?
    (now : Moment)
    (transport : Transport)
    (exchange : Exchange) :
    Option (Transport × Progress) :=
  let request := exchange.request
  let endpoint := request.endpoint
  match exchange.stage with
  | .prepared =>
      if transport.cancelled then
        some (transport.conclude (.error endpoint.cancelled))
      else
        match request.address with
        | .error fault => some (transport.conclude (.error (endpoint.unreachable fault.message)))
        | .ok address =>
            let reply := transport.replyFor address
            some (transport.note now request address,
              .going { exchange with stage := .pending (now + reply.delay) reply.arrival })
  | .pending wake arrival =>
      if transport.cancelled then
        some (transport.conclude (.error endpoint.cancelled))
      else if wake ≤ now then
        match endpoint.judge arrival with
        | .error failure => some (transport.conclude (.error failure))
        | .ok body => some (transport, .going { exchange with stage := .reading body })
      else
        none
  | .reading body => some (transport.conclude (endpoint.readBody body))

end Exchange

end FeatureFlags.Transport
