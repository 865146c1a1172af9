import FeatureFlags.Transport.Exchange

namespace FeatureFlags.Transport

/-!
# Calls on a transport

A transport on its own, with callers that wait for what their requests give, and
cancellations that come after some time.
-/

/-- A task around a transport. -/
inductive TransportTask where
  | exchange (exchange : Exchange)
  | answered (result : Except Failure Content)
  /-- A cancellation that comes after a duration. -/
  | cancelAfter (duration : Nat)
  /-- A cancellation that comes at a moment. -/
  | cancelAt (wake : Moment)

namespace TransportTask

/-- The result of a call that has ended. -/
def result? : TransportTask → Option (Except Failure Content)
  | .answered result => some result
  | _ => none

/-- The moment that a task waits for. -/
def deadline? : TransportTask → Option Moment
  | .exchange running => running.deadline?
  | .cancelAt wake => some wake
  | _ => none

/-- The next move of a task, if it is possible. -/
def turn
    (now : Moment)
    (transport : Transport)
    (task : TransportTask) :
    Option (Turn Transport TransportTask) :=
  match task with
  | .exchange running =>
      (running.move? now transport).map fun
        | (moved, .going next) => ⟨moved, some (.exchange next), []⟩
        | (moved, .ended result) => ⟨moved, some (.answered result), []⟩
  | .answered _ => none
  | .cancelAfter duration => some ⟨transport, some (.cancelAt (now + duration)), []⟩
  | .cancelAt wake => if wake ≤ now then some ⟨transport.cancel, none, []⟩ else none

/-- The tasks around a transport. -/
def behaviour : Behaviour Transport TransportTask where
  turn := turn
  deadline? := deadline?

end TransportTask

end FeatureFlags.Transport
