import FeatureFlags.Telemetry.Message
import FeatureFlags.Time.Moment

namespace FeatureFlags.Telemetry

/-!
# The outbox

A bounded queue of messages with a rate limit. A message is discarded if one of
equal identity was accepted less than a rolling window ago. A queue that has
reached its capacity is drained at once; whenever the queue is drained, what the
rate limit no longer needs is forgotten.
-/

/-- Messages that wait, and when each identity was accepted last. -/
structure Outbox where
  capacity : Nat
  window : Nat
  queue : List Message := []
  accepted : Table Moment := .empty

/-- What became of a message. -/
inductive Enqueued where
  /-- An equal message was accepted within the window. -/
  | discarded
  /-- The message waits. -/
  | queued
  /-- The message filled the queue, which was drained. -/
  | full (batch : List Message)

namespace Outbox

/-- Whether a moment lies within the rolling window before now. -/
def isRecent
    (outbox : Outbox)
    (now moment : Moment) :
    Bool :=
  now - moment < outbox.window

/-- Whether a message of this identity was accepted within the window. -/
def isLimited
    (outbox : Outbox)
    (now : Moment)
    (identity : String) :
    Bool :=
  (outbox.accepted.get? identity).any (outbox.isRecent now)

/-- Hand out the queue, and forget acceptances outside the window. -/
def drain
    (outbox : Outbox)
    (now : Moment) :
    Outbox × List Message :=
  ({ outbox with
      queue := []
      accepted := outbox.accepted.filter fun _ moment => outbox.isRecent now moment },
    outbox.queue)

/-- Put a message into the queue and note its acceptance. -/
def accept
    (outbox : Outbox)
    (now : Moment)
    (message : Message) :
    Outbox :=
  { outbox with
    queue := outbox.queue ++ [message]
    accepted := outbox.accepted.insert message.identity now }

/-- Offer a message. -/
def enqueue
    (outbox : Outbox)
    (now : Moment)
    (message : Message) :
    Outbox × Enqueued :=
  if outbox.isLimited now message.identity then
    (outbox, .discarded)
  else
    let filled := outbox.accept now message
    if filled.capacity ≤ filled.queue.length then
      let (drained, batch) := filled.drain now
      (drained, .full batch)
    else
      (filled, .queued)

end Outbox

end FeatureFlags.Telemetry
