import FeatureFlags.Failure
import FeatureFlags.Time.Moment

namespace FeatureFlags

/-!
# Tickers

A value that is refreshed again and again, by a loop in the background and
whenever somebody asks for it. At most one refresh is in the slot of a ticker, and
whoever comes while its outcome is not published shares that outcome. A
refresh that fails leaves the value and its age as they are.

The operations here are the indivisible moves from which loops, refreshes and
callers are made.
-/

/-- How far a refresh has come. -/
inductive RefreshStatus where
  | running
  /-- The refresh has ended, but nobody who waits for it has seen that yet. -/
  | ended (succeeded : Bool)
  /-- Somebody who waited for the refresh has seen its outcome. -/
  | published (succeeded : Bool)
deriving DecidableEq, Repr

namespace RefreshStatus

/-- The outcome, once there is one. -/
def outcome? : RefreshStatus → Option Bool
  | .running => none
  | .ended succeeded => some succeeded
  | .published succeeded => some succeeded

/-- Whether a newcomer can no longer share the outcome. -/
def isPublished : RefreshStatus → Bool
  | .published _ => true
  | _ => false

end RefreshStatus

/-- A value that is refreshed again and again. -/
structure Ticker (α : Type) where
  /-- The name under which the ticker reports that it has been disposed. -/
  name : String
  /-- How long a loop sleeps after each refresh. -/
  interval : Nat
  /-- The value of the latest refresh that succeeded, and when that was. -/
  last : Option (α × Moment) := none
  /-- All refreshes so far; a refresh is told by its place. -/
  refreshes : List RefreshStatus := []
  /-- The refresh in the slot. -/
  slot : Option Nat := none
  /-- The loop in force; all loops before it have been told to end. -/
  loop : Nat := 0
  disposed : Bool := false

/-- The value of a ticker as a caller sees it. -/
structure Snapshot (α : Type) where
  value : Option α
  /-- The time since the value was refreshed; nothing if it never was. -/
  age : Option Nat

namespace Ticker

variable {α : Type}

/-- The status of a refresh. -/
def status
    (ticker : Ticker α)
    (refresh : Nat) :
    RefreshStatus :=
  ticker.refreshes.getD refresh .running

/-- The outcome of a refresh, once there is one. -/
def outcome?
    (ticker : Ticker α)
    (refresh : Nat) :
    Option Bool :=
  (ticker.status refresh).outcome?

/-- Whether a loop has been told to end. -/
def isCancelled
    (ticker : Ticker α)
    (loop : Nat) :
    Bool :=
  ticker.disposed || loop != ticker.loop

/-- The value as it is, unless the ticker has been disposed. -/
def snapshot
    (ticker : Ticker α)
    (now : Moment) :
    Except Failure (Snapshot α) :=
  if ticker.disposed then
    .error (.disposed ticker.name)
  else
    .ok
      { value := ticker.last.map (·.1)
        age := ticker.last.map fun last => now - last.2 }

/-- The refresh in the slot if its outcome is not published yet. -/
def inFlight? (ticker : Ticker α) : Option Nat :=
  ticker.slot.filter fun refresh => !(ticker.status refresh).isPublished

/-- Put a new refresh into the slot. -/
def begin (ticker : Ticker α) : Ticker α :=
  { ticker with
    refreshes := ticker.refreshes ++ [.running]
    slot := some ticker.refreshes.length }

/-- Join the refresh in flight or begin one: the refresh, and whether it is new. -/
def joinOrBegin (ticker : Ticker α) : Ticker α × Nat × Bool :=
  match ticker.inFlight? with
  | some refresh => (ticker, refresh, false)
  | none => (ticker.begin, ticker.refreshes.length, true)

/--
Ask for a refresh. A refresh that is new takes the place of the loop: the loop in
force is told to end, and the next one is to wait for the refresh first.
-/
def tick (ticker : Ticker α) : Except Failure (Ticker α × Nat × Bool) :=
  if ticker.disposed then
    .error (.disposed ticker.name)
  else
    match ticker.joinOrBegin with
    | (joined, refresh, true) => .ok ({ joined with loop := joined.loop + 1 }, refresh, true)
    | (joined, refresh, false) => .ok (joined, refresh, false)

/-- Set the status of a refresh. -/
def setStatus
    (ticker : Ticker α)
    (refresh : Nat)
    (status : RefreshStatus) :
    Ticker α :=
  { ticker with refreshes := ticker.refreshes.set refresh status }

/-- End a refresh; a value that it gives is kept together with the moment. -/
def finish
    (ticker : Ticker α)
    (now : Moment)
    (refresh : Nat)
    (value : Option α) :
    Ticker α :=
  let ended := ticker.setStatus refresh (.ended value.isSome)
  match value with
  | some value => { ended with last := some (value, now) }
  | none => ended

/-- Publish the outcome of a refresh; the slot is cleared if it still holds that refresh. -/
def publish
    (ticker : Ticker α)
    (refresh : Nat)
    (succeeded : Bool) :
    Ticker α :=
  match ticker.status refresh with
  | .published _ => ticker
  | _ =>
      { ticker.setStatus refresh (.published succeeded) with
        slot := if ticker.slot = some refresh then none else ticker.slot }

/-- See the outcome of a refresh once there is one; whoever sees it first publishes it. -/
def await?
    (ticker : Ticker α)
    (refresh : Nat) :
    Option (Ticker α × Bool) :=
  (ticker.outcome? refresh).map fun succeeded => (ticker.publish refresh succeeded, succeeded)

/-- Tell the loop in force to end, and refuse every later use. -/
def dispose (ticker : Ticker α) : Ticker α :=
  { ticker with disposed := true }

end Ticker

end FeatureFlags
