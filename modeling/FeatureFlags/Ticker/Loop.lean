import FeatureFlags.Ticker.Basic

namespace FeatureFlags

/-!
# Loops

The loop of a ticker sleeps for the interval, joins or begins a refresh, and waits
for it, over and over until it is told to end. A loop that a forced refresh put in
force waits for that refresh before it sleeps for the first time.
-/

/-- Where a loop is. -/
inductive LoopStage where
  /-- The loop waits for a refresh. -/
  | awaiting (refresh : Nat)
  /-- The loop is about to sleep. -/
  | resting
  | sleeping (wake : Moment)
  /-- The loop has slept enough and is about to look at the slot. -/
  | due
deriving DecidableEq, Repr

/-- A loop and where it is. -/
structure TickerLoop where
  number : Nat
  stage : LoopStage
deriving DecidableEq, Repr

namespace TickerLoop

/-- What a loop does in a turn: the ticker, the loop unless it ends, and a refresh that is new. -/
structure Move (α : Type) where
  ticker : Ticker α
  loop : Option TickerLoop
  refresh : Option Nat := none

variable {α : Type}

/-- The moment that a loop waits for. -/
def deadline? (loop : TickerLoop) : Option Moment :=
  match loop.stage with
  | .sleeping wake => some wake
  | _ => none

/-- Go on to another stage. -/
def goTo
    (loop : TickerLoop)
    (ticker : Ticker α)
    (stage : LoopStage) :
    Move α :=
  { ticker, loop := some { loop with stage } }

/-- The next move of a loop, if it is possible. -/
def move?
    (now : Moment)
    (ticker : Ticker α)
    (loop : TickerLoop) :
    Option (Move α) :=
  match loop.stage with
  | .awaiting refresh =>
      (ticker.await? refresh).map fun seen => loop.goTo seen.1 .resting
  | .resting =>
      if ticker.isCancelled loop.number then
        some { ticker, loop := none }
      else
        some (loop.goTo ticker (.sleeping (now + ticker.interval)))
  | .sleeping wake =>
      if ticker.isCancelled loop.number then
        some { ticker, loop := none }
      else if wake ≤ now then
        some (loop.goTo ticker .due)
      else
        none
  | .due =>
      if ticker.isCancelled loop.number then
        some { ticker, loop := none }
      else
        let (joined, refresh, isNew) := ticker.joinOrBegin
        some
          { loop.goTo joined (.awaiting refresh) with
            refresh := if isNew then some refresh else none }

/-- The loop that a ticker starts with. -/
def first : TickerLoop := ⟨0, .resting⟩

end TickerLoop

/-- The loop that a forced refresh puts in force. -/
def Ticker.loopAfter
    (ticker : Ticker α)
    (refresh : Nat) :
    TickerLoop :=
  ⟨ticker.loop, .awaiting refresh⟩

end FeatureFlags
