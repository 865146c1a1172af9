import FeatureFlags.Schedule
import FeatureFlags.Ticker.Loop

namespace FeatureFlags

/-!
# Tickers with scripted refreshes

A ticker whose refreshes follow a script: each takes some time and then breaks
down, gives nothing, or gives a value. Together with its loops and its callers it
is a schedule of tasks.
-/

/-- How a refresh ends. -/
inductive RefreshEnd (α : Type) where
  /-- The refresh breaks down, which counts as a failure. -/
  | breakdown
  | failure
  | success (value : α)

/-- The value that a refresh gives. -/
def RefreshEnd.value? : RefreshEnd α → Option α
  | .breakdown => none
  | .failure => none
  | .success value => some value

/-- What a refresh does, given how many refreshes were begun before it. -/
structure RefreshScript (α : Type) where
  delay : Nat → Nat
  result : Nat → RefreshEnd α

/-- A ticker, its script, and how many refreshes were begun. -/
structure ScriptedTicker (α : Type) where
  ticker : Ticker α
  script : RefreshScript α
  begun : Nat := 0

/-- What a caller asks of a ticker. -/
inductive TickerCall where
  /-- Refresh now. -/
  | tick
  /-- The value, after a refresh if there never was one. -/
  | value
deriving DecidableEq

/-- What a caller is told. -/
inductive TickerAnswer (α : Type) where
  | refreshed (succeeded : Bool)
  | value (snapshot : Snapshot α)
  | failed (failure : Failure)

/-- A task around a ticker. -/
inductive TickerTask (α : Type) where
  | loop (loop : TickerLoop)
  /-- A refresh that is about to begin. -/
  | refresh (number : Nat)
  /-- A refresh that ends at a moment. -/
  | refreshing (number : Nat) (wake : Moment) (result : RefreshEnd α)
  /-- A caller that is about to look at the value. -/
  | looking
  /-- A caller that is about to ask for a refresh. -/
  | asking (call : TickerCall)
  /-- A caller that waits for a refresh. -/
  | awaiting (call : TickerCall) (refresh : Nat)
  | answered (answer : TickerAnswer α)

namespace TickerAnswer

/-- The answer to a look at the value. -/
def ofSnapshot : Except Failure (Snapshot α) → TickerAnswer α
  | .ok snapshot => .value snapshot
  | .error failure => .failed failure

end TickerAnswer

namespace TickerTask

/-- The task of a caller. -/
def ofCall : TickerCall → TickerTask α
  | .tick => .asking .tick
  | .value => .looking

/-- The answer of a caller that has got one. -/
def answer? : TickerTask α → Option (TickerAnswer α)
  | .answered answer => some answer
  | _ => none

/-- The moment that a task waits for. -/
def deadline? : TickerTask α → Option Moment
  | .loop periodic => periodic.deadline?
  | .refreshing _ wake _ => some wake
  | _ => none

end TickerTask

namespace ScriptedTicker

variable {α : Type}

/-- The next move of a task, if it is possible. -/
def turn
    (now : Moment)
    (scripted : ScriptedTicker α)
    (task : TickerTask α) :
    Option (Turn (ScriptedTicker α) (TickerTask α)) :=
  let goTo
      (ticker : Ticker α)
      (next : TickerTask α)
      (begun : List (TickerTask α)) :
      Turn (ScriptedTicker α) (TickerTask α) :=
    ⟨{ scripted with ticker }, some next, begun⟩
  match task with
  | .loop loop =>
      (loop.move? now scripted.ticker).map fun move =>
        ⟨{ scripted with ticker := move.ticker }, move.loop.map .loop,
          move.refresh.toList.map .refresh⟩
  | .refresh number =>
      let begun := scripted.begun
      some ⟨{ scripted with begun := begun + 1 },
        some (.refreshing number (now + scripted.script.delay begun)
          (scripted.script.result begun)), []⟩
  | .refreshing number wake result =>
      if wake ≤ now then
        let ticker := scripted.ticker.finish now number result.value?
        some ⟨{ scripted with ticker }, none, []⟩
      else
        none
  | .looking =>
      match scripted.ticker.snapshot now with
      | .ok { value := none, .. } => some (goTo scripted.ticker (.asking .value) [])
      | seen => some (goTo scripted.ticker (.answered (.ofSnapshot seen)) [])
  | .asking call =>
      match scripted.ticker.tick with
      | .error failure => some (goTo scripted.ticker (.answered (.failed failure)) [])
      | .ok (ticker, refresh, isNew) =>
          let begun :=
            if isNew then [.refresh refresh, .loop (ticker.loopAfter refresh)] else []
          some (goTo ticker (.awaiting call refresh) begun)
  | .awaiting call refresh =>
      (scripted.ticker.await? refresh).map fun (ticker, succeeded) =>
        match call with
        | .tick => goTo ticker (.answered (.refreshed succeeded)) []
        | .value => goTo ticker (.answered (.ofSnapshot (ticker.snapshot now))) []
  | .answered _ => none

/-- The tasks around a scripted ticker. -/
def behaviour : Behaviour (ScriptedTicker α) (TickerTask α) where
  turn := turn
  deadline? := TickerTask.deadline?

/-- A ticker with its first loop. -/
def start
    (name : String)
    (interval : Nat)
    (script : RefreshScript α) :
    World (ScriptedTicker α) (TickerTask α) :=
  let world : World (ScriptedTicker α) (TickerTask α) :=
    { shared := { ticker := { name, interval }, script } }
  (world.begin [.loop .first]).settle behaviour

/-- Dispose the ticker. -/
def dispose (scripted : ScriptedTicker α) : ScriptedTicker α :=
  { scripted with ticker := scripted.ticker.dispose }

end ScriptedTicker

end FeatureFlags
