import FeatureFlags.Proofs.Client.Posting

namespace FeatureFlags

/-!
# Delivery of messages

Whatever the order in which callers, periodic flushes and the sending of full batches take
their turns, every accepted message waits in the queue or belongs to one batch that has
left it, and every such batch is posted once at most.
-/

open FeatureFlags.Telemetry (Event)
open Client (accepted carriers dispatching? posts)

/-- Every accepted message is in one place, and every batch is posted once at most. -/
structure Client.DeliversOnce
    (transport : Transport)
    (history : List ClientTransition)
    (last : Configuration Client ClientTask) :
    Prop where
  /-- The queue changes by calls on it only. -/
  tracked :
    ∀ transition ∈ history,
      transition.after.shared.outbox =
        (transition.outboxStep?.map (·.after)).getD transition.before.shared.outbox
  /-- What left the queue in batches, and what waits, are the accepted messages in order. -/
  conserved :
    ((carriers history).map (·.2)).flatten ++ last.shared.outbox.queue = accepted history
  /-- Every batch that left the queue has a carrier of its own. -/
  carriersDistinct : ((carriers history).map (·.1)).Nodup
  /-- All posts are sent by tasks. -/
  posts_eq :
    last.shared.sent.filter (·.endpoint.method = .post) = (posts history).map (·.2)
  /-- No task ever sends two posts, whatever became of the first. -/
  postsDistinct : ((posts history).map (·.1)).Nodup
  /-- Whoever sends a post is the carrier of a batch, and that is what it sends. -/
  posted :
    ∀ {place sent},
      (place, sent) ∈ posts history →
      ∃ batch, (place, batch) ∈ carriers history ∧ sent.Carries transport batch
  /-- Nothing is posted for an empty batch. -/
  emptyUnposted :
    ∀ {place},
      (place, []) ∈ carriers history →
      ∀ sent, (place, sent) ∉ posts history
  /-- Any other batch is posted, or its request is about to be sent, unless it cannot be. -/
  notLost :
    ∀ {place batch},
      (place, batch) ∈ carriers history →
      batch ≠ [] →
      (∃ sent, (place, sent) ∈ posts history) ∨
      (∃ exchange, dispatching? last place = some exchange ∧ exchange.stage = .prepared) ∨
      last.shared.disposed = true ∨
      ∃ request fault,
        transport.deliveryRequest? batch = some request ∧ request.address = .error fault

/-- A client that leaves evaluation to the backend, with a queue of two messages. -/
def Settings.ofTwo : Settings where
  secretKey := "key"
  baseUrl := "http://h"
  mode := .remoteEvaluation
  requestTimeout := 10000
  maxMessages := 2
  flushInterval := 10000
  rollingWindow := 60000
  refreshInterval := 60000
  staleAge := 600000
  resolvers := []
  requestTimeout_pos := Nat.zero_lt_succ _
  maxMessages_pos := Nat.zero_lt_succ _
  flushInterval_pos := Nat.zero_lt_succ _
  rollingWindow_pos := Nat.zero_lt_succ _
  refreshInterval_pos := Nat.zero_lt_succ _
  staleAge_pos := Nat.zero_lt_succ _

/-- A backend at which every request fails at once. -/
def Surroundings.failing : Surroundings where
  backend _ _ := { arrival := .answered 500 (.ok "") }
  wallClock _ := ⟨0, 0⟩

/-- A feature in a response: its key, the version of its targeting rules, and the rest. -/
def Json.Tree.ofFeature
    (key : String)
    (version : Int)
    (rest : List (String × Json.Tree)) :
    Json.Tree :=
  .object (("key", .text key) :: ("targeting", .object [("version", .integer version)]) :: rest)

/-- The reply to a download that gives some features. -/
def Transport.Reply.giving (features : List Json.Tree) : Transport.Reply :=
  let response := Json.Tree.object [("success", .bool true), ("features", .array features)]
  { arrival := .answered 200 (.ok response.toText) }

/-- A click of a user. -/
def Telemetry.Event.click (user : String) : Event where
  name := "click"
  user
  company := none
  attributes := .empty

/-- Two clicks fill the queue and are sent, then a third is flushed; both requests fail. -/
def ClientAction.fullAndFlushed : List (Move ClientAction) :=
  [.intervene (.track (.click "a")), .intervene (.track (.click "b")), .turn 1,
    .intervene (.track (.click "c")), .intervene (.call .flush), .turn 2, .turn 2, .turn 2,
    .turn 1, .turn 2]

end FeatureFlags
