import FeatureFlags.Proofs.Client.Moves
import FeatureFlags.Proofs.Scheduling

namespace FeatureFlags

/-!
# Worlds of a client

The world in which a client is kept serves its tasks in one fixed order. Each such world
is where some run of the same tasks leads, so that whatever holds along all runs of a
client holds of its worlds.
-/

/-- An operation on a client does to it what an action does. -/
def ClientAction.Describes
    (action : ClientAction)
    (operation : Moment → Client → Client × List Client.Batch × ρ) :
    Prop :=
  action.caller? = none ∧
    ∀ now client,
      action.perform now client = ((operation now client).1, (operation now client).2.1)

/-- Whatever the payload of a config is read as, the client only notices whether that fails. -/
theorem ClientAction.describes_configAs
    (reader : Json.Reader α)
    (handle : Handle) :
    (ClientAction.configAs (fun source node => (reader source node).map fun _ => ())
      handle).Describes fun now client => client.configAs reader now handle := by
  refine ⟨rfl, fun now client => ?_⟩
  simp only [perform, Client.configAs]
  rcases client.config now handle with ⟨used, batches, _ | _ | config⟩
  · rfl
  · rfl
  · cases read : reader .parsed (.ofTree config.payload.toTree) <;> simp [read, Except.map]

namespace Client

/-- The worlds that a client comes to by its callers, by its use and by passing time. -/
inductive Arises (client : Client) : World Client ClientTask → Prop where
  | start :
      Arises client client.start
  | called
      {world : World Client ClientTask}
      (begun : Call) :
      Arises client world →
      Arises client (world.call behaviour ClientTask.answer? (.caller (.begun begun))).1
  | started
      {world : World Client ClientTask}
      (begun : Call) :
      Arises client world →
      Arises client (world.start behaviour (.caller (.begun begun))).1
  | joined
      {world : World Client ClientTask}
      (id : Nat) :
      Arises client world →
      Arises client (world.join behaviour ClientTask.answer? id).1
  | waited
      {world : World Client ClientTask}
      (duration : Nat) :
      Arises client world →
      Arises client (world.wait behaviour duration)
  | used
      {world : World Client ClientTask}
      {ρ : Type}
      {operation : Moment → Client → Client × List Batch × ρ}
      (action : ClientAction) :
      action.Describes operation →
      Arises client world →
      Arises client (use world operation).1

/-- A caller that comes changes nothing. -/
private theorem intervene_call
    (now : Moment)
    (client : Client)
    (begun : Call) :
    system.intervene now client (.call begun) = (client, [.caller (.begun begun)]) := by
  simp [system, ClientAction.perform, ClientAction.caller?]

/-- Every world of a client is where some run of its tasks leads. -/
theorem Arises.exists_run
    {client : Client}
    {world : World Client ClientTask}
    (arises : client.Arises world) :
    ∃ history last,
      Run system client.fresh history last ∧ last.Holds world.stand := by
  induction arises with
  | start =>
      have begun : client.fresh.Holds (World.begin { shared := client } client.firstLoops).stand :=
        World.holds_begin client client.firstLoops
      have settled :=
        (World.leads_settleWithin system World.pollLimit _).exists_run ⟨[], _, .start, begun⟩
      exact settled
  | called begun _ inductionHypothesis =>
      exact
        (World.leads_call system (.call begun) (intervene_call _ _ begun)).exists_run
          inductionHypothesis
  | started begun _ inductionHypothesis =>
      exact
        (World.leads_start system (.call begun) (intervene_call _ _ begun)).exists_run
          inductionHypothesis
  | joined id _ inductionHypothesis =>
      exact (World.leads_join system _ id _).exists_run inductionHypothesis
  | waited duration _ inductionHypothesis =>
      exact (World.leads_wait system duration _).exists_run inductionHypothesis
  | used action describes _ inductionHypothesis =>
      refine (World.leads_act system action ?_).exists_run inductionHypothesis
      simp [system, describes.1, describes.2]

end Client

end FeatureFlags
