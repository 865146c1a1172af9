import FeatureFlags.Proofs.Scheduling
import FeatureFlags.Proofs.Ticker.Turns

namespace FeatureFlags

/-!
# Worlds around a ticker

The world in which a ticker is kept serves its tasks in one fixed order. Each such
world is where some run of the same tasks leads, so that whatever holds along all runs
of a ticker holds of the worlds around it.
-/

variable {α : Type}

namespace ScriptedTicker

/-- The worlds that a new ticker comes to by its callers, by disposal and by passing time. -/
inductive Arises
    (name : String)
    (interval : Nat)
    (script : RefreshScript α) :
    World (ScriptedTicker α) (TickerTask α) → Prop where
  | start :
      Arises name interval script (ScriptedTicker.start name interval script)
  | called
      {world : World (ScriptedTicker α) (TickerTask α)}
      (call : TickerCall) :
      Arises name interval script world →
      Arises name interval script
        (world.call behaviour TickerTask.answer? (.ofCall call)).1
  | started
      {world : World (ScriptedTicker α) (TickerTask α)}
      (call : TickerCall) :
      Arises name interval script world →
      Arises name interval script (world.start behaviour (.ofCall call)).1
  | joined
      {world : World (ScriptedTicker α) (TickerTask α)}
      (id : Nat) :
      Arises name interval script world →
      Arises name interval script (world.join behaviour TickerTask.answer? id).1
  | waited
      {world : World (ScriptedTicker α) (TickerTask α)}
      (duration : Nat) :
      Arises name interval script world →
      Arises name interval script (world.wait behaviour duration)
  | disposed
      {world : World (ScriptedTicker α) (TickerTask α)} :
      Arises name interval script world →
      Arises name interval script
        (world.act behaviour fun scripted => (scripted.dispose, [], ())).1

/-- Every world around a ticker is where some run of the ticker's tasks leads. -/
theorem Arises.exists_run
    {name : String}
    {interval : Nat}
    {script : RefreshScript α}
    {world : World (ScriptedTicker α) (TickerTask α)}
    (arises : Arises name interval script world) :
    ∃ history last,
      Run system (fresh name interval script) history last ∧ last.Holds world.stand := by
  induction arises with
  | start =>
      let scripted : ScriptedTicker _ := { ticker := { name, interval }, script }
      have begun :
          (fresh name interval script).Holds
            (World.begin { shared := scripted } [TickerTask.loop .first]).stand :=
        World.holds_begin scripted [TickerTask.loop .first]
      have settled :=
        (World.leads_settleWithin system World.pollLimit _).exists_run ⟨[], _, .start, begun⟩
      exact settled
  | called call _ inductionHypothesis =>
      exact (World.leads_call system (.call call) rfl).exists_run inductionHypothesis
  | started call _ inductionHypothesis =>
      exact (World.leads_start system (.call call) rfl).exists_run inductionHypothesis
  | joined id _ inductionHypothesis =>
      exact (World.leads_join system _ id _).exists_run inductionHypothesis
  | waited duration _ inductionHypothesis =>
      exact (World.leads_wait system duration _).exists_run inductionHypothesis
  | disposed _ inductionHypothesis =>
      exact (World.leads_act system .dispose rfl).exists_run inductionHypothesis

end ScriptedTicker

end FeatureFlags
