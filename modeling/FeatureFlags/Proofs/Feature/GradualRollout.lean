import FeatureFlags.Proofs.Feature.IndependentRules
import FeatureFlags.Proofs.Targeting.Groups
import Mathlib.Data.List.Forall2

namespace FeatureFlags

/-!
# Gradual rollout

A rollout reaches more subjects under a higher threshold, and a negated one fewer. Whoever
raises the thresholds that count as they are and lowers those that count negated turns a
feature off for nobody: `enabled_of_widens`.
-/

namespace Targeting

/-! ## Thresholds -/

/-- A higher threshold reaches whatever a lower one reaches. -/
theorem RolloutShare.reaches_of_le
    {share : RolloutShare}
    {threshold : Int64}
    (raised : share.threshold ≤ threshold)
    {value : Value}
    (reached : share.reaches value = true) :
    { share with threshold }.reaches value = true := by
  have raisedInt := Int64.le_iff_toInt_le.mp raised
  simp only [reaches, decide_eq_true_eq] at reached ⊢
  omega

/--
A filter with other thresholds. The number counts the negations around it: a threshold is
raised, or kept, under an even number of them, and lowered, or kept, under an odd number.
-/
inductive Widens : Nat → Filter → Filter → Prop where
  | raised
      {negations : Nat}
      {share : RolloutShare}
      {threshold : Int64} :
      negations % 2 = 0 →
      share.threshold ≤ threshold →
      Widens negations (.rollout share) (.rollout { share with threshold })
  | lowered
      {negations : Nat}
      {share : RolloutShare}
      {threshold : Int64} :
      negations % 2 = 1 →
      threshold ≤ share.threshold →
      Widens negations (.rollout share) (.rollout { share with threshold })
  | negation
      {negations : Nat}
      {filter widened : Filter} :
      Widens (negations + 1) filter widened →
      Widens negations (.negation filter) (.negation widened)
  | emptyGroup
      {negations : Nat}
      (operator : GroupOperator) :
      Widens negations (.group operator []) (.group operator [])
  | group
      {negations : Nat}
      {operator : GroupOperator}
      {filter widened : Filter}
      {rest widenedRest : List Filter} :
      Widens negations filter widened →
      Widens negations (.group operator rest) (.group operator widenedRest) →
      Widens negations (.group operator (filter :: rest))
        (.group operator (widened :: widenedRest))
  | constant
      {negations : Nat}
      (value : Bool) :
      Widens negations (.constant value) (.constant value)
  | context
      {negations : Nat}
      (comparison : Comparison) :
      Widens negations (.context comparison) (.context comparison)
  | unsupported
      {negations : Nat} :
      Widens negations .unsupported .unsupported

/-! ## Truth values -/

/-- A truth value implies another one under an even number of negations, and is implied under an odd number. -/
structure ImpliesUnder
    (negations : Nat)
    (value widened : Bool) :
    Prop where
  even : negations % 2 = 0 → value = true → widened = true
  odd : negations % 2 = 1 → widened = true → value = true

namespace ImpliesUnder

variable
  {negations : Nat}
  {value widened other otherWidened : Bool}

theorem refl (value : Bool) : ImpliesUnder negations value value :=
  ⟨fun _ holds => holds, fun _ holds => holds⟩

theorem not (implies : ImpliesUnder (negations + 1) value widened) :
    ImpliesUnder negations (!value) (!widened) where
  even := by
    intro isEven
    have contrary := implies.odd (by omega)
    cases value <;> simp_all
  odd := by
    intro isOdd
    have contrary := implies.even (by omega)
    cases value <;> simp_all

theorem and
    (implies : ImpliesUnder negations value widened)
    (otherImplies : ImpliesUnder negations other otherWidened) :
    ImpliesUnder negations (value && other) (widened && otherWidened) where
  even := by
    intro isEven holds
    rw [Bool.and_eq_true] at holds ⊢
    exact ⟨implies.even isEven holds.1, otherImplies.even isEven holds.2⟩
  odd := by
    intro isOdd holds
    rw [Bool.and_eq_true] at holds ⊢
    exact ⟨implies.odd isOdd holds.1, otherImplies.odd isOdd holds.2⟩

theorem or
    (implies : ImpliesUnder negations value widened)
    (otherImplies : ImpliesUnder negations other otherWidened) :
    ImpliesUnder negations (value || other) (widened || otherWidened) where
  even := by
    intro isEven holds
    rw [Bool.or_eq_true] at holds ⊢
    exact holds.imp (implies.even isEven) (otherImplies.even isEven)
  odd := by
    intro isOdd holds
    rw [Bool.or_eq_true] at holds ⊢
    exact holds.imp (implies.odd isOdd) (otherImplies.odd isOdd)

end ImpliesUnder

/-- A rollout holds if the attribute is there and its value is reached. -/
theorem Filter.alone_rollout_fst
    (share : RolloutShare)
    (fields : Fields)
    (now : Time.Instant) :
    ((Filter.rollout share).alone fields now).1 =
      (fields.get? share.field).any share.reaches := by
  cases found : fields.get? share.field with
  | none =>
      rw [(Reads.missingAttribute found).alone_eq, Option.any_none]
  | some value =>
      rw [(Reads.rolledOut found).alone_eq, Option.any_some, RolloutShare.reaches]

/-- A higher threshold reaches an attribute that a lower one reaches, and none that is absent. -/
theorem any_reaches_of_le
    {share : RolloutShare}
    {threshold : Int64}
    (raised : share.threshold ≤ threshold)
    {found : Option Value}
    (reached : found.any share.reaches = true) :
    found.any { share with threshold }.reaches = true := by
  cases found with
  | none => cases reached
  | some value => exact RolloutShare.reaches_of_le raised reached

/-- Of a filter and the widened one, the negations around them say which implies the other. -/
theorem Widens.impliesUnder
    {negations : Nat}
    {filter widened : Filter}
    (widens : Widens negations filter widened)
    (fields : Fields)
    (now : Time.Instant) :
    ImpliesUnder negations (filter.alone fields now).1 (widened.alone fields now).1 := by
  induction widens with
  | raised isEven atMost =>
      rw [Filter.alone_rollout_fst, Filter.alone_rollout_fst]
      exact ⟨fun _ => any_reaches_of_le atMost, fun isOdd => by omega⟩
  | @lowered _ share threshold isOdd atLeast =>
      rw [Filter.alone_rollout_fst, Filter.alone_rollout_fst]
      exact ⟨fun isEven => by omega,
        fun _ => @any_reaches_of_le { share with threshold } share.threshold atLeast _⟩
  | negation _ inductionHypothesis =>
      rw [Filter.alone_negation, Filter.alone_negation]
      exact inductionHypothesis.not
  | emptyGroup | constant | context | unsupported =>
      exact .refl _
  | @group _ operator _ _ _ _ _ _ firstImplies restImplies =>
      cases operator with
      | conjunction =>
          rw [Filter.alone_group_cons rfl, Filter.alone_group_cons rfl,
            Outcome.followedBy_true_fst, Outcome.followedBy_true_fst]
          exact firstImplies.and restImplies
      | disjunction =>
          rw [Filter.alone_group_cons rfl, Filter.alone_group_cons rfl,
            Outcome.followedBy_false_fst, Outcome.followedBy_false_fst]
          exact firstImplies.or restImplies
      | unknown =>
          rw [Filter.alone_unknownGroup, Filter.alone_unknownGroup]
          exact .refl _

end Targeting

namespace Feature

open FeatureFlags.Targeting (Condition Filter Issue Widens)

/-! ## Features -/

/-- A definition whose rules have other thresholds, each rule widened; the rest may differ. -/
def Definition.WidensRules (definition widened : Definition) : Prop :=
  List.Forall₂ (Widens 0) definition.targeting.rules widened.targeting.rules

/-- Every rule has its widened one. -/
private theorem exists_widens_of_mem
    {rules widenedRules : List Filter}
    (widens : List.Forall₂ (Widens 0) rules widenedRules)
    {rule : Filter}
    (member : rule ∈ rules) :
    ∃ widened ∈ widenedRules, Widens 0 rule widened := by
  induction widens with
  | nil =>
      cases member
  | cons ruleWidens _ inductionHypothesis =>
      rcases List.mem_cons.mp member with rfl | later
      · exact ⟨_, List.mem_cons_self, ruleWidens⟩
      · obtain ⟨widened, widenedMember, laterWidens⟩ := inductionHypothesis later
        exact ⟨widened, List.mem_cons_of_mem _ widenedMember, laterWidens⟩

/--
Widening a filter keeps it true wherever it is true, after whatever issues were met; and
widening the rules of a feature keeps it enabled wherever it is enabled.
-/
theorem enabled_of_widens
    (fields : Fields)
    (now : Time.Instant) :
    (∀ filter widened issues,
        Widens 0 filter widened →
        ((Condition.ofFilter filter).run fields now issues).1 = true →
        ((Condition.ofFilter widened).run fields now issues).1 = true) ∧
      ∀ definition widened : Definition,
        definition.WidensRules widened →
        ((Prepared.ofDefinition definition).evaluate fields now).enabled = true →
        ((Prepared.ofDefinition widened).evaluate fields now).enabled = true := by
  constructor
  · intro filter widened issues widens holds
    rw [Targeting.run_ofFilter] at holds ⊢
    exact (widens.impliesUnder fields now).even rfl holds
  · intro definition widened widens enabled
    rw [Prepared.enabled_evaluate_iff] at enabled ⊢
    obtain ⟨rule, member, holds⟩ := enabled
    obtain ⟨widenedRule, widenedMember, ruleWidens⟩ := exists_widens_of_mem widens member
    exact ⟨widenedRule, widenedMember, (ruleWidens.impliesUnder fields now).even rfl holds⟩

/--
A feature for a share of the users, guests in another rollout excepted. The share is raised
and the negated threshold lowered, and the user who is in stays in.
-/
theorem enabled_of_widens_raised :
    let rule (share guests : Int64) : Filter :=
      .group .conjunction
        [.rollout ⟨"new-checkout", "user.id", share⟩,
          .negation (.rollout ⟨"guests", "user.role", guests⟩)]
    let definition (share guests : Int64) : Definition :=
      ⟨"new-checkout", ⟨1, [.constant false, rule share guests]⟩, none⟩
    let fields : Fields := Table.empty.insert "user.id" (.text "user-1")
    let isIn (share guests : Int64) : Bool :=
      ((Condition.ofFilter (rule share guests)).run fields ⟨0, 0⟩ []).1
    let isEnabled (share guests : Int64) : Bool :=
      ((Prepared.ofDefinition (definition share guests)).evaluate fields ⟨0, 0⟩).enabled
    Widens 0 (rule 30000 50000) (rule 60000 20000) ∧
      (definition 30000 50000).WidensRules (definition 60000 20000) ∧
      isIn 20000 50000 = false ∧ isIn 30000 50000 = true ∧ isIn 60000 20000 = true ∧
      isEnabled 30000 50000 = true ∧ isEnabled 60000 20000 = true := by
  intro rule definition fields isIn isEnabled
  have ruleWidens : Widens 0 (rule 30000 50000) (rule 60000 20000) :=
    .group (.raised rfl (by decide))
      (.group (.negation (.lowered rfl (by decide))) (.emptyGroup .conjunction))
  have widens : (definition 30000 50000).WidensRules (definition 60000 20000) :=
    .cons (.constant false) (.cons ruleWidens .nil)
  have wasIn : isIn 30000 50000 = true := by decide +kernel
  have wasEnabled : isEnabled 30000 50000 = true := by decide +kernel
  obtain ⟨staysIn, staysEnabled⟩ := enabled_of_widens fields ⟨0, 0⟩
  exact
    ⟨ruleWidens, widens, by decide +kernel, wasIn, staysIn _ _ [] ruleWidens wasIn, wasEnabled,
      staysEnabled _ _ widens wasEnabled⟩

end Feature

end FeatureFlags
