import FeatureFlags.Proofs.Targeting.Groups
import Mathlib.Logic.Relation

namespace FeatureFlags.Targeting

/-!
# Rewriting filters

The laws of truth values hold of filters with all that they report, because none of the
laws changes which children are evaluated and in which order. Whoever rewrites a filter by
them, anywhere inside it and as often as wanted, has the same filter: `run_of_rewrites`.
-/

/-! ## Laws -/

/--
The laws, each from the form that is to be simplified to the simpler one. Groups of unknown
operators and filters that cannot be evaluated have no law of their own: they stand for any
other filter in the laws of the groups and negations around them.
-/
inductive Law : Filter → Filter → Prop where
  /-- Two negations cancel. -/
  | doubleNegation
      (filter : Filter) :
      Law (.negation (.negation filter)) filter
  /-- A negated conjunction is the disjunction of the negated children. -/
  | negatedConjunction
      (filters : List Filter) :
      Law (.negation (.group .conjunction filters))
        (.group .disjunction (filters.map .negation))
  /-- A negated disjunction is the conjunction of the negated children. -/
  | negatedDisjunction
      (filters : List Filter) :
      Law (.negation (.group .disjunction filters))
        (.group .conjunction (filters.map .negation))
  /-- The children of a group inside a group of the same operator are put in its place. -/
  | nestedGroup
      {operator : GroupOperator}
      {goesOn : Bool}
      (goes : operator.goesOnAt? = some goesOn)
      (before inner after : List Filter) :
      Law (.group operator (before ++ .group operator inner :: after))
        (.group operator (before ++ inner ++ after))
  /-- A group with one child is that child. -/
  | loneChild
      {operator : GroupOperator}
      {goesOn : Bool}
      (goes : operator.goesOnAt? = some goesOn)
      (filter : Filter) :
      Law (.group operator [filter]) filter
  /-- A constant that lets a group go on is dropped: true from a conjunction, false from a disjunction. -/
  | idleConstant
      {operator : GroupOperator}
      {goesOn : Bool}
      (goes : operator.goesOnAt? = some goesOn)
      (before after : List Filter) :
      Law (.group operator (before ++ .constant goesOn :: after))
        (.group operator (before ++ after))
  /-- Whatever stands after a constant that decides a group is cut off. -/
  | decisiveConstant
      {operator : GroupOperator}
      {goesOn : Bool}
      (goes : operator.goesOnAt? = some goesOn)
      (before after : List Filter) :
      Law (.group operator (before ++ .constant (!goesOn) :: after))
        (.group operator (before ++ [.constant (!goesOn)]))

/-- One use of a law, in either direction, on a filter or on any filter inside it. -/
inductive Rewrites : Filter → Filter → Prop where
  | law
      {left right : Filter} :
      Law left right →
      Rewrites left right
  | reversed
      {left right : Filter} :
      Law left right →
      Rewrites right left
  | negation
      {left right : Filter} :
      Rewrites left right →
      Rewrites (.negation left) (.negation right)
  | group
      (operator : GroupOperator)
      (before after : List Filter)
      {left right : Filter} :
      Rewrites left right →
      Rewrites (.group operator (before ++ left :: after))
        (.group operator (before ++ right :: after))

/-! ## Equivalence -/

namespace Filter

/-- Filters that evaluate alike everywhere, with the same issues. -/
def Equivalent (left right : Filter) : Prop :=
  ∀ fields now, left.alone fields now = right.alone fields now

variable
  {operator : GroupOperator}
  {goesOn : Bool}

/-- To negate a group is to negate its children under the operator that goes on where it stops. -/
theorem negation_group_equivalent
    {dual : GroupOperator}
    (goes : operator.goesOnAt? = some goesOn)
    (dualGoes : dual.goesOnAt? = some !goesOn)
    (filters : List Filter) :
    (negation (group operator filters)).Equivalent (group dual (filters.map negation)) := by
  intro fields now
  induction filters with
  | nil =>
      rw [alone_negation, alone_group_nil goes, List.map_nil, alone_group_nil dualGoes]
      rfl
  | cons filter rest inductionHypothesis =>
      rw [alone_negation] at inductionHypothesis ⊢
      rw [alone_group_cons goes, List.map_cons, alone_group_cons dualGoes,
        Outcome.opposite_followedBy, inductionHypothesis, alone_negation]

/-- A group inside a group of the same operator is taken as its children in its place. -/
theorem nestedGroup_equivalent
    (goes : operator.goesOnAt? = some goesOn)
    (before inner after : List Filter) :
    (group operator (before ++ group operator inner :: after)).Equivalent
      (group operator (before ++ inner ++ after)) := by
  intro fields now
  rw [alone_group_append goes, alone_group_cons goes, alone_group_append goes,
    alone_group_append goes, Outcome.followedBy_assoc]

theorem loneChild_equivalent
    (goes : operator.goesOnAt? = some goesOn)
    (filter : Filter) :
    (group operator [filter]).Equivalent filter := by
  intro fields now
  rw [alone_group_cons goes, alone_group_nil goes, Outcome.followedBy_nothing]

theorem idleConstant_equivalent
    (goes : operator.goesOnAt? = some goesOn)
    (before after : List Filter) :
    (group operator (before ++ constant goesOn :: after)).Equivalent
      (group operator (before ++ after)) := by
  intro fields now
  rw [alone_group_append goes, alone_group_cons goes, alone_constant,
    Outcome.nothing_followedBy, alone_group_append goes]

theorem decisiveConstant_equivalent
    (goes : operator.goesOnAt? = some goesOn)
    (before after : List Filter) :
    (group operator (before ++ constant (!goesOn) :: after)).Equivalent
      (group operator (before ++ [constant (!goesOn)])) := by
  intro fields now
  have decides (rest : List Filter) :
      (group operator (constant (!goesOn) :: rest)).alone fields now = (!goesOn, []) := by
    rw [alone_group_cons goes, alone_constant, Outcome.followedBy_of_ne (by simp)]
  rw [alone_group_append goes, decides, alone_group_append goes, decides]

namespace Equivalent

variable {left right : Filter}

theorem negation (equivalent : left.Equivalent right) :
    (Filter.negation left).Equivalent (Filter.negation right) := by
  intro fields now
  rw [alone_negation, alone_negation, equivalent fields now]

/-- A child may be replaced by an equivalent one; an unknown group does not look at it at all. -/
theorem group
    (equivalent : left.Equivalent right)
    (operator : GroupOperator)
    (before after : List Filter) :
    (Filter.group operator (before ++ left :: after)).Equivalent
      (Filter.group operator (before ++ right :: after)) := by
  intro fields now
  cases goes : operator.goesOnAt? with
  | none =>
      cases operator with
      | unknown =>
          rw [alone_unknownGroup, alone_unknownGroup]
      | conjunction | disjunction =>
          cases goes
  | some goesOn =>
      rw [alone_group_append goes, alone_group_cons goes, equivalent fields now,
        ← alone_group_cons goes, ← alone_group_append goes]

end Equivalent

end Filter

theorem Law.equivalent
    {left right : Filter}
    (law : Law left right) :
    left.Equivalent right := by
  cases law with
  | doubleNegation =>
      intro fields now
      rw [Filter.alone_negation, Filter.alone_negation, Outcome.opposite_opposite]
  | negatedConjunction filters | negatedDisjunction filters =>
      exact Filter.negation_group_equivalent rfl rfl filters
  | nestedGroup goes before inner after =>
      exact Filter.nestedGroup_equivalent goes before inner after
  | loneChild goes =>
      exact Filter.loneChild_equivalent goes right
  | idleConstant goes before after =>
      exact Filter.idleConstant_equivalent goes before after
  | decisiveConstant goes before after =>
      exact Filter.decisiveConstant_equivalent goes before after

/-- One use of a law leaves a filter equivalent, however deep inside it is. -/
theorem Rewrites.equivalent
    {left right : Filter}
    (rewrites : Rewrites left right) :
    left.Equivalent right := by
  induction rewrites with
  | law law =>
      exact law.equivalent
  | reversed law =>
      exact fun fields now => (law.equivalent fields now).symm
  | negation _ inductionHypothesis =>
      exact inductionHypothesis.negation
  | group operator before after _ inductionHypothesis =>
      exact inductionHypothesis.group operator before after

/--
A filter that was rewritten by the laws runs as it did before: on all fields, at every
instant and after whatever issues were met, it has the same truth value and reports the
same issues in the same order.
-/
theorem run_of_rewrites
    {filter rewritten : Filter}
    (rewrites : Relation.ReflTransGen Rewrites filter rewritten)
    (fields : Fields)
    (now : Time.Instant)
    (issues : List Issue) :
    (Condition.ofFilter rewritten).run fields now issues =
      (Condition.ofFilter filter).run fields now issues := by
  induction rewrites with
  | refl =>
      rfl
  | tail _ last inductionHypothesis =>
      rw [← inductionHypothesis, run_ofFilter, run_ofFilter, last.equivalent fields now]

/--
A negated conjunction is cleared of a constant, of two negations and of a group inside it
before it becomes a disjunction. The role is looked for on both sides, as the name is there.
-/
theorem run_of_rewrites_toDisjunction :
    let named : Filter := .context ⟨"user.name", .set, []⟩
    let isGuest : Filter := .context ⟨"user.role", .is, ["guest"]⟩
    let filter : Filter :=
      .negation
        (.group .conjunction
          [.constant true, named, .group .conjunction [.negation (.negation isGuest)]])
    let rewritten : Filter := .group .disjunction [.negation named, .negation isGuest]
    let fields : Fields := Table.empty.insert "user.name" (.text "Ada")
    let before : List Issue := [.missing "company.id"]
    Relation.ReflTransGen Rewrites filter rewritten ∧
      (Condition.ofFilter filter).run fields ⟨0, 0⟩ before =
        (true, [.missing "company.id", .missing "user.role"]) ∧
      (Condition.ofFilter rewritten).run fields ⟨0, 0⟩ before =
        (Condition.ofFilter filter).run fields ⟨0, 0⟩ before := by
  intro named isGuest filter rewritten fields before
  have withoutConstant :
      Rewrites filter
        (.negation
          (.group .conjunction
            [named, .group .conjunction [.negation (.negation isGuest)]])) :=
    .negation (.law (.idleConstant rfl [] _))
  have withoutNegations :
      Rewrites
        (.negation
          (.group .conjunction
            [named, .group .conjunction [.negation (.negation isGuest)]]))
        (.negation (.group .conjunction [named, .group .conjunction [isGuest]])) :=
    .negation (.group .conjunction [named] [] (.group .conjunction [] []
      (.law (.doubleNegation isGuest))))
  have withoutGroup :
      Rewrites
        (.negation (.group .conjunction [named, .group .conjunction [isGuest]]))
        (.negation (.group .conjunction [named, isGuest])) :=
    .negation (.law (.nestedGroup rfl [named] [isGuest] []))
  have asDisjunction :
      Rewrites (.negation (.group .conjunction [named, isGuest])) rewritten :=
    .law (.negatedConjunction [named, isGuest])
  have rewrites : Relation.ReflTransGen Rewrites filter rewritten :=
    (((Relation.ReflTransGen.single withoutConstant).tail withoutNegations).tail
      withoutGroup).tail asDisjunction
  exact ⟨rewrites, rfl, run_of_rewrites rewrites fields ⟨0, 0⟩ before⟩

end FeatureFlags.Targeting
