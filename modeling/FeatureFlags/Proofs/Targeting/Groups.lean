import FeatureFlags.Proofs.Targeting.Reading

namespace FeatureFlags.Targeting

/-!
# Groups as sequences

A group of a known operator takes its children one after the other. Each operator has a
truth value at which the group goes on to the next child, and any other truth value decides
it. So the outcomes of groups are put together by one operation: it is associative, the
outcome of an empty group is its unit, and to negate its result is to negate both sides of
the operation of the other operator.
-/

/-! ## Outcomes -/

namespace Outcome

/-- An outcome, followed by that of what comes after if the first one lets a group go on. -/
def followedBy
    (goesOn : Bool)
    (first rest : Outcome) :
    Outcome :=
  if first.1 = goesOn then (rest.1, first.2 ++ rest.2) else first

/-- The outcome with the opposite truth value and the same issues. -/
def opposite (outcome : Outcome) : Outcome :=
  (!outcome.1, outcome.2)

variable
  {goesOn : Bool}
  {first second third : Outcome}

theorem followedBy_of_eq
    (continues : first.1 = goesOn)
    (rest : Outcome) :
    followedBy goesOn first rest = (rest.1, first.2 ++ rest.2) :=
  if_pos continues

theorem followedBy_of_ne
    (decides : first.1 ≠ goesOn)
    (rest : Outcome) :
    followedBy goesOn first rest = first :=
  if_neg decides

/-- Nothing before an outcome leaves it as it is. -/
@[simp] theorem nothing_followedBy (outcome : Outcome) :
    followedBy goesOn (goesOn, []) outcome = outcome := by
  simp [followedBy]

/-- Nothing after an outcome leaves it as it is. -/
@[simp] theorem followedBy_nothing (outcome : Outcome) :
    followedBy goesOn outcome (goesOn, []) = outcome := by
  obtain ⟨value, issues⟩ := outcome
  by_cases continues : value = goesOn
  · rw [followedBy_of_eq continues, List.append_nil, continues]
  · rw [followedBy_of_ne continues]

theorem followedBy_assoc :
    followedBy goesOn (followedBy goesOn first second) third =
      followedBy goesOn first (followedBy goesOn second third) := by
  by_cases firstContinues : first.1 = goesOn
  · by_cases secondContinues : second.1 = goesOn
    · simp [followedBy, firstContinues, secondContinues]
    · simp [followedBy, firstContinues, secondContinues]
  · simp [followedBy, firstContinues]

/-- A group that goes on at true holds if all of its parts hold. -/
theorem followedBy_true_fst :
    (followedBy true first second).1 = (first.1 && second.1) := by
  cases value : first.1 with
  | true => rw [followedBy_of_eq value, Bool.true_and]
  | false => rw [followedBy_of_ne (by simp [value]), value, Bool.false_and]

/-- A group that goes on at false holds if any of its parts holds. -/
theorem followedBy_false_fst :
    (followedBy false first second).1 = (first.1 || second.1) := by
  cases value : first.1 with
  | true => rw [followedBy_of_ne (by simp [value]), value, Bool.true_or]
  | false => rw [followedBy_of_eq value, Bool.false_or]

@[simp] theorem opposite_opposite (outcome : Outcome) :
    opposite (opposite outcome) = outcome := by
  simp [opposite]

/-- What decides the one operator lets the other one go on, when all truth values are opposite. -/
theorem opposite_followedBy :
    opposite (followedBy goesOn first second) =
      followedBy (!goesOn) (opposite first) (opposite second) := by
  by_cases continues : first.1 = goesOn
  · simp [followedBy, opposite, continues]
  · simp [followedBy, opposite, continues]

end Outcome

/-! ## Groups -/

namespace GroupOperator

/-- The truth value at which a group goes on to its next child; an unknown group takes none. -/
def goesOnAt? : GroupOperator → Option Bool
  | .conjunction => some true
  | .disjunction => some false
  | .unknown => none

end GroupOperator

namespace Filter

variable
  {operator : GroupOperator}
  {goesOn : Bool}

theorem alone_constant
    (value : Bool)
    (fields : Fields)
    (now : Time.Instant) :
    (Filter.constant value).alone fields now = (value, []) :=
  (Reads.constant value).alone_eq

theorem alone_negation
    (filter : Filter)
    (fields : Fields)
    (now : Time.Instant) :
    (Filter.negation filter).alone fields now = Outcome.opposite (filter.alone fields now) :=
  (reads_alone filter fields now).negation.alone_eq

theorem alone_unknownGroup
    (filters : List Filter)
    (fields : Fields)
    (now : Time.Instant) :
    (Filter.group .unknown filters).alone fields now = (false, [.unsupported "group"]) :=
  (Reads.unknownGroup filters).alone_eq

theorem alone_group_nil
    (goes : operator.goesOnAt? = some goesOn)
    (fields : Fields)
    (now : Time.Instant) :
    (Filter.group operator []).alone fields now = (goesOn, []) := by
  cases operator with
  | conjunction =>
      cases goes
      exact Reads.emptyConjunction.alone_eq
  | disjunction =>
      cases goes
      exact Reads.emptyDisjunction.alone_eq
  | unknown =>
      cases goes

theorem alone_group_cons
    (goes : operator.goesOnAt? = some goesOn)
    (filter : Filter)
    (rest : List Filter)
    (fields : Fields)
    (now : Time.Instant) :
    (Filter.group operator (filter :: rest)).alone fields now =
      Outcome.followedBy goesOn (filter.alone fields now)
        ((Filter.group operator rest).alone fields now) := by
  have first := reads_alone filter fields now
  have others := reads_alone (.group operator rest) fields now
  cases operator with
  | conjunction =>
      cases goes
      cases value : (filter.alone fields now).1 with
      | true =>
          rw [value] at first
          rw [Outcome.followedBy_of_eq value, (first.conjunctionGoesOn others).alone_eq]
      | false =>
          rw [value] at first
          rw [Outcome.followedBy_of_ne (by simp [value]), first.conjunctionStops.alone_eq, ← value]
  | disjunction =>
      cases goes
      cases value : (filter.alone fields now).1 with
      | true =>
          rw [value] at first
          rw [Outcome.followedBy_of_ne (by simp [value]), first.disjunctionStops.alone_eq, ← value]
      | false =>
          rw [value] at first
          rw [Outcome.followedBy_of_eq value, (first.disjunctionGoesOn others).alone_eq]
  | unknown =>
      cases goes

/-- The children of a group may be taken in two parts. -/
theorem alone_group_append
    (goes : operator.goesOnAt? = some goesOn)
    (before after : List Filter)
    (fields : Fields)
    (now : Time.Instant) :
    (Filter.group operator (before ++ after)).alone fields now =
      Outcome.followedBy goesOn ((Filter.group operator before).alone fields now)
        ((Filter.group operator after).alone fields now) := by
  induction before with
  | nil =>
      rw [List.nil_append, alone_group_nil goes, Outcome.nothing_followedBy]
  | cons filter rest inductionHypothesis =>
      rw [List.cons_append, alone_group_cons goes, alone_group_cons goes, inductionHypothesis,
        Outcome.followedBy_assoc]

end Filter

end FeatureFlags.Targeting
