import FeatureFlags.Proofs.Number.Order
import FeatureFlags.Proofs.Targeting.Reading

namespace FeatureFlags.Targeting

/-!
# Opposite operators

Two comparisons of a field that take the same comparison values and need the same kind of
value meet the same obstacles. So opposite operators report the same issue if there is one,
and only without an issue their truth values count: see `run_oppositeOperators`.
-/

open FeatureFlags.Number (Binary64)

/-! ## Tests -/

/-- Tests that are related on all numbers are related on the number of a value, if it has one. -/
theorem compareNumber?_related
    {test otherTest : Binary64 → Binary64 → Bool}
    {related : Bool → Bool → Prop}
    (tests : ∀ number bound, related (test number bound) (otherTest number bound))
    (value : Value)
    (values : List String) :
    Option.Rel related (compareNumber? test value values) (compareNumber? otherTest value values) := by
  unfold compareNumber?
  cases value.toNumber? with
  | none => exact .none
  | some number =>
      cases Binary64.ofText? (firstText values) with
      | none => exact .none
      | some bound => exact .some (tests number bound)

/-- So are tests on its date. -/
theorem compareDate?_related
    {test otherTest : Binary64 → Binary64 → Bool}
    {related : Bool → Bool → Prop}
    (tests : ∀ date bound, related (test date bound) (otherTest date bound))
    (now : Time.Instant)
    (value : Value)
    (values : List String) :
    Option.Rel related (compareDate? test now value values)
      (compareDate? otherTest now value values) := by
  unfold compareDate?
  cases value.toInstant? with
  | none => exact .none
  | some instant =>
      cases Binary64.ofText? (firstText values) with
      | none => exact .none
      | some days => exact .some (tests _ _)

/-! ## Pairs of operators -/

namespace FieldOperator

/-- The second operator denies what the first one says. -/
inductive Denies : FieldOperator → FieldOperator → Prop where
  | contains :
      Denies .contains .notContains
  | anyOf :
      Denies .anyOf .notAnyOf
  | is :
      Denies .is .isNot
  | set :
      Denies .set .notSet
  | isTrue :
      Denies .isTrue .isFalse

/-- The two operators compare in opposite directions. -/
inductive Reverses : FieldOperator → FieldOperator → Prop where
  | numbers :
      Reverses .greaterThan .lessThan
  | dates :
      Reverses .after .before

variable {operator other : FieldOperator}

theorem Denies.operands_eq (denies : operator.Denies other) :
    operator.operands = other.operands := by
  cases denies <;> rfl

theorem Reverses.operands_eq (reverses : operator.Reverses other) :
    operator.operands = other.operands := by
  cases reverses <;> rfl

/-- Any value that suits one of two operators that deny each other gets opposite answers. -/
theorem Denies.relate?_related
    (denies : operator.Denies other)
    (now : Time.Instant)
    (value : Value)
    (values : List String) :
    Option.Rel (fun left right => left = !right) (operator.relate? now value values)
      (other.relate? now value values) := by
  cases denies with
  | contains | anyOf =>
      exact .some (Bool.not_not _).symm
  | is | set =>
      refine .some ?_
      simp [bne]
  | isTrue =>
      simp only [relate?]
      cases value.toBool? with
      | none => exact .none
      | some holds => exact .some (Bool.not_not holds).symm

/-- No value lies on both sides of a bound. -/
theorem Reverses.relate?_related
    (reverses : operator.Reverses other)
    (now : Time.Instant)
    (value : Value)
    (values : List String) :
    Option.Rel (fun left right => ¬ (left = true ∧ right = true))
      (operator.relate? now value values) (other.relate? now value values) := by
  have excludes (compared bound : Binary64) :
      ¬ (bound.lt compared = true ∧ compared.lt bound = true) := by
    rintro ⟨above, below⟩
    rw [Binary64.lt_asymm above] at below
    cases below
  cases reverses with
  | numbers =>
      simp only [relate?]
      apply compareNumber?_related
      exact fun number bound => excludes number bound
  | dates =>
      simp only [relate?]
      apply compareDate?_related
      exact fun date bound => excludes date bound

end FieldOperator

/-! ## Outcomes together -/

/--
How two filters turn out together after some issues: either each of them is false for the
same one more issue, or none of them reports any and their truth values are related.
-/
inductive TurnOut
    (related : Bool → Bool → Prop)
    (issues : List Issue) :
    Outcome → Outcome → Prop where
  | decided
      {left right : Bool} :
      related left right →
      TurnOut related issues (left, issues) (right, issues)
  | undecided
      (issue : Issue) :
      TurnOut related issues (false, issues ++ [issue]) (false, issues ++ [issue])

namespace TurnOut

variable
  {related : Bool → Bool → Prop}
  {issues : List Issue}
  {first second : Outcome}

/-- Truth values that are equal without an issue make the outcomes equal. -/
theorem eq (turnOut : TurnOut (· = ·) issues first second) : first = second := by
  cases turnOut with
  | decided same => rw [same]
  | undecided issue => rfl

/-- Where the one filter reports nothing, the other one reports nothing and its truth value is related. -/
theorem exists_related
    (turnOut : TurnOut related issues first second)
    (silent : first.2 = issues) :
    ∃ right, second = (right, issues) ∧ related first.1 right := by
  cases turnOut with
  | decided holdsRelated => exact ⟨_, rfl, holdsRelated⟩
  | undecided issue => simp at silent

/-- Where the one filter reports an issue, the outcomes are the same. -/
theorem eq_of_issue
    (turnOut : TurnOut related issues first second)
    (reports : first.2 ≠ issues) :
    second = first := by
  cases turnOut with
  | decided _ => exact absurd rfl reports
  | undecided issue => rfl

end TurnOut

/--
Two comparisons of one field, of which either both have suiting values or neither has, turn
out together as their operators relate the value of the field.
-/
theorem turnOut_of_related
    {operator other : FieldOperator}
    {values others : List String}
    {related : Bool → Bool → Prop}
    {now : Time.Instant}
    (bothAccept : operator.operands.Accept values ↔ other.operands.Accept others)
    (outcomes :
      ∀ value,
        Option.Rel related (operator.relate? now value values) (other.relate? now value others))
    (field : String)
    (fields : Fields)
    (issues : List Issue) :
    TurnOut related issues
      ((Condition.ofFilter (.context ⟨field, operator, values⟩)).run fields now issues)
      ((Condition.ofFilter (.context ⟨field, other, others⟩)).run fields now issues) := by
  let first : Comparison := ⟨field, operator, values⟩
  let second : Comparison := ⟨field, other, others⟩
  by_cases wellFormed : first.IsWellFormed
  · have otherWellFormed : second.IsWellFormed := bothAccept.mp wellFormed
    cases found : fields.get? field with
    | none =>
        rw [(Reads.missingField wellFormed found).run, (Reads.missingField otherWellFormed found).run]
        exact .undecided _
    | some value =>
        have answers := outcomes value
        generalize answer : operator.relate? now value values = decision at answers
        generalize otherAnswer : other.relate? now value others = otherDecision at answers
        cases answers with
        | none =>
            rw [(Reads.invalidField wellFormed found answer).run,
              (Reads.invalidField otherWellFormed found otherAnswer).run]
            exact .undecided _
        | some holdsRelated =>
            rw [(Reads.compared wellFormed found answer).run_silent,
              (Reads.compared otherWellFormed found otherAnswer).run_silent]
            exact .decided holdsRelated
  · have otherMalformed : ¬ second.IsWellFormed := wellFormed ∘ bothAccept.mpr
    rw [(Reads.malformed wellFormed).run, (Reads.malformed otherMalformed).run]
    exact .undecided _

/--
On every field, for all comparison values and after whatever issues, operators that deny
each other report the same: nothing, and then exactly one of them holds, or one issue, and
then none does. Operators of opposite directions report the same too, and never both hold.
To be equal to a text is to be equal to any of that text alone.
-/
theorem run_oppositeOperators
    (field : String)
    (fields : Fields)
    (now : Time.Instant)
    (issues : List Issue) :
    let run (operator : FieldOperator) (values : List String) : Outcome :=
      (Condition.ofFilter (.context ⟨field, operator, values⟩)).run fields now issues
    (∀ {operator other : FieldOperator},
        operator.Denies other →
        ∀ values,
          TurnOut (fun left right => left = !right) issues (run operator values)
            (run other values)) ∧
      (∀ {operator other : FieldOperator},
        operator.Reverses other →
        ∀ values,
          TurnOut (fun left right => ¬ (left = true ∧ right = true)) issues (run operator values)
            (run other values)) ∧
      ∀ text, run .is [text] = run .anyOf [text] := by
  intro run
  refine ⟨?denying, ?reversing, ?single⟩
  case denying =>
    intro operator other denies values
    apply turnOut_of_related
    · rw [denies.operands_eq]
    · exact fun value => denies.relate?_related now value values
  case reversing =>
    intro operator other reverses values
    apply turnOut_of_related
    · rw [reverses.operands_eq]
    · exact fun value => reverses.relate?_related now value values
  case single =>
    intro text
    apply TurnOut.eq
    apply turnOut_of_related
    · exact ⟨fun _ => trivial, fun _ => ⟨text, rfl⟩⟩
    · intro value
      refine .some ?_
      rw [firstText, List.headD_cons, List.contains_cons, List.contains_nil, Bool.or_false]

/--
An age that is no number is neither above nor below a bound, for one and the same issue. The
plan is the one or it is not.
-/
theorem run_oppositeOperators_unreadableAge :
    let fields : Fields := .ofList [("user.age", .text "old"), ("plan", .text "pro")]
    let run (field : String) (operator : FieldOperator) (values : List String) : Outcome :=
      (Condition.ofFilter (.context ⟨field, operator, values⟩)).run fields ⟨0, 0⟩ []
    FieldOperator.greaterThan.Reverses .lessThan ∧
      FieldOperator.is.Denies .isNot ∧
      run "user.age" .greaterThan ["18"] = (false, [.invalid "user.age"]) ∧
      run "user.age" .lessThan ["18"] = (false, [.invalid "user.age"]) ∧
      run "plan" .is ["pro"] = (true, []) ∧
      run "plan" .isNot ["pro"] = (false, []) := by
  intro fields run
  have above : run "user.age" .greaterThan ["18"] = (false, [.invalid "user.age"]) := by
    decide +kernel
  have isPlan : run "plan" .is ["pro"] = (true, []) := by decide +kernel
  obtain ⟨-, reversing, -⟩ := run_oppositeOperators "user.age" fields ⟨0, 0⟩ []
  obtain ⟨denying, -, -⟩ := run_oppositeOperators "plan" fields ⟨0, 0⟩ []
  have agesTurnOut := reversing .numbers ["18"]
  have plansTurnOut := denying .is ["pro"]
  have below : run "user.age" .lessThan ["18"] = run "user.age" .greaterThan ["18"] := by
    apply agesTurnOut.eq_of_issue
    change (run "user.age" .greaterThan ["18"]).2 ≠ []
    rw [above]
    exact List.cons_ne_nil _ _
  have silent : (run "plan" .is ["pro"]).2 = [] := by rw [isPlan]
  obtain ⟨right, runsNot, isOpposite⟩ := plansTurnOut.exists_related silent
  have isFalse : right = false := by
    change (run "plan" .is ["pro"]).1 = !right at isOpposite
    rw [isPlan] at isOpposite
    cases right with
    | false => rfl
    | true => cases isOpposite
  exact ⟨.numbers, .is, above, below.trans above, isPlan, isFalse ▸ runsNot⟩

end FeatureFlags.Targeting
