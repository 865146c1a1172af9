import FeatureFlags.Targeting.Evaluation

namespace FeatureFlags.Targeting

/-!
# The direct reading of filters

What a filter means is given here by rules on the filter itself, one for each way
in which a node can come to its truth value: which comparison values an operator
takes, how it relates them to the value of a field, and which issues are reported
on the way. `run_ofFilter_reads` says that preparing a filter and running the
condition that comes out is the same as reading the filter by these rules.
-/

open FeatureFlags.Number (Binary64)

/-! ## Comparisons -/

/-- The comparison values that an operator takes. -/
inductive Operands where
  /-- No value. -/
  | nothing
  /-- One value of any kind. -/
  | oneText
  /-- One value that is not empty. -/
  | oneNonEmptyText
  /-- One value that spells a number. -/
  | oneNumber
  /-- Any number of values. -/
  | anyTexts
  /-- No comparison values suit, whatever they are. -/
  | never

namespace Operands

/-- Whether comparison values are of the kind that is wanted. -/
def Accept : Operands → List String → Prop
  | .nothing, values => values = []
  | .oneText, values => ∃ text, values = [text]
  | .oneNonEmptyText, values => ∃ text, values = [text] ∧ text ≠ ""
  | .oneNumber, values => ∃ text number, values = [text] ∧ Binary64.ofText? text = some number
  | .anyTexts, _ => True
  | .never, _ => False

end Operands

namespace FieldOperator

/-- The comparison values that an operator takes; an unknown operator takes none at all. -/
def operands : FieldOperator → Operands
  | .contains => .oneNonEmptyText
  | .notContains => .oneNonEmptyText
  | .anyOf => .anyTexts
  | .notAnyOf => .anyTexts
  | .is => .oneText
  | .isNot => .oneText
  | .greaterThan => .oneNumber
  | .lessThan => .oneNumber
  | .after => .oneNumber
  | .before => .oneNumber
  | .set => .nothing
  | .notSet => .nothing
  | .isTrue => .nothing
  | .isFalse => .nothing
  | .unknown => .never

end FieldOperator

/-- The first comparison value. -/
def firstText (values : List String) : String :=
  values.headD ""

/-- Whether a value has the first comparison value in its plain text, in any letter case. -/
def mentions
    (value : Value)
    (values : List String) :
    Bool :=
  Text.occursIn (Text.lowercase (firstText values).toList) (Text.lowercase value.toText.toList)

/-- The order of the number of a value and the first comparison value, by a test. -/
def compareNumber?
    (test : Binary64 → Binary64 → Bool)
    (value : Value)
    (values : List String) :
    Option Bool := do
  let number ← value.toNumber?
  let bound ← Binary64.ofText? (firstText values)
  return test number bound

/-- The order of the date of a value and the date some days from now, by a test. -/
def compareDate?
    (test : Binary64 → Binary64 → Bool)
    (now : Time.Instant)
    (value : Value)
    (values : List String) :
    Option Bool := do
  let instant ← value.toInstant?
  let days ← Binary64.ofText? (firstText values)
  return test (millis instant) (millisAfter now days)

namespace FieldOperator

/-- How an operator relates a value to comparison values; nothing if the value does not suit. -/
def relate?
    (now : Time.Instant)
    (value : Value)
    (values : List String) :
    FieldOperator → Option Bool
  | .contains => some (mentions value values)
  | .notContains => some (!mentions value values)
  | .anyOf => some (values.contains value.toText)
  | .notAnyOf => some (!values.contains value.toText)
  | .is => some (value.toText == firstText values)
  | .isNot => some (value.toText != firstText values)
  | .greaterThan => compareNumber? (fun number bound => bound.lt number) value values
  | .lessThan => compareNumber? (fun number bound => number.lt bound) value values
  | .after => compareDate? (fun date bound => bound.lt date) now value values
  | .before => compareDate? (fun date bound => date.lt bound) now value values
  | .set => some (value.toText != "")
  | .notSet => some (value.toText == "")
  | .isTrue => value.toBool?
  | .isFalse => value.toBool?.map (!·)
  | .unknown => none

end FieldOperator

namespace Comparison

/-- Whether the comparison values suit the operator. -/
def IsWellFormed (comparison : Comparison) : Prop :=
  comparison.operator.operands.Accept comparison.values

/-- How the comparison turns out for the value of its field. -/
def outcome?
    (comparison : Comparison)
    (now : Time.Instant)
    (value : Value) :
    Option Bool :=
  comparison.operator.relate? now value comparison.values

end Comparison

/-! ## Filters -/

/--
A filter reads as a truth value on some fields at an instant, and reports issues.
Groups are read from left to right up to the child that decides them.
-/
inductive Reads
    (fields : Fields)
    (now : Time.Instant) :
    Filter → Bool → List Issue → Prop where
  | constant
      (value : Bool) :
      Reads fields now (.constant value) value []
  | negation
      {filter : Filter}
      {value : Bool}
      {issues : List Issue} :
      Reads fields now filter value issues →
      Reads fields now (.negation filter) (!value) issues
  | emptyConjunction :
      Reads fields now (.group .conjunction []) true []
  | conjunctionStops
      {filter : Filter}
      {rest : List Filter}
      {issues : List Issue} :
      Reads fields now filter false issues →
      Reads fields now (.group .conjunction (filter :: rest)) false issues
  | conjunctionGoesOn
      {filter : Filter}
      {rest : List Filter}
      {value : Bool}
      {issues more : List Issue} :
      Reads fields now filter true issues →
      Reads fields now (.group .conjunction rest) value more →
      Reads fields now (.group .conjunction (filter :: rest)) value (issues ++ more)
  | emptyDisjunction :
      Reads fields now (.group .disjunction []) false []
  | disjunctionStops
      {filter : Filter}
      {rest : List Filter}
      {issues : List Issue} :
      Reads fields now filter true issues →
      Reads fields now (.group .disjunction (filter :: rest)) true issues
  | disjunctionGoesOn
      {filter : Filter}
      {rest : List Filter}
      {value : Bool}
      {issues more : List Issue} :
      Reads fields now filter false issues →
      Reads fields now (.group .disjunction rest) value more →
      Reads fields now (.group .disjunction (filter :: rest)) value (issues ++ more)
  | unknownGroup
      (filters : List Filter) :
      Reads fields now (.group .unknown filters) false [.unsupported "group"]
  | malformed
      {comparison : Comparison} :
      ¬ comparison.IsWellFormed →
      Reads fields now (.context comparison) false [.unsupported "context"]
  | missingField
      {comparison : Comparison} :
      comparison.IsWellFormed →
      fields.get? comparison.field = none →
      Reads fields now (.context comparison) false [.missing comparison.field]
  | invalidField
      {comparison : Comparison}
      {value : Value} :
      comparison.IsWellFormed →
      fields.get? comparison.field = some value →
      comparison.outcome? now value = none →
      Reads fields now (.context comparison) false [.invalid comparison.field]
  | compared
      {comparison : Comparison}
      {value : Value}
      {outcome : Bool} :
      comparison.IsWellFormed →
      fields.get? comparison.field = some value →
      comparison.outcome? now value = some outcome →
      Reads fields now (.context comparison) outcome []
  | missingAttribute
      {share : RolloutShare} :
      fields.get? share.field = none →
      Reads fields now (.rollout share) false [.missing share.field]
  | rolledOut
      {share : RolloutShare}
      {value : Value} :
      fields.get? share.field = some value →
      Reads fields now (.rollout share)
        ((Rollout.bucket share.key value.toText : Int) < share.threshold.toInt) []
  | unknownFilter :
      Reads fields now .unsupported false [.unsupported "unknown"]

/-! ## Prepared checks -/

namespace Check

theorem single?_eq_some_iff
    {values : List String}
    {text : String} :
    single? values = some text ↔ values = [text] := by
  rcases values with _ | ⟨first, _ | ⟨second, rest⟩⟩ <;> simp [single?]

theorem singleNeedle?_eq_some_iff
    {values : List String}
    {needle : List Char} :
    singleNeedle? values = some needle ↔
      ∃ text, values = [text] ∧ text ≠ "" ∧ needle = Text.lowercase text.toList := by
  rcases values with _ | ⟨first, _ | ⟨second, rest⟩⟩
  · simp [singleNeedle?, single?]
  · by_cases empty : first = "" <;>
      simp [singleNeedle?, single?, empty, eq_comm]
  · simp [singleNeedle?, single?]

theorem singleNumber?_eq_some_iff
    {values : List String}
    {number : Binary64} :
    singleNumber? values = some number ↔
      ∃ text, values = [text] ∧ Binary64.ofText? text = some number := by
  simp [singleNumber?, Option.bind_eq_some_iff, single?_eq_some_iff]

theorem withoutValues?_eq_some_iff
    {values : List String}
    {check made : Check} :
    withoutValues? values check = some made ↔ values = [] ∧ check = made := by
  cases values <;> simp [withoutValues?]

/-- A comparison has a check exactly if its values suit its operator. -/
theorem isSome_ofComparison?_iff (comparison : Comparison) :
    (ofComparison? comparison).isSome = true ↔ comparison.IsWellFormed := by
  obtain ⟨field, operator, values⟩ := comparison
  have oneText : (single? values).isSome = true ↔ Operands.oneText.Accept values := by
    simp [Option.isSome_iff_exists, single?_eq_some_iff, Operands.Accept]
  have oneNonEmptyText :
      (singleNeedle? values).isSome = true ↔ Operands.oneNonEmptyText.Accept values := by
    rw [Option.isSome_iff_exists]
    constructor
    · rintro ⟨needle, found⟩
      obtain ⟨text, shape, notEmpty, _⟩ := singleNeedle?_eq_some_iff.mp found
      exact ⟨text, shape, notEmpty⟩
    · rintro ⟨text, shape, notEmpty⟩
      exact ⟨_, singleNeedle?_eq_some_iff.mpr ⟨text, shape, notEmpty, rfl⟩⟩
  have oneNumber :
      (singleNumber? values).isSome = true ↔ Operands.oneNumber.Accept values := by
    simp only [Option.isSome_iff_exists, singleNumber?_eq_some_iff, Operands.Accept]
    exact exists_comm
  have nothing (check : Check) :
      (withoutValues? values check).isSome = true ↔ Operands.nothing.Accept values := by
    simp [Option.isSome_iff_exists, withoutValues?_eq_some_iff, Operands.Accept]
  cases operator with
  | contains | notContains =>
      simpa [ofComparison?, Comparison.IsWellFormed, FieldOperator.operands] using oneNonEmptyText
  | is | isNot =>
      simpa [ofComparison?, Comparison.IsWellFormed, FieldOperator.operands] using oneText
  | greaterThan | lessThan | after | before =>
      simpa [ofComparison?, Comparison.IsWellFormed, FieldOperator.operands] using oneNumber
  | set | notSet | isTrue | isFalse =>
      exact nothing _
  | anyOf | notAnyOf =>
      exact ⟨fun _ => trivial, fun _ => rfl⟩
  | unknown =>
      exact ⟨nofun, nofun⟩

/-- A check decides a value as the operator of its comparison does. -/
theorem holds?_of_ofComparison?
    {comparison : Comparison}
    {check : Check}
    (prepared : ofComparison? comparison = some check)
    (now : Time.Instant)
    (value : Value) :
    check.holds? now value = comparison.outcome? now value := by
  obtain ⟨field, operator, values⟩ := comparison
  cases operator with
  | contains | notContains =>
      obtain ⟨needle, found, rfl⟩ := Option.map_eq_some_iff.mp prepared
      obtain ⟨text, shape, _, rfl⟩ := singleNeedle?_eq_some_iff.mp found
      cases shape
      rfl
  | is | isNot =>
      obtain ⟨text, found, rfl⟩ := Option.map_eq_some_iff.mp prepared
      cases single?_eq_some_iff.mp found
      rfl
  | greaterThan | lessThan =>
      obtain ⟨bound, found, rfl⟩ := Option.map_eq_some_iff.mp prepared
      obtain ⟨text, shape, spelled⟩ := singleNumber?_eq_some_iff.mp found
      cases shape
      cases number : value.toNumber? <;>
        simp [holds?, Comparison.outcome?, FieldOperator.relate?, compareNumber?, firstText,
          number, spelled]
  | after | before =>
      obtain ⟨days, found, rfl⟩ := Option.map_eq_some_iff.mp prepared
      obtain ⟨text, shape, spelled⟩ := singleNumber?_eq_some_iff.mp found
      cases shape
      cases instant : value.toInstant? <;>
        simp [holds?, Comparison.outcome?, FieldOperator.relate?, compareDate?, firstText,
          instant, spelled]
  | set | isTrue | isFalse =>
      obtain ⟨_, rfl⟩ := withoutValues?_eq_some_iff.mp prepared
      rfl
  | notSet =>
      obtain ⟨_, rfl⟩ := withoutValues?_eq_some_iff.mp prepared
      simp [holds?, Comparison.outcome?, FieldOperator.relate?, Value.isSet, bne]
  | anyOf | notAnyOf =>
      cases prepared
      rfl
  | unknown =>
      cases prepared

/-- A comparison whose values do not suit its operator cannot be prepared. -/
theorem ofComparison?_eq_none
    {comparison : Comparison}
    (malformed : ¬ comparison.IsWellFormed) :
    ofComparison? comparison = none := by
  rw [← isSome_ofComparison?_iff] at malformed
  exact Option.not_isSome_iff_eq_none.mp malformed

/-- Any other comparison has a check that decides as the comparison does. -/
theorem exists_check
    {comparison : Comparison}
    (wellFormed : comparison.IsWellFormed) :
    ∃ check,
      ofComparison? comparison = some check ∧
        ∀ now value, check.holds? now value = comparison.outcome? now value := by
  obtain ⟨check, prepared⟩ :=
    Option.isSome_iff_exists.mp ((isSome_ofComparison?_iff comparison).mpr wellFormed)
  exact ⟨check, prepared, holds?_of_ofComparison? prepared⟩

end Check

/-! ## Conditions -/

/-- A condition runs as its filter reads, after whatever issues were met before. -/
theorem Reads.run
    {fields : Fields}
    {now : Time.Instant}
    {filter : Filter}
    {value : Bool}
    {reported : List Issue}
    (reads : Reads fields now filter value reported)
    (issues : List Issue) :
    (Condition.ofFilter filter).run fields now issues = (value, issues ++ reported) := by
  induction reads generalizing issues with
  | constant value =>
      simp [Condition.ofFilter, Condition.run]
  | negation _ inductionHypothesis =>
      simp [Condition.ofFilter, Condition.run, inductionHypothesis]
  | emptyConjunction =>
      simp [Condition.ofFilter, Condition.ofFilters, Condition.run, Condition.runAll]
  | conjunctionStops _ inductionHypothesis =>
      simp [Condition.ofFilter, Condition.ofFilters, Condition.run, Condition.runAll,
        inductionHypothesis]
  | conjunctionGoesOn _ _ firstRuns restRuns =>
      simp only [Condition.ofFilter, Condition.run] at restRuns
      simp [Condition.ofFilter, Condition.ofFilters, Condition.run, Condition.runAll,
        firstRuns, restRuns]
  | emptyDisjunction =>
      simp [Condition.ofFilter, Condition.ofFilters, Condition.run, Condition.runAny]
  | disjunctionStops _ inductionHypothesis =>
      simp [Condition.ofFilter, Condition.ofFilters, Condition.run, Condition.runAny,
        inductionHypothesis]
  | disjunctionGoesOn _ _ firstRuns restRuns =>
      simp only [Condition.ofFilter, Condition.run] at restRuns
      simp [Condition.ofFilter, Condition.ofFilters, Condition.run, Condition.runAny,
        firstRuns, restRuns]
  | unknownGroup filters =>
      simp [Condition.ofFilter, Condition.run, FilterKind.name]
  | malformed notWellFormed =>
      have unprepared := Check.ofComparison?_eq_none notWellFormed
      simp [Condition.ofFilter, unprepared, Condition.run, FilterKind.name]
  | missingField wellFormed absent =>
      obtain ⟨check, prepared, _⟩ := Check.exists_check wellFormed
      simp [Condition.ofFilter, prepared, Condition.run, absent]
  | invalidField wellFormed present unsuited =>
      obtain ⟨check, prepared, decides⟩ := Check.exists_check wellFormed
      simp [Condition.ofFilter, prepared, Condition.run, present, decides, unsuited]
  | compared wellFormed present outcome =>
      obtain ⟨check, prepared, decides⟩ := Check.exists_check wellFormed
      simp [Condition.ofFilter, prepared, Condition.run, present, decides, outcome]
  | missingAttribute absent =>
      simp [Condition.ofFilter, Condition.run, absent]
  | rolledOut present =>
      simp [Condition.ofFilter, Condition.run, present, RolloutShare.reaches]
  | unknownFilter =>
      simp [Condition.ofFilter, Condition.run, FilterKind.name]

/-- A filter that reports nothing leaves the issues as they are. -/
theorem Reads.run_silent
    {fields : Fields}
    {now : Time.Instant}
    {filter : Filter}
    {value : Bool}
    (reads : Reads fields now filter value [])
    (issues : List Issue) :
    (Condition.ofFilter filter).run fields now issues = (value, issues) := by
  rw [reads.run, List.append_nil]

/-- Every comparison reads as something. -/
private theorem exists_reads_context
    (fields : Fields)
    (now : Time.Instant)
    (comparison : Comparison) :
    ∃ value issues, Reads fields now (.context comparison) value issues := by
  by_cases wellFormed : comparison.IsWellFormed
  · cases found : fields.get? comparison.field with
    | none =>
        exact ⟨_, _, .missingField wellFormed found⟩
    | some value =>
        cases decided : comparison.outcome? now value with
        | none => exact ⟨_, _, .invalidField wellFormed found decided⟩
        | some outcome => exact ⟨_, _, .compared wellFormed found decided⟩
  · exact ⟨_, _, .malformed wellFormed⟩

/-- Every rollout reads as something. -/
private theorem exists_reads_rollout
    (fields : Fields)
    (now : Time.Instant)
    (share : RolloutShare) :
    ∃ value issues, Reads fields now (.rollout share) value issues := by
  cases found : fields.get? share.field with
  | none => exact ⟨_, _, .missingAttribute found⟩
  | some value => exact ⟨_, _, .rolledOut found⟩

mutual

/-- Every filter reads as something. -/
theorem exists_reads
    (fields : Fields)
    (now : Time.Instant) :
    ∀ filter, ∃ value issues, Reads fields now filter value issues
  | .group .conjunction filters => exists_reads_conjunction fields now filters
  | .group .disjunction filters => exists_reads_disjunction fields now filters
  | .group .unknown filters => ⟨_, _, .unknownGroup filters⟩
  | .negation filter => by
      obtain ⟨value, issues, reads⟩ := exists_reads fields now filter
      exact ⟨_, _, .negation reads⟩
  | .constant value => ⟨_, _, .constant value⟩
  | .context comparison => exists_reads_context fields now comparison
  | .rollout share => exists_reads_rollout fields now share
  | .unsupported => ⟨_, _, .unknownFilter⟩

/-- Every conjunction reads as something. -/
theorem exists_reads_conjunction
    (fields : Fields)
    (now : Time.Instant) :
    ∀ filters, ∃ value issues, Reads fields now (.group .conjunction filters) value issues
  | [] => ⟨_, _, .emptyConjunction⟩
  | filter :: rest => by
      obtain ⟨value, issues, reads⟩ := exists_reads fields now filter
      obtain ⟨restValue, restIssues, restReads⟩ := exists_reads_conjunction fields now rest
      cases value with
      | false => exact ⟨_, _, .conjunctionStops reads⟩
      | true => exact ⟨_, _, .conjunctionGoesOn reads restReads⟩

/-- Every disjunction reads as something. -/
theorem exists_reads_disjunction
    (fields : Fields)
    (now : Time.Instant) :
    ∀ filters, ∃ value issues, Reads fields now (.group .disjunction filters) value issues
  | [] => ⟨_, _, .emptyDisjunction⟩
  | filter :: rest => by
      obtain ⟨value, issues, reads⟩ := exists_reads fields now filter
      obtain ⟨restValue, restIssues, restReads⟩ := exists_reads_disjunction fields now rest
      cases value with
      | true => exact ⟨_, _, .disjunctionStops reads⟩
      | false => exact ⟨_, _, .disjunctionGoesOn reads restReads⟩

end

/-- A filter reads in one way only. -/
theorem Reads.unique
    {fields : Fields}
    {now : Time.Instant}
    {filter : Filter}
    {value other : Bool}
    {issues otherIssues : List Issue}
    (reads : Reads fields now filter value issues)
    (otherReads : Reads fields now filter other otherIssues) :
    other = value ∧ otherIssues = issues := by
  have sameRun := (otherReads.run []).symm.trans (reads.run [])
  simpa using sameRun

/-! ## Filters alone -/

/-- What a filter evaluates to when no issue was met before. -/
def Filter.alone
    (filter : Filter)
    (fields : Fields)
    (now : Time.Instant) :
    Outcome :=
  (Condition.ofFilter filter).run fields now []

/-- What a filter reads as is what it evaluates to alone. -/
theorem Reads.alone_eq
    {fields : Fields}
    {now : Time.Instant}
    {filter : Filter}
    {value : Bool}
    {issues : List Issue}
    (reads : Reads fields now filter value issues) :
    filter.alone fields now = (value, issues) :=
  reads.run []

/-- A filter reads as what it evaluates to alone. -/
theorem reads_alone
    (filter : Filter)
    (fields : Fields)
    (now : Time.Instant) :
    Reads fields now filter (filter.alone fields now).1 (filter.alone fields now).2 := by
  obtain ⟨value, issues, reads⟩ := exists_reads fields now filter
  rw [reads.alone_eq]
  exact reads

/-- Issues that were met before change nothing, and those of the filter are put after them. -/
theorem run_ofFilter
    (filter : Filter)
    (fields : Fields)
    (now : Time.Instant)
    (issues : List Issue) :
    (Condition.ofFilter filter).run fields now issues =
      ((filter.alone fields now).1, issues ++ (filter.alone fields now).2) :=
  (reads_alone filter fields now).run issues

end FeatureFlags.Targeting
