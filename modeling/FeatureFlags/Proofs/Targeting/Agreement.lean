import FeatureFlags.Proofs.Table
import FeatureFlags.Proofs.Targeting.References

namespace FeatureFlags

/-!
# Fields that agree

A filter sees a value only through its plain text and through what the value is as a
number, as a truth value and as a date, and of a date it sees the milliseconds only. Fields
that agree in these on all names that a filter refers to are the same to it, whatever else
they hold.
-/

/-! ## Values -/

/-- Two values that no check can tell apart. -/
structure Value.Alike (left right : Value) : Prop where
  toText_eq : left.toText = right.toText
  toNumber?_eq : left.toNumber? = right.toNumber?
  toBool?_eq : left.toBool? = right.toBool?
  toInstant?_eq : left.toInstant? = right.toInstant?

theorem Value.Alike.refl (value : Value) : value.Alike value :=
  ⟨rfl, rfl, rfl, rfl⟩

/-- Two values that look the same to every check, which sees the milliseconds of a date only. -/
structure Value.LooksLike (left right : Value) : Prop where
  toText_eq : left.toText = right.toText
  toNumber?_eq : left.toNumber? = right.toNumber?
  toBool?_eq : left.toBool? = right.toBool?
  toMillis?_eq : left.toInstant?.map (·.toMillis) = right.toInstant?.map (·.toMillis)

theorem Value.Alike.looksLike
    {left right : Value}
    (alike : left.Alike right) :
    left.LooksLike right :=
  ⟨alike.toText_eq, alike.toNumber?_eq, alike.toBool?_eq, congrArg _ alike.toInstant?_eq⟩

namespace Targeting

/-- Values whose dates have the same milliseconds are related to a date in the same way. -/
theorem compareDate?_congr
    {left right : Value}
    (sameMillis : left.toInstant?.map (·.toMillis) = right.toInstant?.map (·.toMillis))
    (test : Number.Binary64 → Number.Binary64 → Bool)
    (now : Time.Instant)
    (values : List String) :
    compareDate? test now left values = compareDate? test now right values := by
  have seen (value : Value) :
      compareDate? test now value values =
        (value.toInstant?.map (·.toMillis)).bind fun milliseconds =>
          (Number.Binary64.ofText? (firstText values)).map fun days =>
            test (.ofInt milliseconds) (millisAfter now days) := by
    unfold compareDate?
    cases value.toInstant? with
    | none => rfl
    | some instant => cases Number.Binary64.ofText? (firstText values) <;> rfl
  rw [seen, seen, sameMillis]

/-- An operator relates values that look the same to its comparison values in the same way. -/
theorem FieldOperator.relate?_congr
    {left right : Value}
    (same : left.LooksLike right)
    (now : Time.Instant)
    (values : List String)
    (operator : FieldOperator) :
    operator.relate? now left values = operator.relate? now right values := by
  obtain ⟨sameText, sameNumber, sameBool, sameMillis⟩ := same
  cases operator with
  | contains | notContains =>
      simp only [relate?, mentions, sameText]
  | anyOf | notAnyOf | is | isNot | set | notSet =>
      simp only [relate?, sameText]
  | greaterThan | lessThan =>
      simp only [relate?, compareNumber?, sameNumber]
  | after | before =>
      simp only [relate?, compareDate?_congr sameMillis]
  | isTrue | isFalse =>
      simp only [relate?, sameBool]
  | unknown =>
      rfl

/-- A comparison turns out the same for values that look the same. -/
theorem Comparison.outcome?_congr
    {left right : Value}
    (same : left.LooksLike right)
    (now : Time.Instant)
    (comparison : Comparison) :
    comparison.outcome? now left = comparison.outcome? now right :=
  FieldOperator.relate?_congr same now comparison.values comparison.operator

/-! ## Fields -/

/-- Fields that have values alike on each of some names, or no value on either side. -/
def AgreeOn
    (names : List String)
    (fields others : Fields) :
    Prop :=
  ∀ name ∈ names, Option.Rel Value.Alike (fields.get? name) (others.get? name)

/-- Fields whose values look the same on each of some names, or that have none on either side. -/
def LookLikeOn
    (names : List String)
    (fields others : Fields) :
    Prop :=
  ∀ name ∈ names, Option.Rel Value.LooksLike (fields.get? name) (others.get? name)

variable
  {names : List String}
  {fields others : Fields}
  {name : String}

theorem AgreeOn.lookLikeOn (agree : AgreeOn names fields others) :
    LookLikeOn names fields others := by
  intro name member
  have related := agree name member
  generalize fields.get? name = value at related ⊢
  generalize others.get? name = other at related ⊢
  cases related with
  | some alike => exact .some alike.looksLike
  | none => exact .none

namespace LookLikeOn

theorem mono
    {fewer : List String}
    (same : LookLikeOn names fields others)
    (within : fewer ⊆ names) :
    LookLikeOn fewer fields others :=
  fun name member => same name (within member)

/-- Fields that differ in one value only, and there look the same, look the same on all names. -/
theorem insert
    {value other : Value}
    (same : value.LooksLike other)
    (names : List String)
    (name : String)
    (fields : Fields) :
    LookLikeOn names (fields.insert name value) (fields.insert name other) := by
  intro named _
  rw [Table.get?_insert, Table.get?_insert]
  split
  next =>
    exact .some same
  next =>
    cases fields.get? named with
    | none => exact .none
    | some kept => exact .some (Value.Alike.refl kept).looksLike

theorem get?_eq_none
    (same : LookLikeOn names fields others)
    (member : name ∈ names)
    (isAbsent : fields.get? name = none) :
    others.get? name = none := by
  have related := same name member
  rw [isAbsent] at related
  cases found : others.get? name with
  | none =>
      rfl
  | some other =>
      rw [found] at related
      cases related

theorem exists_get?_eq_some
    {value : Value}
    (same : LookLikeOn names fields others)
    (member : name ∈ names)
    (isPresent : fields.get? name = some value) :
    ∃ other, others.get? name = some other ∧ value.LooksLike other := by
  have related := same name member
  rw [isPresent] at related
  cases found : others.get? name with
  | none =>
      rw [found] at related
      cases related
  | some other =>
      rw [found] at related
      cases related with
      | some looksLike => exact ⟨other, rfl, looksLike⟩

end LookLikeOn

/-! ## Filters -/

/-- A filter reads the same on fields that look the same on all names that it refers to. -/
theorem Reads.of_lookLikeOn
    {now : Time.Instant}
    {filter : Filter}
    {value : Bool}
    {issues : List Issue}
    (reads : Reads fields now filter value issues)
    (same : LookLikeOn filter.references fields others) :
    Reads others now filter value issues := by
  induction reads with
  | constant value =>
      exact .constant value
  | negation _ inductionHypothesis =>
      exact .negation (inductionHypothesis same)
  | emptyConjunction =>
      exact .emptyConjunction
  | conjunctionStops _ inductionHypothesis =>
      exact .conjunctionStops (inductionHypothesis (same.mono (List.subset_append_left _ _)))
  | conjunctionGoesOn _ _ firstReads restReads =>
      exact
        .conjunctionGoesOn (firstReads (same.mono (List.subset_append_left _ _)))
          (restReads (same.mono (List.subset_append_right _ _)))
  | emptyDisjunction =>
      exact .emptyDisjunction
  | disjunctionStops _ inductionHypothesis =>
      exact .disjunctionStops (inductionHypothesis (same.mono (List.subset_append_left _ _)))
  | disjunctionGoesOn _ _ firstReads restReads =>
      exact
        .disjunctionGoesOn (firstReads (same.mono (List.subset_append_left _ _)))
          (restReads (same.mono (List.subset_append_right _ _)))
  | unknownGroup filters =>
      exact .unknownGroup filters
  | malformed notWellFormed =>
      exact .malformed notWellFormed
  | missingField wellFormed isAbsent =>
      exact .missingField wellFormed (same.get?_eq_none List.mem_cons_self isAbsent)
  | invalidField wellFormed isPresent unsuited =>
      obtain ⟨other, isThere, looksLike⟩ := same.exists_get?_eq_some List.mem_cons_self isPresent
      exact .invalidField wellFormed isThere
        ((Comparison.outcome?_congr looksLike now _).symm.trans unsuited)
  | compared wellFormed isPresent outcome =>
      obtain ⟨other, isThere, looksLike⟩ := same.exists_get?_eq_some List.mem_cons_self isPresent
      exact .compared wellFormed isThere
        ((Comparison.outcome?_congr looksLike now _).symm.trans outcome)
  | missingAttribute isAbsent =>
      exact .missingAttribute (same.get?_eq_none List.mem_cons_self isAbsent)
  | rolledOut isPresent =>
      obtain ⟨other, isThere, looksLike⟩ := same.exists_get?_eq_some List.mem_cons_self isPresent
      rw [looksLike.toText_eq]
      exact .rolledOut isThere
  | unknownFilter =>
      exact .unknownFilter

/-- Alone, a filter evaluates to the same on fields that look the same on all names that it
refers to. -/
theorem Filter.alone_of_lookLikeOn
    (filter : Filter)
    (now : Time.Instant)
    (same : LookLikeOn filter.references fields others) :
    filter.alone others now = filter.alone fields now :=
  ((reads_alone filter fields now).of_lookLikeOn same).alone_eq

/-- A filter gives the same truth value and reports the same issues for two values that look the
same, whichever of them a field holds. -/
theorem run_insert_congr
    {value other : Value}
    (same : value.LooksLike other)
    (filter : Filter)
    (name : String)
    (fields : Fields)
    (now : Time.Instant)
    (issues : List Issue) :
    (Condition.ofFilter filter).run (fields.insert name value) now issues =
      (Condition.ofFilter filter).run (fields.insert name other) now issues := by
  have everywhere := LookLikeOn.insert same filter.references name fields
  rw [run_ofFilter, run_ofFilter, filter.alone_of_lookLikeOn now everywhere]

end Targeting

end FeatureFlags
