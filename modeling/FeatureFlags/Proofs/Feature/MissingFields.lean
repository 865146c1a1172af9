import FeatureFlags.Proofs.Feature.IndependentRules
import FeatureFlags.Proofs.Table
import FeatureFlags.Proofs.Targeting.References

namespace FeatureFlags.Feature

/-!
# Missing fields

The fields that an evaluation reports as absent are all that it has missed. Whoever adds
other fields gets the same result, with the same reports: `evaluate_missesOnlyReported`.
-/

open FeatureFlags.Targeting (AddsNoneOf Filter missingFields)

/-- A field that is absent may be added if it is none of the names. -/
theorem addsNoneOf_insert
    {names : List String}
    {fields : Fields}
    {name : String}
    (isAbsent : fields.get? name = none)
    (notNamed : name ∉ names)
    (value : Value) :
    AddsNoneOf names fields (fields.insert name value) where
  kept := by
    intro other present found
    have different : other ≠ name := by
      rintro rfl
      cases isAbsent.symm.trans found
    rw [Table.get?_insert, if_neg different, found]
  spared := by
    intro other member notFound
    have different : other ≠ name := by
      rintro rfl
      exact notNamed member
    rw [Table.get?_insert, if_neg different, notFound]

/-- Whatever one of the filters of a trace misses is missing in the trace. -/
theorem missingFields_subset_missing
    {fields : Fields}
    {now : Time.Instant}
    {version : Int64}
    {filters : List Filter}
    {trace : Trace}
    (traced : trace.IsOfEachAlone fields now version filters)
    {filter : Filter}
    (member : filter ∈ filters) :
    missingFields (filter.alone fields now).2 ⊆ trace.missing := by
  intro name missed
  obtain ⟨issue, reported, rfl⟩ := List.mem_map.mp missed
  obtain ⟨inFilter, isMissing⟩ := List.mem_filter.mp reported
  refine List.mem_map.mpr ⟨issue, List.mem_filter.mpr ⟨?_, isMissing⟩, rfl⟩
  rw [traced.issues_eq]
  exact List.mem_flatMap.mpr ⟨filter, member, inFilter⟩

/-- The fields that the rules and the config rules of a feature have missed. -/
def Evaluated.missing (evaluated : Evaluated) : List String :=
  (evaluated.targeting.toList ++ evaluated.configTrace.toList).flatMap (·.missing)

theorem Evaluated.missing_subset
    {evaluated : Evaluated}
    {trace : Trace}
    (member : trace ∈ evaluated.targeting.toList ++ evaluated.configTrace.toList) :
    trace.missing ⊆ evaluated.missing :=
  fun _ missed => List.mem_flatMap.mpr ⟨trace, member, missed⟩

namespace Prepared

/-- Whatever one of the filters of a definition misses is missing in the evaluation. -/
theorem missingFields_subset_evaluate
    {definition : Definition}
    {filter : Filter}
    (member : filter ∈ definition.filters)
    (fields : Fields)
    (now : Time.Instant) :
    missingFields (filter.alone fields now).2 ⊆
      ((ofDefinition definition).evaluate fields now).missing := by
  obtain ⟨key, targeting, config⟩ := definition
  rcases List.mem_append.mp member with isRule | ofVariant
  · exact
      List.Subset.trans
        (missingFields_subset_missing (traceOf_ofFilter fields now targeting.version _) isRule)
        (Evaluated.missing_subset (List.mem_append_left _ List.mem_cons_self))
  · cases config with
    | none =>
        simp at ofVariant
    | some rules =>
        have isVariant : filter ∈ rules.variants.map (·.filter) := by
          simpa using ofVariant
        exact
          List.Subset.trans
            (missingFields_subset_missing (PreparedConfig.trace_ofRules rules fields now)
              isVariant)
            (Evaluated.missing_subset (List.mem_append_right _ List.mem_cons_self))

/-- Fields that an evaluation has not missed change nothing but the fields it names. -/
theorem evaluate_of_addsNoneOf
    (definition : Definition)
    (now : Time.Instant)
    {fields extended : Fields}
    (adds :
      AddsNoneOf ((ofDefinition definition).evaluate fields now).missing fields extended) :
    (ofDefinition definition).evaluate extended now =
      { (ofDefinition definition).evaluate fields now with context := some extended } :=
  evaluate_congr definition fun filter member =>
    filter.alone_of_addsNoneOf now (adds.mono (missingFields_subset_evaluate member fields now))

/--
What is reported of fields is right and complete. A filter reports fields that it names, as
absent if they are absent and to be of the wrong type only if they are there; and adding
fields that were not reported as absent changes neither what a filter evaluates to nor what
becomes of a whole feature.
-/
theorem evaluate_missesOnlyReported
    (filter : Filter)
    (definition : Definition)
    (fields : Fields)
    (now : Time.Instant) :
    (∀ issue ∈ (filter.alone fields now).2, issue.IsAbout fields filter.references) ∧
      (∀ extended,
        AddsNoneOf (missingFields (filter.alone fields now).2) fields extended →
        filter.alone extended now = filter.alone fields now) ∧
      ∀ extended,
        AddsNoneOf ((ofDefinition definition).evaluate fields now).missing fields extended →
        (ofDefinition definition).evaluate extended now =
          { (ofDefinition definition).evaluate fields now with context := some extended } :=
  ⟨(Targeting.reads_alone filter fields now).isAbout,
    fun _ adds => filter.alone_of_addsNoneOf now adds,
    fun _ adds => evaluate_of_addsNoneOf definition now adds⟩

/--
A field that a rule names, but that was not looked for, may be added: a user is told by the
id, so that the plan does not matter, and only the role is reported as absent.
-/
theorem evaluate_plannedLater :
    let byIdOrPlan : Filter :=
      .group .disjunction
        [.context ⟨"user.id", .is, ["u1"]⟩, .context ⟨"user.plan", .is, ["pro"]⟩]
    let definition : Definition :=
      ⟨"export", ⟨1, [byIdOrPlan, .negation (.context ⟨"user.role", .is, ["guest"]⟩)]⟩, none⟩
    let fields : Fields := Table.empty.insert "user.id" (.text "u1")
    let extended : Fields := fields.insert "user.plan" (.text "free")
    "user.plan" ∈ byIdOrPlan.references ∧
      ((ofDefinition definition).evaluate fields ⟨0, 0⟩).missing = ["user.role"] ∧
      byIdOrPlan.alone extended ⟨0, 0⟩ = byIdOrPlan.alone fields ⟨0, 0⟩ ∧
      (ofDefinition definition).evaluate extended ⟨0, 0⟩ =
        { (ofDefinition definition).evaluate fields ⟨0, 0⟩ with context := some extended } := by
  intro byIdOrPlan definition fields extended
  have missed : ((ofDefinition definition).evaluate fields ⟨0, 0⟩).missing = ["user.role"] := rfl
  have reportsNothing : missingFields (byIdOrPlan.alone fields ⟨0, 0⟩).2 = [] := rfl
  have isAbsent : fields.get? "user.plan" = none := rfl
  obtain ⟨-, sameFilter, sameFeature⟩ :=
    evaluate_missesOnlyReported byIdOrPlan definition fields ⟨0, 0⟩
  refine ⟨by decide, missed, sameFilter extended ?_, sameFeature extended ?_⟩
  · rw [reportsNothing]
    exact addsNoneOf_insert isAbsent (by decide) _
  · rw [missed]
    exact addsNoneOf_insert isAbsent (by decide) _

end Prepared

end FeatureFlags.Feature
