import FeatureFlags.Proofs.Targeting.Reading

namespace FeatureFlags.Targeting

/-!
# The fields that a filter refers to

A filter looks only at fields that it names, and says so where one is absent. The fields
that it reports are all that it missed: whatever else is added, it reads as before, because
a child that is skipped stays skipped as long as the children before it read the same.
-/

/-! ## References -/

namespace Filter

mutual

/-- The fields that the comparisons and the rollouts of a filter name. -/
def references : Filter → List String
  | .group _ filters => referencesOfAll filters
  | .negation filter => references filter
  | .context comparison => [comparison.field]
  | .rollout share => [share.field]
  | .constant _ => []
  | .unsupported => []

/-- The fields that filters name. -/
def referencesOfAll : List Filter → List String
  | [] => []
  | filter :: rest => references filter ++ referencesOfAll rest

end

end Filter

/-- Whether an issue fits some fields and the names of those that are referred to. -/
structure Issue.IsAbout
    (fields : Fields)
    (names : List String)
    (issue : Issue) :
    Prop where
  /-- A field that is reported as absent is referred to, and is absent. -/
  absent :
    issue.kind = .missingField →
      issue.subject ∈ names ∧ fields.get? issue.subject = none
  /-- A field that is reported to be of the wrong type is referred to, and is there. -/
  present :
    issue.kind = .invalidFieldType →
      issue.subject ∈ names ∧ ∃ value, fields.get? issue.subject = some value

namespace Issue.IsAbout

variable
  {fields : Fields}
  {names others : List String}

theorem mono
    {issue : Issue}
    (about : issue.IsAbout fields names)
    (within : names ⊆ others) :
    issue.IsAbout fields others where
  absent := fun missing => (about.absent missing).imp_left (within ·)
  present := fun invalid => (about.present invalid).imp_left (within ·)

theorem missing
    {name : String}
    (isAbsent : fields.get? name = none) :
    (Issue.missing name).IsAbout fields [name] where
  absent := fun _ => ⟨List.mem_singleton_self name, isAbsent⟩
  present := nofun

theorem invalid
    {name : String}
    {value : Value}
    (isPresent : fields.get? name = some value) :
    (Issue.invalid name).IsAbout fields [name] where
  absent := nofun
  present := fun _ => ⟨List.mem_singleton_self name, value, isPresent⟩

theorem unsupported
    (kind : String)
    (names : List String) :
    (Issue.unsupported kind).IsAbout fields names where
  absent := nofun
  present := nofun

end Issue.IsAbout

/-- Every issue that a filter reports is about the fields that it names. -/
theorem Reads.isAbout
    {fields : Fields}
    {now : Time.Instant}
    {filter : Filter}
    {value : Bool}
    {issues : List Issue}
    (reads : Reads fields now filter value issues) :
    ∀ issue ∈ issues, issue.IsAbout fields filter.references := by
  induction reads with
  | constant | emptyConjunction | emptyDisjunction | compared | rolledOut =>
      exact List.forall_mem_nil _
  | negation _ inductionHypothesis =>
      exact inductionHypothesis
  | conjunctionStops _ inductionHypothesis | disjunctionStops _ inductionHypothesis =>
      intro issue member
      exact (inductionHypothesis issue member).mono (List.subset_append_left _ _)
  | conjunctionGoesOn _ _ firstAbout restAbout | disjunctionGoesOn _ _ firstAbout restAbout =>
      intro issue member
      rcases List.mem_append.mp member with first | later
      · exact (firstAbout issue first).mono (List.subset_append_left _ _)
      · exact (restAbout issue later).mono (List.subset_append_right _ _)
  | unknownGroup | malformed | unknownFilter =>
      exact List.forall_mem_singleton.mpr (.unsupported _ _)
  | missingField _ isAbsent | missingAttribute isAbsent =>
      exact List.forall_mem_singleton.mpr (.missing isAbsent)
  | invalidField _ isPresent _ =>
      exact List.forall_mem_singleton.mpr (.invalid isPresent)

/-! ## Added fields -/

/-- Fields to which others were added, but none of certain names. -/
structure AddsNoneOf
    (names : List String)
    (fields extended : Fields) :
    Prop where
  kept :
    ∀ name value, fields.get? name = some value → extended.get? name = some value
  spared :
    ∀ name ∈ names, fields.get? name = none → extended.get? name = none

theorem AddsNoneOf.mono
    {names others : List String}
    {fields extended : Fields}
    (adds : AddsNoneOf names fields extended)
    (within : others ⊆ names) :
    AddsNoneOf others fields extended where
  kept := adds.kept
  spared := fun name member => adds.spared name (within member)

@[simp] theorem missingFields_append (issues more : List Issue) :
    missingFields (issues ++ more) = missingFields issues ++ missingFields more := by
  simp [missingFields]

/-- Adding fields that a filter has not reported as absent does not change how it reads. -/
theorem Reads.of_addsNoneOf
    {fields extended : Fields}
    {now : Time.Instant}
    {filter : Filter}
    {value : Bool}
    {issues : List Issue}
    (reads : Reads fields now filter value issues)
    (adds : AddsNoneOf (missingFields issues) fields extended) :
    Reads extended now filter value issues := by
  induction reads with
  | constant value =>
      exact .constant value
  | negation _ inductionHypothesis =>
      exact .negation (inductionHypothesis adds)
  | emptyConjunction =>
      exact .emptyConjunction
  | conjunctionStops _ inductionHypothesis =>
      exact .conjunctionStops (inductionHypothesis adds)
  | conjunctionGoesOn _ _ firstReads restReads =>
      rw [missingFields_append] at adds
      exact
        .conjunctionGoesOn (firstReads (adds.mono (List.subset_append_left _ _)))
          (restReads (adds.mono (List.subset_append_right _ _)))
  | emptyDisjunction =>
      exact .emptyDisjunction
  | disjunctionStops _ inductionHypothesis =>
      exact .disjunctionStops (inductionHypothesis adds)
  | disjunctionGoesOn _ _ firstReads restReads =>
      rw [missingFields_append] at adds
      exact
        .disjunctionGoesOn (firstReads (adds.mono (List.subset_append_left _ _)))
          (restReads (adds.mono (List.subset_append_right _ _)))
  | unknownGroup filters =>
      exact .unknownGroup filters
  | malformed notWellFormed =>
      exact .malformed notWellFormed
  | missingField wellFormed isAbsent =>
      exact .missingField wellFormed (adds.spared _ List.mem_cons_self isAbsent)
  | invalidField wellFormed isPresent unsuited =>
      exact .invalidField wellFormed (adds.kept _ _ isPresent) unsuited
  | compared wellFormed isPresent outcome =>
      exact .compared wellFormed (adds.kept _ _ isPresent) outcome
  | missingAttribute isAbsent =>
      exact .missingAttribute (adds.spared _ List.mem_cons_self isAbsent)
  | rolledOut isPresent =>
      exact .rolledOut (adds.kept _ _ isPresent)
  | unknownFilter =>
      exact .unknownFilter

/-- Alone, a filter evaluates to the same after fields were added that it has not missed. -/
theorem Filter.alone_of_addsNoneOf
    (filter : Filter)
    (now : Time.Instant)
    {fields extended : Fields}
    (adds : AddsNoneOf (missingFields (filter.alone fields now).2) fields extended) :
    filter.alone extended now = filter.alone fields now :=
  ((reads_alone filter fields now).of_addsNoneOf adds).alone_eq

end FeatureFlags.Targeting
