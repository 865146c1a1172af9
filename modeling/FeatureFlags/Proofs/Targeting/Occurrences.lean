import FeatureFlags.Proofs.Table
import FeatureFlags.Proofs.Targeting.Reading
import FeatureFlags.Proofs.Text.Lowercase

namespace FeatureFlags.Targeting

/-!
# Literal occurrences

A comparison text is put into lower case alone, and the text of a field as a whole. So a
literal occurrence is found as long as each capital sigma of the comparison text takes the
same form in both: see `run_findsOccurrence`. One that ends a word in the comparison text, but
not in the field, hides the occurrence, and the field is said not to contain what it contains.
-/

open FeatureFlags.Text
  (KeepsSigmas keepsSigmas_of_apart keepsSigmas_of_not_mem lowercase lowercase_append_append
    lowerWithin lowerWithin_eq_lowercase_iff occursIn occursIn_eq_true_iff startsCased)

/-- What is known of the search for `needle` between `before` and `after`. -/
structure FindsOccurrence
    (before needle after : List Char)
    (found : Bool) :
    Prop where
  /-- An occurrence that keeps its sigmas is found. -/
  kept : KeepsSigmas before needle after → found = true
  /-- So is one without any capital sigma. -/
  plain : 'Σ' ∉ needle → found = true
  /-- So is one that no letter adjoins. -/
  apart : startsCased before.reverse = false → startsCased after = false → found = true
  /-- Any other is overlooked: what is found then begins at another place. -/
  elsewhere :
    ¬ KeepsSigmas before needle after →
      found = true →
      ∃ front back,
        lowercase (before ++ needle ++ after) = front ++ lowercase needle ++ back ∧
          front.length ≠ (lowerWithin [] (needle ++ after) before).length

theorem findsOccurrence (before needle after : List Char) :
    FindsOccurrence before needle after
      (occursIn (lowercase needle) (lowercase (before ++ needle ++ after))) := by
  have whole := lowercase_append_append before needle after
  have kept (keeps : KeepsSigmas before needle after) :
      occursIn (lowercase needle) (lowercase (before ++ needle ++ after)) = true := by
    rw [lowerWithin_eq_lowercase_iff.mpr keeps] at whole
    exact (occursIn_eq_true_iff _ _).mpr ⟨_, _, whole⟩
  constructor
  case kept =>
    exact kept
  case plain =>
    intro noSigma
    exact kept (keepsSigmas_of_not_mem noSigma before after)
  case apart =>
    intro apartBefore apartAfter
    exact kept (keepsSigmas_of_apart apartBefore apartAfter needle)
  case elsewhere =>
    intro notKept found
    obtain ⟨front, back, split⟩ := (occursIn_eq_true_iff _ _).mp found
    refine ⟨front, back, split, ?_⟩
    intro samePlace
    -- At the place of the occurrence both lower cases begin, and they are equally long.
    rw [split, List.append_assoc, List.append_assoc] at whole
    obtain ⟨-, fromThere⟩ := List.append_inj whole samePlace
    have sameLength :
        (lowercase needle).length = (lowerWithin before.reverse after needle).length := by
      rw [lowercase, Text.lowerAfter_eq_lowerWithin]
      exact Text.length_lowerWithin _ _ _ _ needle
    obtain ⟨sameLower, -⟩ := List.append_inj fromThere sameLength
    exact notKept (lowerWithin_eq_lowercase_iff.mp sameLower.symm)

/-- A field is searched for the only comparison value, unless that is empty. -/
theorem reads_mentions
    {fields : Fields}
    {name needle : String}
    {value : Value}
    (isPresent : fields.get? name = some value)
    (notEmpty : needle ≠ "")
    (now : Time.Instant) :
    Reads fields now (.context ⟨name, .contains, [needle]⟩) (mentions value [needle]) [] ∧
      Reads fields now (.context ⟨name, .notContains, [needle]⟩) (!mentions value [needle]) [] :=
  ⟨.compared ⟨needle, rfl, notEmpty⟩ isPresent rfl, .compared ⟨needle, rfl, notEmpty⟩ isPresent rfl⟩

/--
Where a field has a comparison text somewhere in its plain text, the search reports nothing,
and the opposite operator says the opposite. The search finds the text if its capital sigmas
keep their forms there, and otherwise only at another place, if at all.
-/
theorem run_findsOccurrence
    {before needle after name : String}
    {fields : Fields}
    {value : Value}
    (notEmpty : needle ≠ "")
    (isPresent : fields.get? name = some value)
    (occurs : value.toText = before ++ needle ++ after)
    (now : Time.Instant)
    (issues : List Issue) :
    let run (operator : FieldOperator) : Outcome :=
      (Condition.ofFilter (.context ⟨name, operator, [needle]⟩)).run fields now issues
    ∃ found,
      run .contains = (found, issues) ∧
        run .notContains = (!found, issues) ∧
        FindsOccurrence before.toList needle.toList after.toList found := by
  intro run
  obtain ⟨contains, notContains⟩ := reads_mentions isPresent notEmpty now
  have finds := findsOccurrence before.toList needle.toList after.toList
  rw [← String.toList_append, ← String.toList_append, ← occurs] at finds
  exact
    ⟨mentions value [needle], contains.run_silent issues, notContains.run_silent issues, finds⟩

/-- A word with a sigma at its end is found as a word of its own, here before a number. -/
theorem run_findsOccurrence_ownWord :
    let fields : Fields := Table.empty.insert "street" (.text "Η ΟΔΟΣ 7")
    let run (operator : FieldOperator) : Outcome :=
      (Condition.ofFilter (.context ⟨"street", operator, ["ΟΔΟΣ"]⟩)).run fields ⟨0, 0⟩ []
    (Value.text "Η ΟΔΟΣ 7").toText = "Η " ++ "ΟΔΟΣ" ++ " 7" ∧
      run .contains = (true, []) ∧
      run .notContains = (false, []) := by
  intro fields run
  have isPresent : fields.get? "street" = some (.text "Η ΟΔΟΣ 7") := Table.get?_insert_self _ _ _
  have occurs : (Value.text "Η ΟΔΟΣ 7").toText = "Η " ++ "ΟΔΟΣ" ++ " 7" := by decide
  obtain ⟨found, contains, notContains, finds⟩ :=
    run_findsOccurrence (by decide) isPresent occurs ⟨0, 0⟩ []
  have isFound : found = true := finds.apart (by decide +kernel) (by decide +kernel)
  subst isFound
  exact ⟨occurs, contains, notContains⟩

/-- Within a longer word the sigma is not a final one, and the occurrence is not found. -/
theorem not_findsEveryOccurrence :
    ¬ ∀ before needle after : String,
        needle ≠ "" →
        let fields : Fields := Table.empty.insert "title" (.text (before ++ needle ++ after))
        let run (operator : FieldOperator) : Outcome :=
          (Condition.ofFilter (.context ⟨"title", operator, [needle]⟩)).run fields ⟨0, 0⟩ []
        run .contains = (true, []) ∧ run .notContains = (false, []) := by
  intro findsAll
  obtain ⟨contains, -⟩ := findsAll "" "ΟΔΟΣ" "ΗΜΑΝΣΗ" (by decide)
  revert contains
  decide +kernel

end FeatureFlags.Targeting
