import FeatureFlags.Proofs.Feature.IndependentRules
import FeatureFlags.Proofs.Table
import FeatureFlags.Proofs.Targeting.Agreement

namespace FeatureFlags.Feature

/-!
# Noninterference

What a feature evaluates to rests on the fields that its definition names and on nothing
else: `evaluate_of_agreeOn_references`. No other field can show in a result, in the trace
of the rules or in the issues that are reported.
-/

open FeatureFlags.Targeting (AgreeOn Filter)

/-- The fields that the comparisons and the rollouts of a definition name. -/
def Definition.references (definition : Definition) : List String :=
  definition.filters.flatMap Filter.references

namespace Prepared

/--
Two field maps may hold different values, also of different types, and any other fields: as
long as no filter of the definition can tell apart what they hold under the names that the
definition refers to, it evaluates to the same, but for the fields that the result carries.
-/
theorem evaluate_of_agreeOn_references
    (definition : Definition)
    (now : Time.Instant)
    {fields others : Fields}
    (agree : AgreeOn definition.references fields others) :
    (ofDefinition definition).evaluate others now =
      { (ofDefinition definition).evaluate fields now with context := some others } := by
  refine evaluate_congr definition fun filter member => filter.alone_of_lookLikeOn now ?_
  exact agree.lookLikeOn.mono fun name named => List.mem_flatMap.mpr ⟨filter, member, named⟩

/--
A user is evaluated alike with the age as a number and as a text, with and without an email.
The role is absent on both sides, which is the only issue.
-/
theorem evaluate_withoutEmail :
    let definition : Definition :=
      ⟨"export",
        ⟨1, [.context ⟨"user.age", .greaterThan, ["17.5"]⟩,
          .negation (.context ⟨"user.role", .is, ["guest"]⟩)]⟩,
        some ⟨2, [⟨.rollout ⟨"new-checkout", "user.id", 30000⟩, "large", .bool true⟩]⟩⟩
    let fields : Fields :=
      .ofList
        [("user.id", .text "user-1"), ("user.age", .integer 42), ("user.email", .text "a@b.c")]
    let others : Fields := .ofList [("user.id", .text "user-1"), ("user.age", .text "42")]
    AgreeOn definition.references fields others ∧
      ((ofDefinition definition).evaluate fields ⟨0, 0⟩).config.map (·.key) = some "large" ∧
      ((ofDefinition definition).evaluate fields ⟨0, 0⟩).issues = [.missing "user.role"] ∧
      (ofDefinition definition).evaluate others ⟨0, 0⟩ =
        { (ofDefinition definition).evaluate fields ⟨0, 0⟩ with context := some others } := by
  intro definition fields others
  have ageAlike : (Value.integer 42).Alike (.text "42") :=
    ⟨by decide, by decide +kernel, by decide +kernel, by decide +kernel⟩
  have agree : AgreeOn definition.references fields others := by
    have references : definition.references = ["user.age", "user.role", "user.id"] := rfl
    intro name member
    rw [references, List.mem_cons, List.mem_cons, List.mem_singleton] at member
    rcases member with rfl | rfl | rfl
    · exact .some ageAlike
    · exact .none
    · exact .some (.refl _)
  exact
    ⟨agree, by decide +kernel, by decide +kernel,
      evaluate_of_agreeOn_references definition ⟨0, 0⟩ agree⟩

end Prepared

end FeatureFlags.Feature
