namespace FeatureFlags.Targeting

/-!
# Evaluation issues

Problems that an evaluation meets and survives.
-/

/-- The kind of a problem. -/
inductive IssueKind where
  /-- A field that a filter refers to is absent. -/
  | missingField
  /-- A field has not the type that an operator needs. -/
  | invalidFieldType
  /-- A filter or its operator is unknown or malformed. -/
  | unsupportedFilter
deriving DecidableEq

/-- A problem with a field, or with a filter of a named kind. -/
structure Issue where
  kind : IssueKind
  subject : String
deriving DecidableEq

namespace IssueKind

/-- The wording of a kind. -/
def describe : IssueKind → String
  | .missingField => "missing field"
  | .invalidFieldType => "invalid field type"
  | .unsupportedFilter => "unsupported filter"

end IssueKind

namespace Issue

/-- The wording of an issue. -/
def describe (issue : Issue) : String :=
  issue.kind.describe ++ " '" ++ issue.subject ++ "'"

/-- A field that is absent. -/
def missing (field : String) : Issue := ⟨.missingField, field⟩

/-- A field of the wrong type. -/
def invalid (field : String) : Issue := ⟨.invalidFieldType, field⟩

/-- A filter of a kind that cannot be evaluated. -/
def unsupported (kind : String) : Issue := ⟨.unsupportedFilter, kind⟩

end Issue

/-- The fields that issues report as absent, in order. -/
def missingFields (issues : List Issue) : List String :=
  (issues.filter fun issue => issue.kind = .missingField).map (·.subject)

end FeatureFlags.Targeting
