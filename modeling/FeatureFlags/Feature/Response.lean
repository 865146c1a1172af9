import FeatureFlags.Json.Fault

namespace FeatureFlags.Feature

/-!
# Backend responses

A response is a record that says whether it was successful; only then does the
rest of it count.
-/

/-- Why a response has no content. -/
inductive ResponseError where
  | malformed (fault : Json.Fault)
  | unsuccessful

namespace ResponseError

/-- The wording of a cause. -/
def message : ResponseError → String
  | .malformed fault => "JSON parsing failed. (" ++ fault.message ++ ")"
  | .unsuccessful => "The response reported `success: false`."

end ResponseError

/-- The content of a response that was read, given whether it was successful. -/
def successful
    (response : Except Json.Fault (Bool × α)) :
    Except ResponseError α :=
  match response with
  | .ok (true, content) => .ok content
  | .ok (false, _) => .error .unsuccessful
  | .error fault => .error (.malformed fault)

end FeatureFlags.Feature
