import FeatureFlags.Number.Binary64

namespace FeatureFlags.Json

/-!
# JSON trees

A whole JSON value. Integers that fit a machine word of either sign stay
integers; every other number is a double-precision one. Objects keep the order
and the repetitions of their entries.
-/

/-- The smallest integer that a signed word holds. -/
def lowestSigned : Int := -9223372036854775808

/-- The largest integer that a signed word holds. -/
def highestSigned : Int := 9223372036854775807

/-- The largest natural that an unsigned word holds. -/
def highestUnsigned : Nat := 18446744073709551615

/-- Whether an integer fits a signed word. -/
def FitsSigned (n : Int) : Prop :=
  lowestSigned ≤ n ∧ n ≤ highestSigned

instance (n : Int) : Decidable (FitsSigned n) :=
  inferInstanceAs (Decidable (_ ∧ _))

/-- A JSON value. -/
inductive Tree where
  | null
  | bool (value : Bool)
  | integer (value : Int)
  | float (value : Number.Binary64)
  | text (value : String)
  | array (items : List Tree)
  | object (entries : List (String × Tree))

instance : Inhabited Tree := ⟨.null⟩

end FeatureFlags.Json
