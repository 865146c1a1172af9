namespace FeatureFlags

/-!
# Moments

Moments are counted in milliseconds since the start. They order what happens, and
are unrelated to calendar time.
-/

/-- A point in time, in milliseconds since the start. -/
abbrev Moment := Nat

end FeatureFlags
