import FeatureFlags.Context
import FeatureFlags.Feature.Evaluated

namespace FeatureFlags.Feature

/-!
# Locally decided features

Resolvers decide features without the backend. Their results are merged over the
others in the order of the resolvers: a feature that nobody knows yet is added,
and a known one is only replaced by a result that says so.
-/

/-- A source of locally decided features; it may fail with a text. -/
abbrev Resolver := Context → Except String (List Evaluated)

/-- One consultation of a resolver. -/
structure Consultation where
  resolver : Resolver
  context : Context

/-- Consult a resolver; it is noted after the consultations so far that this was done. -/
def Resolver.consult
    (resolver : Resolver)
    (context : Context)
    (consultations : List Consultation) :
    List Consultation × Except String (List Evaluated) :=
  (consultations ++ [⟨resolver, context⟩], resolver context)

/-- Features that are the same for every context. -/
structure FixedFeatures where
  features : Table Evaluated := .empty

namespace FixedFeatures

/-- Enabled and disabled features by key; the last flag of a key counts. -/
def ofFlags (flags : List (String × Bool)) : FixedFeatures :=
  ⟨.ofList (flags.map fun flag => (flag.1, { key := flag.1, enabled := flag.2 }))⟩

/-- The features of a list; the last feature of a key counts. -/
def ofFeatures (features : List Evaluated) : FixedFeatures :=
  ⟨.ofList (features.map fun feature => (feature.key, feature))⟩

/-- Let every feature so far replace a result of the same key. -/
def overriding (fixed : FixedFeatures) : FixedFeatures :=
  ⟨fixed.features.map fun _ feature => { feature with overridden := true }⟩

/-- Attach a config to a feature, which is added as a disabled one if it is new. -/
def withConfig
    (fixed : FixedFeatures)
    (key : String)
    (config : Config) :
    FixedFeatures :=
  let feature := (fixed.features.get? key).getD { key, enabled := false }
  ⟨fixed.features.insert key { feature with config := some config }⟩

/-- The features in the order of their keys. -/
def toList (fixed : FixedFeatures) : List Evaluated :=
  fixed.features.values

/-- The resolver that always gives these features. -/
def resolver (fixed : FixedFeatures) : Resolver := fun _ =>
  .ok fixed.toList

end FixedFeatures

/-- Merge one locally decided feature over the features so far. -/
def mergeOne
    (fields : Fields)
    (features : Table Evaluated)
    (feature : Evaluated) :
    Table Evaluated :=
  match features.get? feature.key with
  | none => features.insert feature.key { feature with context := some fields }
  | some known =>
      if feature.overridden then
        features.insert feature.key
          { known with
            enabled := feature.enabled
            config := feature.config
            overridden := true }
      else
        features

/-- Merge the features of one resolver over the features so far. -/
def mergeAll
    (fields : Fields)
    (features : Table Evaluated)
    (decided : List Evaluated) :
    Table Evaluated :=
  decided.foldl (mergeOne fields) features

/--
Consult all resolvers in order and merge their features; the first that fails ends this. The
consultations are noted after those so far.
-/
def resolveAll
    (context : Context)
    (fields : Fields) :
    List Resolver → List Consultation → Table Evaluated →
      List Consultation × Except String (Table Evaluated)
  | [], consultations, features => (consultations, .ok features)
  | resolver :: rest, consultations, features =>
      match resolver.consult context consultations with
      | (consultations, .ok decided) =>
          resolveAll context fields rest consultations (mergeAll fields features decided)
      | (consultations, .error reason) => (consultations, .error reason)

end FeatureFlags.Feature
