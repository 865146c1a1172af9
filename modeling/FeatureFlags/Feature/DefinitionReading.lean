import FeatureFlags.Feature.Definition
import FeatureFlags.Feature.Response
import FeatureFlags.Targeting.FilterReading
import FeatureFlags.Value.Document

namespace FeatureFlags.Feature

/-!
# Reading feature definitions

The records of which a response with feature definitions is made. Fields that are
not known are skipped, lists may be left out when they are empty, and a config may
be null or left out.
-/

open FeatureFlags.Json (Document FieldReader Reader)
open FeatureFlags.Targeting (Filter readFilter)

/-- A payload or another free value. -/
def readValue : Reader Value := fun source node =>
  Value.ofTree <$> Reader.tree source node

/-- A targeting rule, which is its filter. -/
def readRule : Reader Filter :=
  .record "TargetingRule"
    [.into "filter" true id (fun _ filter => some filter) readFilter]
    (none : Option Filter)
    (Reader.present "filter")

/-- Targeting rules that are being read. -/
structure TargetingDraft where
  version : Option Int64 := none
  rules : Option (List Filter) := none

/-- Read targeting rules. -/
def readTargeting : Reader TargetingRules :=
  .record "Targeting"
    [.into "version" true (·.version) (fun draft version => { draft with version })
        Reader.signed,
      .into "rules" false (·.rules) (fun draft rules => { draft with rules })
        (Reader.list readRule)]
    { : TargetingDraft }
    fun draft => do
      let version ← Reader.present "version" draft.version
      return ⟨version, draft.rules.getD []⟩

/-- A variant that is being read. -/
structure VariantDraft where
  filter : Option Filter := none
  key : Option String := none
  payload : Option Value := none

/-- Read a variant. -/
def readVariant : Reader Variant :=
  .record "ConfigVariant"
    [.into "filter" true (·.filter) (fun draft filter => { draft with filter }) readFilter,
      .into "key" true (·.key) (fun draft key => { draft with key }) Reader.text,
      .into "payload" false (·.payload) (fun draft payload => { draft with payload })
        readValue]
    { : VariantDraft }
    fun draft => do
      let filter ← Reader.present "filter" draft.filter
      let key ← Reader.present "key" draft.key
      return ⟨filter, key, draft.payload.getD .null⟩

/-- Config rules that are being read. -/
structure ConfigDraft where
  version : Option Int64 := none
  variants : Option (List Variant) := none

/-- Read config rules. -/
def readConfig : Reader ConfigRules :=
  .record "ConfigDefinition"
    [.into "version" true (·.version) (fun draft version => { draft with version })
        Reader.signed,
      .into "variants" false (·.variants) (fun draft variants => { draft with variants })
        (Reader.list readVariant)]
    { : ConfigDraft }
    fun draft => do
      let version ← Reader.present "version" draft.version
      return ⟨version, draft.variants.getD []⟩

/-- A definition that is being read. -/
structure DefinitionDraft where
  key : Option String := none
  targeting : Option TargetingRules := none
  config : Option (Option ConfigRules) := none

/-- Read a definition. -/
def readDefinition : Reader Definition :=
  .record "FeatureDefinition"
    [.into "key" true (·.key) (fun draft key => { draft with key }) Reader.text,
      .into "targeting" true (·.targeting) (fun draft targeting => { draft with targeting })
        readTargeting,
      .into "config" true (·.config) (fun draft config => { draft with config := some config })
        (Reader.optional readConfig)]
    { : DefinitionDraft }
    fun draft => do
      let key ← Reader.present "key" draft.key
      let targeting ← Reader.present "targeting" draft.targeting
      return ⟨key, targeting, draft.config.join⟩

/-- A response that is being read. -/
structure DefinitionsDraft where
  success : Option Bool := none
  features : Option (List Definition) := none

/-- Read a response with definitions: whether it was successful, and the definitions. -/
def readDefinitions : Reader (Bool × List Definition) :=
  .record "FeaturesResponse"
    [.into "success" true (·.success) (fun draft success => { draft with success })
        Reader.bool,
      .into "features" false (·.features) (fun draft features => { draft with features })
        (Reader.list readDefinition)]
    { : DefinitionsDraft }
    fun draft => do
      let success ← Reader.present "success" draft.success
      return (success, draft.features.getD [])

/-- The definitions of a response text. -/
def definitionsOfText (text : String) : Except ResponseError (List Definition) :=
  successful ((Document.ofText text).readWith (readDefinitions (.text Json.nestingLimit)))

end FeatureFlags.Feature
