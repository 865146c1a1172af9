import FeatureFlags.Feature.DefinitionReading
import FeatureFlags.Feature.Evaluated

namespace FeatureFlags.Feature

/-!
# Features evaluated by the backend

The records of a response with evaluated features, and the results that they
stand for.
-/

open FeatureFlags.Json (Document FieldReader Reader)
open FeatureFlags.Targeting (Issue)

/-- A config as the backend evaluated it. -/
structure RemoteConfig where
  key : Option String
  payload : Value
  version : Int64
  missing : Option (List String)
  results : Option (List Bool)

/-- A feature as the backend evaluated it. -/
structure RemoteFeature where
  key : String
  enabled : Bool
  version : Int64
  config : Option RemoteConfig
  missing : Option (List String)
  results : Option (List Bool)

/-- The content of a response with evaluated features. -/
structure RemoteFeatures where
  contextUsed : Bool
  features : List RemoteFeature

/-!
## Reading
-/

/-- A list of texts or null. -/
def readTexts : Reader (Option (List String)) :=
  .optional (.list .text)

/-- A list of booleans or null. -/
def readBools : Reader (Option (List Bool)) :=
  .optional (.list .bool)

/-- A config that is being read. -/
structure RemoteConfigDraft where
  key : Option (Option String) := none
  payload : Option Value := none
  version : Option Int64 := none
  missing : Option (Option (List String)) := none
  results : Option (Option (List Bool)) := none

/-- Read a config. -/
def readRemoteConfig : Reader RemoteConfig :=
  .record "RemoteConfig"
    [.into "key" true (·.key) (fun draft key => { draft with key := some key })
        (Reader.optional Reader.text),
      .into "payload" false (·.payload) (fun draft payload => { draft with payload })
        readValue,
      .into "version" false (·.version) (fun draft version => { draft with version })
        Reader.signed,
      .into "missingContextFields" true (·.missing)
        (fun draft missing => { draft with missing := some missing }) readTexts,
      .into "ruleEvaluationResults" true (·.results)
        (fun draft results => { draft with results := some results }) readBools]
    { : RemoteConfigDraft }
    fun draft =>
      return {
        key := draft.key.join
        payload := draft.payload.getD .null
        version := draft.version.getD 0
        missing := draft.missing.join
        results := draft.results.join }

/-- A feature that is being read. -/
structure RemoteFeatureDraft where
  key : Option String := none
  enabled : Option Bool := none
  version : Option Int64 := none
  config : Option (Option RemoteConfig) := none
  missing : Option (Option (List String)) := none
  results : Option (Option (List Bool)) := none

/-- Read a feature. -/
def readRemoteFeature : Reader RemoteFeature :=
  .record "RemoteFeature"
    [.into "key" true (·.key) (fun draft key => { draft with key }) Reader.text,
      .into "isEnabled" true (·.enabled) (fun draft enabled => { draft with enabled })
        Reader.bool,
      .into "targetingVersion" false (·.version) (fun draft version => { draft with version })
        Reader.signed,
      .into "config" true (·.config) (fun draft config => { draft with config := some config })
        (Reader.optional readRemoteConfig),
      .into "missingContextFields" true (·.missing)
        (fun draft missing => { draft with missing := some missing }) readTexts,
      .into "ruleEvaluationResults" true (·.results)
        (fun draft results => { draft with results := some results }) readBools]
    { : RemoteFeatureDraft }
    fun draft => do
      let key ← Reader.present "key" draft.key
      let enabled ← Reader.present "isEnabled" draft.enabled
      return {
        key
        enabled
        version := draft.version.getD 0
        config := draft.config.join
        missing := draft.missing.join
        results := draft.results.join }

/-- A response that is being read. -/
structure RemoteFeaturesDraft where
  success : Option Bool := none
  contextUsed : Option Bool := none
  features : Option (List RemoteFeature) := none

/-- Read a response with evaluated features: whether it was successful, and its content. -/
def readRemoteFeatures : Reader (Bool × RemoteFeatures) :=
  .record "EvaluatedFeaturesResponse"
    [.into "success" true (·.success) (fun draft success => { draft with success })
        Reader.bool,
      .into "remoteContextUsed" false (·.contextUsed)
        (fun draft contextUsed => { draft with contextUsed }) Reader.bool,
      .into "features" false (·.features) (fun draft features => { draft with features })
        (Reader.list readRemoteFeature)]
    { : RemoteFeaturesDraft }
    fun draft => do
      let success ← Reader.present "success" draft.success
      return (success, ⟨draft.contextUsed.getD false, draft.features.getD []⟩)

/-- The content of a response text with evaluated features. -/
def remoteFeaturesOfText (text : String) : Except ResponseError RemoteFeatures :=
  successful ((Document.ofText text).readWith (readRemoteFeatures (.text Json.nestingLimit)))

/-!
## Results
-/

/-- The trace of rules that the backend evaluated. -/
def remoteTrace
    (version : Int64)
    (missing : Option (List String))
    (results : Option (List Bool)) :
    Trace where
  version := version
  results := results.getD []
  issues := (missing.getD []).map .missing

namespace RemoteConfig

/-- The selected config, if a variant was selected. -/
def toConfig? (config : RemoteConfig) : Option Config :=
  config.key.map fun key => ⟨key, config.payload⟩

end RemoteConfig

namespace RemoteFeature

/-- The result for the fields that were sent to the backend. -/
def toEvaluated
    (feature : RemoteFeature)
    (fields : Fields) :
    Evaluated where
  key := feature.key
  enabled := feature.enabled
  config := feature.config.bind (·.toConfig?)
  targeting := some (remoteTrace feature.version feature.missing feature.results)
  configTrace := feature.config.map fun config =>
    remoteTrace config.version config.missing config.results
  context := some fields

end RemoteFeature

end FeatureFlags.Feature
