import FeatureFlags.Address.Basic
import FeatureFlags.Failure
import FeatureFlags.Feature.Local
import FeatureFlags.Text.Blank

namespace FeatureFlags

/-!
# Settings

What a client is configured with. A draft leaves out whatever shall have its
default; it becomes settings once it has been checked. The checks are made in the
order of the settings, and the first that fails is reported.
-/

/-- Where features are evaluated. -/
inductive Mode where
  /-- Only local features, and no traffic at all. -/
  | offline
  /-- Definitions are downloaded and evaluated by the client. -/
  | localEvaluation
  /-- Every evaluation is left to the backend. -/
  | remoteEvaluation
deriving DecidableEq, Repr

/-- Settings as they are asked for; durations are in milliseconds. -/
structure SettingsDraft where
  secretKey : String
  baseUrl : Option String := none
  mode : Option Mode := none
  requestTimeout : Option Nat := none
  maxMessages : Option Nat := none
  flushInterval : Option Nat := none
  rollingWindow : Option Nat := none
  refreshInterval : Option Nat := none
  staleAge : Option Nat := none
  resolvers : List Feature.Resolver := []

/-- Checked settings; durations are in milliseconds. -/
structure Settings where
  secretKey : String
  baseUrl : String
  mode : Mode
  /-- How long a request may take. -/
  requestTimeout : Nat
  /-- How many queued messages are sent at once. -/
  maxMessages : Nat
  /-- How long queued messages wait at most. -/
  flushInterval : Nat
  /-- Within which time equal messages are sent only once. -/
  rollingWindow : Nat
  /-- How often definitions are downloaded. -/
  refreshInterval : Nat
  /-- From which age on definitions are reported as stale. -/
  staleAge : Nat
  resolvers : List Feature.Resolver
  requestTimeout_pos : 0 < requestTimeout
  maxMessages_pos : 0 < maxMessages
  flushInterval_pos : 0 < flushInterval
  rollingWindow_pos : 0 < rollingWindow
  refreshInterval_pos : 0 < refreshInterval
  staleAge_pos : 0 < staleAge

namespace SettingsDraft

/-- The address of the backend unless another one is asked for. -/
def defaultBaseUrl : String := "https://front.bucket.co"

/-- A number that must be positive, or its default. -/
def positive
    (asked : Option Nat)
    (standard : { n : Nat // 0 < n })
    (name : String) :
    Except Failure { n : Nat // 0 < n } :=
  match asked with
  | none => .ok standard
  | some value =>
      if isPositive : 0 < value then
        .ok ⟨value, isPositive⟩
      else
        .error (.invalidConfiguration s!"{name} must be positive")

/-- A secret key, which may be blank only when there is no traffic. -/
def checkSecretKey
    (mode : Mode)
    (secretKey : String) :
    Except Failure Unit :=
  if (Text.trim secretKey.toList).isEmpty ∧ mode ≠ .offline then
    .error { kind := .invalidSecretKey, message := "Secret key cannot be empty" }
  else
    .ok ()

/-- The address of the backend, which must be absolute. -/
def checkBaseUrl (baseUrl : String) : Except Failure Unit :=
  match Address.ofText baseUrl with
  | .ok _ => .ok ()
  | .error fault =>
      .error (.invalidConfiguration s!"Base URL '{baseUrl}' is invalid. ({fault.message})")

/-- Check a draft and fill in the defaults. -/
def check (draft : SettingsDraft) : Except Failure Settings := do
  let mode := draft.mode.getD .localEvaluation
  checkSecretKey mode draft.secretKey
  let baseUrl := draft.baseUrl.getD defaultBaseUrl
  checkBaseUrl baseUrl
  let requestTimeout ← positive draft.requestTimeout ⟨10000, by decide⟩ "HTTP timeout"
  let maxMessages ← positive draft.maxMessages ⟨100, by decide⟩ "Output max messages"
  let flushInterval ← positive draft.flushInterval ⟨10000, by decide⟩ "Output flush interval"
  let rollingWindow ← positive draft.rollingWindow ⟨60000, by decide⟩ "Output rolling window"
  let refreshInterval ←
    positive draft.refreshInterval ⟨60000, by decide⟩ "Features refresh interval"
  let staleAge ← positive draft.staleAge ⟨600000, by decide⟩ "Features stale age"
  return {
    secretKey := draft.secretKey
    baseUrl
    mode
    requestTimeout := requestTimeout.1
    maxMessages := maxMessages.1
    flushInterval := flushInterval.1
    rollingWindow := rollingWindow.1
    refreshInterval := refreshInterval.1
    staleAge := staleAge.1
    resolvers := draft.resolvers
    requestTimeout_pos := requestTimeout.2
    maxMessages_pos := maxMessages.2
    flushInterval_pos := flushInterval.2
    rollingWindow_pos := rollingWindow.2
    refreshInterval_pos := refreshInterval.2
    staleAge_pos := staleAge.2 }

end SettingsDraft

end FeatureFlags
