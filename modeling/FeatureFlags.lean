import FeatureFlags.Text.Blank
import FeatureFlags.Text.Lowercase
import FeatureFlags.Text.Occurrence
import FeatureFlags.Text.Quoted
import FeatureFlags.Number.Numeral
import FeatureFlags.Number.Decimal
import FeatureFlags.Time.Reading
import FeatureFlags.Rollout
import FeatureFlags.Table
import FeatureFlags.Json.Numeral
import FeatureFlags.Json.Quotation
import FeatureFlags.Json.Reading
import FeatureFlags.Json.Writing
import FeatureFlags.Value.Coercion
import FeatureFlags.Context
import FeatureFlags.Targeting.FilterReading
import FeatureFlags.Feature.Evaluation
import FeatureFlags.Feature.Remote
import FeatureFlags.Feature.Local
import FeatureFlags.Telemetry.Outbox
import FeatureFlags.Settings
import FeatureFlags.Ticker.Scripted
import FeatureFlags.Transport.Calls
import FeatureFlags.Client.Task
import FeatureFlags.Proofs.Telemetry.OutboxRun
import FeatureFlags.Proofs.Targeting.Reading
import FeatureFlags.Proofs.Feature.Merging
import FeatureFlags.Proofs.Feature.FixedFeatures
import FeatureFlags.Proofs.Feature.RemoteWriting
import FeatureFlags.Proofs.Feature.ForwardCompatibility
import FeatureFlags.Proofs.Ticker.Sharing
import FeatureFlags.Proofs.Ticker.Freshness
import FeatureFlags.Proofs.Ticker.Latest
import FeatureFlags.Proofs.Ticker.Disposal
import FeatureFlags.Proofs.Ticker.Intervals
import FeatureFlags.Proofs.Ticker.Worlds
import FeatureFlags.Proofs.Client.Worlds
import FeatureFlags.Proofs.Client.Delivery
import FeatureFlags.Proofs.Client.Ordering
import FeatureFlags.Proofs.Client.Confinement
import FeatureFlags.Proofs.Client.Flushing
import FeatureFlags.Proofs.Client.Pacing
import FeatureFlags.Proofs.Transport.Cancellation
import FeatureFlags.Proofs.Client.Disposal
import FeatureFlags.Proofs.Client.Answering
import FeatureFlags.Proofs.Value.RoundTrip
import FeatureFlags.Proofs.Telemetry.Identity
import FeatureFlags.Proofs.Feature.IndependentRules
import FeatureFlags.Proofs.Feature.MissingFields
import FeatureFlags.Proofs.Feature.Noninterference
import FeatureFlags.Proofs.Targeting.Rewriting
import FeatureFlags.Proofs.Feature.GradualRollout
import FeatureFlags.Proofs.Rollout
import FeatureFlags.Proofs.Targeting.Numbers
import FeatureFlags.Proofs.Targeting.Opposites
import FeatureFlags.Proofs.Targeting.Occurrences
import FeatureFlags.Proofs.Number.Spelling
import FeatureFlags.Proofs.Context
import FeatureFlags.Proofs.Time.Order
import FeatureFlags.Proofs.Targeting.Dates
import FeatureFlags.Proofs.Telemetry.Updates
import FeatureFlags.Proofs.Transport.Classification
import FeatureFlags.Proofs.Transport.Outcomes
import FeatureFlags.Proofs.Client.Reporting
import FeatureFlags.Proofs.Client.FeatureSide
import FeatureFlags.Proofs.Client.Parallel
import FeatureFlags.Proofs.Client.Agreement
