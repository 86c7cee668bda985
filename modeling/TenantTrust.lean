import TenantTrust.Identity.LifecycleInvariant
import TenantTrust.Identity.CertificateRetries
import TenantTrust.Library.Json
import TenantTrust.Trust.Vocabulary
import TenantTrust.Trust.ConsumptionRuns
import TenantTrust.Orchestration.QueueConsistency
import TenantTrust.Orchestration.RestrictionPrecedence
import TenantTrust.Orchestration.PostureAgreement
import TenantTrust.Orchestration.RenewalBlock
import TenantTrust.Api.Suspension
import TenantTrust.Library.Decimal
import TenantTrust.Library.Scientific
import TenantTrust.Library.NumberText
import TenantTrust.Library.ScriptString
import TenantTrust.Library.Utf8
import TenantTrust.Library.ByteText
import TenantTrust.Library.JsonValue
import TenantTrust.Library.JsonText
import TenantTrust.Library.MessageStream
import TenantTrust.Orchestration.InvalidationCoverage
import TenantTrust.Orchestration.InvalidationMarker
import TenantTrust.Trust.FeedbackRedelivery
import TenantTrust.Orchestration.RecoveryReplay
import TenantTrust.Trust.FloodDecisions
import TenantTrust.Trust.EvidenceTravel
import TenantTrust.Trust.PublicationSafety
import TenantTrust.Trust.MemoryGuardAgreement
import TenantTrust.Trust.CanonicalJson
import TenantTrust.Trust.EvidenceStorage
import TenantTrust.Trust.StoredRoundTrip
import TenantTrust.Audit.LedgerImmutability
import TenantTrust.Trust.SuspensionHolds
import TenantTrust.Identity.LastAdministrator
import TenantTrust.Api.StepUpSafety
import TenantTrust.Trust.InfluenceBounds
import TenantTrust.Trust.PollingIndependence
import TenantTrust.Orchestration.RevocationCorroboration
import TenantTrust.Audit.CausalHistory
import TenantTrust.Trust.ExactScore
import TenantTrust.Identity.TenantControl
import TenantTrust.Trust.ConfigurationHistory
import TenantTrust.Trust.StoredSettings
import TenantTrust.Orchestration.SeverityReplay
import TenantTrust.Evaluation.ReportSoundness
import TenantTrust.Policy.DecisionExactness
import TenantTrust.Trust.StaleEvidence
import TenantTrust.Api.SerializedRequests
import TenantTrust.Api.RecordScope
import TenantTrust.Policy.BundleAcceptance
import TenantTrust.Policy.BundleHistories
import TenantTrust.Policy.BundleLookups
