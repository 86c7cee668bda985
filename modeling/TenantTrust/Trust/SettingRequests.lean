import TenantTrust.Trust.ConfigurationStore
import TenantTrust.Trust.FloodControl
import TenantTrust.Trust.TemporalSmoothing
import TenantTrust.Trust.WeightedScore

/-! The administration services for trust configurations and for the safeguards of evidence
sources: what they accept, what they send to the database and how they confirm its answer. -/

namespace TenantTrust.Trust

open Library Identity

/-- What the services read of the context of the administrator. -/
structure AdministratorContext where
  tenantId : TenantId
  subjectId : SubjectId

/-- A draft as it is requested; seconds that are not an integer are missing. -/
structure DraftRequest where
  modelVersion : String
  initialScore : ScriptFloat
  smoothingAlpha : ScriptFloat
  maximumSourceInfluence : ScriptFloat
  staleAfterSeconds : Option Nat
  weights : Components ScriptFloat
  reasonCode : String

structure NormalizedDraft where
  model : TrustModelConfiguration
  initialScore : Binary64
  smoothingAlpha : Binary64
  maximumSourceInfluence : Binary64
  staleAfterSeconds : Nat
  reasonCode : String

def normalizeDraftRequest (input : DraftRequest) : Except String NormalizedDraft := do
  let maximumSourceInfluence ← requireSome input.maximumSourceInfluence "CONFIGURATION_INVALID"
  require (0 < maximumSourceInfluence.value ∧ maximumSourceInfluence.value ≤ 1)
    "CONFIGURATION_INVALID"
  let model ← (defineTrustModelConfiguration ⟨input.modelVersion, input.weights⟩).mapError
    fun _ => "CONFIGURATION_INVALID"
  let initialScore ← requireSome input.initialScore "CONFIGURATION_INVALID"
  let smoothingAlpha ← requireSome input.smoothingAlpha "CONFIGURATION_INVALID"
  let staleAfterSeconds ← requireSome input.staleAfterSeconds "CONFIGURATION_INVALID"
  let _ ← (defineTemporalTrustConfiguration initialScore.value smoothingAlpha.value
    staleAfterSeconds).mapError fun _ => "CONFIGURATION_INVALID"
  require (isReasonCode input.reasonCode) "REASON_CODE_INVALID"
  return ⟨model, initialScore, smoothingAlpha, maximumSourceInfluence, staleAfterSeconds,
    input.reasonCode⟩

/-- The numeric parameters of the statement, which the driver sends as texts. -/
def NormalizedDraft.parameters (draft : NormalizedDraft) : ConfigurationParameters where
  modelVersion := draft.model.modelVersion
  initialScore := written draft.initialScore
  smoothingAlpha := written draft.smoothingAlpha
  maximumSourceInfluence := written draft.maximumSourceInfluence
  staleAfterSeconds := draft.staleAfterSeconds
  weights := draft.model.weights.map written

/-- A row of the answer after `mapConfiguration`. -/
structure ConfigurationView where
  configurationVersion : Nat
  modelVersion : String
  state : ConfigurationState
  initialScore : Binary64
  smoothingAlpha : Binary64
  maximumSourceInfluence : Binary64
  staleAfterSeconds : ℤ
  weights : Components Binary64
  createdBySubjectId : SubjectId
  activatedAt : Option Instant
  supersededAt : Option Instant
  createdAt : Instant
  updatedAt : Instant
  deriving DecidableEq

/-- `Number(text)` of the columns that the driver returns as decimal texts. -/
def mapConfiguration (row : TrustConfigurationRow) : ConfigurationView where
  configurationVersion := row.configurationVersion
  modelVersion := row.parameters.modelVersion
  state := row.state
  initialScore := .ofRat row.parameters.initialScore
  smoothingAlpha := .ofRat row.parameters.smoothingAlpha
  maximumSourceInfluence := .ofRat row.parameters.maximumSourceInfluence
  staleAfterSeconds := row.parameters.staleAfterSeconds
  weights := row.parameters.weights.map .ofRat
  createdBySubjectId := row.createdBySubjectId
  activatedAt := row.activatedAt
  supersededAt := row.supersededAt
  createdAt := row.createdAt
  updatedAt := row.updatedAt

def validateConfiguration (value : ConfigurationView) : Except String ConfigurationView := do
  require (1 ≤ value.configurationVersion ∧
      (0 ≤ value.initialScore.value ∧ value.initialScore.value ≤ 100) ∧
      (0 < value.smoothingAlpha.value ∧ value.smoothingAlpha.value ≤ 1) ∧
      (0 < value.maximumSourceInfluence.value ∧ value.maximumSourceInfluence.value ≤ 1) ∧
      1 ≤ value.staleAfterSeconds)
    "CONFIGURATION_RESULT_INVALID"
  let _ ← (defineTrustModelConfiguration ⟨value.modelVersion, value.weights.map some⟩).mapError
    fun _ => "CONFIGURATION_RESULT_INVALID"
  return value

def validateDraftResult (value : ConfigurationView) (context : AdministratorContext)
    (expected : NormalizedDraft) : Except String ConfigurationView := do
  let result ← validateConfiguration value
  require (result.state = .draft ∧ result.createdBySubjectId = context.subjectId ∧
      result.modelVersion = expected.model.modelVersion ∧
      result.initialScore = expected.initialScore ∧
      result.smoothingAlpha = expected.smoothingAlpha ∧
      result.maximumSourceInfluence = expected.maximumSourceInfluence ∧
      result.staleAfterSeconds = expected.staleAfterSeconds ∧
      ∀ componentId ∈ trustComponentIds,
        result.weights.get componentId = expected.model.weights.get componentId)
    "CONFIGURATION_WRITE_UNCONFIRMED"
  return result

/-- The statement that a normalized draft is written with. -/
def NormalizedDraft.call (draft : NormalizedDraft) (session : Session) (tenantActive : Bool)
    (occurredAt : Instant) : DraftCall where
  session := session
  tenantActive := tenantActive
  parameters := draft.parameters
  reasonCode := draft.reasonCode
  occurredAt := occurredAt

structure SafeguardsRequest where
  sourceId : SourceId
  rateLimitWindowSeconds : Option Int
  rateLimitMaxEvents : Option Int
  rateLimitSuspensionThreshold : Option Int
  maximumInfluence : ScriptFloat

structure NormalizedSafeguards where
  sourceId : SourceId
  rateLimitWindowSeconds : Int
  rateLimitMaxEvents : Int
  rateLimitSuspensionThreshold : Int
  maximumInfluence : Binary64

def requireIntegerInRange (value : Option Int) (minimum maximum : Int) (reasonCode : String) :
    Except String Int := do
  let integer ← requireSome value reasonCode
  require (minimum ≤ integer ∧ integer ≤ maximum) reasonCode
  return integer

def normalizeSafeguardsRequest (input : SafeguardsRequest) :
    Except String NormalizedSafeguards := do
  let maximumInfluence ← requireSome input.maximumInfluence "MAXIMUM_INFLUENCE_INVALID"
  require ((Binary64.ofRat (1 / 10000)).value ≤ maximumInfluence.value ∧
      maximumInfluence.value ≤ 1) "MAXIMUM_INFLUENCE_INVALID"
  let window ← requireIntegerInRange input.rateLimitWindowSeconds 1 3600
    "RATE_LIMIT_WINDOW_INVALID"
  let maxEvents ← requireIntegerInRange input.rateLimitMaxEvents 1 100000
    "RATE_LIMIT_MAX_EVENTS_INVALID"
  let threshold ← requireIntegerInRange input.rateLimitSuspensionThreshold 1 1000
    "RATE_LIMIT_SUSPENSION_INVALID"
  return ⟨input.sourceId, window, maxEvents, threshold, maximumInfluence⟩

def NormalizedSafeguards.call (safeguards : NormalizedSafeguards) (occurredAt : Instant) :
    SafeguardsCall where
  sourceId := safeguards.sourceId
  rateLimitWindowSeconds := safeguards.rateLimitWindowSeconds
  rateLimitMaxEvents := safeguards.rateLimitMaxEvents
  rateLimitSuspensionThreshold := safeguards.rateLimitSuspensionThreshold
  maximumInfluence := written safeguards.maximumInfluence
  occurredAt := occurredAt

structure SafeguardsView where
  sourceId : SourceId
  sourceState : EvidenceSourceState
  sourceVersion : Nat
  rateLimitWindowSeconds : Int
  rateLimitMaxEvents : Int
  rateLimitSuspensionThreshold : Int
  maximumInfluence : Binary64
  deriving DecidableEq

/-- The answer of the repository from the returned row. -/
def mapSafeguards (source : EvidenceSource) : SafeguardsView where
  sourceId := source.sourceId
  sourceState := source.state
  sourceVersion := source.version
  rateLimitWindowSeconds := source.safeguards.rateLimitWindowSeconds
  rateLimitMaxEvents := source.safeguards.rateLimitMaxEvents
  rateLimitSuspensionThreshold := source.safeguards.rateLimitSuspensionThreshold
  maximumInfluence := .ofRat source.safeguards.maximumInfluence.value

def validateSafeguardsResult (result : SafeguardsView) (expected : NormalizedSafeguards) :
    Except String SafeguardsView := do
  require (result.sourceId = expected.sourceId ∧ result.sourceState ≠ .retired ∧
      2 ≤ result.sourceVersion ∧
      result.rateLimitWindowSeconds = expected.rateLimitWindowSeconds ∧
      result.rateLimitMaxEvents = expected.rateLimitMaxEvents ∧
      result.rateLimitSuspensionThreshold = expected.rateLimitSuspensionThreshold ∧
      result.maximumInfluence = expected.maximumInfluence)
    "REGISTRY_WRITE_UNCONFIRMED"
  return result

end TenantTrust.Trust
