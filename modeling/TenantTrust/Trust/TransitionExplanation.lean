import TenantTrust.Library.ScriptString
import TenantTrust.Trust.TemporalSmoothing
import TenantTrust.Trust.TransitionControls
import TenantTrust.Trust.WeightedScore

/-! The trust service's explanation of a transition: the weighted score of one state version,
smoothed over time and passed through the transition controls. -/

namespace TenantTrust.Trust

open Library Identity

abbrev TransitionId := Identifier .transition

/-- `PRODUCER_SERVICE` -/
def isProducerService : String → Bool :=
  matchesPattern Char.isLower (fun c => c.isLower || c.isDigit || c = '-') 1 62

structure Producer where
  service : String
  instanceId : ScriptString
  deriving DecidableEq

def normalizeProducer (value : Producer) : Except String Producer := do
  require (isProducerService value.service ∧ 1 ≤ value.instanceId.length ∧
    value.instanceId.length ≤ 128) "TRUST_EVENT_PRODUCER_INVALID"
  return value

structure TransitionConfigurationValue where
  modelVersion : String
  configurationVersion : ℕ
  initialScore : ℚ
  smoothingAlpha : ℚ
  staleAfterSeconds : ℕ
  weights : Components ScriptFloat
  deriving DecidableEq

def TransitionConfigurationValue.model (value : TransitionConfigurationValue) :
    TrustModelConfigurationValue := ⟨value.modelVersion, value.weights⟩

structure TransitionConfiguration where
  configurationVersion : ℕ
  model : TrustModelConfigurationValue
  temporal : TemporalTrustConfiguration

/-- `normalizeConfiguration` -/
def normalizeTransitionConfiguration (value : TransitionConfigurationValue) :
    Except String TransitionConfiguration := do
  let invalid := "TRUST_CONFIGURATION_INVALID"
  require (isModelVersion value.modelVersion ∧ 1 ≤ value.configurationVersion) invalid
  let _ ← (defineTrustModelConfiguration value.model).mapError fun _ => invalid
  let temporal ← (defineTemporalTrustConfiguration value.initialScore value.smoothingAlpha
    value.staleAfterSeconds).mapError fun _ => invalid
  return ⟨value.configurationVersion, value.model, temporal⟩

def normalizeReferences (value : List EvidenceReference) :
    Except String (List EvidenceReference) := do
  require (value.length = trustComponentIds.length ∧
      (value.map EvidenceReference.evidenceType).Nodup ∧
      (value.map EvidenceReference.evidenceId).Nodup ∧
      (value.map EvidenceReference.sourceEventId).Nodup)
    "EVIDENCE_REFERENCE_SET_INVALID"
  return trustComponentIds.filterMap (referenceByType value)

/-- The transition that a caller names as the one before. -/
structure PreviousTransition where
  transitionId : TransitionId
  updateVersion : ℕ
  score : ℚ
  band : TrustBand
  recoveryStreak : ℤ
  temporalState : TemporalState
  deriving DecidableEq, Repr

def PreviousTransition.control (previous : PreviousTransition) : ControlStateValue :=
  ⟨some previous.score, some previous.band, previous.recoveryStreak⟩

structure TransitionInput where
  tenantId : TenantId
  subjectId : SubjectId
  updateVersion : ℕ
  correlationId : CorrelationId
  causationId : EvidenceEventId
  components : Components ScriptFloat
  evidenceReferences : List EvidenceReference
  configuration : TransitionConfigurationValue
  observedAt : Timestamp
  source : SourceValue
  criticalEvidence : Option CriticalEvidenceValue
  deriving DecidableEq

/-- A state in an explanation; before the first transition the band is `uninitialized`. -/
structure TransitionState where
  transitionId : Option TransitionId
  updateVersion : Option ℕ
  score : ℚ
  band : Option TrustBand
  recoveryStreak : ℤ
  temporalState : Option TemporalState
  deriving DecidableEq, Repr

structure NewState where
  score : ℚ
  band : TrustBand
  recoveryStreak : ℕ
  temporalState : TemporalState
  deriving DecidableEq, Repr

structure TrustExplanation where
  transitionId : TransitionId
  tenantId : TenantId
  subjectId : SubjectId
  updateVersion : ℕ
  modelVersion : String
  configurationVersion : ℕ
  observedAt : Timestamp
  evaluatedAt : Timestamp
  previousState : TransitionState
  newState : NewState
  evidenceReferences : List EvidenceReference
  weightedScore : Binary64
  contributions : List ContributionRecord
  temporalCalculation : SmoothingResult
  transitionControl : TransitionControlResult
  deriving DecidableEq

structure TrustEvent where
  eventId : EventId
  tenantId : TenantId
  subjectId : SubjectId
  aggregateId : TransitionId
  correlationId : CorrelationId
  causationId : EvidenceEventId
  occurredAt : Timestamp
  producer : Producer
  previousScore : ℚ
  newScore : ℚ
  previousBand : Option TrustBand
  newBand : TrustBand
  modelVersion : String
  configurationVersion : ℕ
  evidenceIds : List EvidenceId
  explanationHashSha256 : Sha256Digest
  deriving DecidableEq

/-- The SHA-256 of the canonical text of a document. -/
structure TransitionDigests where
  explanation : TrustExplanation → Sha256Digest
  event : TrustEvent → Sha256Digest

structure ExplanationCall where
  transitionId : TransitionId
  eventId : EventId
  producer : Producer
  evaluatedAt : Timestamp
  input : TransitionInput
  previousTransition : Option PreviousTransition
  deriving DecidableEq

/-- The documents of a transition with their digests. -/
structure TransitionDocuments where
  explanation : TrustExplanation
  explanationHashSha256 : Sha256Digest
  event : TrustEvent
  eventSha256 : Sha256Digest
  deriving DecidableEq

section Build

variable (arith : Arithmetic) (two : PowerOfTwo)

/-- The source that `normalizePrevious` tries the controls with. -/
def probeSource : SourceValue := ⟨.plain ⟨0x40008000000000000000⟩, some 1, []⟩

def normalizePrevious (configuration : TransitionConfiguration) (updateVersion : ℕ)
    (evaluatedAt : Timestamp) (value : Option PreviousTransition) :
    Except String (Option PreviousTransition) :=
  match value with
  | none => return none
  | some previous => do
      let invalid := "PREVIOUS_TRANSITION_INVALID"
      require (1 ≤ previous.updateVersion ∧ previous.updateVersion < updateVersion ∧
        inScoreRange previous.score ∧ 0 ≤ previous.recoveryStreak ∧
        previous.temporalState.score = previous.score) invalid
      let _ ← (advanceSmoothedTrustScore arith two configuration.temporal
        (some previous.temporalState) none evaluatedAt).mapError fun _ => invalid
      let _ ← (applyTrustTransitionControls arith previous.control
        ⟨some previous.score, probeSource, none⟩).mapError fun _ => invalid
      return some previous

/-- The three calculations, whose errors the caller does not tell apart. -/
def calculateTransition (configuration : TransitionConfiguration) (p : ExplanationCall)
    (previous : Option PreviousTransition) :
    Except String (WeightedTrustScore × SmoothingResult × TransitionControlResult) := do
  let weighted ← calculateWeightedTrustScore p.input.components configuration.model
  let temporal ← advanceSmoothedTrustScore arith two configuration.temporal
    (previous.map PreviousTransition.temporalState)
    (some ⟨weighted.score.value, p.input.observedAt⟩) p.evaluatedAt
  let before ← match previous with
    | some previous => .ok previous.control
    | none => initializeTrustControlState (some configuration.temporal.initialScore)
  let controlled ← applyTrustTransitionControls arith before
    ⟨some temporal.score, p.input.source, p.input.criticalEvidence⟩
  return (weighted, temporal, controlled)

def previousStateOf (configuration : TransitionConfiguration) :
    Option PreviousTransition → TransitionState
  | some previous => ⟨some previous.transitionId, some previous.updateVersion, previous.score,
      some previous.band, previous.recoveryStreak, some previous.temporalState⟩
  | none => ⟨none, none, configuration.temporal.initialScore, none, 0, none⟩

/-- A score or a band that is undefined has no canonical text. -/
def newStateOf (temporal : SmoothingResult) (controlled : TransitionControlResult) :
    Except String NewState := do
  let score ← requireSome controlled.score "CANONICAL_CONTENT_INVALID"
  let band ← requireSome controlled.band "CANONICAL_CONTENT_INVALID"
  return ⟨score, band, controlled.recoveryStreak, temporal.temporalState⟩

def eventOf (p : ExplanationCall) (explanation : TrustExplanation)
    (explanationHashSha256 : Sha256Digest) : TrustEvent where
  eventId := p.eventId
  tenantId := p.input.tenantId
  subjectId := p.input.subjectId
  aggregateId := p.transitionId
  correlationId := p.input.correlationId
  causationId := p.input.causationId
  occurredAt := p.evaluatedAt
  producer := p.producer
  previousScore := explanation.previousState.score
  newScore := explanation.newState.score
  previousBand := explanation.previousState.band
  newBand := explanation.newState.band
  modelVersion := explanation.modelVersion
  configurationVersion := explanation.configurationVersion
  evidenceIds := explanation.evidenceReferences.map EvidenceReference.evidenceId
  explanationHashSha256 := explanationHashSha256

def documentsOf (digests : TransitionDigests) (p : ExplanationCall)
    (explanation : TrustExplanation) : TransitionDocuments :=
  let explanationHashSha256 := digests.explanation explanation
  let event := eventOf p explanation explanationHashSha256
  ⟨explanation, explanationHashSha256, event, digests.event event⟩

def buildTrustTransitionExplanation (digests : TransitionDigests) (p : ExplanationCall) :
    Except String TransitionDocuments := do
  require (1 ≤ p.input.updateVersion) "TRUST_TRANSITION_INPUT_INVALID"
  require (p.input.observedAt ≤ p.evaluatedAt) "TRUST_OBSERVATION_TIME_INVALID"
  let _ ← normalizeProducer p.producer
  let configuration ← normalizeTransitionConfiguration p.input.configuration
  let evidenceReferences ← normalizeReferences p.input.evidenceReferences
  require (∃ reference ∈ evidenceReferences, reference.sourceEventId = p.input.causationId)
    "TRUST_CAUSATION_INVALID"
  let previous ← normalizePrevious arith two configuration p.input.updateVersion p.evaluatedAt
    p.previousTransition
  let (weighted, temporal, controlled) ←
    (calculateTransition arith two configuration p previous).mapError fun _ =>
      "TRUST_CALCULATION_INVALID"
  let contributions ← contributionRecords weighted evidenceReferences
  let newState ← newStateOf temporal controlled
  return documentsOf digests p {
    transitionId := p.transitionId
    tenantId := p.input.tenantId
    subjectId := p.input.subjectId
    updateVersion := p.input.updateVersion
    modelVersion := p.input.configuration.modelVersion
    configurationVersion := configuration.configurationVersion
    observedAt := p.input.observedAt
    evaluatedAt := p.evaluatedAt
    previousState := previousStateOf configuration previous
    newState := newState
    evidenceReferences := evidenceReferences
    weightedScore := weighted.score
    contributions := contributions
    temporalCalculation := temporal
    transitionControl := controlled }

end Build

end TenantTrust.Trust
