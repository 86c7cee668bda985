import TenantTrust.Library.Checked
import TenantTrust.Trust.ReplayGuard

/-! The signed event that announces an accepted item of evidence. -/

namespace TenantTrust.Trust

open Library Identity

/-- An outbox row joined with its receipt, as a worker receives it. -/
structure AcceptedRecord where
  tenantId : TenantId
  subjectId : SubjectId
  sourceId : SourceId
  evidenceId : EvidenceId
  eventId : EventId
  sourceEventId : EvidenceEventId
  correlationId : CorrelationId
  evidenceType : TrustComponentId
  sourceSequence : Int
  contentHashSha256 : Sha256Digest
  synthetic : Bool
  observedAt : Timestamp
  expiresAt : Timestamp
  acceptedAt : Timestamp
  deriving DecidableEq, Repr

inductive EvidenceEventError where
  | sourceInvalid
  | timeInvalid
  | producerInvalid
  | signerInvalid
  | signatureInvalid
  | contractInvalid
  deriving DecidableEq, Repr

def EvidenceEventError.reasonCode : EvidenceEventError → String
  | .sourceInvalid => "EVIDENCE_EVENT_SOURCE_INVALID"
  | .timeInvalid => "EVIDENCE_EVENT_TIME_INVALID"
  | .producerInvalid => "EVIDENCE_EVENT_PRODUCER_INVALID"
  | .signerInvalid => "SOURCE_SIGNER_INVALID"
  | .signatureInvalid => "SOURCE_SIGNATURE_INVALID"
  | .contractInvalid => "EVIDENCE_EVENT_CONTRACT_INVALID"

def validateAcceptedRecord (record : AcceptedRecord) :
    Except EvidenceEventError AcceptedRecord := do
  require (isSourceSequence record.sourceSequence) .sourceInvalid
  require (record.observedAt < record.expiresAt ∧ record.observedAt ≤ record.acceptedAt ∧
    record.acceptedAt < record.expiresAt) .timeInvalid
  return record

structure EvidenceProducer where
  service : String
  instanceId : String
  deriving DecidableEq, Repr

/-- `^[a-z][a-z0-9-]{1,62}$` and an instance id of 1 to 128 characters. -/
def EvidenceProducer.valid (producer : EvidenceProducer) : Bool :=
  matchesPattern Char.isLower (fun c => c.isLower || c.isDigit || c = '-') 1 62
    producer.service &&
  1 ≤ producer.instanceId.length && producer.instanceId.length ≤ 128

structure EvidencePayload where
  evidenceId : EvidenceId
  sourceId : SourceId
  evidenceType : TrustComponentId
  observedAt : Timestamp
  expiresAt : Timestamp
  sourceSequence : Int
  contentHashSha256 : Sha256Digest
  synthetic : Bool
  deriving DecidableEq, Repr

/-- The idempotency key is `evidence-accepted:` and the evidence id. -/
structure UnsignedEvidenceEvent where
  schemaVersion : String
  eventId : EventId
  eventType : String
  tenantId : TenantId
  subjectId : SubjectId
  aggregateId : EvidenceId
  correlationId : CorrelationId
  causationId : EvidenceEventId
  idempotencyKey : EvidenceId
  occurredAt : Timestamp
  recordedAt : Timestamp
  producer : EvidenceProducer
  payload : EvidencePayload
  deriving DecidableEq, Repr

def buildUnsignedEvidenceAcceptedEvent (producer : EvidenceProducer) (record : AcceptedRecord) :
    Except EvidenceEventError UnsignedEvidenceEvent := do
  let source ← validateAcceptedRecord record
  require (producer.valid) .producerInvalid
  return {
    schemaVersion := "1.0.0"
    eventId := source.eventId
    eventType := "evidence.accepted.v1"
    tenantId := source.tenantId
    subjectId := source.subjectId
    aggregateId := source.evidenceId
    correlationId := source.correlationId
    causationId := source.sourceEventId
    idempotencyKey := source.evidenceId
    occurredAt := source.acceptedAt
    recordedAt := source.acceptedAt
    producer := producer
    payload := {
      evidenceId := source.evidenceId
      sourceId := source.sourceId
      evidenceType := source.evidenceType
      observedAt := source.observedAt
      expiresAt := source.expiresAt
      sourceSequence := source.sourceSequence
      contentHashSha256 := source.contentHashSha256
      synthetic := source.synthetic } }

abbrev Signature := List UInt8

structure SourceAuthentication where
  keyId : String
  signedContentSha256 : Sha256Digest
  signature : Signature
  deriving DecidableEq, Repr

structure SignedEvidenceEvent where
  unsigned : UnsignedEvidenceEvent
  sourceAuthentication : SourceAuthentication
  deriving DecidableEq, Repr

/-- SHA-256 of the canonical text of an event, without and with its authentication. -/
structure EventDigests where
  content : UnsignedEvidenceEvent → Sha256Digest
  payload : SignedEvidenceEvent → Sha256Digest

/-- What a publisher is created with. -/
structure EvidenceSigner where
  producer : EvidenceProducer
  keyId : String
  sign : UnsignedEvidenceEvent → Signature
  validateEvent : SignedEvidenceEvent → Bool

/-- A lower-case letter or digit followed by 7 to 159 of these or of `.`, `_`, `:`, `/`, `-`. -/
def isSigningKeyId : String → Bool :=
  matchesPattern (fun c => c.isLower || c.isDigit)
    (fun c => c.isLower || c.isDigit || c ∈ ['.', '_', ':', '/', '-']) 7 159

def signEvidenceAcceptedEvent (digests : EventDigests) (signer : EvidenceSigner)
    (record : AcceptedRecord) : Except EvidenceEventError SignedEvidenceEvent := do
  require (isSigningKeyId signer.keyId) .signerInvalid
  let unsigned ← buildUnsignedEvidenceAcceptedEvent signer.producer record
  let signature := signer.sign unsigned
  require (signature.length = 64) .signatureInvalid
  let event := SignedEvidenceEvent.mk unsigned
    ⟨signer.keyId, digests.content unsigned, signature⟩
  require (signer.validateEvent event) .contractInvalid
  return event

/-- A record is refused for its times exactly when it was observed after it was accepted or was
accepted after it had expired. -/
theorem validateAcceptedRecord_isOk {record : AcceptedRecord} :
    (validateAcceptedRecord record).isOk = true ↔
      isSourceSequence record.sourceSequence = true ∧ record.observedAt < record.expiresAt ∧
        record.observedAt ≤ record.acceptedAt ∧ record.acceptedAt < record.expiresAt := by
  unfold validateAcceptedRecord require
  split
  · rename_i sequence
    split
    · rename_i times
      simp [sequence, times, bind, Except.bind, pure, Except.pure, Except.isOk, Except.toBool]
    · rename_i times
      simp only [bind, Except.bind, Except.isOk, Except.toBool, Bool.false_eq_true, false_iff]
      exact fun claimed => times claimed.2
  · rename_i sequence
    simp [sequence, bind, Except.bind, Except.isOk, Except.toBool]

end TenantTrust.Trust
