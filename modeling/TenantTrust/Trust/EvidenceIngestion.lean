import TenantTrust.Library.Checked
import TenantTrust.Trust.EvidenceTables

/-! The registered evidence sources and the tables that decide which of their items are
accepted. -/

namespace TenantTrust.Trust

open Library Identity

abbrev EvidenceSourceKeyId := Identifier .evidenceSourceKey

inductive EvidenceSourceState where
  | planned | active | suspended | retired
  deriving DecidableEq, Repr

inductive VerificationAlgorithm where
  | ed25519 | ecdsaP256 | rsaPssSha256
  deriving DecidableEq, Repr

/-- A value between 0.0001 and 1, as the columns of type `numeric(5,4)` admit it. -/
structure Influence where
  value : ℚ
  inRange : 1 / 10000 ≤ value ∧ value ≤ 1
  deriving DecidableEq

/-- `LEAST` -/
def Influence.least (left right : Influence) : Influence where
  value := min left.value right.value
  inRange := ⟨le_min left.inRange.1 right.inRange.1, (min_le_left _ _).trans left.inRange.2⟩

structure Safeguards where
  rateLimitWindowSeconds : Nat
  rateLimitMaxEvents : Nat
  rateLimitSuspensionThreshold : Nat
  maximumInfluence : Influence
  windowInRange : 1 ≤ rateLimitWindowSeconds ∧ rateLimitWindowSeconds ≤ 3600
  maxEventsInRange : 1 ≤ rateLimitMaxEvents ∧ rateLimitMaxEvents ≤ 100000
  thresholdInRange : 1 ≤ rateLimitSuspensionThreshold ∧ rateLimitSuspensionThreshold ≤ 1000
  deriving DecidableEq

structure EvidenceSource where
  tenantId : TenantId
  sourceId : SourceId
  evidenceType : TrustComponentId
  state : EvidenceSourceState
  verificationAlgorithm : VerificationAlgorithm
  verificationKeySha256 : Option Sha256Digest
  maximumAgeSeconds : Nat
  maximumAgeInRange : 1 ≤ maximumAgeSeconds ∧ maximumAgeSeconds ≤ 86400
  synthetic : Bool
  safeguards : Safeguards
  version : Nat
  createdAt : Instant
  updatedAt : Instant
  deriving DecidableEq

abbrev SourceKey := TenantId × SourceId

def EvidenceSource.key (source : EvidenceSource) : SourceKey := (source.tenantId, source.sourceId)

/-- The key under which sequence numbers and nonces are compared. -/
abbrev EpochKey := TenantId × SourceId × EvidenceSourceKeyId

structure IngestionState where
  tenantId : TenantId
  sourceId : SourceId
  keyId : EvidenceSourceKeyId
  highestSourceSequence : Option Int
  latestObservedAt : Option Instant
  acceptedCount : Nat
  createdAt : Instant
  updatedAt : Instant
  deriving DecidableEq, Repr

def IngestionState.key (state : IngestionState) : EpochKey :=
  (state.tenantId, state.sourceId, state.keyId)

structure IngestionReceipt where
  tenantId : TenantId
  eventId : EvidenceEventId
  subjectId : SubjectId
  sourceId : SourceId
  keyId : EvidenceSourceKeyId
  evidenceType : TrustComponentId
  sourceSequence : Int
  nonceSha256 : Sha256Digest
  contentHashSha256 : Sha256Digest
  synthetic : Bool
  observedAt : Instant
  expiresAt : Instant
  acceptedAt : Instant
  maximumSourceInfluence : Influence
  deriving DecidableEq

def IngestionReceipt.key (receipt : IngestionReceipt) : TenantId × EvidenceEventId :=
  (receipt.tenantId, receipt.eventId)

def IngestionReceipt.epoch (receipt : IngestionReceipt) : EpochKey :=
  (receipt.tenantId, receipt.sourceId, receipt.keyId)

inductive IngestionRejectionReason where
  | timeWindowInvalid
  | observedInFuture
  | stale
  | expired
  | ttlExceeded
  | eventReplayed
  | nonceReplayed
  | sequenceReplayed
  | sequenceReordered
  | observationReordered
  | rateLimited
  deriving DecidableEq, Repr

def IngestionRejectionReason.text : IngestionRejectionReason → String
  | .timeWindowInvalid => "EVIDENCE_TIME_WINDOW_INVALID"
  | .observedInFuture => "EVIDENCE_OBSERVED_IN_FUTURE"
  | .stale => "EVIDENCE_STALE"
  | .expired => "EVIDENCE_EXPIRED"
  | .ttlExceeded => "EVIDENCE_TTL_EXCEEDED"
  | .eventReplayed => "EVIDENCE_EVENT_REPLAYED"
  | .nonceReplayed => "EVIDENCE_NONCE_REPLAYED"
  | .sequenceReplayed => "EVIDENCE_SEQUENCE_REPLAYED"
  | .sequenceReordered => "EVIDENCE_SEQUENCE_REORDERED"
  | .observationReordered => "EVIDENCE_OBSERVATION_REORDERED"
  | .rateLimited => "EVIDENCE_RATE_LIMITED"

structure IngestionRejection where
  tenantId : TenantId
  sourceId : SourceId
  keyId : EvidenceSourceKeyId
  subjectId : SubjectId
  reasonCode : IngestionRejectionReason
  eventIdSha256 : Sha256Digest
  nonceSha256 : Sha256Digest
  contentHashSha256 : Sha256Digest
  sourceSequence : Int
  observedAt : Instant
  expiresAt : Instant
  rejectedAt : Instant
  deriving DecidableEq, Repr

structure SourceRateState where
  tenantId : TenantId
  sourceId : SourceId
  windowStartedAt : Instant
  acceptedCount : Nat
  rateLimitedCount : Nat
  updatedAt : Instant
  deriving DecidableEq, Repr

def SourceRateState.key (rate : SourceRateState) : SourceKey := (rate.tenantId, rate.sourceId)

/-- `evidence_source_control_events_actor_shape` leaves out the actor of an automatic
suspension only. -/
inductive SourceControlEventType where
  | configured (actor : SubjectId)
  | suspended (actor : SubjectId)
  | resumed (actor : SubjectId)
  | automaticallySuspended
  deriving DecidableEq, Repr

structure SourceControlEvent where
  tenantId : TenantId
  sourceId : SourceId
  eventType : SourceControlEventType
  reasonCode : String
  safeguards : Safeguards
  occurredAt : Instant
  deriving DecidableEq

structure EvidenceDatabase where
  sources : Table EvidenceSource EvidenceSource.key
  ingestion : Table IngestionState IngestionState.key
  receipts : Table IngestionReceipt IngestionReceipt.key
  rejections : List IngestionRejection
  rates : Table SourceRateState SourceRateState.key
  controlEvents : List SourceControlEvent

/-- Nothing has been submitted; any sources may be registered. -/
structure EvidenceDatabase.Fresh (db : EvidenceDatabase) : Prop where
  ingestion : db.ingestion = Table.empty
  receipts : db.receipts = Table.empty
  rates : db.rates = Table.empty

end TenantTrust.Trust
