import TenantTrust.Trust.EvidenceIngestion

/-! Freshness, replay and ordering checks on a submitted item of evidence. -/

namespace TenantTrust.Trust

open Library Identity

structure ReplayCandidate where
  tenantId : TenantId
  subjectId : SubjectId
  sourceId : SourceId
  keyId : EvidenceSourceKeyId
  evidenceType : TrustComponentId
  eventId : EvidenceEventId
  sourceSequence : Int
  nonce : String
  observedAt : Instant
  expiresAt : Instant
  contentHashSha256 : Sha256Digest
  synthetic : Bool
  deriving DecidableEq, Repr

namespace ReplayCandidate

def source (p : ReplayCandidate) : SourceKey := (p.tenantId, p.sourceId)

def epoch (p : ReplayCandidate) : EpochKey := (p.tenantId, p.sourceId, p.keyId)

def event (p : ReplayCandidate) : TenantId × EvidenceEventId := (p.tenantId, p.eventId)

end ReplayCandidate

/-- `^[A-Za-z0-9_-]{22,64}$` -/
def isNonce (text : String) : Bool :=
  let allowed := fun c : Char => c.isAlphanum || c = '_' || c = '-'
  matchesPattern allowed allowed 21 63 text

/-- The range of a JavaScript safe integer that is not negative. -/
def isSourceSequence (n : Int) : Bool := 0 ≤ n && n ≤ 9007199254740991

/-- The input that the procedure does not raise on. -/
def ReplayCandidate.wellFormed (p : ReplayCandidate) : Bool :=
  isSourceSequence p.sourceSequence && isNonce p.nonce

/-- `digest(_, 'sha256')` of the two texts that the tables keep in hashed form. -/
structure EvidenceDigests where
  event : EvidenceEventId → Sha256Digest
  nonce : String → Sha256Digest

/-- What the identity schema, the key registry and the configuration table answer during one
call. The index `evidence_source_keys_one_active` leaves at most one active key. -/
structure GuardSession where
  activeMember : TenantId → SubjectId → Bool
  activeKey : TenantId → SourceId → Option (EvidenceSourceKeyId × Sha256Digest)
  activeInfluence : TenantId → Option Influence

/-- The fingerprint of the candidate's key, as long as that key is active. -/
def GuardSession.keySha256 (session : GuardSession) (p : ReplayCandidate) :
    Option Sha256Digest :=
  match session.activeKey p.tenantId p.sourceId with
  | some (keyId, publicKeySha256) => if keyId = p.keyId then some publicKeySha256 else none
  | none => none

/-- The source accepts items of this kind under this key. -/
def EvidenceSource.verifies (source : EvidenceSource) (session : GuardSession)
    (p : ReplayCandidate) : Bool :=
  session.activeMember p.tenantId p.subjectId && source.state = .active &&
  source.evidenceType = p.evidenceType && source.synthetic = p.synthetic &&
  source.verificationAlgorithm = .ed25519 && (session.keySha256 p).isSome &&
  source.verificationKeySha256 = session.keySha256 p

/-- The joined source that both procedures select. -/
def verificationContext (session : GuardSession) (p : ReplayCandidate)
    (db : EvidenceDatabase) : Option EvidenceSource :=
  (db.sources.get? p.source).filter fun source => source.verifies session p

inductive GuardReason where
  | verificationContextNotFound
  | rejected (reason : IngestionRejectionReason)
  deriving DecidableEq, Repr

def GuardReason.text : GuardReason → String
  | .verificationContextNotFound => "VERIFICATION_CONTEXT_NOT_FOUND"
  | .rejected reason => reason.text

structure GuardDecision where
  accepted : Bool
  reasonCode : Option GuardReason
  acceptedAt : Option Instant
  highestSourceSequence : Option Int
  deriving DecidableEq, Repr

def GuardDecision.refused (reason : GuardReason) (highest : Option Int) : GuardDecision :=
  ⟨false, some reason, none, highest⟩

def GuardDecision.granted (acceptedAt : Instant) (sourceSequence : Int) : GuardDecision :=
  ⟨true, none, some acceptedAt, some sourceSequence⟩

/-- The first freshness check that the candidate fails. -/
def freshnessReason (now : Instant) (maximumAgeSeconds : Nat) (p : ReplayCandidate) :
    Option IngestionRejectionReason :=
  if p.observedAt ≥ p.expiresAt then some .timeWindowInvalid
  else if p.observedAt > now + interval 30 then some .observedInFuture
  else if p.observedAt < now - interval maximumAgeSeconds then some .stale
  else if p.expiresAt ≤ now then some .expired
  else if p.expiresAt > p.observedAt + interval maximumAgeSeconds then some .ttlExceeded
  else none

/-- The first replay or ordering check that the candidate fails. A comparison with `NULL` is
not true. -/
def replayReason (digests : EvidenceDigests) (receipts : List IngestionReceipt)
    (state : IngestionState) (p : ReplayCandidate) : Option IngestionRejectionReason :=
  if receipts.any fun receipt => receipt.key = p.event then some .eventReplayed
  else if receipts.any fun receipt =>
      receipt.epoch = p.epoch && receipt.nonceSha256 = digests.nonce p.nonce then
    some .nonceReplayed
  else if state.highestSourceSequence.any fun highest => p.sourceSequence = highest then
    some .sequenceReplayed
  else if state.highestSourceSequence.any fun highest => p.sourceSequence < highest then
    some .sequenceReordered
  else if state.latestObservedAt.any fun latest => p.observedAt < latest then
    some .observationReordered
  else none

/-- The row that a first submission under a key finds. -/
def ReplayCandidate.emptyState (p : ReplayCandidate) (now : Instant) : IngestionState where
  tenantId := p.tenantId
  sourceId := p.sourceId
  keyId := p.keyId
  highestSourceSequence := none
  latestObservedAt := none
  acceptedCount := 0
  createdAt := now
  updatedAt := now

/-- The state of an epoch after `INSERT ... ON CONFLICT DO NOTHING`. -/
def EvidenceDatabase.ingestionState (db : EvidenceDatabase) (p : ReplayCandidate)
    (now : Instant) : IngestionState :=
  (db.ingestion.get? p.epoch).getD (p.emptyState now)

def ReplayCandidate.rejection (p : ReplayCandidate) (digests : EvidenceDigests)
    (reason : IngestionRejectionReason) (now : Instant) : IngestionRejection where
  tenantId := p.tenantId
  sourceId := p.sourceId
  keyId := p.keyId
  subjectId := p.subjectId
  reasonCode := reason
  eventIdSha256 := digests.event p.eventId
  nonceSha256 := digests.nonce p.nonce
  contentHashSha256 := p.contentHashSha256
  sourceSequence := p.sourceSequence
  observedAt := p.observedAt
  expiresAt := p.expiresAt
  rejectedAt := now

def ReplayCandidate.receipt (p : ReplayCandidate) (digests : EvidenceDigests) (now : Instant)
    (influence : Influence) : IngestionReceipt where
  tenantId := p.tenantId
  eventId := p.eventId
  subjectId := p.subjectId
  sourceId := p.sourceId
  keyId := p.keyId
  evidenceType := p.evidenceType
  sourceSequence := p.sourceSequence
  nonceSha256 := digests.nonce p.nonce
  contentHashSha256 := p.contentHashSha256
  synthetic := p.synthetic
  observedAt := p.observedAt
  expiresAt := p.expiresAt
  acceptedAt := now
  maximumSourceInfluence := influence

/-- The row of an epoch after it accepted a candidate. -/
def IngestionState.advance (state : IngestionState) (p : ReplayCandidate) (now : Instant) :
    IngestionState :=
  { state with
    highestSourceSequence := some p.sourceSequence
    latestObservedAt := some p.observedAt
    acceptedCount := state.acceptedCount + 1
    updatedAt := now }

/-- `evidence_ingestion_receipts_time_order` -/
def receiptTimesOrdered (receipt : IngestionReceipt) : Bool :=
  receipt.observedAt < receipt.expiresAt && receipt.observedAt ≤ receipt.acceptedAt + interval 30 &&
  receipt.acceptedAt < receipt.expiresAt

/-- The insertion of a receipt under the constraints of its table. -/
def insertReceipt (receipt : IngestionReceipt) (db : EvidenceDatabase) :
    Except SqlError EvidenceDatabase := do
  require (receiptTimesOrdered receipt)
    (.checkViolation "evidence_ingestion_receipts_time_order")
  let receipts ← requireSome (db.receipts.insertNew receipt)
    (.uniqueViolation "evidence_ingestion_receipts_pk")
  require (∀ other ∈ db.receipts, other.epoch = receipt.epoch →
      other.sourceSequence ≠ receipt.sourceSequence)
    (.uniqueViolation "evidence_ingestion_receipts_sequence_unique")
  require (∀ other ∈ db.receipts, other.epoch = receipt.epoch →
      other.nonceSha256 ≠ receipt.nonceSha256)
    (.uniqueViolation "evidence_ingestion_receipts_nonce_unique")
  return { db with receipts := receipts }

/-- The statements after every check has passed, with the trigger that snapshots the lesser
influence cap. -/
def acceptCandidate (digests : EvidenceDigests) (session : GuardSession) (now : Instant)
    (p : ReplayCandidate) (source : EvidenceSource) (state : IngestionState)
    (db : EvidenceDatabase) : Except SqlError (EvidenceDatabase × GuardDecision) := do
  let tenantInfluence ← requireSome (session.activeInfluence p.tenantId)
    (.raised "query returned no rows")
  let influence := source.safeguards.maximumInfluence.least tenantInfluence
  let db ← insertReceipt (p.receipt digests now influence) db
  require (state.createdAt ≤ now) (.checkViolation "evidence_ingestion_state_time_order")
  return ({ db with ingestion := db.ingestion.upsert (state.advance p now) },
    .granted now p.sourceSequence)

def rejectCandidate (digests : EvidenceDigests) (now : Instant) (p : ReplayCandidate)
    (reason : IngestionRejectionReason) (highest : Option Int) (db : EvidenceDatabase) :
    EvidenceDatabase × GuardDecision :=
  ({ db with rejections := db.rejections ++ [p.rejection digests reason now] },
    .refused (.rejected reason) highest)

/-- The part of the procedure that runs under the lock of the epoch's row. -/
def decideReplay (digests : EvidenceDigests) (session : GuardSession) (now : Instant)
    (p : ReplayCandidate) (source : EvidenceSource) (db : EvidenceDatabase) :
    Except SqlError (EvidenceDatabase × GuardDecision) :=
  let state := db.ingestionState p now
  let opened := { db with ingestion := db.ingestion.insertIfAbsent state }
  match replayReason digests db.receipts.rows state p with
  | some reason =>
      .ok (rejectCandidate digests now p reason state.highestSourceSequence opened)
  | none => acceptCandidate digests session now p source state opened

/-- `apply_evidence_replay_guard_without_flood_control` -/
def applyReplayGuardWithoutFloodControl (digests : EvidenceDigests) (session : GuardSession)
    (now : Instant) (p : ReplayCandidate) (db : EvidenceDatabase) :
    Except SqlError (EvidenceDatabase × GuardDecision) := do
  require p.wellFormed (.raised "Invalid evidence replay-guard input.")
  match verificationContext session p db with
  | none => return (db, .refused .verificationContextNotFound none)
  | some source =>
      match freshnessReason now source.maximumAgeSeconds p with
      | some reason => return rejectCandidate digests now p reason none db
      | none => decideReplay digests session now p source db

end TenantTrust.Trust
