import TenantTrust.Identity.Identifiers
import TenantTrust.Library.Table
import TenantTrust.Library.Checked

/-! The certificate inventory and the four procedures that write to it. -/

namespace TenantTrust.Identity

open Library

/-- A raised exception with its text, or the constraint that a statement violated. Where the checks
of a table are one predicate, or several unique indexes one condition, the table stands for the
constraint. -/
inductive SqlError where
  | raised (message : String)
  | uniqueViolation (constraint : String)
  | checkViolation (constraint : String)
  | foreignKeyViolation (constraint : String)
  | invalidText
  deriving DecidableEq, Repr

/-- What the identity schema answers about the session during one call. -/
structure Session where
  tenantId : TenantId
  subjectId : SubjectId
  actorIsActive : Bool
  actorIsTenantAdmin : Bool
  activeMember : SubjectId → Bool
  activeIssuer : IssuerId → Bool
  clock : Timestamp

inductive CertificateState where
  | active | revoked | expired | superseded
  deriving DecidableEq, Repr

inductive LifecycleEventType where
  | issued | renewed | revoked | expired | superseded
  deriving DecidableEq, Repr

inductive PublicKeyAlgorithm where
  | ecdsaP256 | ed25519
  deriving DecidableEq, Repr

/-- Permanent reasons; the reversible hold reasons are not part of the domain. -/
inductive RevocationReason where
  | keyCompromise | caCompromise | affiliationChanged | superseded
  | cessationOfOperation | privilegeWithdrawn | aaCompromise
  deriving DecidableEq, Repr

def RevocationReason.text : RevocationReason → String
  | .keyCompromise => "KEY_COMPROMISE"
  | .caCompromise => "CA_COMPROMISE"
  | .affiliationChanged => "AFFILIATION_CHANGED"
  | .superseded => "SUPERSEDED"
  | .cessationOfOperation => "CESSATION_OF_OPERATION"
  | .privilegeWithdrawn => "PRIVILEGE_WITHDRAWN"
  | .aaCompromise => "AA_COMPROMISE"

/-- The columns that the rewrite trigger freezes. -/
structure CertificateIdentity where
  tenantId : TenantId
  certificateId : CertificateId
  subjectId : SubjectId
  issuerId : IssuerId
  profileId : Nat
  serialNumber : SerialNumber
  fingerprintSha256 : Sha256Digest
  publicKeySha256 : Option Sha256Digest
  publicKeyAlgorithm : PublicKeyAlgorithm
  notBefore : Timestamp
  notAfter : Timestamp
  issuedAt : Timestamp
  requestedBySubjectId : SubjectId
  requestId : RequestId
  idempotencyKey : IdempotencyKey
  issuedEventId : EventId
  correlationId : CorrelationId
  supersedesCertificateId : Option CertificateId
  deriving DecidableEq, Repr

structure Certificate extends CertificateIdentity where
  state : CertificateState
  stateChangedAt : Timestamp
  lastEventId : EventId
  version : Nat
  createdAt : Timestamp
  updatedAt : Timestamp
  deriving DecidableEq, Repr

def Certificate.key (certificate : Certificate) : TenantId × CertificateId :=
  (certificate.tenantId, certificate.certificateId)

structure LifecycleEvent where
  tenantId : TenantId
  eventId : EventId
  certificateId : CertificateId
  eventType : LifecycleEventType
  certificateState : CertificateState
  subjectId : SubjectId
  issuerId : IssuerId
  serialNumber : SerialNumber
  fingerprintSha256 : Sha256Digest
  notAfter : Timestamp
  requestId : RequestId
  correlationId : CorrelationId
  causationEventId : Option EventId
  idempotencyKey : IdempotencyKey
  actorSubjectId : Option SubjectId
  reasonCode : Option String
  issuerConfirmationId : Option String
  occurredAt : Timestamp
  recordedAt : Timestamp
  deriving DecidableEq, Repr

/-- The event identifier alone is unique, so it already is the key of the table. -/
def LifecycleEvent.key (event : LifecycleEvent) : EventId := event.eventId

structure Inventory where
  certificates : Table Certificate Certificate.key
  events : Table LifecycleEvent LifecycleEvent.key

def Inventory.empty : Inventory := ⟨Table.empty, Table.empty⟩

def Inventory.certificate? (inventory : Inventory) (tenantId : TenantId)
    (certificateId : CertificateId) : Option Certificate :=
  inventory.certificates.get? (tenantId, certificateId)

/-- The unique constraints of `identity.certificates` beside its primary key. -/
def certificateConflict (new old : Certificate) : Bool :=
  new.certificateId = old.certificateId ||
  (new.tenantId = old.tenantId && new.issuerId = old.issuerId &&
    new.serialNumber = old.serialNumber) ||
  new.fingerprintSha256 = old.fingerprintSha256 ||
  (new.tenantId = old.tenantId && new.requestId = old.requestId) ||
  (new.tenantId = old.tenantId && new.idempotencyKey = old.idempotencyKey) ||
  new.issuedEventId = old.issuedEventId

/-- The check constraints of `identity.certificates`. -/
def certificateChecks (row : Certificate) : Bool :=
  (row.notBefore ≤ row.issuedAt && row.issuedAt < row.notAfter) &&
  (1 < row.version || row.lastEventId = row.issuedEventId) &&
  (row.issuedAt ≤ row.stateChangedAt && row.stateChangedAt ≤ row.updatedAt) &&
  (row.supersedesCertificateId ≠ some row.certificateId) &&
  0 < row.version &&
  (row.issuedAt ≤ row.createdAt && row.createdAt ≤ row.updatedAt)

def insertCertificate (row : Certificate) (inventory : Inventory) :
    Except SqlError Inventory := do
  require (certificateChecks row) (.checkViolation "identity.certificates")
  require (∀ old ∈ inventory.certificates.rows, certificateConflict row old = false)
    (.uniqueViolation "identity.certificates")
  let certificates ← requireSome (inventory.certificates.insertNew row)
    (.uniqueViolation "certificates_pk")
  return { inventory with certificates := certificates }

/-- The unique constraints of `identity.certificate_lifecycle_events` beside the event id. -/
def lifecycleEventConflict (new old : LifecycleEvent) : Bool :=
  (new.tenantId = old.tenantId && new.idempotencyKey = old.idempotencyKey &&
    new.eventType = old.eventType) ||
  (new.eventType = .revoked && old.eventType = .revoked &&
    new.tenantId = old.tenantId && new.requestId = old.requestId) ||
  (new.issuerConfirmationId.isSome && new.tenantId = old.tenantId &&
    new.issuerId = old.issuerId && new.issuerConfirmationId = old.issuerConfirmationId) ||
  (new.eventType = .expired && old.eventType = .expired &&
    new.tenantId = old.tenantId && new.certificateId = old.certificateId)

def lifecycleEventChecks (row : LifecycleEvent) : Bool :=
  row.occurredAt ≤ row.recordedAt &&
  (row.reasonCode.all isReasonCode) &&
  (row.eventType ≠ .issued || (row.certificateState = .active &&
    row.causationEventId = none && row.reasonCode = none)) &&
  (if row.eventType = .revoked then
    row.certificateState = .revoked && row.causationEventId.isSome &&
      row.reasonCode.isSome && row.issuerConfirmationId.isSome
  else row.issuerConfirmationId = none) &&
  (row.eventType ≠ .expired || (row.certificateState = .expired &&
    row.causationEventId.isSome && row.reasonCode = some "CERTIFICATE_EXPIRED"))

def insertLifecycleEvent (row : LifecycleEvent) (inventory : Inventory) :
    Except SqlError Inventory := do
  require (lifecycleEventChecks row) (.checkViolation "identity.certificate_lifecycle_events")
  require (∀ old ∈ inventory.events.rows, lifecycleEventConflict row old = false)
    (.uniqueViolation "identity.certificate_lifecycle_events")
  let events ← requireSome (inventory.events.insertNew row)
    (.uniqueViolation "certificate_lifecycle_events_id_global_unique")
  return { inventory with events := events }

/-- `UPDATE identity.certificates SET state ...` on one row, as the three transitions do it. -/
def changeState (target : Certificate) (state : CertificateState) (changedAt : Timestamp)
    (eventId : EventId) (clock : Timestamp) (row : Certificate) : Certificate :=
  if row.key = target.key then
    { row with
      state := state
      stateChangedAt := changedAt
      lastEventId := eventId
      version := row.version + 1
      updatedAt := max clock changedAt }
  else row

theorem changeState_identity (target : Certificate) (state : CertificateState)
    (changedAt : Timestamp) (eventId : EventId) (clock : Timestamp) (row : Certificate) :
    (changeState target state changedAt eventId clock row).toCertificateIdentity =
      row.toCertificateIdentity := by
  unfold changeState
  split <;> rfl

theorem changeState_key (target : Certificate) (state : CertificateState)
    (changedAt : Timestamp) (eventId : EventId) (clock : Timestamp) (row : Certificate) :
    (changeState target state changedAt eventId clock row).key = row.key := by
  unfold changeState
  split <;> rfl

def updateState (target : Certificate) (state : CertificateState) (changedAt : Timestamp)
    (eventId : EventId) (clock : Timestamp) (inventory : Inventory) :
    Except SqlError Inventory := do
  require (certificateChecks (changeState target state changedAt eventId clock target))
    (.checkViolation "identity.certificates")
  require (target.state = .active ∨ state = target.state)
    (.raised "A terminal certificate state is immutable.")
  return { inventory with
    certificates := inventory.certificates.update
      (changeState target state changedAt eventId clock)
      (changeState_key target state changedAt eventId clock) }

/-- The `p_` parameters common to issuance and renewal. The key digest is the one parameter whose
column takes NULL. -/
structure CertificateRequest where
  certificateId : CertificateId
  eventId : EventId
  correlationId : CorrelationId
  requestId : RequestId
  subjectId : SubjectId
  issuerId : IssuerId
  profileId : Nat
  serialNumber : SerialNumber
  fingerprintSha256 : Sha256Digest
  publicKeySha256 : Option Sha256Digest
  publicKeyAlgorithm : PublicKeyAlgorithm
  notBefore : Timestamp
  notAfter : Timestamp
  issuedAt : Timestamp
  idempotencyKey : IdempotencyKey
  deriving DecidableEq, Repr

def CertificateRequest.row (p : CertificateRequest) (session : Session)
    (supersedes : Option CertificateId) : Certificate where
  tenantId := session.tenantId
  certificateId := p.certificateId
  subjectId := p.subjectId
  issuerId := p.issuerId
  profileId := p.profileId
  serialNumber := p.serialNumber
  fingerprintSha256 := p.fingerprintSha256
  publicKeySha256 := p.publicKeySha256
  publicKeyAlgorithm := p.publicKeyAlgorithm
  notBefore := p.notBefore
  notAfter := p.notAfter
  issuedAt := p.issuedAt
  requestedBySubjectId := session.subjectId
  requestId := p.requestId
  idempotencyKey := p.idempotencyKey
  issuedEventId := p.eventId
  correlationId := p.correlationId
  supersedesCertificateId := supersedes
  state := .active
  stateChangedAt := p.issuedAt
  lastEventId := p.eventId
  version := 1
  createdAt := session.clock
  updatedAt := session.clock

def CertificateRequest.event (p : CertificateRequest) (session : Session)
    (eventType : LifecycleEventType) (causation : Option EventId) : LifecycleEvent where
  tenantId := session.tenantId
  eventId := p.eventId
  certificateId := p.certificateId
  eventType := eventType
  certificateState := .active
  subjectId := p.subjectId
  issuerId := p.issuerId
  serialNumber := p.serialNumber
  fingerprintSha256 := p.fingerprintSha256
  notAfter := p.notAfter
  requestId := p.requestId
  correlationId := p.correlationId
  causationEventId := causation
  idempotencyKey := p.idempotencyKey
  actorSubjectId := some session.subjectId
  reasonCode := none
  issuerConfirmationId := none
  occurredAt := p.issuedAt
  recordedAt := session.clock

/-- The comparison of a replayed request with the row stored under its idempotency key. -/
def CertificateRequest.replays (p : CertificateRequest) (supersedes : Option CertificateId)
    (existing : Certificate) : Bool :=
  existing.requestId = p.requestId && existing.subjectId = p.subjectId &&
  existing.issuerId = p.issuerId && existing.profileId = p.profileId &&
  existing.serialNumber = p.serialNumber &&
  existing.fingerprintSha256 = p.fingerprintSha256 &&
  existing.publicKeySha256 = p.publicKeySha256 &&
  existing.publicKeyAlgorithm = p.publicKeyAlgorithm &&
  existing.notBefore = p.notBefore && existing.notAfter = p.notAfter &&
  existing.issuedAt = p.issuedAt && existing.supersedesCertificateId = supersedes

def CertificateRequest.permitted (p : CertificateRequest) (session : Session) : Bool :=
  session.actorIsActive &&
  (p.subjectId = session.subjectId || session.actorIsTenantAdmin) &&
  session.activeMember p.subjectId && session.activeIssuer p.issuerId

def Inventory.byIdempotencyKey (inventory : Inventory) (tenantId : TenantId)
    (key : IdempotencyKey) : Option Certificate :=
  inventory.certificates.rows.find? fun row => row.tenantId = tenantId && row.idempotencyKey = key

structure RecordedCertificate where
  certificateId : CertificateId
  eventId : EventId
  state : CertificateState
  deriving DecidableEq, Repr

def recordCertificateIssuance (session : Session) (p : CertificateRequest)
    (inventory : Inventory) : Except SqlError (Inventory × RecordedCertificate) := do
  require (p.permitted session) (.raised "Certificate inventory write denied.")
  match inventory.byIdempotencyKey session.tenantId p.idempotencyKey with
  | some existing =>
      require (p.replays none existing)
        (.raised "Certificate idempotency key conflicts with another issuance.")
      return (inventory, ⟨existing.certificateId, existing.issuedEventId, existing.state⟩)
  | none =>
      let inventory ← insertCertificate (p.row session none) inventory
      let inventory ← insertLifecycleEvent (p.event session .issued none) inventory
      return (inventory, ⟨p.certificateId, p.eventId, .active⟩)

/-- The eligibility of a predecessor, as `record_certificate_renewal` states it: a NULL digest of
the new key equals no stored one. The quarter of the lifetime is compared after multiplying by
four. -/
def renewable (p : CertificateRequest) (predecessor : Certificate) : Bool :=
  predecessor.subjectId = p.subjectId && predecessor.profileId = p.profileId &&
  predecessor.state = .active &&
  predecessor.publicKeySha256.isSome && predecessor.publicKeySha256 ≠ p.publicKeySha256 &&
  predecessor.notBefore ≤ p.issuedAt && p.issuedAt < predecessor.notAfter &&
  4 * predecessor.notAfter - (predecessor.notAfter - predecessor.notBefore) ≤ 4 * p.issuedAt

def supersededEvent (session : Session) (p : CertificateRequest) (supersededEventId : EventId)
    (predecessor : Certificate) : LifecycleEvent where
  tenantId := session.tenantId
  eventId := supersededEventId
  certificateId := predecessor.certificateId
  eventType := .superseded
  certificateState := .superseded
  subjectId := predecessor.subjectId
  issuerId := predecessor.issuerId
  serialNumber := predecessor.serialNumber
  fingerprintSha256 := predecessor.fingerprintSha256
  notAfter := predecessor.notAfter
  requestId := p.requestId
  correlationId := p.correlationId
  causationEventId := some p.eventId
  idempotencyKey := p.idempotencyKey
  actorSubjectId := some session.subjectId
  reasonCode := some "CERTIFICATE_RENEWED"
  issuerConfirmationId := none
  occurredAt := p.issuedAt
  recordedAt := session.clock

def recordCertificateRenewal (session : Session) (p : CertificateRequest)
    (supersedes : CertificateId) (supersededEventId : EventId)
    (inventory : Inventory) : Except SqlError (Inventory × RecordedCertificate) := do
  require (p.eventId ≠ supersededEventId) (.raised "Certificate renewal denied.")
  require (p.permitted session) (.raised "Certificate renewal denied.")
  match inventory.byIdempotencyKey session.tenantId p.idempotencyKey with
  | some existing =>
      require (p.replays (some supersedes) existing)
        (.raised "Certificate idempotency key conflicts with another renewal.")
      return (inventory, ⟨existing.certificateId, existing.issuedEventId, existing.state⟩)
  | none =>
      let predecessor ← requireSome (inventory.certificate? session.tenantId supersedes)
        (.raised "Certificate renewal denied.")
      require (renewable p predecessor) (.raised "Certificate renewal denied.")
      let inventory ← insertCertificate (p.row session (some supersedes)) inventory
      let inventory ← insertLifecycleEvent
        (p.event session .renewed (some predecessor.lastEventId)) inventory
      let inventory ← updateState predecessor .superseded p.issuedAt supersededEventId
        session.clock inventory
      let inventory ← insertLifecycleEvent
        (supersededEvent session p supersededEventId predecessor) inventory
      return (inventory, ⟨p.certificateId, p.eventId, .active⟩)

structure RevocationRequest where
  eventId : EventId
  correlationId : CorrelationId
  requestId : RequestId
  certificateId : CertificateId
  reasonCode : RevocationReason
  revokedAt : Timestamp
  idempotencyKey : IdempotencyKey
  issuerConfirmationId : String
  deriving DecidableEq, Repr

def RevocationRequest.event (p : RevocationRequest) (session : Session)
    (target : Certificate) : LifecycleEvent where
  tenantId := session.tenantId
  eventId := p.eventId
  certificateId := target.certificateId
  eventType := .revoked
  certificateState := .revoked
  subjectId := target.subjectId
  issuerId := target.issuerId
  serialNumber := target.serialNumber
  fingerprintSha256 := target.fingerprintSha256
  notAfter := target.notAfter
  requestId := p.requestId
  correlationId := p.correlationId
  causationEventId := some target.lastEventId
  idempotencyKey := p.idempotencyKey
  actorSubjectId := some session.subjectId
  reasonCode := some p.reasonCode.text
  issuerConfirmationId := some p.issuerConfirmationId
  occurredAt := p.revokedAt
  recordedAt := session.clock

def RevocationRequest.replays (p : RevocationRequest) (session : Session)
    (existing : LifecycleEvent) : Bool :=
  existing.certificateId = p.certificateId && existing.requestId = p.requestId &&
  existing.reasonCode = some p.reasonCode.text &&
  existing.actorSubjectId = some session.subjectId &&
  existing.issuerConfirmationId = some p.issuerConfirmationId

def recordCertificateRevocation (session : Session) (p : RevocationRequest)
    (inventory : Inventory) : Except SqlError (Inventory × RecordedCertificate) := do
  require session.actorIsActive (.raised "Certificate revocation denied.")
  match inventory.events.rows.find? fun event => event.tenantId = session.tenantId &&
      event.idempotencyKey = p.idempotencyKey && event.eventType = .revoked with
  | some existing =>
      require (p.replays session existing)
        (.raised "Certificate revocation idempotency key conflicts with another request.")
      let target ← requireSome (inventory.certificate? session.tenantId existing.certificateId)
        (.raised "Certificate revocation durable state is inconsistent.")
      require (target.state = .revoked ∧ target.lastEventId = existing.eventId)
        (.raised "Certificate revocation durable state is inconsistent.")
      return (inventory, ⟨target.certificateId, existing.eventId, target.state⟩)
  | none =>
      let target ← requireSome (inventory.certificate? session.tenantId p.certificateId)
        (.raised "Certificate revocation denied.")
      require (target.state = .active ∧ target.issuedAt ≤ p.revokedAt ∧
          p.revokedAt < target.notAfter ∧ p.revokedAt ≤ session.clock + seconds 2 ∧
          (target.subjectId = session.subjectId ∨ session.actorIsTenantAdmin) ∧
          session.activeIssuer target.issuerId)
        (.raised "Certificate revocation denied.")
      let inventory ← updateState target .revoked p.revokedAt p.eventId session.clock inventory
      let inventory ← insertLifecycleEvent (p.event session target) inventory
      return (inventory, ⟨target.certificateId, p.eventId, .revoked⟩)

structure ExpirationRequest where
  tenantId : TenantId
  certificateId : CertificateId
  eventId : EventId
  correlationId : CorrelationId
  expiredAt : Timestamp
  deriving DecidableEq, Repr

def ExpirationRequest.event (p : ExpirationRequest) (clock : Timestamp)
    (target : Certificate) : LifecycleEvent where
  tenantId := p.tenantId
  eventId := p.eventId
  certificateId := target.certificateId
  eventType := .expired
  certificateState := .expired
  subjectId := target.subjectId
  issuerId := target.issuerId
  serialNumber := target.serialNumber
  fingerprintSha256 := target.fingerprintSha256
  notAfter := target.notAfter
  requestId := target.requestId
  correlationId := p.correlationId
  causationEventId := some target.lastEventId
  idempotencyKey := .certificateExpiry p.certificateId
  actorSubjectId := none
  reasonCode := some "CERTIFICATE_EXPIRED"
  issuerConfirmationId := none
  occurredAt := p.expiredAt
  recordedAt := clock

def recordDueCertificateExpiration (clock : Timestamp) (p : ExpirationRequest)
    (inventory : Inventory) : Except SqlError (Inventory × RecordedCertificate) := do
  let target ← requireSome (inventory.certificate? p.tenantId p.certificateId)
    (.raised "Certificate expiration denied.")
  if target.state = .expired then
    let existing ← requireSome (inventory.events.rows.find? fun event =>
        event.tenantId = p.tenantId && event.certificateId = p.certificateId &&
          event.eventType = .expired)
      (.raised "Certificate expiration durable state is inconsistent.")
    require (target.lastEventId = existing.eventId)
      (.raised "Certificate expiration durable state is inconsistent.")
    return (inventory, ⟨target.certificateId, existing.eventId, target.state⟩)
  else
    require (target.state = .active ∧ target.notAfter ≤ p.expiredAt ∧ p.expiredAt ≤ clock)
      (.raised "Certificate expiration denied.")
    let inventory ← updateState target .expired p.expiredAt p.eventId clock inventory
    let inventory ← insertLifecycleEvent (p.event clock target) inventory
    return (inventory, ⟨target.certificateId, p.eventId, .expired⟩)

end TenantTrust.Identity
