import TenantTrust.Identity.CertificateRecords

/-! The revocation service: the issuer revokes first, and the inventory records what it
confirmed. -/

namespace TenantTrust.Identity

open Library

/-- The reason as the certificate authority spells it. -/
def RevocationReason.caText : RevocationReason → String
  | .keyCompromise => "KeyCompromise"
  | .caCompromise => "CACompromise"
  | .affiliationChanged => "AffiliationChanged"
  | .superseded => "Superseded"
  | .cessationOfOperation => "CessationOfOperation"
  | .privilegeWithdrawn => "PrivilegeWithdrawn"
  | .aaCompromise => "AACompromise"

structure RevokeRequest where
  requestId : RequestId
  certificateId : CertificateId
  reasonCode : RevocationReason
  idempotencyKey : IdempotencyKey
  deriving DecidableEq, Repr

structure NormalizedRevocation where
  tenantId : TenantId
  requestedBySubjectId : SubjectId
  requestedAt : Timestamp
  requestId : RequestId
  certificateId : CertificateId
  reasonCode : RevocationReason
  caReasonCode : String
  idempotencyKey : IdempotencyKey
  deriving DecidableEq, Repr

structure RevocationInstruction where
  tenantId : TenantId
  certificateId : CertificateId
  subjectId : SubjectId
  issuerId : IssuerId
  serialNumber : SerialNumber
  fingerprintSha256 : Sha256Digest
  reasonCode : RevocationReason
  caReasonCode : String
  requestId : RequestId
  idempotencyKey : IdempotencyKey
  requestedAt : Timestamp
  authorityUrl : String
  deriving DecidableEq, Repr

/-- What the issuer answers. -/
structure IssuerConfirmation where
  status : String
  tenantId : TenantId
  certificateId : CertificateId
  issuerId : IssuerId
  serialNumber : SerialNumber
  fingerprintSha256 : Sha256Digest
  reasonCode : RevocationReason
  issuerConfirmationId : String
  revokedAt : Timestamp
  deriving DecidableEq, Repr

/-- An alphanumeric followed by 7 to 255 alphanumerics or one of `.`, `_`, `:`, `/`, `-`. -/
def isConfirmationId : String → Bool :=
  matchesPattern Char.isAlphanum (fun c => c.isAlphanum || c ∈ ['.', '_', ':', '/', '-']) 7 255

/-- `Number.isSafeInteger` for a count. -/
def isSafeInteger (n : Nat) : Bool := n ≤ 9007199254740991

def normalizeCertificateRevocationRequest (context : ResolvedContext) (request : RevokeRequest)
    (clock : Timestamp) : NormalizedRevocation where
  tenantId := context.tenantId
  requestedBySubjectId := context.subjectId
  requestedAt := clock
  requestId := request.requestId
  certificateId := request.certificateId
  reasonCode := request.reasonCode
  caReasonCode := request.reasonCode.caText
  idempotencyKey := request.idempotencyKey

def validateTarget (context : ResolvedContext) (request : NormalizedRevocation)
    (certificate : Option Certificate) : Except String Certificate := do
  let target ← requireSome certificate "CERTIFICATE_INELIGIBLE"
  require (target.tenantId = context.tenantId ∧ target.certificateId = request.certificateId ∧
      isSafeInteger target.version ∧ 1 ≤ target.version ∧ target.state = .active)
    "CERTIFICATE_INELIGIBLE"
  require (target.subjectId = context.subjectId ∨ .tenantAdmin ∈ context.roles)
    "CERTIFICATE_REVOCATION_UNAUTHORIZED"
  return target

/-- `requireIssuer` of the revocation package, which has one reason for every failure. -/
def requireRevocationIssuer (tenantId : TenantId) (target : Certificate)
    (issuer : Option TenantIssuer) : Except String TenantIssuer := do
  let issuer ← requireSome issuer "ACTIVE_ISSUER_REQUIRED"
  require (issuer.tenantId = tenantId ∧ issuer.issuerId = target.issuerId ∧ issuer.isActive ∧
      .revoke ∈ issuer.allowedCertificateOperations ∧ isHttpsUrl issuer.authorityUrl)
    "ACTIVE_ISSUER_REQUIRED"
  return issuer

structure PreparedRevocation where
  target : Certificate
  revocationInstruction : RevocationInstruction
  deriving DecidableEq, Repr

def revocationInstruction (request : NormalizedRevocation) (target : Certificate)
    (issuer : TenantIssuer) : RevocationInstruction where
  tenantId := request.tenantId
  certificateId := target.certificateId
  subjectId := target.subjectId
  issuerId := target.issuerId
  serialNumber := target.serialNumber
  fingerprintSha256 := target.fingerprintSha256
  reasonCode := request.reasonCode
  caReasonCode := request.caReasonCode
  requestId := request.requestId
  idempotencyKey := request.idempotencyKey
  requestedAt := request.requestedAt
  authorityUrl := issuer.authorityUrl

def prepareNormalizedRevocation (context : ResolvedContext) (request : NormalizedRevocation)
    (certificate : Option Certificate) (issuer : Option TenantIssuer) :
    Except String PreparedRevocation := do
  let target ← validateTarget context request certificate
  let issuer ← requireRevocationIssuer context.tenantId target issuer
  return ⟨target, revocationInstruction request target issuer⟩

/-- A revocation that an earlier call has recorded, beside the present state of its certificate. -/
structure ExistingRevocation where
  tenantId : TenantId
  certificateId : CertificateId
  eventId : EventId
  correlationId : CorrelationId
  requestId : RequestId
  reasonCode : Option String
  requestedBySubjectId : Option SubjectId
  issuerConfirmationId : Option String
  revokedAt : Timestamp
  state : CertificateState
  version : Nat
  deriving DecidableEq, Repr

def validateReplay (existing : ExistingRevocation) (request : NormalizedRevocation) :
    Except String ExistingRevocation := do
  require (existing.tenantId = request.tenantId ∧
      existing.certificateId = request.certificateId ∧ existing.requestId = request.requestId ∧
      existing.reasonCode = some request.reasonCode.text ∧
      existing.requestedBySubjectId = some request.requestedBySubjectId ∧
      isConfirmationId (existing.issuerConfirmationId.getD "") ∧ existing.state = .revoked ∧
      isSafeInteger existing.version ∧ 2 ≤ existing.version)
    "IDEMPOTENCY_CONFLICT"
  return existing

/-- An answer that is no record is `none`. -/
def validateIssuerConfirmation (confirmation : Option IssuerConfirmation)
    (expected : RevocationInstruction) (checkedAt : Timestamp) :
    Except String IssuerConfirmation := do
  let value ← requireSome confirmation "ISSUER_CONFIRMATION_INVALID"
  require (value.status = "revoked" ∧ value.tenantId = expected.tenantId ∧
      value.certificateId = expected.certificateId ∧ value.issuerId = expected.issuerId ∧
      value.serialNumber = expected.serialNumber ∧
      value.fingerprintSha256 = expected.fingerprintSha256 ∧
      value.reasonCode = expected.reasonCode ∧ isConfirmationId value.issuerConfirmationId)
    "ISSUER_CONFIRMATION_INVALID"
  require (expected.requestedAt ≤ value.revokedAt ∧ value.revokedAt ≤ checkedAt + seconds 2)
    "ISSUER_CONFIRMATION_INVALID"
  return value

section Repository

/-- The rows about a subject that row-level security shows to the actor. -/
def Session.shows (session : Session) (tenantId : TenantId) (subjectId : SubjectId) : Bool :=
  tenantId = session.tenantId && session.actorIsActive &&
    (subjectId = session.subjectId || session.actorIsTenantAdmin)

def loadCertificate (session : Session) (tenantId : TenantId) (certificateId : CertificateId)
    (inventory : Inventory) : Option Certificate :=
  (inventory.certificate? tenantId certificateId).filter fun row =>
    session.shows row.tenantId row.subjectId

/-- The revocation event of a tenant under an idempotency key. -/
def Inventory.revocationEvent? (inventory : Inventory) (tenantId : TenantId)
    (key : IdempotencyKey) : Option LifecycleEvent :=
  inventory.events.rows.find? fun event => event.tenantId = tenantId &&
    event.idempotencyKey = key && event.eventType = .revoked

def LifecycleEvent.existingRevocation (event : LifecycleEvent) (certificate : Certificate) :
    ExistingRevocation where
  tenantId := event.tenantId
  certificateId := event.certificateId
  eventId := event.eventId
  correlationId := event.correlationId
  requestId := event.requestId
  reasonCode := event.reasonCode
  requestedBySubjectId := event.actorSubjectId
  issuerConfirmationId := event.issuerConfirmationId
  revokedAt := event.occurredAt
  state := certificate.state
  version := certificate.version

/-- The join of the event with its certificate, as far as the actor is shown both. -/
def loadExistingRevocation (session : Session) (tenantId : TenantId) (key : IdempotencyKey)
    (inventory : Inventory) : Option ExistingRevocation := do
  let event ← (inventory.revocationEvent? tenantId key).filter fun event =>
    session.shows event.tenantId event.subjectId
  let certificate ← loadCertificate session event.tenantId event.certificateId inventory
  return event.existingRevocation certificate

/-- The row that `record_certificate_revocation` returns. -/
structure PersistedRevocation where
  certificateId : CertificateId
  eventId : EventId
  correlationId : CorrelationId
  state : CertificateState
  version : Nat
  deriving DecidableEq, Repr

/-- The procedure returns the correlation of the event and the version of the certificate as they
are stored now. -/
def Inventory.persistedRevocation (inventory : Inventory) (tenantId : TenantId)
    (recorded : RecordedCertificate) : Option PersistedRevocation := do
  let event ← inventory.events.get? recorded.eventId
  let certificate ← inventory.certificate? tenantId recorded.certificateId
  return ⟨recorded.certificateId, recorded.eventId, event.correlationId, recorded.state,
    certificate.version⟩

end Repository

/-- One call of the service with all that it is handed: the answers of its dependencies, two
readings of the clock, the generated identifiers, and the two database sessions. -/
structure RevocationCall where
  context : ResolvedContext
  request : RevokeRequest
  issuer : Option TenantIssuer
  revokeAtIssuer : RevocationInstruction → Except String (Option IssuerConfirmation)
  eventId : EventId
  correlationId : CorrelationId
  requestedAt : Timestamp
  checkedAt : Timestamp
  reading : Session
  recording : Session

inductive RevocationReply where
  | recorded (certificateId : CertificateId) (eventId : EventId) (correlationId : CorrelationId)
      (version : Nat)
  | replayed (existing : ExistingRevocation)
  deriving DecidableEq, Repr

inductive RevocationFailure where
  | denied (reasonCode : String)
  | issuer (message : String)
  | database (failure : SqlError)
  deriving DecidableEq, Repr

namespace RevocationCall

variable (call : RevocationCall)

def normalizedRequest : NormalizedRevocation :=
  normalizeCertificateRevocationRequest call.context call.request call.requestedAt

def existing (loaded : Inventory) : Option ExistingRevocation :=
  loadExistingRevocation call.reading call.context.tenantId call.request.idempotencyKey loaded

def prepare (loaded : Inventory) : Except String PreparedRevocation :=
  prepareNormalizedRevocation call.context call.normalizedRequest
    (loadCertificate call.reading call.context.tenantId call.request.certificateId loaded)
    call.issuer

def parameters (confirmation : IssuerConfirmation) : RevocationRequest where
  eventId := call.eventId
  correlationId := call.correlationId
  requestId := call.request.requestId
  certificateId := call.request.certificateId
  reasonCode := call.request.reasonCode
  revokedAt := confirmation.revokedAt
  idempotencyKey := call.request.idempotencyKey
  issuerConfirmationId := confirmation.issuerConfirmationId

/-- The part of a call after the issuer has been instructed. -/
def confirm (prepared : PreparedRevocation) (stored : Inventory) :
    Except RevocationFailure (Inventory × RevocationReply) := do
  let answer ← (call.revokeAtIssuer prepared.revocationInstruction).mapError .issuer
  let confirmation ← (validateIssuerConfirmation answer prepared.revocationInstruction
    call.checkedAt).mapError .denied
  let (after, recorded) ← (recordCertificateRevocation call.recording
    (call.parameters confirmation) stored).mapError .database
  let persisted ← requireSome (after.persistedRevocation call.recording.tenantId recorded)
    (.denied "REVOCATION_WRITE_UNCONFIRMED")
  require (persisted.certificateId = prepared.target.certificateId ∧ persisted.state = .revoked ∧
      isSafeInteger persisted.version ∧ prepared.target.version + 1 ≤ persisted.version)
    (.denied "REVOCATION_WRITE_UNCONFIRMED")
  return (after, .recorded prepared.target.certificateId persisted.eventId persisted.correlationId
    persisted.version)

/-- The instructions that reach the issuer, and the result. The inventory that the recording
finds may be a later one than the inventory that was read. -/
def revoke (loaded stored : Inventory) : List RevocationInstruction ×
    Except RevocationFailure (Inventory × RevocationReply) :=
  match call.existing loaded with
  | some existing =>
      ([], ((validateReplay existing call.normalizedRequest).mapError .denied).map fun replayed =>
        (stored, .replayed replayed))
  | none =>
      match call.prepare loaded with
      | .error reasonCode => ([], .error (.denied reasonCode))
      | .ok prepared => ([prepared.revocationInstruction], call.confirm prepared stored)

end RevocationCall

end TenantTrust.Identity
