import TenantTrust.Identity.CertificateIssuance

/-! Building the inventory record of a verified certificate, and writing it. -/

namespace TenantTrust.Identity

open Library

/-- The identifiers that are generated for one record; an issuance has one event only. -/
structure InventoryIds where
  certificateId : CertificateId
  eventId : EventId
  correlationId : CorrelationId
  deriving DecidableEq, Repr

/-- A record that was not built, with the reason code, or not accepted by the database. -/
inductive RecordFailure where
  | denied (reasonCode : String)
  | database (failure : SqlError)
  deriving DecidableEq, Repr

structure CertificateRecord where
  tenantId : TenantId
  certificateId : CertificateId
  subjectId : SubjectId
  issuerId : IssuerId
  profileId : Nat
  serialNumber : SerialNumber
  fingerprintSha256 : Sha256Digest
  publicKeySha256 : Sha256Digest
  publicKeyAlgorithm : PublicKeyAlgorithm
  state : CertificateState
  notBefore : Timestamp
  notAfter : Timestamp
  issuedAt : Timestamp
  requestedBySubjectId : SubjectId
  requestId : RequestId
  idempotencyKey : IdempotencyKey
  issuedEventId : EventId
  lastEventId : EventId
  correlationId : CorrelationId
  supersedesCertificateId : Option CertificateId
  deriving DecidableEq, Repr

/-- The times of the request and of the certificate; the rest of the check is in the types. -/
def validateVerifiedCertificate (certificate : VerifiedCertificate) (request : NormalizedRequest) :
    Except String Unit :=
  require (certificate.notBefore ≤ request.requestedAt ∧ request.requestedAt < certificate.notAfter)
    "CERTIFICATE_VALIDITY_INVALID"

def certificateRecord (context : ResolvedContext) (request : NormalizedRequest)
    (certificate : VerifiedCertificate) (ids : InventoryIds)
    (supersedes : Option CertificateId) : CertificateRecord where
  tenantId := context.tenantId
  certificateId := ids.certificateId
  subjectId := certificate.subjectId
  issuerId := certificate.issuerId
  profileId := certificate.profileId
  serialNumber := certificate.serialNumber
  fingerprintSha256 := certificate.fingerprintSha256
  publicKeySha256 := certificate.publicKeySha256
  publicKeyAlgorithm := request.proofOfPossession.publicKeyAlgorithm
  state := .active
  notBefore := certificate.notBefore
  notAfter := certificate.notAfter
  issuedAt := request.requestedAt
  requestedBySubjectId := context.subjectId
  requestId := request.requestId
  idempotencyKey := request.idempotencyKey
  issuedEventId := ids.eventId
  lastEventId := ids.eventId
  correlationId := ids.correlationId
  supersedesCertificateId := supersedes

/-- What both builders require of the request and the certificate. -/
def recordBinding (context : ResolvedContext) (request : NormalizedRequest)
    (certificate : VerifiedCertificate) (operation : CertificateOperation) : Bool :=
  request.operation = operation && request.profileId = enrollmentProfile &&
  request.tenantId = context.tenantId && request.requestedBySubjectId = context.subjectId &&
  request.subjectId = certificate.subjectId && request.tenantId = certificate.tenantId &&
  request.profileId = certificate.profileId

def buildIssuedCertificateRecord (context : ResolvedContext) (request : NormalizedRequest)
    (certificate : VerifiedCertificate) (ids : InventoryIds) : Except String CertificateRecord := do
  require (recordBinding context request certificate .issue) "ISSUANCE_BINDING_MISMATCH"
  validateVerifiedCertificate certificate request
  return certificateRecord context request certificate ids none

structure RenewedRecord where
  record : CertificateRecord
  renewedEventId : EventId
  supersededEventId : EventId
  predecessorLastEventId : EventId
  deriving DecidableEq, Repr

def buildRenewedCertificateRecord (context : ResolvedContext) (request : NormalizedRequest)
    (previous : Certificate) (certificate : VerifiedCertificate) (ids : InventoryIds)
    (supersededEventId : EventId) : Except String RenewedRecord := do
  require (ids.eventId ≠ supersededEventId) "INVENTORY_IDS_INVALID"
  require (recordBinding context request certificate .renew ∧
      request.renewalOfCertificateId = some previous.certificateId ∧
      previous.tenantId = context.tenantId ∧ previous.subjectId = request.subjectId ∧
      previous.profileId = enrollmentProfile ∧ previous.state = .active ∧
      previous.publicKeySha256.isSome ∧
      previous.publicKeySha256 ≠ some certificate.publicKeySha256)
    "RENEWAL_BINDING_MISMATCH"
  validateVerifiedCertificate certificate request
  return {
    record := certificateRecord context request certificate ids (some previous.certificateId)
    renewedEventId := ids.eventId
    supersededEventId := supersededEventId
    predecessorLastEventId := previous.lastEventId }

/-- The parameters of the database procedures, taken from the record. -/
def CertificateRecord.parameters (record : CertificateRecord) : CertificateRequest where
  certificateId := record.certificateId
  eventId := record.issuedEventId
  correlationId := record.correlationId
  requestId := record.requestId
  subjectId := record.subjectId
  issuerId := record.issuerId
  profileId := record.profileId
  serialNumber := record.serialNumber
  fingerprintSha256 := record.fingerprintSha256
  publicKeySha256 := some record.publicKeySha256
  publicKeyAlgorithm := record.publicKeyAlgorithm
  notBefore := record.notBefore
  notAfter := record.notAfter
  issuedAt := record.issuedAt
  idempotencyKey := record.idempotencyKey

/-- The record and its insertion. The check of the reply that follows, with the code
`INVENTORY_WRITE_UNCONFIRMED`, is left out: only a repeated record of a certificate that is no
longer active fails it, and the inventory is then what it was. -/
def recordIssuedCertificate (context : ResolvedContext) (session : Session)
    (request : NormalizedRequest) (certificate : VerifiedCertificate) (ids : InventoryIds)
    (inventory : Inventory) : Except RecordFailure (Inventory × RecordedCertificate) := do
  let record ← (buildIssuedCertificateRecord context request certificate ids).mapError .denied
  (recordCertificateIssuance session record.parameters inventory).mapError .database

/-- The record of a renewal and its insertion, without the check of the reply as well. -/
def recordRenewedCertificate (context : ResolvedContext) (session : Session)
    (request : NormalizedRequest) (predecessor : Certificate) (certificate : VerifiedCertificate)
    (ids : InventoryIds) (supersededEventId : EventId) (inventory : Inventory) :
    Except RecordFailure (Inventory × RecordedCertificate) := do
  let renewed ← (buildRenewedCertificateRecord context request predecessor certificate ids
    supersededEventId).mapError .denied
  (recordCertificateRenewal session renewed.record.parameters predecessor.certificateId
    renewed.supersededEventId inventory).mapError .database

end TenantTrust.Identity
