import TenantTrust.Api.Authorization

/-! The authoritative certificate state that every protected request revalidates. -/

namespace TenantTrust.Api

open Library Identity

structure PresentedCertificate where
  profileId : Nat
  issuerId : IssuerId
  serialNumber : SerialNumber
  fingerprintSha256 : Sha256Digest
  publicKeySha256 : Sha256Digest
  notBefore : Timestamp
  notAfter : Timestamp
  deriving DecidableEq, Repr

/-- `authenticationDigest` stands for the hexadecimal part of the authentication id. -/
structure Authentication where
  tenantId : TenantId
  subjectId : SubjectId
  authenticationDigest : Sha256Digest
  certificate : PresentedCertificate
  deriving DecidableEq, Repr

/-- The profile `tenant-client-auth-v1`. -/
def clientAuthProfile : Nat := 1

def assertPresentedCertificate (authentication : Authentication) : Except ApiError Unit :=
  require (authentication.certificate.profileId = clientAuthProfile ∧
    authentication.authenticationDigest = authentication.certificate.fingerprintSha256 ∧
    authentication.certificate.notBefore < authentication.certificate.notAfter)
    .certificateNotAccepted

/-- `PRESENTED_CERTIFICATE_QUERY` -/
def presentedCertificates (authentication : Authentication) (inventory : Inventory) :
    List Certificate :=
  inventory.certificates.rows.filter fun row =>
    row.tenantId = authentication.tenantId && row.subjectId = authentication.subjectId &&
    row.issuerId = authentication.certificate.issuerId &&
    row.profileId = authentication.certificate.profileId &&
    row.serialNumber = authentication.certificate.serialNumber &&
    row.fingerprintSha256 = authentication.certificate.fingerprintSha256 &&
    row.notBefore = authentication.certificate.notBefore &&
    row.notAfter = authentication.certificate.notAfter

inductive StatusDenial where
  | certificateNotYetValid
  | certificateExpired
  | statusSourceTimeout
  | statusSourceUnavailable
  | certificateUnknown
  | statusSourceInvalid
  | statusSourceStale
  | certificateRevoked
  | certificateSuperseded
  deriving DecidableEq, Repr

/-- `certificateStatusSafeResponse`, as the request boundary reports it. -/
def StatusDenial.response : StatusDenial → ApiError
  | .statusSourceTimeout | .statusSourceUnavailable | .statusSourceInvalid
  | .statusSourceStale => .requestStateUnavailable
  | .certificateNotYetValid | .certificateExpired | .certificateUnknown | .certificateRevoked
  | .certificateSuperseded => .certificateNotAccepted

structure AcceptedStatus where
  statusVersion : Nat
  statusObservedAt : Timestamp
  checkedAt : Timestamp
  cacheableUntil : Timestamp
  deriving DecidableEq, Repr

def maximumSourceAge : Int := seconds 5
def futureClockSkew : Int := seconds 2
def acceptedResultLifetime : Int := seconds 30

/-- `identity.lock_current_actor_certificate_status`; the failure is the raised exception. -/
def lockCurrentActorCertificateStatus (session : Session) (certificateId : CertificateId)
    (authentication : Authentication) (inventory : Inventory) :
    Except StatusDenial (Option Certificate) := do
  require session.actorIsActive .statusSourceUnavailable
  return inventory.certificates.rows.find? fun row =>
    row.tenantId = session.tenantId && row.subjectId = session.subjectId &&
    row.certificateId = certificateId &&
    row.issuerId = authentication.certificate.issuerId &&
    row.serialNumber = authentication.certificate.serialNumber &&
    row.fingerprintSha256 = authentication.certificate.fingerprintSha256

/-- The state of an authoritative status record decides between acceptance and denial. -/
def acceptState (record : Certificate) (observedAt checkedAt notAfter : Timestamp) :
    Except StatusDenial AcceptedStatus :=
  match record.state with
  | .revoked => .error .certificateRevoked
  | .expired => .error .certificateExpired
  | .superseded => .error .certificateSuperseded
  | .active => do
      let cacheDeadline := min (observedAt + acceptedResultLifetime) notAfter
      require (checkedAt < cacheDeadline) .statusSourceStale
      return ⟨record.version, observedAt, checkedAt, cacheDeadline⟩

/-- The certificate status service. The statement time of the database is the session clock;
`checkedAt` is the clock of the application. -/
def validateStatus (session : Session) (checkedAt : Timestamp) (timedOut : Bool)
    (certificateId : CertificateId) (authentication : Authentication) (inventory : Inventory) :
    Except StatusDenial AcceptedStatus := do
  let presented := authentication.certificate
  require (presented.notBefore ≤ checkedAt) .certificateNotYetValid
  require (checkedAt < presented.notAfter) .certificateExpired
  require (timedOut = false) .statusSourceTimeout
  let found ← lockCurrentActorCertificateStatus session certificateId authentication inventory
  let record ← requireSome found .certificateUnknown
  require (isPositiveVersion record.version ∧ record.tenantId = authentication.tenantId ∧
    record.certificateId = certificateId ∧ record.subjectId = authentication.subjectId ∧
    record.notBefore = presented.notBefore ∧ record.notAfter = presented.notAfter)
    .statusSourceInvalid
  require (checkedAt - session.clock ≤ maximumSourceAge ∧
    -futureClockSkew ≤ checkedAt - session.clock) .statusSourceStale
  acceptState record session.clock checkedAt presented.notAfter

structure RequestState where
  certificateId : CertificateId
  certificateStatusVersion : Nat
  authorityVersions : AuthorityVersions
  observedAt : Timestamp
  checkedAt : Timestamp
  validUntil : Timestamp
  deriving DecidableEq, Repr

/-- Checked when the state is made and again before every protected query. -/
def assertFresh (state : RequestState) (now : Timestamp) : Except ApiError Unit :=
  require (state.observedAt - futureClockSkew ≤ now ∧ now < state.validUntil)
    .requestStateUnavailable

/-- The readings of the application clock during one request, in their order of use. -/
structure RequestTimes where
  checkedAt : Timestamp
  acceptedAt : Timestamp
  stepUpAt : Timestamp
  consumptionAt : Timestamp
  provenanceAt : Timestamp
  quarantineAt : Timestamp
  operationAt : Timestamp
  deriving DecidableEq, Repr

def validateRequestState (session : Session) (times : RequestTimes) (timedOut : Bool)
    (authentication : Authentication) (context : TenantContext) (inventory : Inventory) :
    Except ApiError RequestState := do
  assertPresentedCertificate authentication
  match presentedCertificates authentication inventory with
  | [] => .error .certificateNotAccepted
  | [discovered] =>
      match validateStatus session times.checkedAt timedOut discovered.certificateId
          authentication inventory with
      | .error denial => .error denial.response
      | .ok verdict => do
          let state : RequestState := {
            certificateId := discovered.certificateId
            certificateStatusVersion := verdict.statusVersion
            authorityVersions := context.versions
            observedAt := verdict.statusObservedAt
            checkedAt := verdict.checkedAt
            validUntil := min (verdict.statusObservedAt + maximumSourceAge)
              verdict.cacheableUntil }
          assertFresh state times.acceptedAt
          return state
  | _ :: _ :: _ => .error .requestStateUnavailable

theorem acceptState_active {record : Certificate} {observedAt checkedAt notAfter : Timestamp}
    {accepted : AcceptedStatus}
    (succeeds : acceptState record observedAt checkedAt notAfter = .ok accepted) :
    record.state = .active := by
  unfold acceptState at succeeds
  cases state : record.state with
  | active => rfl
  | revoked => simp [state] at succeeds
  | expired => simp [state] at succeeds
  | superseded => simp [state] at succeeds

theorem validateStatus_active {session : Session} {checkedAt : Timestamp} {timedOut : Bool}
    {certificateId : CertificateId} {authentication : Authentication} {inventory : Inventory}
    {accepted : AcceptedStatus}
    (succeeds : validateStatus session checkedAt timedOut certificateId authentication inventory =
      .ok accepted) :
    ∃ record ∈ inventory.certificates, record.tenantId = authentication.tenantId ∧
      record.certificateId = certificateId ∧ record.state = .active := by
  simp only [validateStatus, lockCurrentActorCertificateStatus, Checked.bind_eq_ok,
    Checked.require_eq_ok, Checked.requireSome_eq_ok, Checked.pure_eq_ok,
    exists_const] at succeeds
  obtain ⟨_, _, _, found, ⟨_, lookup⟩, record, rfl, bound, _, active⟩ := succeeds
  exact ⟨record, List.mem_of_find?_eq_some lookup, bound.2.1, bound.2.2.1,
    acceptState_active active⟩

/-- A request state names a certificate of the tenant that is active in the inventory. -/
theorem validateRequestState_active {session : Session} {times : RequestTimes}
    {timedOut : Bool} {authentication : Authentication} {context : TenantContext}
    {inventory : Inventory} {state : RequestState}
    (succeeds : validateRequestState session times timedOut authentication context inventory =
      .ok state) :
    ∃ record, inventory.certificate? authentication.tenantId state.certificateId = some record ∧
      record.state = .active := by
  simp only [validateRequestState, Checked.bind_eq_ok] at succeeds
  obtain ⟨_, _, succeeds⟩ := succeeds
  split at succeeds
  · cases succeeds
  · split at succeeds
    · cases succeeds
    · rename_i verdict accepted
      simp only [Checked.bind_eq_ok, Checked.pure_eq_ok] at succeeds
      obtain ⟨_, _, rfl⟩ := succeeds
      obtain ⟨record, member, tenant, certificate, active⟩ := validateStatus_active accepted
      refine ⟨record, ?_, active⟩
      have found := Table.get?_of_mem member
      rw [Certificate.key, tenant, certificate] at found
      exact found
  · cases succeeds

end TenantTrust.Api
