import TenantTrust.Identity.Recordability

/-! Whether the inventory records what the signer signed and the verification accepted. -/

namespace TenantTrust.Identity

open Library

section Prepared

variable {platform : EnrollmentPlatform} {context : ResolvedContext} {request : EnrollmentRequest}
  {target : Option TargetMembership} {issuer : Option TenantIssuer} {requestClock : Timestamp}
  {prepared : PreparedRequest} {loaded : Option Certificate}

/-- What every prepared request says about its request and its signing instruction. -/
structure PreparedRequest.Describes (prepared : PreparedRequest) (context : ResolvedContext)
    (operation : CertificateOperation) : Prop where
  operation : prepared.normalizedRequest.operation = operation
  profile : prepared.normalizedRequest.profileId = enrollmentProfile
  tenant : prepared.normalizedRequest.tenantId = context.tenantId
  requester : prepared.normalizedRequest.requestedBySubjectId = context.subjectId
  instructedTenant : prepared.signingInstruction.tenantId = context.tenantId
  instructedSubject : prepared.signingInstruction.subjectId = prepared.normalizedRequest.subjectId
  instructedIssuer : prepared.signingInstruction.issuerId = prepared.issuer.issuerId
  authorized : prepared.normalizedRequest.subjectId = context.subjectId ∨
    .tenantAdmin ∈ context.roles

theorem normalizeCertificateRequest_eq {operation : CertificateOperation}
    {normalized : NormalizedRequest}
    (succeeds : normalizeCertificateRequest platform context request operation requestClock =
      .ok normalized) :
    normalized.operation = operation ∧ normalized.profileId = enrollmentProfile ∧
      normalized.tenantId = context.tenantId ∧
      normalized.requestedBySubjectId = context.subjectId := by
  simp only [normalizeCertificateRequest, Checked.bind_eq_ok, Checked.require_eq_ok,
    Checked.pure_eq_ok, exists_const] at succeeds
  rcases succeeds with ⟨_, _, _, _, _, rfl⟩
  exact ⟨rfl, rfl, rfl, rfl⟩

theorem authorizeTarget_allows {normalized : NormalizedRequest}
    (succeeds : authorizeTarget context normalized target = .ok ()) :
    normalized.subjectId = context.subjectId ∨ .tenantAdmin ∈ context.roles := by
  simp only [authorizeTarget, Checked.bind_eq_ok, Checked.require_eq_ok, exists_const] at succeeds
  rcases succeeds with ⟨_, _, _, allowed⟩
  exact allowed

theorem prepareCertificateIssuance_describes
    (succeeds : prepareCertificateIssuance platform context request target issuer requestClock =
      .ok prepared) : prepared.Describes context .issue := by
  simp only [prepareCertificateIssuance, Checked.bind_eq_ok, Checked.pure_eq_ok] at succeeds
  rcases succeeds with ⟨normalized, normalizes, _, authorizes, resolved, _, rfl⟩
  have facts := normalizeCertificateRequest_eq normalizes
  exact ⟨facts.1, facts.2.1, facts.2.2.1, facts.2.2.2, facts.2.2.1, rfl, rfl,
    authorizeTarget_allows authorizes⟩

/-- A prepared renewal keeps an eligible predecessor and asks for another key. -/
structure PreparedRequest.Renews (prepared : PreparedRequest) (context : ResolvedContext)
    (predecessor : Certificate) : Prop where
  kept : prepared.predecessor = some predecessor
  tenant : predecessor.tenantId = context.tenantId
  named : prepared.normalizedRequest.renewalOfCertificateId = some predecessor.certificateId
  subject : predecessor.subjectId = prepared.normalizedRequest.subjectId
  profile : predecessor.profileId = enrollmentProfile
  active : predecessor.state = .active
  keyed : predecessor.publicKeySha256.isSome = true
  window : renewalWindowOpen predecessor.notBefore predecessor.notAfter
    prepared.normalizedRequest.requestedAt = true
  freshKey : ∃ key, prepared.signingInstruction.publicKeySha256 = some key ∧
    predecessor.publicKeySha256 ≠ some key

theorem prepareCertificateRenewal_describes
    (succeeds : prepareCertificateRenewal platform context request target loaded issuer
      requestClock = .ok prepared) :
    prepared.Describes context .renew ∧
      ∃ predecessor, loaded = some predecessor ∧ prepared.Renews context predecessor := by
  simp only [prepareCertificateRenewal, Checked.bind_eq_ok, Checked.require_eq_ok,
    Checked.requireSome_eq_ok, Checked.pure_eq_ok, exists_const] at succeeds
  rcases succeeds with ⟨normalized, normalizes, _, authorizes, predecessor, found, eligible,
    window, inspected, _, _, rotated, resolved, _, rfl⟩
  have facts := normalizeCertificateRequest_eq normalizes
  constructor
  · exact ⟨facts.1, facts.2.1, facts.2.2.1, facts.2.2.2, facts.2.2.1, rfl, rfl,
      authorizeTarget_allows authorizes⟩
  · exact ⟨predecessor, found, rfl, eligible.1, eligible.2.1.symm, eligible.2.2.1,
      eligible.2.2.2.1, eligible.2.2.2.2.1, eligible.2.2.2.2.2, window, _, rfl, Ne.symm rotated⟩

/-- What the verification takes over from the signing instruction, and the part of its time
check that the inventory asks for as well. -/
structure VerifiedCertificate.Fulfils (certificate : VerifiedCertificate)
    (prepared : PreparedRequest) : Prop where
  profile : certificate.profileId = enrollmentProfile
  tenant : certificate.tenantId = prepared.signingInstruction.tenantId
  subject : certificate.subjectId = prepared.signingInstruction.subjectId
  issuer : certificate.issuerId = prepared.signingInstruction.issuerId
  key : ∀ digest ∈ prepared.signingInstruction.publicKeySha256,
    digest = certificate.publicKeySha256
  unexpired : prepared.normalizedRequest.requestedAt < certificate.notAfter

theorem verifyIssuedCertificate_fulfils {pem : String} {certificate : VerifiedCertificate}
    (succeeds : verifyIssuedCertificate platform pem prepared = .ok certificate) :
    certificate.Fulfils prepared := by
  simp only [verifyIssuedCertificate, Checked.bind_eq_ok, Checked.require_eq_ok,
    Checked.requireSome_eq_ok, Checked.pure_eq_ok, exists_const] at succeeds
  rcases succeeds with ⟨_, _, _, _, _, _, _, _, _, key, _, tolerated, _, _, _, _, rfl⟩
  simp only [validityTolerated, Bool.and_eq_true, decide_eq_true_eq] at tolerated
  exact ⟨rfl, rfl, rfl, rfl, key, tolerated.1.1.2⟩

/-- The membership, the role and the issuer that the request was prepared with still hold in
the session that records the certificate. -/
structure Session.Confirms (session : Session) (context : ResolvedContext)
    (prepared : PreparedRequest) : Prop where
  tenant : session.tenantId = context.tenantId
  actor : session.subjectId = context.subjectId
  active : session.actorIsActive = true
  role : session.actorIsTenantAdmin = decide (.tenantAdmin ∈ context.roles)
  member : session.activeMember prepared.normalizedRequest.subjectId = true
  issuer : session.activeIssuer prepared.issuer.issuerId = true

/-- The parameters under which a verified certificate is recorded. -/
def PreparedRequest.parameters (prepared : PreparedRequest) (context : ResolvedContext)
    (certificate : VerifiedCertificate) (ids : InventoryIds) : CertificateRequest :=
  (certificateRecord context prepared.normalizedRequest certificate ids none).parameters

section Verified

variable {certificate : VerifiedCertificate} {session : Session} (ids : InventoryIds)
  {operation : CertificateOperation}

theorem parameters_permitted (describes : prepared.Describes context operation)
    (fulfils : certificate.Fulfils prepared) (confirms : session.Confirms context prepared) :
    (prepared.parameters context certificate ids).permitted session = true := by
  have subject : certificate.subjectId = prepared.normalizedRequest.subjectId :=
    fulfils.subject.trans describes.instructedSubject
  have issuer : certificate.issuerId = prepared.issuer.issuerId :=
    fulfils.issuer.trans describes.instructedIssuer
  have allowed := describes.authorized
  simp only [CertificateRequest.permitted, PreparedRequest.parameters,
    CertificateRecord.parameters, certificateRecord, Bool.and_eq_true, Bool.or_eq_true,
    decide_eq_true_eq, confirms.actor, confirms.role, subject, issuer]
  exact ⟨⟨⟨confirms.active, allowed⟩, confirms.member⟩, confirms.issuer⟩

theorem recordBinding_holds (describes : prepared.Describes context operation)
    (fulfils : certificate.Fulfils prepared) :
    recordBinding context prepared.normalizedRequest certificate operation = true := by
  have subject : prepared.normalizedRequest.subjectId = certificate.subjectId :=
    describes.instructedSubject.symm.trans fulfils.subject.symm
  have tenant : context.tenantId = certificate.tenantId :=
    describes.instructedTenant.symm.trans fulfils.tenant.symm
  simp [recordBinding, describes.operation, describes.profile, describes.tenant,
    describes.requester, fulfils.profile, subject, tenant]

/-- A verified issuance is recorded exactly when it is not dated after its request and its
identifiers are free. -/
theorem recordIssuedCertificate_accepts {inventory : Inventory} (stored : inventory.Stored)
    (describes : prepared.Describes context .issue) (fulfils : certificate.Fulfils prepared)
    (confirms : session.Confirms context prepared)
    (clock : prepared.normalizedRequest.requestedAt ≤ session.clock) :
    (∃ result, recordIssuedCertificate context session prepared.normalizedRequest certificate ids
        inventory = .ok result) ↔
      certificate.notBefore ≤ prepared.normalizedRequest.requestedAt ∧
        (prepared.parameters context certificate ids).IssuanceFresh session inventory := by
  have binding := recordBinding_holds describes fulfils
  have permitted := parameters_permitted ids describes fulfils confirms
  simp only [recordIssuedCertificate, buildIssuedCertificateRecord, validateVerifiedCertificate,
    Checked.bind_eq_ok, Checked.mapError_eq_ok, Checked.require_eq_ok, Checked.pure_eq_ok,
    exists_const, binding, true_and, fulfils.unexpired, and_true]
  constructor
  · intro accepted
    rcases accepted with ⟨result, _, ⟨dated, rfl⟩, recorded⟩
    exact ⟨dated, (recordCertificateIssuance_accepts stored clock permitted
      ⟨dated, fulfils.unexpired⟩).mp ⟨result, recorded⟩⟩
  · intro accepted
    rcases (recordCertificateIssuance_accepts stored clock permitted
      ⟨accepted.1, fulfils.unexpired⟩).mpr accepted.2 with ⟨result, recorded⟩
    exact ⟨result, _, ⟨accepted.1, rfl⟩, recorded⟩

/-- The database decides about the predecessor as the service does, window included. -/
theorem renewable_eq (p : CertificateRequest) (predecessor : Certificate) :
    renewable p predecessor =
      ((predecessor.subjectId = p.subjectId && predecessor.profileId = p.profileId &&
        predecessor.state = .active && predecessor.publicKeySha256.isSome &&
        predecessor.publicKeySha256 ≠ p.publicKeySha256) &&
      renewalWindowOpen predecessor.notBefore predecessor.notAfter p.issuedAt) := by
  have positive : predecessor.notBefore ≤ p.issuedAt → p.issuedAt < predecessor.notAfter →
      0 < predecessor.notAfter - predecessor.notBefore := by
    unfold Timestamp at *
    omega
  rw [Bool.eq_iff_iff]
  simp only [renewable, renewalWindowOpen, Bool.and_eq_true, decide_eq_true_eq]
  constructor
  · intro holds
    exact ⟨holds.1.1.1, ⟨⟨positive holds.1.1.2 holds.1.2, holds.1.1.2⟩, holds.1.2⟩, holds.2⟩
  · intro holds
    exact ⟨⟨⟨holds.1, holds.2.1.1.2⟩, holds.2.1.2⟩, holds.2.2⟩

theorem parameters_renewable {predecessor : Certificate}
    (describes : prepared.Describes context .renew) (renews : prepared.Renews context predecessor)
    (fulfils : certificate.Fulfils prepared) :
    renewable (prepared.parameters context certificate ids) predecessor = true := by
  have subject : predecessor.subjectId = certificate.subjectId := by
    rw [renews.subject, ← describes.instructedSubject, fulfils.subject]
  rcases renews.freshKey with ⟨key, instructed, other⟩
  have signed : key = certificate.publicKeySha256 := fulfils.key key instructed
  rw [signed] at other
  rw [renewable_eq]
  simp only [Bool.and_eq_true, decide_eq_true_eq]
  exact ⟨⟨⟨⟨⟨subject, renews.profile.trans fulfils.profile.symm⟩, renews.active⟩, renews.keyed⟩,
    other⟩, renews.window⟩

theorem recordRenewedCertificate_accepts {inventory : Inventory} {predecessor : Certificate}
    {supersededEventId : EventId} (stored : inventory.Stored)
    (describes : prepared.Describes context .renew) (renews : prepared.Renews context predecessor)
    (fulfils : certificate.Fulfils prepared) (confirms : session.Confirms context prepared)
    (clock : prepared.normalizedRequest.requestedAt ≤ session.clock)
    (unchanged : predecessor ∈ inventory.certificates) :
    (∃ result, recordRenewedCertificate context session prepared.normalizedRequest predecessor
        certificate ids supersededEventId inventory = .ok result) ↔
      certificate.notBefore ≤ prepared.normalizedRequest.requestedAt ∧
        ids.eventId ≠ supersededEventId ∧
        (prepared.parameters context certificate ids).RenewalFresh session predecessor
          supersededEventId inventory := by
  have binding := recordBinding_holds describes fulfils
  have permitted := parameters_permitted ids describes fulfils confirms
  have eligible := parameters_renewable ids describes renews fulfils
  have found : inventory.certificate? session.tenantId predecessor.certificateId =
      some predecessor := by
    rw [Inventory.certificate?, confirms.tenant, ← renews.tenant]
    exact Table.get?_of_mem unchanged
  have otherKey : predecessor.publicKeySha256 ≠ some certificate.publicKeySha256 := by
    have parts := eligible
    rw [renewable_eq] at parts
    simp only [Bool.and_eq_true, decide_eq_true_eq] at parts
    exact parts.1.2
  simp only [recordRenewedCertificate, buildRenewedCertificateRecord, validateVerifiedCertificate,
    Checked.bind_eq_ok, Checked.mapError_eq_ok, Checked.require_eq_ok, Checked.pure_eq_ok,
    exists_const, binding, renews.named, renews.tenant, renews.subject, renews.profile,
    renews.active, renews.keyed, otherKey, true_and, fulfils.unexpired, and_true, ne_eq,
    not_false_eq_true]
  constructor
  · intro accepted
    rcases accepted with ⟨result, _, ⟨distinct, dated, rfl⟩, recorded⟩
    exact ⟨dated, distinct, (recordCertificateRenewal_accepts stored clock permitted
      ⟨dated, fulfils.unexpired⟩ distinct found eligible).mp ⟨result, recorded⟩⟩
  · intro accepted
    rcases accepted with ⟨dated, distinct, fresh⟩
    rcases (recordCertificateRenewal_accepts stored clock permitted ⟨dated, fulfils.unexpired⟩
      distinct found eligible).mpr fresh with ⟨result, recorded⟩
    exact ⟨result, _, ⟨distinct, dated, rfl⟩, recorded⟩

end Verified

end Prepared

/-- What the verification accepts is recorded exactly when its validity has begun by the time of
the request and what it is recorded under is free; and the renewal window of the service is
the one of the database. -/
theorem signed_certificate_recordable (platform : EnrollmentPlatform) (ops : List InventoryOp) :
    (∀ context request target issuer requestClock prepared pem certificate session ids,
      prepareCertificateIssuance platform context request target issuer requestClock =
          .ok prepared →
        verifyIssuedCertificate platform pem prepared = .ok certificate →
        session.Confirms context prepared →
        prepared.normalizedRequest.requestedAt ≤ session.clock →
        ((∃ result, recordIssuedCertificate context session prepared.normalizedRequest certificate
            ids (Transaction.run applyInventory .empty ops) = .ok result) ↔
          certificate.notBefore ≤ prepared.normalizedRequest.requestedAt ∧
            (prepared.parameters context certificate ids).IssuanceFresh session
              (Transaction.run applyInventory .empty ops))) ∧
    (∀ context request target predecessor issuer requestClock prepared pem certificate session ids
        supersededEventId,
      prepareCertificateRenewal platform context request target (some predecessor) issuer
          requestClock = .ok prepared →
        verifyIssuedCertificate platform pem prepared = .ok certificate →
        session.Confirms context prepared →
        prepared.normalizedRequest.requestedAt ≤ session.clock →
        predecessor ∈ (Transaction.run applyInventory .empty ops).certificates →
        ((∃ result, recordRenewedCertificate context session prepared.normalizedRequest predecessor
            certificate ids supersededEventId (Transaction.run applyInventory .empty ops) =
              .ok result) ↔
          certificate.notBefore ≤ prepared.normalizedRequest.requestedAt ∧
            ids.eventId ≠ supersededEventId ∧
            (prepared.parameters context certificate ids).RenewalFresh session predecessor
              supersededEventId (Transaction.run applyInventory .empty ops))) ∧
    ∀ p predecessor, renewable p predecessor =
      ((predecessor.subjectId = p.subjectId && predecessor.profileId = p.profileId &&
        predecessor.state = .active && predecessor.publicKeySha256.isSome &&
        predecessor.publicKeySha256 ≠ p.publicKeySha256) &&
      renewalWindowOpen predecessor.notBefore predecessor.notAfter p.issuedAt) := by
  have stored := applyInventory_run_stored ops
  refine ⟨?_, ?_, renewable_eq⟩
  · intro context request target issuer requestClock prepared pem certificate session ids prepares
      verifies confirms clock
    exact recordIssuedCertificate_accepts ids stored (prepareCertificateIssuance_describes prepares)
      (verifyIssuedCertificate_fulfils verifies) confirms clock
  · intro context request target predecessor issuer requestClock prepared pem certificate session
      ids supersededEventId prepares verifies confirms clock unchanged
    rcases prepareCertificateRenewal_describes prepares with ⟨describes, other, found, renews⟩
    cases found
    exact recordRenewedCertificate_accepts ids stored describes renews
      (verifyIssuedCertificate_fulfils verifies) confirms clock unchanged

/-! A certificate whose validity begins half a second after its request, inside the ten seconds
that the verification tolerates, and one that is dated back as the profile asks. -/

namespace EnrollmentScenario

def csrPem : String :=
  "-----BEGIN CERTIFICATE REQUEST-----\nMIIBCjCBsQIBADBPMU0wSwYDVQQD\n-----END CERTIFICATE REQUEST-----\n"

def earlyPem : String :=
  "-----BEGIN CERTIFICATE-----\nMIIB4TCCAYegAwIBAgIQAAAAAAAAAAAAAAAAAAAAATAK\n-----END CERTIFICATE-----\n"

def backdatedPem : String :=
  "-----BEGIN CERTIFICATE-----\nMIIB4TCCAYegAwIBAgIQAAAAAAAAAAAAAAAAAAAAATBK\n-----END CERTIFICATE-----\n"

def issuerPem : String :=
  "-----BEGIN CERTIFICATE-----\nMIIBszCCAVmgAwIBAgIQAAAAAAAAAAAAAAAAAAAAAjAK\n-----END CERTIFICATE-----\n"

def leaf (validFrom : Int) : X509Certificate where
  subject := "O=tnt_1\nCN=sub_1"
  subjectAltName := some "URI:urn:tenant-trust:identity:v1:tenant:tnt_1:subject:sub_1"
  ca := false
  asymmetricKeyType := "ec"
  namedCurve := some "prime256v1"
  publicKeySpki := [48, 89]
  keyUsage := ["1.3.6.1.5.5.7.3.2"]
  validFrom := validFrom
  validTo := validFrom + 3600
  serialNumber := "0A"
  fingerprint256 := String.ofList (List.replicate 64 'B')

def renewedPem : String :=
  "-----BEGIN CERTIFICATE-----\nMIIB4TCCAYegAwIBAgIQAAAAAAAAAAAAAAAAAAAAAzAK\n-----END CERTIFICATE-----\n"

def renewedLeaf : X509Certificate :=
  { leaf 1760002880 with
    publicKeySpki := [48, 89, 48]
    serialNumber := "0B"
    fingerprint256 := String.ofList (List.replicate 64 'C') }

def authority : X509Certificate :=
  { leaf 1750000000 with
    subject := "O=tnt_1\nCN=Alpha Intermediate"
    subjectAltName := none
    ca := true }

def platform : EnrollmentPlatform where
  sha256Text text := ⟨text.length⟩
  sha256Bytes bytes := ⟨bytes.length⟩
  tenantText tenantId := "tnt_" ++ Nat.repr tenantId.value
  subjectText subjectId := "sub_" ++ Nat.repr subjectId.value
  parseCertificate pem :=
    if pem = earlyPem then some (leaf 1760000001)
    else if pem = backdatedPem then some (leaf 1759999940)
    else if pem = renewedPem then some renewedLeaf
    else if pem = issuerPem then some authority
    else none
  checkIssued _ _ := true
  verify _ _ := true
  inspectCertificateRequest _ := some ⟨⟨3⟩, .ecdsaP256⟩

def context : ResolvedContext := ⟨⟨1⟩, ⟨1⟩, [.tenantMember]⟩

def request : EnrollmentRequest where
  requestId := ⟨1⟩
  profileId := 1
  subjectId := ⟨1⟩
  requestedValiditySeconds := 3600
  proofOfPossession := ⟨csrPem, ⟨csrPem.length⟩, .ecdsaP256⟩
  renewalOfCertificateId := none
  idempotencyKey := .requested 1

def membership : TargetMembership := ⟨⟨1⟩, ⟨1⟩, true, true, true⟩

def issuer : TenantIssuer where
  tenantId := ⟨1⟩
  issuerId := ⟨1⟩
  isActive := true
  allowedCertificateOperations := [.issue, .renew]
  issuerName := "Alpha Intermediate"
  authorityUrl := "https://ca.tenant-trust.test"
  issuerCertificatePem := issuerPem

def requestedAt : Timestamp := 1760000000500

def normalized : NormalizedRequest where
  requestId := ⟨1⟩
  profileId := 1
  operation := .issue
  tenantId := ⟨1⟩
  subjectId := ⟨1⟩
  requestedBySubjectId := ⟨1⟩
  requestedAt := requestedAt
  requestedValiditySeconds := 3600
  proofOfPossession := request.proofOfPossession
  renewalOfCertificateId := none
  idempotencyKey := .requested 1

def prepared : PreparedRequest where
  normalizedRequest := normalized
  issuer := issuer
  predecessor := none
  signingInstruction := buildSigningInstruction platform normalized issuer none none

def certificate (pem : String) (validFrom : Int) : VerifiedCertificate where
  certificatePem := pem
  profileId := 1
  tenantId := ⟨1⟩
  subjectId := ⟨1⟩
  issuerId := ⟨1⟩
  serialNumber := ⟨10⟩
  fingerprintSha256 := ⟨0xbbbbbbbbbbbbbbbbbbbbbbbbbbbbbbbbbbbbbbbbbbbbbbbbbbbbbbbbbbbbbbbb⟩
  publicKeySha256 := ⟨2⟩
  notBefore := seconds validFrom
  notAfter := seconds (validFrom + 3600)

def session : Session where
  tenantId := ⟨1⟩
  subjectId := ⟨1⟩
  actorIsActive := true
  actorIsTenantAdmin := false
  activeMember subjectId := subjectId = ⟨1⟩
  activeIssuer issuerId := issuerId = ⟨1⟩
  clock := requestedAt + 40

def ids : InventoryIds := ⟨⟨1⟩, ⟨1⟩, ⟨1⟩⟩

/-- The request is prepared, and both certificates pass its verification. -/
theorem enrolls :
    prepareCertificateIssuance platform context request (some membership) (some issuer)
        requestedAt = .ok prepared ∧
      verifyIssuedCertificate platform earlyPem prepared =
        .ok (certificate earlyPem 1760000001) ∧
      verifyIssuedCertificate platform backdatedPem prepared =
        .ok (certificate backdatedPem 1759999940) := by
  decide +kernel

theorem confirms : session.Confirms context prepared := ⟨rfl, rfl, rfl, rfl, rfl, rfl⟩

theorem fresh (certificate : VerifiedCertificate) :
    (prepared.parameters context certificate ids).IssuanceFresh session
      (Transaction.run applyInventory .empty []) :=
  ⟨fun old member => absurd member (Table.not_mem_empty old),
    fun event member => absurd member (Table.not_mem_empty event)⟩

/-! The backdated certificate is renewed ten minutes before its end. -/

def issued : CertificateRequest :=
  prepared.parameters context (certificate backdatedPem 1759999940) ids

def predecessor : Certificate := issued.row session none

def renewalRequest : EnrollmentRequest :=
  { request with
    requestId := ⟨2⟩
    renewalOfCertificateId := some ⟨1⟩
    idempotencyKey := .requested 2 }

def renewalTime : Timestamp := 1760002940500

def renewalNormalized : NormalizedRequest :=
  { normalized with
    requestId := ⟨2⟩
    operation := .renew
    requestedAt := renewalTime
    renewalOfCertificateId := some ⟨1⟩
    idempotencyKey := .requested 2 }

def renewalPrepared : PreparedRequest where
  normalizedRequest := renewalNormalized
  issuer := issuer
  predecessor := some predecessor
  signingInstruction := buildSigningInstruction platform renewalNormalized issuer (some ⟨3⟩)
    (some ⟨2⟩)

def renewedCertificate : VerifiedCertificate :=
  { certificate renewedPem 1760002880 with
    serialNumber := ⟨11⟩
    fingerprintSha256 := ⟨0xcccccccccccccccccccccccccccccccccccccccccccccccccccccccccccccccc⟩
    publicKeySha256 := ⟨3⟩ }

def renewalSession : Session := { session with clock := renewalTime + 40 }

def renewalIds : InventoryIds := ⟨⟨2⟩, ⟨2⟩, ⟨2⟩⟩

def beforeRenewal : Inventory :=
  Transaction.run applyInventory .empty [.issue session issued]

/-- The renewal is prepared and its certificate passes the verification, and the inventory with
the predecessor alone holds nothing that the renewal's row and events would meet. -/
theorem renews :
    prepareCertificateRenewal platform context renewalRequest (some membership)
        (some predecessor) (some issuer) renewalTime = .ok renewalPrepared ∧
      verifyIssuedCertificate platform renewedPem renewalPrepared = .ok renewedCertificate ∧
      beforeRenewal.certificates.get? (⟨1⟩, ⟨1⟩) = some predecessor ∧
      beforeRenewal.byIdempotencyKey ⟨1⟩ (.requested 2) = none ∧
      (∀ old ∈ beforeRenewal.certificates, certificateConflict
        ((renewalPrepared.parameters context renewedCertificate renewalIds).row renewalSession
          (some ⟨1⟩)) old = false) ∧
      ∀ event ∈ beforeRenewal.events, event.eventId ∉ [(⟨2⟩ : EventId), ⟨3⟩] := by
  decide +kernel

theorem holds_predecessor : predecessor ∈ beforeRenewal.certificates := by
  obtain ⟨_, _, found, _⟩ := renews
  exact Table.get?_mem found

theorem fresh_renewal :
    (renewalPrepared.parameters context renewedCertificate renewalIds).RenewalFresh renewalSession
      predecessor ⟨3⟩ beforeRenewal := by
  obtain ⟨_, _, _, unknown, unused⟩ := renews
  exact (CertificateRequest.renewalFresh_iff unknown).mpr ⟨unused, by decide, by decide⟩

end EnrollmentScenario

open EnrollmentScenario in
theorem signed_certificate_recordable_backdated :
    (∃ result, recordIssuedCertificate context session normalized
      (certificate backdatedPem 1759999940) ids (Transaction.run applyInventory .empty []) =
        .ok result) ∧
    ∃ result, recordRenewedCertificate context renewalSession renewalNormalized predecessor
      renewedCertificate renewalIds ⟨3⟩
        (Transaction.run applyInventory .empty [.issue session issued]) = .ok result :=
  ⟨((signed_certificate_recordable platform []).1 context request (some membership)
      (some issuer) requestedAt prepared backdatedPem (certificate backdatedPem 1759999940) session
      ids enrolls.1 enrolls.2.2 confirms (by decide)).mpr ⟨by decide, fresh _⟩,
    ((signed_certificate_recordable platform [.issue session issued]).2.1 context
      renewalRequest (some membership) predecessor (some issuer) renewalTime renewalPrepared
      renewedPem renewedCertificate renewalSession renewalIds ⟨3⟩ renews.1 renews.2.1
      ⟨rfl, rfl, rfl, rfl, rfl, rfl⟩ (by decide) holds_predecessor).mpr
      ⟨by decide, by decide, fresh_renewal⟩⟩

/-- The signer may start the validity half a second after the request, and then the certificate
is verified and not recorded. -/
theorem signed_certificate_unrecordable :
    ¬ ∀ (platform : EnrollmentPlatform) (ops : List InventoryOp) context request target issuer
      requestClock prepared pem certificate session ids,
      prepareCertificateIssuance platform context request target issuer requestClock =
          .ok prepared →
        verifyIssuedCertificate platform pem prepared = .ok certificate →
        session.Confirms context prepared →
        prepared.normalizedRequest.requestedAt ≤ session.clock →
        (prepared.parameters context certificate ids).IssuanceFresh session
          (Transaction.run applyInventory .empty ops) →
        ∃ result, recordIssuedCertificate context session prepared.normalizedRequest certificate ids
          (Transaction.run applyInventory .empty ops) = .ok result := by
  open EnrollmentScenario in
  intro claim
  rcases claim platform [] context request (some membership) (some issuer) requestedAt prepared
    earlyPem (certificate earlyPem 1760000001) session ids enrolls.1 enrolls.2.1 confirms
    (by decide) (fresh _) with ⟨result, recorded⟩
  cases recorded

end TenantTrust.Identity
