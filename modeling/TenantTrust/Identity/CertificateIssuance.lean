import TenantTrust.Identity.Certificates

/-! Preparing a certificate request for the signer, and verifying what the signer returns. -/

namespace TenantTrust.Identity

open Library

inductive ContextRole where
  | tenantAdmin | tenantMember
  deriving DecidableEq, Repr

/-- The actor of a request, as the tenant context resolved it. -/
structure ResolvedContext where
  tenantId : TenantId
  subjectId : SubjectId
  roles : List ContextRole
  deriving DecidableEq, Repr

inductive CertificateOperation where
  | issue | renew | revoke
  deriving DecidableEq, Repr

structure ProofOfPossession where
  csrPem : String
  csrSha256 : Sha256Digest
  publicKeyAlgorithm : PublicKeyAlgorithm
  deriving DecidableEq, Repr

/-- The fields a caller may send; only a renewal names a certificate. -/
structure EnrollmentRequest where
  requestId : RequestId
  profileId : Nat
  subjectId : SubjectId
  requestedValiditySeconds : Int
  proofOfPossession : ProofOfPossession
  renewalOfCertificateId : Option CertificateId
  idempotencyKey : IdempotencyKey
  deriving DecidableEq, Repr

structure NormalizedRequest where
  requestId : RequestId
  profileId : Nat
  operation : CertificateOperation
  tenantId : TenantId
  subjectId : SubjectId
  requestedBySubjectId : SubjectId
  requestedAt : Timestamp
  requestedValiditySeconds : Int
  proofOfPossession : ProofOfPossession
  renewalOfCertificateId : Option CertificateId
  idempotencyKey : IdempotencyKey
  deriving DecidableEq, Repr

structure TargetMembership where
  tenantId : TenantId
  subjectId : SubjectId
  tenantIsActive : Bool
  subjectIsActive : Bool
  membershipIsActive : Bool
  deriving DecidableEq, Repr

structure TenantIssuer where
  tenantId : TenantId
  issuerId : IssuerId
  isActive : Bool
  allowedCertificateOperations : List CertificateOperation
  issuerName : String
  authorityUrl : String
  issuerCertificatePem : String
  deriving DecidableEq, Repr

structure SigningInstruction where
  operation : CertificateOperation
  tenantId : TenantId
  subjectId : SubjectId
  issuerId : IssuerId
  issuerName : String
  authorityUrl : String
  profileId : Nat
  renewalOfCertificateId : Option CertificateId
  proofOfPossession : ProofOfPossession
  publicKeySha256 : Option Sha256Digest
  rotatesFromPublicKeySha256 : Option Sha256Digest
  commonName : String
  organizationName : String
  subjectAlternativeName : String
  notBefore : Timestamp
  notAfter : Timestamp
  deriving DecidableEq, Repr

/-- What the signer and the verification work from; a renewal also keeps its predecessor. -/
structure PreparedRequest where
  normalizedRequest : NormalizedRequest
  issuer : TenantIssuer
  predecessor : Option Certificate
  signingInstruction : SigningInstruction
  deriving DecidableEq, Repr

structure InspectedRequest where
  publicKeySha256 : Sha256Digest
  publicKeyAlgorithm : PublicKeyAlgorithm
  deriving DecidableEq, Repr

/-- The parsed fields of an X.509 certificate; its times are whole seconds. -/
structure X509Certificate where
  subject : String
  subjectAltName : Option String
  ca : Bool
  asymmetricKeyType : String
  namedCurve : Option String
  publicKeySpki : List UInt8
  keyUsage : List String
  validFrom : Int
  validTo : Int
  serialNumber : String
  fingerprint256 : String
  deriving DecidableEq, Repr

/-- The parts of the surroundings that the package is handed: digests and X.509 from the
platform, the layout of identifiers as text, and the inspection of signing requests. -/
structure EnrollmentPlatform where
  sha256Text : String → Sha256Digest
  sha256Bytes : List UInt8 → Sha256Digest
  tenantText : TenantId → String
  subjectText : SubjectId → String
  parseCertificate : String → Option X509Certificate
  checkIssued : X509Certificate → X509Certificate → Bool
  verify : X509Certificate → X509Certificate → Bool
  inspectCertificateRequest : String → Option InspectedRequest

/-- `tenant-client-auth-v1` -/
def enrollmentProfile : Nat := 1

/-- The white space that `\s` stands for. -/
def isScriptSpace (c : Char) : Bool :=
  c ∈ ['\t', '\n', '\x0b', '\x0c', '\r', ' ', '\u00a0', '\u1680', '\u2028', '\u2029', '\u202f',
    '\u205f', '\u3000', '\ufeff'] || ('\u2000' ≤ c && c ≤ '\u200a')

/-- A header line, at least one character, a footer line and an optional line end. -/
def isCsrPem (text : String) : Bool :=
  let header := "-----BEGIN CERTIFICATE REQUEST-----".toList
  let footer := "-----END CERTIFICATE REQUEST-----".toList
  let framed (body : List Char) : Bool :=
    header.isPrefixOf body && footer.isSuffixOf body &&
      header.length + footer.length < body.length
  let body := text.toList
  framed body || (['\n'].isSuffixOf body && framed (body.take (body.length - 1))) ||
    (['\r'].isSuffixOf body && framed (body.take (body.length - 1))) ||
    (['\r', '\n'].isSuffixOf body && framed (body.take (body.length - 2)))

/-- `^https:` with two slashes and at least one character, none of them white space -/
def isHttpsUrl (text : String) : Bool :=
  let scheme := "https://".toList
  scheme.isPrefixOf text.toList && scheme.length < text.toList.length &&
    (text.toList.drop scheme.length).all fun c => !isScriptSpace c

variable (platform : EnrollmentPlatform)

def normalizeCertificateRequest (context : ResolvedContext) (request : EnrollmentRequest)
    (operation : CertificateOperation) (clock : Timestamp) : Except String NormalizedRequest := do
  require (request.renewalOfCertificateId.isSome = (operation = .renew : Bool))
    "REQUEST_FIELDS_INVALID"
  require (request.profileId = enrollmentProfile) "CERTIFICATE_PROFILE_UNSUPPORTED"
  require (300 ≤ request.requestedValiditySeconds ∧ request.requestedValiditySeconds ≤ 86400)
    "REQUESTED_VALIDITY_INVALID"
  let proof := request.proofOfPossession
  require (80 ≤ proof.csrPem.length ∧ proof.csrPem.length ≤ 8192 ∧ isCsrPem proof.csrPem)
    "CSR_INVALID"
  require (platform.sha256Text proof.csrPem = proof.csrSha256) "CSR_DIGEST_MISMATCH"
  return {
    requestId := request.requestId
    profileId := enrollmentProfile
    operation := operation
    tenantId := context.tenantId
    subjectId := request.subjectId
    requestedBySubjectId := context.subjectId
    requestedAt := clock
    requestedValiditySeconds := request.requestedValiditySeconds
    proofOfPossession := proof
    renewalOfCertificateId := request.renewalOfCertificateId
    idempotencyKey := request.idempotencyKey }

def authorizeTarget (context : ResolvedContext) (request : NormalizedRequest)
    (target : Option TargetMembership) : Except String Unit := do
  let target ← requireSome target "TARGET_MEMBERSHIP_INACTIVE"
  require (target.tenantId = context.tenantId ∧ target.subjectId = request.subjectId ∧
      target.tenantIsActive ∧ target.subjectIsActive ∧ target.membershipIsActive)
    "TARGET_MEMBERSHIP_INACTIVE"
  require (request.subjectId = context.subjectId ∨ .tenantAdmin ∈ context.roles)
    "SUBJECT_ENROLLMENT_UNAUTHORIZED"

def requireIssuer (tenantId : TenantId) (operation : CertificateOperation)
    (issuer : Option TenantIssuer) : Except String TenantIssuer := do
  let issuer ← requireSome issuer "ACTIVE_ISSUER_REQUIRED"
  require (issuer.tenantId = tenantId) "ISSUER_TENANT_MISMATCH"
  require (issuer.isActive ∧ operation ∈ issuer.allowedCertificateOperations ∧
      1 ≤ issuer.issuerName.length ∧ isHttpsUrl issuer.authorityUrl ∧
      80 ≤ issuer.issuerCertificatePem.length)
    "ACTIVE_ISSUER_REQUIRED"
  return issuer

def buildSigningInstruction (request : NormalizedRequest) (issuer : TenantIssuer)
    (publicKeySha256 rotatesFromPublicKeySha256 : Option Sha256Digest) : SigningInstruction where
  operation := request.operation
  tenantId := request.tenantId
  subjectId := request.subjectId
  issuerId := issuer.issuerId
  issuerName := issuer.issuerName
  authorityUrl := issuer.authorityUrl
  profileId := enrollmentProfile
  renewalOfCertificateId := request.renewalOfCertificateId
  proofOfPossession := request.proofOfPossession
  publicKeySha256 := publicKeySha256
  rotatesFromPublicKeySha256 := rotatesFromPublicKeySha256
  commonName := platform.subjectText request.subjectId
  organizationName := platform.tenantText request.tenantId
  subjectAlternativeName := "urn:tenant-trust:identity:v1:tenant:" ++
    platform.tenantText request.tenantId ++ ":subject:" ++ platform.subjectText request.subjectId
  notBefore := request.requestedAt - seconds 60
  notAfter := request.requestedAt - seconds 60 + seconds request.requestedValiditySeconds

def prepareCertificateIssuance (context : ResolvedContext) (request : EnrollmentRequest)
    (target : Option TargetMembership) (issuer : Option TenantIssuer) (clock : Timestamp) :
    Except String PreparedRequest := do
  let normalized ← normalizeCertificateRequest platform context request .issue clock
  authorizeTarget context normalized target
  let issuer ← requireIssuer context.tenantId .issue issuer
  return {
    normalizedRequest := normalized
    issuer := issuer
    predecessor := none
    signingInstruction := buildSigningInstruction platform normalized issuer none none }

/-- The last quarter of the lifetime, compared after multiplying by four. Lifetimes of
certificates are whole seconds, so a quarter of one is exact in the source too. -/
def renewalWindowOpen (notBefore notAfter requestedAt : Timestamp) : Bool :=
  0 < notAfter - notBefore && notBefore ≤ requestedAt && requestedAt < notAfter &&
    4 * notAfter - (notAfter - notBefore) ≤ 4 * requestedAt

def prepareCertificateRenewal (context : ResolvedContext) (request : EnrollmentRequest)
    (target : Option TargetMembership) (loaded : Option Certificate)
    (issuer : Option TenantIssuer) (clock : Timestamp) : Except String PreparedRequest := do
  let normalized ← normalizeCertificateRequest platform context request .renew clock
  authorizeTarget context normalized target
  let predecessor ← requireSome loaded "RENEWAL_CERTIFICATE_INELIGIBLE"
  require (predecessor.tenantId = context.tenantId ∧
      some predecessor.certificateId = normalized.renewalOfCertificateId ∧
      predecessor.subjectId = normalized.subjectId ∧
      predecessor.profileId = enrollmentProfile ∧ predecessor.state = .active ∧
      predecessor.publicKeySha256.isSome)
    "RENEWAL_CERTIFICATE_INELIGIBLE"
  require (renewalWindowOpen predecessor.notBefore predecessor.notAfter normalized.requestedAt)
    "RENEWAL_WINDOW_CLOSED"
  let inspected ← requireSome
    (platform.inspectCertificateRequest normalized.proofOfPossession.csrPem)
    "CSR_INSPECTION_FAILED"
  require (inspected.publicKeyAlgorithm = normalized.proofOfPossession.publicKeyAlgorithm)
    "CSR_KEY_BINDING_MISMATCH"
  require (some inspected.publicKeySha256 ≠ predecessor.publicKeySha256) "KEY_ROTATION_REQUIRED"
  let issuer ← requireIssuer context.tenantId .renew issuer
  return {
    normalizedRequest := normalized
    issuer := issuer
    predecessor := some predecessor
    signingInstruction := buildSigningInstruction platform normalized issuer
      (some inspected.publicKeySha256) predecessor.publicKeySha256 }

section DistinguishedName

/-- A capital followed by capitals, digits and dots up to an equals sign. -/
def startsAttribute : List Char → Bool
  | [] => false
  | head :: tail =>
      head.isUpper &&
        (tail.dropWhile fun c => c.isUpper || c.isDigit || c = '.').head? = some '='

/-- Splits at line ends, and at commas (with the white space after them) that stand before the
next attribute. -/
def splitAttributes (skipping : Bool) (current : List Char) : List Char → List (List Char)
  | [] => [current.reverse]
  | c :: rest =>
      if skipping && isScriptSpace c then splitAttributes true current rest
      else if c = '\n' || (c = ',' && startsAttribute (rest.dropWhile isScriptSpace)) then
        current.reverse :: splitAttributes (c = ',') [] rest
      else splitAttributes false (c :: current) rest

/-- An entry without a name before its equals sign is a name without a value. -/
def nameAttribute (entry : List Char) : List Char × List Char :=
  match entry.takeWhile (· ≠ '='), entry.dropWhile (· ≠ '=') with
  | [], _ => (entry, [])
  | _, [] => (entry, [])
  | name, _ :: value => (name, value)

/-- Of two attributes with one name the later one counts. -/
def parseDistinguishedName (value : String) : List (List Char × List Char) :=
  ((splitAttributes false [] value.toList).map nameAttribute).reverse

def distinguishedValue (attributes : List (List Char × List Char)) (name : String) :
    Option String :=
  (attributes.lookup name.toList).map String.ofList

end DistinguishedName

structure VerifiedCertificate where
  certificatePem : String
  profileId : Nat
  tenantId : TenantId
  subjectId : SubjectId
  issuerId : IssuerId
  serialNumber : SerialNumber
  fingerprintSha256 : Sha256Digest
  publicKeySha256 : Sha256Digest
  notBefore : Timestamp
  notAfter : Timestamp
  deriving DecidableEq, Repr

def publicKeyMatches (certificate : X509Certificate) : PublicKeyAlgorithm → Bool
  | .ed25519 => certificate.asymmetricKeyType = "ed25519"
  | .ecdsaP256 => certificate.asymmetricKeyType = "ec" &&
      (certificate.namedCurve = some "prime256v1" || certificate.namedCurve = some "P-256")

def clientAuthOids : List String :=
  ["1.3.6.1.5.5.7.3.2", "TLS Web Client Authentication", "clientAuth"]

def hexDigit (c : Char) : Option Nat :=
  if c.isDigit then some (c.toNat - '0'.toNat)
  else if 'a' ≤ c ∧ c ≤ 'f' then some (c.toNat - 'a'.toNat + 10)
  else none

/-- The number that a text of exactly so many lower-case hexadecimal digits stands for. -/
def hexNumber (width : Nat) (digits : List Char) : Option Nat :=
  if digits.length = width then
    digits.foldlM (fun number c => (hexDigit c).map (16 * number + ·)) 0
  else none

/-- `toUpperCase().padStart(32, "0")`, as the number; capitals stand for the same digits. -/
def parseSerialNumber (text : String) : Option SerialNumber :=
  let digits := text.toList.map Char.toLower
  match hexNumber 32 (List.replicate (32 - digits.length) '0' ++ digits) with
  | some value => if value = 0 then none else some ⟨value⟩
  | none => none

def parseFingerprint (text : String) : Option Sha256Digest :=
  (hexNumber 64 ((text.toList.filter (· ≠ ':')).map Char.toLower)).map Identifier.mk

/-- The window that the verification tolerates around the request time. -/
def validityTolerated (notBefore notAfter requestedAt : Timestamp) (validitySeconds : Int) :
    Bool :=
  requestedAt - seconds 120 ≤ notBefore && notBefore ≤ requestedAt + seconds 10 &&
  requestedAt < notAfter && seconds 300 ≤ notAfter - notBefore &&
  notAfter - notBefore ≤ seconds validitySeconds + seconds 1

def verifyIssuedCertificate (certificatePem : String) (prepared : PreparedRequest) :
    Except String VerifiedCertificate := do
  require (80 ≤ certificatePem.length) "CERTIFICATE_INVALID"
  let certificate ← requireSome (platform.parseCertificate certificatePem) "CERTIFICATE_INVALID"
  let issuerCertificate ← requireSome
    (platform.parseCertificate prepared.issuer.issuerCertificatePem) "CERTIFICATE_INVALID"
  let expected := prepared.signingInstruction
  let subject := parseDistinguishedName certificate.subject
  let issuerSubject := parseDistinguishedName issuerCertificate.subject
  require ((∀ entry ∈ subject, entry.1 = "CN".toList ∨ entry.1 = "O".toList) ∧
      distinguishedValue subject "CN" = some expected.commonName ∧
      distinguishedValue subject "O" = some expected.organizationName)
    "CERTIFICATE_IDENTITY_MISMATCH"
  require (certificate.subjectAltName = some ("URI:" ++ expected.subjectAlternativeName))
    "CERTIFICATE_SAN_MISMATCH"
  require (certificate.ca = false ∧ issuerCertificate.ca = true ∧
      distinguishedValue issuerSubject "CN" = some expected.issuerName ∧
      platform.checkIssued certificate issuerCertificate ∧
      platform.verify certificate issuerCertificate)
    "CERTIFICATE_ISSUER_MISMATCH"
  require (publicKeyMatches certificate expected.proofOfPossession.publicKeyAlgorithm)
    "CERTIFICATE_KEY_MISMATCH"
  let publicKeySha256 := platform.sha256Bytes certificate.publicKeySpki
  require (∀ digest ∈ expected.publicKeySha256, digest = publicKeySha256)
    "CERTIFICATE_KEY_MISMATCH"
  require (certificate.keyUsage.length = 1 ∧ ∀ usage ∈ certificate.keyUsage, usage ∈ clientAuthOids)
    "CERTIFICATE_USAGE_MISMATCH"
  let notBefore := seconds certificate.validFrom
  let notAfter := seconds certificate.validTo
  require (validityTolerated notBefore notAfter prepared.normalizedRequest.requestedAt
      prepared.normalizedRequest.requestedValiditySeconds)
    "CERTIFICATE_VALIDITY_MISMATCH"
  let serialNumber ← requireSome (parseSerialNumber certificate.serialNumber)
    "CERTIFICATE_SERIAL_INVALID"
  let fingerprintSha256 ← requireSome (parseFingerprint certificate.fingerprint256)
    "CERTIFICATE_FINGERPRINT_INVALID"
  return {
    certificatePem := certificatePem
    profileId := enrollmentProfile
    tenantId := expected.tenantId
    subjectId := expected.subjectId
    issuerId := expected.issuerId
    serialNumber := serialNumber
    fingerprintSha256 := fingerprintSha256
    publicKeySha256 := publicKeySha256
    notBefore := notBefore
    notAfter := notAfter }

end TenantTrust.Identity
