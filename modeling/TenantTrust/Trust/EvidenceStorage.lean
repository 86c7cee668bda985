import TenantTrust.Library.ByteText
import TenantTrust.Trust.CanonicalJson

/-! Encryption of evidence for storage, and its retrieval. -/

namespace TenantTrust.Trust

open Library

/-- The functions of the cryptography module that storage calls. -/
structure Crypto where
  hkdfSha256 : (key salt info : Bytes) → Bytes
  sha256 : Bytes → Bytes
  /-- AES-256-GCM: the ciphertext and the authentication tag. -/
  encrypt : (key iv aad plaintext : Bytes) → Bytes × Bytes
  decrypt : (key iv aad tag ciphertext : Bytes) → Option Bytes

structure Crypto.Lawful (crypto : Crypto) : Prop where
  derived_length : ∀ key salt info, (crypto.hkdfSha256 key salt info).length = 32
  digest_length : ∀ bytes, (crypto.sha256 bytes).length = 32
  ciphertext_length : ∀ key iv aad plaintext, key.length = 32 → iv.length = 12 →
    (crypto.encrypt key iv aad plaintext).1.length = plaintext.length
  tag_length : ∀ key iv aad plaintext, key.length = 32 → iv.length = 12 →
    (crypto.encrypt key iv aad plaintext).2.length = 16
  decrypt_encrypt : ∀ key iv aad plaintext, key.length = 32 → iv.length = 12 →
    crypto.decrypt key iv aad (crypto.encrypt key iv aad plaintext).2
      (crypto.encrypt key iv aad plaintext).1 = some plaintext

def script (text : String) : ScriptString := .ofChars text.toList

/-- A pattern of one class of code units for each position. -/
def matchesEach : List (CodeUnit → Bool) → ScriptString → Bool
  | [], [] => true
  | position :: pattern, unit :: rest => position unit && matchesEach pattern rest
  | _, _ => false

def oneOf (choices : String) (unit : CodeUnit) : Bool := (script choices).contains unit

/-- `tag`, then eight, four, four, four and twelve hexadecimal digits of a version and variant
that identifiers use. -/
def identifierPattern (tag : String) : List (CodeUnit → Bool) :=
  (script tag).map (fun expected unit => decide (unit = expected))
    ++ List.replicate 8 Hex.isDigit ++ [oneOf "-"]
    ++ List.replicate 4 Hex.isDigit ++ [oneOf "-", oneOf "12345678"]
    ++ List.replicate 3 Hex.isDigit ++ [oneOf "-", oneOf "89ab"]
    ++ List.replicate 3 Hex.isDigit ++ [oneOf "-"]
    ++ List.replicate 12 Hex.isDigit

def isTenantId : ScriptString → Bool := matchesEach (identifierPattern "tnt_")
def isSubjectId : ScriptString → Bool := matchesEach (identifierPattern "sub_")
def isSourceId : ScriptString → Bool := matchesEach (identifierPattern "src_")
def isEventId : ScriptString → Bool := matchesEach (identifierPattern "evt_")
def isSha256 : ScriptString → Bool := matchesEach (List.replicate 64 Hex.isDigit)

def isLowerAlphanumeric (unit : CodeUnit) : Bool :=
  (97 ≤ unit.val && unit.val ≤ 122) || (48 ≤ unit.val && unit.val ≤ 57)

def isEncryptionKeyId : ScriptString → Bool
  | [] => false
  | first :: rest =>
      isLowerAlphanumeric first && 2 ≤ rest.length && rest.length ≤ 63
        && rest.all fun unit => isLowerAlphanumeric unit || oneOf "._-" unit

namespace EvidenceStoragePolicy

def formatVersion : ℕ := 1
def cipher : ScriptString := script "AES-256-GCM"
def ivBytes : ℕ := 12
def authenticationTagBytes : ℕ := 16
def maximumCanonicalBytes : ℕ := 65536

end EvidenceStoragePolicy

def requireCanonicalBase64Url (value : ScriptString) (expectedBytes : ℕ) (label : String) :
    Except EvidenceError Bytes := do
  let bytes := Base64Url.decode value
  require (bytes.length = expectedBytes ∧ Base64Url.encode bytes = value)
    (.typeError (label ++ " must be canonical base64url for " ++ toString expectedBytes
      ++ " bytes."))
  return bytes

structure StorageMetadata where
  tenantId : ScriptString
  subjectId : ScriptString
  sourceId : ScriptString
  eventId : ScriptString
  contentHashSha256 : ScriptString
  encryptionKeyId : ScriptString
  deriving DecidableEq

structure ProtectedEvidence extends StorageMetadata where
  formatVersion : ℕ
  cipher : ScriptString
  ivBase64Url : ScriptString
  authenticationTagBase64Url : ScriptString
  ciphertextBase64Url : ScriptString
  canonicalSha256 : ScriptString
  canonicalByteLength : ℕ
  deriving DecidableEq

def storageAadJson (metadata : StorageMetadata) : JsonValue :=
  .object [
    (script "cipher", .string EvidenceStoragePolicy.cipher),
    (script "contentHashSha256", .string metadata.contentHashSha256),
    (script "encryptionKeyId", .string metadata.encryptionKeyId),
    (script "eventId", .string metadata.eventId),
    (script "formatVersion", .number (.ofRat EvidenceStoragePolicy.formatVersion)),
    (script "sourceId", .string metadata.sourceId),
    (script "subjectId", .string metadata.subjectId),
    (script "tenantId", .string metadata.tenantId)]

def storageAad (metadata : StorageMetadata) : Except EvidenceError Bytes := do
  return Utf8.encode (← canonicalizeEvidenceJson (storageAadJson metadata))

def StorageMetadata.WellFormed (metadata : StorageMetadata) : Prop :=
  isTenantId metadata.tenantId ∧ isSubjectId metadata.subjectId ∧ isSourceId metadata.sourceId
    ∧ isEventId metadata.eventId ∧ isSha256 metadata.contentHashSha256
    ∧ isEncryptionKeyId metadata.encryptionKeyId

instance : DecidablePred StorageMetadata.WellFormed := fun _ => inferInstanceAs (Decidable (_ ∧ _))

def requireStorageBinding (metadata : StorageMetadata) : Except EvidenceError Unit :=
  require metadata.WellFormed .ingestionUnavailable

structure ProtectedBytes where
  iv : Bytes
  authenticationTag : Bytes
  ciphertext : Bytes

def requireProtectedEvidence (record : ProtectedEvidence) :
    Except EvidenceError ProtectedBytes := do
  requireStorageBinding record.toStorageMetadata
  require (record.formatVersion = EvidenceStoragePolicy.formatVersion
    ∧ record.cipher = EvidenceStoragePolicy.cipher ∧ isSha256 record.canonicalSha256
    ∧ 1 ≤ record.canonicalByteLength
    ∧ record.canonicalByteLength ≤ EvidenceStoragePolicy.maximumCanonicalBytes)
    .ingestionUnavailable
  let iv ← requireCanonicalBase64Url record.ivBase64Url EvidenceStoragePolicy.ivBytes "Evidence IV"
  let authenticationTag ← requireCanonicalBase64Url record.authenticationTagBase64Url
    EvidenceStoragePolicy.authenticationTagBytes "Evidence authentication tag"
  let ciphertext := Base64Url.decode record.ciphertextBase64Url
  require (ciphertext.length = record.canonicalByteLength
    ∧ Base64Url.encode ciphertext = record.ciphertextBase64Url) .ingestionUnavailable
  return ⟨iv, authenticationTag, ciphertext⟩

/-- A protector holds a master key of 32 bytes and a valid key identifier. -/
structure EvidenceProtector where
  masterKey : Bytes
  encryptionKeyId : ScriptString
  masterKey_length : masterKey.length = 32
  encryptionKeyId_valid : isEncryptionKeyId encryptionKeyId

def createEvidenceProtector (masterKeyBase64Url encryptionKeyId : ScriptString) :
    Except EvidenceError EvidenceProtector :=
  let masterKey := Base64Url.decode masterKeyBase64Url
  if canonical : masterKey.length = 32 ∧ Base64Url.encode masterKey = masterKeyBase64Url then
    if valid : isEncryptionKeyId encryptionKeyId then
      .ok ⟨masterKey, encryptionKeyId, canonical.1, valid⟩
    else .error (.typeError "A valid evidence encryption key ID is required.")
  else .error (.typeError
    "Evidence storage master key must be canonical base64url for 32 bytes.")

variable (crypto : Crypto)

/-- The digest of a text or of bytes, in hexadecimal. -/
def sha256Hex (bytes : Bytes) : ScriptString := Hex.encode (crypto.sha256 bytes)

def safeDigestEqual (leftHex rightHex : ScriptString) : Bool :=
  if isSha256 leftHex && isSha256 rightHex then Hex.decode leftHex = Hex.decode rightHex
  else false

namespace EvidenceProtector

variable (protector : EvidenceProtector)

def tenantKey (tenantId : ScriptString) : Bytes :=
  crypto.hkdfSha256 protector.masterKey
    (Utf8.encode (script "tenant-trust-evidence-storage-v1").text) (Utf8.encode tenantId.text)

/-- The identity fields of an envelope are strings; `iv` is what the IV generator returned. -/
def protect (envelope : JsonValue) (contentHashSha256 : ScriptString) (iv : Bytes) :
    Except EvidenceError ProtectedEvidence := do
  let canonicalBytes := Utf8.encode (← canonicalizeEvidenceJson envelope)
  let field (name : String) :=
    requireSome (envelope.stringMember? (script name)) EvidenceError.ingestionUnavailable
  let metadata : StorageMetadata := {
    tenantId := ← field "tenantId"
    subjectId := ← field "subjectId"
    sourceId := ← field "sourceId"
    eventId := ← field "eventId"
    contentHashSha256
    encryptionKeyId := protector.encryptionKeyId }
  requireStorageBinding metadata
  require (1 ≤ canonicalBytes.length
    ∧ canonicalBytes.length ≤ EvidenceStoragePolicy.maximumCanonicalBytes) .ingestionUnavailable
  require (iv.length = EvidenceStoragePolicy.ivBytes) .ingestionUnavailable
  let aad ← storageAad metadata
  let sealed := crypto.encrypt (protector.tenantKey crypto metadata.tenantId) iv aad canonicalBytes
  return {
    metadata with
    formatVersion := EvidenceStoragePolicy.formatVersion
    cipher := EvidenceStoragePolicy.cipher
    ivBase64Url := Base64Url.encode iv
    authenticationTagBase64Url := Base64Url.encode sealed.2
    ciphertextBase64Url := Base64Url.encode sealed.1
    canonicalSha256 := sha256Hex crypto canonicalBytes
    canonicalByteLength := canonicalBytes.length }

/-- Whatever fails, the caller learns only that the evidence is unavailable. -/
def unprotect (record : ProtectedEvidence) : Except EvidenceError Bytes :=
  Except.mapError (fun _ => EvidenceError.ingestionUnavailable) do
    let bytes ← requireProtectedEvidence record
    require (record.encryptionKeyId = protector.encryptionKeyId) EvidenceError.ingestionUnavailable
    let aad ← storageAad record.toStorageMetadata
    let canonicalBytes ← requireSome
      (crypto.decrypt (protector.tenantKey crypto record.tenantId) bytes.iv aad
        bytes.authenticationTag bytes.ciphertext) EvidenceError.ingestionUnavailable
    require (canonicalBytes.length = record.canonicalByteLength
      ∧ safeDigestEqual (sha256Hex crypto canonicalBytes) record.canonicalSha256)
      EvidenceError.ingestionUnavailable
    return canonicalBytes

end EvidenceProtector

/-- What counts as present in a condition. -/
def truthy : JsonValue → Bool
  | .null => false
  | .bool value => value
  | .number value => value ≠ .ofRat 0
  | .string value => value ≠ []
  | .array _ => true
  | .object _ => true

def unsignedEvidenceEnvelope (envelope : JsonValue) : Except EvidenceError JsonValue :=
  match envelope with
  | .object members => do
      let signature := envelope.member? (script "signature")
      require (signature.any truthy) (.rejected "EVIDENCE_SCHEMA_INVALID")
      return .object (members.filter fun member => member.1 ≠ script "signature")
  | _ => .error (.rejected "EVIDENCE_SCHEMA_INVALID")

structure StorageRecord extends ProtectedEvidence where
  retainedUntil : ScriptString
  deriving DecidableEq

structure RetrievedEvidence where
  canonicalBytes : Bytes
  envelope : JsonValue
  contentHashSha256 : ScriptString
  canonicalSha256 : ScriptString
  retainedUntil : ScriptString

/-- `repository` is what the repository answers to the request. -/
def retrieve (protector : EvidenceProtector)
    (repository : Except EvidenceError (Option StorageRecord)) :
    Except EvidenceError (Option RetrievedEvidence) := do
  match ← repository with
  | none => return none
  | some record =>
      let canonicalBytes ← protector.unprotect crypto record.toProtectedEvidence
      let envelope ← requireSome (JsonValue.parse (Utf8.decode canonicalBytes))
        EvidenceError.ingestionUnavailable
      let recanonicalized := Utf8.encode (← canonicalizeEvidenceJson envelope)
      let unsignedText ← canonicalizeEvidenceJson (← unsignedEvidenceEnvelope envelope)
      let unsignedHash := sha256Hex crypto (Utf8.encode unsignedText)
      require (canonicalBytes = recanonicalized
        ∧ envelope.stringMember? (script "tenantId") = some record.tenantId
        ∧ envelope.stringMember? (script "subjectId") = some record.subjectId
        ∧ envelope.stringMember? (script "sourceId") = some record.sourceId
        ∧ envelope.stringMember? (script "eventId") = some record.eventId
        ∧ safeDigestEqual unsignedHash record.contentHashSha256)
        EvidenceError.ingestionUnavailable
      return some {
        canonicalBytes
        envelope
        contentHashSha256 := record.contentHashSha256
        canonicalSha256 := record.canonicalSha256
        retainedUntil := record.retainedUntil }

end TenantTrust.Trust
