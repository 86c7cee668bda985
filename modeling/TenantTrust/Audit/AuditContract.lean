import TenantTrust.Audit.AuditEvents
import TenantTrust.Trust.EvidenceStorage

/-! The chaincode that writes commitments to the ledger of a channel and reads them. -/

namespace TenantTrust.Audit

open Library
open Trust (script isSha256)

/-- The message is the code, a colon and the detail. -/
structure ContractError where
  code : String
  detail : String
  deriving DecidableEq, Repr

namespace AuditContract

def SCHEMA_VERSION : ScriptString := script "1.0.0"
def CANONICALIZATION_PROFILE : ScriptString := script "tenant-trust-audit-commitment-json-v1"
def DIGEST_ALGORITHM : ScriptString := script "sha256"

def RECORD_TYPES : List AuditRecordType :=
  [.accessDecision, .certificateLifecycle, .policyChange, .securityAction, .trustTransition]

def LEDGER_FIELDS : List ScriptString :=
  [script "canonicalizationProfile", script "commitmentHashSha256", script "digestAlgorithm",
    script "eventKeyHashSha256", script "recordType", script "schemaVersion"]

def CHANNEL_TENANT_AUDITOR_MSP : String → Option String
  | "tt-audit-alpha-v1" => some "TenantAlphaAuditMSP"
  | "tt-audit-beta-v1" => some "TenantBetaAuditMSP"
  | _ => none

end AuditContract

open AuditContract

/-- The channel of a call and the identity of its client. -/
structure CallContext where
  channelId : String
  mspId : String
  hasRole : String → Bool

def assertKnownChannel (ctx : CallContext) : Except ContractError String := do
  require ((CHANNEL_TENANT_AUDITOR_MSP ctx.channelId).isSome = true)
    ⟨"UNSUPPORTED_CHANNEL", "audit commitments are restricted to configured tenant channels"⟩
  return ctx.channelId

def assertWriter (ctx : CallContext) : Except ContractError Unit := do
  let _ ← assertKnownChannel ctx
  require (ctx.mspId = "PlatformAuditMSP" ∧ ctx.hasRole "audit-writer" = true)
    ⟨"FORBIDDEN", "CommitCommitment requires the PlatformAuditMSP audit-writer identity"⟩

def assertReader (ctx : CallContext) : Except ContractError Unit := do
  let channelId ← assertKnownChannel ctx
  let platformVerifier := ctx.mspId = "PlatformAuditMSP" ∧ ctx.hasRole "audit-verifier" = true
  let tenantAuditor := some ctx.mspId = CHANNEL_TENANT_AUDITOR_MSP channelId ∧
    ctx.hasRole "tenant-auditor" = true
  require (platformVerifier ∨ tenantAuditor) ⟨"FORBIDDEN",
    "ReadCommitment requires the platform verifier or this channel's tenant auditor"⟩

/-- A text of 64 lower-case hexadecimal digits. -/
abbrev Sha256Text := { text : ScriptString // isSha256 text = true }

def sha256? (value : Option ScriptString) : Option Sha256Text :=
  match value with
  | some text => if format : isSha256 text = true then some ⟨text, format⟩ else none
  | none => none

def recordType? (value : Option ScriptString) : Option AuditRecordType :=
  RECORD_TYPES.find? fun recordType => value = some (script recordType.text)

/-- The fields of a commitment that are not constants. -/
structure PublicCommitment where
  recordType : AuditRecordType
  eventKeyHashSha256 : Sha256Text
  commitmentHashSha256 : Sha256Text
  deriving DecidableEq

def INVALID_COMMITMENT (detail : String) : ContractError := ⟨"INVALID_COMMITMENT", detail⟩

/-- The length of the argument counts UTF-16 code units. -/
def parseCommitment (input : List Char) : Except ContractError PublicCommitment := do
  let length := (ScriptString.ofChars input).length
  require (length ≠ 0 ∧ length ≤ 2048)
    (INVALID_COMMITMENT "commitment JSON must contain between 1 and 2048 characters")
  let parsed ← requireSome (JsonValue.parse input)
    (INVALID_COMMITMENT "commitment must be valid JSON")
  let members ← requireSome (match parsed with | .object members => some members | _ => none)
    (INVALID_COMMITMENT "commitment must be a JSON object")
  require ((JsonValue.sortMembers members).map Prod.fst = LEDGER_FIELDS)
    (INVALID_COMMITMENT "commitment contains missing or unapproved public fields")
  let field := fun name => parsed.stringMember? (script name)
  require (field "schemaVersion" = some SCHEMA_VERSION)
    (INVALID_COMMITMENT "unsupported schemaVersion")
  let recordType ← requireSome (recordType? (field "recordType"))
    (INVALID_COMMITMENT "unsupported recordType")
  let eventKeyHashSha256 ← requireSome (sha256? (field "eventKeyHashSha256"))
    (INVALID_COMMITMENT "invalid eventKeyHashSha256")
  let commitmentHashSha256 ← requireSome (sha256? (field "commitmentHashSha256"))
    (INVALID_COMMITMENT "invalid commitmentHashSha256")
  require (field "canonicalizationProfile" = some CANONICALIZATION_PROFILE)
    (INVALID_COMMITMENT "unsupported canonicalizationProfile")
  require (field "digestAlgorithm" = some DIGEST_ALGORITHM)
    (INVALID_COMMITMENT "unsupported digestAlgorithm")
  return ⟨recordType, eventKeyHashSha256, commitmentHashSha256⟩

def assertRecordType (recordType : ScriptString) : Except ContractError AuditRecordType :=
  requireSome (recordType? (some recordType)) ⟨"INVALID_QUERY", "unsupported recordType"⟩

def assertEventKeyHash (eventKeyHashSha256 : ScriptString) : Except ContractError Sha256Text :=
  requireSome (sha256? (some eventKeyHashSha256)) ⟨"INVALID_QUERY", "invalid eventKeyHashSha256"⟩

def commitmentKey (recordType : AuditRecordType) (eventKeyHashSha256 : Sha256Text) :
    ScriptString :=
  script "audit~" ++ script recordType.text ++ script "~" ++ eventKeyHashSha256.val

def eventAnchorKey (eventKeyHashSha256 : Sha256Text) : ScriptString :=
  script "event~" ++ eventKeyHashSha256.val

namespace PublicCommitment

variable (value : PublicCommitment)

def key : ScriptString := commitmentKey value.recordType value.eventKeyHashSha256

def anchorKey : ScriptString := eventAnchorKey value.eventKeyHashSha256

def json : JsonValue :=
  .object [
    (script "canonicalizationProfile", .string CANONICALIZATION_PROFILE),
    (script "commitmentHashSha256", .string value.commitmentHashSha256.val),
    (script "digestAlgorithm", .string DIGEST_ALGORITHM),
    (script "eventKeyHashSha256", .string value.eventKeyHashSha256.val),
    (script "recordType", .string (script value.recordType.text)),
    (script "schemaVersion", .string SCHEMA_VERSION)]

/-- The text of the ledger value. -/
def text : List Char := value.json.stringify

end PublicCommitment

def serializeCommitment (value : PublicCommitment) : Bytes := Utf8.encode value.text

/-- What the event anchor of a commitment holds. -/
def anchorState (key : ScriptString) : Bytes := Utf8.encode key.text

structure CommitResponse where
  ledgerKey : ScriptString
  status : SubmissionStatus
  deriving DecidableEq

/-- What an endorsed call answers, writes and emits. -/
structure CommitEffect where
  response : CommitResponse
  writes : List (ScriptString × Bytes)
  event : Option (String × JsonValue)

/-- The event that a created commitment emits. -/
def PublicCommitment.createdEvent (value : PublicCommitment) : String × JsonValue :=
  ("AuditCommitmentCreated", .object [
    (script "commitmentHashSha256", .string value.commitmentHashSha256.val),
    (script "eventKeyHashSha256", .string value.eventKeyHashSha256.val),
    (script "ledgerKey", .string value.key),
    (script "recordType", .string (script value.recordType.text)),
    (script "schemaVersion", .string SCHEMA_VERSION)])

/-- The two states that a created commitment writes. -/
def PublicCommitment.writes (value : PublicCommitment) : List (ScriptString × Bytes) :=
  [(value.key, serializeCommitment value), (value.anchorKey, anchorState value.key)]

/-- A key without a state reads as no bytes. -/
def commitCommitment (ctx : CallContext) (getState : ScriptString → Bytes)
    (commitmentJson : List Char) : Except ContractError CommitEffect := do
  assertWriter ctx
  let value ← parseCommitment commitmentJson
  let currentState := getState value.key
  let currentAnchor := getState value.anchorKey
  if currentState ≠ [] ∨ currentAnchor ≠ [] then do
    require (currentAnchor = [] ∨ currentAnchor = anchorState value.key)
      ⟨"CONFLICTING_EVENT_ANCHOR",
        "the opaque event key is already bound to another commitment key"⟩
    require (currentState ≠ [] ∧ currentAnchor ≠ [])
      ⟨"INCONSISTENT_STATE", "commitment and event anchor must either both exist or both be absent"⟩
    require (currentState = serializeCommitment value)
      ⟨"CONFLICTING_COMMITMENT", "the commitment key already exists with different bytes"⟩
    return ⟨⟨value.key, .duplicate⟩, [], none⟩
  else return ⟨⟨value.key, .created⟩, value.writes, some value.createdEvent⟩

def readCommitment (ctx : CallContext) (getState : ScriptString → Bytes)
    (recordType eventKeyHashSha256 : ScriptString) : Except ContractError (List Char) := do
  assertReader ctx
  let recordType ← assertRecordType recordType
  let eventKeyHashSha256 ← assertEventKeyHash eventKeyHashSha256
  let state := getState (commitmentKey recordType eventKeyHashSha256)
  require (state ≠ [])
    ⟨"COMMITMENT_NOT_FOUND", "no commitment exists for the supplied opaque key"⟩
  return Utf8.decode state

end TenantTrust.Audit
