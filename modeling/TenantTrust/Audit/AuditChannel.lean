import TenantTrust.Audit.ContractSafety
import TenantTrust.Audit.OutboxProgress

/-! The channels behind the gateway: transactions are endorsed, and later ordered and validated. -/

namespace TenantTrust.Audit

open Library Identity
open Trust (script)

structure LedgerEntry where
  value : Bytes
  version : Nat

/-- A key without an entry reads as no bytes. -/
def entryBytes : Option LedgerEntry → Bytes
  | some entry => entry.value
  | none => []

/-- A transaction with the versions that its endorsement has read. -/
structure EndorsedTransaction where
  transactionId : TransactionId
  commitmentJson : List Char
  reads : List (ScriptString × Option Nat)
  effect : CommitEffect

structure Channel where
  state : ScriptString → Option LedgerEntry
  endorsed : List EndorsedTransaction
  outcomes : TransactionId → Option CommitOutcome
  height : Nat

namespace Channel

def empty : Channel := ⟨fun _ => none, [], fun _ => none, 0⟩

variable (channel : Channel)

def getState (key : ScriptString) : Bytes := entryBytes (channel.state key)

def version (key : ScriptString) : Option Nat := (channel.state key).map LedgerEntry.version

/-- The keys that a call of `CommitCommitment` reads. -/
def readSet (commitmentJson : List Char) : List (ScriptString × Option Nat) :=
  match parseCommitment commitmentJson with
  | .ok value => [(value.key, channel.version value.key),
      (value.anchorKey, channel.version value.anchorKey)]
  | .error _ => []

def endorse (transactionId : TransactionId) (commitmentJson : List Char) (effect : CommitEffect) :
    Channel :=
  { channel with endorsed := channel.endorsed ++
      [⟨transactionId, commitmentJson, channel.readSet commitmentJson, effect⟩] }

/-- A block with the outcome of one transaction. -/
def resolve (transactionId : TransactionId) (validationCode : Fin 256) : Channel :=
  { channel with
    outcomes := Function.update channel.outcomes transactionId
      (some ⟨validationCode, channel.height⟩)
    height := channel.height + 1 }

def write (writes : List (ScriptString × Bytes)) : Channel :=
  { channel with
    state := writes.foldl (fun state write =>
      Function.update state write.1 (some ⟨write.2, channel.height⟩)) channel.state }

end Channel

/-- What happens to a channel. The writes of a transaction are applied exactly if it is valid, and
it is valid only if nothing that it has read has changed since. -/
inductive ChannelStep (name : String) (channel : Channel) : Channel → Prop
  | endorse (ctx : CallContext) (onChannel : ctx.channelId = name) (commitmentJson : List Char)
      (effect : CommitEffect) (transactionId : TransactionId)
      (fresh : ∀ transaction ∈ channel.endorsed, transaction.transactionId ≠ transactionId)
      (endorses : commitCommitment ctx channel.getState commitmentJson = .ok effect) :
      ChannelStep name channel (channel.endorse transactionId commitmentJson effect)
  | commit (transaction : EndorsedTransaction) (member : transaction ∈ channel.endorsed)
      (waiting : channel.outcomes transaction.transactionId = none)
      (current : ∀ read ∈ transaction.reads, channel.version read.1 = read.2) :
      ChannelStep name channel
        ((channel.write transaction.effect.writes).resolve transaction.transactionId 0)
  | invalidate (transaction : EndorsedTransaction) (member : transaction ∈ channel.endorsed)
      (waiting : channel.outcomes transaction.transactionId = none) (validationCode : Fin 256)
      (invalid : validationCode ≠ 0) :
      ChannelStep name channel (channel.resolve transaction.transactionId validationCode)

abbrev Network := String → Channel

/-- The 64 digits of a digest. -/
def digestText (digest : Sha256Digest) : ScriptString :=
  let digits := Nat.toDigits 16 digest.value
  ScriptString.ofChars (List.replicate (64 - digits.length) '0' ++ digits)

namespace AuditLedgerValue

open AuditContract

variable (value : AuditLedgerValue)

/-- The value as the outbox returns it: shorter names stand first. -/
def submittedJson : JsonValue :=
  .object [
    (script "recordType", .string (script value.recordType.text)),
    (script "schemaVersion", .string SCHEMA_VERSION),
    (script "digestAlgorithm", .string DIGEST_ALGORITHM),
    (script "eventKeyHashSha256", .string (digestText value.eventKeyHashSha256)),
    (script "commitmentHashSha256", .string (digestText value.commitmentHashSha256)),
    (script "canonicalizationProfile", .string CANONICALIZATION_PROFILE)]

def submittedText : List Char := value.submittedJson.stringify

/-- The value as the chaincode writes it. -/
def ledgerJson : JsonValue :=
  .object [
    (script "canonicalizationProfile", .string CANONICALIZATION_PROFILE),
    (script "commitmentHashSha256", .string (digestText value.commitmentHashSha256)),
    (script "digestAlgorithm", .string DIGEST_ALGORITHM),
    (script "eventKeyHashSha256", .string (digestText value.eventKeyHashSha256)),
    (script "recordType", .string (script value.recordType.text)),
    (script "schemaVersion", .string SCHEMA_VERSION)]

def ledgerText : List Char := value.ledgerJson.stringify

def keyText : ScriptString :=
  script "audit~" ++ script value.recordType.text ++ script "~" ++
    digestText value.eventKeyHashSha256

end AuditLedgerValue

/-- The gateway in front of the channels of a topology, which gives every tenant a channel. Other
clients of the channels may have any transactions endorsed at any time. -/
def auditFabric (topology : TenantId → Option String) : Fabric Network where
  proceeds network next := ∃ name channel, ChannelStep name (network name) channel ∧
    next = Function.update network name channel
  submits network tenantId value next submission := ∃ name ctx effect,
    topology tenantId = some name ∧ ctx.channelId = name ∧
    commitCommitment ctx (network name).getState value.submittedText = .ok effect ∧
    (∀ transaction ∈ (network name).endorsed,
      transaction.transactionId ≠ submission.transactionId) ∧
    effect.response.ledgerKey = value.keyText ∧ submission.ledgerKey = value.key ∧
    submission.status = effect.response.status ∧
    next = Function.update network name
      ((network name).endorse submission.transactionId value.submittedText effect)
  reports network tenantId transactionId status := ∃ name outcome,
    topology tenantId = some name ∧ (network name).outcomes transactionId = some outcome ∧
    status.transactionId = transactionId ∧
    status.validationCode = (outcome.validationCode.val : Int) ∧
    status.blockNumber = (outcome.blockNumber : Int)

section Parsing

open AuditContract

theorem submittedJson_wellFormed (value : AuditLedgerValue) :
    value.submittedJson.WellFormed := by
  have names : [script "recordType", script "schemaVersion", script "digestAlgorithm",
      script "eventKeyHashSha256", script "commitmentHashSha256",
      script "canonicalizationProfile"].Nodup := by decide
  refine .object names ?_
  intro member found
  simp only [List.mem_cons, List.not_mem_nil, or_false] at found
  rcases found with rfl | rfl | rfl | rfl | rfl | rfl <;> exact .string _

theorem sha256?_some {field : Option ScriptString} {hash : Sha256Text}
    (found : sha256? field = some hash) : field = some hash.val := by
  cases field with
  | none => cases found
  | some text => exact congrArg some (sha256?_eq_some.mp found)

theorem recordType?_some {field : Option ScriptString} {recordType : AuditRecordType}
    (found : recordType? field = some recordType) : field = some (script recordType.text) := by
  have holds := List.find?_some found
  exact of_decide_eq_true holds

/-- What the chaincode reads in a submitted ledger value. -/
theorem parseCommitment_submitted {ledgerValue : AuditLedgerValue} {value : PublicCommitment}
    (parsed : parseCommitment ledgerValue.submittedText = .ok value) :
    value.recordType = ledgerValue.recordType ∧
      value.eventKeyHashSha256.val = digestText ledgerValue.eventKeyHashSha256 ∧
      value.text = ledgerValue.ledgerText := by
  have read : JsonValue.parse ledgerValue.submittedText = some ledgerValue.submittedJson :=
    (submittedJson_wellFormed ledgerValue).parse_stringify
  simp only [parseCommitment, Checked.bind_eq_ok, Checked.require_eq_ok,
    Checked.requireSome_eq_ok, Checked.pure_eq_ok, exists_const, read] at parsed
  rcases parsed with ⟨_, document, same, members, _, _, _, recordType, type, key, keyFound, hash,
    hashFound, _, _, rfl⟩
  rw [← Option.some.inj same] at type keyFound hashFound
  have types := recordType?_some type
  have keys := sha256?_some keyFound
  have hashes := sha256?_some hashFound
  have typeText : script recordType.text = script ledgerValue.recordType.text :=
    (Option.some.inj types).symm
  have keyText : key.val = digestText ledgerValue.eventKeyHashSha256 :=
    (Option.some.inj keys).symm
  have hashText : hash.val = digestText ledgerValue.commitmentHashSha256 :=
    (Option.some.inj hashes).symm
  refine ⟨recordType_script_injective typeText, keyText, ?_⟩
  simp only [PublicCommitment.text, PublicCommitment.json, AuditLedgerValue.ledgerText,
    AuditLedgerValue.ledgerJson, typeText, keyText, hashText]

end Parsing

end TenantTrust.Audit
