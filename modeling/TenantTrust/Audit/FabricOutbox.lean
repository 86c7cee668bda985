import TenantTrust.Audit.AuditEvents
import TenantTrust.Library.Table
import TenantTrust.Library.Transaction
import Mathlib.Data.List.MinMax
import Mathlib.Data.Prod.Lex

/-! The outbox of audit commitments, its delivery attempts, and the procedures of its workers. -/

namespace TenantTrust.Audit

open Library Identity

abbrev TransactionId := Sha256Digest
abbrev AuditClaimToken := Identifier .claimToken

inductive AuditOutboxState where
  | pending | submitting | confirming | submitted | committed | failed
  deriving DecidableEq, Repr

inductive ConfirmationSource where
  | gatewayStatus | qscc
  deriving DecidableEq, Repr

/-- The columns of an outbox row that no procedure rewrites. -/
structure FabricCommitment where
  tenantId : TenantId
  eventId : EventId
  channelName : String
  eventType : AuditEventType
  recordType : AuditRecordType
  eventDocument : AuditEvent
  canonicalPreimageJson : String
  ledgerKey : LedgerKey
  eventKeyHashSha256 : Sha256Digest
  commitmentHashSha256 : Sha256Digest
  ledgerValue : AuditLedgerValue
  deriving DecidableEq, Repr

abbrev OutboxKey := TenantId × EventId

structure FabricCommitmentRow where
  commitment : FabricCommitment
  status : AuditOutboxState
  claimToken : Option AuditClaimToken
  claimedBy : Option String
  claimedAt : Option Timestamp
  attemptCount : Nat
  nextAttemptAt : Timestamp
  lastFailureCode : Option String
  submissionStatus : Option SubmissionStatus
  submittedAt : Option Timestamp
  transactionId : Option TransactionId
  validationCode : Option Int
  blockNumber : Option Int
  confirmationSource : Option ConfirmationSource
  nextConfirmationAt : Option Timestamp
  committedAt : Option Timestamp
  failedAt : Option Timestamp
  createdAt : Timestamp
  updatedAt : Timestamp
  deriving DecidableEq, Repr

def FabricCommitment.key (commitment : FabricCommitment) : OutboxKey :=
  (commitment.tenantId, commitment.eventId)

def FabricCommitmentRow.key (row : FabricCommitmentRow) : OutboxKey := row.commitment.key

/-- `^tt-audit-[a-z0-9-]+-v[1-9][0-9]*$`, read from its end. -/
def isAuditChannel (name : String) : Bool :=
  let reversed := name.toList.reverse
  let version := reversed.takeWhile Char.isDigit
  match reversed.dropWhile Char.isDigit with
  | 'v' :: '-' :: front =>
      let middle := front.reverse.drop "tt-audit-".length
      version.getLast?.any (· ≠ '0') && "tt-audit-".toList.isPrefixOf front.reverse &&
      !middle.isEmpty && middle.all fun c => c.isLower || c.isDigit || c = '-'
  | _ => false

/-- The constraints on the columns that hold the commitment; the format of the event type is
that of every selected type. -/
def FabricCommitment.checks (commitment : FabricCommitment) : Bool :=
  isAuditChannel commitment.channelName &&
  commitment.eventDocument.tenantId = commitment.tenantId &&
  commitment.eventDocument.eventId = commitment.eventId &&
  commitment.eventDocument.eventType = commitment.eventType &&
  commitment.ledgerValue = ⟨commitment.recordType, commitment.eventKeyHashSha256,
    commitment.commitmentHashSha256⟩ &&
  commitment.ledgerKey = ⟨commitment.recordType, commitment.eventKeyHashSha256⟩

namespace FabricCommitmentRow

/-- The constraints on single columns. -/
def columnChecks (row : FabricCommitmentRow) : Bool :=
  row.commitment.checks && row.claimedBy.all isWorkerId && row.lastFailureCode.all isReasonCode &&
  row.validationCode.all (fun code => 0 ≤ code && code ≤ 255) && row.blockNumber.all (0 ≤ ·)

/-- `fabric_commitment_outbox_state_shape` -/
def stateShape (row : FabricCommitmentRow) : Bool :=
  match row.status with
  | .pending => row.claimToken.isNone && row.transactionId.isNone && row.submissionStatus.isNone
  | .submitting => row.claimToken.isSome && row.transactionId.isNone &&
      row.submissionStatus.isNone
  | .confirming => row.claimToken.isSome && row.transactionId.isSome &&
      row.submissionStatus.isSome
  | .submitted => row.claimToken.isNone && row.transactionId.isSome &&
      row.submissionStatus.isSome && row.nextConfirmationAt.isSome && row.validationCode.isNone
  | .committed => row.claimToken.isNone && row.transactionId.isSome &&
      row.submissionStatus.isSome && row.validationCode = some 0 && row.blockNumber.isSome &&
      row.confirmationSource.isSome && row.committedAt.isSome
  | .failed => row.claimToken.isNone && row.failedAt.isSome && row.lastFailureCode.isSome &&
      ((row.transactionId.isNone && row.submissionStatus.isNone && row.validationCode.isNone) ||
        (row.transactionId.isSome && row.submissionStatus.isSome &&
          row.validationCode.any (0 < ·)))

/-- `fabric_commitment_outbox_time_order` -/
def timeOrder (row : FabricCommitmentRow) : Bool :=
  row.createdAt ≤ row.updatedAt && row.createdAt ≤ row.nextAttemptAt &&
  row.claimedAt.all (row.createdAt ≤ ·) && row.submittedAt.all (row.createdAt ≤ ·) &&
  row.nextConfirmationAt.all (row.createdAt ≤ ·) && row.committedAt.all (row.createdAt ≤ ·) &&
  row.failedAt.all (row.createdAt ≤ ·)

end FabricCommitmentRow

def STATE_SHAPE : SqlError := .checkViolation "fabric_commitment_outbox_state_shape"

def TIME_ORDER : SqlError := .checkViolation "fabric_commitment_outbox_time_order"

abbrev FabricOutboxTable := Table FabricCommitmentRow FabricCommitmentRow.key

/-- The constraints, once a statement has written its rows. -/
def checkedOutbox (outbox : FabricOutboxTable) : Except SqlError FabricOutboxTable := do
  require (∀ row ∈ outbox, row.columnChecks = true) (.checkViolation "fabric_commitment_outbox")
  require (∀ row ∈ outbox, row.stateShape = true) STATE_SHAPE
  require (∀ row ∈ outbox, row.timeOrder = true) TIME_ORDER
  return outbox

inductive AttemptState where
  | submitted | committed | failed
  deriving DecidableEq, Repr

structure FabricCommitmentAttempt where
  tenantId : TenantId
  eventId : EventId
  attemptNumber : Nat
  transactionId : TransactionId
  submissionStatus : SubmissionStatus
  state : AttemptState
  validationCode : Option Int
  blockNumber : Option Int
  confirmationSource : Option ConfirmationSource
  submittedAt : Timestamp
  resolvedAt : Option Timestamp
  deriving DecidableEq, Repr

namespace FabricCommitmentAttempt

def rowKey (attempt : FabricCommitmentAttempt) : OutboxKey := (attempt.tenantId, attempt.eventId)

def key (attempt : FabricCommitmentAttempt) : OutboxKey × Nat :=
  (attempt.rowKey, attempt.attemptNumber)

def checks (attempt : FabricCommitmentAttempt) : Bool :=
  0 < attempt.attemptNumber &&
  attempt.validationCode.all (fun code => 0 ≤ code && code ≤ 255) &&
  attempt.blockNumber.all (0 ≤ ·) &&
  match attempt.state with
  | .submitted => attempt.validationCode.isNone && attempt.resolvedAt.isNone
  | .committed => attempt.validationCode = some 0 && attempt.blockNumber.isSome &&
      attempt.resolvedAt.isSome
  | .failed => attempt.validationCode.any (0 < ·) && attempt.resolvedAt.isSome

end FabricCommitmentAttempt

structure CommitmentDatabase where
  outbox : FabricOutboxTable
  attempts : Table FabricCommitmentAttempt FabricCommitmentAttempt.key

def CommitmentDatabase.empty : CommitmentDatabase := ⟨Table.empty, Table.empty⟩

structure CommitmentEnqueue where
  commitment : FabricCommitment
  queuedAt : Timestamp
  deriving DecidableEq, Repr

/-- A new row, with the defaults of the table. -/
def CommitmentEnqueue.row (p : CommitmentEnqueue) : FabricCommitmentRow where
  commitment := p.commitment
  status := .pending
  claimToken := none
  claimedBy := none
  claimedAt := none
  attemptCount := 0
  nextAttemptAt := p.queuedAt
  lastFailureCode := none
  submissionStatus := none
  submittedAt := none
  transactionId := none
  validationCode := none
  blockNumber := none
  confirmationSource := none
  nextConfirmationAt := none
  committedAt := none
  failedAt := none
  createdAt := p.queuedAt
  updatedAt := p.queuedAt

/-- The tenant is the one that the session is bound to. -/
def enqueueFabricCommitment (currentTenantId : TenantId) (clock : Timestamp)
    (p : CommitmentEnqueue) (db : CommitmentDatabase) :
    Except SqlError (CommitmentDatabase × AuditOutboxState) := do
  require (currentTenantId = p.commitment.tenantId ∧ p.queuedAt ≤ clock + seconds 2 ∧
      clock - minutes 10 ≤ p.queuedAt)
    (.raised "Audit commitment enqueue denied.")
  require (p.row.columnChecks = true) (.checkViolation "fabric_commitment_outbox")
  match db.outbox.get? p.commitment.key with
  | some existing => do
      require (existing.commitment = p.commitment)
        (.raised "Audit commitment idempotency conflict.")
      return (db, existing.status)
  | none => do
      require (∀ other ∈ db.outbox, ¬ (other.commitment.tenantId = p.commitment.tenantId ∧
          other.commitment.eventKeyHashSha256 = p.commitment.eventKeyHashSha256))
        (.uniqueViolation "fabric_commitment_outbox_event_key_unique")
      let inserted ← requireSome (db.outbox.insertNew p.row)
        (.uniqueViolation "fabric_commitment_outbox_pk")
      let outbox ← checkedOutbox inserted
      return ({ db with outbox := outbox }, .pending)

/-- The arguments of the two claiming procedures. -/
structure CommitmentClaimCall where
  workerId : String
  claimToken : AuditClaimToken
  claimedAt : Timestamp
  deriving DecidableEq, Repr

structure SubmissionClaim where
  commitment : FabricCommitment
  claimToken : AuditClaimToken
  attemptCount : Nat
  deriving DecidableEq, Repr

structure ConfirmationClaim where
  tenantId : TenantId
  eventId : EventId
  transactionId : TransactionId
  claimToken : AuditClaimToken
  attemptCount : Nat
  deriving DecidableEq, Repr

namespace CommitmentClaimCall

variable (p : CommitmentClaimCall)

/-- The row is held under a claim that is older than five minutes. -/
def isStale (status : AuditOutboxState) (row : FabricCommitmentRow) : Bool :=
  row.status = status && row.claimedAt.any (· < p.claimedAt - minutes 5)

def recoverSubmission (clock : Timestamp) (row : FabricCommitmentRow) : FabricCommitmentRow :=
  if p.isStale .submitting row then
    { row with
      status := .failed
      claimToken := none
      claimedBy := none
      claimedAt := none
      failedAt := some p.claimedAt
      nextAttemptAt := p.claimedAt
      lastFailureCode := some "STALE_SUBMISSION_CLAIM_RECOVERED"
      updatedAt := max clock p.claimedAt }
  else row

def recoverConfirmation (clock : Timestamp) (row : FabricCommitmentRow) : FabricCommitmentRow :=
  if p.isStale .confirming row then
    { row with
      status := .submitted
      claimToken := none
      claimedBy := none
      claimedAt := none
      nextConfirmationAt := some p.claimedAt
      lastFailureCode := some "STALE_CONFIRMATION_CLAIM_RECOVERED"
      updatedAt := max clock p.claimedAt }
  else row

def submissionDue (row : FabricCommitmentRow) : Bool :=
  (row.status = .pending || row.status = .failed) && row.nextAttemptAt ≤ p.claimedAt

def confirmationDue (row : FabricCommitmentRow) : Bool :=
  row.status = .submitted && row.nextConfirmationAt.any (· ≤ p.claimedAt)

def claimSubmission (clock : Timestamp) (row : FabricCommitmentRow) : FabricCommitmentRow where
  commitment := row.commitment
  status := .submitting
  claimToken := some p.claimToken
  claimedBy := some p.workerId
  claimedAt := some p.claimedAt
  attemptCount := row.attemptCount + 1
  nextAttemptAt := row.nextAttemptAt
  lastFailureCode := none
  submissionStatus := none
  submittedAt := none
  transactionId := none
  validationCode := none
  blockNumber := none
  confirmationSource := none
  nextConfirmationAt := none
  committedAt := none
  failedAt := none
  createdAt := row.createdAt
  updatedAt := max clock p.claimedAt

def claimConfirmation (clock : Timestamp) (row : FabricCommitmentRow) : FabricCommitmentRow :=
  { row with
    status := .confirming
    claimToken := some p.claimToken
    claimedBy := some p.workerId
    claimedAt := some p.claimedAt
    updatedAt := max clock p.claimedAt }

theorem recoverSubmission_commitment (clock : Timestamp) (row : FabricCommitmentRow) :
    (p.recoverSubmission clock row).commitment = row.commitment := by
  unfold recoverSubmission
  split <;> rfl

theorem recoverConfirmation_commitment (clock : Timestamp) (row : FabricCommitmentRow) :
    (p.recoverConfirmation clock row).commitment = row.commitment := by
  unfold recoverConfirmation
  split <;> rfl

theorem recoverSubmission_key (clock : Timestamp) (row : FabricCommitmentRow) :
    (p.recoverSubmission clock row).key = row.key :=
  congrArg FabricCommitment.key (p.recoverSubmission_commitment clock row)

theorem recoverConfirmation_key (clock : Timestamp) (row : FabricCommitmentRow) :
    (p.recoverConfirmation clock row).key = row.key :=
  congrArg FabricCommitment.key (p.recoverConfirmation_commitment clock row)

end CommitmentClaimCall

/-- The first unlocked row that is due; rows that other transactions hold locked are skipped. -/
def nextCommitment? (due : FabricCommitmentRow → Bool) (dueAt : FabricCommitmentRow → Timestamp)
    (locked : List OutboxKey) (outbox : FabricOutboxTable) : Option FabricCommitmentRow :=
  (outbox.rows.filter fun row => due row && row.key ∉ locked).argmin fun row =>
    toLex (dueAt row, toLex (row.createdAt, toLex row.key))

def claimFabricCommitment (clock : Timestamp) (locked : List OutboxKey)
    (p : CommitmentClaimCall) (db : CommitmentDatabase) :
    Except SqlError (CommitmentDatabase × Option SubmissionClaim) := do
  require (isWorkerId p.workerId ∧ p.claimedAt ≤ clock + seconds 2)
    (.raised "Audit commitment claim denied.")
  let recovered ← checkedOutbox
    (db.outbox.update (p.recoverSubmission clock) (p.recoverSubmission_key clock))
  match nextCommitment? p.submissionDue (·.nextAttemptAt) locked recovered with
  | none => return ({ db with outbox := recovered }, none)
  | some row => do
      let claimed := p.claimSubmission clock row
      let outbox ← checkedOutbox (recovered.replace claimed)
      return ({ db with outbox := outbox },
        some ⟨claimed.commitment, p.claimToken, claimed.attemptCount⟩)

/-- The row that a caller holds in a status under its claim token. -/
def heldCommitment? (status : AuditOutboxState) (key : OutboxKey) (claimToken : AuditClaimToken)
    (db : CommitmentDatabase) : Option FabricCommitmentRow :=
  (db.outbox.get? key).filter fun row =>
    row.status = status && row.claimToken = some claimToken

structure SubmissionRecord where
  tenantId : TenantId
  eventId : EventId
  claimToken : AuditClaimToken
  ledgerKey : LedgerKey
  submissionStatus : SubmissionStatus
  transactionId : TransactionId
  submittedAt : Timestamp
  deriving DecidableEq, Repr

namespace SubmissionRecord

variable (p : SubmissionRecord)

def recorded (clock : Timestamp) (row : FabricCommitmentRow) : FabricCommitmentRow :=
  { row with
    status := .confirming
    submissionStatus := some p.submissionStatus
    transactionId := some p.transactionId
    submittedAt := some p.submittedAt
    lastFailureCode := none
    updatedAt := max clock p.submittedAt }

def attempt (row : FabricCommitmentRow) : FabricCommitmentAttempt where
  tenantId := row.commitment.tenantId
  eventId := row.commitment.eventId
  attemptNumber := row.attemptCount
  transactionId := p.transactionId
  submissionStatus := p.submissionStatus
  state := .submitted
  validationCode := none
  blockNumber := none
  confirmationSource := none
  submittedAt := p.submittedAt
  resolvedAt := none

end SubmissionRecord

def recordFabricCommitmentSubmission (clock : Timestamp) (p : SubmissionRecord)
    (db : CommitmentDatabase) : Except SqlError CommitmentDatabase := do
  require (p.submittedAt ≤ clock + seconds 2)
    (.raised "Audit commitment submission update denied.")
  let row ← requireSome
    ((heldCommitment? .submitting (p.tenantId, p.eventId) p.claimToken db).filter
      fun row => row.commitment.ledgerKey = p.ledgerKey)
    (.raised "Audit commitment submission update denied.")
  let outbox ← checkedOutbox (db.outbox.replace (p.recorded clock row))
  require (∀ other ∈ db.attempts, other.transactionId ≠ p.transactionId)
    (.uniqueViolation "fabric_commitment_attempt_transaction_id_key")
  require ((p.attempt row).checks) (.checkViolation "fabric_commitment_attempt")
  let attempts ← requireSome (db.attempts.insertNew (p.attempt row))
    (.uniqueViolation "fabric_commitment_attempt_pkey")
  return ⟨outbox, attempts⟩

def claimFabricCommitmentConfirmation (clock : Timestamp) (locked : List OutboxKey)
    (p : CommitmentClaimCall) (db : CommitmentDatabase) :
    Except SqlError (CommitmentDatabase × Option ConfirmationClaim) := do
  require (isWorkerId p.workerId ∧ p.claimedAt ≤ clock + seconds 2)
    (.raised "Audit commitment confirmation claim denied.")
  let recovered ← checkedOutbox
    (db.outbox.update (p.recoverConfirmation clock) (p.recoverConfirmation_key clock))
  match nextCommitment? p.confirmationDue (·.nextConfirmationAt.getD 0) locked recovered with
  | none => return ({ db with outbox := recovered }, none)
  | some row => do
      let claimed := p.claimConfirmation clock row
      let outbox ← checkedOutbox (recovered.replace claimed)
      return ({ db with outbox := outbox }, claimed.transactionId.map fun transactionId =>
        ⟨claimed.commitment.tenantId, claimed.commitment.eventId, transactionId, p.claimToken,
          claimed.attemptCount⟩)

/-- The columns that a reported status fills, in the outbox as in the attempts. -/
structure CommitVerdict where
  transactionId : TransactionId
  validationCode : Int
  blockNumber : Int
  confirmationSource : ConfirmationSource
  deriving DecidableEq, Repr

namespace CommitVerdict

/-- The attempt of the row that the transaction belongs to. -/
def resolve (verdict : CommitVerdict) (key : OutboxKey) (state : AttemptState)
    (resolvedAt : Timestamp) (attempt : FabricCommitmentAttempt) : FabricCommitmentAttempt :=
  if attempt.rowKey = key ∧ attempt.transactionId = verdict.transactionId then
    { attempt with
      state := state
      validationCode := some verdict.validationCode
      blockNumber := some verdict.blockNumber
      confirmationSource := some verdict.confirmationSource
      resolvedAt := some resolvedAt }
  else attempt

theorem resolve_key (verdict : CommitVerdict) (key : OutboxKey) (state : AttemptState)
    (resolvedAt : Timestamp) (attempt : FabricCommitmentAttempt) :
    (verdict.resolve key state resolvedAt attempt).key = attempt.key := by
  unfold resolve
  split <;> rfl

def committed (verdict : CommitVerdict) (clock confirmedAt : Timestamp)
    (row : FabricCommitmentRow) : FabricCommitmentRow :=
  { row with
    status := .committed
    claimToken := none
    claimedBy := none
    claimedAt := none
    validationCode := some verdict.validationCode
    blockNumber := some verdict.blockNumber
    confirmationSource := some verdict.confirmationSource
    committedAt := some confirmedAt
    nextConfirmationAt := none
    lastFailureCode := none
    updatedAt := max clock confirmedAt }

def commitFailed (verdict : CommitVerdict) (clock failedAt : Timestamp) (retryDelaySeconds : Int)
    (row : FabricCommitmentRow) : FabricCommitmentRow :=
  { row with
    status := .failed
    claimToken := none
    claimedBy := none
    claimedAt := none
    validationCode := some verdict.validationCode
    blockNumber := some verdict.blockNumber
    confirmationSource := some verdict.confirmationSource
    failedAt := some failedAt
    nextAttemptAt := failedAt + seconds retryDelaySeconds
    nextConfirmationAt := none
    lastFailureCode := some "FABRIC_COMMIT_INVALID"
    updatedAt := max clock failedAt }

end CommitVerdict

/-- The held row of a confirmation, whose transaction is the reported one. -/
def confirmingCommitment? (key : OutboxKey) (claimToken : AuditClaimToken)
    (transactionId : TransactionId) (db : CommitmentDatabase) : Option FabricCommitmentRow :=
  (heldCommitment? .confirming key claimToken db).filter fun row =>
    row.transactionId = some transactionId

/-- The last two statements of both procedures that take a reported status. -/
def resolveCommitment (key : OutboxKey) (verdict : CommitVerdict) (state : AttemptState)
    (resolvedAt : Timestamp) (resolved : FabricCommitmentRow) (db : CommitmentDatabase) :
    Except SqlError CommitmentDatabase := do
  let outbox ← checkedOutbox (db.outbox.replace resolved)
  let attempts := db.attempts.update (verdict.resolve key state resolvedAt)
    (verdict.resolve_key key state resolvedAt)
  require (∀ attempt ∈ attempts, attempt.checks = true)
    (.checkViolation "fabric_commitment_attempt")
  return ⟨outbox, attempts⟩

structure CommitConfirmation where
  tenantId : TenantId
  eventId : EventId
  claimToken : AuditClaimToken
  verdict : CommitVerdict
  confirmedAt : Timestamp
  deriving DecidableEq, Repr

def markFabricCommitmentCommitted (clock : Timestamp) (p : CommitConfirmation)
    (db : CommitmentDatabase) : Except SqlError CommitmentDatabase := do
  require (p.verdict.validationCode = 0 ∧ 0 ≤ p.verdict.blockNumber ∧
      p.confirmedAt ≤ clock + seconds 2)
    (.raised "Audit commitment confirmation denied.")
  let row ← requireSome
    (confirmingCommitment? (p.tenantId, p.eventId) p.claimToken p.verdict.transactionId db)
    (.raised "Audit commitment confirmation denied.")
  resolveCommitment (p.tenantId, p.eventId) p.verdict .committed p.confirmedAt
    (p.verdict.committed clock p.confirmedAt row) db

structure CommitFailure where
  tenantId : TenantId
  eventId : EventId
  claimToken : AuditClaimToken
  verdict : CommitVerdict
  failedAt : Timestamp
  retryDelaySeconds : Int
  deriving DecidableEq, Repr

def markFabricCommitmentCommitFailed (clock : Timestamp) (p : CommitFailure)
    (db : CommitmentDatabase) : Except SqlError CommitmentDatabase := do
  require (0 < p.verdict.validationCode ∧ 0 ≤ p.verdict.blockNumber ∧
      1 ≤ p.retryDelaySeconds ∧ p.retryDelaySeconds ≤ 600 ∧ p.failedAt ≤ clock + seconds 2)
    (.raised "Audit commitment failure update denied.")
  let row ← requireSome
    (confirmingCommitment? (p.tenantId, p.eventId) p.claimToken p.verdict.transactionId db)
    (.raised "Audit commitment failure update denied.")
  resolveCommitment (p.tenantId, p.eventId) p.verdict .failed p.failedAt
    (p.verdict.commitFailed clock p.failedAt p.retryDelaySeconds row) db

/-- The arguments of the two procedures that put a row off. -/
structure CommitmentDelay where
  tenantId : TenantId
  eventId : EventId
  claimToken : AuditClaimToken
  failureCode : String
  failedAt : Timestamp
  retryDelaySeconds : Int
  deriving DecidableEq, Repr

def CommitmentDelay.allowed (p : CommitmentDelay) (clock : Timestamp) : Bool :=
  isReasonCode p.failureCode && 1 ≤ p.retryDelaySeconds && p.retryDelaySeconds ≤ 600 &&
  p.failedAt ≤ clock + seconds 2

def CommitmentDelay.confirmationPending (p : CommitmentDelay) (clock : Timestamp)
    (row : FabricCommitmentRow) : FabricCommitmentRow :=
  { row with
    status := .submitted
    claimToken := none
    claimedBy := none
    claimedAt := none
    nextConfirmationAt := some (p.failedAt + seconds p.retryDelaySeconds)
    lastFailureCode := some p.failureCode
    updatedAt := max clock p.failedAt }

def CommitmentDelay.submissionFailed (p : CommitmentDelay) (clock : Timestamp)
    (row : FabricCommitmentRow) : FabricCommitmentRow :=
  { row with
    status := .failed
    claimToken := none
    claimedBy := none
    claimedAt := none
    failedAt := some p.failedAt
    nextAttemptAt := p.failedAt + seconds p.retryDelaySeconds
    lastFailureCode := some p.failureCode
    updatedAt := max clock p.failedAt }

def markFabricCommitmentConfirmationPending (clock : Timestamp) (p : CommitmentDelay)
    (transactionId : TransactionId) (db : CommitmentDatabase) :
    Except SqlError CommitmentDatabase := do
  require (p.allowed clock = true) (.raised "Audit commitment reconciliation update denied.")
  let row ← requireSome
    (confirmingCommitment? (p.tenantId, p.eventId) p.claimToken transactionId db)
    (.raised "Audit commitment reconciliation update denied.")
  let outbox ← checkedOutbox (db.outbox.replace (p.confirmationPending clock row))
  return { db with outbox := outbox }

def markFabricCommitmentFailed (clock : Timestamp) (p : CommitmentDelay)
    (db : CommitmentDatabase) : Except SqlError CommitmentDatabase := do
  require (p.allowed clock = true) (.raised "Audit commitment failure update denied.")
  let row ← requireSome (heldCommitment? .submitting (p.tenantId, p.eventId) p.claimToken db)
    (.raised "Audit commitment failure update denied.")
  let outbox ← checkedOutbox (db.outbox.replace (p.submissionFailed clock row))
  return { db with outbox := outbox }

/-- What a worker can call. -/
inductive OutboxCall where
  | claimSubmission (p : CommitmentClaimCall)
  | claimConfirmation (p : CommitmentClaimCall)
  | recordSubmission (p : SubmissionRecord)
  | markCommitted (p : CommitConfirmation)
  | markCommitFailed (p : CommitFailure)
  | markConfirmationPending (p : CommitmentDelay) (transactionId : TransactionId)
  | markFailed (p : CommitmentDelay)
  deriving DecidableEq, Repr

inductive OutboxReply where
  | enqueued (status : AuditOutboxState)
  | submissionClaim (claim : Option SubmissionClaim)
  | confirmationClaim (claim : Option ConfirmationClaim)
  | updated
  deriving DecidableEq, Repr

inductive OutboxOp where
  | enqueue (currentTenantId : TenantId) (clock : Timestamp) (p : CommitmentEnqueue)
  | call (clock : Timestamp) (locked : List OutboxKey) (call : OutboxCall)

def applyCall (clock : Timestamp) (locked : List OutboxKey) (call : OutboxCall)
    (db : CommitmentDatabase) : Except SqlError (CommitmentDatabase × OutboxReply) :=
  match call with
  | .claimSubmission p => do
      let (next, claim) ← claimFabricCommitment clock locked p db
      return (next, .submissionClaim claim)
  | .claimConfirmation p => do
      let (next, claim) ← claimFabricCommitmentConfirmation clock locked p db
      return (next, .confirmationClaim claim)
  | .recordSubmission p => do
      let next ← recordFabricCommitmentSubmission clock p db
      return (next, .updated)
  | .markCommitted p => do
      let next ← markFabricCommitmentCommitted clock p db
      return (next, .updated)
  | .markCommitFailed p => do
      let next ← markFabricCommitmentCommitFailed clock p db
      return (next, .updated)
  | .markConfirmationPending p transactionId => do
      let next ← markFabricCommitmentConfirmationPending clock p transactionId db
      return (next, .updated)
  | .markFailed p => do
      let next ← markFabricCommitmentFailed clock p db
      return (next, .updated)

def applyOutbox : Transaction CommitmentDatabase OutboxOp OutboxReply SqlError
  | .enqueue currentTenantId clock p, db => do
      let (next, status) ← enqueueFabricCommitment currentTenantId clock p db
      return (next, .enqueued status)
  | .call clock locked call, db => applyCall clock locked call db

/-- The row and the token that a call names, when it is not a claim. -/
def OutboxCall.holder? : OutboxCall → Option (OutboxKey × AuditClaimToken)
  | .claimSubmission _ | .claimConfirmation _ => none
  | .recordSubmission p => some ((p.tenantId, p.eventId), p.claimToken)
  | .markCommitted p => some ((p.tenantId, p.eventId), p.claimToken)
  | .markCommitFailed p => some ((p.tenantId, p.eventId), p.claimToken)
  | .markConfirmationPending p _ => some ((p.tenantId, p.eventId), p.claimToken)
  | .markFailed p => some ((p.tenantId, p.eventId), p.claimToken)

end TenantTrust.Audit
