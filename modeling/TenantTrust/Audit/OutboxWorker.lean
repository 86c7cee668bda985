import TenantTrust.Audit.FabricOutbox
import Mathlib.Algebra.Group.Int.Defs
import Mathlib.Logic.Function.Basic
import Mathlib.Logic.Relation

/-! Any number of outbox workers, their calls in flight, and the ledger behind their gateway. -/

namespace TenantTrust.Audit

open Library Identity

/-- What `submitCommitment` answers. -/
structure Submission where
  ledgerKey : LedgerKey
  status : SubmissionStatus
  transactionId : TransactionId
  deriving DecidableEq, Repr

/-- What a commit wait or a status query answers. -/
structure CommitStatus where
  transactionId : TransactionId
  validationCode : Int
  blockNumber : Int
  source : ConfirmationSource
  deriving DecidableEq, Repr

/-- The network behind the gateway: what it does by itself, the submissions it takes with their
answers, and the statuses it reports of a transaction of a tenant. -/
structure Fabric (Ledger : Type) where
  proceeds : Ledger → Ledger → Prop
  submits : Ledger → TenantId → AuditLedgerValue → Ledger → Submission → Prop
  reports : Ledger → TenantId → TransactionId → CommitStatus → Prop

/-- Block numbers stay far below the largest safe integer, so that bound is left out. -/
def validateStatus (status : CommitStatus) (transactionId : TransactionId) :
    Option CommitVerdict :=
  if status.transactionId = transactionId ∧ 0 ≤ status.validationCode ∧ 0 ≤ status.blockNumber then
    some ⟨transactionId, status.validationCode, status.blockNumber, status.source⟩
  else none

/-- Seconds until the next try. -/
def delayFor (attemptCount : Nat) : Int :=
  min 600 (5 * 2 ^ min (attemptCount - 1) 30)

/-- The reason code of an error, where it has one that the outbox accepts. -/
def failureCodeFor (reasonCode : Option String) (fallback : String) : String :=
  match reasonCode with
  | some code => if isReasonCode code then code else fallback
  | none => fallback

/-- Whether a status is asked for again or awaited after the submission. -/
inductive ConfirmationPath where
  | requery | direct
  deriving DecidableEq, Repr

def ConfirmationPath.fallback : ConfirmationPath → String
  | .requery => "TRANSACTION_STATUS_QUERY_FAILED"
  | .direct => "COMMIT_STATUS_UNAVAILABLE"

/-- The claim of a worker that has submitted. -/
def SubmissionClaim.active (claim : SubmissionClaim) (transactionId : TransactionId) :
    ConfirmationClaim where
  tenantId := claim.commitment.tenantId
  eventId := claim.commitment.eventId
  transactionId := transactionId
  claimToken := claim.claimToken
  attemptCount := claim.attemptCount

/-- The checks of `submissionClaim` on a returned row. -/
def SubmissionClaim.isSound (claim : SubmissionClaim) : Bool :=
  1 ≤ claim.attemptCount && claim.commitment.ledgerKey = claim.commitment.ledgerValue.key

/-- What a worker does with the reply to its call. -/
inductive Awaited where
  | gap
  | claim
  | recording (claim : SubmissionClaim) (transactionId : TransactionId)
  | finishing (claim : ConfirmationClaim) (path : ConfirmationPath)
  | closing
  deriving DecidableEq, Repr

/-- Where a call of `runOnce` stands between two of its awaits. -/
inductive WorkerPhase where
  | idle
  | awaiting (call : OutboxCall) (awaited : Awaited)
  | noGap
  | querying (gap : ConfirmationClaim)
  | submitting (claim : SubmissionClaim)
  | submitted (claim : SubmissionClaim) (submission : Submission)
  | waiting (active : ConfirmationClaim)
  | reported (claim : ConfirmationClaim) (path : ConfirmationPath) (verdict : CommitVerdict)
  | submissionFailed (claim : SubmissionClaim) (reasonCode : Option String)
  | confirmationFailed (claim : ConfirmationClaim) (path : ConfirmationPath)
      (reasonCode : Option String)
  deriving DecidableEq, Repr

namespace WorkerPhase

/-- The first call of `finishConfirmation`. -/
def finish (claim : ConfirmationClaim) (verdict : CommitVerdict) (now : Timestamp) : OutboxCall :=
  if verdict.validationCode = 0 then
    .markCommitted ⟨claim.tenantId, claim.eventId, claim.claimToken, verdict, now⟩
  else
    .markCommitFailed ⟨claim.tenantId, claim.eventId, claim.claimToken, verdict, now,
      delayFor claim.attemptCount⟩

/-- The call that a worker sends next, if it is not waiting for anything. -/
def next? (workerId : String) (claimToken : AuditClaimToken) (now : Timestamp) :
    WorkerPhase → Option (OutboxCall × Awaited)
  | idle => some (.claimConfirmation ⟨workerId, claimToken, now⟩, .gap)
  | noGap => some (.claimSubmission ⟨workerId, claimToken, now⟩, .claim)
  | submitted claim submission =>
      some (.recordSubmission ⟨claim.commitment.tenantId, claim.commitment.eventId,
        claim.claimToken, claim.commitment.ledgerKey, submission.status, submission.transactionId,
        now⟩, .recording claim submission.transactionId)
  | reported claim path verdict => some (finish claim verdict now, .finishing claim path)
  | submissionFailed claim reasonCode =>
      some (.markFailed ⟨claim.commitment.tenantId, claim.commitment.eventId, claim.claimToken,
        failureCodeFor reasonCode "FABRIC_SUBMISSION_FAILED", now, delayFor claim.attemptCount⟩,
        .closing)
  | confirmationFailed claim path reasonCode =>
      some (.markConfirmationPending ⟨claim.tenantId, claim.eventId, claim.claimToken,
        failureCodeFor reasonCode path.fallback, now, delayFor claim.attemptCount⟩
        claim.transactionId, .closing)
  | awaiting _ _ | querying _ | submitting _ | waiting _ => none

/-- The transaction whose status a worker waits for. -/
def asks? : WorkerPhase → Option (ConfirmationClaim × ConfirmationPath)
  | querying gap => some (gap, .requery)
  | waiting active => some (active, .direct)
  | _ => none

/-- What follows the answer to a status query. -/
def onStatus (claim : ConfirmationClaim) (path : ConfirmationPath) (status : CommitStatus) :
    WorkerPhase :=
  match validateStatus status claim.transactionId with
  | some verdict => reported claim path verdict
  | none => confirmationFailed claim path (some "FABRIC_COMMIT_STATUS_INVALID")

/-- What follows the answer to a submission. -/
def onSubmission (claim : SubmissionClaim) (submission : Submission) : WorkerPhase :=
  if submission.ledgerKey = claim.commitment.ledgerKey then submitted claim submission
  else submissionFailed claim (some "FABRIC_RESPONSE_INVALID")

/-- What follows the reply to a call; an error carries its reason code, if it has one. -/
def resume : Awaited → Except (Option String) OutboxReply → WorkerPhase
  | .gap, .ok (.confirmationClaim (some gap)) => querying gap
  | .gap, .ok (.confirmationClaim none) => noGap
  | .claim, .ok (.submissionClaim (some claim)) =>
      if claim.isSound then submitting claim else idle
  | .recording claim transactionId, .ok .updated => waiting (claim.active transactionId)
  | .recording claim _, .error reasonCode => submissionFailed claim reasonCode
  | .finishing claim path, .error reasonCode => confirmationFailed claim path reasonCode
  | _, _ => idle

end WorkerPhase

/-- A row with the token that it was claimed with. -/
abbrev Lease := OutboxKey × AuditClaimToken

/-- The row that a reply leases out. -/
def OutboxReply.lease? : OutboxReply → Option Lease
  | .submissionClaim (some claim) => some (claim.commitment.key, claim.claimToken)
  | .confirmationClaim (some claim) => some ((claim.tenantId, claim.eventId), claim.claimToken)
  | _ => none

/-- The last three fields only record: tokens drawn, leases given and statuses reported. -/
structure OutboxSystem (Ledger : Type) where
  clock : Timestamp
  db : CommitmentDatabase
  ledger : Ledger
  workers : Nat → WorkerPhase
  inFlight : List OutboxCall
  drawn : List AuditClaimToken
  leases : List Lease
  reports : List (TenantId × CommitStatus)

namespace OutboxSystem

variable {Ledger : Type}

def initial (clock : Timestamp) (ledger : Ledger) : OutboxSystem Ledger where
  clock := clock
  db := CommitmentDatabase.empty
  ledger := ledger
  workers := fun _ => .idle
  inFlight := []
  drawn := []
  leases := []
  reports := []

def setWorker (system : OutboxSystem Ledger) (worker : Nat) (phase : WorkerPhase) :
    OutboxSystem Ledger :=
  { system with workers := Function.update system.workers worker phase }

/-- The database executes a call; the other calls stay in flight. -/
def execute (system : OutboxSystem Ledger) (locked : List OutboxKey) (call : OutboxCall)
    (others : List OutboxCall) : OutboxSystem Ledger × Except (Option String) OutboxReply :=
  match applyCall system.clock locked call system.db with
  | .ok (db, reply) =>
      ({ system with
          db := db
          inFlight := others
          leases := system.leases ++ reply.lease?.toList }, .ok reply)
  | .error _ => ({ system with inFlight := others }, .error none)

/-- The steps that carry a delivery on: the clock advances, and a worker sends its next call, is
answered by the database or the network, and goes on. -/
inductive Advance (fabric : Fabric Ledger) (s : OutboxSystem Ledger) : OutboxSystem Ledger → Prop
  | tick (clock : Timestamp) (later : s.clock ≤ clock) : Advance fabric s { s with clock := clock }
  | send (worker : Nat) (workerId : String) (claimToken : AuditClaimToken) (now : Timestamp)
      (call : OutboxCall) (awaited : Awaited) (named : isWorkerId workerId = true)
      (fresh : claimToken ∉ s.drawn)
      (sends : (s.workers worker).next? workerId claimToken now = some (call, awaited)) :
      Advance fabric s ({ s with
        inFlight := s.inFlight ++ [call]
        drawn := claimToken :: s.drawn }.setWorker worker (.awaiting call awaited))
  | answer (worker : Nat) (call : OutboxCall) (awaited : Awaited) (front back : List OutboxCall)
      (awaits : s.workers worker = .awaiting call awaited)
      (pending : s.inFlight = front ++ call :: back) :
      Advance fabric s ((s.execute [] call (front ++ back)).1.setWorker worker
        (WorkerPhase.resume awaited (s.execute [] call (front ++ back)).2))
  | submit (worker : Nat) (claim : SubmissionClaim) (ledger : Ledger) (submission : Submission)
      (holds : s.workers worker = .submitting claim)
      (submits : fabric.submits s.ledger claim.commitment.tenantId claim.commitment.ledgerValue
        ledger submission) :
      Advance fabric s ({ s with ledger := ledger }.setWorker worker
        (WorkerPhase.onSubmission claim submission))
  | report (worker : Nat) (claim : ConfirmationClaim) (path : ConfirmationPath)
      (status : CommitStatus) (asks : (s.workers worker).asks? = some (claim, path))
      (reports : fabric.reports s.ledger claim.tenantId claim.transactionId status) :
      Advance fabric s ({ s with
        reports := (claim.tenantId, status) :: s.reports }.setWorker worker
          (WorkerPhase.onStatus claim path status))

/-- Besides, the network moves, services enqueue, calls find rows locked or are executed late,
replies are lost, the network fails, and workers crash. A call is executed at most once, at any
later time. -/
inductive Step (fabric : Fabric Ledger) (s : OutboxSystem Ledger) : OutboxSystem Ledger → Prop
  | advance {t : OutboxSystem Ledger} (step : Advance fabric s t) : Step fabric s t
  | contend (worker : Nat) (locked : List OutboxKey) (call : OutboxCall) (awaited : Awaited)
      (front back : List OutboxCall) (awaits : s.workers worker = .awaiting call awaited)
      (pending : s.inFlight = front ++ call :: back) :
      Step fabric s ((s.execute locked call (front ++ back)).1.setWorker worker
        (WorkerPhase.resume awaited (s.execute locked call (front ++ back)).2))
  | proceed (ledger : Ledger) (moves : fabric.proceeds s.ledger ledger) :
      Step fabric s { s with ledger := ledger }
  | enqueue (currentTenantId : TenantId) (p : CommitmentEnqueue) :
      Step fabric s { s with
        db := Transaction.commit applyOutbox s.db (.enqueue currentTenantId s.clock p) }
  | deliver (locked : List OutboxKey) (call : OutboxCall) (front back : List OutboxCall)
      (pending : s.inFlight = front ++ call :: back) :
      Step fabric s (s.execute locked call (front ++ back)).1
  | lose (worker : Nat) (call : OutboxCall) (awaited : Awaited) (reasonCode : Option String)
      (awaits : s.workers worker = .awaiting call awaited) :
      Step fabric s (s.setWorker worker (WorkerPhase.resume awaited (.error reasonCode)))
  | unavailable (worker : Nat) (claim : ConfirmationClaim) (path : ConfirmationPath)
      (reasonCode : Option String) (asks : (s.workers worker).asks? = some (claim, path)) :
      Step fabric s (s.setWorker worker (.confirmationFailed claim path reasonCode))
  | submitUnheard (worker : Nat) (claim : SubmissionClaim) (ledger : Ledger)
      (submission : Submission) (reasonCode : Option String)
      (holds : s.workers worker = .submitting claim)
      (submits : fabric.submits s.ledger claim.commitment.tenantId claim.commitment.ledgerValue
        ledger submission) :
      Step fabric s ({ s with ledger := ledger }.setWorker worker
        (.submissionFailed claim reasonCode))
  | refuse (worker : Nat) (claim : SubmissionClaim) (reasonCode : Option String)
      (holds : s.workers worker = .submitting claim) :
      Step fabric s (s.setWorker worker (.submissionFailed claim reasonCode))
  | crash (worker : Nat) : Step fabric s (s.setWorker worker .idle)

/-- Any number of steps. -/
abbrev Run (fabric : Fabric Ledger) : OutboxSystem Ledger → OutboxSystem Ledger → Prop :=
  Relation.ReflTransGen (Step fabric)

/-- Any number of steps without a disturbance. -/
abbrev Continuation (fabric : Fabric Ledger) : OutboxSystem Ledger → OutboxSystem Ledger → Prop :=
  Relation.ReflTransGen (Advance fabric)

theorem Continuation.run {fabric : Fabric Ledger} {s t : OutboxSystem Ledger}
    (continuation : Continuation fabric s t) : Run fabric s t := by
  have steps : Advance fabric ≤ Step fabric := fun _ _ => Step.advance
  exact Relation.ReflTransGen.mono steps _ _ continuation

/-- The states of a system that has started with an empty outbox. -/
def Reachable (fabric : Fabric Ledger) (start : Ledger → Prop) (s : OutboxSystem Ledger) : Prop :=
  ∃ clock ledger, start ledger ∧ Run fabric (initial clock ledger) s

end OutboxSystem

end TenantTrust.Audit
