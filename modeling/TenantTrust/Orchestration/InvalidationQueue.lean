import TenantTrust.Orchestration.Tables
import Mathlib.Data.List.MinMax
import Mathlib.Data.Prod.Lex

/-! The queue of invalidation jobs: claims with a lease, completions, failures and retries. -/

namespace TenantTrust.Orchestration

open Library Identity

abbrev InvalidationToken := Identifier .invalidationToken

/-- The columns that are set exactly while a job is executing. -/
structure InvalidationLease where
  claimedBy : String
  claimToken : InvalidationToken
  claimedAt : Timestamp
  leaseExpiresAt : Timestamp
  deriving DecidableEq, Repr

structure InvalidationCompletion where
  sessionsInvalidated : Nat
  cacheEntriesInvalidated : Nat
  invalidatedAt : Timestamp
  enforcementDelayMs : Int
  withinTarget : Bool
  completedAt : Timestamp
  deriving DecidableEq, Repr

/-- Status and its columns together, as the two shape constraints require them. -/
inductive InvalidationExecution where
  | pending
  | executing (lease : InvalidationLease)
  | completed (completion : InvalidationCompletion)
  | failed
  deriving DecidableEq, Repr

/-- `WHERE status IN ('pending', 'failed')` -/
def InvalidationExecution.isClaimable : InvalidationExecution → Bool
  | pending | failed => true
  | executing _ | completed _ => false

def InvalidationExecution.isExecuting : InvalidationExecution → Bool
  | executing _ => true
  | pending | completed _ | failed => false

/-- `INVALIDATING_ACTIONS` -/
def isInvalidatingAction : SecurityActionType → Bool
  | .suspendSubject | .revokeCertificate => true
  | .restrictAccess | .blockRenewal | .issueReplacementCertificate | .restoreAccess => false

/-- A job row; `invalidating` is the constraint on its action type. -/
structure InvalidationJob where
  request : SecurityStateInvalidation
  invalidating : isInvalidatingAction request.actionType
  execution : InvalidationExecution
  attemptCount : Nat
  nextAttemptAt : Timestamp
  lastFailureCode : Option String
  deriving DecidableEq, Repr

def InvalidationJob.key (job : InvalidationJob) : ActionKey := job.request.key

/-- The scope of one advisory lock and of one set of registries. -/
abbrev SubjectKey := TenantId × SubjectId

def InvalidationJob.subject (job : InvalidationJob) : SubjectKey :=
  (job.request.tenantId, job.request.subjectId)

inductive InvalidationAttemptOutcome where
  | executing
  | completed (completedAt : Timestamp) (sessionsInvalidated cacheEntriesInvalidated : Nat)
      (invalidatedAt : Timestamp)
  | failed (completedAt : Timestamp) (failureCode : String)
  deriving DecidableEq, Repr

structure InvalidationAttempt where
  tenantId : TenantId
  actionId : ActionId
  attemptNumber : Nat
  claimToken : InvalidationToken
  workerId : String
  outcome : InvalidationAttemptOutcome
  startedAt : Timestamp
  deriving DecidableEq, Repr

def InvalidationAttempt.key (attempt : InvalidationAttempt) : ActionKey × Nat :=
  ((attempt.tenantId, attempt.actionId), attempt.attemptNumber)

structure InvalidationQueue where
  jobs : Table InvalidationJob InvalidationJob.key
  attempts : Table InvalidationAttempt InvalidationAttempt.key

def InvalidationQueue.empty : InvalidationQueue := ⟨Table.empty, Table.empty⟩

def newInvalidationJob (request : SecurityStateInvalidation)
    (invalidating : isInvalidatingAction request.actionType) : InvalidationJob where
  request := request
  invalidating := invalidating
  execution := .pending
  attemptCount := 0
  nextAttemptAt := request.actionSucceededAt
  lastFailureCode := none

/-- The row that the success of an action queues; a second one for the action is not inserted. -/
def enqueueInvalidation (request : SecurityStateInvalidation)
    (queue : InvalidationQueue) : InvalidationQueue :=
  if invalidating : isInvalidatingAction request.actionType then
    { queue with
      jobs := (queue.jobs.insertNew (newInvalidationJob request invalidating)).getD queue.jobs }
  else queue

def InvalidationJob.leaseExpired (at_ : Timestamp) (job : InvalidationJob) : Bool :=
  match job.execution with
  | .executing lease => lease.leaseExpiresAt < at_
  | _ => false

def expireInvalidation (at_ : Timestamp) (job : InvalidationJob) : InvalidationJob :=
  if job.leaseExpired at_ then
    { job with
      execution := .failed
      lastFailureCode := some "INVALIDATION_LEASE_EXPIRED"
      nextAttemptAt := at_ }
  else job

theorem expireInvalidation_key (at_ : Timestamp) (job : InvalidationJob) :
    (expireInvalidation at_ job).key = job.key := by
  unfold expireInvalidation
  split <;> rfl

/-- The attempt that a job is currently running. -/
def InvalidationAttempt.isCurrent (attempt : InvalidationAttempt) (job : InvalidationJob) : Bool :=
  attempt.key = (job.key, job.attemptCount)

def expireInvalidationAttempt (at_ : Timestamp) (jobs : Table InvalidationJob InvalidationJob.key)
    (attempt : InvalidationAttempt) : InvalidationAttempt :=
  match jobs.get? (attempt.tenantId, attempt.actionId) with
  | some job =>
      if attempt.isCurrent job ∧ attempt.outcome = .executing ∧ job.leaseExpired at_ then
        { attempt with outcome := .failed at_ "INVALIDATION_LEASE_EXPIRED" }
      else attempt
  | none => attempt

theorem expireInvalidationAttempt_key (at_ : Timestamp)
    (jobs : Table InvalidationJob InvalidationJob.key) (attempt : InvalidationAttempt) :
    (expireInvalidationAttempt at_ jobs attempt).key = attempt.key := by
  unfold expireInvalidationAttempt
  split
  · split <;> rfl
  · rfl

def expireInvalidationLeases (at_ : Timestamp) (queue : InvalidationQueue) : InvalidationQueue where
  attempts := queue.attempts.update (expireInvalidationAttempt at_ queue.jobs)
    (expireInvalidationAttempt_key at_ queue.jobs)
  jobs := queue.jobs.update (expireInvalidation at_) (expireInvalidation_key at_)

/-- The parameters of one claim, with the rows and the advisory locks that other transactions
hold while it runs. -/
structure InvalidationClaimCall where
  clock : Timestamp
  workerId : String
  claimToken : InvalidationToken
  claimedAt : Timestamp
  lockedRows : List ActionKey
  lockedSubjects : List SubjectKey
  deriving DecidableEq, Repr

def subjectIsIdle (queue : InvalidationQueue) (subject : SubjectKey) : Bool :=
  queue.jobs.rows.all fun active => !(active.subject = subject && active.execution.isExecuting)

def isInvalidationCandidate (call : InvalidationClaimCall) (queue : InvalidationQueue)
    (job : InvalidationJob) : Bool :=
  job.execution.isClaimable && job.nextAttemptAt ≤ call.claimedAt &&
  !(call.lockedSubjects.contains job.subject) && subjectIsIdle queue job.subject &&
  !(call.lockedRows.contains job.key)

/-- `ORDER BY next_attempt_at, action_succeeded_at, action_id ... LIMIT 1` -/
def selectInvalidation (call : InvalidationClaimCall) (queue : InvalidationQueue) :
    Option InvalidationJob :=
  (queue.jobs.rows.filter (isInvalidationCandidate call queue)).argmin fun job =>
    toLex (job.nextAttemptAt, toLex (job.request.actionSucceededAt, job.request.actionId))

def InvalidationClaimCall.lease (call : InvalidationClaimCall) : InvalidationLease where
  claimedBy := call.workerId
  claimToken := call.claimToken
  claimedAt := call.claimedAt
  leaseExpiresAt := call.claimedAt + seconds 30

def claimedJob (call : InvalidationClaimCall) (job : InvalidationJob) : InvalidationJob :=
  { job with
    execution := .executing call.lease
    attemptCount := job.attemptCount + 1
    lastFailureCode := none }

def claimedInvalidationAttempt (call : InvalidationClaimCall) (job : InvalidationJob) :
    InvalidationAttempt where
  tenantId := job.request.tenantId
  actionId := job.request.actionId
  attemptNumber := job.attemptCount + 1
  claimToken := call.claimToken
  workerId := call.workerId
  outcome := .executing
  startedAt := call.claimedAt

/-- What a claim returns to the worker, which checks the action type again. -/
structure ClaimedInvalidation where
  tenantId : TenantId
  actionId : ActionId
  subjectId : SubjectId
  certificateId : CertificateId
  actionType : SecurityActionType
  invalidating : isInvalidatingAction actionType
  claimToken : InvalidationToken
  attemptCount : Nat
  actionSucceededAt : Timestamp
  deriving DecidableEq, Repr

def ClaimedInvalidation.subject (claim : ClaimedInvalidation) : SubjectKey :=
  (claim.tenantId, claim.subjectId)

def claimedInvalidation (call : InvalidationClaimCall) (job : InvalidationJob) :
    ClaimedInvalidation where
  tenantId := job.request.tenantId
  actionId := job.request.actionId
  subjectId := job.request.subjectId
  certificateId := job.request.certificateId
  actionType := job.request.actionType
  invalidating := job.invalidating
  claimToken := call.claimToken
  attemptCount := job.attemptCount + 1
  actionSucceededAt := job.request.actionSucceededAt

def insertInvalidationAttempt (row : InvalidationAttempt)
    (attempts : Table InvalidationAttempt InvalidationAttempt.key) :
    Except SqlError (Table InvalidationAttempt InvalidationAttempt.key) := do
  require (∀ old ∈ attempts.rows,
      ¬ (old.tenantId = row.tenantId ∧ old.claimToken = row.claimToken))
    (.uniqueViolation "security_state_invalidation_attempts_claim_unique")
  requireSome (attempts.insertNew row) (.uniqueViolation "security_state_invalidation_attempts_pk")

def claimSecurityStateInvalidation (call : InvalidationClaimCall) (queue : InvalidationQueue) :
    Except SqlError (InvalidationQueue × Option ClaimedInvalidation) := do
  require (isWorkerId call.workerId ∧ call.claimedAt ≤ call.clock + seconds 2)
    (.raised "SECURITY_INVALIDATION_CLAIM_INVALID")
  let queue := expireInvalidationLeases call.claimedAt queue
  match selectInvalidation call queue with
  | none => return (queue, none)
  | some job => do
      require (subjectIsIdle queue job.subject)
        (.uniqueViolation "security_state_invalidations_one_claim_per_subject")
      let attempts ← insertInvalidationAttempt (claimedInvalidationAttempt call job) queue.attempts
      return (⟨queue.jobs.replace (claimedJob call job), attempts⟩,
        some (claimedInvalidation call job))

/-- The executing job that a token still holds at a time. -/
def heldInvalidation (tenantId : TenantId) (actionId : ActionId) (claimToken : InvalidationToken)
    (at_ : Timestamp) (queue : InvalidationQueue) : Option InvalidationJob :=
  (queue.jobs.get? (tenantId, actionId)).filter fun job =>
    match job.execution with
    | .executing lease => lease.claimToken = claimToken && at_ ≤ lease.leaseExpiresAt
    | _ => false

def closeAttempt (job : InvalidationJob) (outcome : InvalidationAttemptOutcome)
    (claimToken : InvalidationToken) (attempt : InvalidationAttempt) : InvalidationAttempt :=
  if attempt.isCurrent job ∧ attempt.claimToken = claimToken then
    { attempt with outcome := outcome }
  else attempt

theorem closeAttempt_key (job : InvalidationJob) (outcome : InvalidationAttemptOutcome)
    (claimToken : InvalidationToken) (attempt : InvalidationAttempt) :
    (closeAttempt job outcome claimToken attempt).key = attempt.key := by
  unfold closeAttempt
  split <;> rfl

def closeInvalidation (job : InvalidationJob) (closed : InvalidationJob)
    (outcome : InvalidationAttemptOutcome) (claimToken : InvalidationToken)
    (queue : InvalidationQueue) : InvalidationQueue where
  attempts := queue.attempts.update (closeAttempt job outcome claimToken)
    (closeAttempt_key job outcome claimToken)
  jobs := queue.jobs.replace closed

structure InvalidationCompletionCall where
  tenantId : TenantId
  actionId : ActionId
  claimToken : InvalidationToken
  sessionsInvalidated : Nat
  cacheEntriesInvalidated : Nat
  invalidatedAt : Timestamp
  completedAt : Timestamp
  deriving DecidableEq, Repr

def completeSecurityStateInvalidation (p : InvalidationCompletionCall)
    (queue : InvalidationQueue) : Except SqlError (InvalidationQueue × InvalidationJob) := do
  require (p.invalidatedAt ≤ p.completedAt) (.raised "SECURITY_INVALIDATION_COMPLETION_INVALID")
  let job ← requireSome (heldInvalidation p.tenantId p.actionId p.claimToken p.completedAt queue)
    (.raised "SECURITY_INVALIDATION_CLAIM_CONFLICT")
  require (job.request.actionSucceededAt ≤ p.invalidatedAt)
    (.raised "SECURITY_INVALIDATION_CLAIM_CONFLICT")
  let delay := p.invalidatedAt - job.request.actionSucceededAt
  let closed := { job with
    execution := .completed {
      sessionsInvalidated := p.sessionsInvalidated
      cacheEntriesInvalidated := p.cacheEntriesInvalidated
      invalidatedAt := p.invalidatedAt
      enforcementDelayMs := delay
      withinTarget := delay ≤ 5000
      completedAt := p.completedAt } }
  return (closeInvalidation job closed (.completed p.completedAt p.sessionsInvalidated
    p.cacheEntriesInvalidated p.invalidatedAt) p.claimToken queue, closed)

structure InvalidationFailureCall where
  tenantId : TenantId
  actionId : ActionId
  claimToken : InvalidationToken
  failureCode : String
  failedAt : Timestamp
  retryDelaySeconds : Nat
  deriving DecidableEq, Repr

def failSecurityStateInvalidation (p : InvalidationFailureCall)
    (queue : InvalidationQueue) : Except SqlError (InvalidationQueue × InvalidationJob) := do
  require (isReasonCode p.failureCode ∧ 1 ≤ p.retryDelaySeconds ∧ p.retryDelaySeconds ≤ 60)
    (.raised "SECURITY_INVALIDATION_FAILURE_INVALID")
  let job ← requireSome (heldInvalidation p.tenantId p.actionId p.claimToken p.failedAt queue)
    (.raised "SECURITY_INVALIDATION_CLAIM_CONFLICT")
  let closed := { job with
    execution := .failed
    lastFailureCode := some p.failureCode
    nextAttemptAt := p.failedAt + seconds p.retryDelaySeconds }
  return (closeInvalidation job closed (.failed p.failedAt p.failureCode) p.claimToken queue,
    closed)

end TenantTrust.Orchestration
