import TenantTrust.Orchestration.RecoveryAuthorization
import Mathlib.Data.List.MinMax
import Mathlib.Data.Prod.Lex

/-! Claiming an action for execution, with the maintenance passes that precede the choice. -/

namespace TenantTrust.Orchestration

open Library Identity

/-- An attempt is the running one of an action whose lease has run out. -/
def SecurityAction.leaseExpired (at_ : Timestamp) (action : SecurityAction) : Bool :=
  match action.execution with
  | .executing claim => claim.leaseExpiresAt ≤ at_
  | _ => false

def expireAction (at_ : Timestamp) (action : SecurityAction) : SecurityAction :=
  if action.leaseExpired at_ then
    { action with
      execution := .failed
      lastFailureCode := some "ACTION_LEASE_EXPIRED"
      nextAttemptAt := at_ }
  else action

def expireAttempt (at_ : Timestamp) (actions : Table SecurityAction SecurityAction.key)
    (attempt : SecurityActionAttempt) : SecurityActionAttempt :=
  match actions.get? attempt.actionKey with
  | some action =>
      if action.leaseExpired at_ ∧ attempt.attemptNumber = action.attemptCount ∧
          attempt.outcome = .executing then
        { attempt with outcome := .failed at_ "ACTION_LEASE_EXPIRED" }
      else attempt
  | none => attempt

theorem expireAction_key (at_ : Timestamp) (action : SecurityAction) :
    (expireAction at_ action).key = action.key := by
  unfold expireAction
  split <;> rfl

theorem expireAttempt_key (at_ : Timestamp) (actions : Table SecurityAction SecurityAction.key)
    (attempt : SecurityActionAttempt) :
    (expireAttempt at_ actions attempt).key = attempt.key := by
  unfold expireAttempt
  split
  · split <;> rfl
  · rfl

/-- The two statements that fail every expired claim. -/
def expireLeases (at_ : Timestamp) (db : Database) : Database :=
  { db with
    attempts := db.attempts.update (expireAttempt at_ db.actions)
      (expireAttempt_key at_ db.actions)
    actions := db.actions.update (expireAction at_) (expireAction_key at_) }

/-- The parameters of one claim, the rows other transactions hold locked, and the random
tokens that the maintenance passes draw. -/
structure ClaimCall where
  workerId : String
  claimToken : ClaimToken
  claimedAt : Timestamp
  locked : List ActionKey
  randomToken : ActionKey → ClaimToken

def insertAttempt (row : SecurityActionAttempt)
    (attempts : Table SecurityActionAttempt SecurityActionAttempt.key) :
    Except SqlError (Table SecurityActionAttempt SecurityActionAttempt.key) := do
  require (∀ old ∈ attempts.rows,
      ¬ (old.tenantId = row.tenantId ∧ old.claimToken = row.claimToken))
    (.uniqueViolation "security_action_attempts_claim_unique")
  requireSome (attempts.insertNew row) (.uniqueViolation "security_action_attempts_pk")

def suppressAction (suppressed : SecurityAction → Bool) (code : String)
    (action : SecurityAction) : SecurityAction :=
  if suppressed action then
    { action with
      execution := .failed
      attemptCount := action.attemptCount + 1
      lastFailureCode := some code
      nextAttemptAt := ⊤ }
  else action

theorem suppressAction_key (suppressed : SecurityAction → Bool) (code : String)
    (action : SecurityAction) :
    (suppressAction suppressed code action).key = action.key := by
  unfold suppressAction
  split <;> rfl

/-- The attempt that records why a suppressed action will never run. -/
def suppressedAttempt (call : ClaimCall) (code : String) (action : SecurityAction) :
    SecurityActionAttempt where
  tenantId := action.target.tenantId
  actionId := action.actionId
  attemptNumber := action.attemptCount + 1
  claimToken := call.randomToken action.key
  workerId := call.workerId
  outcome := .failed call.claimedAt code
  startedAt := call.claimedAt
  externalReference := none

/-- A pass that makes every matching action terminal and appends its failed attempt. -/
def suppress (call : ClaimCall) (suppressed : SecurityAction → Bool) (code : String)
    (db : Database) : Except SqlError Database := do
  let attempts ← (db.actions.rows.filter suppressed).foldlM
    (fun attempts action => insertAttempt (suppressedAttempt call code action) attempts)
    db.attempts
  return { db with
    attempts := attempts
    actions := db.actions.update (suppressAction suppressed code)
      (suppressAction_key suppressed code) }

/-- The stale pass: a recovery action whose authorization was granted at another version. -/
def isStaleRecovery (db : Database) (action : SecurityAction) : Bool :=
  action.authorityClass = .recoveryAuthorization && action.execution.isClaimable &&
  action.nextAttemptAt ≠ ⊤ &&
  match db.authorizations.get? action.key, db.states.get? action.target with
  | some authorization, some state => authorization.expectedStateVersion ≠ state.stateVersion
  | _, _ => false

/-- The control that the action would apply is already part of the posture. -/
def alreadySatisfied (actionType : SecurityActionType) (posture : SecurityActionState) : Bool :=
  match actionType with
  | .restrictAccess => posture.access ≠ .normal
  | .suspendSubject => posture.access = .suspended && posture.renewal = .blocked
  | .blockRenewal => posture.renewal = .blocked
  | .revokeCertificate => posture.targetCertificate = .revoked
  | .restoreAccess | .issueReplacementCertificate => false

def isRedundant (db : Database) (action : SecurityAction) : Bool :=
  action.execution.isClaimable && action.attemptCount = 0 &&
  action.authorityClass ≠ .recoveryAuthorization &&
  match db.states.get? action.target with
  | some state => alreadySatisfied action.actionType state.posture
  | none => false

/-- `NOT EXISTS ... status = 'executing'` for the same target. -/
def targetIsIdle (db : Database) (target : Target) : Bool :=
  db.actions.rows.all fun active =>
    !(active.target = target && active.execution.status = .executing)

/-- A severity action of the target that still has to run, other than the given one. -/
def hasOpenSeverity (db : Database) (action : SecurityAction) : Bool :=
  db.actions.rows.any fun severity =>
    severity.target = action.target && severity.authorityClass = .severityRule &&
    severity.actionId ≠ action.actionId &&
    (severity.execution.status = .pending || severity.execution.status = .executing ||
      (severity.execution.status = .failed && severity.nextAttemptAt ≠ ⊤))

def recoveryMayRun (call : ClaimCall) (db : Database) (action : SecurityAction) : Bool :=
  (match db.authorizations.get? action.key with
    | some authorization => call.claimedAt ≤ authorization.expiresAt
    | none => false) &&
  !hasOpenSeverity db action

def isCandidate (call : ClaimCall) (db : Database) (action : SecurityAction) : Bool :=
  action.execution.isClaimable && action.nextAttemptAt ≤ call.claimedAt &&
  (action.authorityClass ≠ .recoveryAuthorization || recoveryMayRun call db action) &&
  targetIsIdle db action.target

/-- `ORDER BY next_attempt_at, requested_at, action_id ... SKIP LOCKED LIMIT 1` -/
def selectCandidate (call : ClaimCall) (db : Database) : Option SecurityAction :=
  (db.actions.rows.filter fun action =>
      isCandidate call db action && !(call.locked.contains action.key)).argmin
    fun action => toLex (action.nextAttemptAt, toLex (action.requestedAt, action.actionId))

/-- The recheck after the row locks: the authorization no longer fits the state. -/
def lostAuthorization (db : Database) (action : SecurityAction)
    (state : SubjectSecurityState) : Bool :=
  action.authorityClass = .recoveryAuthorization &&
  match db.authorizations.get? action.key with
  | some authorization => authorization.expectedStateVersion ≠ state.stateVersion
  | none => true

def ClaimCall.claim (call : ClaimCall) : Claim where
  claimedBy := call.workerId
  claimToken := call.claimToken
  claimedAt := call.claimedAt
  leaseExpiresAt := call.claimedAt + seconds 300

def executeAction (call : ClaimCall) (chosen : SecurityAction) (stateVersion : Nat)
    (action : SecurityAction) : SecurityAction :=
  if action.key = chosen.key then
    { action with
      execution := .executing call.claim
      attemptCount := action.attemptCount + 1
      expectedStateVersion := stateVersion
      lastFailureCode := none }
  else action

theorem executeAction_key (call : ClaimCall) (chosen : SecurityAction) (stateVersion : Nat)
    (action : SecurityAction) :
    (executeAction call chosen stateVersion action).key = action.key := by
  unfold executeAction
  split <;> rfl

def claimedAttempt (call : ClaimCall) (action : SecurityAction) : SecurityActionAttempt where
  tenantId := action.target.tenantId
  actionId := action.actionId
  attemptNumber := action.attemptCount + 1
  claimToken := call.claimToken
  workerId := call.workerId
  outcome := .executing
  startedAt := call.claimedAt
  externalReference := none

/-- What a claim returns to the worker. -/
structure ClaimedAction where
  action : SecurityAction
  posture : SecurityActionState
  recoveryAuthorization : Option RecoveryAuthorization

def startExecution (call : ClaimCall) (chosen : SecurityAction) (state : SubjectSecurityState)
    (db : Database) : Except SqlError (Database × Option ClaimedAction) := do
  require (targetIsIdle db chosen.target)
    (.uniqueViolation "security_actions_one_executing_per_target")
  let attempts ← insertAttempt (claimedAttempt call chosen) db.attempts
  let db := { db with
    attempts := attempts
    actions := db.actions.update (executeAction call chosen state.stateVersion)
      (executeAction_key call chosen state.stateVersion) }
  return (db, some {
    action := executeAction call chosen state.stateVersion chosen
    posture := state.posture
    recoveryAuthorization := if chosen.authorityClass = .recoveryAuthorization then
      db.authorizations.get? chosen.key else none })

/-- The part of a claim that follows the maintenance passes. -/
def claimCandidate (call : ClaimCall) (db : Database) :
    Except SqlError (Database × Option ClaimedAction) :=
  match selectCandidate call db with
  | none => .ok (db, none)
  | some chosen => do
      let state ← requireSome (db.states.get? chosen.target)
        (.checkViolation "security_actions.expected_state_version")
      if lostAuthorization db chosen state then
        let db ← suppress call (fun action => decide (action.key = chosen.key))
          "RECOVERY_STATE_CHANGED" db
        return (db, none)
      else startExecution call chosen state db

def claimSecurityAction (call : ClaimCall) (db : Database) :
    Except SqlError (Database × Option ClaimedAction) := do
  require (isWorkerId call.workerId) (.raised "SECURITY_ACTION_CLAIM_INVALID")
  let expired := expireLeases call.claimedAt db
  let refreshed ← suppress call (isStaleRecovery expired) "RECOVERY_STATE_CHANGED" expired
  let remaining ← suppress call (isRedundant refreshed) "ACTION_ALREADY_SATISFIED" refreshed
  claimCandidate call remaining

/-- `recover_expired_security_action_leases`; the reply is the number of recovered claims. -/
def recoverExpiredLeases (clock : Timestamp) (recoveredBy : String) (recoveredAt : Timestamp)
    (db : Database) : Except SqlError (Database × Nat) := do
  require (isWorkerId recoveredBy ∧ recoveredAt ≤ clock + seconds 2)
    (.raised "SECURITY_ACTION_RECOVERY_INVALID")
  return (expireLeases recoveredAt db, db.actions.count (SecurityAction.leaseExpired recoveredAt))

end TenantTrust.Orchestration
