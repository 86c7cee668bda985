import TenantTrust.Orchestration.Claim

/-! Reporting the end of an attempt: success with a resulting posture, or failure. -/

namespace TenantTrust.Orchestration

open Library Identity

/-- `v_expected`, the only result state that a success may report. -/
def expectedResultState (actionType : SecurityActionType) (posture : SecurityActionState) :
    SecurityActionState where
  access := match actionType with
    | .restrictAccess => if posture.access = .normal then .restricted else posture.access
    | .suspendSubject => .suspended
    | .revokeCertificate => .suspended
    | .restoreAccess => .normal
    | _ => posture.access
  renewal := match actionType with
    | .suspendSubject => .blocked
    | .blockRenewal => .blocked
    | .revokeCertificate => .blocked
    | .restoreAccess => .allowed
    | _ => posture.renewal
  targetCertificate :=
    if actionType = .revokeCertificate then .revoked else posture.targetCertificate
  replacement :=
    if actionType = .revokeCertificate ∧ posture.targetCertificate ≠ .revoked then .required
    else if actionType = .issueReplacementCertificate then .issued
    else posture.replacement

/-- `p_claim_token` may be `NULL`. -/
structure SuccessReport where
  tenantId : TenantId
  actionId : ActionId
  claimToken : Option ClaimToken
  resultState : SecurityActionState
  externalReference : Option ExternalReference
  succeededAt : Timestamp
  deriving DecidableEq, Repr

/-- The claim that a report must still hold: executing, no other token, lease not run out.
A comparison with `NULL` is unknown, so a report without a token is not turned away. -/
def heldClaim (action : SecurityAction) (claimToken : Option ClaimToken) (at_ : Timestamp) :
    Bool :=
  match action.execution with
  | .executing claim =>
      claimToken.all (fun token => claim.claimToken = token) && at_ ≤ claim.leaseExpiresAt
  | _ => false

/-- A replacement is an active certificate of the same subject, issued after the
authorization and at the request of its author. -/
def confirmsReplacement (inventory : Inventory) (authorization : RecoveryAuthorization)
    (target : Target) (reference : Option ExternalReference) : Bool :=
  match reference with
  | some (.certificate certificateId) =>
      certificateId ≠ target.certificateId &&
      match inventory.certificate? target.tenantId certificateId with
      | some replacement =>
          replacement.subjectId = target.subjectId && replacement.state = .active &&
          authorization.authorizedAt ≤ replacement.issuedAt &&
          replacement.requestedBySubjectId = authorization.authorizedBySubjectId
      | none => false
  | _ => false

def requireRecoveryAuthority (action : SecurityAction) (report : SuccessReport)
    (db : Database) : Except SqlError Unit :=
  if action.authorityClass = .recoveryAuthorization then do
    let authorization ← requireSome (db.authorizations.get? action.key)
      (.raised "RECOVERY_AUTHORIZATION_INVALID")
    require (authorization.actionType = action.actionType ∧
        report.succeededAt ≤ authorization.expiresAt)
      (.raised "RECOVERY_AUTHORIZATION_INVALID")
    if action.actionType = .issueReplacementCertificate then
      require (confirmsReplacement db.inventory authorization action.target
          report.externalReference)
        (.raised "REPLACEMENT_ISSUANCE_UNCONFIRMED")
    else
      require (report.externalReference = none) (.raised "SECURITY_ACTION_RESULT_INVALID")
  else
    require (action.actionType ≠ .restoreAccess ∧
        action.actionType ≠ .issueReplacementCertificate)
      (.raised "RECOVERY_AUTHORIZATION_REQUIRED")

def requireInventoryState (action : SecurityAction) (posture : SecurityActionState)
    (inventory : Inventory) : Except SqlError Unit := do
  require (action.actionType = .revokeCertificate →
      inventoryRevoked inventory action.target.tenantId action.target.certificateId)
    (.raised "REVOCATION_EXECUTION_UNCONFIRMED")
  require (posture.targetCertificate = .revoked →
      inventoryRevoked inventory action.target.tenantId action.target.certificateId)
    (.raised "REVOKED_TARGET_CHANGED")

def advanceState (target : Target) (actionId : ActionId) (posture : SecurityActionState)
    (shape : posture.targetCertificate = .active → posture.replacement = .notRequired)
    (state : SubjectSecurityState) : SubjectSecurityState :=
  if state.target = target then
    { target := state.target
      posture := posture
      stateVersion := state.stateVersion + 1
      lastActionId := some actionId
      replacementShape := shape }
  else state

theorem advanceState_target (target : Target) (actionId : ActionId)
    (posture : SecurityActionState)
    (shape : posture.targetCertificate = .active → posture.replacement = .notRequired)
    (state : SubjectSecurityState) :
    (advanceState target actionId posture shape state).target = state.target := by
  unfold advanceState
  split <;> rfl

/-- The attempt row must carry the token of the report, which no row does when it is `NULL`. -/
def completeAttempt (action : SecurityAction) (claimToken : Option ClaimToken)
    (outcome : AttemptOutcome) (reference : Option ExternalReference)
    (attempt : SecurityActionAttempt) : SecurityActionAttempt :=
  if attempt.actionKey = action.key ∧ attempt.attemptNumber = action.attemptCount ∧
      claimToken = some attempt.claimToken then
    { attempt with outcome := outcome, externalReference := reference }
  else attempt

theorem completeAttempt_key (action : SecurityAction) (claimToken : Option ClaimToken)
    (outcome : AttemptOutcome) (reference : Option ExternalReference)
    (attempt : SecurityActionAttempt) :
    (completeAttempt action claimToken outcome reference attempt).key = attempt.key := by
  unfold completeAttempt
  split <;> rfl

def succeedAction (report : SuccessReport) (action : SecurityAction) : SecurityAction :=
  if action.key = (report.tenantId, report.actionId) then
    { action with
      execution := .succeeded report.resultState report.succeededAt
      externalReference := report.externalReference }
  else action

theorem succeedAction_key (report : SuccessReport) (action : SecurityAction) :
    (succeedAction report action).key = action.key := by
  unfold succeedAction
  split <;> rfl

def invalidationJob (action : SecurityAction) (stateVersion : Nat) (succeededAt : Timestamp) :
    SecurityStateInvalidation where
  tenantId := action.target.tenantId
  actionId := action.actionId
  subjectId := action.target.subjectId
  certificateId := action.target.certificateId
  actionType := action.actionType
  correlationId := action.correlationId
  securityStateVersion := stateVersion
  actionSucceededAt := succeededAt

def queuesInvalidation (actionType : SecurityActionType) : Bool :=
  actionType = .suspendSubject || actionType = .revokeCertificate

/-- The row trigger on a success: it reads the posture row written by the same statement
sequence, and a job that exists already is left alone. -/
def queueSecurityStateInvalidation (action : SecurityAction) (succeededAt : Timestamp)
    (db : Database) : Except SqlError Database :=
  if queuesInvalidation action.actionType then do
    let state ← requireSome (db.states.get? action.target)
      (.raised "SECURITY_INVALIDATION_STATE_REQUIRED")
    require (state.lastActionId = some action.actionId)
      (.raised "SECURITY_INVALIDATION_STATE_REQUIRED")
    let job := invalidationJob action state.stateVersion succeededAt
    return { db with invalidations := (db.invalidations.insertNew job).getD db.invalidations }
  else return db

/-- The three updates of a confirmed success. -/
def recordSuccess (action : SecurityAction) (report : SuccessReport)
    (shape : report.resultState.targetCertificate = .active →
      report.resultState.replacement = .notRequired) (db : Database) : Database :=
  { db with
    states := db.states.update
      (advanceState action.target action.actionId report.resultState shape)
      (advanceState_target action.target action.actionId report.resultState shape)
    attempts := db.attempts.update
      (completeAttempt action report.claimToken (.succeeded report.succeededAt)
        report.externalReference)
      (completeAttempt_key action report.claimToken (.succeeded report.succeededAt)
        report.externalReference)
    actions := db.actions.update (succeedAction report) (succeedAction_key report) }

/-- `security_actions_external_result_unique` -/
def referenceIsFree (action : SecurityAction) (reference : Option ExternalReference)
    (db : Database) : Bool :=
  db.actions.rows.all fun other =>
    !(other.target.tenantId = action.target.tenantId && other.actionId ≠ action.actionId &&
      reference.isSome && other.externalReference = reference)

def markSecurityActionSucceeded (report : SuccessReport) (db : Database) :
    Except SqlError (Database × SecurityAction) := do
  let action ← requireSome (db.actions.get? (report.tenantId, report.actionId))
    (.raised "SECURITY_ACTION_CLAIM_CONFLICT")
  require (heldClaim action report.claimToken report.succeededAt)
    (.raised "SECURITY_ACTION_CLAIM_CONFLICT")
  let state ← requireSome (db.states.get? action.target)
    (.raised "SECURITY_ACTION_STATE_CONFLICT")
  require (state.stateVersion = action.expectedStateVersion)
    (.raised "SECURITY_ACTION_STATE_CONFLICT")
  require (report.resultState = expectedResultState action.actionType state.posture)
    (.raised "SECURITY_ACTION_RESULT_INVALID")
  requireRecoveryAuthority action report db
  requireInventoryState action state.posture db.inventory
  require (report.externalReference.all ExternalReference.wellFormed)
    (.checkViolation "security_actions_external_reference")
  require (referenceIsFree action report.externalReference db)
    (.uniqueViolation "security_actions_external_result_unique")
  if shape : report.resultState.targetCertificate = .active →
      report.resultState.replacement = .notRequired then
    let db ← queueSecurityStateInvalidation action report.succeededAt
      (recordSuccess action report shape db)
    return (db, succeedAction report action)
  else throw (.checkViolation "subject_security_states_replacement_shape")

structure FailureReport where
  tenantId : TenantId
  actionId : ActionId
  claimToken : Option ClaimToken
  failureCode : String
  failedAt : Timestamp
  retryDelaySeconds : Nat
  deriving DecidableEq, Repr

def failAction (report : FailureReport) (action : SecurityAction) : SecurityAction :=
  if action.key = (report.tenantId, report.actionId) then
    { action with
      execution := .failed
      lastFailureCode := some report.failureCode
      nextAttemptAt := ((report.failedAt + seconds report.retryDelaySeconds : Timestamp) :
        WithTop Timestamp) }
  else action

theorem failAction_key (report : FailureReport) (action : SecurityAction) :
    (failAction report action).key = action.key := by
  unfold failAction
  split <;> rfl

def recordFailure (action : SecurityAction) (report : FailureReport) (db : Database) :
    Database :=
  { db with
    attempts := db.attempts.update
      (fun attempt => completeAttempt action report.claimToken
        (.failed report.failedAt report.failureCode) attempt.externalReference attempt)
      (fun attempt => completeAttempt_key action report.claimToken
        (.failed report.failedAt report.failureCode) attempt.externalReference attempt)
    actions := db.actions.update (failAction report) (failAction_key report) }

def markSecurityActionFailed (report : FailureReport) (db : Database) :
    Except SqlError (Database × SecurityAction) := do
  require (isReasonCode report.failureCode ∧ 1 ≤ report.retryDelaySeconds ∧
      report.retryDelaySeconds ≤ 600)
    (.raised "SECURITY_ACTION_FAILURE_INVALID")
  let action ← requireSome (db.actions.get? (report.tenantId, report.actionId))
    (.raised "SECURITY_ACTION_CLAIM_CONFLICT")
  require (heldClaim action report.claimToken report.failedAt)
    (.raised "SECURITY_ACTION_CLAIM_CONFLICT")
  return (recordFailure action report db, failAction report action)

end TenantTrust.Orchestration
