import TenantTrust.Orchestration.Tables

/-! Requests for restrictive actions: policy quarantine and severity rules. -/

namespace TenantTrust.Orchestration

open Library Identity

structure EnqueueRequest where
  actionId : ActionId
  target : Target
  decisionId : DecisionId
  correlationId : CorrelationId
  actionType : SecurityActionType
  authorityClass : ActionAuthorityClass
  reasonCode : String
  triggerContextHashSha256 : Sha256Digest
  requestedAt : Timestamp
  deriving DecidableEq, Repr

/-- The window around the database clock in which callers may date their requests. -/
def withinRequestWindow (clock at_ : Timestamp) : Bool :=
  at_ ≤ clock + seconds 2 && clock - minutes 5 ≤ at_

/-- The row that the first action for a target creates: all column defaults, except that a
revoked certificate is recorded as revoked. -/
def initialSecurityState (target : Target) (certificate : Certificate) :
    SubjectSecurityState where
  target := target
  posture := {
    access := .normal
    renewal := .allowed
    targetCertificate := if certificate.state = .revoked then .revoked else .active
    replacement := .notRequired }
  stateVersion := 1
  lastActionId := none
  replacementShape := fun _ => rfl

/-- `INSERT ... SELECT ... ON CONFLICT DO NOTHING` on `subject_security_states`. -/
def initializeSecurityState (target : Target) (db : Database) :
    Table SubjectSecurityState SubjectSecurityState.target :=
  match db.inventory.certificate? target.tenantId target.certificateId with
  | some certificate =>
      if certificate.subjectId = target.subjectId then
        (db.states.insertNew (initialSecurityState target certificate)).getD db.states
      else db.states
  | none => db.states

def SecurityAction.sameDecision (p : EnqueueRequest) (existing : SecurityAction) : Bool :=
  existing.target.tenantId = p.target.tenantId && existing.decisionId = p.decisionId &&
  existing.actionType = p.actionType && existing.authorityClass = p.authorityClass

def SecurityAction.repeats (p : EnqueueRequest) (existing : SecurityAction) : Bool :=
  existing.actionId = p.actionId && existing.correlationId = p.correlationId &&
  existing.target.subjectId = p.target.subjectId &&
  existing.target.certificateId = p.target.certificateId &&
  existing.reasonCode = p.reasonCode &&
  existing.triggerContextHashSha256 = p.triggerContextHashSha256

def EnqueueRequest.action (p : EnqueueRequest) (stateVersion : Nat)
    (authorized : p.actionType.authority = p.authorityClass) : SecurityAction where
  actionId := p.actionId
  target := p.target
  decisionId := p.decisionId
  correlationId := p.correlationId
  actionType := p.actionType
  authorityClass := p.authorityClass
  authorized := authorized
  reasonCode := p.reasonCode
  triggerContextHashSha256 := p.triggerContextHashSha256
  execution := .pending
  attemptCount := 0
  expectedStateVersion := stateVersion
  nextAttemptAt := p.requestedAt
  lastFailureCode := none
  externalReference := none
  requestedAt := p.requestedAt

def insertAction (p : EnqueueRequest) (stateVersion : Nat) (db : Database) :
    Except SqlError (Database × SecurityAction) :=
  if authorized : p.actionType.authority = p.authorityClass then do
    let action := p.action stateVersion authorized
    let actions ← requireSome (db.actions.insertNew action) (.uniqueViolation "security_actions_pk")
    return ({ db with actions := actions }, action)
  else .error (.checkViolation "security_actions_authority")

def enqueueSecurityActionInternal (clock : Timestamp) (p : EnqueueRequest) (db : Database) :
    Except SqlError (Database × SecurityAction) := do
  require (isReasonCode p.reasonCode ∧ withinRequestWindow clock p.requestedAt)
    (.raised "SECURITY_ACTION_REQUEST_INVALID")
  let states := initializeSecurityState p.target db
  let state ← requireSome (states.get? p.target) (.raised "SECURITY_ACTION_TARGET_INVALID")
  match db.actions.rows.find? (SecurityAction.sameDecision p) with
  | some existing =>
      require (existing.repeats p) (.raised "SECURITY_ACTION_IDEMPOTENCY_CONFLICT")
      return ({ db with states := states }, existing)
  | none => insertAction p state.stateVersion { db with states := states }

/-- `audit.quarantine_action_type` -/
inductive QuarantineActionType where
  | restrictAccess | suspendSubject
  deriving DecidableEq, Repr

def QuarantineActionType.actionType : QuarantineActionType → SecurityActionType
  | restrictAccess => .restrictAccess
  | suspendSubject => .suspendSubject

def policyActions : List String :=
  ["profile:read", "record:read", "record:write", "record:export",
    "tenant:admin", "member:manage", "certificate:manage", "admin-key:rotate"]

structure QuarantineRequest where
  actionId : ActionId
  decisionId : DecisionId
  requestId : RequestId
  correlationId : CorrelationId
  targetCertificateId : CertificateId
  policyAction : String
  actionType : QuarantineActionType
  reasonCode : String
  resourceIdHashSha256 : Sha256Digest
  trustTransitionId : TransitionId
  policyVersionId : Nat
  policyInputHashSha256 : Sha256Digest
  requestedAt : Timestamp
  deriving DecidableEq, Repr

def QuarantineRequest.row (p : QuarantineRequest) (session : Session) : SecurityActionRequest where
  tenantId := session.tenantId
  actionId := p.actionId
  decisionId := p.decisionId
  requestId := p.requestId
  correlationId := p.correlationId
  actorSubjectId := session.subjectId
  targetSubjectId := session.subjectId
  targetCertificateId := p.targetCertificateId
  policyAction := p.policyAction
  actionType := p.actionType.actionType
  reasonCode := p.reasonCode
  resourceIdHashSha256 := p.resourceIdHashSha256
  trustTransitionId := p.trustTransitionId
  policyVersionId := p.policyVersionId
  policyInputHashSha256 := p.policyInputHashSha256
  requestedAt := p.requestedAt

def QuarantineRequest.repeats (p : QuarantineRequest) (session : Session)
    (existing : SecurityActionRequest) : Bool :=
  existing.requestId = p.requestId && existing.correlationId = p.correlationId &&
  existing.actorSubjectId = session.subjectId && existing.targetSubjectId = session.subjectId &&
  existing.targetCertificateId = p.targetCertificateId &&
  existing.policyAction = p.policyAction && existing.reasonCode = p.reasonCode &&
  existing.resourceIdHashSha256 = p.resourceIdHashSha256 &&
  existing.trustTransitionId = p.trustTransitionId &&
  existing.policyVersionId = p.policyVersionId &&
  existing.policyInputHashSha256 = p.policyInputHashSha256

/-- The request whose insertion the trigger turns into a queued action. -/
def QuarantineRequest.enqueue (p : QuarantineRequest) (session : Session) : EnqueueRequest where
  actionId := p.actionId
  target := ⟨session.tenantId, session.subjectId, p.targetCertificateId⟩
  decisionId := p.decisionId
  correlationId := p.correlationId
  actionType := p.actionType.actionType
  authorityClass := .policyQuarantine
  reasonCode := p.reasonCode
  triggerContextHashSha256 := p.policyInputHashSha256
  requestedAt := p.requestedAt

def ownsActiveCertificate (session : Session) (certificateId : CertificateId)
    (inventory : Inventory) : Bool :=
  match inventory.certificate? session.tenantId certificateId with
  | some certificate => certificate.subjectId = session.subjectId && certificate.state = .active
  | none => false

def requestQuarantineAction (session : Session) (p : QuarantineRequest) (db : Database) :
    Except SqlError (Database × SecurityActionRequest) := do
  require (session.actorIsActive ∧ p.policyAction ∈ policyActions ∧ isReasonCode p.reasonCode ∧
      withinRequestWindow session.clock p.requestedAt ∧
      ownsActiveCertificate session p.targetCertificateId db.inventory)
    (.raised "Quarantine action request denied.")
  match db.requests.rows.find? fun request => request.tenantId = session.tenantId &&
      request.decisionId = p.decisionId && request.actionType = p.actionType.actionType with
  | some existing =>
      require (p.repeats session existing) (.raised "QUARANTINE_ACTION_IDEMPOTENCY_CONFLICT")
      return (db, existing)
  | none =>
      require ((db.transitions.get? (session.tenantId, p.trustTransitionId)).isSome)
        (.foreignKeyViolation "security_action_requests_transition_fk")
      require (∀ old ∈ db.requests.rows, ¬ (old.tenantId = session.tenantId ∧
          old.requestId = p.requestId ∧ old.actionType = p.actionType.actionType))
        (.uniqueViolation "security_action_requests_request_unique")
      let requests ← requireSome (db.requests.insertNew (p.row session))
        (.uniqueViolation "security_action_requests_pk")
      let (db, _) ← enqueueSecurityActionInternal session.clock (p.enqueue session)
        { db with requests := requests }
      return (db, p.row session)

structure SeverityRequest where
  tenantId : TenantId
  actionId : ActionId
  decisionId : DecisionId
  targetSubjectId : SubjectId
  targetCertificateId : CertificateId
  actionType : SecurityActionType
  reasonCode : String
  triggerContextHashSha256 : Sha256Digest
  requestedAt : Timestamp
  deriving DecidableEq, Repr

def SeverityRequest.enqueue (p : SeverityRequest) (correlationId : CorrelationId) :
    EnqueueRequest where
  actionId := p.actionId
  target := ⟨p.tenantId, p.targetSubjectId, p.targetCertificateId⟩
  decisionId := p.decisionId
  correlationId := correlationId
  actionType := p.actionType
  authorityClass := .severityRule
  reasonCode := p.reasonCode
  triggerContextHashSha256 := p.triggerContextHashSha256
  requestedAt := p.requestedAt

def enqueueSeveritySecurityAction (clock : Timestamp) (p : SeverityRequest) (db : Database) :
    Except SqlError (Database × SecurityAction) := do
  require (p.actionType = .blockRenewal ∨ p.actionType = .revokeCertificate)
    (.raised "SECURITY_ACTION_REQUEST_INVALID")
  let provenance ← requireSome (db.provenance.get? (p.tenantId, p.decisionId))
    (.raised "SECURITY_ACTION_PROVENANCE_REQUIRED")
  require (provenance.actorSubjectId = p.targetSubjectId ∧
      provenance.certificateId = p.targetCertificateId ∧
      provenance.outcome = .quarantine ∧ provenance.trustTransitionId.isSome)
    (.raised "SECURITY_ACTION_PROVENANCE_REQUIRED")
  enqueueSecurityActionInternal clock (p.enqueue provenance.correlationId) db

end TenantTrust.Orchestration
