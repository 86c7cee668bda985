import TenantTrust.Orchestration.RecoveryEligibility

/-! The recovery service: a context is loaded and evaluated, then the database authorizes what
the evaluation derived. Other transactions may run in between. -/

namespace TenantTrust.Orchestration

open Library Identity Trust Audit

inductive TenantRole where
  | tenantAdmin | tenantMember
  deriving DecidableEq, Repr

/-- A resolved tenant context. -/
structure TenantContext where
  tenantId : TenantId
  subjectId : SubjectId
  roles : List TenantRole
  deriving DecidableEq, Repr

structure GovernedRecoveryRequest where
  requestId : RequestId
  idempotencyKey : IdempotencyKey
  targetSubjectId : SubjectId
  targetCertificateId : CertificateId
  stepUpProofIdHashSha256 : Sha256Digest
  sessionIdHashSha256 : Sha256Digest
  causeResolutionReference : Option String
  deriving DecidableEq, Repr

/-- One call of `authorize` with everything it obtains on the way: the sessions of its two
queries, the answer of the evidence loader, the clock and the generated identifiers. -/
structure RecoveryCall where
  context : TenantContext
  request : GovernedRecoveryRequest
  evaluatedAt : Timestamp
  loading : Session
  activeSevereEvidence : List SevereEvidence
  authorizing : Session
  authorizationId : RecoveryAuthorizationId
  actionId : ActionId
  decisionId : DecisionId
  correlationId : CorrelationId

def RecoveryCall.target (call : RecoveryCall) : Target :=
  ⟨call.context.tenantId, call.request.targetSubjectId, call.request.targetCertificateId⟩

inductive RecoveryFailure where
  | denied (reasonCode : String)
  | evaluation (reasonCode : String)
  | database (failure : SqlError)
  deriving DecidableEq, Repr

/-- The document under the eligibility hash, in the order of its keys; its version and the
statement that no certificate is reactivated are constants. -/
structure EligibilityDocument where
  target : Target
  trustTransitionId : TransitionId
  stateVersion : Nat
  currentState : SecurityActionState
  checkpoint : RecoveryCheckpoint
  activeSevereEvidenceIds : List (Passed EvidenceId)
  actionType : SecurityActionType
  reasonCode : String
  causeResolutionReference : Option String
  deriving DecidableEq

def RecoveryContext.checkpoint (loaded : RecoveryContext) : RecoveryCheckpoint where
  score := Binary64.ofRat loaded.score
  band := loaded.band
  transition := loaded.transition
  consecutiveQualifyingEvaluations := loaded.consecutiveQualifyingEvaluations
  sourceIds := loaded.sourceIds

def loadRecoveryContext (call : RecoveryCall) (db : Database) :
    Except RecoveryFailure RecoveryContext :=
  match getSecurityRecoveryContext call.loading call.request.targetSubjectId
      call.request.targetCertificateId db with
  | .error failure => .error (.database failure)
  | .ok loaded => requireSome loaded (.denied "RECOVERY_CONTEXT_UNAVAILABLE")

def evaluateRecovery (call : RecoveryCall) (loaded : RecoveryContext) :
    Except RecoveryFailure RecoveryEvaluation :=
  match evaluateSecurityActionRecovery call.target loaded.posture loaded.checkpoint
      call.activeSevereEvidence call.evaluatedAt
      call.request.causeResolutionReference.isSome with
  | .error reasonCode => .error (.evaluation reasonCode)
  | .ok evaluation => .ok evaluation

def eligibilityDocument (call : RecoveryCall) (loaded : RecoveryContext)
    (evaluation : RecoveryEvaluation) (actionType : SecurityActionType) :
    EligibilityDocument where
  target := call.target
  trustTransitionId := loaded.trustTransitionId
  stateVersion := loaded.stateVersion
  currentState := loaded.posture
  checkpoint := evaluation.checkpoint
  activeSevereEvidenceIds :=
    sortPassed (call.activeSevereEvidence.map SevereEvidence.evidenceId)
  actionType := actionType
  reasonCode := evaluation.reasonCode
  causeResolutionReference := call.request.causeResolutionReference

/-- The parameters of `authorize_security_recovery` that the service derives. -/
def authorizationRequest (eligibilityHash : EligibilityDocument → Sha256Digest)
    (call : RecoveryCall) (loaded : RecoveryContext) (evaluation : RecoveryEvaluation)
    (actionType : SecurityActionType) : RecoveryRequest where
  authorizationId := call.authorizationId
  actionId := call.actionId
  decisionId := call.decisionId
  requestId := call.request.requestId
  correlationId := call.correlationId
  idempotencyKey := call.request.idempotencyKey
  targetSubjectId := call.request.targetSubjectId
  targetCertificateId := call.request.targetCertificateId
  actionType := actionType
  trustTransitionId := loaded.trustTransitionId
  expectedStateVersion := loaded.stateVersion
  reasonCode := evaluation.reasonCode
  eligibilityHashSha256 :=
    eligibilityHash (eligibilityDocument call loaded evaluation actionType)
  stepUpProofIdHashSha256 := call.request.stepUpProofIdHashSha256
  sessionIdHashSha256 := call.request.sessionIdHashSha256
  causeResolutionReference := call.request.causeResolutionReference
  authorizedAt := call.evaluatedAt

/-- The part of a call that reads: its result is what the database is asked to authorize. -/
def prepareRecovery (eligibilityHash : EligibilityDocument → Sha256Digest) (call : RecoveryCall)
    (db : Database) : Except RecoveryFailure RecoveryRequest := do
  require (.tenantAdmin ∈ call.context.roles) (.denied "RECOVERY_TENANT_ADMIN_REQUIRED")
  require (call.request.causeResolutionReference.all isExternalReference)
    (.denied "RECOVERY_REQUEST_INVALID")
  let loaded ← loadRecoveryContext call db
  require (loaded.target = call.target ∧ 1 ≤ loaded.stateVersion ∧
      loaded.stateVersion ≤ 9007199254740991)
    (.denied "RECOVERY_CONTEXT_INVALID")
  let evaluation ← evaluateRecovery call loaded
  let actionType ← requireSome evaluation.nextActionType (.denied evaluation.reasonCode)
  require (loaded.posture.targetCertificate = .revoked →
      call.request.causeResolutionReference.isSome)
    (.denied "SEVERE_CAUSE_UNRESOLVED")
  return authorizationRequest eligibilityHash call loaded evaluation actionType

structure AuthorizedRecovery where
  tenantId : TenantId
  authorizationId : RecoveryAuthorizationId
  actionId : ActionId
  actionType : SecurityActionType
  status : ActionExecutionStatus
  authorizedAt : Timestamp
  expiresAt : Timestamp
  reasonCode : String
  deriving DecidableEq, Repr

/-- `createGovernedRecoveryService.authorize`: the context is that of the first database, the
authorization is asked of the second one. -/
def authorizeGovernedRecovery (eligibilityHash : EligibilityDocument → Sha256Digest)
    (call : RecoveryCall) (loaded current : Database) :
    Except RecoveryFailure (Database × AuthorizedRecovery) := do
  let p ← prepareRecovery eligibilityHash call loaded
  match authorizeSecurityRecovery call.authorizing p current with
  | .error failure => .error (.database failure)
  | .ok (db, authorization) => do
      let action ← requireSome (db.actions.get? authorization.key)
        (.denied "RECOVERY_AUTHORIZATION_CONFIRMATION_INVALID")
      require (authorization.target.tenantId = call.context.tenantId ∧
          authorization.actionType = p.actionType)
        (.denied "RECOVERY_AUTHORIZATION_CONFIRMATION_INVALID")
      return (db, {
        tenantId := authorization.target.tenantId
        authorizationId := authorization.authorizationId
        actionId := authorization.actionId
        actionType := authorization.actionType
        status := action.execution.status
        authorizedAt := authorization.authorizedAt
        expiresAt := authorization.expiresAt
        reasonCode := p.reasonCode })

end TenantTrust.Orchestration
