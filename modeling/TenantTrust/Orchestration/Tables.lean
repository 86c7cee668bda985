import TenantTrust.Audit.StepUp
import TenantTrust.Identity.Certificates
import TenantTrust.Library.Json
import TenantTrust.Orchestration.SecurityActionState
import TenantTrust.Trust.Vocabulary
import Mathlib.Order.WithBot

/-! The tables that the security-action procedures read and write. -/

namespace TenantTrust.Orchestration

open Library Identity Audit

abbrev ActionId := Identifier .action
abbrev DecisionId := Identifier .decision
abbrev ClaimToken := Identifier .claimToken
abbrev RecoveryAuthorizationId := Identifier .recoveryAuthorization
abbrev TransitionId := Identifier .transition

/-! Times are compared as integers, and `infinity` above all of them, by these instances. -/

instance : Preorder Timestamp := Int.instLinearOrder.toPreorder

instance : Preorder (WithTop Timestamp) := WithTop.instPreorder

/-- The key of `subject_security_states`. -/
structure Target where
  tenantId : TenantId
  subjectId : SubjectId
  certificateId : CertificateId
  deriving DecidableEq, Repr

/-- A posture row; the last field is its replacement-shape constraint. -/
structure SubjectSecurityState where
  target : Target
  posture : SecurityActionState
  stateVersion : Nat
  lastActionId : Option ActionId
  replacementShape : posture.targetCertificate = .active → posture.replacement = .notRequired
  deriving DecidableEq

/-- The columns that are set exactly while an action is executing. -/
structure Claim where
  claimedBy : String
  claimToken : ClaimToken
  claimedAt : Timestamp
  leaseExpiresAt : Timestamp
  deriving DecidableEq, Repr

/-- Status and its columns together, as the two shape constraints require them. -/
inductive ActionExecution where
  | pending
  | executing (claim : Claim)
  | succeeded (resultState : SecurityActionState) (succeededAt : Timestamp)
  | failed
  deriving DecidableEq, Repr

inductive ActionExecutionStatus where
  | pending | executing | succeeded | failed
  deriving DecidableEq, Repr

def ActionExecution.status : ActionExecution → ActionExecutionStatus
  | pending => .pending
  | executing _ => .executing
  | succeeded _ _ => .succeeded
  | failed => .failed

def ActionExecution.claim? : ActionExecution → Option Claim
  | executing claim => some claim
  | _ => none

/-- `WHERE status IN ('pending', 'failed')` -/
def ActionExecution.isClaimable : ActionExecution → Bool
  | pending | failed => true
  | executing _ | succeeded _ _ => false

inductive ExternalReference where
  | certificate (certificateId : CertificateId)
  | lifecycleEvent (eventId : EventId)
  | other (text : String)
  deriving DecidableEq, Repr

def ExternalReference.wellFormed : ExternalReference → Bool
  | certificate _ | lifecycleEvent _ => true
  | other text => isExternalReference text

/-- An action row; `authorized` is the constraint between its class and its type. -/
structure SecurityAction where
  actionId : ActionId
  target : Target
  decisionId : DecisionId
  correlationId : CorrelationId
  actionType : SecurityActionType
  authorityClass : ActionAuthorityClass
  authorized : actionType.authority = authorityClass
  reasonCode : String
  triggerContextHashSha256 : Sha256Digest
  execution : ActionExecution
  attemptCount : Nat
  expectedStateVersion : Nat
  nextAttemptAt : WithTop Timestamp
  lastFailureCode : Option String
  externalReference : Option ExternalReference
  requestedAt : Timestamp
  deriving DecidableEq

abbrev ActionKey := TenantId × ActionId

def SecurityAction.key (action : SecurityAction) : ActionKey :=
  (action.target.tenantId, action.actionId)

inductive AttemptOutcome where
  | executing
  | succeeded (completedAt : Timestamp)
  | failed (completedAt : Timestamp) (failureCode : String)
  deriving DecidableEq, Repr

structure SecurityActionAttempt where
  tenantId : TenantId
  actionId : ActionId
  attemptNumber : Nat
  claimToken : ClaimToken
  workerId : String
  outcome : AttemptOutcome
  startedAt : Timestamp
  externalReference : Option ExternalReference
  deriving DecidableEq, Repr

def SecurityActionAttempt.actionKey (attempt : SecurityActionAttempt) : ActionKey :=
  (attempt.tenantId, attempt.actionId)

def SecurityActionAttempt.key (attempt : SecurityActionAttempt) : ActionKey × Nat :=
  (attempt.actionKey, attempt.attemptNumber)

structure RecoveryAuthorization where
  target : Target
  authorizationId : RecoveryAuthorizationId
  actionId : ActionId
  decisionId : DecisionId
  requestId : RequestId
  correlationId : CorrelationId
  idempotencyKey : IdempotencyKey
  authorizedBySubjectId : SubjectId
  actionType : SecurityActionType
  trustTransitionId : TransitionId
  expectedStateVersion : Nat
  reasonCode : String
  eligibilityHashSha256 : Sha256Digest
  stepUpProofIdHashSha256 : Sha256Digest
  causeResolutionReference : Option String
  authorizedAt : Timestamp
  deriving DecidableEq, Repr

/-- The lifetime constraint fixes the expiry at 300 seconds after the authorization. -/
def RecoveryAuthorization.expiresAt (authorization : RecoveryAuthorization) : Timestamp :=
  authorization.authorizedAt + seconds 300

/-- Unique by `security_recovery_authorizations_action_unique`. -/
def RecoveryAuthorization.key (authorization : RecoveryAuthorization) : ActionKey :=
  (authorization.target.tenantId, authorization.actionId)

structure SecurityStateInvalidation where
  tenantId : TenantId
  actionId : ActionId
  subjectId : SubjectId
  certificateId : CertificateId
  actionType : SecurityActionType
  correlationId : CorrelationId
  securityStateVersion : Nat
  actionSucceededAt : Timestamp
  deriving DecidableEq, Repr

def SecurityStateInvalidation.key (job : SecurityStateInvalidation) : ActionKey :=
  (job.tenantId, job.actionId)

/-- The columns of a trust transition that recovery reads. -/
structure TrustTransition where
  tenantId : TenantId
  subjectId : SubjectId
  transitionId : TransitionId
  newScore : ℚ
  newBand : Trust.TrustBand
  newRecoveryStreak : Nat
  transitionKind : Trust.TransitionKind
  evaluatedAt : Timestamp
  explanation : Json

def TrustTransition.key (transition : TrustTransition) : TenantId × TransitionId :=
  (transition.tenantId, transition.transitionId)

structure CurrentTransition where
  tenantId : TenantId
  subjectId : SubjectId
  transitionId : TransitionId
  deriving DecidableEq, Repr

def CurrentTransition.key (current : CurrentTransition) : TenantId × SubjectId :=
  (current.tenantId, current.subjectId)

inductive PolicyOutcome where
  | allow | stepUp | deny | quarantine
  deriving DecidableEq, Repr

/-- The columns of a policy decision that authorize a severity action. -/
structure PolicyDecisionProvenance where
  tenantId : TenantId
  decisionId : DecisionId
  correlationId : CorrelationId
  actorSubjectId : SubjectId
  certificateId : CertificateId
  outcome : PolicyOutcome
  trustTransitionId : Option TransitionId
  deriving DecidableEq, Repr

def PolicyDecisionProvenance.key (provenance : PolicyDecisionProvenance) :
    TenantId × DecisionId :=
  (provenance.tenantId, provenance.decisionId)

structure SecurityActionRequest where
  tenantId : TenantId
  actionId : ActionId
  decisionId : DecisionId
  requestId : RequestId
  correlationId : CorrelationId
  actorSubjectId : SubjectId
  targetSubjectId : SubjectId
  targetCertificateId : CertificateId
  policyAction : String
  actionType : SecurityActionType
  reasonCode : String
  resourceIdHashSha256 : Sha256Digest
  trustTransitionId : TransitionId
  policyVersionId : Nat
  policyInputHashSha256 : Sha256Digest
  requestedAt : Timestamp
  deriving DecidableEq, Repr

def SecurityActionRequest.key (request : SecurityActionRequest) : ActionKey :=
  (request.tenantId, request.actionId)

structure Database where
  inventory : Inventory
  transitions : Table TrustTransition TrustTransition.key
  currentTransitions : Table CurrentTransition CurrentTransition.key
  provenance : Table PolicyDecisionProvenance PolicyDecisionProvenance.key
  stepUpProofs : Table StepUpProof StepUpProof.key
  requests : Table SecurityActionRequest SecurityActionRequest.key
  states : Table SubjectSecurityState SubjectSecurityState.target
  actions : Table SecurityAction SecurityAction.key
  attempts : Table SecurityActionAttempt SecurityActionAttempt.key
  authorizations : Table RecoveryAuthorization RecoveryAuthorization.key
  invalidations : Table SecurityStateInvalidation SecurityStateInvalidation.key

def Database.empty : Database where
  inventory := Inventory.empty
  transitions := Table.empty
  currentTransitions := Table.empty
  provenance := Table.empty
  stepUpProofs := Table.empty
  requests := Table.empty
  states := Table.empty
  actions := Table.empty
  attempts := Table.empty
  authorizations := Table.empty
  invalidations := Table.empty

end TenantTrust.Orchestration
