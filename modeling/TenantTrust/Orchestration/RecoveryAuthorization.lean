import TenantTrust.Orchestration.Enqueue
import Mathlib.Data.List.Sort

/-! The recovery context and the authorization of recovery actions by a tenant administrator. -/

namespace TenantTrust.Orchestration

open Library Identity Trust Audit

/-- `COALESCE((document #>> path)::integer, 0)` -/
def coalesceInteger (document : Json) (names : List String) : Except SqlError Int :=
  match document.path names with
  | none => .ok 0
  | some found =>
      match found.asInteger with
      | .ok value => .ok (value.getD 0)
      | .error _ => .error .invalidText

/-- `COALESCE((document #>> path)::boolean, false)` -/
def coalesceBoolean (document : Json) (names : List String) : Except SqlError Bool :=
  match document.path names with
  | none => .ok false
  | some found =>
      match found.asBoolean with
      | .ok value => .ok (value.getD false)
      | .error _ => .error .invalidText

/-- The texts below a path, sorted; a missing path reads as an empty array. -/
def coalesceTexts (document : Json) (names : List String) : Except SqlError (List String) :=
  match document.path names with
  | none => .ok []
  | some found =>
      match found.textElements with
      | .ok texts => .ok (texts.insertionSort (· ≤ ·))
      | .error _ => .error .invalidText

def currentTransition? (db : Database) (tenantId : TenantId) (subjectId : SubjectId) :
    Option TrustTransition :=
  (db.currentTransitions.get? (tenantId, subjectId)).bind fun current =>
    db.transitions.get? (current.tenantId, current.transitionId)

structure RecoveryContext where
  target : Target
  stateVersion : Nat
  posture : SecurityActionState
  trustTransitionId : TransitionId
  score : ℚ
  band : TrustBand
  transition : TransitionKind
  consecutiveQualifyingEvaluations : Int
  sourceIds : List String

/-- `get_security_recovery_context`; the absent row is `none`. -/
def getSecurityRecoveryContext (session : Session) (targetSubjectId : SubjectId)
    (targetCertificateId : CertificateId) (db : Database) :
    Except SqlError (Option RecoveryContext) := do
  require session.actorIsTenantAdmin (.raised "RECOVERY_TENANT_ADMIN_REQUIRED")
  let target : Target := ⟨session.tenantId, targetSubjectId, targetCertificateId⟩
  match db.states.get? target, currentTransition? db session.tenantId targetSubjectId with
  | some state, some transition =>
      let streak ← if transition.transitionKind = .recovered then
          coalesceInteger transition.explanation
            ["transitionControl", "recovery", "requiredQualifyingStreak"]
        else pure (transition.newRecoveryStreak : Int)
      let sourceIds ← coalesceTexts transition.explanation
        ["transitionControl", "sourceInfluence", "distinctSourceIds"]
      return some {
        target := target
        stateVersion := state.stateVersion
        posture := state.posture
        trustTransitionId := transition.transitionId
        score := transition.newScore
        band := transition.newBand
        transition := transition.transitionKind
        consecutiveQualifyingEvaluations := streak
        sourceIds := sourceIds }
  | _, _ => return none

structure RecoveryRequest where
  authorizationId : RecoveryAuthorizationId
  actionId : ActionId
  decisionId : DecisionId
  requestId : RequestId
  correlationId : CorrelationId
  idempotencyKey : IdempotencyKey
  targetSubjectId : SubjectId
  targetCertificateId : CertificateId
  actionType : SecurityActionType
  trustTransitionId : TransitionId
  expectedStateVersion : Nat
  reasonCode : String
  eligibilityHashSha256 : Sha256Digest
  stepUpProofIdHashSha256 : Sha256Digest
  sessionIdHashSha256 : Sha256Digest
  causeResolutionReference : Option String
  authorizedAt : Timestamp
  deriving DecidableEq, Repr

def RecoveryRequest.target (p : RecoveryRequest) (session : Session) : Target :=
  ⟨session.tenantId, p.targetSubjectId, p.targetCertificateId⟩

def RecoveryRequest.repeats (p : RecoveryRequest) (existing : RecoveryAuthorization) : Bool :=
  existing.requestId = p.requestId && existing.target.subjectId = p.targetSubjectId &&
  existing.target.certificateId = p.targetCertificateId && existing.actionType = p.actionType &&
  existing.trustTransitionId = p.trustTransitionId &&
  existing.expectedStateVersion = p.expectedStateVersion &&
  existing.reasonCode = p.reasonCode &&
  existing.eligibilityHashSha256 = p.eligibilityHashSha256 &&
  existing.causeResolutionReference = p.causeResolutionReference

def RecoveryRequest.enqueue (p : RecoveryRequest) (session : Session) : EnqueueRequest where
  actionId := p.actionId
  target := p.target session
  decisionId := p.decisionId
  correlationId := p.correlationId
  actionType := p.actionType
  authorityClass := .recoveryAuthorization
  reasonCode := p.reasonCode
  triggerContextHashSha256 := p.eligibilityHashSha256
  requestedAt := p.authorizedAt

def RecoveryRequest.authorization (p : RecoveryRequest) (session : Session)
    (actionId : ActionId) : RecoveryAuthorization where
  target := p.target session
  authorizationId := p.authorizationId
  actionId := actionId
  decisionId := p.decisionId
  requestId := p.requestId
  correlationId := p.correlationId
  idempotencyKey := p.idempotencyKey
  authorizedBySubjectId := session.subjectId
  actionType := p.actionType
  trustTransitionId := p.trustTransitionId
  expectedStateVersion := p.expectedStateVersion
  reasonCode := p.reasonCode
  eligibilityHashSha256 := p.eligibilityHashSha256
  stepUpProofIdHashSha256 := p.stepUpProofIdHashSha256
  causeResolutionReference := p.causeResolutionReference
  authorizedAt := p.authorizedAt

/-- The checks on the current transition that do not depend on the posture. -/
def requireRecoveredTransition (transition : TrustTransition) (authorizedAt : Timestamp) :
    Except SqlError Unit := do
  require (transition.transitionKind = .recovered ∧ transition.evaluatedAt ≤ authorizedAt ∧
      authorizedAt ≤ transition.evaluatedAt + minutes 5)
    (.raised "TRUST_RECOVERY_INCOMPLETE")
  let distinctSources ← coalesceInteger transition.explanation
    ["transitionControl", "recovery", "distinctSourceCount"]
  let requiredStreak ← coalesceInteger transition.explanation
    ["transitionControl", "recovery", "requiredQualifyingStreak"]
  let eligible ← coalesceBoolean transition.explanation
    ["transitionControl", "recovery", "eligible"]
  require (2 ≤ distinctSources ∧ 2 ≤ requiredStreak ∧ eligible)
    (.raised "TRUST_RECOVERY_INCOMPLETE")

/-- `v_minimum_band` is `high` exactly for these postures. -/
def requiresHighTrust (posture : SecurityActionState) : Bool :=
  posture.targetCertificate = .revoked || posture.access = .suspended ||
  posture.renewal = .blocked

def requireTrustLevel (posture : SecurityActionState) (transition : TrustTransition) :
    Except SqlError Unit :=
  if requiresHighTrust posture then
    require (75 ≤ transition.newScore ∧ transition.newBand = .high)
      (.raised "TRUST_RECOVERY_INCOMPLETE")
  else
    require (45 ≤ transition.newScore ∧
        (transition.newBand = .medium ∨ transition.newBand = .high))
      (.raised "TRUST_RECOVERY_INCOMPLETE")

def requireRecoveryConditions (posture : SecurityActionState) (p : RecoveryRequest) :
    Except SqlError Unit :=
  if p.actionType = .issueReplacementCertificate then
    require (posture.targetCertificate = .revoked ∧ posture.replacement = .required ∧
        p.reasonCode = "REPLACEMENT_ELIGIBLE" ∧ p.causeResolutionReference.isSome)
      (.raised "RECOVERY_CONDITIONS_NOT_MET")
  else if posture.access = .normal ∧ posture.renewal = .allowed then
    .error (.raised "NO_RECOVERY_NEEDED")
  else
    require (¬ (posture.targetCertificate = .revoked ∧
        (posture.replacement ≠ .issued ∨ p.causeResolutionReference = none)))
      (.raised "REPLACEMENT_REQUIRED_BEFORE_RECOVERY")

def inventoryRevoked (inventory : Inventory) (tenantId : TenantId)
    (certificateId : CertificateId) : Bool :=
  match inventory.certificate? tenantId certificateId with
  | some certificate => certificate.state = .revoked
  | none => false

def ownsRevokedCertificate (inventory : Inventory) (target : Target) : Bool :=
  match inventory.certificate? target.tenantId target.certificateId with
  | some certificate => certificate.subjectId = target.subjectId && certificate.state = .revoked
  | none => false

def RecoveryRequest.presentation (p : RecoveryRequest) : ProofPresentation where
  proofIdHashSha256 := p.stepUpProofIdHashSha256
  sessionIdHashSha256 := p.sessionIdHashSha256
  action := "tenant:admin"
  requestId := p.requestId
  consumedAt := p.authorizedAt

/-- The row trigger that keeps one authorization per target, transition, version and type. -/
def duplicatesAuthorization (new existing : RecoveryAuthorization) : Bool :=
  existing.target = new.target && existing.trustTransitionId = new.trustTransitionId &&
  existing.expectedStateVersion = new.expectedStateVersion &&
  existing.actionType = new.actionType

def insertAuthorization (row : RecoveryAuthorization) (db : Database) :
    Except SqlError Database := do
  require (∀ existing ∈ db.authorizations.rows, duplicatesAuthorization row existing = false)
    (.raised "RECOVERY_ALREADY_AUTHORIZED")
  require (row.causeResolutionReference.all isExternalReference)
    (.checkViolation "security_recovery_authorizations_resolution")
  require (∀ existing ∈ db.authorizations.rows,
      ¬ (existing.target.tenantId = row.target.tenantId ∧
        (existing.authorizationId = row.authorizationId ∨
          (existing.authorizedBySubjectId = row.authorizedBySubjectId ∧
            existing.idempotencyKey = row.idempotencyKey))))
    (.uniqueViolation "security_recovery_authorizations")
  let authorizations ← requireSome (db.authorizations.insertNew row)
    (.uniqueViolation "security_recovery_authorizations_action_unique")
  return { db with authorizations := authorizations }

def authorizeNewRecovery (session : Session) (p : RecoveryRequest) (db : Database) :
    Except SqlError (Database × RecoveryAuthorization) := do
  require (session.actorIsTenantAdmin ∧ p.actionType.authority = .recoveryAuthorization ∧
      p.reasonCode ∈ ["ACCESS_RECOVERY_ELIGIBLE", "REPLACEMENT_ELIGIBLE"] ∧
      withinRequestWindow session.clock p.authorizedAt)
    (.raised "RECOVERY_AUTHORIZATION_DENIED")
  let state ← requireSome (db.states.get? (p.target session)) (.raised "RECOVERY_STATE_CHANGED")
  require (state.stateVersion = p.expectedStateVersion) (.raised "RECOVERY_STATE_CHANGED")
  let transition ← requireSome (currentTransition? db session.tenantId p.targetSubjectId)
    (.raised "TRUST_RECOVERY_INCOMPLETE")
  require (transition.transitionId = p.trustTransitionId) (.raised "TRUST_RECOVERY_INCOMPLETE")
  requireRecoveredTransition transition p.authorizedAt
  requireTrustLevel state.posture transition
  requireRecoveryConditions state.posture p
  require (state.posture.targetCertificate = .revoked →
      ownsRevokedCertificate db.inventory (p.target session))
    (.raised "REVOKED_TARGET_REQUIRED")
  let (proofs, consumed) ← consumeStepUpProof session p.presentation db.stepUpProofs
  require consumed.isSome (.raised "RECOVERY_STEP_UP_REQUIRED")
  let (db, action) ← enqueueSecurityActionInternal session.clock (p.enqueue session)
    { db with stepUpProofs := proofs }
  let db ← insertAuthorization (p.authorization session action.actionId) db
  return (db, p.authorization session action.actionId)

def authorizeSecurityRecovery (session : Session) (p : RecoveryRequest) (db : Database) :
    Except SqlError (Database × RecoveryAuthorization) :=
  match db.authorizations.rows.find? fun existing =>
      existing.target.tenantId = session.tenantId &&
      existing.authorizedBySubjectId = session.subjectId &&
      existing.idempotencyKey = p.idempotencyKey with
  | some existing => do
      require (p.repeats existing) (.raised "RECOVERY_IDEMPOTENCY_CONFLICT")
      return (db, existing)
  | none => authorizeNewRecovery session p db

end TenantTrust.Orchestration
