import TenantTrust.Orchestration.Queue
import TenantTrust.Policy.Decision

/-! A protected request in adaptive mode, from the tenant context to the policy decision. -/

namespace TenantTrust.Api

open Library Identity Audit Policy Orchestration

structure ActivePolicyBundle where
  tenantId : TenantId
  policyName : String
  active : Bool
  entrypoint : String
  policyVersionId : Nat
  bundleVersion : Nat
  bundleHashSha256 : Sha256Digest
  deriving DecidableEq, Repr

/-- What the services outside the request transaction answer: the trust lookup, the bundle
lookup and the policy server, with the readings of the monotonic clock in milliseconds. An
absent answer is a failed call. -/
structure PolicyEnvironment where
  trust : Option TrustInput
  trustReadAt : ℚ
  bundle : Option ActivePolicyBundle
  data : PolicyData
  reachable : Bool
  evaluatedAt : Timestamp
  decidedAt : ℚ
  hashInput : DecisionInput → Sha256Digest

structure StepUpPresentation where
  proofIdHashSha256 : Sha256Digest
  sessionIdHashSha256 : Sha256Digest
  deriving DecidableEq, Repr

structure PolicyRequest where
  requestId : RequestId
  correlationId : CorrelationId
  requestedAt : Timestamp
  method : RequestMethod
  routeTemplate : String
  sourceNetworkZone : NetworkZone
  resourceIdHashSha256 : Sha256Digest
  ownerSubjectId : Option SubjectId
  stepUpPresentation : Option StepUpPresentation
  deriving DecidableEq, Repr

def decisionInput (authentication : Authentication) (context : TenantContext)
    (state : RequestState) (eligibility : RoleActionRule) (action : PolicyAction)
    (request : PolicyRequest) (stepUp : Option StepUpInput) (trust : TrustInput) :
    DecisionInput where
  identity := {
    tenantId := context.tenantId
    subjectId := context.subjectId
    certificateId := state.certificateId
    issuerId := authentication.certificate.issuerId
    serialNumber := authentication.certificate.serialNumber
    fingerprintSha256 := authentication.certificate.fingerprintSha256
    valid := true
    certificateState := .active
    statusSource := .authoritative
    statusVersion := state.certificateStatusVersion
    statusObservedAt := state.observedAt
    checkedAt := state.checkedAt
    validUntil := state.validUntil }
  tenantContext := {
    tenantId := context.tenantId
    subjectId := context.subjectId
    roles := context.roles
    tenantState := .active
    subjectState := .active
    membershipState := .active
    versions := context.versions }
  action := action
  resource := {
    tenantId := context.tenantId
    resourceType := eligibility.resourceType
    resourceIdHashSha256 := request.resourceIdHashSha256
    sensitivity := eligibility.sensitivity
    scope := eligibility.scope
    ownerSubjectId := request.ownerSubjectId }
  trust := trust
  requestContext := {
    requestId := request.requestId
    correlationId := request.correlationId
    requestedAt := request.requestedAt
    method := request.method
    routeTemplate := request.routeTemplate
    sourceNetworkZone := request.sourceNetworkZone
    stepUp := stepUp }

/-- The comparisons of `assertDecisionBinding`. -/
def bindsDecision (decision : Decision) (input : DecisionInput) (inputHash : Sha256Digest)
    (bundle : ActivePolicyBundle) : Bool :=
  decision.requestId = input.requestContext.requestId &&
  decision.correlationId = input.requestContext.correlationId &&
  decision.tenantId = input.tenantContext.tenantId &&
  decision.subjectId = input.tenantContext.subjectId &&
  decision.inputHashSha256 = inputHash &&
  decision.state.certificateStatusVersion = input.identity.statusVersion &&
  decision.state.versions = input.tenantContext.versions &&
  decision.state.trustTransitionId = input.trust.transitionId &&
  decision.state.trustUpdateVersion = input.trust.updateVersion &&
  decision.state.trustConfigurationVersion = input.trust.configurationVersion &&
  decision.policy.policyVersionId = bundle.policyVersionId &&
  decision.policy.bundleVersion = bundle.bundleVersion &&
  decision.policy.bundleHashSha256 = bundle.bundleHashSha256 &&
  decision.policy.decisionPath = bundle.entrypoint

def assertTrustRemainsFresh (trust : TrustInput) (observedAt now : ℚ) : Except ApiError Unit :=
  if trust.state = .fresh then do
    require (observedAt ≤ now) (.policyUnavailable "POLICY_TIME_UNAVAILABLE")
    require (trust.ageSeconds.getD 0 + (now - observedAt) / 1000 ≤ trust.staleAfterSeconds.getD 0)
      (.policyUnavailable "TRUST_STATE_EXPIRED_DURING_DECISION")
  else return ()

structure Evaluation where
  input : DecisionInput
  inputHash : Sha256Digest
  bundle : ActivePolicyBundle
  decision : Decision

/-- `policyEnforcementService.decide`. The schemas of input and decision, which only refuse, are
not restated: the types carry their formats, except for the route template, which the routes of
the server fix. -/
def decide (env : PolicyEnvironment) (authentication : Authentication) (context : TenantContext)
    (state : RequestState) (eligibility : RoleActionRule) (action : PolicyAction)
    (request : PolicyRequest) (stepUp : Option StepUpInput) : Except ApiError Evaluation := do
  let trust ← requireSome env.trust (.policyUnavailable "TRUST_LOOKUP_UNAVAILABLE")
  require (0 ≤ env.trustReadAt) (.policyUnavailable "POLICY_TIME_UNAVAILABLE")
  require (trust.tenantId = context.tenantId ∧ trust.subjectId = context.subjectId)
    (.policyUnavailable "TRUST_STATE_BINDING_MISMATCH")
  let bundle ← requireSome env.bundle (.policyUnavailable "POLICY_BUNDLE_LOOKUP_UNAVAILABLE")
  require (bundle.tenantId = context.tenantId ∧ bundle.policyName = "access-control" ∧
      bundle.active ∧ bundle.entrypoint = decisionPath)
    (.policyUnavailable "ACTIVE_POLICY_BUNDLE_INVALID")
  let input := decisionInput authentication context state eligibility action request stepUp trust
  let inputHash := env.hashInput input
  require env.reachable (.policyUnavailable "POLICY_REQUEST_FAILED")
  let decision ← requireSome (decision env.hashInput env.data env.evaluatedAt input)
    (.policyUnavailable "POLICY_RESPONSE_INVALID")
  require (bindsDecision decision input inputHash bundle)
    (.policyUnavailable "POLICY_RESPONSE_BINDING_MISMATCH")
  require (request.requestedAt ≤ decision.evaluatedAt)
    (.policyUnavailable "POLICY_RESPONSE_TIME_INVALID")
  require (trust.requiredOutcome = none ∨ trust.requiredOutcome = some decision.result.outcome)
    (.policyUnavailable "POLICY_RESPONSE_CONSTRAINT_MISMATCH")
  assertTrustRemainsFresh trust env.trustReadAt env.decidedAt
  return ⟨input, inputHash, bundle, decision⟩

structure ProtectedRequest where
  authentication : Authentication
  authority : Option Authority
  session : Session
  times : RequestTimes
  statusTimedOut : Bool
  action : PolicyAction
  sensitive : Bool
  policyRequest : PolicyRequest
  securityActionId : ActionId
  environment : PolicyEnvironment

/-- The session after `identity.set_tenant_actor_context`. -/
def ProtectedRequest.actorSession (r : ProtectedRequest) : Session :=
  { r.session with
    tenantId := r.authentication.tenantId
    subjectId := r.authentication.subjectId }

/-- How the operation ends once its transaction commits. -/
inductive ProtectedOutcome where
  | passed (state : RequestState)
  | quarantined
  | recordedDenial
  deriving DecidableEq, Repr

def liftSql {α : Type} : Except SqlError α → Except ApiError α
  | .ok value => .ok value
  | .error failure => .error (.database failure)

def ProtectedRequest.presentation (r : ProtectedRequest) (presented : StepUpPresentation) :
    ProofPresentation where
  proofIdHashSha256 := presented.proofIdHashSha256
  sessionIdHashSha256 := presented.sessionIdHashSha256
  action := r.action.text
  requestId := r.policyRequest.requestId
  consumedAt := r.times.stepUpAt

def stepUpInput (proof : StepUpProof) : StepUpInput where
  proofIdHashSha256 := proof.proofIdHashSha256
  tenantId := proof.tenantId
  subjectId := proof.subjectId
  action := proof.action
  sessionIdHashSha256 := proof.sessionIdHashSha256
  verifiedAt := proof.verifiedAt
  expiresAt := proof.expiresAt

/-- The step-up proof that a sensitive operation consumes when one is presented. -/
def consumePresentedProof (r : ProtectedRequest) (state : RequestState) (db : Database) :
    Except ApiError (Database × Option StepUpInput) :=
  match if r.sensitive then r.policyRequest.stepUpPresentation else none with
  | none => return (db, none)
  | some presented => do
      assertFresh state r.times.consumptionAt
      let (proofs, consumed) ← liftSql
        (consumeStepUpProof r.actorSession (r.presentation presented) db.stepUpProofs)
      let proof ← requireSome consumed .accessDenied
      return ({ db with stepUpProofs := proofs }, some (stepUpInput proof))

def ProtectedRequest.provenance (r : ProtectedRequest) (state : RequestState)
    (evaluation : Evaluation) : PolicyDecisionProvenance where
  tenantId := r.authentication.tenantId
  decisionId := ⟨r.policyRequest.requestId.value⟩
  correlationId := r.policyRequest.correlationId
  actorSubjectId := r.authentication.subjectId
  certificateId := state.certificateId
  outcome := evaluation.decision.result.outcome
  trustTransitionId := evaluation.input.trust.transitionId

def quarantineActionType : Option String → Option QuarantineActionType
  | some "restrict-access" => some .restrictAccess
  | some "suspend-subject" => some .suspendSubject
  | _ => none

def ProtectedRequest.quarantine (r : ProtectedRequest) (state : RequestState)
    (evaluation : Evaluation) (actionType : QuarantineActionType)
    (trustTransitionId : TransitionId) : QuarantineRequest where
  actionId := r.securityActionId
  decisionId := ⟨r.policyRequest.requestId.value⟩
  requestId := r.policyRequest.requestId
  correlationId := r.policyRequest.correlationId
  targetCertificateId := state.certificateId
  policyAction := r.action.text
  actionType := actionType
  reasonCode := evaluation.decision.result.reasonCodes.headD ""
  resourceIdHashSha256 := evaluation.input.resource.resourceIdHashSha256
  trustTransitionId := trustTransitionId
  policyVersionId := evaluation.bundle.policyVersionId
  policyInputHashSha256 := evaluation.inputHash
  requestedAt := r.times.quarantineAt

/-- The end of the operation for each outcome of the recorded decision. -/
def enforceDecision (r : ProtectedRequest) (state : RequestState) (evaluation : Evaluation)
    (db : Database) : Except ApiError (Database × ProtectedOutcome) :=
  match evaluation.decision.result.outcome with
  | .quarantine => do
      assertFresh state r.times.operationAt
      let actionType ← requireSome
        (quarantineActionType evaluation.decision.result.obligations.quarantineAction)
        (.policyUnavailable "POLICY_RESPONSE_INVALID")
      let trustTransitionId ← requireSome evaluation.input.trust.transitionId .accessDenied
      let (db, _) ← liftSql (requestQuarantineAction r.actorSession
        (r.quarantine state evaluation actionType trustTransitionId) db)
      return (db, .quarantined)
  | .allow => do
      assertFresh state r.times.operationAt
      return (db, .passed state)
  | .deny | .stepUp => return (db, .recordedDenial)

/-- `authorizeProtectedOperation` in adaptive mode, up to the protected query. -/
def authorizeProtectedOperation (r : ProtectedRequest) (context : TenantContext)
    (state : RequestState) (db : Database) : Except ApiError (Database × ProtectedOutcome) := do
  let eligibility ← evaluateAuthorizationMode context r.action
  let (db, stepUp) ← consumePresentedProof r state db
  let evaluation ← decide r.environment r.authentication context state eligibility r.action
    r.policyRequest stepUp
  assertFresh state r.times.provenanceAt
  let provenance ← requireSome (db.provenance.insertNew (r.provenance state evaluation))
    (.database (.uniqueViolation "policy_decision_provenance_pk"))
  enforceDecision r state evaluation { db with provenance := provenance }

/-- `withTenantContext` around the protected operation. A failure rolls the transaction back;
a quarantine and a recorded denial are committed before they are reported. -/
def withTenantContext (r : ProtectedRequest) (db : Database) :
    Except ApiError (Database × ProtectedOutcome) := do
  assertPresentedCertificate r.authentication
  let authority ← requireSome r.authority .accessDenied
  let context ← resolveTenantContext r.authentication.tenantId r.authentication.subjectId
    authority
  let state ← validateRequestState r.actorSession r.times r.statusTimedOut r.authentication
    context db.inventory
  authorizeProtectedOperation r context state db

end TenantTrust.Api
