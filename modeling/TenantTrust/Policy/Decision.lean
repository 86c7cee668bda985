import TenantTrust.Api.RequestState
import TenantTrust.Orchestration.Tables
import Mathlib.Algebra.Order.Ring.Unbundled.Rat

/-! The authorization policy `decision.rego` on its input and on the policy data. -/

namespace TenantTrust.Policy

open Identity Api Trust Orchestration

inductive CertificateStatus where
  | active | revoked | expired | superseded | unknown
  deriving DecidableEq, Repr

inductive StatusSource where
  | authoritative | unknown | stale | invalid | unavailable | notQueried
  deriving DecidableEq, Repr

structure IdentityInput where
  tenantId : TenantId
  subjectId : SubjectId
  certificateId : CertificateId
  issuerId : IssuerId
  serialNumber : SerialNumber
  fingerprintSha256 : Sha256Digest
  valid : Bool
  certificateState : CertificateStatus
  statusSource : StatusSource
  statusVersion : Nat
  statusObservedAt : Timestamp
  checkedAt : Timestamp
  validUntil : Timestamp
  deriving DecidableEq, Repr

structure TenantContextInput where
  tenantId : TenantId
  subjectId : SubjectId
  roles : List TenantRole
  tenantState : ActivityState
  subjectState : ActivityState
  membershipState : ActivityState
  versions : AuthorityVersions
  deriving DecidableEq, Repr

structure ResourceInput where
  tenantId : TenantId
  resourceType : ResourceType
  resourceIdHashSha256 : Sha256Digest
  sensitivity : Sensitivity
  scope : Scope
  ownerSubjectId : Option SubjectId
  deriving DecidableEq, Repr

inductive Freshness where
  | fresh | stale | missing
  deriving DecidableEq, Repr

/-- The answer of the trust-score lookup; a `null` field is `none`. -/
structure TrustInput where
  tenantId : TenantId
  subjectId : SubjectId
  state : Freshness
  usableForPolicy : Bool
  requiredOutcome : Option PolicyOutcome
  reasonCode : Option String
  policyScore : Option ℚ
  policyBand : Option TrustBand
  lastKnownScore : Option ℚ
  lastKnownBand : Option TrustBand
  ageSeconds : Option ℚ
  staleAfterSeconds : Option ℚ
  transitionId : Option (Identifier .transition)
  updateVersion : Option Nat
  configurationVersion : Option Nat
  deriving DecidableEq, Repr

structure StepUpInput where
  proofIdHashSha256 : Sha256Digest
  tenantId : TenantId
  subjectId : SubjectId
  action : String
  sessionIdHashSha256 : Sha256Digest
  verifiedAt : Timestamp
  expiresAt : Timestamp
  deriving DecidableEq, Repr

inductive RequestMethod where
  | get | post | put | patch | delete
  deriving DecidableEq, Repr

inductive NetworkZone where
  | external | tenantNetwork | administrative | unknown
  deriving DecidableEq, Repr

/-- `stepUp` is `none` while its status is `absent`. -/
structure RequestContextInput where
  requestId : RequestId
  correlationId : CorrelationId
  requestedAt : Timestamp
  method : RequestMethod
  routeTemplate : String
  sourceNetworkZone : NetworkZone
  stepUp : Option StepUpInput
  deriving DecidableEq, Repr

structure DecisionInput where
  identity : IdentityInput
  tenantContext : TenantContextInput
  action : PolicyAction
  resource : ResourceInput
  trust : TrustInput
  requestContext : RequestContextInput
  deriving DecidableEq, Repr

structure ScoreBands where
  quarantineBelow : ℚ
  restrictedBelow : ℚ
  conditionalBelow : ℚ
  maximum : ℚ
  deriving DecidableEq, Repr

structure ActionRule where
  action : PolicyAction
  minimumScore : ℚ
  roles : List TenantRole
  sensitivity : Sensitivity
  stepUpRequired : Bool
  deriving DecidableEq, Repr

structure PolicyConfiguration where
  schemaVersion : String
  calibrationStatus : String
  tenantId : TenantId
  scoreBands : ScoreBands
  stepUpMaximumAgeSeconds : ℚ
  quarantineAction : String
  actionRules : List ActionRule
  deriving DecidableEq, Repr

structure RuntimePolicy where
  policyVersionId : Nat
  bundleVersion : Nat
  bundleHashSha256 : Sha256Digest
  decisionPath : String
  deriving DecidableEq, Repr

/-- `data.tenant_trust_policy.authorization` -/
structure PolicyData where
  configuration : PolicyConfiguration
  runtime : RuntimePolicy
  deriving DecidableEq, Repr

def decisionPath : String := "tenant_trust/authorization/decision"

def runtimePolicyValid (data : PolicyData) : Bool :=
  1 ≤ data.runtime.bundleVersion && data.runtime.decisionPath = decisionPath

def configurationValid (data : PolicyData) (input : DecisionInput) : Bool :=
  let configuration := data.configuration
  let bands := configuration.scoreBands
  configuration.schemaVersion = "1.0.0" &&
  configuration.calibrationStatus = "unvalidated-prototype-defaults" &&
  configuration.tenantId = input.tenantContext.tenantId &&
  0 < bands.quarantineBelow && bands.quarantineBelow < bands.restrictedBelow &&
  bands.restrictedBelow < bands.conditionalBelow && bands.conditionalBelow < bands.maximum &&
  bands.maximum = 100 &&
  1 ≤ configuration.stepUpMaximumAgeSeconds && configuration.stepUpMaximumAgeSeconds ≤ 900 &&
  configuration.quarantineAction = "restrict-access"

def bindingValid (input : DecisionInput) : Bool :=
  input.identity.tenantId = input.tenantContext.tenantId &&
  input.identity.subjectId = input.tenantContext.subjectId &&
  input.resource.tenantId = input.tenantContext.tenantId &&
  input.trust.tenantId = input.tenantContext.tenantId &&
  input.trust.subjectId = input.tenantContext.subjectId

def identityValid (input : DecisionInput) : Bool :=
  input.identity.valid && input.identity.certificateState = .active &&
  input.identity.statusSource = .authoritative

def authorityActive (input : DecisionInput) : Bool :=
  input.tenantContext.tenantState = .active && input.tenantContext.subjectState = .active &&
  input.tenantContext.membershipState = .active

/-- The order of the policy language, in which `null` comes before every number. -/
def lessThan : Option ℚ → Option ℚ → Bool
  | none, none => false
  | none, some _ => true
  | some _, none => false
  | some left, some right => left < right

def trustUsable (input : DecisionInput) : Bool :=
  input.trust.state = .fresh && input.trust.usableForPolicy &&
  input.trust.requiredOutcome = none &&
  input.trust.policyScore = input.trust.lastKnownScore &&
  input.trust.policyBand = input.trust.lastKnownBand &&
  !lessThan input.trust.staleAfterSeconds input.trust.ageSeconds

/-- A complete rule with two different values is an evaluation error, here the outer `none`. -/
def configuredRule (data : PolicyData) (input : DecisionInput) : Option (Option ActionRule) :=
  match data.configuration.actionRules.filter fun rule => rule.action = input.action with
  | [] => some none
  | rule :: others => if others.all (· = rule) then some (some rule) else none

def roleEligible (rule : ActionRule) (input : DecisionInput) : Bool :=
  input.tenantContext.roles.any (· ∈ rule.roles)

def stepUpProofValid (data : PolicyData) (rule : ActionRule) (input : DecisionInput) : Bool :=
  match input.requestContext.stepUp with
  | none => false
  | some proof =>
      rule.stepUpRequired && proof.tenantId = input.tenantContext.tenantId &&
      proof.subjectId = input.tenantContext.subjectId && proof.action = input.action.text &&
      proof.verifiedAt ≤ input.requestContext.requestedAt &&
      input.requestContext.requestedAt ≤ proof.expiresAt &&
      (input.requestContext.requestedAt - proof.verifiedAt : ℚ) ≤
        data.configuration.stepUpMaximumAgeSeconds * 1000

def trustReason (input : DecisionInput) : String :=
  input.trust.reasonCode.getD "TRUST_STATE_UNUSABLE"

structure Obligations where
  stepUpMaximumAgeSeconds : Option ℚ
  quarantineAction : Option String
  deriving DecidableEq, Repr

structure PolicyResult where
  outcome : PolicyOutcome
  reasonCodes : List String
  obligations : Obligations
  deriving DecidableEq, Repr

def denyResult (reason : String) : PolicyResult := ⟨.deny, [reason], ⟨none, none⟩⟩

def quarantineResult (data : PolicyData) : PolicyResult :=
  ⟨.quarantine, ["TRUST_SCORE_QUARANTINE"], ⟨none, some data.configuration.quarantineAction⟩⟩

def stepUpResult (data : PolicyData) : PolicyResult :=
  ⟨.stepUp, ["STEP_UP_REQUIRED"], ⟨some data.configuration.stepUpMaximumAgeSeconds, none⟩⟩

def allowResult : PolicyResult := ⟨.allow, ["POLICY_ALLOW"], ⟨none, none⟩⟩

/-- The branches that follow once an action rule is known. -/
def ruleResult (data : PolicyData) (rule : ActionRule) (input : DecisionInput) : PolicyResult :=
  if rule.sensitivity ≠ input.resource.sensitivity then
    denyResult "RESOURCE_SENSITIVITY_MISMATCH"
  else if !roleEligible rule input then denyResult "ROLE_NOT_ELIGIBLE"
  else if lessThan input.trust.policyScore (some rule.minimumScore) then
    denyResult "TRUST_SCORE_BELOW_ACTION_MINIMUM"
  else if rule.stepUpRequired && !stepUpProofValid data rule input then stepUpResult data
  else allowResult

/-- The else-chain of `policy_result`; `none` is an evaluation error. -/
def policyResult (data : PolicyData) (input : DecisionInput) : Option PolicyResult :=
  if !configurationValid data input then some (denyResult "POLICY_CONFIGURATION_INVALID")
  else if !bindingValid input then some (denyResult "TENANT_BINDING_MISMATCH")
  else if !identityValid input then some (denyResult "CERTIFICATE_INVALID")
  else if !authorityActive input then some (denyResult "TENANT_AUTHORITY_INACTIVE")
  else if !trustUsable input then some (denyResult (trustReason input))
  else if lessThan input.trust.policyScore
      (some data.configuration.scoreBands.quarantineBelow) then some (quarantineResult data)
  else
    match configuredRule data input with
    | none => none
    | some none => some (denyResult "ACTION_NOT_CONFIGURED")
    | some (some rule) => some (ruleResult data rule input)

structure DecisionState where
  certificateStatusVersion : Nat
  versions : AuthorityVersions
  trustTransitionId : Option (Identifier .transition)
  trustUpdateVersion : Option Nat
  trustConfigurationVersion : Option Nat
  deriving DecidableEq, Repr

structure Decision where
  requestId : RequestId
  correlationId : CorrelationId
  tenantId : TenantId
  subjectId : SubjectId
  result : PolicyResult
  evaluatedAt : Timestamp
  inputHashSha256 : Sha256Digest
  policy : RuntimePolicy
  state : DecisionState
  deriving DecidableEq, Repr

/-- `decision`; `none` stands for its default `null` and for an evaluation error, which the
decision client reports alike. The decision id is derived from the request id. -/
def decision (hashInput : DecisionInput → Sha256Digest) (data : PolicyData)
    (evaluatedAt : Timestamp) (input : DecisionInput) : Option Decision :=
  if runtimePolicyValid data then
    (policyResult data input).map fun result => {
      requestId := input.requestContext.requestId
      correlationId := input.requestContext.correlationId
      tenantId := input.tenantContext.tenantId
      subjectId := input.tenantContext.subjectId
      result := result
      evaluatedAt := evaluatedAt
      inputHashSha256 := hashInput input
      policy := data.runtime
      state := {
        certificateStatusVersion := input.identity.statusVersion
        versions := input.tenantContext.versions
        trustTransitionId := input.trust.transitionId
        trustUpdateVersion := input.trust.updateVersion
        trustConfigurationVersion := input.trust.configurationVersion } }
  else none

end TenantTrust.Policy
