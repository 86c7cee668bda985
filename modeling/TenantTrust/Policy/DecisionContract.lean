import TenantTrust.Policy.AdaptivePolicyData

/-! `decision.rego` on every input of its contract `opa-decision-input-v1`, whoever wrote it: with
any step-up status, any nullable field and times that need not be dates. -/

namespace TenantTrust.Policy

open Library Identity Api Trust Orchestration

structure ContractIdentity where
  tenantId : TenantId
  subjectId : SubjectId
  valid : Bool
  certificateState : CertificateStatus
  statusSource : StatusSource
  statusVersion : Option Nat
  deriving DecidableEq, Repr

inductive StepUpStatus where
  | absent | valid | expired | consumed | invalid
  deriving DecidableEq, Repr

structure ContractStepUp where
  status : StepUpStatus
  proofIdHashSha256 : Option Sha256Digest
  tenantId : Option TenantId
  subjectId : Option SubjectId
  action : Option PolicyAction
  sessionIdHashSha256 : Option Sha256Digest
  verifiedAt : Option String
  expiresAt : Option String
  deriving DecidableEq, Repr

structure ContractRequestContext where
  requestId : RequestId
  correlationId : CorrelationId
  requestedAt : String
  stepUp : ContractStepUp
  deriving DecidableEq, Repr

structure ContractInput where
  identity : ContractIdentity
  tenantContext : TenantContextInput
  action : PolicyAction
  resource : ResourceInput
  trust : TrustInput
  requestContext : ContractRequestContext
  deriving DecidableEq, Repr

namespace ContractInput

/-- The conditions that the schema of the contract puts on several fields at once. -/
structure IdentitySchema (identity : ContractIdentity) : Prop where
  valid : identity.valid = true → identity.certificateState = .active ∧
    identity.statusSource = .authoritative ∧ identity.statusVersion.isSome
  version : ∀ version ∈ identity.statusVersion, 1 ≤ version

/-- A score of the schema. -/
def isScore (score : ℚ) : Prop := 0 ≤ score ∧ score ≤ 100

/-- The three alternatives of the schema of a trust state. -/
inductive TrustSchema (trust : TrustInput) : Prop where
  | fresh (state : trust.state = .fresh) (usable : trust.usableForPolicy = true)
      (outcome : trust.requiredOutcome = none) (reason : trust.reasonCode = none)
      (policyScore : ∃ score, trust.policyScore = some score ∧ isScore score)
      (policyBand : trust.policyBand.isSome)
      (lastKnownScore : ∃ score, trust.lastKnownScore = some score ∧ isScore score)
      (lastKnownBand : trust.lastKnownBand.isSome)
      (age : ∃ age, trust.ageSeconds = some age ∧ 0 ≤ age)
      (staleAfter : ∃ limit : Nat, trust.staleAfterSeconds = some (limit : ℚ) ∧ 1 ≤ limit)
      (versions : trust.transitionId.isSome ∧ trust.updateVersion.isSome ∧
        trust.configurationVersion.isSome)
  | stale (state : trust.state = .stale) (usable : trust.usableForPolicy = false)
      (outcome : trust.requiredOutcome = some .deny)
      (reason : trust.reasonCode = some "TRUST_STATE_STALE")
      (policyScore : trust.policyScore = none) (policyBand : trust.policyBand = none)
      (lastKnownScore : ∃ score, trust.lastKnownScore = some score ∧ isScore score)
      (lastKnownBand : trust.lastKnownBand.isSome)
      (age : ∃ age, trust.ageSeconds = some age ∧ 0 ≤ age)
      (staleAfter : ∃ limit : Nat, trust.staleAfterSeconds = some (limit : ℚ) ∧ 1 ≤ limit)
      (versions : trust.transitionId.isSome ∧ trust.updateVersion.isSome ∧
        trust.configurationVersion.isSome)
  | missing (state : trust.state = .missing) (usable : trust.usableForPolicy = false)
      (outcome : trust.requiredOutcome = some .deny)
      (reason : trust.reasonCode = some "TRUST_STATE_MISSING")
      (policyScore : trust.policyScore = none) (policyBand : trust.policyBand = none)
      (lastKnownScore : trust.lastKnownScore = none) (lastKnownBand : trust.lastKnownBand = none)
      (age : trust.ageSeconds = none) (staleAfter : trust.staleAfterSeconds = none)
      (versions : trust.transitionId = none ∧ trust.updateVersion = none ∧
        trust.configurationVersion = none)

/-- The fields of a proof are all present or, while its status is `absent`, all `null`. -/
def StepUpSchema (stepUp : ContractStepUp) : Prop :=
  if stepUp.status = .absent then
    stepUp.proofIdHashSha256 = none ∧ stepUp.tenantId = none ∧ stepUp.subjectId = none ∧
      stepUp.action = none ∧ stepUp.sessionIdHashSha256 = none ∧ stepUp.verifiedAt = none ∧
      stepUp.expiresAt = none
  else
    stepUp.proofIdHashSha256.isSome ∧ stepUp.tenantId.isSome ∧ stepUp.subjectId.isSome ∧
      stepUp.action.isSome ∧ stepUp.sessionIdHashSha256.isSome ∧ stepUp.verifiedAt.isSome ∧
      stepUp.expiresAt.isSome

structure SchemaValid (input : ContractInput) : Prop where
  identity : IdentitySchema input.identity
  roles : 1 ≤ input.tenantContext.roles.length ∧ input.tenantContext.roles.length ≤ 2 ∧
    input.tenantContext.roles.Nodup
  sensitivity : input.resource.sensitivity ≠ .restricted
  trust : TrustSchema input.trust
  stepUp : StepUpSchema input.requestContext.stepUp

def configurationValid (configuration : PolicyConfiguration) (input : ContractInput) : Bool :=
  let bands := configuration.scoreBands
  configuration.schemaVersion = "1.0.0" &&
  configuration.calibrationStatus = "unvalidated-prototype-defaults" &&
  configuration.tenantId = input.tenantContext.tenantId &&
  0 < bands.quarantineBelow && bands.quarantineBelow < bands.restrictedBelow &&
  bands.restrictedBelow < bands.conditionalBelow && bands.conditionalBelow < bands.maximum &&
  bands.maximum = 100 &&
  1 ≤ configuration.stepUpMaximumAgeSeconds && configuration.stepUpMaximumAgeSeconds ≤ 900 &&
  configuration.quarantineAction = "restrict-access"

def bindingValid (input : ContractInput) : Bool :=
  input.identity.tenantId = input.tenantContext.tenantId &&
  input.identity.subjectId = input.tenantContext.subjectId &&
  input.resource.tenantId = input.tenantContext.tenantId &&
  input.trust.tenantId = input.tenantContext.tenantId &&
  input.trust.subjectId = input.tenantContext.subjectId

def identityValid (input : ContractInput) : Bool :=
  input.identity.valid && input.identity.certificateState = .active &&
  input.identity.statusSource = .authoritative

def authorityActive (input : ContractInput) : Bool :=
  input.tenantContext.tenantState = .active && input.tenantContext.subjectState = .active &&
  input.tenantContext.membershipState = .active

def trustUsable (input : ContractInput) : Bool :=
  input.trust.state = .fresh && input.trust.usableForPolicy &&
  input.trust.requiredOutcome = none &&
  input.trust.policyScore = input.trust.lastKnownScore &&
  input.trust.policyBand = input.trust.lastKnownBand &&
  !lessThan input.trust.staleAfterSeconds input.trust.ageSeconds

/-- A complete rule with two different values is an evaluation error, here the outer `none`. -/
def configuredRule (configuration : PolicyConfiguration) (input : ContractInput) :
    Option (Option ActionRule) :=
  match configuration.actionRules.filter fun rule => rule.action = input.action with
  | [] => some none
  | rule :: others => if others.all (· = rule) then some (some rule) else none

def roleEligible (rule : ActionRule) (input : ContractInput) : Bool :=
  input.tenantContext.roles.any (· ∈ rule.roles)

/-- The body of `step_up_proof_valid`, in which a time that is no date is undefined. -/
def stepUpProofValid (parse : String → Option ℤ) (configuration : PolicyConfiguration)
    (rule : ActionRule) (input : ContractInput) : Bool :=
  let stepUp := input.requestContext.stepUp
  rule.stepUpRequired && stepUp.status = .valid &&
  stepUp.tenantId = some input.tenantContext.tenantId &&
  stepUp.subjectId = some input.tenantContext.subjectId &&
  stepUp.action = some input.action &&
  stepUp.proofIdHashSha256.isSome && stepUp.sessionIdHashSha256.isSome &&
  match stepUp.verifiedAt.bind parse, stepUp.expiresAt.bind parse,
      parse input.requestContext.requestedAt with
  | some verifiedAt, some expiresAt, some requestedAt =>
      verifiedAt ≤ requestedAt && requestedAt ≤ expiresAt &&
      (requestedAt - verifiedAt : ℚ) ≤ configuration.stepUpMaximumAgeSeconds * 1000000000
  | _, _, _ => false

def trustReason (input : ContractInput) : String :=
  input.trust.reasonCode.getD "TRUST_STATE_UNUSABLE"

/-- The branches that follow once an action rule is known. -/
def ruleResult (parse : String → Option ℤ) (data : PolicyData) (rule : ActionRule)
    (input : ContractInput) : PolicyResult :=
  if rule.sensitivity ≠ input.resource.sensitivity then
    denyResult "RESOURCE_SENSITIVITY_MISMATCH"
  else if !roleEligible rule input then denyResult "ROLE_NOT_ELIGIBLE"
  else if lessThan input.trust.policyScore (some rule.minimumScore) then
    denyResult "TRUST_SCORE_BELOW_ACTION_MINIMUM"
  else if rule.stepUpRequired && !stepUpProofValid parse data.configuration rule input then
    stepUpResult data
  else allowResult

/-- The else-chain of `policy_result`; `none` is an evaluation error. -/
def policyResult (parse : String → Option ℤ) (data : PolicyData) (input : ContractInput) :
    Option PolicyResult :=
  if !configurationValid data.configuration input then
    some (denyResult "POLICY_CONFIGURATION_INVALID")
  else if !bindingValid input then some (denyResult "TENANT_BINDING_MISMATCH")
  else if !identityValid input then some (denyResult "CERTIFICATE_INVALID")
  else if !authorityActive input then some (denyResult "TENANT_AUTHORITY_INACTIVE")
  else if !trustUsable input then some (denyResult (trustReason input))
  else if lessThan input.trust.policyScore
      (some data.configuration.scoreBands.quarantineBelow) then some (quarantineResult data)
  else
    match configuredRule data.configuration input with
    | none => none
    | some none => some (denyResult "ACTION_NOT_CONFIGURED")
    | some (some rule) => some (ruleResult parse data rule input)

end ContractInput

structure ContractDecision where
  requestId : RequestId
  correlationId : CorrelationId
  tenantId : TenantId
  subjectId : SubjectId
  result : PolicyResult
  evaluatedAt : Timestamp
  inputHashSha256 : Sha256Digest
  policy : RuntimePolicy
  certificateStatusVersion : Option Nat
  versions : AuthorityVersions
  trustTransitionId : Option (Identifier .transition)
  trustUpdateVersion : Option Nat
  trustConfigurationVersion : Option Nat
  deriving DecidableEq, Repr

/-- What the policy language has built in: `time.parse_rfc3339_ns`, undefined on a text that it
cannot read, and the hash of the marshalled input. -/
structure PolicyBuiltins where
  parse : String → Option ℤ
  hashInput : ContractInput → Sha256Digest

/-- `decision`; `none` is its default `null` or an evaluation error. -/
def contractDecision (builtins : PolicyBuiltins) (data : PolicyData) (evaluatedAt : Timestamp)
    (input : ContractInput) : Option ContractDecision :=
  if runtimePolicyValid data then
    (ContractInput.policyResult builtins.parse data input).map fun result => {
      requestId := input.requestContext.requestId
      correlationId := input.requestContext.correlationId
      tenantId := input.tenantContext.tenantId
      subjectId := input.tenantContext.subjectId
      result := result
      evaluatedAt := evaluatedAt
      inputHashSha256 := builtins.hashInput input
      policy := data.runtime
      certificateStatusVersion := input.identity.statusVersion
      versions := input.tenantContext.versions
      trustTransitionId := input.trust.transitionId
      trustUpdateVersion := input.trust.updateVersion
      trustConfigurationVersion := input.trust.configurationVersion }
  else none

/-- The document that the service writes for a typed input; only a proof that it found valid is
written at all. -/
def DecisionInput.contract (render : Timestamp → String) (input : DecisionInput) :
    ContractInput where
  identity := ⟨input.identity.tenantId, input.identity.subjectId, input.identity.valid,
    input.identity.certificateState, input.identity.statusSource,
    some input.identity.statusVersion⟩
  tenantContext := input.tenantContext
  action := input.action
  resource := input.resource
  trust := input.trust
  requestContext := {
    requestId := input.requestContext.requestId
    correlationId := input.requestContext.correlationId
    requestedAt := render input.requestContext.requestedAt
    stepUp := match input.requestContext.stepUp with
      | none => ⟨.absent, none, none, none, none, none, none, none⟩
      | some proof => ⟨.valid, some proof.proofIdHashSha256, some proof.tenantId,
          some proof.subjectId, policyActions.find? fun action => proof.action = action.text,
          some proof.sessionIdHashSha256, some (render proof.verifiedAt),
          some (render proof.expiresAt)⟩ }

theorem policyActions_find (action : PolicyAction) (text : String) :
    policyActions.find? (fun named => text = named.text) = some action ↔ text = action.text := by
  constructor
  · intro found
    have holds := List.find?_some found
    exact of_decide_eq_true holds
  · intro same
    subst same
    cases action <;> decide

/-- On what the service writes, the two readings of a proof agree. -/
theorem contract_stepUpProofValid {render : Timestamp → String} {parse : String → Option ℤ}
    (dates : ∀ time, parse (render time) = some (time * 1000000)) (data : PolicyData)
    (rule : ActionRule) (input : DecisionInput) :
    (input.contract render).stepUpProofValid parse data.configuration rule =
      stepUpProofValid data rule input := by
  rw [Bool.eq_iff_iff]
  cases given : input.requestContext.stepUp with
  | none => simp [ContractInput.stepUpProofValid, stepUpProofValid, DecisionInput.contract, given]
  | some proof =>
      have scaled : ∀ first second : ℤ, first * 1000000 ≤ second * 1000000 ↔ first ≤ second := by
        intro first second
        omega
      have age : (((input.requestContext.requestedAt * 1000000 : ℤ) : ℚ) -
            ((proof.verifiedAt * 1000000 : ℤ) : ℚ) ≤
              data.configuration.stepUpMaximumAgeSeconds * 1000000000) ↔
          (input.requestContext.requestedAt - proof.verifiedAt : ℚ) ≤
            data.configuration.stepUpMaximumAgeSeconds * 1000 := by
        push_cast
        constructor
        · intro bound
          linarith
        · intro bound
          linarith
      simp only [ContractInput.stepUpProofValid, stepUpProofValid, DecisionInput.contract, given,
        dates, Option.bind_some, scaled, age, policyActions_find, Option.some.injEq,
        Option.isSome_some, Bool.and_eq_true, decide_eq_true_eq, and_true, and_assoc]

theorem contract_policyResult {render : Timestamp → String} {parse : String → Option ℤ}
    (dates : ∀ time, parse (render time) = some (time * 1000000)) (data : PolicyData)
    (input : DecisionInput) :
    (input.contract render).policyResult parse data = policyResult data input := by
  have same : ∀ rule, ContractInput.ruleResult parse data rule (input.contract render) =
      ruleResult data rule input := by
    intro rule
    rw [ContractInput.ruleResult, contract_stepUpProofValid dates]
    rfl
  unfold ContractInput.policyResult policyResult
  simp only [same]
  rfl

end TenantTrust.Policy
