import TenantTrust.Api.StepUpAuthentication
import TenantTrust.Api.Suspension
import TenantTrust.Policy.AdaptivePolicyData
import Mathlib.Data.Fintype.EquivFin

/-! Whether a subject can meet every demand for step-up authentication. -/

namespace TenantTrust.Policy

open Library Identity Api Trust Orchestration

variable {data : PolicyData} {rule : ActionRule} {input : DecisionInput} {result : PolicyResult}

/-- The branches of the policy up to the step-up rule let the input pass. -/
structure ReachesStepUp (data : PolicyData) (rule : ActionRule) (input : DecisionInput) : Prop where
  configuration : configurationValid data input = true
  binding : bindingValid input = true
  identity : identityValid input = true
  authority : authorityActive input = true
  trust : trustUsable input = true
  score : lessThan input.trust.policyScore
    (some data.configuration.scoreBands.quarantineBelow) = false
  configured : configuredRule data input = some (some rule)
  sensitivity : rule.sensitivity = input.resource.sensitivity
  role : roleEligible rule input = true
  minimum : lessThan input.trust.policyScore (some rule.minimumScore) = false
  required : rule.stepUpRequired = true

theorem ReachesStepUp.answer (reaches : ReachesStepUp data rule input) :
    policyResult data input =
      some (if stepUpProofValid data rule input then allowResult else stepUpResult data) := by
  simp only [policyResult, reaches.configuration, reaches.binding, reaches.identity,
    reaches.authority, reaches.trust, reaches.score, reaches.configured, Bool.not_true,
    Bool.false_eq_true, if_false, ruleResult, reaches.sensitivity, ne_eq, not_true_eq_false,
    reaches.role, reaches.minimum, reaches.required, Bool.true_and]
  cases stepUpProofValid data rule input <;> rfl

/-- A branch with another outcome was not taken. -/
theorem passed_branch {condition : Bool} {other : PolicyResult} {rest : Option PolicyResult}
    {outcome : PolicyOutcome}
    (answered : (if (!condition) = true then some other else rest) = some result)
    (demands : result.outcome = outcome) (differs : other.outcome ≠ outcome) :
    condition = true ∧ rest = some result := by
  cases condition with
  | true => exact ⟨rfl, answered⟩
  | false =>
      cases answered
      exact absurd demands differs

theorem skipped_branch {condition : Bool} {other : PolicyResult} {rest : Option PolicyResult}
    {outcome : PolicyOutcome}
    (answered : (if condition = true then some other else rest) = some result)
    (demands : result.outcome = outcome) (differs : other.outcome ≠ outcome) :
    condition = false ∧ rest = some result := by
  cases condition with
  | false => exact ⟨rfl, answered⟩
  | true =>
      cases answered
      exact absurd demands differs

theorem ruleResult_stepUp (demands : (ruleResult data rule input).outcome = .stepUp) :
    rule.sensitivity = input.resource.sensitivity ∧ roleEligible rule input = true ∧
      lessThan input.trust.policyScore (some rule.minimumScore) = false ∧
      rule.stepUpRequired = true := by
  unfold ruleResult at demands
  by_cases sensitivity : rule.sensitivity = input.resource.sensitivity
  · rw [if_neg (not_not.mpr sensitivity)] at demands
    cases role : roleEligible rule input with
    | false =>
        rw [role] at demands
        cases demands
    | true =>
        cases minimum : lessThan input.trust.policyScore (some rule.minimumScore) with
        | true =>
            rw [role, minimum] at demands
            cases demands
        | false =>
            cases required : rule.stepUpRequired with
            | true => exact ⟨sensitivity, rfl, rfl, rfl⟩
            | false =>
                rw [role, minimum, required] at demands
                cases demands
  · rw [if_pos sensitivity] at demands
    cases demands

/-- Only the step-up rule answers `STEP_UP`. -/
theorem reachesStepUp_of_answer (answered : policyResult data input = some result)
    (demands : result.outcome = .stepUp) : ∃ rule, ReachesStepUp data rule input := by
  unfold policyResult at answered
  have denied : ∀ reason, (denyResult reason).outcome ≠ .stepUp := fun _ => nofun
  have ⟨configuration, answered⟩ := passed_branch answered demands (denied _)
  have ⟨binding, answered⟩ := passed_branch answered demands (denied _)
  have ⟨identity, answered⟩ := passed_branch answered demands (denied _)
  have ⟨authority, answered⟩ := passed_branch answered demands (denied _)
  have ⟨trust, answered⟩ := passed_branch answered demands (denied _)
  have ⟨score, answered⟩ := skipped_branch answered demands nofun
  cases configured : configuredRule data input with
  | none =>
      rw [configured] at answered
      cases answered
  | some found =>
      rw [configured] at answered
      cases found with
      | none =>
          cases answered
          cases demands
      | some rule =>
          cases answered
          have ⟨sensitivity, role, minimum, required⟩ := ruleResult_stepUp demands
          exact ⟨rule, configuration, binding, identity, authority, trust, score, configured,
            sensitivity, role, minimum, required⟩

end TenantTrust.Policy

namespace TenantTrust.Api

open Library Identity Audit Policy Trust Orchestration

/-- The decision that the policy server forms around a result. -/
def decisionOf (env : PolicyEnvironment) (input : DecisionInput) (result : PolicyResult) :
    Decision where
  requestId := input.requestContext.requestId
  correlationId := input.requestContext.correlationId
  tenantId := input.tenantContext.tenantId
  subjectId := input.tenantContext.subjectId
  result := result
  evaluatedAt := env.evaluatedAt
  inputHashSha256 := env.hashInput input
  policy := env.data.runtime
  state := {
    certificateStatusVersion := input.identity.statusVersion
    versions := input.tenantContext.versions
    trustTransitionId := input.trust.transitionId
    trustUpdateVersion := input.trust.updateVersion
    trustConfigurationVersion := input.trust.configurationVersion }

/-- What the services answer does not stand in the way of a decision. -/
structure Answers (env : PolicyEnvironment) (context : TenantContext) (trust : TrustInput)
    (bundle : ActivePolicyBundle) : Prop where
  lookedUp : env.trust = some trust
  readAt : 0 ≤ env.trustReadAt
  bound : trust.tenantId = context.tenantId ∧ trust.subjectId = context.subjectId
  found : env.bundle = some bundle
  active : bundle.tenantId = context.tenantId ∧ bundle.policyName = "access-control" ∧
    bundle.active = true ∧ bundle.entrypoint = decisionPath
  reachable : env.reachable = true
  runtime : runtimePolicyValid env.data = true
  policy : env.data.runtime.policyVersionId = bundle.policyVersionId ∧
    env.data.runtime.bundleVersion = bundle.bundleVersion ∧
    env.data.runtime.bundleHashSha256 = bundle.bundleHashSha256 ∧
    env.data.runtime.decisionPath = bundle.entrypoint
  fresh : assertTrustRemainsFresh trust env.trustReadAt env.decidedAt = .ok ()

theorem bindsDecision_decisionOf {env : PolicyEnvironment} {input : DecisionInput}
    {result : PolicyResult} {bundle : ActivePolicyBundle} :
    bindsDecision (decisionOf env input result) input (env.hashInput input) bundle = true ↔
      env.data.runtime.policyVersionId = bundle.policyVersionId ∧
      env.data.runtime.bundleVersion = bundle.bundleVersion ∧
      env.data.runtime.bundleHashSha256 = bundle.bundleHashSha256 ∧
      env.data.runtime.decisionPath = bundle.entrypoint := by
  simp only [bindsDecision, decisionOf, decide_true, Bool.and_eq_true, Bool.true_and, and_assoc]
  exact and_congr decide_eq_true_iff (and_congr decide_eq_true_iff
    (and_congr decide_eq_true_iff decide_eq_true_iff))

/-- A decision is returned exactly when the services answer and the policy has a result. -/
theorem decide_eq_ok {env : PolicyEnvironment} {authentication : Authentication}
    {context : TenantContext} {state : RequestState} {eligibility : RoleActionRule}
    {action : PolicyAction} {request : PolicyRequest} {stepUp : Option StepUpInput}
    {evaluation : Evaluation} :
    decide env authentication context state eligibility action request stepUp = .ok evaluation ↔
      ∃ trust bundle result, Answers env context trust bundle ∧
        policyResult env.data (decisionInput authentication context state eligibility action
          request stepUp trust) = some result ∧
        request.requestedAt ≤ env.evaluatedAt ∧
        (trust.requiredOutcome = none ∨ trust.requiredOutcome = some result.outcome) ∧
        evaluation = ⟨decisionInput authentication context state eligibility action request stepUp
            trust,
          env.hashInput (decisionInput authentication context state eligibility action request
            stepUp trust), bundle,
          decisionOf env (decisionInput authentication context state eligibility action request
            stepUp trust) result⟩ := by
  simp only [decide, Checked.bind_eq_ok, Checked.requireSome_eq_ok, Checked.require_eq_ok,
    Checked.pure_eq_ok, exists_const]
  constructor
  · rintro ⟨trust, found, readAt, bound, bundle, lookedUp, active, reachable, answer, decided,
      binds, requested, required, ⟨⟩, fresh, rfl⟩
    unfold decision at decided
    split at decided
    · rename_i runtime
      obtain ⟨result, answered, formed⟩ := Option.map_eq_some_iff.mp decided
      have same : decisionOf env (decisionInput authentication context state eligibility action
          request stepUp trust) result = answer := formed
      subst same
      exact ⟨trust, bundle, result, ⟨found, readAt, bound, lookedUp, active, reachable, runtime,
        bindsDecision_decisionOf.mp binds, fresh⟩, answered, requested, required, rfl⟩
    · cases decided
  · rintro ⟨trust, bundle, result, answers, answered, requested, required, rfl⟩
    refine ⟨trust, answers.lookedUp, answers.readAt, answers.bound, bundle, answers.found,
      answers.active, answers.reachable, _, ?_, bindsDecision_decisionOf.mpr answers.policy,
      requested, required, (), answers.fresh, rfl⟩
    rw [decision, if_pos answers.runtime, answered]
    rfl

variable {PublicKey Signature : Type}

/-- The request was answered `STEP_UP`, as its recorded decision says. -/
def ProtectedRequest.AnsweredStepUp (r : ProtectedRequest) (before after : Database) : Prop :=
  withTenantContext r before = .ok (after, .recordedDenial) ∧
    ∃ row ∈ after.provenance,
      row.key = (r.authentication.tenantId, ⟨r.policyRequest.requestId.value⟩) ∧
      row.outcome = .stepUp

theorem enforceDecision_recordedDenial {r : ProtectedRequest} {state : RequestState}
    {evaluation : Evaluation} {before after : Database}
    (denied : enforceDecision r state evaluation before = .ok (after, .recordedDenial)) :
    after = before := by
  unfold enforceDecision at denied
  split at denied
  · simp only [Checked.bind_eq_ok, Checked.pure_eq_ok, Prod.mk.injEq] at denied
    have ⟨_, _, _, _, _, _, _, _, _, impossible⟩ := denied
    cases impossible
  · simp only [Checked.bind_eq_ok, Checked.pure_eq_ok, Prod.mk.injEq] at denied
    have ⟨_, _, _, impossible⟩ := denied
    cases impossible
  · simp only [Checked.pure_eq_ok, Prod.mk.injEq] at denied
    exact denied.1.symm
  · simp only [Checked.pure_eq_ok, Prod.mk.injEq] at denied
    exact denied.1.symm

/-- What a `STEP_UP` answer says about the request. -/
structure StepUpAnswer (r : ProtectedRequest) (inventory : Inventory) (context : TenantContext)
    (state : RequestState) (eligibility : RoleActionRule) (trust : TrustInput)
    (bundle : ActivePolicyBundle) (rule : ActionRule) : Prop where
  entered : r.call.enter inventory = .ok (context, state)
  eligible : evaluateAuthorizationMode context r.action = .ok eligibility
  answers : Answers r.environment context trust bundle
  reaches : ∀ state request stepUp, ReachesStepUp r.environment.data rule
    (decisionInput r.authentication context state eligibility r.action request stepUp trust)
  unforced : trust.requiredOutcome = none
  fresh : assertFresh state r.times.provenanceAt = .ok ()

theorem consumePresentedProof_inventory {r : ProtectedRequest} {state : RequestState}
    {before after : Database} {stepUp : Option StepUpInput}
    (consumed : consumePresentedProof r state before = .ok (after, stepUp)) :
    after.inventory = before.inventory := by
  unfold consumePresentedProof at consumed
  split at consumed
  · simp only [Checked.pure_eq_ok, Prod.mk.injEq] at consumed
    rw [consumed.1]
  · simp only [Checked.bind_eq_ok, Checked.pure_eq_ok, Prod.mk.injEq] at consumed
    have ⟨_, _, _, _, _, _, same, _⟩ := consumed
    rw [← same]

theorem answeredStepUp_cases {r : ProtectedRequest} {before after : Database}
    (answered : r.AnsweredStepUp before after) :
    after.inventory = before.inventory ∧ ∃ context state eligibility trust bundle rule,
      StepUpAnswer r before.inventory context state eligibility trust bundle rule := by
  obtain ⟨denied, row, member, key, outcome⟩ := answered
  rw [withTenantContext_eq] at denied
  simp only [authorizeProtectedOperation, Checked.bind_eq_ok, Checked.requireSome_eq_ok,
    Prod.exists] at denied
  obtain ⟨context, state, entered, eligibility, eligible, middle, stepUp, consumed, evaluation,
    decided, _, fresh, provenance, recorded, enforced⟩ := denied
  have same := enforceDecision_recordedDenial enforced
  subst same
  have inventory := consumePresentedProof_inventory consumed
  obtain ⟨trust, bundle, result, answers, answer, _, _, formed⟩ := decide_eq_ok.mp decided
  have stored : r.provenance state evaluation ∈ provenance :=
    (Table.mem_insertNew recorded _).mpr (Or.inr rfl)
  have mine : row = r.provenance state evaluation := Table.unique _ member stored key
  have demands : result.outcome = .stepUp := by
    rw [mine, ProtectedRequest.provenance, formed] at outcome
    exact outcome
  obtain ⟨rule, reaches⟩ := reachesStepUp_of_answer answer demands
  refine ⟨inventory, context, state, eligibility, trust, bundle, rule, ⟨entered, eligible, answers,
    fun _ _ _ => ?_, ?_, fresh⟩⟩
  · exact ⟨reaches.configuration, reaches.binding, reaches.identity, reaches.authority,
      reaches.trust, reaches.score, reaches.configured, reaches.sensitivity, reaches.role,
      reaches.minimum, reaches.required⟩
  · have usable := reaches.trust
    simp only [trustUsable, Bool.and_eq_true, decide_eq_true_eq] at usable
    exact usable.1.1.1.2

/-- What differs when a request is repeated with a proof. -/
structure Retry where
  requestId : RequestId
  requestedAt : Timestamp
  presentation : StepUpPresentation
  clock : Timestamp
  times : RequestTimes
  evaluatedAt : Timestamp

def ProtectedRequest.retried (r : ProtectedRequest) (retry : Retry) : ProtectedRequest :=
  { r with
    session := { r.session with clock := retry.clock }
    times := retry.times
    policyRequest := { r.policyRequest with
      requestId := retry.requestId
      requestedAt := retry.requestedAt
      stepUpPresentation := some retry.presentation }
    environment := { r.environment with evaluatedAt := retry.evaluatedAt } }

/-- The call at other readings of the clocks. -/
def ActorCall.at (call : ActorCall) (clock : Timestamp) (times : RequestTimes) : ActorCall :=
  { call with session := { call.session with clock := clock }, times := times }

/-- A challenge for the action, its verification and the repeated request succeed one after the
other, at some readings of the clocks. -/
def StepUpMet (verify : PublicKey → SigningPayload → Signature → Bool) (r : ProtectedRequest)
    (system : StepUpSystem PublicKey) : Prop :=
  ∃ (issueClock verifyClock : Timestamp) (issueTimes verifyTimes : RequestTimes)
    (factorId : StepUpFactorId) (random : ChallengeRandomness) (signature : Signature)
    (proofIdHashSha256 : Sha256Digest) (issued verified : StepUpSystem PublicKey)
    (challenge : StepUpChallenge) (proof : StepUpProof) (retry : Retry) (final : Database)
    (state : RequestState),
    issueChallenge (r.call.at issueClock issueTimes) r.action factorId random system =
      .ok (issued, challenge) ∧
    verifyChallenge verify (r.call.at verifyClock verifyTimes) challenge.challengeId signature
      proofIdHashSha256 issued = .ok (verified, proof) ∧
    retry.presentation = ⟨proof.proofIdHashSha256, proof.sessionIdHashSha256⟩ ∧
    withTenantContext (r.retried retry) verified.db = .ok (final, .passed state)

/-- An operation of the API, under policy data that was accepted for the tenant, was answered
`STEP_UP`, and the subject holds an active factor. -/
structure StepUpDemand (verify : PublicKey → SigningPayload → Signature → Bool)
    (value : JsonValue) (tenantId : ScriptString) (operation : ApiOperation) (r : ProtectedRequest)
    (before : Database) (system : StepUpSystem PublicKey) (factor : StepUpFactor PublicKey) :
    Prop where
  accepted : validateAdaptiveAuthorizationPolicyData value tenantId = .ok value
  tenant : identifierOf tenantId = r.authentication.tenantId
  configured : readConfiguration value = some r.environment.data.configuration
  action : r.action = operation.action
  sensitive : r.sensitive = operation.sensitive
  answered : r.AnsweredStepUp before system.db
  enrolled : factor ∈ system.factors
  holder : factor.tenantId = r.authentication.tenantId ∧
    factor.subjectId = r.authentication.subjectId
  active : factor.active = true
  signs : ∀ payload, ∃ signature, verify factor.publicKey payload signature = true

variable {verify : PublicKey → SigningPayload → Signature → Bool} {value : JsonValue}
  {tenantId : ScriptString} {operation : ApiOperation} {r : ProtectedRequest} {before : Database}
  {system : StepUpSystem PublicKey} {factor : StepUpFactor PublicKey}

/-- The tenant context is that of the authority row. -/
theorem enter_context {call : ActorCall} {inventory : Inventory} {context : TenantContext}
    {state : RequestState} (entered : call.enter inventory = .ok (context, state)) :
    ∃ authority, call.authority = some authority ∧
      resolveTenantContext call.authentication.tenantId call.authentication.subjectId authority =
        .ok context := by
  simp only [ActorCall.enter, Checked.bind_eq_ok, Checked.requireSome_eq_ok, Checked.pure_eq_ok,
    Prod.mk.injEq] at entered
  obtain ⟨_, _, authority, found, resolved, context_, validated, _, same, _⟩ := entered
  rw [← same]
  exact ⟨authority, found, context_⟩

theorem enter_same_context {left right : ActorCall} {first second : Inventory}
    {context other : TenantContext} {state state' : RequestState}
    (entered : left.enter first = .ok (context, state))
    (again : right.enter second = .ok (other, state'))
    (authentication : right.authentication = left.authentication)
    (authority : right.authority = left.authority) : other = context := by
  have ⟨row, found, resolved⟩ := enter_context entered
  have ⟨row', found', resolved'⟩ := enter_context again
  have same : row' = row := Option.some.inj (found'.symm.trans (authority.trans found))
  rw [authentication, same, resolved] at resolved'
  exact (Except.ok.inj resolved').symm

/-- A request that consumes no proof is answered `STEP_UP` again. -/
theorem retried_not_passed {inventory : Inventory} {context : TenantContext}
    {state passed : RequestState} {eligibility : RoleActionRule} {trust : TrustInput}
    {bundle : ActivePolicyBundle} {rule : ActionRule} {retry : Retry} {later final : Database}
    (insensitive : r.sensitive = false)
    (answer : StepUpAnswer r inventory context state eligibility trust bundle rule) :
    withTenantContext (r.retried retry) later ≠ .ok (final, .passed passed) := by
  intro passes
  rw [withTenantContext_eq] at passes
  simp only [authorizeProtectedOperation, Checked.bind_eq_ok, Prod.exists] at passes
  obtain ⟨context', state', entered, eligibility', eligible, middle, stepUp, consumed, evaluation,
    decided, _, _, _, _, enforced⟩ := passes
  have sameContext : context' = context := enter_same_context answer.entered entered rfl rfl
  subst sameContext
  have sameRule : eligibility' = eligibility := by
    have again : evaluateAuthorizationMode context' r.action = .ok eligibility' := eligible
    exact Except.ok.inj (again.symm.trans answer.eligible)
  subst sameRule
  have none_ : stepUp = none := by
    have unsent : (r.retried retry).sensitive = false := insensitive
    simp only [consumePresentedProof, unsent, Bool.false_eq_true, if_false, Checked.pure_eq_ok,
      Prod.mk.injEq] at consumed
    exact consumed.2.symm
  subst none_
  obtain ⟨trust', bundle', result, answers, answered, _, _, formed⟩ := decide_eq_ok.mp decided
  have sameTrust : trust' = trust :=
    Option.some.inj (answers.lookedUp.symm.trans answer.answers.lookedUp)
  subst sameTrust
  have reaches := answer.reaches state' (r.retried retry).policyRequest none
  have again : result = stepUpResult r.environment.data :=
    Option.some.inj (answered.symm.trans reaches.answer)
  have allowed := (enforceDecision_passed enforced).1
  rw [formed] at allowed
  have outcome : result.outcome = .allow := allowed
  rw [again] at outcome
  cases outcome

/-- Step-up calls leave the certificates as they were. -/
theorem issueChallenge_inventory {call : ActorCall} {action : PolicyAction}
    {factorId : StepUpFactorId} {random : ChallengeRandomness} {issued : StepUpSystem PublicKey}
    {challenge : StepUpChallenge}
    (succeeded : issueChallenge call action factorId random system = .ok (issued, challenge)) :
    issued.db.inventory = system.db.inventory := by
  simp only [issueChallenge, Checked.bind_eq_ok, Checked.pure_eq_ok, Prod.mk.injEq] at succeeded
  have ⟨_, _, _, _, _, _, _, _, _, _, same, _⟩ := succeeded
  rw [← same]
  rfl

theorem verifyChallenge_inventory {call : ActorCall} {challengeId : StepUpChallengeId}
    {signature : Signature} {proofIdHashSha256 : Sha256Digest} {verified : StepUpSystem PublicKey}
    {proof : StepUpProof}
    (succeeded : verifyChallenge verify call challengeId signature proofIdHashSha256 system =
      .ok (verified, proof)) : verified.db.inventory = system.db.inventory := by
  simp only [verifyChallenge, Checked.bind_eq_ok, Checked.pure_eq_ok, Prod.mk.injEq] at succeeded
  obtain ⟨_, _, _, _, _, _, _, _, _, _, _, _, _, _, _, _, same, _⟩ := succeeded
  rw [← same]
  rfl

theorem validateStatus_observed {session : Session} {checkedAt : Timestamp} {timedOut : Bool}
    {certificateId : CertificateId} {authentication : Authentication} {inventory : Inventory}
    {accepted : AcceptedStatus}
    (succeeds : validateStatus session checkedAt timedOut certificateId authentication inventory =
      .ok accepted) :
    session.actorIsActive = true ∧ accepted.statusObservedAt = session.clock := by
  simp only [validateStatus, lockCurrentActorCertificateStatus, Checked.bind_eq_ok,
    Checked.require_eq_ok, Checked.requireSome_eq_ok, Checked.pure_eq_ok, exists_const] at succeeds
  obtain ⟨_, _, _, _, ⟨active, _⟩, record, _, _, _, state⟩ := succeeds
  refine ⟨active, ?_⟩
  unfold acceptState at state
  split at state
  · cases state
  · cases state
  · cases state
  · simp only [Checked.bind_eq_ok, Checked.pure_eq_ok] at state
    obtain ⟨_, _, same⟩ := state
    rw [← same]

/-- A call that entered has an active actor, and its request state was observed at its clock. -/
theorem enter_observed {call : ActorCall} {inventory : Inventory} {context : TenantContext}
    {state : RequestState} (entered : call.enter inventory = .ok (context, state)) :
    call.session.actorIsActive = true ∧ state.observedAt = call.session.clock := by
  simp only [ActorCall.enter, Checked.bind_eq_ok, Checked.pure_eq_ok, Prod.mk.injEq] at entered
  obtain ⟨_, _, _, _, _, _, validated, valid, _, same⟩ := entered
  subst same
  simp only [validateRequestState, Checked.bind_eq_ok] at valid
  obtain ⟨_, _, rest⟩ := valid
  split at rest
  · cases rest
  · split at rest
    · cases rest
    · rename_i verdict accepted
      simp only [Checked.bind_eq_ok, Checked.pure_eq_ok] at rest
      obtain ⟨_, _, formed⟩ := rest
      have observed := validateStatus_observed accepted
      rw [← formed]
      exact observed
  · cases rest

theorem enter_bound {call : ActorCall} {inventory : Inventory} {context : TenantContext}
    {state : RequestState} (entered : call.enter inventory = .ok (context, state)) :
    context.tenantId = call.authentication.tenantId ∧
      context.subjectId = call.authentication.subjectId := by
  obtain ⟨authority, _, resolved⟩ := enter_context entered
  simp only [resolveTenantContext, Checked.bind_eq_ok, Checked.pure_eq_ok] at resolved
  obtain ⟨_, _, _, _, _, _, _, _, _, _, same⟩ := resolved
  rw [← same]
  exact ⟨rfl, rfl⟩

/-- A time at which the state is fresh and that no clock check of step-up refuses. -/
theorem exists_step_up_time {state : RequestState} {clock fresh : Timestamp}
    (observed : state.observedAt = clock) (valid : assertFresh state fresh = .ok ()) :
    ∃ time, clock - seconds 2 ≤ time ∧ time ≤ clock ∧ assertFresh state time = .ok () := by
  have ⟨least, most⟩ := Checked.require_eq_ok.mp valid
  refine ⟨min clock fresh, ?_, Int.min_le_left clock fresh, Checked.require_ok ⟨?_, ?_⟩⟩
  · rw [observed] at least
    exact Int.le_min.mpr ⟨by unfold seconds; omega, least⟩
  · rw [observed] at least ⊢
    exact Int.le_min.mpr ⟨by unfold futureClockSkew seconds; omega, least⟩
  · exact lt_of_le_of_lt (Int.min_le_right clock fresh) most

/-- The later readings of the application clock are all at one time. -/
def RequestTimes.settled (times : RequestTimes) (time : Timestamp) : RequestTimes :=
  { times with stepUpAt := time, consumptionAt := time, provenanceAt := time, operationAt := time }

theorem enter_settled (call : ActorCall) (time : Timestamp) (inventory : Inventory) :
    (call.at call.session.clock (call.times.settled time)).enter inventory =
      call.enter inventory := by
  unfold ActorCall.enter validateRequestState
  rfl

theorem liftSql_ok {α : Type} {step : Except SqlError α} {result : α}
    (succeeded : step = .ok result) : liftSql step = .ok result :=
  liftSql_eq_ok.mpr succeeded

/-- A time near the clock is within every bound of the step-up procedures. -/
theorem step_up_bounds {clock time : Int} (above : clock - seconds 2 ≤ time)
    (below : time ≤ clock) : time ≤ clock + seconds 2 ∧ clock - minutes 5 ≤ time ∧
      time < time + seconds 120 ∧ clock ≤ time + seconds 120 ∧ time < time + seconds 300 ∧
      time ≤ time + seconds 300 := by
  unfold minutes seconds at *
  omega

/-- A supported action can be put to an active factor at any time near the clock. -/
theorem issueStepUpChallenge_succeeds {session : Session} {store : StepUpStore PublicKey}
    {action : PolicyAction} {factorId : StepUpFactorId} {time : Timestamp}
    {random : ChallengeRandomness} {issue : ChallengeIssue}
    {challenges : Table StepUpChallenge StepUpChallenge.key}
    (created : createStepUpChallengeMaterial action factorId time random = .ok issue)
    (active : session.actorIsActive = true) (above : session.clock - seconds 2 ≤ time)
    (below : time ≤ session.clock) (enrolled : (store.factor? session factorId).isSome = true)
    (inserted : store.challenges.insertNew (issue.challenge session) = some challenges) :
    issueStepUpChallenge session issue store =
      .ok ({ store with challenges := challenges }, issue.challenge session) := by
  simp only [createStepUpChallengeMaterial, Checked.bind_eq_ok, Checked.require_eq_ok,
    Checked.pure_eq_ok, exists_const] at created
  obtain ⟨supported, same⟩ := created
  subst same
  have listed : action.text ∈ challengeActions := by
    cases action <;> revert supported <;> decide
  simp only [issueStepUpChallenge, Checked.bind_eq_ok, Checked.require_eq_ok,
    Checked.requireSome_eq_ok, Checked.pure_eq_ok, exists_const]
  obtain ⟨ahead, behind, positive, _⟩ := step_up_bounds above below
  exact ⟨⟨active, listed, ahead, behind, positive, le_refl _, enrolled⟩, challenges, inserted, rfl⟩

theorem factor?_of_mem {store : StepUpStore PublicKey} {session : Session}
    (enrolled : factor ∈ store.factors) (tenant : factor.tenantId = session.tenantId)
    (subject : factor.subjectId = session.subjectId) (active : factor.active = true) :
    store.factor? session factor.factorId = some factor := by
  have found := Table.get?_of_mem enrolled
  rw [StepUpFactor.key, tenant, subject] at found
  rw [StepUpStore.factor?, found, Option.filter_some, if_pos active]

/-- What becomes of a challenge that is answered at once. -/
theorem completeStepUpChallenge_succeeds {session : Session} {store : StepUpStore PublicKey}
    {challenge : StepUpChallenge} {time : Timestamp} {hash : Sha256Digest}
    {proofs : Table StepUpProof StepUpProof.key}
    {proofChallenges : Table ProofChallenge ProofChallenge.key}
    (found : store.challenges.get? (session.tenantId, challenge.challengeId) = some challenge)
    (subject : challenge.subjectId = session.subjectId) (issued : challenge.verifiedAt = none)
    (after : challenge.issuedAt ≤ time) (before : time ≤ challenge.expiresAt)
    (above : session.clock - seconds 2 ≤ time) (below : time ≤ session.clock)
    (unused : ∀ row ∈ store.proofChallenges.rows, row.challengeId ≠ challenge.challengeId)
    (inserted : store.proofs.insertNew
      ((createStepUpProofMaterial challenge.challengeId hash time).proof session challenge) =
        some proofs)
    (linked : store.proofChallenges.insertNew ⟨session.tenantId, hash, challenge.challengeId⟩ =
      some proofChallenges) :
    completeStepUpChallenge session (createStepUpProofMaterial challenge.challengeId hash time)
        store =
      .ok ({ store with
        challenges := store.challenges.upsert { challenge with verifiedAt := some time }
        proofChallenges := proofChallenges
        proofs := proofs },
        (createStepUpProofMaterial challenge.challengeId hash time).proof session challenge) := by
  have lookup : ((store.challenges.get? (session.tenantId, challenge.challengeId)).filter
      fun challenge => challenge.subjectId = session.subjectId) = some challenge := by
    rw [found, Option.filter_some, if_pos (decide_eq_true subject)]
  simp only [completeStepUpChallenge, Checked.bind_eq_ok, Checked.require_eq_ok,
    Checked.requireSome_eq_ok, Checked.pure_eq_ok, exists_const]
  obtain ⟨ahead, _, _, _, positive, _⟩ := step_up_bounds above below
  refine ⟨challenge, lookup, ⟨issued, after, before, ahead, positive, le_refl _⟩, proofs, inserted,
    ?_, proofChallenges, linked, rfl⟩
  rintro row member ⟨_, same⟩
  exact unused row member same

section Meeting

variable {inventory : Inventory} {context : TenantContext} {state : RequestState}
  {eligibility : RoleActionRule} {trust : TrustInput} {bundle : ActivePolicyBundle}
  {rule : ActionRule} {time : Timestamp}

/-- The call of a request, with all later clock readings at one time. -/
def ProtectedRequest.settledCall (r : ProtectedRequest) (time : Timestamp) : ActorCall :=
  r.call.at r.session.clock (r.times.settled time)

theorem enter_settledCall
    (answer : StepUpAnswer r inventory context state eligibility trust bundle rule)
    (same : system.db.inventory = inventory) :
    (r.settledCall time).enter system.db.inventory = .ok (context, state) := by
  rw [same]
  exact (enter_settled r.call time inventory).trans answer.entered

theorem issueChallenge_met
    (answer : StepUpAnswer r inventory context state eligibility trust bundle rule)
    (same : system.db.inventory = inventory) {factorId : StepUpFactorId}
    {random : ChallengeRandomness} {issue : ChallengeIssue}
    (created : createStepUpChallengeMaterial r.action factorId time random = .ok issue)
    (fresh : assertFresh state time = .ok ()) (above : r.session.clock - seconds 2 ≤ time)
    (below : time ≤ r.session.clock)
    (enrolled : (system.store.factor? r.actorSession factorId).isSome = true)
    {challenges : Table StepUpChallenge StepUpChallenge.key}
    (inserted : system.challenges.insertNew (issue.challenge r.actorSession) = some challenges) :
    issueChallenge (r.settledCall time) r.action factorId random system =
      .ok (system.withStore { system.store with challenges := challenges },
        issue.challenge r.actorSession) := by
  have active := (enter_observed answer.entered).1
  have issued : issueStepUpChallenge r.actorSession issue system.store =
      .ok ({ system.store with challenges := challenges }, issue.challenge r.actorSession) :=
    issueStepUpChallenge_succeeds created active above below enrolled inserted
  simp only [issueChallenge, Checked.bind_eq_ok, Checked.pure_eq_ok, Prod.exists]
  refine ⟨context, state, enter_settledCall answer same, eligibility, answer.eligible, issue, ?_,
    (), fresh, _, _, liftSql_ok issued, rfl⟩
  have lifted : createStepUpChallengeMaterial r.action factorId (r.settledCall time).times.stepUpAt
      random = .ok issue := created
  rw [lifted]
  rfl

theorem getStepUpChallenge_succeeds {session : Session} {store : StepUpStore PublicKey}
    {challenge : StepUpChallenge} (active : session.actorIsActive = true)
    (found : store.challenges.get? (session.tenantId, challenge.challengeId) = some challenge)
    (subject : challenge.subjectId = session.subjectId) (issued : challenge.verifiedAt = none)
    (unexpired : session.clock ≤ challenge.expiresAt)
    (enrolled : store.factor? session challenge.factorId = some factor) :
    getStepUpChallenge session challenge.challengeId store =
      .ok (some (challenge, factor.publicKey)) := by
  simp only [getStepUpChallenge, Checked.bind_eq_ok, Checked.require_eq_ok, Checked.pure_eq_ok,
    exists_const]
  refine ⟨active, ?_⟩
  rw [found, Option.filter_some, if_pos]
  · rw [Option.bind_eq_bind, Option.bind_some, enrolled]
    rfl
  · simp [subject, issued, unexpired]

theorem verifyChallenge_met
    (answer : StepUpAnswer r inventory context state eligibility trust bundle rule)
    (same : system.db.inventory = inventory) {challenge : StepUpChallenge} {signature : Signature}
    {payload : SigningPayload} {hash : Sha256Digest}
    (found : system.challenges.get? (r.authentication.tenantId, challenge.challengeId) =
      some challenge)
    (holder : challenge.tenantId = r.authentication.tenantId ∧
      challenge.subjectId = r.authentication.subjectId)
    (issued : challenge.verifiedAt = none) (issuedAt : challenge.issuedAt = time)
    (expiresAt : challenge.expiresAt = time + seconds 120)
    (enrolled : system.store.factor? r.actorSession challenge.factorId = some factor)
    (formed : createStepUpSigningPayload challenge = .ok payload)
    (signed : verify factor.publicKey payload signature = true)
    (fresh : assertFresh state time = .ok ()) (above : r.session.clock - seconds 2 ≤ time)
    (below : time ≤ r.session.clock)
    (unused : ∀ row ∈ system.proofChallenges.rows, row.challengeId ≠ challenge.challengeId)
    {proofs : Table StepUpProof StepUpProof.key}
    {proofChallenges : Table ProofChallenge ProofChallenge.key}
    (inserted : system.db.stepUpProofs.insertNew
      ((createStepUpProofMaterial challenge.challengeId hash time).proof r.actorSession challenge) =
        some proofs)
    (linked : system.proofChallenges.insertNew
      ⟨r.authentication.tenantId, hash, challenge.challengeId⟩ = some proofChallenges) :
    verifyChallenge verify (r.settledCall time) challenge.challengeId signature hash system =
      .ok (system.withStore { system.store with
        challenges := system.challenges.upsert { challenge with verifiedAt := some time }
        proofChallenges := proofChallenges
        proofs := proofs },
        (createStepUpProofMaterial challenge.challengeId hash time).proof r.actorSession
          challenge) := by
  have active := (enter_observed answer.entered).1
  have ⟨tenant, subject⟩ := enter_bound answer.entered
  have ⟨_, _, positive, unexpired, _, _⟩ := step_up_bounds above below
  have got : getStepUpChallenge r.actorSession challenge.challengeId system.store =
      .ok (some (challenge, factor.publicKey)) :=
    getStepUpChallenge_succeeds active found holder.2 issued (by rw [expiresAt]; exact unexpired)
      enrolled
  have completed : completeStepUpChallenge r.actorSession
      (createStepUpProofMaterial challenge.challengeId hash time) system.store = _ :=
    completeStepUpChallenge_succeeds found holder.2 issued (le_of_eq issuedAt)
      (by rw [expiresAt]; exact Int.le_of_lt positive) above below unused inserted linked
  simp only [verifyChallenge, Checked.bind_eq_ok, Checked.requireSome_eq_ok,
    Checked.require_eq_ok, Checked.pure_eq_ok, exists_const, Prod.exists]
  refine ⟨context, state, enter_settledCall answer same, (), fresh, _, liftSql_ok got, challenge,
    factor.publicKey, rfl, ⟨holder.1.trans tenant.symm, holder.2.trans subject.symm⟩, payload, ?_,
    (), fresh, _, _, liftSql_ok completed, rfl⟩
  rw [verifyStepUpChallengeSignature, formed]
  simp only [require, bind, Except.bind, signed, if_true]
  rfl

theorem stepUpProofValid_now
    (answer : StepUpAnswer r inventory context state eligibility trust bundle rule)
    {request : PolicyRequest} {proof : StepUpProof} (requested : request.requestedAt = time)
    (holder : proof.tenantId = r.authentication.tenantId ∧
      proof.subjectId = r.authentication.subjectId)
    (action : proof.action = r.action.text) (verified : proof.verifiedAt = time)
    (expires : time ≤ proof.expiresAt) :
    stepUpProofValid r.environment.data rule (decisionInput r.authentication context state
      eligibility r.action request (some (stepUpInput proof)) trust) = true := by
  have reaches := answer.reaches state request (some (stepUpInput proof))
  have ⟨tenant, subject⟩ := enter_bound answer.entered
  have age : (1 : ℚ) ≤ r.environment.data.configuration.stepUpMaximumAgeSeconds := by
    have valid := reaches.configuration
    simp only [configurationValid, Bool.and_eq_true, decide_eq_true_eq] at valid
    exact valid.1.1.2
  have young : (time : ℚ) - time ≤
      r.environment.data.configuration.stepUpMaximumAgeSeconds * 1000 := by
    rw [sub_self]
    positivity
  simp only [stepUpProofValid, decisionInput, stepUpInput, reaches.required, holder.1, holder.2,
    action, verified, requested, Bool.and_eq_true, decide_eq_true_eq]
  exact ⟨⟨⟨⟨⟨⟨trivial, tenant.symm⟩, subject.symm⟩, trivial⟩, le_refl _⟩, expires⟩, young⟩

theorem consumeStepUpProof_succeeds {session : Session} {p : ProofPresentation}
    {proofs : Table StepUpProof StepUpProof.key} {proof : StepUpProof}
    (active : session.actorIsActive = true) (below : p.consumedAt ≤ session.clock + seconds 2)
    (found : proofs.get? (session.tenantId, p.proofIdHashSha256) = some proof)
    (consumable : proof.consumable session p = true) :
    consumeStepUpProof session p proofs = .ok (proofs.replace { proof with
      consumedAt := some p.consumedAt
      consumedByRequestId := some p.requestId }, some proof) := by
  simp only [consumeStepUpProof, Checked.bind_eq_ok, Checked.require_eq_ok, exists_const]
  refine ⟨⟨active, below⟩, ?_⟩
  rw [found, Option.filter_some, if_pos consumable]
  rfl

theorem enforceDecision_allow {evaluation : Evaluation} {db : Database}
    (allowed : evaluation.decision.result.outcome = .allow)
    (operating : assertFresh state r.times.operationAt = .ok ()) :
    enforceDecision r state evaluation db = .ok (db, .passed state) := by
  simp only [enforceDecision, allowed, operating]
  rfl

/-- The repeated request consumes its proof and passes. -/
theorem retried_passes
    (answer : StepUpAnswer r inventory context state eligibility trust bundle rule)
    {later : Database} (same : later.inventory = inventory) (sensitive : r.sensitive = true)
    {proof : StepUpProof} {requestId : RequestId}
    (found : later.stepUpProofs.get? (r.authentication.tenantId, proof.proofIdHashSha256) =
      some proof)
    (holder : proof.tenantId = r.authentication.tenantId ∧
      proof.subjectId = r.authentication.subjectId)
    (action : proof.action = r.action.text) (verified : proof.verifiedAt = time)
    (expires : time ≤ proof.expiresAt) (unconsumed : proof.consumedAt = none)
    (fresh : assertFresh state time = .ok ()) (above : r.session.clock - seconds 2 ≤ time)
    (below : time ≤ r.session.clock)
    (unused : later.provenance.get? (r.authentication.tenantId, ⟨requestId.value⟩) = none) :
    ∃ final, withTenantContext (r.retried ⟨requestId, time,
        ⟨proof.proofIdHashSha256, proof.sessionIdHashSha256⟩, r.session.clock,
        r.times.settled time, time⟩) later = .ok (final, .passed state) := by
  have active := (enter_observed answer.entered).1
  have ⟨ahead, _⟩ := step_up_bounds above below
  let retry : Retry := ⟨requestId, time, ⟨proof.proofIdHashSha256, proof.sessionIdHashSha256⟩,
    r.session.clock, r.times.settled time, time⟩
  let request := (r.retried retry).policyRequest
  have entered : (r.retried retry).call.enter later.inventory = .ok (context, state) := by
    rw [same]
    exact (enter_settled r.call time inventory).trans answer.entered
  have consumable : proof.consumable r.actorSession
      ((r.retried retry).presentation ⟨proof.proofIdHashSha256, proof.sessionIdHashSha256⟩) =
        true := by
    simp only [StepUpProof.consumable, Bool.and_eq_true, decide_eq_true_eq]
    exact ⟨⟨⟨⟨⟨holder.2, rfl⟩, action⟩, unconsumed⟩, le_of_eq verified⟩, expires⟩
  let middle : Database := { later with
    stepUpProofs := later.stepUpProofs.replace { proof with
      consumedAt := some time, consumedByRequestId := some requestId } }
  have consumed : consumePresentedProof (r.retried retry) state later =
      .ok (middle, some (stepUpInput proof)) := by
    have presented : (if (r.retried retry).sensitive then
        (r.retried retry).policyRequest.stepUpPresentation else none) =
          some ⟨proof.proofIdHashSha256, proof.sessionIdHashSha256⟩ := if_pos sensitive
    have called : consumeStepUpProof r.actorSession
        ((r.retried retry).presentation ⟨proof.proofIdHashSha256, proof.sessionIdHashSha256⟩)
        later.stepUpProofs = .ok (middle.stepUpProofs, some proof) :=
      consumeStepUpProof_succeeds active ahead found consumable
    simp only [consumePresentedProof, presented, Checked.bind_eq_ok, Checked.requireSome_eq_ok,
      Checked.pure_eq_ok, Prod.exists]
    exact ⟨(), fresh, _, _, liftSql_ok called, proof, rfl, rfl⟩
  have reaches := answer.reaches state request (some (stepUpInput proof))
  have valid : stepUpProofValid r.environment.data rule (decisionInput r.authentication context
      state eligibility r.action request (some (stepUpInput proof)) trust) = true :=
    stepUpProofValid_now answer rfl holder action verified expires
  have answered := reaches.answer
  rw [valid, if_pos rfl] at answered
  have answers : Answers (r.retried retry).environment context trust bundle :=
    ⟨answer.answers.lookedUp, answer.answers.readAt, answer.answers.bound, answer.answers.found,
      answer.answers.active, answer.answers.reachable, answer.answers.runtime,
      answer.answers.policy, answer.answers.fresh⟩
  let input := decisionInput r.authentication context state eligibility r.action request
    (some (stepUpInput proof)) trust
  let evaluation : Evaluation := ⟨input, (r.retried retry).environment.hashInput input, bundle,
    decisionOf (r.retried retry).environment input allowResult⟩
  have decided : decide (r.retried retry).environment r.authentication context state eligibility
      r.action request (some (stepUpInput proof)) = .ok evaluation :=
    decide_eq_ok.mpr ⟨trust, bundle, allowResult, answers, answered, le_refl time,
      Or.inl answer.unforced, rfl⟩
  let row := (r.retried retry).provenance state evaluation
  have unrecorded : later.provenance.get? row.key = none := unused
  have recorded : later.provenance.insertNew row = some (later.provenance.insert row unrecorded) :=
    Table.insertNew_eq_some.mpr ⟨unrecorded, rfl⟩
  rw [withTenantContext_eq]
  simp only [authorizeProtectedOperation, Checked.bind_eq_ok, Checked.requireSome_eq_ok,
    Prod.exists]
  refine ⟨{ middle with provenance := later.provenance.insert row unrecorded }, context, state,
    entered, eligibility, answer.eligible, middle, some (stepUpInput proof), consumed, evaluation,
    decided, (), fresh, _, recorded, ?_⟩
  exact enforceDecision_allow rfl fresh

end Meeting

theorem exists_fresh_identifier {domain : Domain} (used : List (Identifier domain)) :
    ∃ identifier, identifier ∉ used := by
  have infinite : Infinite (Identifier domain) :=
    Infinite.of_injective Identifier.mk fun _ _ same => congrArg Identifier.value same
  have ⟨identifier, fresh⟩ := Infinite.exists_notMem_finset used.toFinset
  exact ⟨identifier, fun member => fresh (List.mem_toFinset.mpr member)⟩

/-- A demand for an action that challenges exist for can be met. -/
theorem StepUpDemand.met_of_supported
    (demand : StepUpDemand verify value tenantId operation r before system factor)
    (supported : r.action ∈ StepUpPolicy.supportedActions) : StepUpMet verify r system := by
  have ⟨inventory, context, state, eligibility, trust, bundle, rule, answer⟩ :=
    answeredStepUp_cases demand.answered
  have sensitive : r.sensitive = true := by
    rw [demand.sensitive]
    rw [demand.action] at supported
    revert supported
    cases operation <;> decide
  have ⟨_, observed⟩ := enter_observed answer.entered
  have ⟨time, above, below, fresh⟩ := exists_step_up_time observed answer.fresh
  -- the identifiers that the random sources choose
  have ⟨challengeId, newChallenge⟩ := exists_fresh_identifier
    (system.challenges.rows.map StepUpChallenge.challengeId ++
      system.proofChallenges.rows.map ProofChallenge.challengeId)
  have ⟨hash, newHash⟩ := exists_fresh_identifier
    (system.db.stepUpProofs.rows.map StepUpProof.proofIdHashSha256 ++
      system.proofChallenges.rows.map ProofChallenge.proofIdHashSha256)
  have ⟨decisionId, newDecision⟩ := exists_fresh_identifier
    (system.db.provenance.rows.map PolicyDecisionProvenance.decisionId)
  rw [List.mem_append, not_or] at newChallenge newHash
  -- the challenge
  let random : ChallengeRandomness := ⟨challengeId, 0, ⟨0⟩⟩
  let issue : ChallengeIssue := ⟨challengeId, factor.factorId, r.action.text, 0, ⟨0⟩, time,
    time + StepUpPolicy.challengeLifetime⟩
  let challenge := issue.challenge r.actorSession
  have created : createStepUpChallengeMaterial r.action factor.factorId time random =
      .ok issue := by
    rw [createStepUpChallengeMaterial, Checked.require_ok supported]
    rfl
  have enrolled : system.store.factor? r.actorSession factor.factorId = some factor :=
    factor?_of_mem demand.enrolled demand.holder.1 demand.holder.2 demand.active
  have unissued : system.challenges.get? challenge.key = none := by
    apply (Table.get?_eq_none _ _).mpr
    intro row member same
    apply newChallenge.1
    exact List.mem_map.mpr ⟨row, member, (Prod.mk.inj same).2⟩
  have inserted : system.challenges.insertNew challenge =
      some (system.challenges.insert challenge unissued) :=
    Table.insertNew_eq_some.mpr ⟨unissued, rfl⟩
  have issued := issueChallenge_met answer inventory created fresh above below
    (Option.isSome_iff_exists.mpr ⟨factor, enrolled⟩) inserted
  let middle := system.withStore
    { system.store with challenges := system.challenges.insert challenge unissued }
  -- its verification
  let proof := (createStepUpProofMaterial challengeId hash time).proof r.actorSession challenge
  have formed : ∃ payload, createStepUpSigningPayload challenge = .ok payload := by
    have listed : challenge.action ∈ StepUpPolicy.supportedActions.map PolicyAction.text :=
      List.mem_map_of_mem supported
    rw [createStepUpSigningPayload, Checked.require_ok listed]
    exact ⟨_, rfl⟩
  have ⟨payload, formed⟩ := formed
  have ⟨signature, signed⟩ := demand.signs payload
  have unproved : system.db.stepUpProofs.get? proof.key = none := by
    apply (Table.get?_eq_none _ _).mpr
    intro row member same
    apply newHash.1
    exact List.mem_map.mpr ⟨row, member, (Prod.mk.inj same).2⟩
  have unlinked : system.proofChallenges.get? (r.authentication.tenantId, hash) = none := by
    apply (Table.get?_eq_none _ _).mpr
    intro row member same
    apply newHash.2
    exact List.mem_map.mpr ⟨row, member, (Prod.mk.inj same).2⟩
  let link : ProofChallenge := ⟨r.authentication.tenantId, hash, challengeId⟩
  have linked : system.proofChallenges.insertNew link =
      some (system.proofChallenges.insert link unlinked) :=
    Table.insertNew_eq_some.mpr ⟨unlinked, rfl⟩
  have proved : system.db.stepUpProofs.insertNew proof =
      some (system.db.stepUpProofs.insert proof unproved) :=
    Table.insertNew_eq_some.mpr ⟨unproved, rfl⟩
  have present : middle.challenges.get? (r.authentication.tenantId, challengeId) =
      some challenge := by
    have lookup := Table.get?_insertNew inserted challenge.key
    rwa [if_pos rfl] at lookup
  have unused : ∀ row ∈ middle.proofChallenges.rows, row.challengeId ≠ challengeId := by
    intro row member same
    apply newChallenge.2
    exact List.mem_map.mpr ⟨row, member, same⟩
  let final := middle.withStore { middle.store with
    challenges := middle.challenges.upsert { challenge with verifiedAt := some time }
    proofChallenges := system.proofChallenges.insert link unlinked
    proofs := system.db.stepUpProofs.insert proof unproved }
  have verified : verifyChallenge verify (r.settledCall time) challenge.challengeId signature hash
      middle = .ok (final, proof) :=
    have unchanged : middle.db.inventory = before.inventory := inventory
    have holds : middle.store.factor? r.actorSession challenge.factorId = some factor := enrolled
    verifyChallenge_met answer unchanged present ⟨rfl, rfl⟩ rfl rfl rfl holds formed signed fresh
      above below unused proved linked
  -- the repeated request
  have stored : final.db.stepUpProofs.get? (r.authentication.tenantId, hash) = some proof := by
    have lookup := Table.get?_insertNew proved proof.key
    rwa [if_pos rfl] at lookup
  have unrecorded : final.db.provenance.get? (r.authentication.tenantId, ⟨decisionId.value⟩) =
      none := by
    apply (Table.get?_eq_none _ _).mpr
    intro row member same
    apply newDecision
    exact List.mem_map.mpr ⟨row, member, (Prod.mk.inj same).2⟩
  have ⟨_, _, _, _, _, unexpired⟩ := step_up_bounds above below
  have passes : ∃ last, withTenantContext (r.retried ⟨⟨decisionId.value⟩, time,
      ⟨proof.proofIdHashSha256, proof.sessionIdHashSha256⟩, r.session.clock,
      r.times.settled time, time⟩) final.db = .ok (last, .passed state) :=
    have unchanged : final.db.inventory = before.inventory := inventory
    retried_passes answer unchanged sensitive stored ⟨rfl, rfl⟩ rfl rfl unexpired rfl fresh above
      below unrecorded
  have ⟨last, passed⟩ := passes
  exact ⟨_, _, _, _, factor.factorId, random, signature, hash, middle, final, challenge, proof, _,
    last, state, issued, verified, rfl, passed⟩

/-- A demand for an action without challenges cannot be met. -/
theorem StepUpDemand.unmet_of_unsupported
    (demand : StepUpDemand verify value tenantId operation r before system factor)
    (unsupported : r.action ∉ StepUpPolicy.supportedActions) : ¬ StepUpMet verify r system := by
  rintro ⟨_, _, _, _, _, _, _, _, issued, verified, _, _, retry, final, state, _, _, _, passes⟩
  have insensitive : r.sensitive = false := by
    rw [demand.sensitive]
    rw [demand.action] at unsupported
    revert unsupported
    cases operation <;> decide
  have ⟨_, _, _, _, _, _, _, answer⟩ := answeredStepUp_cases demand.answered
  exact retried_not_passed insensitive answer passes

/-- A demand for step-up authentication can be met exactly when it concerns an action that
challenges are issued for. -/
theorem step_up_demand_met
    (demand : StepUpDemand verify value tenantId operation r before system factor) :
    StepUpMet verify r system ↔ r.action ∈ StepUpPolicy.supportedActions := by
  constructor
  · intro met
    by_contra unsupported
    exact demand.unmet_of_unsupported unsupported met
  · exact demand.met_of_supported


namespace StepUpScenario

/-! An administrator of a tenant whose policy may ask for step-up on the profile too. The keys of
the factors sign a payload with the pair of both. -/

def tenantText : ScriptString := script "tnt_00000000-0000-4000-8000-000000000001"

def tenant : TenantId := identifierOf tenantText

def number (n : ℕ) : JsonValue := .number (.ofRat n)

def text (value : String) : JsonValue := .string (script value)

def member (name : String) (value : JsonValue) : ScriptString × JsonValue := (script name, value)

def ruleValue (profileStepUp : Bool) (action : PolicyAction) : JsonValue :=
  let definition := actionDefinition action
  .object [member "action" (text action.text), member "minimumScore" (number 55),
    member "roles" (.array (definition.allowedRoles.map fun role => text (roleText role))),
    member "sensitivity" (text (sensitivityText definition.sensitivity)),
    member "stepUpRequired" (.bool (definition.stepUpRequired ||
      (profileStepUp && action = .profileRead)))]

def policyValue (profileStepUp : Bool) : JsonValue :=
  .object [member "tenant_trust_policy" (.object [member "authorization" (.object [
    member "configuration" (.object [
      member "actionRules" (.array (policyActions.map (ruleValue profileStepUp))),
      member "calibrationStatus" (text "unvalidated-prototype-defaults"),
      member "policyProfile" (text "slide-14-prototype-v1"),
      member "quarantineAction" (text "restrict-access"),
      member "schemaVersion" (text "1.0.0"),
      member "scoreBands" (.object [member "conditionalBelow" (number 80),
        member "maximum" (number 100), member "quarantineBelow" (number 50),
        member "restrictedBelow" (number 65)]),
      member "stepUpMaximumAgeSeconds" (number 300),
      member "tenantId" (.string tenantText)])])])]

def configuration (profileStepUp : Bool) : PolicyConfiguration where
  schemaVersion := "1.0.0"
  calibrationStatus := "unvalidated-prototype-defaults"
  tenantId := tenant
  scoreBands := ⟨50, 65, 80, 100⟩
  stepUpMaximumAgeSeconds := 300
  quarantineAction := "restrict-access"
  actionRules := policyActions.map fun action =>
    let definition := actionDefinition action
    ⟨action, 55, definition.allowedRoles, definition.sensitivity,
      definition.stepUpRequired || (profileStepUp && action = .profileRead)⟩

/-- Both documents pass the checks and are read as their configuration. -/
theorem documents_read : ∀ profileStepUp,
    (validateAdaptiveAuthorizationPolicyData (policyValue profileStepUp) tenantText).isOk = true ∧
      readConfiguration (policyValue profileStepUp) = some (configuration profileStepUp) := by
  decide +kernel

theorem accepted (profileStepUp : Bool) :
    validateAdaptiveAuthorizationPolicyData (policyValue profileStepUp) tenantText =
      .ok (policyValue profileStepUp) := by
  have valid := (documents_read profileStepUp).1
  cases accepts : validateAdaptiveAuthorizationPolicyData (policyValue profileStepUp)
      tenantText with
  | ok data => rw [(readConfiguration_of_accepted accepts).1]
  | error refusal =>
      rw [accepts] at valid
      cases valid

def certificate : Certificate := { Scenario.certificate with tenantId := tenant }

def database : Database :=
  { Database.empty with inventory := ⟨Table.empty.upsert certificate, Table.empty⟩ }

def enrolledFactor : StepUpFactor ℕ := ⟨tenant, certificate.subjectId, ⟨1⟩, 1, true⟩

def signedBy (publicKey : ℕ) (payload : SigningPayload) (signature : ℕ × SigningPayload) : Bool :=
  signature = (publicKey, payload)

def enrolled (db : Database) : StepUpSystem ℕ :=
  ⟨db, Table.empty.upsert enrolledFactor, Table.empty, Table.empty⟩

/-- An operation that the administrator requests without a proof. -/
def request (profileStepUp : Bool) (operation : ApiOperation) : ProtectedRequest :=
  { RequestScenario.profileRead certificate with
    authority := some ⟨.active, .active, .active, 1, 1, 1, [.tenantAdmin]⟩
    session := { Scenario.session 1 with tenantId := tenant }
    action := operation.action
    sensitive := operation.sensitive
    environment := { (RequestScenario.profileRead certificate).environment with
      trust := some { RequestScenario.trust with tenantId := tenant }
      bundle := some ⟨tenant, "access-control", true, decisionPath, 1, 1, ⟨1⟩⟩
      data := { RequestScenario.data with configuration := configuration profileStepUp } } }

def answersStepUp (r : ProtectedRequest) (db : Database) : Bool :=
  match withTenantContext r db with
  | .ok (after, .recordedDenial) => after.provenance.rows.any fun row =>
      row.key = (r.authentication.tenantId, ⟨r.policyRequest.requestId.value⟩) &&
        row.outcome = .stepUp
  | _ => false

theorem answered_of_answersStepUp {r : ProtectedRequest} {db : Database}
    (answers : answersStepUp r db = true) : ∃ after, r.AnsweredStepUp db after := by
  unfold answersStepUp at answers
  split at answers
  · rename_i after answered
    have ⟨row, stored, same⟩ := List.any_eq_true.mp answers
    have ⟨key, outcome⟩ := Bool.and_eq_true_iff.mp same
    exact ⟨after, answered, row, stored, decide_eq_true_iff.mp key,
      decide_eq_true_iff.mp outcome⟩
  · cases answers

theorem demand {profileStepUp : Bool} {operation : ApiOperation}
    (answers : answersStepUp (request profileStepUp operation) database = true) :
    ∃ after, StepUpDemand signedBy (policyValue profileStepUp) tenantText operation
      (request profileStepUp operation) database (enrolled after) enrolledFactor := by
  have ⟨after, answered⟩ := answered_of_answersStepUp answers
  exact ⟨after, {
    accepted := accepted profileStepUp
    tenant := rfl
    configured := (documents_read profileStepUp).2
    action := rfl
    sensitive := rfl
    answered := answered
    enrolled := List.mem_singleton_self enrolledFactor
    holder := ⟨rfl, rfl⟩
    active := rfl
    signs := fun payload => ⟨(1, payload), decide_eq_true_iff.mpr rfl⟩ }⟩

/-- The export under the one document and the profile under the other ask for step-up. -/
theorem operations_answered :
    answersStepUp (request false .exportRecords) database = true ∧
      answersStepUp (request true .getProfile) database = true := by
  decide +kernel

end StepUpScenario

open StepUpScenario in
theorem step_up_demand_met_export : ∃ after,
    StepUpMet signedBy (request false .exportRecords) (enrolled after) ∧
      (request false .exportRecords).action ∈ StepUpPolicy.supportedActions := by
  have ⟨after, demanded⟩ := demand operations_answered.1
  have listed : (request false .exportRecords).action ∈ StepUpPolicy.supportedActions := by
    decide
  exact ⟨after, (step_up_demand_met demanded).mpr listed, listed⟩

open StepUpScenario in
/-- Accepted policy data asks for step-up on the profile, for which no challenge is issued. -/
theorem profile_step_up_unmet :
    ¬ ∀ (value : JsonValue) (tenantId : ScriptString) (operation : ApiOperation)
        (r : ProtectedRequest) (before : Database) (system : StepUpSystem ℕ)
        (factor : StepUpFactor ℕ),
        StepUpDemand signedBy value tenantId operation r before system factor →
          StepUpMet signedBy r system := by
  intro meets
  have ⟨after, demanded⟩ := demand operations_answered.2
  have met := meets _ _ _ _ _ _ _ demanded
  exact demanded.unmet_of_unsupported (by decide) met

end TenantTrust.Api
