import TenantTrust.Api.ProtectedOperation
import TenantTrust.Orchestration.RenewalBlock
import TenantTrust.Policy.AdaptivePolicyData

/-! Protected requests interleaved with the security-action queue. A request reads the
certificate inventory and never a posture row, so a revocation keeps its own certificate out
for good, and a suspension alone keeps nobody out. -/

namespace TenantTrust.Api

open Library Identity Audit Policy Orchestration

inductive SystemOp where
  | queue (op : QueueOp)
  | request (r : ProtectedRequest)

inductive SystemReply where
  | queue (reply : QueueReply)
  | request (outcome : ProtectedOutcome)

def applySystem : Transaction Database SystemOp SystemReply ApiError
  | .queue op, db => do
      let (db, reply) ← liftSql (applyQueue op db)
      return (db, .queue reply)
  | .request r, db => do
      let (db, outcome) ← withTenantContext r db
      return (db, .request outcome)

abbrev runSystem : Database → List SystemOp → Database := Transaction.run applySystem

theorem liftSql_eq_ok {α : Type} {step : Except SqlError α} {value : α} :
    liftSql step = .ok value ↔ step = .ok value := by
  cases step with
  | error failure => simp [liftSql]
  | ok found => simp [liftSql]

/-- The operation passes only on an `ALLOW` decision and with the state it was given. -/
theorem enforceDecision_passed {r : ProtectedRequest} {given passed : RequestState}
    {evaluation : Evaluation} {before after : Database}
    (passes : enforceDecision r given evaluation before = .ok (after, .passed passed)) :
    evaluation.decision.result.outcome = .allow ∧ given = passed := by
  unfold enforceDecision at passes
  split at passes
  · simp only [Checked.bind_eq_ok, Checked.pure_eq_ok, Prod.mk.injEq] at passes
    obtain ⟨_, _, _, _, _, _, _, _, _, impossible⟩ := passes
    cases impossible
  · rename_i outcome
    simp only [Checked.bind_eq_ok, Checked.pure_eq_ok, Prod.mk.injEq,
      ProtectedOutcome.passed.injEq] at passes
    obtain ⟨_, _, _, same⟩ := passes
    exact ⟨outcome, same⟩
  · simp only [Checked.pure_eq_ok, Prod.mk.injEq] at passes
    cases passes.2
  · simp only [Checked.pure_eq_ok, Prod.mk.injEq] at passes
    cases passes.2

/-- A request that was let through names an active certificate of its tenant. -/
theorem withTenantContext_active {r : ProtectedRequest} {before after : Database}
    {state : RequestState} (passes : withTenantContext r before = .ok (after, .passed state)) :
    ∃ record, before.inventory.certificate? r.authentication.tenantId state.certificateId =
      some record ∧ record.state = .active := by
  simp only [withTenantContext, authorizeProtectedOperation, Checked.bind_eq_ok] at passes
  obtain ⟨_, _, authority, _, context, _, validated, valid, eligibility, _, ⟨middle, stepUp⟩, _,
    evaluation, _, _, _, provenance, _, passes⟩ := passes
  rw [← (enforceDecision_passed passes).2]
  exact validateRequestState_active valid

theorem consumePresentedProof_ops {r : ProtectedRequest} {state : RequestState}
    {before after : Database} {stepUp : Option StepUpInput}
    (succeeds : consumePresentedProof r state before = .ok (after, stepUp)) :
    ∃ ops, after = runQueue before ops := by
  unfold consumePresentedProof at succeeds
  split at succeeds
  · simp only [Checked.pure_eq_ok, Prod.mk.injEq] at succeeds
    exact ⟨[], succeeds.1.symm⟩
  · rename_i presented _
    simp only [Checked.bind_eq_ok, Checked.requireSome_eq_ok, Checked.pure_eq_ok,
      Prod.mk.injEq, liftSql_eq_ok] at succeeds
    obtain ⟨_, _, ⟨proofs, consumed⟩, called, proof, _, rfl, _⟩ := succeeds
    have applied : applyQueue (.consumeStepUp r.actorSession (r.presentation presented)) before =
        .ok ({ before with stepUpProofs := proofs }, .stepUp consumed) := by
      simp only [applyQueue, Checked.bind_eq_ok, Checked.pure_eq_ok]
      exact ⟨_, called, rfl⟩
    exact ⟨[_], (Transaction.commit_ok applied).symm⟩

theorem enforceDecision_ops {r : ProtectedRequest} {state : RequestState}
    {evaluation : Evaluation} {before after : Database} {outcome : ProtectedOutcome}
    (succeeds : enforceDecision r state evaluation before = .ok (after, outcome)) :
    ∃ ops, after = runQueue before ops := by
  unfold enforceDecision at succeeds
  split at succeeds
  · simp only [Checked.bind_eq_ok, Checked.requireSome_eq_ok, Checked.pure_eq_ok,
      Prod.mk.injEq, liftSql_eq_ok] at succeeds
    obtain ⟨_, _, actionType, _, trustTransitionId, _, ⟨middle, row⟩, called, rfl, _⟩ := succeeds
    have applied : applyQueue (.requestQuarantine r.actorSession
        (r.quarantine state evaluation actionType trustTransitionId)) before =
        .ok (middle, .request row) := by
      simp only [applyQueue, Checked.bind_eq_ok, Checked.pure_eq_ok]
      exact ⟨_, called, rfl⟩
    exact ⟨[_], (Transaction.commit_ok applied).symm⟩
  · simp only [Checked.bind_eq_ok, Checked.pure_eq_ok, Prod.mk.injEq] at succeeds
    obtain ⟨_, _, rfl, _⟩ := succeeds
    exact ⟨[], rfl⟩
  · simp only [Checked.pure_eq_ok, Prod.mk.injEq] at succeeds
    exact ⟨[], succeeds.1.symm⟩
  · simp only [Checked.pure_eq_ok, Prod.mk.injEq] at succeeds
    exact ⟨[], succeeds.1.symm⟩

/-- Every write of a committed request is an operation of the queue. -/
theorem withTenantContext_ops {r : ProtectedRequest} {before after : Database}
    {outcome : ProtectedOutcome} (succeeds : withTenantContext r before = .ok (after, outcome)) :
    ∃ ops, after = runQueue before ops := by
  simp only [withTenantContext, authorizeProtectedOperation, Checked.bind_eq_ok,
    Checked.requireSome_eq_ok] at succeeds
  obtain ⟨_, _, authority, _, context, _, state, _, eligibility, _, ⟨middle, stepUp⟩, consumed,
    evaluation, _, _, _, provenance, recorded, enforced⟩ := succeeds
  obtain ⟨consumption, rfl⟩ := consumePresentedProof_ops consumed
  obtain ⟨enforcement, rfl⟩ := enforceDecision_ops enforced
  have applied : applyQueue (.recordProvenance (r.provenance state evaluation))
      (runQueue before consumption) =
      .ok ({ runQueue before consumption with provenance := provenance }, .recorded) := by
    simp only [applyQueue, Checked.bind_eq_ok, Checked.requireSome_eq_ok, Checked.pure_eq_ok]
    exact ⟨_, recorded, rfl⟩
  refine ⟨consumption ++ .recordProvenance (r.provenance state evaluation) :: enforcement, ?_⟩
  rw [runQueue_append]
  exact congrArg (fun db => runQueue db enforcement) (Transaction.commit_ok applied).symm

/-- A run of the whole system is a run of the queue with the requests' writes in it. -/
theorem runSystem_queue (start : Database) (ops : List SystemOp) :
    ∃ queued, runSystem start ops = runQueue start queued := by
  induction ops generalizing start with
  | nil => exact ⟨[], rfl⟩
  | cons op ops ih =>
      have step : ∃ queued, Transaction.commit applySystem start op = runQueue start queued := by
        rcases Transaction.commit_cases applySystem start op with aborted | ⟨reply, committed⟩
        · exact ⟨[], aborted⟩
        · cases op with
          | queue op =>
              simp only [applySystem, Checked.bind_eq_ok, Checked.pure_eq_ok, Prod.mk.injEq,
                liftSql_eq_ok] at committed
              obtain ⟨⟨next, queueReply⟩, called, same, _⟩ := committed
              rw [← same]
              exact ⟨[op], (Transaction.commit_ok called).symm⟩
          | request r =>
              simp only [applySystem, Checked.bind_eq_ok, Checked.pure_eq_ok,
                Prod.mk.injEq] at committed
              obtain ⟨⟨next, outcome⟩, called, same, _⟩ := committed
              rw [← same]
              exact withTenantContext_ops called
      obtain ⟨front, same⟩ := step
      obtain ⟨back, rest⟩ := ih (Transaction.commit applySystem start op)
      refine ⟨front ++ back, ?_⟩
      rw [runQueue_append, ← same]
      exact rest

theorem inventoryRevoked_system {start : Database} {tenantId : TenantId}
    {certificateId : CertificateId}
    (revoked : inventoryRevoked start.inventory tenantId certificateId) (ops : List SystemOp) :
    inventoryRevoked (runSystem start ops).inventory tenantId certificateId := by
  obtain ⟨queued, same⟩ := runSystem_queue start ops
  rw [same]
  exact inventoryRevoked_run revoked queued

/-- Once a revocation has succeeded, no request of the tenant is let through on that
certificate, whatever happens afterwards and whatever the trust and the policy say. -/
theorem revoked_certificate_never_passes {start : Database} (fresh : start.Fresh)
    (ops : List SystemOp) {action : SecurityAction}
    (member : action ∈ (runSystem start ops).actions)
    (revokes : action.actionType = .revokeCertificate)
    (done : action.execution.status = .succeeded) (later : List SystemOp) (r : ProtectedRequest)
    (tenant : r.authentication.tenantId = action.target.tenantId) :
    ¬ ∃ after state, withTenantContext r (runSystem start (ops ++ later)) =
        .ok (after, .passed state) ∧ state.certificateId = action.target.certificateId := by
  intro passes
  obtain ⟨after, state, passed, certificate⟩ := passes
  have atSuccess : inventoryRevoked (runSystem start ops).inventory action.target.tenantId
      action.target.certificateId := by
    obtain ⟨queued, same⟩ := runSystem_queue start ops
    rw [same] at member ⊢
    exact revoked_of_success fresh queued member revokes done
  have now := inventoryRevoked_system atSuccess later
  rw [runSystem, ← Transaction.run_append] at now
  obtain ⟨record, found, active⟩ := withTenantContext_active passed
  obtain ⟨revokedRecord, revokedMember, key, state⟩ := inventoryRevoked_iff.mp now
  rw [tenant, certificate] at found
  have same : record = revokedRecord :=
    Table.unique _ (Table.get?_mem found) revokedMember ((Table.get?_key found).trans key.symm)
  rw [same, state] at active
  cases active

namespace RequestScenario

/-! The member of the queue scenario reads its profile with fresh and high trust. -/

def presented (certificate : Certificate) : Authentication where
  tenantId := certificate.tenantId
  subjectId := certificate.subjectId
  authenticationDigest := certificate.fingerprintSha256
  certificate := {
    profileId := certificate.profileId
    issuerId := certificate.issuerId
    serialNumber := certificate.serialNumber
    fingerprintSha256 := certificate.fingerprintSha256
    publicKeySha256 := ⟨1⟩
    notBefore := certificate.notBefore
    notAfter := certificate.notAfter }

def data : PolicyData where
  configuration := {
    schemaVersion := "1.0.0"
    calibrationStatus := "unvalidated-prototype-defaults"
    tenantId := Scenario.target.tenantId
    scoreBands := ⟨50, 65, 80, 100⟩
    stepUpMaximumAgeSeconds := 300
    quarantineAction := "restrict-access"
    actionRules := Policy.policyActions.map fun action =>
      let definition := actionDefinition action
      ⟨action, 55, definition.allowedRoles, definition.sensitivity, definition.stepUpRequired⟩ }
  runtime := ⟨1, 1, ⟨1⟩, decisionPath⟩

def trust : TrustInput where
  tenantId := Scenario.target.tenantId
  subjectId := Scenario.target.subjectId
  state := .fresh
  usableForPolicy := true
  requiredOutcome := none
  reasonCode := none
  policyScore := some 90
  policyBand := some .high
  lastKnownScore := some 90
  lastKnownBand := some .high
  ageSeconds := some 0
  staleAfterSeconds := some 300
  transitionId := some ⟨1⟩
  updateVersion := some 1
  configurationVersion := some 1

def profileRead (certificate : Certificate) : ProtectedRequest where
  authentication := presented certificate
  authority := some ⟨.active, .active, .active, 1, 1, 1, [.tenantMember]⟩
  session := Scenario.session 1
  times := ⟨0, 0, 0, 0, 0, 0, 0⟩
  statusTimedOut := false
  action := .profileRead
  sensitive := false
  policyRequest := {
    requestId := ⟨9⟩
    correlationId := ⟨9⟩
    requestedAt := 0
    method := .get
    routeTemplate := "/v1/profile"
    sourceNetworkZone := .tenantNetwork
    resourceIdHashSha256 := ⟨1⟩
    ownerSubjectId := some Scenario.target.subjectId
    stepUpPresentation := none }
  securityActionId := ⟨9⟩
  environment := {
    trust := some trust
    trustReadAt := 0
    bundle := some ⟨Scenario.target.tenantId, "access-control", true, decisionPath, 1, 1, ⟨1⟩⟩
    data := data
    reachable := true
    evaluatedAt := 0
    decidedAt := 0
    hashInput := fun _ => ⟨1⟩ }

def passedState (certificateId : CertificateId) : RequestState where
  certificateId := certificateId
  certificateStatusVersion := 1
  authorityVersions := ⟨1, 1, 1⟩
  observedAt := 0
  checkedAt := 0
  validUntil := 5000

/-- A second certificate of the member, issued after the revocation of the first. -/
def replacementRequest : CertificateRequest :=
  { Scenario.renewalRequest with notBefore := 0, issuedAt := 0, notAfter := 1000000 }

def replacement : QueueOp := .certificates (.issue (Scenario.session 1) replacementRequest)

def queued (ops : List QueueOp) : List SystemOp := ops.map .queue

end RequestScenario

open RequestScenario in
theorem revoked_member_is_refused :
    ¬ ∃ after state,
      withTenantContext (profileRead Scenario.certificate)
        (runSystem Scenario.deployment (queued Scenario.revoked ++ [])) =
          .ok (after, .passed state) ∧ state.certificateId = Scenario.target.certificateId := by
  have done : ∃ action ∈ (runSystem Scenario.deployment (queued Scenario.revoked)).actions,
      action.actionType = .revokeCertificate ∧ action.execution.status = .succeeded ∧
        action.target = Scenario.target := by decide
  obtain ⟨action, member, revokes, succeeded, target⟩ := done
  have never := revoked_certificate_never_passes Scenario.deployment_fresh
    (queued Scenario.revoked) member revokes succeeded [] (profileRead Scenario.certificate)
    (by rw [target]; rfl)
  rw [target] at never
  exact never

open RequestScenario in
/-- The suspended member is let through on its certificate, and after a revocation on another
certificate, while the posture is suspended. -/
theorem suspended_member_passes :
    ((∃ state ∈ (runSystem Scenario.deployment (queued Scenario.suspended)).states,
        state.target = Scenario.target ∧ state.posture.access = .suspended) ∧
      (withTenantContext (profileRead Scenario.certificate)
          (runSystem Scenario.deployment (queued Scenario.suspended))).map Prod.snd =
        .ok (.passed (passedState Scenario.certificate.certificateId))) ∧
    ((∃ state ∈ (runSystem Scenario.deployment
          (queued (Scenario.revoked ++ [replacement]))).states,
        state.target = Scenario.target ∧ state.posture.access = .suspended) ∧
      (withTenantContext (profileRead (replacementRequest.row (Scenario.session 1) none))
          (runSystem Scenario.deployment (queued (Scenario.revoked ++ [replacement])))).map
            Prod.snd =
        .ok (.passed (passedState replacementRequest.certificateId))) := by
  refine ⟨⟨by decide, ?_⟩, by decide, ?_⟩
  · decide +kernel
  · decide +kernel

end TenantTrust.Api
