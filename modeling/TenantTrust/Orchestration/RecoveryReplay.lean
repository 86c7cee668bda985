import TenantTrust.Orchestration.GovernedRecovery
import TenantTrust.Orchestration.RecoverySnapshot
import TenantTrust.Orchestration.Surroundings

/-! Repeating an accepted recovery request while the queue and the trust engine go on. -/

namespace TenantTrust.Orchestration

open Library Identity Trust Audit

/-- The context is that of an administrator and both queries run in its session. -/
structure RecoveryCall.Valid (call : RecoveryCall) : Prop where
  role : .tenantAdmin ∈ call.context.roles
  loading : call.loading.tenantId = call.context.tenantId ∧ call.loading.actorIsTenantAdmin
  authorizing : call.authorizing.tenantId = call.context.tenantId ∧
    call.authorizing.subjectId = call.context.subjectId

theorem getSecurityRecoveryContext_spec {session : Session} {subjectId : SubjectId}
    {certificateId : CertificateId} {db : Database} {loaded : RecoveryContext}
    (found : getSecurityRecoveryContext session subjectId certificateId db = .ok (some loaded)) :
    ∃ state transition,
      db.states.get? ⟨session.tenantId, subjectId, certificateId⟩ = some state ∧
      currentTransition? db session.tenantId subjectId = some transition ∧
      loaded.stateVersion = state.stateVersion ∧
      loaded.trustTransitionId = transition.transitionId := by
  simp only [getSecurityRecoveryContext, Checked.bind_eq_ok, Checked.require_eq_ok,
    exists_const] at found
  rcases found with ⟨_, found⟩
  split at found
  · rename_i state transition stateFound current
    refine ⟨state, transition, stateFound, current, ?_⟩
    split at found
    · simp only [Checked.bind_eq_ok, Checked.pure_eq_ok, Option.some.injEq] at found
      rcases found with ⟨_, _, _, _, rfl⟩
      exact ⟨rfl, rfl⟩
    · simp only [Checked.bind_eq_ok, Checked.pure_eq_ok, Option.some.injEq] at found
      rcases found with ⟨_, _, _, _, rfl⟩
      exact ⟨rfl, rfl⟩
  · simp [Checked.pure_eq_ok] at found

/-- The context depends on the posture row and the current transition only. -/
theorem getSecurityRecoveryContext_congr {session later : Session} {subjectId : SubjectId}
    {certificateId : CertificateId} {before after : Database}
    (tenant : later.tenantId = session.tenantId)
    (admin : later.actorIsTenantAdmin = session.actorIsTenantAdmin)
    (state : after.states.get? ⟨session.tenantId, subjectId, certificateId⟩ =
      before.states.get? ⟨session.tenantId, subjectId, certificateId⟩)
    (transition : currentTransition? after session.tenantId subjectId =
      currentTransition? before session.tenantId subjectId) :
    getSecurityRecoveryContext later subjectId certificateId after =
      getSecurityRecoveryContext session subjectId certificateId before := by
  unfold getSecurityRecoveryContext
  simp only [tenant, admin, state, transition]

theorem currentTransition?_spec {db : Database} {tenantId : TenantId} {subjectId : SubjectId}
    {transition : TrustTransition}
    (current : currentTransition? db tenantId subjectId = some transition) :
    db.transitions.get? (tenantId, transition.transitionId) = some transition := by
  unfold currentTransition? at current
  rcases Option.bind_eq_some_iff.mp current with ⟨pointer, pointed, found⟩
  have tenant : pointer.tenantId = tenantId := congrArg Prod.fst (Table.get?_key pointed)
  have named : transition.transitionId = pointer.transitionId :=
    congrArg Prod.snd (Table.get?_key found)
  rw [named, ← tenant]
  exact found

/-- The posture version and the current transition of the target are what they were. -/
structure Unmoved (target : Target) (before after : Database) : Prop where
  stateVersion : (after.states.get? target).map SubjectSecurityState.stateVersion =
    (before.states.get? target).map SubjectSecurityState.stateVersion
  transition :
    (currentTransition? after target.tenantId target.subjectId).map TrustTransition.transitionId =
      (currentTransition? before target.tenantId target.subjectId).map TrustTransition.transitionId

/-- A posture row only changes under a new version. -/
theorem Unmoved.state {target : Target} {db : Database} {ops : List QueueOp}
    {state : SubjectSecurityState} (unmoved : Unmoved target db (runQueue db ops))
    (found : db.states.get? target = some state) :
    (runQueue db ops).states.get? target = some state := by
  have persists := (runQueue_effects db ops).state_persists found
  rcases persists with ⟨new, newFound, continues⟩
  have version := unmoved.stateVersion
  rw [newFound, found] at version
  rw [newFound, continues.same (Option.some.inj version)]

/-- A recorded transition never changes. -/
theorem Unmoved.current {target : Target} {db : Database} {ops : List QueueOp}
    {transition : TrustTransition} (unmoved : Unmoved target db (runQueue db ops))
    (current : currentTransition? db target.tenantId target.subjectId = some transition) :
    currentTransition? (runQueue db ops) target.tenantId target.subjectId = some transition := by
  have same := unmoved.transition
  rw [current, Option.map_some] at same
  rcases Option.map_eq_some_iff.mp same with ⟨new, newCurrent, named⟩
  have kept := (runQueue_grows db ops).transitions _ _ (currentTransition?_spec current)
  have found := currentTransition?_spec newCurrent
  rw [named, kept] at found
  rw [newCurrent, ← Option.some.inj found]

theorem Effect.authorization_stays {before after : Database} (effect : Effect before after)
    {p : RecoveryAuthorization → Bool} {authorization : RecoveryAuthorization}
    (found : before.authorizations.rows.find? p = some authorization) :
    after.authorizations.rows.find? p = some authorization := by
  rcases effect.authorizations_cases with same | ⟨row, inserted, _⟩
  · rw [same, found]
  · rw [Table.insertNew_rows inserted, List.find?_append, found]
    rfl

theorem runQueue_authorization_stays {db : Database} (ops : List QueueOp)
    {p : RecoveryAuthorization → Bool} {authorization : RecoveryAuthorization}
    (found : db.authorizations.rows.find? p = some authorization) :
    (runQueue db ops).authorizations.rows.find? p = some authorization :=
  run_invariant (fun now => now.authorizations.rows.find? p = some authorization)
    (fun _ _ holds effect => effect.authorization_stays holds) db ops found

/-- The record that an idempotency key of an actor addresses. -/
def authorizedUnder (tenantId : TenantId) (subjectId : SubjectId) (key : IdempotencyKey)
    (existing : RecoveryAuthorization) : Bool :=
  existing.target.tenantId = tenantId && existing.authorizedBySubjectId = subjectId &&
    existing.idempotencyKey = key

/-- After an accepted request its record is the one under its key, and repeats it. -/
theorem authorizeSecurityRecovery_found {session : Session} {p : RecoveryRequest}
    {before after : Database} {row : RecoveryAuthorization}
    (succeeds : authorizeSecurityRecovery session p before = .ok (after, row)) :
    after.authorizations.rows.find?
        (authorizedUnder session.tenantId session.subjectId p.idempotencyKey) = some row ∧
      p.repeats row := by
  unfold authorizeSecurityRecovery at succeeds
  split at succeeds
  · rename_i existing found
    simp only [Checked.bind_eq_ok, Checked.require_eq_ok, Checked.pure_eq_ok, exists_const,
      Prod.mk.injEq] at succeeds
    rcases succeeds with ⟨repeats, rfl, rfl⟩
    exact ⟨found, repeats⟩
  · rename_i absent
    rcases authorizeNewRecovery_cases succeeds with
      ⟨state, transition, proofs, action, middle, authorizations, granted, enqueued, rfl,
        unique, inserted, rfl⟩
    have same := (enqueueSecurityActionInternal_effects enqueued).2.2.2.1
    have fresh : middle.authorizations.rows.find?
        (authorizedUnder session.tenantId session.subjectId p.idempotencyKey) = none := by
      rw [same]
      exact absent
    refine ⟨?_, by simp [RecoveryRequest.repeats, RecoveryRequest.authorization,
      RecoveryRequest.target]⟩
    rw [Table.insertNew_rows inserted, List.find?_append, fresh]
    simp [authorizedUnder, RecoveryRequest.authorization, RecoveryRequest.target]

/-- What an accepted preparation went through. -/
structure Prepares (eligibilityHash : EligibilityDocument → Sha256Digest) (call : RecoveryCall)
    (db : Database) (p : RecoveryRequest) (loaded : RecoveryContext)
    (evaluation : RecoveryEvaluation) (actionType : SecurityActionType) : Prop where
  reference : call.request.causeResolutionReference.all isExternalReference
  context : getSecurityRecoveryContext call.loading call.request.targetSubjectId
    call.request.targetCertificateId db = .ok (some loaded)
  valid : loaded.target = call.target ∧ 1 ≤ loaded.stateVersion ∧
    loaded.stateVersion ≤ 9007199254740991
  evaluated : evaluateSecurityActionRecovery call.target loaded.posture loaded.checkpoint
    call.activeSevereEvidence call.evaluatedAt call.request.causeResolutionReference.isSome =
      .ok evaluation
  eligible : evaluation.nextActionType = some actionType
  resolved : loaded.posture.targetCertificate = .revoked →
    call.request.causeResolutionReference.isSome
  request : p = authorizationRequest eligibilityHash call loaded evaluation actionType

theorem loadRecoveryContext_eq_ok {call : RecoveryCall} {db : Database}
    {loaded : RecoveryContext} :
    loadRecoveryContext call db = .ok loaded ↔
      getSecurityRecoveryContext call.loading call.request.targetSubjectId
        call.request.targetCertificateId db = .ok (some loaded) := by
  unfold loadRecoveryContext
  split
  · rename_i failure failed
    simp [failed]
  · rename_i found answered
    rw [answered, Checked.requireSome_eq_ok, Except.ok.injEq]

theorem evaluateRecovery_eq_ok {call : RecoveryCall} {loaded : RecoveryContext}
    {evaluation : RecoveryEvaluation} :
    evaluateRecovery call loaded = .ok evaluation ↔
      evaluateSecurityActionRecovery call.target loaded.posture loaded.checkpoint
        call.activeSevereEvidence call.evaluatedAt
        call.request.causeResolutionReference.isSome = .ok evaluation := by
  unfold evaluateRecovery
  split
  · rename_i reasonCode failed
    simp [failed]
  · rename_i answer answered
    rw [answered, Except.ok.injEq, Except.ok.injEq]

theorem prepareRecovery_eq_ok {eligibilityHash : EligibilityDocument → Sha256Digest}
    {call : RecoveryCall} (role : .tenantAdmin ∈ call.context.roles) {db : Database}
    {p : RecoveryRequest} :
    prepareRecovery eligibilityHash call db = .ok p ↔
      ∃ loaded evaluation actionType,
        Prepares eligibilityHash call db p loaded evaluation actionType := by
  simp only [prepareRecovery, Checked.bind_eq_ok, Checked.require_eq_ok,
    Checked.requireSome_eq_ok, Checked.pure_eq_ok, exists_const, loadRecoveryContext_eq_ok,
    evaluateRecovery_eq_ok]
  constructor
  · intro passed
    rcases passed with ⟨_, reference, loaded, context, valid, evaluation, evaluated,
      actionType, eligible, resolved, request⟩
    exact ⟨loaded, evaluation, actionType,
      ⟨reference, context, valid, evaluated, eligible, resolved, request.symm⟩⟩
  · intro prepares
    rcases prepares with ⟨loaded, evaluation, actionType, prepared⟩
    exact ⟨role, prepared.reference, loaded, prepared.context, prepared.valid, evaluation,
      prepared.evaluated, actionType, prepared.eligible, prepared.resolved,
      prepared.request.symm⟩

theorem authorizeGovernedRecovery_eq_ok {eligibilityHash : EligibilityDocument → Sha256Digest}
    {call : RecoveryCall} {loaded current after : Database} {reply : AuthorizedRecovery} :
    authorizeGovernedRecovery eligibilityHash call loaded current = .ok (after, reply) ↔
      ∃ p row action, prepareRecovery eligibilityHash call loaded = .ok p ∧
        authorizeSecurityRecovery call.authorizing p current = .ok (after, row) ∧
        after.actions.get? row.key = some action ∧
        (row.target.tenantId = call.context.tenantId ∧ row.actionType = p.actionType) ∧
        reply = ⟨row.target.tenantId, row.authorizationId, row.actionId, row.actionType,
          action.execution.status, row.authorizedAt, row.expiresAt, p.reasonCode⟩ := by
  simp only [authorizeGovernedRecovery, Checked.bind_eq_ok]
  constructor
  · intro accepted
    rcases accepted with ⟨p, prepared, accepted⟩
    split at accepted
    · simp at accepted
    · rename_i db row authorized
      simp only [Checked.bind_eq_ok, Checked.requireSome_eq_ok, Checked.require_eq_ok,
        Checked.pure_eq_ok, exists_const, Prod.mk.injEq] at accepted
      rcases accepted with ⟨action, found, confirmed, rfl, same⟩
      exact ⟨p, row, action, prepared, authorized, found, confirmed, same.symm⟩
  · intro accepted
    rcases accepted with ⟨p, row, action, prepared, authorized, found, confirmed, same⟩
    refine ⟨p, prepared, ?_⟩
    rw [authorized]
    simp only [Checked.bind_eq_ok, Checked.requireSome_eq_ok, Checked.require_eq_ok,
      Checked.pure_eq_ok, exists_const, Prod.mk.injEq]
    exact ⟨action, found, confirmed, trivial, same.symm⟩

/-- The request answers with the record under its key, and changes nothing. -/
theorem authorizeSecurityRecovery_repeats {session : Session} {p : RecoveryRequest}
    {db : Database} {row : RecoveryAuthorization}
    (found : db.authorizations.rows.find?
      (authorizedUnder session.tenantId session.subjectId p.idempotencyKey) = some row)
    (repeats : p.repeats row) : authorizeSecurityRecovery session p db = .ok (db, row) := by
  have earlier : db.authorizations.rows.find? (fun existing =>
      existing.target.tenantId = session.tenantId &&
      existing.authorizedBySubjectId = session.subjectId &&
      existing.idempotencyKey = p.idempotencyKey) = some row := found
  unfold authorizeSecurityRecovery
  rw [earlier]
  simp [require, repeats, bind, Except.bind, pure, Except.pure]

/-- An accepted call is one transaction of the queue, and leaves its record behind. -/
theorem accepted_spec {eligibilityHash : EligibilityDocument → Sha256Digest}
    {call : RecoveryCall} (valid : call.Valid) {loaded current after : Database}
    {reply : AuthorizedRecovery}
    (accepted : authorizeGovernedRecovery eligibilityHash call loaded current =
      .ok (after, reply)) :
    ∃ p context evaluation actionType row,
      Prepares eligibilityHash call loaded p context evaluation actionType ∧
      after = runQueue current [.authorizeRecovery call.authorizing p] ∧
      after.authorizations.rows.find? (authorizedUnder call.context.tenantId
        call.context.subjectId call.request.idempotencyKey) = some row ∧
      p.repeats row ∧ row.authorizationId = reply.authorizationId ∧
      row.actionId = reply.actionId := by
  rcases authorizeGovernedRecovery_eq_ok.mp accepted with
    ⟨p, row, action, prepared, authorized, _, _, rfl⟩
  rcases (prepareRecovery_eq_ok valid.role).mp prepared with
    ⟨context, evaluation, actionType, prepares⟩
  have applied : applyQueue (.authorizeRecovery call.authorizing p) current =
      .ok (after, .authorization row) := by
    simp [applyQueue, authorized, bind, Except.bind, pure, Except.pure]
  rcases authorizeSecurityRecovery_found authorized with ⟨found, repeats⟩
  rw [valid.authorizing.1, valid.authorizing.2] at found
  have key : p.idempotencyKey = call.request.idempotencyKey := by
    rw [prepares.request]
    rfl
  rw [key] at found
  exact ⟨p, context, evaluation, actionType, row, prepares, (Transaction.commit_ok applied).symm,
    found, repeats, rfl, rfl⟩

/-- What the repeated call would ask for, once its context is that of the accepted one. -/
theorem Prepares.again {eligibilityHash : EligibilityDocument → Sha256Digest}
    {first again : RecoveryCall} {before after : Database} {p : RecoveryRequest}
    {loaded : RecoveryContext} {evaluation : RecoveryEvaluation} {actionType : SecurityActionType}
    (prepares : Prepares eligibilityHash first before p loaded evaluation actionType)
    (sameContext : again.context = first.context) (sameRequest : again.request = first.request)
    (quiet : again.activeSevereEvidence = [])
    (context : getSecurityRecoveryContext again.loading again.request.targetSubjectId
      again.request.targetCertificateId after =
        getSecurityRecoveryContext first.loading first.request.targetSubjectId
          first.request.targetCertificateId before) :
    Prepares eligibilityHash again after
      (authorizationRequest eligibilityHash again loaded evaluation actionType)
      loaded evaluation actionType ∧
    ∀ row, p.repeats row →
      (authorizationRequest eligibilityHash again loaded evaluation actionType).repeats row := by
  have target : again.target = first.target := by
    rw [RecoveryCall.target, RecoveryCall.target, sameContext, sameRequest]
  have evaluated := prepares.evaluated
  have firstQuiet := (evaluateSecurityActionRecovery_action evaluated prepares.eligible).1
  rw [firstQuiet, evaluateSecurityActionRecovery_time _ _ _ _ _ again.evaluatedAt] at evaluated
  have document : eligibilityDocument again loaded evaluation actionType =
      eligibilityDocument first loaded evaluation actionType := by
    simp only [eligibilityDocument, target, sameRequest, quiet, firstQuiet]
  constructor
  · exact {
      reference := by rw [sameRequest]; exact prepares.reference
      context := context.trans prepares.context
      valid := by rw [target]; exact prepares.valid
      evaluated := by rw [target, quiet, sameRequest]; exact evaluated
      eligible := prepares.eligible
      resolved := by rw [sameRequest]; exact prepares.resolved
      request := rfl }
  · intro row repeats
    rw [prepares.request] at repeats
    simp only [RecoveryRequest.repeats, authorizationRequest, document, sameRequest] at repeats ⊢
    exact repeats

theorem repeats_snapshot {eligibilityHash : EligibilityDocument → Sha256Digest}
    {call : RecoveryCall} {db : Database} {p : RecoveryRequest} {loaded : RecoveryContext}
    {evaluation : RecoveryEvaluation} {actionType : SecurityActionType}
    {row : RecoveryAuthorization}
    (prepares : Prepares eligibilityHash call db p loaded evaluation actionType)
    (repeats : p.repeats row) : row.expectedStateVersion = loaded.stateVersion ∧
      row.trustTransitionId = loaded.trustTransitionId ∧ row.actionType = actionType := by
  rw [prepares.request] at repeats
  simp only [RecoveryRequest.repeats, authorizationRequest, Bool.and_eq_true] at repeats
  rcases repeats with ⟨⟨⟨⟨⟨⟨_, sameType⟩, transition⟩, version⟩, _⟩, _⟩, _⟩
  exact ⟨of_decide_eq_true version, of_decide_eq_true transition, of_decide_eq_true sameType⟩

/-- The repeated call returns the identifiers of the first one and writes nothing. -/
def Replays (eligibilityHash : EligibilityDocument → Sha256Digest) (again : RecoveryCall)
    (loaded current : Database) (reply : AuthorizedRecovery) : Prop :=
  ∃ repeated, authorizeGovernedRecovery eligibilityHash again loaded current =
      .ok (current, repeated) ∧
    repeated.authorizationId = reply.authorizationId ∧ repeated.actionId = reply.actionId

theorem recovery_replays_iff (eligibilityHash : EligibilityDocument → Sha256Digest)
    {start : Database} (fresh : start.Fresh) (front between later meanwhile : List QueueOp)
    (first again : RecoveryCall) (valid : first.Valid) (stillValid : again.Valid)
    (sameContext : again.context = first.context) (sameRequest : again.request = first.request)
    {accepted : Database} {reply : AuthorizedRecovery}
    (authorized : authorizeGovernedRecovery eligibilityHash first (runQueue start front)
      (runQueue (runQueue start front) between) = .ok (accepted, reply)) :
    Replays eligibilityHash again (runQueue accepted later)
        (runQueue (runQueue accepted later) meanwhile) reply ↔
      Unmoved first.target (runQueue start front) (runQueue accepted later) ∧
        again.activeSevereEvidence = [] := by
  rcases accepted_spec valid authorized with
    ⟨p, loaded, evaluation, actionType, row, prepares, committed, found, repeats, sameId,
      sameAction⟩
  have reached : runQueue accepted later = runQueue (runQueue start front)
      (between ++ ([.authorizeRecovery first.authorizing p] ++ later)) := by
    rw [committed, runQueue_append, runQueue_append]
  have kept := runQueue_authorization_stays meanwhile (runQueue_authorization_stays later found)
  rcases getSecurityRecoveryContext_spec prepares.context with
    ⟨state, transition, stateFound, current, version, named⟩
  rw [valid.loading.1] at stateFound current
  change (runQueue start front).states.get? first.target = some state at stateFound
  change currentTransition? (runQueue start front) first.target.tenantId first.target.subjectId =
    some transition at current
  constructor
  · intro replays
    rcases replays with ⟨repeated, accepted_, _⟩
    rcases accepted_spec stillValid accepted_ with
      ⟨laterP, laterContext, laterEvaluation, laterType, laterRow, laterPrepares, _, laterFound,
        laterRepeats, _⟩
    rw [sameContext, sameRequest, kept, Option.some.injEq] at laterFound
    rw [← laterFound] at laterRepeats
    rcases getSecurityRecoveryContext_spec laterPrepares.context with
      ⟨laterState, laterTransition, laterStateFound, laterCurrent, laterVersion, laterNamed⟩
    rw [stillValid.loading.1, sameContext, sameRequest] at laterStateFound laterCurrent
    change (runQueue accepted later).states.get? first.target = some laterState at laterStateFound
    change currentTransition? (runQueue accepted later) first.target.tenantId
      first.target.subjectId = some laterTransition at laterCurrent
    rcases repeats_snapshot prepares repeats with ⟨rowVersion, rowTransition, _⟩
    rcases repeats_snapshot laterPrepares laterRepeats with
      ⟨laterRowVersion, laterRowTransition, _⟩
    refine ⟨⟨?_, ?_⟩, (evaluateSecurityActionRecovery_action laterPrepares.evaluated
      laterPrepares.eligible).1⟩
    · have same : laterState.stateVersion = state.stateVersion := by
        rw [← laterVersion, ← version, ← laterRowVersion, rowVersion]
      rw [laterStateFound, stateFound, Option.map_some, Option.map_some, same]
    · have same : laterTransition.transitionId = transition.transitionId := by
        rw [← laterNamed, ← named, ← laterRowTransition, rowTransition]
      rw [laterCurrent, current, Option.map_some, Option.map_some, same]
  · intro conditions
    rcases conditions with ⟨unmoved, quiet⟩
    rw [reached] at unmoved ⊢
    have laterState := unmoved.state stateFound
    have laterCurrent := unmoved.current current
    rw [← reached] at laterState laterCurrent ⊢
    have admin : again.loading.actorIsTenantAdmin = first.loading.actorIsTenantAdmin :=
      stillValid.loading.2.trans valid.loading.2.symm
    have tenant : again.loading.tenantId = first.loading.tenantId := by
      rw [stillValid.loading.1, valid.loading.1, sameContext]
    have context : getSecurityRecoveryContext again.loading first.request.targetSubjectId
        first.request.targetCertificateId (runQueue accepted later) =
      getSecurityRecoveryContext first.loading first.request.targetSubjectId
        first.request.targetCertificateId (runQueue start front) :=
      getSecurityRecoveryContext_congr tenant admin
        (by rw [valid.loading.1]; exact laterState.trans stateFound.symm)
        (by rw [valid.loading.1]; exact laterCurrent.trans current.symm)
    rcases prepares.again sameContext sameRequest quiet
        (by rw [sameRequest]; exact context) with
      ⟨laterPrepares, carries⟩
    have sound : SnapshotInvariant (runQueue (runQueue accepted later) meanwhile) := by
      rw [reached, ← runQueue_append, ← runQueue_append]
      exact snapshotInvariant_run fresh _
    rcases sound.granted row (List.mem_of_find?_eq_some kept) with ⟨action, member, grants⟩
    have present := Table.get?_of_mem member
    rw [grants.key] at present
    have under := List.find?_some kept
    simp only [authorizedUnder, Bool.and_eq_true, decide_eq_true_eq] at under
    have addressed : (runQueue (runQueue accepted later) meanwhile).authorizations.rows.find?
        (authorizedUnder again.authorizing.tenantId again.authorizing.subjectId
          (authorizationRequest eligibilityHash again loaded evaluation
            actionType).idempotencyKey) = some row := by
      rw [stillValid.authorizing.1, stillValid.authorizing.2, sameContext]
      change List.find? (authorizedUnder first.context.tenantId first.context.subjectId
        again.request.idempotencyKey) _ = some row
      rw [sameRequest]
      exact kept
    have answered := authorizeSecurityRecovery_repeats addressed (carries row repeats)
    refine ⟨_, authorizeGovernedRecovery_eq_ok.mpr ⟨_, row, action,
      (prepareRecovery_eq_ok stillValid.role).mpr ⟨loaded, evaluation, actionType, laterPrepares⟩,
      answered, present, ⟨?_, ?_⟩, rfl⟩, sameId, sameAction⟩
    · rw [sameContext]
      exact under.1.1
    · exact (repeats_snapshot prepares repeats).2.2

namespace Replay

/-! A suspended member whose recovery is reported by two sources. -/

open Scenario

def corroborated : TrustTransition := { transition with
  transitionId := ⟨2⟩
  explanation := .object [("transitionControl", .object [
    ("recovery", .object [("distinctSourceCount", .number 2),
      ("requiredQualifyingStreak", .number 2), ("eligible", .bool true)]),
    ("sourceInfluence", .object [("distinctSourceIds", .array [
      .string "src_00000000-0000-4000-8000-000000000001",
      .string "src_00000000-0000-4000-8000-000000000002"])])])] }

def front : List QueueOp := suspended ++ [.recordTransition corroborated]

def call (clock : Timestamp) (generated : Nat) : RecoveryCall where
  context := ⟨target.tenantId, ⟨2⟩, [.tenantAdmin]⟩
  request := ⟨⟨3⟩, .requested 3, target.subjectId, target.certificateId, ⟨1⟩, ⟨1⟩, none⟩
  evaluatedAt := clock
  loading := { session 2 with clock := clock }
  activeSevereEvidence := []
  authorizing := { session 2 with clock := clock }
  authorizationId := ⟨generated⟩
  actionId := ⟨generated⟩
  decisionId := ⟨generated⟩
  correlationId := ⟨generated⟩

def hash (document : EligibilityDocument) : Sha256Digest := ⟨document.stateVersion⟩

def result : Except RecoveryFailure (Database × AuthorizedRecovery) :=
  authorizeGovernedRecovery hash (call 0 3) (runQueue deployment front)
    (runQueue (runQueue deployment front) [])

def accepted : Database :=
  match result with
  | .ok (db, _) => db
  | .error _ => deployment

def reply : AuthorizedRecovery :=
  match result with
  | .ok (_, answer) => answer
  | .error _ => ⟨⟨0⟩, ⟨0⟩, ⟨0⟩, .restoreAccess, .pending, 0, 0, ""⟩

theorem result_eq : result = .ok (accepted, reply) := by
  have answered : result.isOk := by decide +kernel
  unfold accepted reply
  cases outcome : result with
  | error failed =>
      rw [outcome] at answered
      cases answered
  | ok pair => rfl

theorem call_valid (clock : Timestamp) (generated : Nat) : (call clock generated).Valid :=
  ⟨List.mem_singleton.mpr rfl, ⟨rfl, rfl⟩, ⟨rfl, rfl⟩⟩

end Replay

open Replay in
/-- Once the restoration has run there is nothing left to recover, and the replay is refused. -/
theorem executed_recovery_refuses_replay :
    ¬ ∀ (eligibilityHash : EligibilityDocument → Sha256Digest) (start : Database)
        (front between later meanwhile : List QueueOp) (first again : RecoveryCall)
        (accepted : Database) (reply : AuthorizedRecovery), start.Fresh → first.Valid →
      again.Valid → again.context = first.context → again.request = first.request →
      authorizeGovernedRecovery eligibilityHash first (runQueue start front)
        (runQueue (runQueue start front) between) = .ok (accepted, reply) →
      Replays eligibilityHash again (runQueue accepted later)
        (runQueue (runQueue accepted later) meanwhile) reply := by
  intro always
  have replays := always hash Scenario.deployment front [] [Scenario.claim 2, Scenario.restores]
    [] (call 0 3) (call 1000 4) accepted reply Scenario.deployment_fresh (call_valid 0 3)
    (call_valid 1000 4) rfl rfl result_eq
  rcases replays with ⟨repeated, answered, _⟩
  have refused : (authorizeGovernedRecovery hash (call 1000 4)
      (runQueue accepted [Scenario.claim 2, Scenario.restores])
      (runQueue (runQueue accepted [Scenario.claim 2, Scenario.restores]) [])).isOk = false := by
    decide +kernel
  rw [answered] at refused
  cases refused

open Replay in
theorem waiting_recovery_replays :
    Replays hash (call 1000 4) (runQueue accepted [Scenario.claim 2])
      (runQueue (runQueue accepted [Scenario.claim 2]) [Scenario.restores]) reply := by
  refine (recovery_replays_iff hash Scenario.deployment_fresh front [] [Scenario.claim 2]
    [Scenario.restores] (call 0 3) (call 1000 4) (call_valid 0 3) (call_valid 1000 4) rfl rfl
    result_eq).mpr ⟨⟨?_, ?_⟩, rfl⟩
  · decide +kernel
  · decide +kernel

end TenantTrust.Orchestration
