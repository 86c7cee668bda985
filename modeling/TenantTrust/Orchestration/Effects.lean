import TenantTrust.Orchestration.Queue
import Mathlib.Logic.Relation

/-! What one procedure call can do to the queue tables. Every successful operation is a
sequence of the effects below, so an invariant is checked once per effect. -/

namespace TenantTrust.Orchestration

open Library Identity Audit

/-- The rows that a maintenance pass may make terminal. -/
def Suppressible (db : Database) (action : SecurityAction) : Prop :=
  action.execution.isClaimable ∧
    (action.authorityClass = .recoveryAuthorization ∨ isRedundant db action)

/-- The conditions under which `mark_security_action_succeeded` records a success. -/
structure Succeeds (db : Database) (report : SuccessReport) (action : SecurityAction)
    (state : SubjectSecurityState) : Prop where
  action_found : db.actions.get? (report.tenantId, report.actionId) = some action
  held : heldClaim action report.claimToken report.succeededAt
  state_found : db.states.get? action.target = some state
  version : state.stateVersion = action.expectedStateVersion
  result : report.resultState = expectedResultState action.actionType state.posture
  authority : requireRecoveryAuthority action report db = .ok ()
  inventory : requireInventoryState action state.posture db.inventory = .ok ()

/-- The invalidation jobs after a success of the action. -/
def jobsAfter (action : SecurityAction) (state : SubjectSecurityState)
    (report : SuccessReport) (db : Database) :
    Table SecurityStateInvalidation SecurityStateInvalidation.key :=
  if queuesInvalidation action.actionType then
    (db.invalidations.insertNew
      (invalidationJob action (state.stateVersion + 1) report.succeededAt)).getD db.invalidations
  else db.invalidations

/-- The posture that a recovery action needs when it is authorized. -/
def permitsRecovery (posture : SecurityActionState) (actionType : SecurityActionType) : Prop :=
  match actionType with
  | .restoreAccess => posture.targetCertificate = .revoked → posture.replacement = .issued
  | .issueReplacementCertificate => posture.targetCertificate = .revoked
  | _ => True

/-- What one statement sequence does to the queue, where every recorded report carries a token
that `Admits` allows. -/
inductive AdmittedEffect (Admits : Option ClaimToken → Prop) (before : Database) :
    Database → Prop where
  | environment {after : Database} (states : after.states = before.states)
      (actions : after.actions = before.actions) (attempts : after.attempts = before.attempts)
      (authorizations : after.authorizations = before.authorizations)
      (invalidations : after.invalidations = before.invalidations)
      (inventory : before.inventory.Extends after.inventory) : AdmittedEffect Admits before after
  | createState {target : Target} {certificate : Certificate}
      {states : Table SubjectSecurityState SubjectSecurityState.target}
      (found : before.inventory.certificate? target.tenantId target.certificateId =
        some certificate)
      (owner : certificate.subjectId = target.subjectId)
      (inserted : before.states.insertNew (initialSecurityState target certificate) =
        some states) : AdmittedEffect Admits before { before with states := states }
  | enqueue {p : EnqueueRequest} {state : SubjectSecurityState}
      {actions : Table SecurityAction SecurityAction.key}
      (state_found : before.states.get? p.target = some state)
      (authorized : p.actionType.authority = p.authorityClass)
      (inserted : before.actions.insertNew (p.action state.stateVersion authorized) =
        some actions) : AdmittedEffect Admits before { before with actions := actions }
  | authorize {row : RecoveryAuthorization} {state : SubjectSecurityState}
      {action : SecurityAction}
      {authorizations : Table RecoveryAuthorization RecoveryAuthorization.key}
      (state_found : before.states.get? row.target = some state)
      (version : state.stateVersion = row.expectedStateVersion)
      (present : action ∈ before.actions) (same_key : action.key = row.key)
      (same_target : action.target = row.target)
      (same_type : action.actionType = row.actionType)
      (recovery : action.authorityClass = .recoveryAuthorization)
      (permitted : permitsRecovery state.posture row.actionType)
      (unique : ∀ existing ∈ before.authorizations,
        duplicatesAuthorization row existing = false)
      (inserted : before.authorizations.insertNew row = some authorizations) :
      AdmittedEffect Admits before { before with authorizations := authorizations }
  | expire (at_ : Timestamp) : AdmittedEffect Admits before (expireLeases at_ before)
  | suppress {call : ClaimCall} {suppressed : SecurityAction → Bool} {code : String}
      {after : Database}
      (legal : ∀ action ∈ before.actions, suppressed action → Suppressible before action)
      (succeeds : suppress call suppressed code before = .ok after) :
      AdmittedEffect Admits before after
  | execute {call : ClaimCall} {chosen : SecurityAction} {state : SubjectSecurityState}
      {after : Database} {claimed : Option ClaimedAction}
      (present : chosen ∈ before.actions) (candidate : isCandidate call before chosen)
      (effective : isRedundant before chosen = false)
      (state_found : before.states.get? chosen.target = some state)
      (fits : lostAuthorization before chosen state = false)
      (succeeds : startExecution call chosen state before = .ok (after, claimed)) :
      AdmittedEffect Admits before after
  | succeed {report : SuccessReport} {action : SecurityAction} {state : SubjectSecurityState}
      (legal : Succeeds before report action state)
      (shape : report.resultState.targetCertificate = .active →
        report.resultState.replacement = .notRequired)
      (admitted : Admits report.claimToken) :
      AdmittedEffect Admits before { recordSuccess action report shape before with
        invalidations := jobsAfter action state report before }
  | fail {report : FailureReport} {action : SecurityAction}
      (found : before.actions.get? (report.tenantId, report.actionId) = some action)
      (held : heldClaim action report.claimToken report.failedAt)
      (admitted : Admits report.claimToken) :
      AdmittedEffect Admits before (recordFailure action report before)

abbrev Effect : Database → Database → Prop := AdmittedEffect fun _ => True

abbrev AdmittedEffects (Admits : Option ClaimToken → Prop) : Database → Database → Prop :=
  Relation.ReflTransGen (AdmittedEffect Admits)

/-- A finite sequence of effects. -/
abbrev Effects : Database → Database → Prop := Relation.ReflTransGen Effect

section Admits

variable {Admits : Option ClaimToken → Prop}

theorem AdmittedEffect.unchangedQueue {before after : Database}
    (states : after.states = before.states)
    (actions : after.actions = before.actions) (attempts : after.attempts = before.attempts)
    (authorizations : after.authorizations = before.authorizations)
    (invalidations : after.invalidations = before.invalidations)
    (inventory : after.inventory = before.inventory) : AdmittedEffect Admits before after :=
  .environment states actions attempts authorizations invalidations
    (inventory ▸ Inventory.Extends.refl before.inventory)

theorem initializeSecurityState_effects (target : Target) (db : Database) :
    AdmittedEffects Admits db { db with states := initializeSecurityState target db } := by
  unfold initializeSecurityState
  split
  · rename_i certificate found
    split
    · rename_i owner
      cases inserted : db.states.insertNew (initialSecurityState target certificate) with
      | none => exact .refl
      | some states => exact .single (.createState found owner inserted)
    · exact .refl
  · exact .refl

/-- The action that an enqueue returns has the requested type, class, target and key. -/
structure Answers (p : EnqueueRequest) (action : SecurityAction) : Prop where
  key : action.key = (p.target.tenantId, p.actionId)
  target : action.target = p.target
  actionType : action.actionType = p.actionType
  authorityClass : action.authorityClass = p.authorityClass

theorem enqueueSecurityActionInternal_admitted (Admits : Option ClaimToken → Prop)
    {clock : Timestamp} {p : EnqueueRequest} {before after : Database} {action : SecurityAction}
    (succeeds : enqueueSecurityActionInternal clock p before = .ok (after, action)) :
    AdmittedEffects Admits before after ∧ action ∈ after.actions ∧ Answers p action ∧
      after.authorizations = before.authorizations ∧
      after.states = initializeSecurityState p.target before := by
  simp only [enqueueSecurityActionInternal, Checked.bind_eq_ok, Checked.require_eq_ok,
    Checked.requireSome_eq_ok, exists_const] at succeeds
  rcases succeeds with ⟨_, state, found, succeeds⟩
  have opened : AdmittedEffects Admits _ _ := initializeSecurityState_effects p.target before
  split at succeeds
  · rename_i existing present
    simp only [Checked.bind_eq_ok, Checked.require_eq_ok, Checked.pure_eq_ok, exists_const,
      Prod.mk.injEq] at succeeds
    rcases succeeds with ⟨repeats, rfl, rfl⟩
    refine ⟨opened, List.mem_of_find?_eq_some present, ?_, rfl, rfl⟩
    have same := List.find?_some present
    simp only [SecurityAction.sameDecision, Bool.and_eq_true, decide_eq_true_eq] at same
    simp only [SecurityAction.repeats, Bool.and_eq_true, decide_eq_true_eq] at repeats
    rcases same with ⟨⟨⟨tenant, _⟩, actionType⟩, authorityClass⟩
    rcases repeats with ⟨⟨⟨⟨⟨actionId, _⟩, subject⟩, certificate⟩, _⟩, _⟩
    exact {
      key := by rw [SecurityAction.key, tenant, actionId]
      target := by
        rcases existing with ⟨_, ⟨_, _, _⟩⟩
        rcases p with ⟨_, ⟨_, _, _⟩⟩
        simp_all
      actionType := actionType
      authorityClass := authorityClass }
  · simp only [insertAction] at succeeds
    split at succeeds
    · rename_i authorized
      simp only [Checked.bind_eq_ok, Checked.requireSome_eq_ok, Checked.pure_eq_ok,
        Prod.mk.injEq] at succeeds
      rcases succeeds with ⟨actions, inserted, rfl, rfl⟩
      refine ⟨opened.tail (.enqueue found authorized inserted),
        (Table.mem_insertNew inserted _).mpr (Or.inr rfl), ⟨rfl, rfl, rfl, rfl⟩, rfl, rfl⟩
    · simp at succeeds

theorem requestQuarantineAction_effects {session : Session} {p : QuarantineRequest}
    {before after : Database} {row : SecurityActionRequest}
    (succeeds : requestQuarantineAction session p before = .ok (after, row)) :
    AdmittedEffects Admits before after := by
  simp only [requestQuarantineAction, Checked.bind_eq_ok, Checked.require_eq_ok,
    exists_const] at succeeds
  rcases succeeds with ⟨_, succeeds⟩
  split at succeeds
  · simp only [Checked.bind_eq_ok, Checked.require_eq_ok, Checked.pure_eq_ok, exists_const,
      Prod.mk.injEq] at succeeds
    rcases succeeds with ⟨_, rfl, _⟩
    exact .refl
  · simp only [Checked.bind_eq_ok, Checked.require_eq_ok, Checked.requireSome_eq_ok,
      Checked.pure_eq_ok, exists_const, Prod.mk.injEq] at succeeds
    rcases succeeds with ⟨_, _, requests, _, ⟨middle, action⟩, enqueued, rfl, _⟩
    have logged : AdmittedEffect Admits before { before with requests := requests } :=
      .unchangedQueue rfl rfl rfl rfl rfl rfl
    exact .head logged (enqueueSecurityActionInternal_admitted _ enqueued).1

theorem enqueueSeveritySecurityAction_cases {clock : Timestamp} {p : SeverityRequest}
    {before after : Database} {action : SecurityAction}
    (succeeds : enqueueSeveritySecurityAction clock p before = .ok (after, action)) :
    ∃ correlationId,
      enqueueSecurityActionInternal clock (p.enqueue correlationId) before =
        .ok (after, action) := by
  simp only [enqueueSeveritySecurityAction, Checked.bind_eq_ok, Checked.require_eq_ok,
    Checked.requireSome_eq_ok, exists_const] at succeeds
  rcases succeeds with ⟨_, provenance, _, _, enqueued⟩
  exact ⟨provenance.correlationId, enqueued⟩

/-- What a newly granted authorization was checked against. -/
structure Granted (session : Session) (p : RecoveryRequest) (before : Database)
    (state : SubjectSecurityState) (transition : TrustTransition) : Prop where
  state_found : before.states.get? (p.target session) = some state
  version : state.stateVersion = p.expectedStateVersion
  current : currentTransition? before session.tenantId p.targetSubjectId = some transition
  transitionId : transition.transitionId = p.trustTransitionId
  recovered : requireRecoveredTransition transition p.authorizedAt = .ok ()
  trustLevel : requireTrustLevel state.posture transition = .ok ()
  conditions : requireRecoveryConditions state.posture p = .ok ()

theorem Granted.permits {session : Session} {p : RecoveryRequest} {before : Database}
    {state : SubjectSecurityState} {transition : TrustTransition}
    (granted : Granted session p before state transition) :
    permitsRecovery state.posture p.actionType := by
  have conditions := granted.conditions
  unfold requireRecoveryConditions at conditions
  cases type : p.actionType with
  | issueReplacementCertificate =>
      rw [if_pos type, Checked.require_eq_ok] at conditions
      exact conditions.1
  | restoreAccess =>
      rw [type, if_neg (by simp)] at conditions
      split at conditions
      · simp at conditions
      · intro revoked
        by_contra missing
        exact Checked.require_eq_ok.mp conditions ⟨revoked, Or.inl missing⟩
  | restrictAccess => trivial
  | suspendSubject => trivial
  | blockRenewal => trivial
  | revokeCertificate => trivial

theorem initializeSecurityState_found {target : Target} {db : Database}
    {state : SubjectSecurityState} (found : db.states.get? target = some state) :
    initializeSecurityState target db = db.states := by
  unfold initializeSecurityState
  split
  · split
    · rename_i certificate _ _
      cases inserted : db.states.insertNew (initialSecurityState target certificate) with
      | none => rfl
      | some states =>
          have fresh := Table.insertNew_fresh inserted state (Table.get?_mem found)
          exact absurd (Table.get?_key found) fresh
    · rfl
  · rfl

theorem authorizeNewRecovery_cases {session : Session} {p : RecoveryRequest}
    {before after : Database} {row : RecoveryAuthorization}
    (succeeds : authorizeNewRecovery session p before = .ok (after, row)) :
    ∃ state transition proofs action middle authorizations,
      Granted session p before state transition ∧
      enqueueSecurityActionInternal session.clock (p.enqueue session)
        { before with stepUpProofs := proofs } = .ok (middle, action) ∧
      row = p.authorization session action.actionId ∧
      (∀ existing ∈ middle.authorizations, duplicatesAuthorization row existing = false) ∧
      middle.authorizations.insertNew row = some authorizations ∧
      after = { middle with authorizations := authorizations } := by
  simp only [authorizeNewRecovery, insertAuthorization, Checked.bind_eq_ok,
    Checked.require_eq_ok, Checked.requireSome_eq_ok, Checked.pure_eq_ok, exists_const,
    Prod.mk.injEq] at succeeds
  rcases succeeds with ⟨_, state, found, version, transition, current, named, _, recovered,
    _, level, _, conditions, _, ⟨proofs, _⟩, _, _, ⟨middle, action⟩, enqueued, final,
    ⟨unique, _, _, authorizations, inserted, rfl⟩, rfl, rfl⟩
  exact ⟨state, transition, proofs, action, middle, authorizations,
    ⟨found, version, current, named, recovered, level, conditions⟩, enqueued, rfl, unique,
    inserted, rfl⟩

theorem authorizeSecurityRecovery_effects {session : Session} {p : RecoveryRequest}
    {before after : Database} {row : RecoveryAuthorization}
    (succeeds : authorizeSecurityRecovery session p before = .ok (after, row)) :
    AdmittedEffects Admits before after := by
  unfold authorizeSecurityRecovery at succeeds
  split at succeeds
  · simp only [Checked.bind_eq_ok, Checked.require_eq_ok, Checked.pure_eq_ok, exists_const,
      Prod.mk.injEq] at succeeds
    rcases succeeds with ⟨_, rfl, _⟩
    exact .refl
  · rcases authorizeNewRecovery_cases succeeds with
      ⟨state, transition, proofs, action, middle, authorizations, granted, enqueued, rfl,
        unique, inserted, rfl⟩
    rcases enqueueSecurityActionInternal_admitted _ enqueued with
      ⟨opened, present, answers, sameAuthorizations, states⟩
    have same : middle.states = before.states := by
      rw [states]
      exact initializeSecurityState_found granted.state_found
    have proved : AdmittedEffect Admits before { before with stepUpProofs := proofs } :=
      .unchangedQueue rfl rfl rfl rfl rfl rfl
    refine .tail (.head proved opened) ?_
    have found : middle.states.get? (p.authorization session action.actionId).target =
        some state := by
      rw [same]
      exact granted.state_found
    refine .authorize found granted.version present ?_ answers.target answers.actionType
      answers.authorityClass granted.permits unique inserted
    rw [SecurityAction.key, answers.target]
    rfl

theorem suppress_states {call : ClaimCall} {suppressed : SecurityAction → Bool}
    {code : String} {before after : Database}
    (succeeds : suppress call suppressed code before = .ok after) :
    ∃ attempts, (before.actions.rows.filter suppressed).foldlM
        (fun attempts action => insertAttempt (suppressedAttempt call code action) attempts)
        before.attempts = .ok attempts ∧
      after = { before with
        attempts := attempts
        actions := before.actions.update (suppressAction suppressed code)
          (suppressAction_key suppressed code) } := by
  simp only [suppress, Checked.bind_eq_ok, Checked.pure_eq_ok] at succeeds
  rcases succeeds with ⟨attempts, inserted, rfl⟩
  exact ⟨attempts, inserted, rfl⟩

theorem selectCandidate_spec {call : ClaimCall} {db : Database} {chosen : SecurityAction}
    (selected : selectCandidate call db = some chosen) :
    chosen ∈ db.actions ∧ isCandidate call db chosen ∧ chosen.key ∉ call.locked := by
  have member := List.argmin_mem (Option.mem_def.mpr selected)
  simp only [List.mem_filter, Bool.and_eq_true, Bool.not_eq_true', List.contains_eq_mem,
    decide_eq_false_iff_not] at member
  exact ⟨member.1, member.2.1, member.2.2⟩

theorem isCandidate_finite {call : ClaimCall} {db : Database} {action : SecurityAction}
    (candidate : isCandidate call db action) : action.nextAttemptAt ≠ ⊤ := by
  simp only [isCandidate, Bool.and_eq_true, decide_eq_true_eq] at candidate
  intro never
  rw [never] at candidate
  exact absurd candidate.1.1.2 (by simp)

/-- After the redundant pass no action that could be chosen repeats a control. -/
theorem suppress_effective {call : ClaimCall} {code : String} {before after : Database}
    (succeeds : suppress call (isRedundant before) code before = .ok after)
    {action : SecurityAction} (present : action ∈ after.actions)
    (finite : action.nextAttemptAt ≠ ⊤) : isRedundant after action = false := by
  rcases suppress_states succeeds with ⟨attempts, _, rfl⟩
  rcases (Table.mem_update _ _ (suppressAction_key _ _) _).mp present with ⟨old, _, same⟩
  unfold suppressAction at same
  split at same
  · rw [← same] at finite
    exact absurd rfl finite
  · rename_i effective
    rw [← same]
    simpa [isRedundant] using effective

theorem claimSecurityAction_effects {call : ClaimCall} {before after : Database}
    {claimed : Option ClaimedAction}
    (succeeds : claimSecurityAction call before = .ok (after, claimed)) :
    AdmittedEffects Admits before after := by
  simp only [claimSecurityAction, Checked.bind_eq_ok, Checked.require_eq_ok,
    exists_const] at succeeds
  rcases succeeds with ⟨_, refreshed, stale, remaining, redundant, succeeds⟩
  have swept : AdmittedEffects Admits before remaining := by
    refine .tail (.tail (.single (.expire call.claimedAt)) (.suppress ?_ stale))
      (.suppress ?_ redundant)
    · intro action _ matches_
      simp only [isStaleRecovery, Bool.and_eq_true, decide_eq_true_eq] at matches_
      exact ⟨matches_.1.1.2, Or.inl matches_.1.1.1⟩
    · intro action _ matches_
      refine ⟨?_, Or.inr matches_⟩
      simp only [isRedundant, Bool.and_eq_true] at matches_
      exact matches_.1.1.1
  unfold claimCandidate at succeeds
  split at succeeds
  · simp only [Except.ok.injEq, Prod.mk.injEq] at succeeds
    rw [← succeeds.1]
    exact swept
  · rename_i chosen selected
    rcases selectCandidate_spec selected with ⟨present, candidate, _⟩
    have effective := suppress_effective redundant present (isCandidate_finite candidate)
    simp only [Checked.bind_eq_ok, Checked.requireSome_eq_ok] at succeeds
    rcases succeeds with ⟨state, found, succeeds⟩
    split at succeeds
    · rename_i lost
      simp only [Checked.bind_eq_ok, Checked.pure_eq_ok, Prod.mk.injEq] at succeeds
      rcases succeeds with ⟨final, suppressed, rfl, _⟩
      refine swept.tail (.suppress ?_ suppressed)
      intro action member matches_
      have same : action = chosen :=
        remaining.actions.unique member present (of_decide_eq_true matches_)
      rw [same]
      simp only [isCandidate, Bool.and_eq_true] at candidate
      simp only [lostAuthorization, Bool.and_eq_true, decide_eq_true_eq] at lost
      exact ⟨candidate.1.1.1, Or.inl lost.1⟩
    · rename_i fits
      exact swept.tail (.execute present candidate effective found
        (Bool.eq_false_iff.mpr fits) succeeds)

/-- The conditions and the outcome of a recorded success. -/
theorem markSecurityActionSucceeded_cases {report : SuccessReport} {before after : Database}
    {reply : SecurityAction}
    (succeeds : markSecurityActionSucceeded report before = .ok (after, reply)) :
    ∃ action state, Succeeds before report action state ∧
      ∃ shape : report.resultState.targetCertificate = .active →
          report.resultState.replacement = .notRequired,
        after = { recordSuccess action report shape before with
          invalidations := jobsAfter action state report before } := by
  simp only [markSecurityActionSucceeded, Checked.bind_eq_ok, Checked.require_eq_ok,
    Checked.requireSome_eq_ok, exists_const] at succeeds
  rcases succeeds with ⟨action, found, held, state, stateFound, version, result, _, authority,
    _, inventory, _, _, succeeds⟩
  refine ⟨action, state, ⟨found, held, stateFound, version, result, authority, inventory⟩, ?_⟩
  split at succeeds
  · rename_i shape
    refine ⟨shape, ?_⟩
    simp only [Checked.bind_eq_ok, Checked.pure_eq_ok, Prod.mk.injEq] at succeeds
    rcases succeeds with ⟨final, queued, rfl, _⟩
    have advanced : (recordSuccess action report shape before).states.get? action.target =
        some (advanceState action.target action.actionId report.resultState shape state) := by
      simp only [recordSuccess, Table.get?_update, stateFound, Option.map_some]
    unfold queueSecurityStateInvalidation at queued
    unfold jobsAfter
    split at queued
    · rename_i queues
      simp only [advanced, Checked.bind_eq_ok, Checked.require_eq_ok, Checked.requireSome_eq_ok,
        Checked.pure_eq_ok, exists_const, Option.some.injEq] at queued
      rcases queued with ⟨current, rfl, _, rfl⟩
      rw [if_pos queues]
      have targetSame := Table.get?_key stateFound
      simp only [advanceState, targetSame, if_true, recordSuccess]
    · rename_i silent
      simp only [Checked.pure_eq_ok] at queued
      rw [if_neg silent, ← queued]
      rfl
  · simp [throw, throwThe, MonadExceptOf.throw] at succeeds

theorem markSecurityActionFailed_cases {report : FailureReport} {before after : Database}
    {reply : SecurityAction}
    (succeeds : markSecurityActionFailed report before = .ok (after, reply)) :
    ∃ action, before.actions.get? (report.tenantId, report.actionId) = some action ∧
      heldClaim action report.claimToken report.failedAt ∧
      after = recordFailure action report before := by
  simp only [markSecurityActionFailed, Checked.bind_eq_ok, Checked.require_eq_ok,
    Checked.requireSome_eq_ok, Checked.pure_eq_ok, exists_const, Prod.mk.injEq] at succeeds
  rcases succeeds with ⟨_, action, found, held, rfl, _⟩
  exact ⟨action, found, held, rfl⟩

/-- A report carries a token that `Admits` allows; every other operation carries none. -/
def QueueOp.Admitted (Admits : Option ClaimToken → Prop) : QueueOp → Prop
  | .succeed report => Admits report.claimToken
  | .fail report => Admits report.claimToken
  | _ => True

theorem applyQueue_admitted {op : QueueOp} {before after : Database} {reply : QueueReply}
    (admitted : op.Admitted Admits) (succeeds : applyQueue op before = .ok (after, reply)) :
    AdmittedEffects Admits before after := by
  cases op with
  | requestQuarantine session p =>
      simp only [applyQueue, Checked.bind_eq_ok, Checked.pure_eq_ok, Prod.mk.injEq] at succeeds
      rcases succeeds with ⟨⟨middle, row⟩, called, rfl, _⟩
      exact requestQuarantineAction_effects called
  | enqueueSeverity clock p =>
      simp only [applyQueue, Checked.bind_eq_ok, Checked.pure_eq_ok, Prod.mk.injEq] at succeeds
      rcases succeeds with ⟨⟨middle, row⟩, called, rfl, _⟩
      rcases enqueueSeveritySecurityAction_cases called with ⟨correlationId, enqueued⟩
      exact (enqueueSecurityActionInternal_admitted _ enqueued).1
  | authorizeRecovery session p =>
      simp only [applyQueue, Checked.bind_eq_ok, Checked.pure_eq_ok, Prod.mk.injEq] at succeeds
      rcases succeeds with ⟨⟨middle, row⟩, called, rfl, _⟩
      exact authorizeSecurityRecovery_effects called
  | claim call =>
      simp only [applyQueue, Checked.bind_eq_ok, Checked.pure_eq_ok, Prod.mk.injEq] at succeeds
      rcases succeeds with ⟨⟨middle, row⟩, called, rfl, _⟩
      exact claimSecurityAction_effects called
  | succeed report =>
      simp only [applyQueue, Checked.bind_eq_ok, Checked.pure_eq_ok, Prod.mk.injEq] at succeeds
      rcases succeeds with ⟨⟨middle, row⟩, called, rfl, _⟩
      rcases markSecurityActionSucceeded_cases called with ⟨action, state, legal, shape, rfl⟩
      exact .single (.succeed legal shape admitted)
  | fail report =>
      simp only [applyQueue, Checked.bind_eq_ok, Checked.pure_eq_ok, Prod.mk.injEq] at succeeds
      rcases succeeds with ⟨⟨middle, row⟩, called, rfl, _⟩
      rcases markSecurityActionFailed_cases called with ⟨action, found, held, rfl⟩
      exact .single (.fail found held admitted)
  | recoverLeases clock recoveredBy recoveredAt =>
      simp only [applyQueue, recoverExpiredLeases, Checked.bind_eq_ok, Checked.require_eq_ok,
        Checked.pure_eq_ok, exists_const, Prod.mk.injEq] at succeeds
      rcases succeeds with ⟨⟨middle, count⟩, ⟨_, rfl, _⟩, rfl, _⟩
      exact .single (.expire recoveredAt)
  | certificates op =>
      simp only [applyQueue, Checked.bind_eq_ok, Checked.pure_eq_ok, Prod.mk.injEq] at succeeds
      rcases succeeds with ⟨⟨inventory, row⟩, called, rfl, _⟩
      exact .single (.environment rfl rfl rfl rfl rfl (applyInventory_extends called))
  | recordTransition row =>
      simp only [applyQueue, recordTransition, Checked.bind_eq_ok, Checked.requireSome_eq_ok,
        Checked.pure_eq_ok, Prod.mk.injEq] at succeeds
      rcases succeeds with ⟨middle, ⟨transitions, _, rfl⟩, rfl, _⟩
      exact .single (.unchangedQueue rfl rfl rfl rfl rfl rfl)
  | recordProvenance row =>
      simp only [applyQueue, Checked.bind_eq_ok, Checked.requireSome_eq_ok, Checked.pure_eq_ok,
        Prod.mk.injEq] at succeeds
      rcases succeeds with ⟨provenance, _, rfl, _⟩
      exact .single (.unchangedQueue rfl rfl rfl rfl rfl rfl)
  | recordStepUpProof row =>
      simp only [applyQueue, Checked.bind_eq_ok, Checked.requireSome_eq_ok, Checked.pure_eq_ok,
        Prod.mk.injEq] at succeeds
      rcases succeeds with ⟨proofs, _, rfl, _⟩
      exact .single (.unchangedQueue rfl rfl rfl rfl rfl rfl)
  | consumeStepUp session p =>
      simp only [applyQueue, Checked.bind_eq_ok, Checked.pure_eq_ok, Prod.mk.injEq] at succeeds
      rcases succeeds with ⟨⟨proofs, consumed⟩, _, rfl, _⟩
      exact .single (.unchangedQueue rfl rfl rfl rfl rfl rfl)

theorem AdmittedEffect.effect {before after : Database}
    (effect : AdmittedEffect Admits before after) : Effect before after := by
  cases effect with
  | environment states actions attempts authorizations invalidations inventory =>
      exact .environment states actions attempts authorizations invalidations inventory
  | createState found owner inserted => exact .createState found owner inserted
  | enqueue found authorized inserted => exact .enqueue found authorized inserted
  | authorize found version present key target type recovery permitted unique inserted =>
      exact .authorize found version present key target type recovery permitted unique inserted
  | expire at_ => exact .expire at_
  | suppress legal succeeds => exact .suppress legal succeeds
  | execute present candidate effective found fits succeeds =>
      exact .execute present candidate effective found fits succeeds
  | succeed legal shape _ => exact .succeed legal shape trivial
  | fail found held _ => exact .fail found held trivial

/-- The induction rule for invariants of the queue: one obligation per effect. -/
theorem effects_preserve {Inv : Database → Prop}
    (preserved : ∀ before after, Inv before → AdmittedEffect Admits before after → Inv after)
    {before after : Database} (holds : Inv before)
    (effects : AdmittedEffects Admits before after) : Inv after := by
  induction effects with
  | refl => exact holds
  | tail _ effect ih => exact preserved _ _ ih effect

end Admits

theorem enqueueSecurityActionInternal_effects {clock : Timestamp} {p : EnqueueRequest}
    {before after : Database} {action : SecurityAction}
    (succeeds : enqueueSecurityActionInternal clock p before = .ok (after, action)) :
    Effects before after ∧ action ∈ after.actions ∧ Answers p action ∧
      after.authorizations = before.authorizations ∧
      after.states = initializeSecurityState p.target before :=
  enqueueSecurityActionInternal_admitted (fun _ => True) succeeds

theorem applyQueue_effects {op : QueueOp} {before after : Database} {reply : QueueReply}
    (succeeds : applyQueue op before = .ok (after, reply)) : Effects before after :=
  applyQueue_admitted (by cases op <;> trivial) succeeds

theorem reachable_invariant {Inv : Database → Prop}
    (fresh : ∀ db, db.Fresh → Inv db)
    (preserved : ∀ before after, Inv before → Effect before after → Inv after)
    {db : Database} (reachable : db.Reachable) : Inv db :=
  reachable.invariant fresh fun _ _ _ _ holds succeeds =>
    effects_preserve preserved holds (applyQueue_effects succeeds)

theorem run_invariant (Inv : Database → Prop)
    (preserved : ∀ before after, Inv before → Effect before after → Inv after)
    (db : Database) (ops : List QueueOp) (holds : Inv db) : Inv (runQueue db ops) :=
  Transaction.run_preserves
    (fun _ _ _ _ held succeeds => effects_preserve preserved held (applyQueue_effects succeeds))
    db ops holds

end TenantTrust.Orchestration
