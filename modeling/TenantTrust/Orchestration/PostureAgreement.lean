import TenantTrust.Orchestration.ExecutionInvariant

/-! The posture rows of the database against the state machine of the orchestrator service. -/

namespace TenantTrust.Orchestration

open Library Identity Audit

/-- Where the state machine accepts an action, its result is the one that the database
expects, and it accepts every restriction. -/
def Agrees (actionType : SecurityActionType) (posture : SecurityActionState) : Prop :=
  (∀ result, transitionSecurityActionState posture actionType = .ok result →
    result.state = expectedResultState actionType posture) ∧
  (actionType.authority ≠ .recoveryAuthorization →
    ∃ result, transitionSecurityActionState posture actionType = .ok result)

/-- The two transition functions differ on a repeated revocation of a reopened posture only. -/
theorem next_eq_expected {actionType : SecurityActionType} {posture next : SecurityActionState}
    (consistent : posture.Consistent)
    (closed : actionType = .revokeCertificate → ¬ posture.reopened)
    (moved : nextSecurityActionState actionType posture = .ok next) :
    next = expectedResultState actionType posture := by
  unfold expectedResultState
  cases actionType with
  | restrictAccess =>
      simp only [nextSecurityActionState, Except.ok.injEq] at moved
      simp [← moved]
  | suspendSubject =>
      simp only [nextSecurityActionState, Except.ok.injEq] at moved
      simp [← moved]
  | blockRenewal =>
      simp only [nextSecurityActionState, Except.ok.injEq] at moved
      simp [← moved]
  | restoreAccess =>
      simp only [nextSecurityActionState] at moved
      split at moved
      · cases moved
      · simp only [Except.ok.injEq] at moved
        simp [← moved]
  | issueReplacementCertificate =>
      simp only [nextSecurityActionState] at moved
      split at moved
      · cases moved
      · simp only [Except.ok.injEq] at moved
        simp [← moved]
  | revokeCertificate =>
      simp only [nextSecurityActionState] at moved
      split at moved
      · rename_i revoked
        have kept : posture.access = .suspended ∧ posture.renewal = .blocked := by
          by_contra open_
          exact closed rfl ⟨revoked, open_⟩
        simp only [Except.ok.injEq] at moved
        rw [← moved]
        rcases posture with ⟨access, renewal, certificate, replacement⟩
        simp only at kept revoked
        simp [kept.1, kept.2, revoked]
      · rename_i active
        simp only [Except.ok.injEq] at moved
        simp [← moved, active]

theorem agrees {actionType : SecurityActionType} {posture : SecurityActionState}
    (consistent : posture.Consistent)
    (closed : actionType = .revokeCertificate → ¬ posture.reopened) :
    Agrees actionType posture := by
  constructor
  · intro result succeeds
    rcases transitionSecurityActionState_eq_ok succeeds with ⟨_, moved, _⟩
    exact next_eq_expected consistent closed moved
  · exact restriction_transitions consistent

/-- A recorded success leads from a consistent posture to a consistent one. -/
theorem success_consistent {db : Database} (sound : Sound db) {report : SuccessReport}
    {action : SecurityAction} {state : SubjectSecurityState}
    (legal : Succeeds db report action state)
    (consistent : state.posture.Consistent) :
    (expectedResultState action.actionType state.posture).Consistent := by
  have present := Table.get?_mem legal.action_found
  -- A recovery acts on the posture that its authorization was granted for.
  have permits : action.authorityClass = .recoveryAuthorization →
      permitsRecovery state.posture action.actionType := by
    intro recovers
    rcases heldClaim_spec legal.held with ⟨claim, executing, _⟩
    rcases sound.snapshot.bound action present recovers
      (by simp [executing, ActionExecution.status]) with ⟨authorization, found, bound⟩
    rcases sound.snapshot.granted authorization (Table.get?_mem found) with
      ⟨granter, granterPresent, grants⟩
    rw [db.actions.unique granterPresent present (grants.key.trans (Table.get?_key found))]
      at grants
    rw [grants.actionType]
    refine sound.execution.permitted authorization (Table.get?_mem found) state ?_
      (legal.version.trans bound.symm)
    rw [← grants.target]
    exact legal.state_found
  have authority := action.authorized
  rcases consistent with ⟨suspended, active, revoked, required⟩
  unfold expectedResultState
  cases type : action.actionType with
  | restrictAccess =>
      refine ⟨?_, by simpa using active, by simpa using revoked, ?_⟩
      · simp only
        split
        · intro impossible
          cases impossible
        · exact suspended
      · simp only [reduceCtorEq, false_and, if_false]
        intro isRevoked isRequired
        rcases required isRevoked isRequired with ⟨access, renewal⟩
        simp [access, renewal]
  | suspendSubject => exact ⟨by simp, by simpa using active, by simpa using revoked, by simp⟩
  | blockRenewal =>
      refine ⟨by simp, by simpa using active, by simpa using revoked, ?_⟩
      simp only [reduceCtorEq, false_and, if_false]
      intro isRevoked isRequired
      exact ⟨(required isRevoked isRequired).1, trivial⟩
  | revokeCertificate =>
      refine ⟨by simp, by simp, ?_, by simp⟩
      simp only [if_true, true_and]
      intro _
      split
      · simp
      · rename_i already
        simpa using revoked (not_not.mp already)
  | restoreAccess =>
      rw [type] at authority permits
      have issued := permits authority.symm
      refine ⟨by simp, by simpa using active, by simpa using revoked, ?_⟩
      simp only [reduceCtorEq, false_and, if_false]
      intro isRevoked isRequired
      rw [issued isRevoked] at isRequired
      cases isRequired
  | issueReplacementCertificate =>
      rw [type] at authority permits
      have isRevoked : state.posture.targetCertificate = .revoked := permits authority.symm
      refine ⟨by simpa using suspended, by simp [isRevoked], by simp, by simp⟩

theorem executing_agrees {db : Database} (sound : Sound db) {action : SecurityAction}
    (present : action ∈ db.actions) (executing : action.execution.status = .executing)
    {state : SubjectSecurityState} (found : db.states.get? action.target = some state)
    (consistent : state.posture.Consistent) : Agrees action.actionType state.posture := by
  refine agrees consistent fun revokes reopened => ?_
  refine sound.execution.revocations state (Table.get?_mem found) reopened action present
    (Table.get?_key found).symm revokes ⟨by simp [SecurityAction.awaits, executing], ?_⟩
  have started := (sound.queue.counts action present).started (by
    intro pending
    rw [pending] at executing
    cases executing)
  omega

/-- The database and the service agree about every posture and every claimed action. -/
structure PosturesAgree (db : Database) : Prop where
  accepted : ∀ state ∈ db.states,
    defineSecurityActionState state.posture = .ok state.posture
  claimed : ∀ call after claimed,
    applyQueue (.claim call) db = .ok (after, .claimed (some claimed)) →
    Agrees claimed.action.actionType claimed.posture
  executing : ∀ action ∈ db.actions, action.execution.status = .executing → ∃ state,
    db.states.get? action.target = some state ∧
      state.stateVersion = action.expectedStateVersion ∧ Agrees action.actionType state.posture

theorem suppress_sameStates {call : ClaimCall} {suppressed : SecurityAction → Bool}
    {code : String} {before after : Database}
    (succeeds : suppress call suppressed code before = .ok after) :
    after.states = before.states := by
  rcases suppress_states succeeds with ⟨attempts, _, rfl⟩
  rfl

/-- A claim moves no posture, and what it returns is the action that now executes together
with the posture of its target. -/
theorem claimSecurityAction_cases {call : ClaimCall} {before after : Database}
    {claimed : Option ClaimedAction}
    (succeeds : claimSecurityAction call before = .ok (after, claimed)) :
    after.states = before.states ∧ ∀ reply, claimed = some reply →
      reply.action ∈ after.actions ∧ reply.action.execution.status = .executing ∧
      ∃ state, after.states.get? reply.action.target = some state ∧
        reply.posture = state.posture := by
  simp only [claimSecurityAction, Checked.bind_eq_ok, Checked.require_eq_ok,
    exists_const] at succeeds
  rcases succeeds with ⟨_, refreshed, stale, remaining, redundant, succeeds⟩
  have refreshedStates : refreshed.states = before.states := by
    have kept := suppress_sameStates stale
    exact kept
  have swept := (suppress_sameStates redundant).trans refreshedStates
  unfold claimCandidate at succeeds
  split at succeeds
  · simp only [Except.ok.injEq, Prod.mk.injEq] at succeeds
    rcases succeeds with ⟨rfl, rfl⟩
    exact ⟨swept, fun reply none_ => by cases none_⟩
  · rename_i chosen selected
    simp only [Checked.bind_eq_ok, Checked.requireSome_eq_ok] at succeeds
    rcases succeeds with ⟨state, found, succeeds⟩
    split at succeeds
    · simp only [Checked.bind_eq_ok, Checked.pure_eq_ok, Prod.mk.injEq] at succeeds
      rcases succeeds with ⟨final, suppressed, rfl, rfl⟩
      exact ⟨(suppress_sameStates suppressed).trans swept, fun reply none_ => by cases none_⟩
    · rcases startExecution_cases succeeds with
        ⟨_, attempts, _, rfl, reply, rfl, action, posture⟩
      refine ⟨swept, fun other same => ?_⟩
      rw [← Option.some.inj same, action, posture]
      refine ⟨(Table.mem_update _ _ (executeAction_key _ _ _) _).mpr
        ⟨chosen, (selectCandidate_spec selected).1, rfl⟩, ?_, state, ?_, rfl⟩
      · simp [executeAction, ActionExecution.status]
      · simpa [executeAction] using found

theorem mem_initializeSecurityState {target : Target} {db : Database}
    {state : SubjectSecurityState} (member : state ∈ initializeSecurityState target db) :
    state ∈ db.states ∨ db.states.get? target = none ∧ ∃ certificate,
      db.inventory.certificate? target.tenantId target.certificateId = some certificate ∧
      certificate.subjectId = target.subjectId ∧
      state = initialSecurityState target certificate := by
  unfold initializeSecurityState at member
  split at member
  · rename_i certificate found
    split at member
    · rename_i owner
      cases inserted : db.states.insertNew (initialSecurityState target certificate) with
      | none =>
          rw [inserted] at member
          exact Or.inl member
      | some states =>
          rw [inserted] at member
          rcases (Table.mem_insertNew inserted state).mp member with old | rfl
          · exact Or.inl old
          · exact Or.inr ⟨(Table.get?_eq_none _ _).mpr (Table.insertNew_fresh inserted),
              certificate, found, owner, rfl⟩
    · exact Or.inl member
  · exact Or.inl member

/-- The row that a first request opens is consistent unless its certificate is revoked. -/
theorem initialSecurityState_consistent {target : Target} {certificate : Certificate} :
    (initialSecurityState target certificate).posture.Consistent ↔
      certificate.state ≠ .revoked := by
  have posture : (initialSecurityState target certificate).posture = ⟨.normal, .allowed,
      if certificate.state = .revoked then .revoked else .active, .notRequired⟩ := rfl
  rw [posture]
  constructor
  · intro consistent revoked
    rw [if_pos revoked] at consistent
    exact consistent.revoked_replacement rfl rfl
  · intro active
    rw [if_neg active]
    decide

def SeverityRequest.target (p : SeverityRequest) : Target :=
  ⟨p.tenantId, p.targetSubjectId, p.targetCertificateId⟩

/-- No severity action is accepted as the first one for a target whose certificate is
revoked already. -/
def OpensUnrevoked (db : Database) (op : QueueOp) : Prop :=
  match op with
  | .enqueueSeverity clock p => (applyQueue (.enqueueSeverity clock p) db).isOk →
      db.states.get? p.target = none → ownsRevokedCertificate db.inventory p.target = false
  | _ => True

instance (db : Database) (op : QueueOp) : Decidable (OpensUnrevoked db op) := by
  unfold OpensUnrevoked
  split <;> infer_instance

theorem ownsRevokedCertificate_iff {inventory : Inventory} {target : Target}
    {certificate : Certificate}
    (found : inventory.certificate? target.tenantId target.certificateId = some certificate)
    (owner : certificate.subjectId = target.subjectId) :
    ownsRevokedCertificate inventory target ↔ certificate.state = .revoked := by
  simp [ownsRevokedCertificate, found, owner]

/-- Every posture after an operation is consistent if those before it were and the
operation opens no row for a revoked certificate. -/
theorem accepted_step {op : QueueOp} {before after : Database} {reply : QueueReply}
    (sound : Sound before) (consistent : ∀ state ∈ before.states, state.posture.Consistent)
    (guard : OpensUnrevoked before op) (succeeds : applyQueue op before = .ok (after, reply)) :
    ∀ state ∈ after.states, state.posture.Consistent := by
  have whole := succeeds
  cases op with
  | requestQuarantine session p =>
      simp only [applyQueue, Checked.bind_eq_ok, Checked.pure_eq_ok, Prod.mk.injEq] at succeeds
      rcases succeeds with ⟨⟨middle, row⟩, called, rfl, _⟩
      rcases requestQuarantineAction_cases called with ⟨owns, rfl | ⟨requests, action, enqueued⟩⟩
      · exact consistent
      · intro state member
        rw [(enqueueSecurityActionInternal_effects enqueued).2.2.2.2] at member
        rcases mem_initializeSecurityState member with old | ⟨_, certificate, found, _, rfl⟩
        · exact consistent state old
        · refine initialSecurityState_consistent.mpr fun revoked => ?_
          simp only [ownsActiveCertificate] at owns
          simp only [QuarantineRequest.enqueue] at found
          simp [found, revoked] at owns
  | enqueueSeverity clock p =>
      simp only [applyQueue, Checked.bind_eq_ok, Checked.pure_eq_ok, Prod.mk.injEq] at succeeds
      rcases succeeds with ⟨⟨middle, row⟩, called, rfl, _⟩
      rcases enqueueSeveritySecurityAction_cases called with ⟨correlationId, enqueued⟩
      intro state member
      rw [(enqueueSecurityActionInternal_effects enqueued).2.2.2.2] at member
      rcases mem_initializeSecurityState member with old | ⟨fresh, certificate, found, owner, rfl⟩
      · exact consistent state old
      · refine initialSecurityState_consistent.mpr fun revoked => ?_
        have unrevoked := guard (by rw [whole]; rfl) fresh
        have owned : ownsRevokedCertificate before.inventory p.target :=
          (ownsRevokedCertificate_iff found owner).mpr revoked
        rw [unrevoked] at owned
        cases owned
  | authorizeRecovery session p =>
      simp only [applyQueue, Checked.bind_eq_ok, Checked.pure_eq_ok, Prod.mk.injEq] at succeeds
      rcases succeeds with ⟨⟨middle, row⟩, called, rfl, _⟩
      rcases authorizeSecurityRecovery_cases called with rfl | fresh
      · exact consistent
      · rcases authorizeNewRecovery_cases fresh with
          ⟨_, _, proofs, action, opened, authorizations, granted, enqueued, _, _, _, rfl⟩
        have same : opened.states = before.states := by
          rw [(enqueueSecurityActionInternal_effects enqueued).2.2.2.2]
          exact initializeSecurityState_found granted.state_found
        intro state member
        exact consistent state (same ▸ member)
  | claim call =>
      simp only [applyQueue, Checked.bind_eq_ok, Checked.pure_eq_ok, Prod.mk.injEq] at succeeds
      rcases succeeds with ⟨⟨middle, row⟩, called, rfl, _⟩
      rw [(claimSecurityAction_cases called).1]
      exact consistent
  | succeed report =>
      simp only [applyQueue, Checked.bind_eq_ok, Checked.pure_eq_ok, Prod.mk.injEq] at succeeds
      rcases succeeds with ⟨⟨middle, row⟩, called, rfl, _⟩
      rcases markSecurityActionSucceeded_cases called with ⟨action, state, legal, shape, rfl⟩
      intro new member
      have effect : Effect before _ := .succeed legal shape trivial
      rcases effect.state_origin member with
        ⟨_, _, _, fresh, _⟩ | old | ⟨other, target, old, otherLegal, _, _, result, _⟩
      · rcases (Table.mem_update _ _ (advanceState_target _ _ _ shape) _).mp member with
          ⟨prior, present, rfl⟩
        rw [advanceState_target] at fresh
        exact absurd rfl ((Table.get?_eq_none _ _).mp fresh prior present)
      · exact consistent new old
      · rw [result]
        exact success_consistent sound otherLegal
          (consistent old (Table.get?_mem otherLegal.state_found))
  | fail report =>
      simp only [applyQueue, Checked.bind_eq_ok, Checked.pure_eq_ok, Prod.mk.injEq] at succeeds
      rcases succeeds with ⟨⟨middle, row⟩, called, rfl, _⟩
      rcases markSecurityActionFailed_cases called with ⟨action, _, _, rfl⟩
      exact consistent
  | recoverLeases clock recoveredBy recoveredAt =>
      simp only [applyQueue, recoverExpiredLeases, Checked.bind_eq_ok, Checked.require_eq_ok,
        Checked.pure_eq_ok, exists_const, Prod.mk.injEq] at succeeds
      rcases succeeds with ⟨⟨middle, count⟩, ⟨_, rfl, _⟩, rfl, _⟩
      exact consistent
  | certificates op =>
      simp only [applyQueue, Checked.bind_eq_ok, Checked.pure_eq_ok, Prod.mk.injEq] at succeeds
      rcases succeeds with ⟨_, _, rfl, _⟩
      exact consistent
  | recordTransition row =>
      simp only [applyQueue, recordTransition, Checked.bind_eq_ok, Checked.requireSome_eq_ok,
        Checked.pure_eq_ok, Prod.mk.injEq] at succeeds
      rcases succeeds with ⟨middle, ⟨transitions, _, rfl⟩, rfl, _⟩
      exact consistent
  | recordProvenance row =>
      simp only [applyQueue, Checked.bind_eq_ok, Checked.requireSome_eq_ok, Checked.pure_eq_ok,
        Prod.mk.injEq] at succeeds
      rcases succeeds with ⟨provenance, _, rfl, _⟩
      exact consistent
  | recordStepUpProof row =>
      simp only [applyQueue, Checked.bind_eq_ok, Checked.requireSome_eq_ok, Checked.pure_eq_ok,
        Prod.mk.injEq] at succeeds
      rcases succeeds with ⟨provenance, _, rfl, _⟩
      exact consistent
  | consumeStepUp session p =>
      simp only [applyQueue, Checked.bind_eq_ok, Checked.pure_eq_ok, Prod.mk.injEq] at succeeds
      rcases succeeds with ⟨⟨proofs, consumed⟩, _, rfl, _⟩
      exact consistent

theorem accepted_run {start : Database} (fresh : start.Fresh) (ops : List QueueOp)
    (guarded : Transaction.Guarded applyQueue OpensUnrevoked start ops) :
    ∀ state ∈ (runQueue start ops).states, state.posture.Consistent := by
  have both := Transaction.run_preserves_guarded
    (fun db => Sound db ∧ ∀ state ∈ db.states, state.posture.Consistent)
    (fun before op after reply holds guard succeeds =>
      ⟨effects_preserve (fun _ _ => sound_effect) holds.1 (applyQueue_effects succeeds),
        accepted_step holds.1 holds.2 guard succeeds⟩)
    start ops guarded ⟨sound_run fresh [], by
      rw [fresh.states]
      intro state member
      exact absurd member (Table.not_mem_empty state)⟩
  exact both.2

theorem posturesAgree {db : Database} (sound : Sound db)
    (consistent : ∀ state ∈ db.states, state.posture.Consistent) : PosturesAgree db where
  accepted := fun state member => (consistent state member).defined
  claimed := by
    intro call after claimed succeeds
    have later := effects_preserve (fun _ _ => sound_effect) sound (applyQueue_effects succeeds)
    simp only [applyQueue, Checked.bind_eq_ok, Checked.pure_eq_ok, Prod.mk.injEq,
      QueueReply.claimed.injEq] at succeeds
    rcases succeeds with ⟨⟨middle, row⟩, called, rfl, same⟩
    rcases claimSecurityAction_cases called with ⟨states, reply⟩
    rcases reply claimed same with ⟨member, executing, state, found, posture⟩
    rw [posture]
    refine executing_agrees later member executing found (consistent state ?_)
    have present := Table.get?_mem found
    rwa [states] at present
  executing := by
    intro action present executing
    rcases sound.execution.version action present executing with ⟨state, found, version⟩
    exact ⟨state, found, version, executing_agrees sound present executing found
      (consistent state (Table.get?_mem found))⟩

/-- A severity action that opens the row of a revoked certificate leaves a posture that the
state machine rejects. -/
theorem opensUnrevoked_of_accepted {db : Database} {op : QueueOp}
    (accepted : ∀ state ∈ (commitQueue db op).states, state.posture.Consistent) :
    OpensUnrevoked db op := by
  unfold OpensUnrevoked
  split
  · rename_i clock p
    intro ok fresh
    cases result : applyQueue (.enqueueSeverity clock p) db with
    | error failure =>
        rw [result] at ok
        cases ok
    | ok pair =>
        have committed : commitQueue db (.enqueueSeverity clock p) = pair.1 :=
          Transaction.commit_ok result
        simp only [applyQueue, Checked.bind_eq_ok, Checked.pure_eq_ok] at result
        rcases result with ⟨⟨middle, row⟩, called, rfl⟩
        rcases enqueueSeveritySecurityAction_cases called with ⟨correlationId, enqueued⟩
        have states : middle.states = initializeSecurityState p.target db :=
          (enqueueSecurityActionInternal_effects enqueued).2.2.2.2
        rw [committed] at accepted
        by_contra owned
        rw [Bool.not_eq_false] at owned
        unfold ownsRevokedCertificate at owned
        split at owned
        · rename_i certificate found
          simp only [Bool.and_eq_true, decide_eq_true_eq] at owned
          have opened : initialSecurityState p.target certificate ∈ middle.states := by
            rw [states, initializeSecurityState]
            simp only [found, owned.1, if_true]
            have inserted : db.states.insertNew (initialSecurityState p.target certificate) =
                some (db.states.insert (initialSecurityState p.target certificate) fresh) :=
              Table.insertNew_eq_some.mpr ⟨fresh, rfl⟩
            rw [inserted]
            exact (Table.mem_insertNew inserted _).mpr (Or.inr rfl)
          exact initialSecurityState_consistent.mp (accepted _ opened) owned.2
        · cases owned
  · trivial

/-- The durable postures agree with the state machine all along a run exactly when no
severity action of the run opens the row of a revoked certificate. -/
theorem postures_agree_iff {start : Database} (fresh : start.Fresh) (ops : List QueueOp) :
    (∀ front back, ops = front ++ back → PosturesAgree (runQueue start front)) ↔
      Transaction.Guarded applyQueue OpensUnrevoked start ops := by
  constructor
  · intro agree
    refine (Transaction.guarded_iff start ops).mpr fun front op back split_ => ?_
    have next := agree (front ++ [op]) back (by rw [split_, List.append_assoc]; rfl)
    refine opensUnrevoked_of_accepted fun state member => ?_
    rw [runQueue_append] at next
    exact (defineSecurityActionState_eq_ok.mp (next.accepted state member)).1
  · intro guarded front back split_
    rw [split_] at guarded
    exact posturesAgree (sound_run fresh front)
      (accepted_run fresh front ((Transaction.guarded_append start front back).mp guarded).1)

theorem restored_postures_agree :
    PosturesAgree (runQueue Scenario.deployment Scenario.restored) :=
  (postures_agree_iff Scenario.deployment_fresh Scenario.restored).mpr
    ⟨by decide, by decide, by decide, by decide, by decide, by decide, by decide, trivial⟩
    Scenario.restored [] (List.append_nil _).symm

/-- A renewal block for a certificate that was revoked before: the row that it opens is
rejected by the state machine whatever the action, and the attempt fails again and again. -/
theorem revoked_before_first_action_disagrees :
    ¬ PosturesAgree
      (runQueue Scenario.deployment [Scenario.revocation, Scenario.severity .blockRenewal]) ∧
    (∃ state ∈ (runQueue Scenario.deployment [Scenario.revocation, Scenario.severity .blockRenewal,
        Scenario.claim 1, Scenario.failure 2 1]).states,
      ∀ actionType, transitionSecurityActionState state.posture actionType =
        .error "REVOKED_CERTIFICATE_REPLACEMENT_REQUIRED") ∧
    ∃ action ∈ (runQueue Scenario.deployment [Scenario.revocation, Scenario.severity .blockRenewal,
        Scenario.claim 1, Scenario.failure 2 1]).actions,
      action.execution = .failed ∧ action.nextAttemptAt = (1000 : Timestamp) := by
  have rejected : ∃ state ∈ (runQueue Scenario.deployment
      [Scenario.revocation, Scenario.severity .blockRenewal]).states,
      ¬ state.posture.Consistent := by decide
  refine ⟨fun agree => ?_, ?_, by decide⟩
  · rcases rejected with ⟨state, member, inconsistent⟩
    exact inconsistent (defineSecurityActionState_eq_ok.mp (agree.accepted state member)).1
  · have row : ∃ state ∈ (runQueue Scenario.deployment
        [Scenario.revocation, Scenario.severity .blockRenewal, Scenario.claim 1,
          Scenario.failure 2 1]).states,
        state.posture = ⟨.normal, .allowed, .revoked, .notRequired⟩ := by decide
    rcases row with ⟨state, member, posture⟩
    refine ⟨state, member, fun actionType => ?_⟩
    rw [posture]
    rfl

end TenantTrust.Orchestration
