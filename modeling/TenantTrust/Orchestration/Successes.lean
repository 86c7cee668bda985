import TenantTrust.Orchestration.QueueInvariant

/-! Only a success report makes an action succeed, so every success of a run goes back to
one report and to the checks that it passed. -/

namespace TenantTrust.Orchestration

open Library Identity Audit

/-- Every row continues one with the same key, and no success is new. -/
def Quiet (before after : ActionTable) : Prop :=
  ∀ action ∈ after, ∃ old ∈ before, old.key = action.key ∧
    (action.execution.status = .succeeded → old = action)

theorem Quiet.refl (actions : ActionTable) : Quiet actions actions :=
  fun action member => ⟨action, member, rfl, fun _ => rfl⟩

theorem Quiet.trans {first second third : ActionTable} (earlier : Quiet first second)
    (later : Quiet second third) : Quiet first third := by
  intro action member
  rcases later action member with ⟨middle, middleMember, middleKey, middleDone⟩
  rcases earlier middle middleMember with ⟨old, oldMember, oldKey, oldDone⟩
  refine ⟨old, oldMember, oldKey.trans middleKey, fun done => ?_⟩
  have same := middleDone done
  rw [oldDone (by rwa [same]), same]

theorem quiet_update {actions : ActionTable} {f : SecurityAction → SecurityAction}
    (keeps : ∀ action, (f action).key = action.key)
    (open_ : ∀ action, f action = action ∨ (f action).execution.status ≠ .succeeded) :
    Quiet actions (actions.update f keeps) := by
  intro action member
  rcases (Table.mem_update _ _ keeps _).mp member with ⟨old, present, rfl⟩
  refine ⟨old, present, (keeps old).symm, fun done => ?_⟩
  rcases open_ old with same | other
  · exact same.symm
  · exact absurd done other

theorem quiet_expire (at_ : Timestamp) (db : Database) :
    Quiet db.actions (expireLeases at_ db).actions := by
  refine quiet_update (expireAction_key at_) fun action => ?_
  unfold expireAction
  split
  · exact Or.inr (by simp [ActionExecution.status])
  · exact Or.inl rfl

theorem quiet_suppress {call : ClaimCall} {suppressed : SecurityAction → Bool}
    {code : String} {before after : Database}
    (succeeds : suppress call suppressed code before = .ok after) :
    Quiet before.actions after.actions := by
  rcases suppress_states succeeds with ⟨attempts, _, rfl⟩
  refine quiet_update (suppressAction_key _ _) fun action => ?_
  unfold suppressAction
  split
  · exact Or.inr (by simp [ActionExecution.status])
  · exact Or.inl rfl

theorem quiet_start {call : ClaimCall} {chosen : SecurityAction}
    {state : SubjectSecurityState} {before after : Database} {claimed : Option ClaimedAction}
    (succeeds : startExecution call chosen state before = .ok (after, claimed)) :
    Quiet before.actions after.actions := by
  rcases startExecution_cases succeeds with ⟨_, attempts, _, rfl, _⟩
  refine quiet_update (executeAction_key _ _ _) fun action => ?_
  unfold executeAction
  split
  · exact Or.inr (by simp [ActionExecution.status])
  · exact Or.inl rfl

theorem quiet_claim {call : ClaimCall} {before after : Database}
    {claimed : Option ClaimedAction}
    (succeeds : claimSecurityAction call before = .ok (after, claimed)) :
    Quiet before.actions after.actions := by
  simp only [claimSecurityAction, Checked.bind_eq_ok, Checked.require_eq_ok,
    exists_const] at succeeds
  rcases succeeds with ⟨_, refreshed, stale, remaining, redundant, succeeds⟩
  refine ((quiet_expire call.claimedAt before).trans
    (quiet_suppress stale)).trans ((quiet_suppress redundant).trans ?_)
  unfold claimCandidate at succeeds
  split at succeeds
  · simp only [Except.ok.injEq, Prod.mk.injEq] at succeeds
    rw [← succeeds.1]
    exact .refl _
  · simp only [Checked.bind_eq_ok, Checked.requireSome_eq_ok] at succeeds
    rcases succeeds with ⟨state, _, succeeds⟩
    split at succeeds
    · simp only [Checked.bind_eq_ok, Checked.pure_eq_ok, Prod.mk.injEq] at succeeds
      rcases succeeds with ⟨final, suppressed, rfl, _⟩
      exact quiet_suppress suppressed
    · exact quiet_start succeeds

/-- The actions after an operation that is not a success report. -/
inductive ActionsOutcome (before after : Database) : Prop where
  | quiet (rows : Quiet before.actions after.actions)
  | requested (p : EnqueueRequest) (version : Nat)
      (authorized : p.actionType.authority = p.authorityClass)
      (inserted : before.actions.insertNew (p.action version authorized) = some after.actions)
      (states : after.states = initializeSecurityState p.target before)

/-- An enqueue returns the action of the same decision or appends the requested one. -/
theorem enqueueSecurityActionInternal_outcome {clock : Timestamp} {p : EnqueueRequest}
    {before after : Database} {action : SecurityAction}
    (succeeds : enqueueSecurityActionInternal clock p before = .ok (after, action)) :
    ActionsOutcome before after := by
  simp only [enqueueSecurityActionInternal, Checked.bind_eq_ok, Checked.require_eq_ok,
    Checked.requireSome_eq_ok, exists_const] at succeeds
  rcases succeeds with ⟨_, state, _, succeeds⟩
  split at succeeds
  · simp only [Checked.bind_eq_ok, Checked.require_eq_ok, Checked.pure_eq_ok, exists_const,
      Prod.mk.injEq] at succeeds
    rcases succeeds with ⟨_, rfl, _⟩
    exact .quiet (.refl _)
  · simp only [insertAction] at succeeds
    split at succeeds
    · rename_i authorized
      simp only [Checked.bind_eq_ok, Checked.requireSome_eq_ok, Checked.pure_eq_ok,
        Prod.mk.injEq] at succeeds
      rcases succeeds with ⟨actions, inserted, rfl, rfl⟩
      exact .requested p state.stateVersion authorized inserted rfl
    · simp at succeeds

theorem requestQuarantineAction_cases {session : Session} {p : QuarantineRequest}
    {before after : Database} {row : SecurityActionRequest}
    (succeeds : requestQuarantineAction session p before = .ok (after, row)) :
    ownsActiveCertificate session p.targetCertificateId before.inventory ∧
    (after = before ∨ ∃ requests action,
      enqueueSecurityActionInternal session.clock (p.enqueue session)
        { before with requests := requests } = .ok (after, action)) := by
  simp only [requestQuarantineAction, Checked.bind_eq_ok, Checked.require_eq_ok,
    exists_const] at succeeds
  rcases succeeds with ⟨⟨_, _, _, _, owns⟩, succeeds⟩
  refine ⟨owns, ?_⟩
  split at succeeds
  · simp only [Checked.bind_eq_ok, Checked.require_eq_ok, Checked.pure_eq_ok, exists_const,
      Prod.mk.injEq] at succeeds
    exact Or.inl succeeds.2.1.symm
  · simp only [Checked.bind_eq_ok, Checked.require_eq_ok, Checked.requireSome_eq_ok,
      Checked.pure_eq_ok, exists_const, Prod.mk.injEq] at succeeds
    rcases succeeds with ⟨_, _, requests, _, ⟨middle, action⟩, enqueued, rfl, _⟩
    exact Or.inr ⟨requests, action, enqueued⟩

theorem authorizeSecurityRecovery_cases {session : Session} {p : RecoveryRequest}
    {before after : Database} {row : RecoveryAuthorization}
    (succeeds : authorizeSecurityRecovery session p before = .ok (after, row)) :
    after = before ∨ authorizeNewRecovery session p before = .ok (after, row) := by
  unfold authorizeSecurityRecovery at succeeds
  split at succeeds
  · simp only [Checked.bind_eq_ok, Checked.require_eq_ok, Checked.pure_eq_ok, exists_const,
      Prod.mk.injEq] at succeeds
    exact Or.inl succeeds.2.1.symm
  · exact Or.inr succeeds

theorem applyQueue_outcome {op : QueueOp} {before after : Database} {reply : QueueReply}
    (silent : ∀ report, op ≠ .succeed report)
    (succeeds : applyQueue op before = .ok (after, reply)) : ActionsOutcome before after := by
  cases op with
  | requestQuarantine session p =>
      simp only [applyQueue, Checked.bind_eq_ok, Checked.pure_eq_ok, Prod.mk.injEq] at succeeds
      rcases succeeds with ⟨⟨middle, row⟩, called, rfl, _⟩
      rcases (requestQuarantineAction_cases called).2 with rfl | ⟨requests, action, enqueued⟩
      · exact .quiet (.refl _)
      · rcases enqueueSecurityActionInternal_outcome enqueued with
          quiet | ⟨q, version, authorized, inserted, states⟩
        · exact .quiet quiet
        · exact .requested q version authorized inserted states
  | enqueueSeverity clock p =>
      simp only [applyQueue, Checked.bind_eq_ok, Checked.pure_eq_ok, Prod.mk.injEq] at succeeds
      rcases succeeds with ⟨⟨middle, row⟩, called, rfl, _⟩
      rcases enqueueSeveritySecurityAction_cases called with ⟨correlationId, enqueued⟩
      exact enqueueSecurityActionInternal_outcome enqueued
  | authorizeRecovery session p =>
      simp only [applyQueue, Checked.bind_eq_ok, Checked.pure_eq_ok, Prod.mk.injEq] at succeeds
      rcases succeeds with ⟨⟨middle, row⟩, called, rfl, _⟩
      rcases authorizeSecurityRecovery_cases called with rfl | fresh
      · exact .quiet (.refl _)
      · rcases authorizeNewRecovery_cases fresh with
          ⟨_, _, proofs, action, opened, authorizations, _, enqueued, _, _, _, rfl⟩
        rcases enqueueSecurityActionInternal_outcome enqueued with
          quiet | ⟨q, version, authorized, inserted, states⟩
        · exact .quiet quiet
        · exact .requested q version authorized inserted states
  | claim call =>
      simp only [applyQueue, Checked.bind_eq_ok, Checked.pure_eq_ok, Prod.mk.injEq] at succeeds
      rcases succeeds with ⟨⟨middle, row⟩, called, rfl, _⟩
      exact .quiet (quiet_claim called)
  | succeed report => exact absurd rfl (silent report)
  | fail report =>
      simp only [applyQueue, Checked.bind_eq_ok, Checked.pure_eq_ok, Prod.mk.injEq] at succeeds
      rcases succeeds with ⟨⟨middle, row⟩, called, rfl, _⟩
      rcases markSecurityActionFailed_cases called with ⟨action, _, _, rfl⟩
      refine .quiet (quiet_update (failAction_key report) fun other => ?_)
      unfold failAction
      split
      · exact Or.inr (by simp [ActionExecution.status])
      · exact Or.inl rfl
  | recoverLeases clock recoveredBy recoveredAt =>
      simp only [applyQueue, recoverExpiredLeases, Checked.bind_eq_ok, Checked.require_eq_ok,
        Checked.pure_eq_ok, exists_const, Prod.mk.injEq] at succeeds
      rcases succeeds with ⟨⟨middle, count⟩, ⟨_, rfl, _⟩, rfl, _⟩
      exact .quiet (quiet_expire recoveredAt before)
  | certificates op =>
      simp only [applyQueue, Checked.bind_eq_ok, Checked.pure_eq_ok, Prod.mk.injEq] at succeeds
      rcases succeeds with ⟨_, _, rfl, _⟩
      exact .quiet (.refl _)
  | recordTransition row =>
      simp only [applyQueue, recordTransition, Checked.bind_eq_ok, Checked.requireSome_eq_ok,
        Checked.pure_eq_ok, Prod.mk.injEq] at succeeds
      rcases succeeds with ⟨middle, ⟨transitions, _, rfl⟩, rfl, _⟩
      exact .quiet (.refl _)
  | recordProvenance row =>
      simp only [applyQueue, Checked.bind_eq_ok, Checked.requireSome_eq_ok, Checked.pure_eq_ok,
        Prod.mk.injEq] at succeeds
      rcases succeeds with ⟨provenance, _, rfl, _⟩
      exact .quiet (.refl _)
  | recordStepUpProof row =>
      simp only [applyQueue, Checked.bind_eq_ok, Checked.requireSome_eq_ok, Checked.pure_eq_ok,
        Prod.mk.injEq] at succeeds
      rcases succeeds with ⟨provenance, _, rfl, _⟩
      exact .quiet (.refl _)
  | consumeStepUp session p =>
      simp only [applyQueue, Checked.bind_eq_ok, Checked.pure_eq_ok, Prod.mk.injEq] at succeeds
      rcases succeeds with ⟨⟨proofs, consumed⟩, _, rfl, _⟩
      exact .quiet (.refl _)

/-- Only a success report adds to the succeeded actions. -/
theorem ActionsOutcome.keeps_successes {before after : Database}
    (outcome : ActionsOutcome before after) {action : SecurityAction}
    (member : action ∈ after.actions) (done : action.execution.status = .succeeded) :
    action ∈ before.actions := by
  rcases outcome with rows | ⟨p, version, authorized, inserted, _⟩
  · rcases rows action member with ⟨old, present, _, same⟩
    rwa [← same done]
  · rcases (Table.mem_insertNew inserted action).mp member with old | rfl
    · exact old
    · cases done

/-- The action with this key is stored as succeeded. -/
def HasSucceeded (key : ActionKey) (db : Database) : Prop :=
  ∃ action ∈ db.actions, action.key = key ∧ action.execution.status = .succeeded

/-- One success of a run: the report, the action and posture it found, and its outcome. -/
structure RecordedSuccess (before after : Database) (report : SuccessReport)
    (action : SecurityAction) (state : SubjectSecurityState) : Prop where
  legal : Succeeds before report action state
  shape : report.resultState.targetCertificate = .active →
    report.resultState.replacement = .notRequired
  outcome : after = { recordSuccess action report shape before with
    invalidations := jobsAfter action state report before }

theorem Succeeds.action_key {db : Database} {report : SuccessReport} {action : SecurityAction}
    {state : SubjectSecurityState} (legal : Succeeds db report action state) :
    action.key = (report.tenantId, report.actionId) := Table.get?_key legal.action_found

/-- The success report behind an action that was not succeeded when the run began. -/
theorem success_report {db : Database} {ops : List QueueOp} {key : ActionKey}
    (before : ¬ HasSucceeded key db) (after : HasSucceeded key (runQueue db ops)) :
    ∃ front report back action state, ops = front ++ .succeed report :: back ∧
      ¬ HasSucceeded key (runQueue db front) ∧ action.key = key ∧
      RecordedSuccess (runQueue db front) (runQueue db (front ++ [.succeed report]))
        report action state := by
  rcases Transaction.run_first db ops before after with
    ⟨front, op, back, reply, split_, notYet, succeeds, now⟩
  have reported : ∃ report, op = .succeed report := by
    by_contra silent
    rcases now with ⟨action, member, same, done⟩
    have outcome := applyQueue_outcome (fun report equal => silent ⟨report, equal⟩) succeeds
    exact notYet ⟨action, outcome.keeps_successes member done, same, done⟩
  rcases reported with ⟨report, rfl⟩
  have called := succeeds
  simp only [applyQueue, Checked.bind_eq_ok, Checked.pure_eq_ok, Prod.mk.injEq] at called
  rcases called with ⟨⟨middle, row⟩, called, same, _⟩
  rcases markSecurityActionSucceeded_cases called with ⟨action, state, legal, shape, outcome⟩
  refine ⟨front, report, back, action, state, split_, notYet, ?_,
    ⟨legal, shape, same.symm.trans outcome⟩⟩
  -- The report changed no action but its own, so that one is the new success.
  rcases now with ⟨done, member, sameKey, success⟩
  rw [← same, outcome] at member
  rcases (Table.mem_update _ _ (succeedAction_key report) _).mp member with ⟨old, present, rfl⟩
  rw [succeedAction_key] at sameKey
  by_contra apart
  have other : succeedAction report old = old := by
    unfold succeedAction
    rw [if_neg]
    intro chosen
    exact apart (legal.action_key.trans (chosen.symm.trans sameKey))
  rw [other] at success
  exact notYet ⟨old, present, sameKey, success⟩

/-- The succeeded row carries the values of its report. -/
theorem RecordedSuccess.row {before after : Database} {report : SuccessReport}
    {action : SecurityAction} {state : SubjectSecurityState}
    (success : RecordedSuccess before after report action state) :
    succeedAction report action ∈ after.actions := by
  rw [success.outcome]
  exact (Table.mem_update _ _ (succeedAction_key report) _).mpr
    ⟨action, Table.get?_mem success.legal.action_found, rfl⟩

theorem fresh_not_succeeded {db : Database} (fresh : db.Fresh) (key : ActionKey) :
    ¬ HasSucceeded key db := by
  intro done
  rcases done with ⟨action, member, _⟩
  rw [fresh.actions] at member
  exact Table.not_mem_empty action member

/-- Where a succeeded row of a run comes from: the report of its success, and the row that
the report found. -/
theorem succeeded_origin {start : Database} (fresh : start.Fresh) (ops : List QueueOp)
    {action : SecurityAction} (member : action ∈ (runQueue start ops).actions)
    (done : action.execution.status = .succeeded) :
    ∃ front report back old state, ops = front ++ .succeed report :: back ∧
      ¬ HasSucceeded action.key (runQueue start front) ∧ succeedAction report old = action ∧
      RecordedSuccess (runQueue start front) (runQueue start (front ++ [.succeed report]))
        report old state := by
  rcases success_report (fresh_not_succeeded fresh action.key) ⟨action, member, rfl, done⟩ with
    ⟨front, report, back, old, state, rfl, notYet, key, success⟩
  have kept := succeeded_persists _ back success.row
    (by simp [succeedAction, success.legal.action_key, ActionExecution.status])
  refine ⟨front, report, back, old, state, rfl, notYet, ?_, success⟩
  refine Table.unique _ ?_ member ((succeedAction_key report old).trans key)
  rwa [← List.singleton_append, ← List.append_assoc, runQueue_append]

end TenantTrust.Orchestration
