import TenantTrust.Orchestration.Surroundings

/-! What a request binds to its action stays bound: no procedure rewrites it, a decision has at
most one action of a type and a class, and every recorded failure code is a reason code. -/

namespace TenantTrust.Orchestration

open Library Identity Audit

/-- The values that the request of an action bound to it. -/
def SecurityAction.bound (action : SecurityAction) : EnqueueRequest where
  actionId := action.actionId
  target := action.target
  decisionId := action.decisionId
  correlationId := action.correlationId
  actionType := action.actionType
  authorityClass := action.authorityClass
  reasonCode := action.reasonCode
  triggerContextHashSha256 := action.triggerContextHashSha256
  requestedAt := action.requestedAt

/-- `security_actions_failure` -/
def SecurityAction.failureCoded (action : SecurityAction) : Prop :=
  ∀ code ∈ action.lastFailureCode, isReasonCode code = true

/-- The same action at a later time, under the same request. -/
structure SecurityAction.Keeps (old new : SecurityAction) : Prop where
  bound : new.bound = old.bound
  coded : old.failureCoded → new.failureCoded

theorem SecurityAction.Keeps.refl (action : SecurityAction) : action.Keeps action := ⟨rfl, id⟩

theorem SecurityAction.Keeps.trans {first second third : SecurityAction}
    (earlier : first.Keeps second) (later : second.Keeps third) : first.Keeps third :=
  ⟨later.bound.trans earlier.bound, fun coded => later.coded (earlier.coded coded)⟩

theorem SecurityAction.key_of_bound {left right : SecurityAction}
    (same : left.bound = right.bound) : left.key = right.key := by
  have target : left.target = right.target := congrArg EnqueueRequest.target same
  have actionId : left.actionId = right.actionId := congrArg EnqueueRequest.actionId same
  rw [SecurityAction.key, SecurityAction.key, target, actionId]

/-- `security_actions_semantic_unique` -/
def EnqueueRequest.decisionKey (p : EnqueueRequest) :
    TenantId × DecisionId × SecurityActionType × ActionAuthorityClass :=
  (p.target.tenantId, p.decisionId, p.actionType, p.authorityClass)

theorem sameDecision_iff (p : EnqueueRequest) (action : SecurityAction) :
    action.sameDecision p = true ↔ action.bound.decisionKey = p.decisionKey := by
  simp only [SecurityAction.sameDecision, EnqueueRequest.decisionKey, SecurityAction.bound,
    Bool.and_eq_true, decide_eq_true_eq, Prod.mk.injEq, and_assoc]

/-- The same actions at a later time. -/
structure Kept (before after : ActionTable) : Prop where
  forward : ∀ old ∈ before, ∃ new ∈ after, old.Keeps new
  backward : ∀ new ∈ after, ∃ old ∈ before, old.Keeps new

theorem Kept.refl (actions : ActionTable) : Kept actions actions :=
  ⟨fun action member => ⟨action, member, .refl action⟩,
    fun action member => ⟨action, member, .refl action⟩⟩

theorem Kept.trans {first second third : ActionTable} (earlier : Kept first second)
    (later : Kept second third) : Kept first third where
  forward := by
    intro old member
    obtain ⟨middle, middleMember, kept⟩ := earlier.forward old member
    obtain ⟨new, newMember, keptLater⟩ := later.forward middle middleMember
    exact ⟨new, newMember, kept.trans keptLater⟩
  backward := by
    intro new member
    obtain ⟨middle, middleMember, kept⟩ := later.backward new member
    obtain ⟨old, oldMember, keptEarlier⟩ := earlier.backward middle middleMember
    exact ⟨old, oldMember, keptEarlier.trans kept⟩

theorem kept_update {actions : ActionTable} {f : SecurityAction → SecurityAction}
    (keeps : ∀ action, (f action).key = action.key)
    (rows : ∀ action : SecurityAction, action.Keeps (f action)) :
    Kept actions (actions.update f keeps) where
  forward := fun old member => ⟨f old, (Table.mem_update _ _ keeps _).mpr ⟨old, member, rfl⟩,
    rows old⟩
  backward := by
    intro new member
    obtain ⟨old, present, same⟩ := (Table.mem_update _ _ keeps _).mp member
    rw [← same]
    exact ⟨old, present, rows old⟩

/-- The same actions at a later time, and the same policy decisions. -/
structure Database.Maintains (before after : Database) : Prop where
  actions : Kept before.actions after.actions
  provenance : after.provenance = before.provenance

theorem Database.Maintains.refl (db : Database) : db.Maintains db := ⟨.refl _, rfl⟩

theorem Database.Maintains.trans {first second third : Database}
    (earlier : first.Maintains second) (later : second.Maintains third) : first.Maintains third :=
  ⟨earlier.actions.trans later.actions, later.provenance.trans earlier.provenance⟩

theorem maintains_expire (at_ : Timestamp) (db : Database) :
    db.Maintains (expireLeases at_ db) := by
  refine ⟨kept_update (expireAction_key at_) fun action => ?_, rfl⟩
  unfold expireAction
  split
  · exact ⟨rfl, fun _ code same => by cases same; decide⟩
  · exact .refl action

theorem maintains_suppress {call : ClaimCall} {suppressed : SecurityAction → Bool}
    {code : String} {before after : Database} (coded : isReasonCode code = true)
    (succeeds : suppress call suppressed code before = .ok after) : before.Maintains after := by
  obtain ⟨attempts, _, rfl⟩ := suppress_states succeeds
  refine ⟨kept_update (suppressAction_key _ _) fun action => ?_, rfl⟩
  unfold suppressAction
  split
  · exact ⟨rfl, fun _ code same => by cases same; exact coded⟩
  · exact .refl action

theorem maintains_start {call : ClaimCall} {chosen : SecurityAction}
    {state : SubjectSecurityState} {before after : Database} {claimed : Option ClaimedAction}
    (succeeds : startExecution call chosen state before = .ok (after, claimed)) :
    before.Maintains after := by
  obtain ⟨_, attempts, _, rfl, _⟩ := startExecution_cases succeeds
  refine ⟨kept_update (executeAction_key _ _ _) fun action => ?_, rfl⟩
  unfold executeAction
  split
  · exact ⟨rfl, fun _ code same => by cases same⟩
  · exact .refl action

theorem maintains_claim {call : ClaimCall} {before after : Database}
    {claimed : Option ClaimedAction}
    (succeeds : claimSecurityAction call before = .ok (after, claimed)) :
    before.Maintains after := by
  simp only [claimSecurityAction, Checked.bind_eq_ok, Checked.require_eq_ok,
    exists_const] at succeeds
  obtain ⟨_, refreshed, stale, remaining, redundant, succeeds⟩ := succeeds
  have swept : before.Maintains remaining :=
    ((maintains_expire call.claimedAt before).trans (maintains_suppress (by decide) stale)).trans
      (maintains_suppress (by decide) redundant)
  apply swept.trans
  unfold claimCandidate at succeeds
  split at succeeds
  · simp only [Except.ok.injEq, Prod.mk.injEq] at succeeds
    rw [← succeeds.1]
    exact .refl _
  · simp only [Checked.bind_eq_ok, Checked.requireSome_eq_ok] at succeeds
    obtain ⟨state, _, succeeds⟩ := succeeds
    split at succeeds
    · simp only [Checked.bind_eq_ok, Checked.pure_eq_ok, Prod.mk.injEq] at succeeds
      obtain ⟨final, suppressed, rfl, _⟩ := succeeds
      exact maintains_suppress (by decide) suppressed
    · exact maintains_start succeeds

/-- The actions after an operation: the same ones, or one more under a request whose decision
had no action of its type and class. -/
inductive ActionsAfter (before after : ActionTable) : Prop where
  | kept (rows : Kept before after)
  | appended (p : EnqueueRequest) (version : Nat)
      (authorized : p.actionType.authority = p.authorityClass)
      (first : ∀ other ∈ before, other.sameDecision p = false)
      (inserted : before.insertNew (p.action version authorized) = some after)

/-- What an operation does to the actions and to the policy decisions behind them. -/
structure Database.Advances (before after : Database) : Prop where
  actions : ActionsAfter before.actions after.actions
  provenance : ∀ key row, before.provenance.get? key = some row →
    after.provenance.get? key = some row

theorem Database.Maintains.advances {before after : Database} (same : before.Maintains after) :
    before.Advances after where
  actions := .kept same.actions
  provenance := by
    rw [same.provenance]
    exact fun _ _ found => found

theorem Database.Advances.refl (db : Database) : db.Advances db :=
  (Database.Maintains.refl db).advances

/-- An enqueue finds the action that repeats its request, or appends it. -/
theorem enqueueSecurityActionInternal_cases {clock : Timestamp} {p : EnqueueRequest}
    {before after : Database} {action : SecurityAction}
    (succeeds : enqueueSecurityActionInternal clock p before = .ok (after, action)) :
    isReasonCode p.reasonCode = true ∧
    after.states = initializeSecurityState p.target before ∧
    (∃ state, after.states.get? p.target = some state) ∧
    after.provenance = before.provenance ∧
    ((after.actions = before.actions ∧
        before.actions.rows.find? (SecurityAction.sameDecision p) = some action ∧
        action.repeats p = true) ∨
      ∃ version authorized, action = p.action version authorized ∧
        before.actions.rows.find? (SecurityAction.sameDecision p) = none ∧
        before.actions.insertNew action = some after.actions) := by
  simp only [enqueueSecurityActionInternal, Checked.bind_eq_ok, Checked.require_eq_ok,
    Checked.requireSome_eq_ok, exists_const] at succeeds
  obtain ⟨⟨coded, _⟩, state, found, succeeds⟩ := succeeds
  split at succeeds
  · rename_i existing present
    simp only [Checked.bind_eq_ok, Checked.require_eq_ok, Checked.pure_eq_ok, exists_const,
      Prod.mk.injEq] at succeeds
    obtain ⟨repeats, rfl, rfl⟩ := succeeds
    exact ⟨coded, rfl, ⟨state, found⟩, rfl, .inl ⟨rfl, present, repeats⟩⟩
  · rename_i absent
    simp only [insertAction] at succeeds
    split at succeeds
    · rename_i authorized
      simp only [Checked.bind_eq_ok, Checked.requireSome_eq_ok, Checked.pure_eq_ok,
        Prod.mk.injEq] at succeeds
      obtain ⟨actions, inserted, rfl, rfl⟩ := succeeds
      exact ⟨coded, rfl, ⟨state, found⟩, rfl, .inr ⟨_, authorized, rfl, absent, inserted⟩⟩
    · simp at succeeds

theorem enqueueSecurityActionInternal_advances {clock : Timestamp} {p : EnqueueRequest}
    {before after : Database} {action : SecurityAction}
    (succeeds : enqueueSecurityActionInternal clock p before = .ok (after, action)) :
    before.Advances after := by
  obtain ⟨_, _, _, provenance, result⟩ := enqueueSecurityActionInternal_cases succeeds
  constructor
  · obtain ⟨same, _⟩ | ⟨version, authorized, rfl, absent, inserted⟩ := result
    · rw [same]
      exact .kept (.refl _)
    · have first := List.find?_eq_none.mp absent
      exact .appended p version authorized
        (fun other member => Bool.eq_false_iff.mpr (first other member)) inserted
  · rw [provenance]
    exact fun _ _ found => found

theorem applyQueue_advances {op : QueueOp} {before after : Database} {reply : QueueReply}
    (succeeds : applyQueue op before = .ok (after, reply)) :
    before.Advances after := by
  cases op with
  | requestQuarantine session p =>
      simp only [applyQueue, Checked.bind_eq_ok, Checked.pure_eq_ok, Prod.mk.injEq] at succeeds
      obtain ⟨⟨middle, row⟩, called, rfl, _⟩ := succeeds
      obtain rfl | ⟨requests, action, enqueued⟩ := (requestQuarantineAction_cases called).2
      · exact .refl _
      · have advanced := enqueueSecurityActionInternal_advances enqueued
        exact ⟨advanced.actions, advanced.provenance⟩
  | enqueueSeverity clock p =>
      simp only [applyQueue, Checked.bind_eq_ok, Checked.pure_eq_ok, Prod.mk.injEq] at succeeds
      obtain ⟨⟨middle, row⟩, called, rfl, _⟩ := succeeds
      obtain ⟨correlationId, enqueued⟩ := enqueueSeveritySecurityAction_cases called
      exact enqueueSecurityActionInternal_advances enqueued
  | authorizeRecovery session p =>
      simp only [applyQueue, Checked.bind_eq_ok, Checked.pure_eq_ok, Prod.mk.injEq] at succeeds
      obtain ⟨⟨middle, row⟩, called, rfl, _⟩ := succeeds
      obtain rfl | fresh := authorizeSecurityRecovery_cases called
      · exact .refl _
      · obtain ⟨_, _, proofs, action, opened, authorizations, _, enqueued, _, _, _, rfl⟩ :=
          authorizeNewRecovery_cases fresh
        have advanced := enqueueSecurityActionInternal_advances enqueued
        exact ⟨advanced.actions, advanced.provenance⟩
  | claim call =>
      simp only [applyQueue, Checked.bind_eq_ok, Checked.pure_eq_ok, Prod.mk.injEq] at succeeds
      obtain ⟨⟨middle, row⟩, called, rfl, _⟩ := succeeds
      exact (maintains_claim called).advances
  | succeed report =>
      simp only [applyQueue, Checked.bind_eq_ok, Checked.pure_eq_ok, Prod.mk.injEq] at succeeds
      obtain ⟨⟨middle, row⟩, called, rfl, _⟩ := succeeds
      obtain ⟨action, state, _, shape, rfl⟩ := markSecurityActionSucceeded_cases called
      refine Database.Maintains.advances
        ⟨kept_update (succeedAction_key report) fun other => ?_, rfl⟩
      unfold succeedAction
      split
      · exact ⟨rfl, id⟩
      · exact .refl other
  | fail report =>
      simp only [applyQueue, Checked.bind_eq_ok, Checked.pure_eq_ok, Prod.mk.injEq] at succeeds
      obtain ⟨⟨middle, row⟩, called, rfl, _⟩ := succeeds
      have coded : isReasonCode report.failureCode = true := by
        simp only [markSecurityActionFailed, Checked.bind_eq_ok, Checked.require_eq_ok] at called
        obtain ⟨_, ⟨coded, _⟩, _⟩ := called
        exact coded
      obtain ⟨action, _, _, rfl⟩ := markSecurityActionFailed_cases called
      refine Database.Maintains.advances
        ⟨kept_update (failAction_key report) fun other => ?_, rfl⟩
      unfold failAction
      split
      · exact ⟨rfl, fun _ code same => by cases same; exact coded⟩
      · exact .refl other
  | recoverLeases clock recoveredBy recoveredAt =>
      simp only [applyQueue, recoverExpiredLeases, Checked.bind_eq_ok, Checked.require_eq_ok,
        Checked.pure_eq_ok, exists_const, Prod.mk.injEq] at succeeds
      obtain ⟨⟨middle, count⟩, ⟨_, rfl, _⟩, rfl, _⟩ := succeeds
      exact (maintains_expire recoveredAt before).advances
  | certificates op =>
      simp only [applyQueue, Checked.bind_eq_ok, Checked.pure_eq_ok, Prod.mk.injEq] at succeeds
      obtain ⟨_, _, rfl, _⟩ := succeeds
      exact ⟨.kept (.refl _), fun _ _ found => found⟩
  | recordTransition row =>
      simp only [applyQueue, recordTransition, Checked.bind_eq_ok, Checked.requireSome_eq_ok,
        Checked.pure_eq_ok, Prod.mk.injEq] at succeeds
      obtain ⟨middle, ⟨transitions, _, rfl⟩, rfl, _⟩ := succeeds
      exact ⟨.kept (.refl _), fun _ _ found => found⟩
  | recordProvenance row =>
      simp only [applyQueue, Checked.bind_eq_ok, Checked.requireSome_eq_ok, Checked.pure_eq_ok,
        Prod.mk.injEq] at succeeds
      obtain ⟨provenance, inserted, rfl, _⟩ := succeeds
      exact ⟨.kept (.refl _), fun _ _ found => Table.get?_of_insertNew inserted found⟩
  | recordStepUpProof row =>
      simp only [applyQueue, Checked.bind_eq_ok, Checked.requireSome_eq_ok, Checked.pure_eq_ok,
        Prod.mk.injEq] at succeeds
      obtain ⟨proofs, _, rfl, _⟩ := succeeds
      exact ⟨.kept (.refl _), fun _ _ found => found⟩
  | consumeStepUp session p =>
      simp only [applyQueue, Checked.bind_eq_ok, Checked.pure_eq_ok, Prod.mk.injEq] at succeeds
      obtain ⟨⟨proofs, consumed⟩, _, rfl, _⟩ := succeeds
      exact ⟨.kept (.refl _), fun _ _ found => found⟩

/-- A decision has at most one action of a type and a class. -/
structure BoundActions (actions : ActionTable) : Prop where
  decisions : ∀ left ∈ actions, ∀ right ∈ actions,
    left.bound.decisionKey = right.bound.decisionKey → left.key = right.key
  coded : ∀ action ∈ actions, action.failureCoded

theorem BoundActions.kept {before after : ActionTable} (bound : BoundActions before)
    (rows : Kept before after) : BoundActions after where
  decisions := by
    intro left leftMember right rightMember same
    obtain ⟨oldLeft, oldLeftMember, keptLeft⟩ := rows.backward left leftMember
    obtain ⟨oldRight, oldRightMember, keptRight⟩ := rows.backward right rightMember
    rw [keptLeft.bound, keptRight.bound] at same
    calc
      left.key = oldLeft.key := SecurityAction.key_of_bound keptLeft.bound
      _ = oldRight.key := bound.decisions oldLeft oldLeftMember oldRight oldRightMember same
      _ = right.key := (SecurityAction.key_of_bound keptRight.bound).symm
  coded := by
    intro action member
    obtain ⟨old, present, kept⟩ := rows.backward action member
    exact kept.coded (bound.coded old present)

theorem BoundActions.after {before after : ActionTable} (bound : BoundActions before)
    (step : ActionsAfter before after) : BoundActions after := by
  cases step with
  | kept rows => exact bound.kept rows
  | appended p version authorized first inserted =>
      have apart : ∀ other ∈ before, other.bound.decisionKey ≠ p.decisionKey := by
        intro other member same
        have found := (sameDecision_iff p other).mpr same
        rw [first other member] at found
        cases found
      constructor
      · intro left leftMember right rightMember same
        obtain leftOld | rfl := (Table.mem_insertNew inserted left).mp leftMember
        · obtain rightOld | rfl := (Table.mem_insertNew inserted right).mp rightMember
          · exact bound.decisions left leftOld right rightOld same
          · exact absurd same (apart left leftOld)
        · obtain rightOld | rfl := (Table.mem_insertNew inserted right).mp rightMember
          · exact absurd same.symm (apart right rightOld)
          · rfl
      · intro action member
        obtain old | rfl := (Table.mem_insertNew inserted action).mp member
        · exact bound.coded action old
        · intro code same
          cases same

theorem reachable_bound {db : Database} (reachable : db.Reachable) : BoundActions db.actions := by
  have start : ∀ db : Database, db.Fresh → BoundActions db.actions := by
    intro db fresh
    rw [fresh.actions]
    exact ⟨fun left member => absurd member (Table.not_mem_empty left),
      fun action member => absurd member (Table.not_mem_empty action)⟩
  have step : ∀ before op after reply, BoundActions before.actions →
      applyQueue op before = .ok (after, reply) → BoundActions after.actions :=
    fun _ _ _ _ bound succeeds => bound.after (applyQueue_advances succeeds).actions
  exact reachable.invariant start step

/-- A stored action stays stored, under the request that it was stored for. -/
theorem runQueue_keeps {db : Database} {old : SecurityAction} (member : old ∈ db.actions)
    (ops : List QueueOp) : ∃ new ∈ (runQueue db ops).actions, old.Keeps new := by
  have step : ∀ before op after reply, (∃ new ∈ before.actions, old.Keeps new) →
      applyQueue op before = .ok (after, reply) → ∃ new ∈ after.actions, old.Keeps new := by
    intro before op after reply held succeeds
    obtain ⟨middle, present, earlier⟩ := held
    cases (applyQueue_advances succeeds).actions with
    | kept rows =>
        obtain ⟨new, newMember, later⟩ := rows.forward middle present
        exact ⟨new, newMember, earlier.trans later⟩
    | appended p version authorized first inserted =>
        exact ⟨middle, (Table.mem_insertNew inserted middle).mpr (.inl present), earlier⟩
  exact Transaction.run_preserves step db ops ⟨old, member, .refl old⟩

/-- A recorded policy decision stays recorded. -/
theorem runQueue_provenance {db : Database} {key : TenantId × DecisionId}
    {row : PolicyDecisionProvenance} (found : db.provenance.get? key = some row)
    (ops : List QueueOp) : (runQueue db ops).provenance.get? key = some row := by
  have step : ∀ before op after reply, before.provenance.get? key = some row →
      applyQueue op before = .ok (after, reply) → after.provenance.get? key = some row :=
    fun _ _ _ _ held succeeds => (applyQueue_advances succeeds).provenance key row held
  exact Transaction.run_preserves step db ops found

/-- A target that has a posture keeps one. -/
theorem runQueue_state {db : Database} {target : Target} {state : SubjectSecurityState}
    (found : db.states.get? target = some state) (ops : List QueueOp) :
    ∃ later, (runQueue db ops).states.get? target = some later := by
  have step : ∀ before op after reply, (∃ state, before.states.get? target = some state) →
      applyQueue op before = .ok (after, reply) →
      ∃ state, after.states.get? target = some state := by
    intro before op after reply held succeeds
    obtain ⟨state, found⟩ := held
    obtain ⟨new, newFound, _⟩ := (applyQueue_effects succeeds).state_persists found
    exact ⟨new, newFound⟩
  exact Transaction.run_preserves step db ops ⟨state, found⟩

end TenantTrust.Orchestration
