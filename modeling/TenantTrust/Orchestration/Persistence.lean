import TenantTrust.Orchestration.Effects

/-! Rows outlive every effect: what stays fixed about actions, postures and authorizations. -/

namespace TenantTrust.Orchestration

open Library Identity

/-- An action is pending until its first attempt. -/
def SecurityAction.Counted (action : SecurityAction) : Prop :=
  action.execution = .pending ↔ action.attemptCount = 0

theorem SecurityAction.Counted.started {action : SecurityAction} (counted : action.Counted)
    (started : action.execution ≠ .pending) : 1 ≤ action.attemptCount :=
  Nat.one_le_iff_ne_zero.mpr fun untried => started (counted.mpr untried)

theorem SecurityAction.Counted.of_started {action : SecurityAction}
    (started : action.execution ≠ .pending) (count : 1 ≤ action.attemptCount) : action.Counted :=
  iff_of_false started (Nat.one_le_iff_ne_zero.mp count)

/-- The same action at a later time. -/
structure SecurityAction.Continues (old new : SecurityAction) : Prop where
  actionId : new.actionId = old.actionId
  target : new.target = old.target
  actionType : new.actionType = old.actionType
  authorityClass : new.authorityClass = old.authorityClass
  attempts : old.attemptCount ≤ new.attemptCount
  counted : old.Counted → new.Counted
  succeeded : old.execution.status = .succeeded → new = old

theorem SecurityAction.Continues.refl (action : SecurityAction) : action.Continues action :=
  ⟨rfl, rfl, rfl, rfl, Nat.le_refl _, id, fun _ => rfl⟩

theorem SecurityAction.Continues.key {old new : SecurityAction} (continues : old.Continues new) :
    new.key = old.key := by
  rw [SecurityAction.key, SecurityAction.key, continues.target, continues.actionId]

theorem SecurityAction.Continues.trans {first second third : SecurityAction}
    (earlier : first.Continues second) (later : second.Continues third) :
    first.Continues third where
  actionId := later.actionId.trans earlier.actionId
  target := later.target.trans earlier.target
  actionType := later.actionType.trans earlier.actionType
  authorityClass := later.authorityClass.trans earlier.authorityClass
  attempts := earlier.attempts.trans later.attempts
  counted := later.counted ∘ earlier.counted
  succeeded := by
    intro done
    have same := earlier.succeeded done
    rw [later.succeeded (by rwa [same]), same]

/-- Neither finished nor given up. -/
def SecurityAction.awaits (action : SecurityAction) : Bool :=
  action.execution.status = .pending || action.execution.status = .executing ||
    (action.execution.status = .failed && action.nextAttemptAt ≠ ⊤)

theorem isClaimable_iff (execution : ActionExecution) :
    execution.isClaimable ↔ execution.status = .pending ∨ execution.status = .failed := by
  cases execution <;> simp [ActionExecution.isClaimable, ActionExecution.status]

theorem status_of_leaseExpired {action : SecurityAction} {at_ : Timestamp}
    (expired : action.leaseExpired at_) : ∃ claim, action.execution = .executing claim := by
  unfold SecurityAction.leaseExpired at expired
  split at expired
  · exact ⟨_, by assumption⟩
  · simp at expired

theorem heldClaim_spec {action : SecurityAction} {token : Option ClaimToken} {at_ : Timestamp}
    (held : heldClaim action token at_) : ∃ claim, action.execution = .executing claim ∧
      (∀ own, token = some own → claim.claimToken = own) ∧ at_ ≤ claim.leaseExpiresAt := by
  unfold heldClaim at held
  split at held
  · rename_i claim executing
    simp only [Bool.and_eq_true, decide_eq_true_eq, Option.all_eq_true] at held
    exact ⟨claim, executing, held.1, held.2⟩
  · simp at held

theorem expireAction_continues (at_ : Timestamp) (action : SecurityAction) :
    action.Continues (expireAction at_ action) := by
  unfold expireAction
  split
  · rename_i expired
    rcases status_of_leaseExpired expired with ⟨claim, executing⟩
    exact ⟨rfl, rfl, rfl, rfl, Nat.le_refl _,
      fun counted => .of_started (by simp) (counted.started (by simp [executing])),
      by simp [executing, ActionExecution.status]⟩
  · exact .refl action

theorem suppressAction_continues {suppressed : SecurityAction → Bool} {code : String}
    {action : SecurityAction} (legal : suppressed action → action.execution.isClaimable) :
    action.Continues (suppressAction suppressed code action) := by
  unfold suppressAction
  split
  · rename_i chosen
    refine ⟨rfl, rfl, rfl, rfl, Nat.le_succ _,
      fun _ => .of_started (by simp) (Nat.succ_pos _), ?_⟩
    intro done
    rcases (isClaimable_iff _).mp (legal chosen) with open_ | open_ <;>
      rw [open_] at done <;> cases done
  · exact .refl action

theorem executeAction_continues {call : ClaimCall} {chosen : SecurityAction} {version : Nat}
    {actions : Table SecurityAction SecurityAction.key} (present : chosen ∈ actions)
    (claimable : chosen.execution.isClaimable) {action : SecurityAction}
    (member : action ∈ actions) : action.Continues (executeAction call chosen version action) := by
  unfold executeAction
  split
  · rename_i same
    rw [actions.unique member present same]
    refine ⟨rfl, rfl, rfl, rfl, Nat.le_succ _,
      fun _ => .of_started (by simp) (Nat.succ_pos _), ?_⟩
    intro done
    rcases (isClaimable_iff _).mp claimable with open_ | open_ <;>
      rw [open_] at done <;> cases done
  · exact .refl action

theorem executing_not_succeeded {action : SecurityAction} {claim : Claim}
    (executing : action.execution = .executing claim) : action.execution.status ≠ .succeeded := by
  simp [executing, ActionExecution.status]

theorem succeedAction_continues {report : SuccessReport} {db : Database}
    {target action : SecurityAction} {claim : Claim}
    (found : db.actions.get? (report.tenantId, report.actionId) = some target)
    (executing : target.execution = .executing claim) (member : action ∈ db.actions) :
    action.Continues (succeedAction report action) := by
  unfold succeedAction
  split
  · rename_i same
    have chosen : action = target :=
      db.actions.unique member (Table.get?_mem found) (same.trans (Table.get?_key found).symm)
    rw [chosen]
    exact ⟨rfl, rfl, rfl, rfl, Nat.le_refl _,
      fun counted => .of_started (by simp) (counted.started (by simp [executing])),
      fun done => absurd done (executing_not_succeeded executing)⟩
  · exact .refl action

theorem failAction_continues {report : FailureReport} {db : Database}
    {target action : SecurityAction} {claim : Claim}
    (found : db.actions.get? (report.tenantId, report.actionId) = some target)
    (executing : target.execution = .executing claim) (member : action ∈ db.actions) :
    action.Continues (failAction report action) := by
  unfold failAction
  split
  · rename_i same
    have chosen : action = target :=
      db.actions.unique member (Table.get?_mem found) (same.trans (Table.get?_key found).symm)
    rw [chosen]
    exact ⟨rfl, rfl, rfl, rfl, Nat.le_refl _,
      fun counted => .of_started (by simp) (counted.started (by simp [executing])),
      fun done => absurd done (executing_not_succeeded executing)⟩
  · exact .refl action

theorem startExecution_cases {call : ClaimCall} {chosen : SecurityAction}
    {state : SubjectSecurityState} {before after : Database} {claimed : Option ClaimedAction}
    (succeeds : startExecution call chosen state before = .ok (after, claimed)) :
    targetIsIdle before chosen.target ∧ ∃ attempts,
      insertAttempt (claimedAttempt call chosen) before.attempts = .ok attempts ∧
      after = { before with
        attempts := attempts
        actions := before.actions.update (executeAction call chosen state.stateVersion)
          (executeAction_key call chosen state.stateVersion) } ∧
      ∃ reply, claimed = some reply ∧
        reply.action = executeAction call chosen state.stateVersion chosen ∧
        reply.posture = state.posture := by
  simp only [startExecution, Checked.bind_eq_ok, Checked.require_eq_ok, Checked.pure_eq_ok,
    exists_const, Prod.mk.injEq] at succeeds
  rcases succeeds with ⟨idle, attempts, inserted, rfl, rfl⟩
  exact ⟨idle, attempts, inserted, rfl, _, rfl, rfl, rfl⟩

theorem isCandidate_claimable {call : ClaimCall} {db : Database} {action : SecurityAction}
    (candidate : isCandidate call db action) : action.execution.isClaimable := by
  simp only [isCandidate, Bool.and_eq_true] at candidate
  exact candidate.1.1.1

/-- How an effect changes the actions: a row-wise update that continues every row, or the
insertion of a fresh pending action. -/
inductive ActionsChange (before after : Table SecurityAction SecurityAction.key) : Prop where
  | update (f : SecurityAction → SecurityAction) (keeps : ∀ action, (f action).key = action.key)
      (same : after = before.update f keeps)
      (continues : ∀ action ∈ before, action.Continues (f action))
  | insert (row : SecurityAction) (inserted : before.insertNew row = some after)
      (pending : row.execution = .pending) (untried : row.attemptCount = 0)

theorem ActionsChange.same {before after : Table SecurityAction SecurityAction.key}
    (same : after = before) : ActionsChange before after := by
  refine .update id (fun _ => rfl) ?_ fun action _ => .refl action
  rw [same]
  cases before
  simp [Table.update]

theorem Effect.actionsChange {before after : Database} (effect : Effect before after) :
    ActionsChange before.actions after.actions := by
  cases effect with
  | environment _ actions _ _ _ _ => exact .same actions
  | createState _ _ _ => exact .same rfl
  | enqueue _ _ inserted => exact .insert _ inserted rfl rfl
  | authorize _ _ _ _ _ _ _ _ _ _ => exact .same rfl
  | expire at_ =>
      exact .update _ (expireAction_key at_) rfl fun action _ => expireAction_continues at_ action
  | suppress legal succeeds =>
      rcases suppress_states succeeds with ⟨attempts, _, rfl⟩
      exact .update _ (suppressAction_key _ _) rfl fun action member =>
        suppressAction_continues fun chosen => (legal action member chosen).1
  | execute present candidate _ _ _ succeeds =>
      rcases startExecution_cases succeeds with ⟨_, attempts, _, rfl, _⟩
      exact .update _ (executeAction_key _ _ _) rfl fun action member =>
        executeAction_continues present (isCandidate_claimable candidate) member
  | succeed legal shape =>
      rcases heldClaim_spec legal.held with ⟨claim, executing, _⟩
      exact .update _ (succeedAction_key _) rfl fun action member =>
        succeedAction_continues legal.action_found executing member
  | fail found held =>
      rcases heldClaim_spec held with ⟨claim, executing, _⟩
      exact .update _ (failAction_key _) rfl fun action member =>
        failAction_continues found executing member

theorem Effect.action_persists {before after : Database} (effect : Effect before after)
    {old : SecurityAction} (member : old ∈ before.actions) :
    ∃ new ∈ after.actions, old.Continues new := by
  rcases effect.actionsChange with ⟨f, keeps, same, continues⟩ | ⟨row, inserted, _, _⟩
  · rw [same]
    exact ⟨f old, (Table.mem_update _ _ keeps _).mpr ⟨old, member, rfl⟩, continues old member⟩
  · exact ⟨old, (Table.mem_insertNew inserted old).mpr (Or.inl member), .refl old⟩

theorem Effect.action_origin {before after : Database} (effect : Effect before after)
    {new : SecurityAction} (member : new ∈ after.actions) :
    (∃ old ∈ before.actions, old.Continues new) ∨
      (new.execution = .pending ∧ new.attemptCount = 0 ∧
        ∀ old ∈ before.actions, old.key ≠ new.key) := by
  rcases effect.actionsChange with ⟨f, keeps, same, continues⟩ | ⟨row, inserted, pending, untried⟩
  · rw [same] at member
    rcases (Table.mem_update _ _ keeps _).mp member with ⟨old, oldMember, rfl⟩
    exact Or.inl ⟨old, oldMember, continues old oldMember⟩
  · rcases (Table.mem_insertNew inserted new).mp member with kept | rfl
    · exact Or.inl ⟨new, kept, .refl new⟩
    · exact Or.inr ⟨pending, untried, Table.insertNew_fresh inserted⟩

theorem Effects.action_persists {before after : Database} (effects : Effects before after)
    {old : SecurityAction} (member : old ∈ before.actions) :
    ∃ new ∈ after.actions, old.Continues new := by
  induction effects with
  | refl => exact ⟨old, member, .refl old⟩
  | tail _ effect ih =>
      rcases ih with ⟨middle, middleMember, earlier⟩
      rcases effect.action_persists middleMember with ⟨new, newMember, later⟩
      exact ⟨new, newMember, earlier.trans later⟩

/-- The same posture row at a later time: only a success rewrites it, under a new version. -/
structure SubjectSecurityState.Continues (old new : SubjectSecurityState) : Prop where
  target : new.target = old.target
  version : old.stateVersion ≤ new.stateVersion
  same : new.stateVersion = old.stateVersion → new = old

theorem SubjectSecurityState.Continues.refl (state : SubjectSecurityState) :
    state.Continues state := ⟨rfl, Nat.le_refl _, fun _ => rfl⟩

theorem SubjectSecurityState.Continues.trans {first second third : SubjectSecurityState}
    (earlier : first.Continues second) (later : second.Continues third) :
    first.Continues third where
  target := later.target.trans earlier.target
  version := earlier.version.trans later.version
  same := by
    intro unchanged
    have middle : second.stateVersion = first.stateVersion := by
      have below := earlier.version
      have above := later.version
      omega
    rw [later.same (unchanged.trans middle.symm), earlier.same middle]

theorem advanceState_continues (target : Target) (actionId : ActionId)
    (posture : SecurityActionState)
    (shape : posture.targetCertificate = .active → posture.replacement = .notRequired)
    (state : SubjectSecurityState) :
    state.Continues (advanceState target actionId posture shape state) := by
  unfold advanceState
  split
  · exact ⟨rfl, Nat.le_succ _, fun unchanged => absurd unchanged (Nat.succ_ne_self _)⟩
  · exact .refl state

theorem Effect.state_persists {before after : Database} (effect : Effect before after)
    {target : Target} {old : SubjectSecurityState} (found : before.states.get? target = some old) :
    ∃ new, after.states.get? target = some new ∧ old.Continues new := by
  cases effect with
  | environment states _ _ _ _ _ => exact ⟨old, by rw [states, found], .refl old⟩
  | createState _ _ inserted =>
      exact ⟨old, Table.get?_of_insertNew inserted found, .refl old⟩
  | authorize _ _ _ _ _ _ _ _ _ _ => exact ⟨old, found, .refl old⟩
  | enqueue _ _ _ => exact ⟨old, found, .refl old⟩
  | expire _ => exact ⟨old, found, .refl old⟩
  | suppress _ succeeds =>
      rcases suppress_states succeeds with ⟨attempts, _, rfl⟩
      exact ⟨old, found, .refl old⟩
  | execute _ _ _ _ _ succeeds =>
      rcases startExecution_cases succeeds with ⟨_, attempts, _, rfl, _⟩
      exact ⟨old, found, .refl old⟩
  | succeed legal shape =>
      rename_i report action state _
      exact ⟨advanceState action.target action.actionId report.resultState shape old,
        by simp only [recordSuccess, Table.get?_update, found, Option.map_some],
        advanceState_continues _ _ _ shape old⟩
  | fail _ _ => exact ⟨old, found, .refl old⟩

theorem Effects.state_persists {before after : Database} (effects : Effects before after)
    {target : Target} {old : SubjectSecurityState} (found : before.states.get? target = some old) :
    ∃ new, after.states.get? target = some new ∧ old.Continues new := by
  induction effects with
  | refl => exact ⟨old, found, .refl old⟩
  | tail _ effect ih =>
      rcases ih with ⟨middle, middleFound, earlier⟩
      rcases effect.state_persists middleFound with ⟨new, newFound, later⟩
      exact ⟨new, newFound, earlier.trans later⟩

/-- Authorizations are appended and never rewritten. -/
theorem Effect.authorization_persists {before after : Database} (effect : Effect before after)
    {key : ActionKey} {authorization : RecoveryAuthorization}
    (found : before.authorizations.get? key = some authorization) :
    after.authorizations.get? key = some authorization := by
  cases effect with
  | environment _ _ _ authorizations _ _ => rw [authorizations, found]
  | createState _ _ _ => exact found
  | authorize _ _ _ _ _ _ _ _ _ inserted => exact Table.get?_of_insertNew inserted found
  | enqueue _ _ _ => exact found
  | expire _ => exact found
  | suppress _ succeeds =>
      rcases suppress_states succeeds with ⟨attempts, _, rfl⟩
      exact found
  | execute _ _ _ _ _ succeeds =>
      rcases startExecution_cases succeeds with ⟨_, attempts, _, rfl, _⟩
      exact found
  | succeed _ _ => exact found
  | fail _ _ => exact found

/-- A run is a sequence of effects, whichever of its operations abort. -/
theorem runQueue_effects (db : Database) (ops : List QueueOp) : Effects db (runQueue db ops) :=
  run_invariant (Effects db) (fun _ _ earlier effect => earlier.tail effect) db ops .refl

theorem commitQueue_effects (db : Database) (op : QueueOp) : Effects db (commitQueue db op) :=
  runQueue_effects db [op]

/-- A succeeded action never changes again. -/
theorem succeeded_persists (db : Database) (ops : List QueueOp) {action : SecurityAction}
    (member : action ∈ db.actions) (done : action.execution.status = .succeeded) :
    action ∈ (runQueue db ops).actions := by
  rcases (runQueue_effects db ops).action_persists member with ⟨new, newMember, continues⟩
  rwa [continues.succeeded done] at newMember

end TenantTrust.Orchestration
