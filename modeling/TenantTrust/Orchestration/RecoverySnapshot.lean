import TenantTrust.Orchestration.Successes

/-! A recovery action is bound to the posture version that its authorization was granted at,
from the grant over every retry to the recorded success. -/

namespace TenantTrust.Orchestration

open Library Identity

/-- The grant behind an action. -/
structure Grants (authorization : RecoveryAuthorization) (action : SecurityAction) : Prop where
  key : action.key = authorization.key
  target : action.target = authorization.target
  actionType : action.actionType = authorization.actionType
  recovery : action.authorityClass = .recoveryAuthorization

structure SnapshotInvariant (db : Database) : Prop where
  granted : ∀ authorization ∈ db.authorizations, ∃ action ∈ db.actions,
    Grants authorization action
  versioned : ∀ authorization ∈ db.authorizations, ∃ state,
    db.states.get? authorization.target = some state ∧
      authorization.expectedStateVersion ≤ state.stateVersion
  once : ∀ left ∈ db.authorizations, ∀ right ∈ db.authorizations,
    duplicatesAuthorization left right → left = right
  bound : ∀ action ∈ db.actions, action.authorityClass = .recoveryAuthorization →
    action.execution.status = .executing → ∃ authorization,
      db.authorizations.get? action.key = some authorization ∧
        authorization.expectedStateVersion = action.expectedStateVersion

theorem Grants.continues {authorization : RecoveryAuthorization} {old new : SecurityAction}
    (grants : Grants authorization old) (continues : old.Continues new) :
    Grants authorization new where
  key := continues.key.trans grants.key
  target := continues.target.trans grants.target
  actionType := continues.actionType.trans grants.actionType
  recovery := continues.authorityClass.trans grants.recovery

/-- An effect that appends no authorization keeps the grants and their versions. -/
theorem grants_kept {before after : Database} (invariant : SnapshotInvariant before)
    (effect : Effect before after) (authorization : RecoveryAuthorization)
    (member : authorization ∈ before.authorizations) :
    (∃ action ∈ after.actions, Grants authorization action) ∧
      ∃ state, after.states.get? authorization.target = some state ∧
        authorization.expectedStateVersion ≤ state.stateVersion := by
  constructor
  · rcases invariant.granted authorization member with ⟨action, present, grants⟩
    rcases effect.action_persists present with ⟨new, newMember, continues⟩
    exact ⟨new, newMember, grants.continues continues⟩
  · rcases invariant.versioned authorization member with ⟨state, found, atMost⟩
    rcases effect.state_persists found with ⟨new, newFound, continues⟩
    exact ⟨new, newFound, atMost.trans continues.version⟩

theorem duplicatesAuthorization_symm {left right : RecoveryAuthorization}
    (duplicates : duplicatesAuthorization left right) : duplicatesAuthorization right left := by
  simp only [duplicatesAuthorization, Bool.and_eq_true, decide_eq_true_eq] at duplicates ⊢
  rcases duplicates with ⟨⟨⟨target, transition⟩, version⟩, actionType⟩
  exact ⟨⟨⟨target.symm, transition.symm⟩, version.symm⟩, actionType.symm⟩

/-- The authorizations of an effect: unchanged, or one more that repeats none of them. -/
theorem Effect.authorizations_cases {before after : Database} (effect : Effect before after) :
    after.authorizations = before.authorizations ∨
      ∃ row, before.authorizations.insertNew row = some after.authorizations ∧
        (∀ existing ∈ before.authorizations, duplicatesAuthorization row existing = false) ∧
        (∃ action ∈ after.actions, Grants row action) ∧
        ∃ state, after.states.get? row.target = some state ∧
          state.stateVersion = row.expectedStateVersion ∧
          permitsRecovery state.posture row.actionType := by
  cases effect with
  | environment _ _ _ authorizations _ _ => exact Or.inl authorizations
  | createState _ _ _ => exact Or.inl rfl
  | enqueue _ _ _ => exact Or.inl rfl
  | authorize found version present same_key same_target same_type recovery permitted unique
      inserted =>
      rename_i row state action authorizations
      exact Or.inr ⟨row, inserted, unique,
        ⟨action, present, same_key, same_target, same_type, recovery⟩, state, found, version,
        permitted⟩
  | expire _ => exact Or.inl rfl
  | suppress _ succeeds =>
      rcases suppress_states succeeds with ⟨attempts, _, rfl⟩
      exact Or.inl rfl
  | execute _ _ _ _ _ succeeds =>
      rcases startExecution_cases succeeds with ⟨_, attempts, _, rfl, _⟩
      exact Or.inl rfl
  | succeed _ _ => exact Or.inl rfl
  | fail _ _ => exact Or.inl rfl

theorem once_insert {before after : Table RecoveryAuthorization RecoveryAuthorization.key}
    {row : RecoveryAuthorization} (inserted : before.insertNew row = some after)
    (unique : ∀ existing ∈ before, duplicatesAuthorization row existing = false)
    (once : ∀ left ∈ before, ∀ right ∈ before,
      duplicatesAuthorization left right → left = right) :
    ∀ left ∈ after, ∀ right ∈ after, duplicatesAuthorization left right → left = right := by
  intro left leftMember right rightMember duplicates
  rcases (Table.mem_insertNew inserted left).mp leftMember with leftOld | rfl <;>
    rcases (Table.mem_insertNew inserted right).mp rightMember with rightOld | rfl
  · exact once left leftOld right rightOld duplicates
  · exact absurd (duplicatesAuthorization_symm duplicates) (by rw [unique left leftOld]; simp)
  · exact absurd duplicates (by rw [unique right rightOld]; simp)
  · rfl

/-- Where an executing action of the later state comes from. -/
inductive ExecutingOrigin (before after : Database) (action : SecurityAction) : Prop where
  | kept (present : action ∈ before.actions)
  | started (call : ClaimCall) (chosen : SecurityAction) (state : SubjectSecurityState)
      (present : chosen ∈ before.actions) (continues : chosen.Continues action)
      (candidate : isCandidate call before chosen)
      (found : before.states.get? chosen.target = some state)
      (version : action.expectedStateVersion = state.stateVersion)
      (fits : lostAuthorization before chosen state = false)
      (states : after.states = before.states)

theorem Effect.executing_origin {before after : Database} (effect : Effect before after)
    {action : SecurityAction} (member : action ∈ after.actions)
    (executing : action.execution.status = .executing) :
    ExecutingOrigin before after action := by
  -- Every row-wise update either leaves a row alone or gives it another status.
  have row : ∀ {f : SecurityAction → SecurityAction} (keeps : ∀ a, (f a).key = a.key),
      (∀ a, f a = a ∨ (f a).execution.status ≠ .executing) →
      action ∈ before.actions.update f keeps → ExecutingOrigin before after action := by
    intro f keeps ends updated
    rcases (Table.mem_update _ _ keeps _).mp updated with ⟨old, present, rfl⟩
    rcases ends old with same | other
    · rw [same] at executing ⊢
      exact .kept present
    · exact absurd executing other
  cases effect with
  | environment _ actions _ _ _ _ =>
      rw [actions] at member
      exact .kept member
  | createState _ _ _ => exact .kept member
  | authorize _ _ _ _ _ _ _ _ _ _ => exact .kept member
  | enqueue _ _ inserted =>
      rcases (Table.mem_insertNew inserted action).mp member with old | rfl
      · exact .kept old
      · cases executing
  | expire at_ =>
      refine row (expireAction_key at_) (fun other => ?_) member
      unfold expireAction
      split
      · exact Or.inr (by simp [ActionExecution.status])
      · exact Or.inl rfl
  | suppress _ succeeds =>
      rcases suppress_states succeeds with ⟨attempts, _, rfl⟩
      refine row (suppressAction_key _ _) (fun other => ?_) member
      unfold suppressAction
      split
      · exact Or.inr (by simp [ActionExecution.status])
      · exact Or.inl rfl
  | execute present candidate effective found fits succeeds =>
      rename_i call chosen state claimed
      rcases startExecution_cases succeeds with ⟨_, attempts, _, rfl, _⟩
      have claimable := isCandidate_claimable candidate
      rcases (Table.mem_update _ _ (executeAction_key _ _ _) _).mp member with ⟨old, owner, rfl⟩
      by_cases same : old.key = chosen.key
      · rw [before.actions.unique owner present same]
        exact .started call chosen state present
          (executeAction_continues present claimable present) candidate found
          (by simp [executeAction]) fits rfl
      · have untouched : executeAction call chosen state.stateVersion old = old := by
          rw [executeAction, if_neg same]
        rw [untouched]
        exact .kept owner
  | succeed legal shape =>
      refine row (succeedAction_key _) (fun other => ?_) member
      unfold succeedAction
      split
      · exact Or.inr (by simp [ActionExecution.status])
      · exact Or.inl rfl
  | fail _ _ =>
      refine row (failAction_key _) (fun other => ?_) member
      unfold failAction
      split
      · exact Or.inr (by simp [ActionExecution.status])
      · exact Or.inl rfl

theorem hasOpenSeverity_of_awaits {db : Database} {recovery severity : SecurityAction}
    (present : severity ∈ db.actions) (recoveryPresent : recovery ∈ db.actions)
    (same : severity.target = recovery.target)
    (recovers : recovery.authorityClass = .recoveryAuthorization)
    (severe : severity.authorityClass = .severityRule) (awaits : severity.awaits) :
    hasOpenSeverity db recovery := by
  have apart : severity.actionId ≠ recovery.actionId := by
    intro equal
    have key : severity.key = recovery.key := by
      rw [SecurityAction.key, SecurityAction.key, same, equal]
    rw [db.actions.unique present recoveryPresent key, recovers] at severe
    cases severe
  refine List.any_eq_true.mpr ⟨severity, present, ?_⟩
  simp only [Bool.and_eq_true, decide_eq_true_eq]
  exact ⟨⟨⟨same, severe⟩, apart⟩, awaits⟩

/-- A candidate for recovery has no open severity action beside it. -/
theorem candidate_not_open {call : ClaimCall} {db : Database} {recovery : SecurityAction}
    (candidate : isCandidate call db recovery)
    (recovers : recovery.authorityClass = .recoveryAuthorization) :
    hasOpenSeverity db recovery = false := by
  simp only [isCandidate, recoveryMayRun, recovers, Bool.and_eq_true, Bool.or_eq_true,
    Bool.not_eq_true', decide_eq_true_eq, ne_eq, not_true_eq_false, false_or] at candidate
  exact candidate.1.2.2

/-- The recheck after the row locks, read the other way round. -/
theorem lostAuthorization_false {db : Database} {action : SecurityAction}
    {state : SubjectSecurityState} (fits : lostAuthorization db action state = false)
    (recovery : action.authorityClass = .recoveryAuthorization) : ∃ authorization,
      db.authorizations.get? action.key = some authorization ∧
        authorization.expectedStateVersion = state.stateVersion := by
  unfold lostAuthorization at fits
  split at fits
  · rename_i authorization found
    exact ⟨authorization, found, by simpa [recovery] using fits⟩
  · simp [recovery] at fits

theorem snapshotInvariant_effect {before after : Database}
    (invariant : SnapshotInvariant before) (effect : Effect before after) :
    SnapshotInvariant after where
  granted := by
    intro authorization member
    rcases effect.authorizations_cases with same | ⟨row, inserted, _, grants, _⟩
    · rw [same] at member
      exact (grants_kept invariant effect authorization member).1
    · rcases (Table.mem_insertNew inserted authorization).mp member with old | rfl
      · exact (grants_kept invariant effect authorization old).1
      · exact grants
  versioned := by
    intro authorization member
    rcases effect.authorizations_cases with same | ⟨row, inserted, _, _, state, found, version, _⟩
    · rw [same] at member
      exact (grants_kept invariant effect authorization member).2
    · rcases (Table.mem_insertNew inserted authorization).mp member with old | rfl
      · exact (grants_kept invariant effect authorization old).2
      · exact ⟨state, found, version.ge⟩
  once := by
    rcases effect.authorizations_cases with same | ⟨row, inserted, unique, _⟩
    · rw [same]
      exact invariant.once
    · exact once_insert inserted unique invariant.once
  bound := by
    intro action member recovery executing
    rcases effect.executing_origin member executing with
      present | ⟨_, chosen, state, present, continues, _, _, version, fits, _⟩
    · rcases invariant.bound action present recovery executing with ⟨authorization, found, same⟩
      exact ⟨authorization, effect.authorization_persists found, same⟩
    · rw [continues.authorityClass] at recovery
      rcases lostAuthorization_false fits recovery with ⟨authorization, found, same⟩
      rw [continues.key, version]
      exact ⟨authorization, effect.authorization_persists found, same⟩

theorem snapshotInvariant_fresh {db : Database} (fresh : db.Fresh) : SnapshotInvariant db := by
  constructor
  · rw [fresh.authorizations]
    intro authorization member
    exact absurd member (Table.not_mem_empty authorization)
  · rw [fresh.authorizations]
    intro authorization member
    exact absurd member (Table.not_mem_empty authorization)
  · rw [fresh.authorizations]
    intro authorization member
    exact absurd member (Table.not_mem_empty authorization)
  · rw [fresh.actions]
    intro action member
    exact absurd member (Table.not_mem_empty action)

theorem snapshotInvariant_run {db : Database} (fresh : db.Fresh) (ops : List QueueOp) :
    SnapshotInvariant (runQueue db ops) :=
  run_invariant SnapshotInvariant (fun _ _ => snapshotInvariant_effect) db ops
    (snapshotInvariant_fresh fresh)

/-- What `requireRecoveryAuthority` has checked before a recovery success is recorded. -/
theorem recoveryAuthority_cases {action : SecurityAction} {report : SuccessReport} {db : Database}
    (recovery : action.authorityClass = .recoveryAuthorization)
    (passes : requireRecoveryAuthority action report db = .ok ()) :
    ∃ authorization, db.authorizations.get? action.key = some authorization ∧
      report.succeededAt ≤ authorization.expiresAt ∧
      (action.actionType = .issueReplacementCertificate →
        confirmsReplacement db.inventory authorization action.target report.externalReference) := by
  simp only [requireRecoveryAuthority, recovery, if_true, Checked.bind_eq_ok,
    Checked.require_eq_ok, Checked.requireSome_eq_ok, exists_const] at passes
  rcases passes with ⟨authorization, found, checked, rest⟩
  refine ⟨authorization, found, checked.2, ?_⟩
  intro replaces
  rw [if_pos replaces] at rest
  exact Checked.require_eq_ok.mp rest

/-- A confirmed replacement is another active certificate of the same subject. -/
theorem confirmsReplacement_cases {inventory : Inventory} {authorization : RecoveryAuthorization}
    {target : Target} {reference : Option ExternalReference}
    (confirms : confirmsReplacement inventory authorization target reference) :
    ∃ certificateId certificate, reference = some (.certificate certificateId) ∧
      certificateId ≠ target.certificateId ∧
      inventory.certificate? target.tenantId certificateId = some certificate ∧
      certificate.subjectId = target.subjectId ∧ certificate.state = .active := by
  unfold confirmsReplacement at confirms
  split at confirms
  · rename_i certificateId
    simp only [Bool.and_eq_true, decide_eq_true_eq] at confirms
    rcases confirms with ⟨apart, confirms⟩
    split at confirms
    · rename_i certificate found
      simp only [Bool.and_eq_true, decide_eq_true_eq] at confirms
      rcases confirms with ⟨⟨⟨owner, active⟩, _⟩, _⟩
      exact ⟨certificateId, certificate, rfl, apart, found, owner, active⟩
    · simp at confirms
  · simp at confirms

/-- The success of one recovery action, seen from the end of the run. -/
structure SnapshotSuccess (start : Database) (ops : List QueueOp) (action : SecurityAction)
    (authorization : RecoveryAuthorization) (front : List QueueOp) (report : SuccessReport) :
    Prop where
  reported : ∃ back, ops = front ++ .succeed report :: back
  before : ¬ HasSucceeded action.key (runQueue start front)
  after : HasSucceeded action.key (runQueue start (front ++ [.succeed report]))
  version : ∃ state, (runQueue start front).states.get? action.target = some state ∧
    state.stateVersion = authorization.expectedStateVersion
  succeededAt : ∃ posture, action.execution = .succeeded posture report.succeededAt
  inTime : report.succeededAt ≤ authorization.expiresAt
  replacement : action.actionType = .issueReplacementCertificate →
    ∃ certificateId certificate, action.externalReference = some (.certificate certificateId) ∧
      certificateId ≠ action.target.certificateId ∧
      (runQueue start front).inventory.certificate? action.target.tenantId certificateId =
        some certificate ∧
      certificate.subjectId = action.target.subjectId ∧ certificate.state = .active

theorem snapshotSuccess {start : Database} (fresh : start.Fresh) (ops : List QueueOp)
    {action : SecurityAction} (member : action ∈ (runQueue start ops).actions)
    (recovery : action.authorityClass = .recoveryAuthorization)
    (done : action.execution.status = .succeeded) :
    ∃ authorization front report,
      (runQueue start ops).authorizations.get? action.key = some authorization ∧
      SnapshotSuccess start ops action authorization front report := by
  rcases succeeded_origin fresh ops member done with
    ⟨front, report, back, old, state, rfl, notYet, final, success⟩
  have legal := success.legal
  have key : old.key = action.key := by rw [← final, succeedAction_key]
  have fields : action.authorityClass = old.authorityClass ∧ action.target = old.target ∧
      action.actionType = old.actionType ∧ action.externalReference = report.externalReference ∧
      action.execution = .succeeded report.resultState report.succeededAt := by
    rw [← final]
    simp [succeedAction, legal.action_key]
  rcases fields with ⟨authority, target, actionType, reference, execution⟩
  rw [authority] at recovery
  have present := Table.get?_mem legal.action_found
  have invariant := snapshotInvariant_run fresh front
  rcases heldClaim_spec legal.held with ⟨claim, executing, _⟩
  rcases invariant.bound old present recovery (by simp [executing, ActionExecution.status]) with
    ⟨authorization, found, bound⟩
  rcases recoveryAuthority_cases recovery legal.authority with ⟨checked, again, inTime, replaces⟩
  have same : checked = authorization := Option.some.inj (again.symm.trans found)
  rw [same] at inTime replaces
  refine ⟨authorization, front, report, ?_, {
    reported := ⟨back, rfl⟩
    before := notYet
    after := ⟨action, ?_, rfl, done⟩
    version := ⟨state, by rw [target, legal.state_found], legal.version.trans bound.symm⟩
    succeededAt := ⟨_, execution⟩
    inTime := inTime
    replacement := ?_ }⟩
  · rw [runQueue_append, ← key]
    exact run_invariant (fun db => db.authorizations.get? old.key = some authorization)
      (fun _ _ kept effect => effect.authorization_persists kept) _ _ found
  · rw [← final]
    exact success.row
  · rw [actionType, target, reference]
    intro replacing
    exact confirmsReplacement_cases (replaces replacing)

/-- Recovery acts only on its snapshot, in every run. -/
theorem recovery_acts_on_its_snapshot {start : Database} (fresh : start.Fresh)
    (ops : List QueueOp) :
    (∀ action ∈ (runQueue start ops).actions, action.authorityClass = .recoveryAuthorization →
      action.execution.status = .succeeded →
      ∃ authorization ∈ (runQueue start ops).authorizations, authorization.key = action.key ∧
        (∀ other ∈ (runQueue start ops).authorizations, other.key = action.key →
          other = authorization) ∧
        ∃ front report, SnapshotSuccess start ops action authorization front report) ∧
    (∀ left ∈ (runQueue start ops).actions, ∀ right ∈ (runQueue start ops).actions,
      left.execution.status = .succeeded → right.execution.status = .succeeded →
      ∀ first ∈ (runQueue start ops).authorizations,
      ∀ second ∈ (runQueue start ops).authorizations,
      first.key = left.key → second.key = right.key → first.target = second.target →
      first.trustTransitionId = second.trustTransitionId →
      first.expectedStateVersion = second.expectedStateVersion →
      first.actionType = second.actionType → left = right) := by
  constructor
  · intro action member recovery done
    rcases snapshotSuccess fresh ops member recovery done with
      ⟨authorization, front, report, found, success⟩
    refine ⟨authorization, Table.get?_mem found, Table.get?_key found, ?_, front, report, success⟩
    intro other otherMember same
    exact Table.unique _ otherMember (Table.get?_mem found) (same.trans (Table.get?_key found).symm)
  · intro left leftMember right rightMember _ _ first firstMember second secondMember leftKey
      rightKey target transition version actionType
    have same := (snapshotInvariant_run fresh ops).once first firstMember second secondMember
      (by simp [duplicatesAuthorization, target, transition, version, actionType])
    exact Table.unique _ leftMember rightMember
      (leftKey.symm.trans ((congrArg RecoveryAuthorization.key same).trans rightKey))

theorem restoration_acts_on_its_snapshot :
    ∃ action ∈ (runQueue Scenario.deployment Scenario.restored).actions,
      ∃ authorization ∈ (runQueue Scenario.deployment Scenario.restored).authorizations,
        authorization.key = action.key ∧ ∃ front report, SnapshotSuccess Scenario.deployment
          Scenario.restored action authorization front report := by
  have done : ∃ action ∈ (runQueue Scenario.deployment Scenario.restored).actions,
      action.authorityClass = .recoveryAuthorization ∧
        action.execution.status = .succeeded := by decide
  rcases done with ⟨action, member, recovery, succeeded⟩
  rcases (recovery_acts_on_its_snapshot Scenario.deployment_fresh Scenario.restored).1 action
    member recovery succeeded with ⟨authorization, granted, key, _, success⟩
  exact ⟨action, member, authorization, granted, key, success⟩

end TenantTrust.Orchestration
