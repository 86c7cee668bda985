import TenantTrust.Orchestration.RecoverySnapshot

/-! What keeps the posture under an executing action fixed, and which actions can still be
open on a posture. -/

namespace TenantTrust.Orchestration

open Library Identity

/-- The action was tried at least once and will be tried again or is running now. -/
def SecurityAction.retries (action : SecurityAction) : Prop :=
  action.awaits ∧ action.attemptCount ≠ 0

/-- A posture whose certificate is revoked although access was given back. -/
def SecurityActionState.reopened (posture : SecurityActionState) : Prop :=
  posture.targetCertificate = .revoked ∧
    ¬ (posture.access = .suspended ∧ posture.renewal = .blocked)

structure ExecutionInvariant (db : Database) : Prop where
  version : ∀ action ∈ db.actions, action.execution.status = .executing → ∃ state,
    db.states.get? action.target = some state ∧
      state.stateVersion = action.expectedStateVersion
  permitted : ∀ authorization ∈ db.authorizations, ∀ state,
    db.states.get? authorization.target = some state →
    state.stateVersion = authorization.expectedStateVersion →
    permitsRecovery state.posture authorization.actionType
  exclusive : ∀ recovery ∈ db.actions, recovery.authorityClass = .recoveryAuthorization →
    recovery.execution.status = .executing → ∀ severity ∈ db.actions,
    severity.target = recovery.target → severity.authorityClass = .severityRule →
    ¬ severity.retries
  revocations : ∀ state ∈ db.states, state.posture.reopened → ∀ action ∈ db.actions,
    action.target = state.target → action.actionType = .revokeCertificate → ¬ action.retries

/-- Where an action that retries comes from: it did so before, or it was just claimed. -/
inductive RetryOrigin (before after : Database) (action : SecurityAction) : Prop where
  | kept (old : SecurityAction) (present : old ∈ before.actions) (continues : old.Continues action)
      (retries : old.retries)
  | started (call : ClaimCall) (chosen : SecurityAction) (present : chosen ∈ before.actions)
      (continues : chosen.Continues action) (candidate : isCandidate call before chosen)
      (effective : isRedundant before chosen = false)
      (executing : action.execution.status = .executing)
      (states : after.states = before.states)

theorem Effect.retry_origin {before after : Database} (effect : Effect before after)
    {action : SecurityAction} (member : action ∈ after.actions) (retries : action.retries) :
    RetryOrigin before after action := by
  cases effect with
  | environment _ actions _ _ _ _ =>
      rw [actions] at member
      exact .kept action member (.refl action) retries
  | createState _ _ _ => exact .kept action member (.refl action) retries
  | authorize _ _ _ _ _ _ _ _ _ _ => exact .kept action member (.refl action) retries
  | enqueue _ _ inserted =>
      rcases (Table.mem_insertNew inserted action).mp member with old | rfl
      · exact .kept action old (.refl action) retries
      · exact absurd rfl retries.2
  | expire at_ =>
      rcases (Table.mem_update _ _ (expireAction_key at_) _).mp member with ⟨old, present, rfl⟩
      refine .kept old present (expireAction_continues at_ old) ⟨?_, ?_⟩
      · by_cases expired : old.leaseExpired at_
        · rcases status_of_leaseExpired expired with ⟨claim, executing⟩
          simp [SecurityAction.awaits, executing, ActionExecution.status]
        · have awaits := retries.1
          rwa [expireAction, if_neg expired] at awaits
      · rw [← expireAction_attemptCount at_ old]
        exact retries.2
  | suppress legal succeeds =>
      rcases suppress_states succeeds with ⟨attempts, _, rfl⟩
      rcases (Table.mem_update _ _ (suppressAction_key _ _) _).mp member with ⟨old, present, rfl⟩
      unfold suppressAction at retries ⊢
      split at retries
      · exact absurd retries.1 (by simp [SecurityAction.awaits, ActionExecution.status])
      · rename_i unchosen
        rw [if_neg unchosen]
        exact .kept old present (.refl old) retries
  | execute present candidate effective found fits succeeds =>
      rename_i call chosen state claimed
      rcases startExecution_cases succeeds with ⟨_, attempts, _, rfl, _⟩
      have claimable := isCandidate_claimable candidate
      rcases (Table.mem_update _ _ (executeAction_key _ _ _) _).mp member with ⟨old, owner, rfl⟩
      by_cases same : old.key = chosen.key
      · rw [before.actions.unique owner present same]
        exact .started call chosen present (executeAction_continues present claimable present)
          candidate effective (by simp [executeAction, ActionExecution.status]) rfl
      · rw [executeAction, if_neg same] at retries ⊢
        exact .kept old owner (.refl old) retries
  | succeed legal shape =>
      rename_i report target state _
      rcases (Table.mem_update _ _ (succeedAction_key report) _).mp member with ⟨old, present, rfl⟩
      unfold succeedAction at retries ⊢
      split at retries
      · exact absurd retries.1 (by simp [SecurityAction.awaits, ActionExecution.status])
      · rename_i other
        rw [if_neg other]
        exact .kept old present (.refl old) retries
  | fail found held =>
      rename_i report target _
      rcases heldClaim_spec held with ⟨claim, executing, _⟩
      rcases (Table.mem_update _ _ (failAction_key report) _).mp member with ⟨old, present, rfl⟩
      refine .kept old present (failAction_continues found executing present) ⟨?_, ?_⟩
      · by_cases same : old.key = (report.tenantId, report.actionId)
        · rw [before.actions.unique present (Table.get?_mem found)
            (same.trans (Table.get?_key found).symm)]
          simp [SecurityAction.awaits, executing, ActionExecution.status]
        · have awaits := retries.1
          rwa [failAction, if_neg same] at awaits
      · have tried := retries.2
        unfold failAction at tried
        split at tried
        · exact tried
        · exact tried

theorem isCandidate_idle {call : ClaimCall} {db : Database} {action : SecurityAction}
    (candidate : isCandidate call db action) : targetIsIdle db action.target := by
  simp only [isCandidate, Bool.and_eq_true] at candidate
  exact candidate.2

theorem isCandidate_awaits {call : ClaimCall} {db : Database} {action : SecurityAction}
    (candidate : isCandidate call db action) : action.awaits := by
  have finite := isCandidate_finite candidate
  rcases (isClaimable_iff _).mp (isCandidate_claimable candidate) with open_ | open_ <;>
    simp [SecurityAction.awaits, open_, finite]

theorem revoke_severe {action : SecurityAction} (revokes : action.actionType = .revokeCertificate) :
    action.authorityClass = .severityRule := by
  rw [← action.authorized, revokes]
  rfl

/-- A posture row after an effect: opened by it, kept, or advanced by the success of the
action that was executing on its target. -/
inductive StateOrigin (before after : Database) (state : SubjectSecurityState) : Prop where
  | opened (certificate : Certificate)
      (found : before.inventory.certificate? state.target.tenantId state.target.certificateId =
        some certificate)
      (owner : certificate.subjectId = state.target.subjectId)
      (fresh : before.states.get? state.target = none)
      (row : state = initialSecurityState state.target certificate)
  | kept (present : state ∈ before.states)
  | advanced (report : SuccessReport) (action : SecurityAction) (old : SubjectSecurityState)
      (legal : Succeeds before report action old)
      (done : succeedAction report action ∈ after.actions) (target : state.target = action.target)
      (posture : state.posture = expectedResultState action.actionType old.posture)
      (version : state.stateVersion = old.stateVersion + 1)

theorem Effect.state_origin {before after : Database} (effect : Effect before after)
    {state : SubjectSecurityState} (member : state ∈ after.states) :
    StateOrigin before after state := by
  cases effect with
  | environment states _ _ _ _ _ =>
      rw [states] at member
      exact .kept member
  | createState found owner inserted =>
      rename_i target certificate states
      rcases (Table.mem_insertNew inserted state).mp member with old | rfl
      · exact .kept old
      · refine .opened certificate found owner ?_ rfl
        exact (Table.get?_eq_none _ _).mpr (Table.insertNew_fresh inserted)
  | authorize _ _ _ _ _ _ _ _ _ _ => exact .kept member
  | enqueue _ _ _ => exact .kept member
  | expire _ => exact .kept member
  | suppress _ succeeds =>
      rcases suppress_states succeeds with ⟨attempts, _, rfl⟩
      exact .kept member
  | execute _ _ _ _ _ succeeds =>
      rcases startExecution_cases succeeds with ⟨_, attempts, _, rfl, _⟩
      exact .kept member
  | succeed legal shape =>
      rename_i report action posture _
      rcases (Table.mem_update _ _ (advanceState_target _ _ _ shape) _).mp member with
        ⟨old, present, rfl⟩
      by_cases here : old.target = action.target
      · have same : old = posture := before.states.unique present
          (Table.get?_mem legal.state_found) (here.trans (Table.get?_key legal.state_found).symm)
        rw [same] at here ⊢
        refine .advanced report action posture legal ((Table.mem_update _ _
          (succeedAction_key report) _).mpr ⟨action, Table.get?_mem legal.action_found, rfl⟩)
          ?_ ?_ ?_
        · rw [advanceState_target, here]
        · rw [advanceState, if_pos here]
          exact legal.result
        · rw [advanceState_version, if_pos here]
      · rw [advanceState, if_neg here]
        exact .kept present
  | fail _ _ => exact .kept member

/-- The posture of a target that has an executing action before and after is unchanged. -/
theorem Effect.executing_state {before after : Database} (one : OneExecution before.actions)
    (effect : Effect before after) {action : SecurityAction} (present : action ∈ before.actions)
    (member : action ∈ after.actions) (executing : action.execution.status = .executing)
    {state : SubjectSecurityState} (found : before.states.get? action.target = some state) :
    after.states.get? action.target = some state := by
  rcases effect.state_persists found with ⟨new, newFound, continues⟩
  rw [newFound]
  rcases effect.state_origin (Table.get?_mem newFound) with
    ⟨_, _, _, fresh, _⟩ | kept | ⟨report, other, old, legal, done, target, _⟩
  · rw [Table.get?_key newFound, found] at fresh
    cases fresh
  · rw [before.states.unique kept (Table.get?_mem found) continues.target]
  · -- The action that succeeded would be the executing one.
    rcases heldClaim_spec legal.held with ⟨claim, running, _⟩
    have same : other = action := by
      refine one other (Table.get?_mem legal.action_found) action present ?_
        (by simp [running, ActionExecution.status]) executing
      rw [← target, Table.get?_key newFound]
    rw [same] at done legal
    have ended := after.actions.unique member done (succeedAction_key report action).symm
    rw [ended] at executing
    simp [succeedAction, legal.action_key, ActionExecution.status] at executing

theorem version_effect {before after : Database} (one : OneExecution before.actions)
    (invariant : ExecutionInvariant before) (effect : Effect before after)
    {action : SecurityAction} (member : action ∈ after.actions)
    (executing : action.execution.status = .executing) : ∃ state,
    after.states.get? action.target = some state ∧
      state.stateVersion = action.expectedStateVersion := by
  rcases effect.executing_origin member executing with
    present | ⟨_, chosen, state, _, continues, _, found, version, _, states⟩
  · rcases invariant.version action present executing with ⟨state, found, version⟩
    exact ⟨state, effect.executing_state one present member executing found, version⟩
  · exact ⟨state, by rw [states, continues.target, found], version.symm⟩

theorem permitted_effect {before after : Database} (snapshot : SnapshotInvariant before)
    (invariant : ExecutionInvariant before) (effect : Effect before after)
    {authorization : RecoveryAuthorization} (member : authorization ∈ after.authorizations)
    {state : SubjectSecurityState}
    (found : after.states.get? authorization.target = some state)
    (version : state.stateVersion = authorization.expectedStateVersion) :
    permitsRecovery state.posture authorization.actionType := by
  have earlier : authorization ∈ before.authorizations →
      permitsRecovery state.posture authorization.actionType := by
    intro present
    rcases snapshot.versioned authorization present with ⟨old, oldFound, atMost⟩
    rcases effect.state_persists oldFound with ⟨new, newFound, continues⟩
    rw [Option.some.inj (found.symm.trans newFound)] at version ⊢
    have same := continues.same (Nat.le_antisymm (version.trans_le atMost) continues.version)
    rw [same] at version ⊢
    exact invariant.permitted authorization present old oldFound version
  rcases effect.authorizations_cases with
    unchanged | ⟨row, inserted, _, _, granted, grantedFound, _, permits⟩
  · rw [unchanged] at member
    exact earlier member
  · rcases (Table.mem_insertNew inserted authorization).mp member with old | rfl
    · exact earlier old
    · rwa [Option.some.inj (found.symm.trans grantedFound)]

/-- While a recovery action runs, no severity action of its target has been tried before. -/
theorem exclusive_effect {before after : Database} (one : OneExecution after.actions)
    (invariant : ExecutionInvariant before)
    (effect : Effect before after) {recovery : SecurityAction}
    (member : recovery ∈ after.actions)
    (recovers : recovery.authorityClass = .recoveryAuthorization)
    (executing : recovery.execution.status = .executing) {severity : SecurityAction}
    (severityMember : severity ∈ after.actions) (same : severity.target = recovery.target)
    (severe : severity.authorityClass = .severityRule) : ¬ severity.retries := by
  intro retries
  have apart : severity ≠ recovery := by
    intro equal
    rw [equal, recovers] at severe
    cases severe
  rcases effect.retry_origin severityMember retries with
    ⟨old, oldPresent, continues, oldRetries⟩ | ⟨_, _, _, _, _, _, runs, _⟩
  · have oldSevere := continues.authorityClass.symm.trans severe
    rcases effect.executing_origin member executing with
      present | ⟨_, chosen, _, present, origin, candidate, _⟩
    · exact invariant.exclusive recovery present recovers executing old oldPresent
        (continues.target.symm.trans same) oldSevere oldRetries
    · have open_ := hasOpenSeverity_of_awaits oldPresent present
        (continues.target.symm.trans (same.trans origin.target))
        (origin.authorityClass.symm.trans recovers) oldSevere oldRetries.1
      rw [candidate_not_open candidate (origin.authorityClass.symm.trans recovers)] at open_
      cases open_
  · exact apart (one severity severityMember recovery member same runs executing)

/-- No success leaves a reopened posture behind a revocation that retries. -/
theorem reopened_result {actionType : SecurityActionType} {posture : SecurityActionState}
    (reopened : (expectedResultState actionType posture).reopened) :
    posture.reopened ∨ actionType = .restoreAccess := by
  rcases posture with ⟨access, renewal, certificate, replacement⟩
  unfold SecurityActionState.reopened expectedResultState at *
  cases actionType <;> cases access <;> cases renewal <;> cases certificate <;> simp_all

theorem revocations_effect {before after : Database} (count : VersionsCount before)
    (invariant : ExecutionInvariant before) (effect : Effect before after)
    {state : SubjectSecurityState} (member : state ∈ after.states)
    (reopened : state.posture.reopened) {action : SecurityAction}
    (actionMember : action ∈ after.actions) (same : action.target = state.target)
    (revokes : action.actionType = .revokeCertificate) : ¬ action.retries := by
  intro retries
  rcases effect.retry_origin actionMember retries with
    ⟨old, oldPresent, continues, oldRetries⟩ |
    ⟨_, chosen, present, continues, candidate, effective, _, states⟩
  · have oldTarget := continues.target.symm.trans same
    have oldRevokes := continues.actionType.symm.trans revokes
    rcases effect.state_origin member with
      ⟨_, _, _, fresh, _⟩ | kept | ⟨report, other, posture, legal, _, target, result, _⟩
    · rcases count.target old oldPresent with ⟨row, rowMember, rowTarget⟩
      exact (Table.get?_eq_none _ _).mp fresh row rowMember (rowTarget.trans oldTarget)
    · exact invariant.revocations state kept reopened old oldPresent oldTarget oldRevokes
        oldRetries
    · rw [result] at reopened
      rcases reopened_result reopened with before_ | restores
      · exact invariant.revocations posture (Table.get?_mem legal.state_found) before_ old
          oldPresent (oldTarget.trans (target.trans (Table.get?_key legal.state_found).symm))
          oldRevokes oldRetries
      · rcases heldClaim_spec legal.held with ⟨claim, running, _⟩
        refine invariant.exclusive other (Table.get?_mem legal.action_found) ?_
          (by simp [running, ActionExecution.status]) old oldPresent (oldTarget.trans target)
          (revoke_severe oldRevokes) oldRetries
        rw [← other.authorized, restores]
        rfl
  · rw [states] at member
    have chosenTarget := continues.target.symm.trans same
    have chosenRevokes := continues.actionType.symm.trans revokes
    have untried : chosen.attemptCount = 0 := by
      by_contra tried
      exact invariant.revocations state member reopened chosen present chosenTarget chosenRevokes
        ⟨isCandidate_awaits candidate, tried⟩
    have found : before.states.get? chosen.target = some state := by
      rw [chosenTarget]
      exact Table.get?_of_mem member
    simp [isRedundant, isCandidate_claimable candidate, untried, revoke_severe chosenRevokes,
      found, chosenRevokes, alreadySatisfied, reopened.1] at effective

theorem executionInvariant_effect {before after : Database} (queue : QueueInvariant before)
    (snapshot : SnapshotInvariant before) (invariant : ExecutionInvariant before)
    (effect : Effect before after) : ExecutionInvariant after where
  version := fun _ member executing =>
    version_effect queue.oneExecution invariant effect member executing
  permitted := fun _ member _ found version =>
    permitted_effect snapshot invariant effect member found version
  exclusive := fun _ member recovers executing _ severityMember same severe =>
    exclusive_effect (oneExecution_effect queue.oneExecution effect) invariant effect member
      recovers executing severityMember same severe
  revocations := fun _ member reopened _ actionMember same revokes =>
    revocations_effect queue.versions invariant effect member reopened actionMember same revokes

theorem executionInvariant_fresh {db : Database} (fresh : db.Fresh) : ExecutionInvariant db := by
  constructor
  · rw [fresh.actions]
    intro action member
    exact absurd member (Table.not_mem_empty action)
  · rw [fresh.authorizations]
    intro authorization member
    exact absurd member (Table.not_mem_empty authorization)
  · rw [fresh.actions]
    intro action member
    exact absurd member (Table.not_mem_empty action)
  · rw [fresh.states]
    intro state member
    exact absurd member (Table.not_mem_empty state)

/-- The three invariants of the queue, which support one another. -/
structure Sound (db : Database) : Prop where
  queue : QueueInvariant db
  snapshot : SnapshotInvariant db
  execution : ExecutionInvariant db

theorem sound_effect {before after : Database} (sound : Sound before)
    (effect : Effect before after) : Sound after where
  queue := queueInvariant_effect sound.queue effect
  snapshot := snapshotInvariant_effect sound.snapshot effect
  execution := executionInvariant_effect sound.queue sound.snapshot sound.execution effect

theorem sound_run {db : Database} (fresh : db.Fresh) (ops : List QueueOp) :
    Sound (runQueue db ops) :=
  run_invariant Sound (fun _ _ => sound_effect) db ops
    ⟨queueInvariant_fresh fresh, snapshotInvariant_fresh fresh, executionInvariant_fresh fresh⟩

end TenantTrust.Orchestration
