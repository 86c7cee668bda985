import TenantTrust.Orchestration.AttemptHistory

/-! The counters of the queue: at most one execution per target, one version per success,
one invalidation job per withdrawn access. -/

namespace TenantTrust.Orchestration

open Library Identity

abbrev ActionTable := Table SecurityAction SecurityAction.key

def OneExecution (actions : ActionTable) : Prop :=
  ∀ left ∈ actions, ∀ right ∈ actions, left.target = right.target →
    left.execution.status = .executing → right.execution.status = .executing → left = right

def succeededOn (target : Target) (action : SecurityAction) : Bool :=
  action.target = target && action.execution.status = .succeeded

/-- Every action has a posture row, whose version counts the successes on its target. -/
structure VersionsCount (db : Database) : Prop where
  target : ∀ action ∈ db.actions, ∃ state ∈ db.states, state.target = action.target
  version : ∀ state ∈ db.states,
    state.stateVersion = 1 + db.actions.count (succeededOn state.target)

def withdrawsAccess (action : SecurityAction) : Prop :=
  action.execution.status = .succeeded ∧ queuesInvalidation action.actionType

structure JobsMatch (db : Database) : Prop where
  queued : ∀ action ∈ db.actions, withdrawsAccess action →
    ∃ job ∈ db.invalidations, job.key = action.key
  caused : ∀ job ∈ db.invalidations, ∃ action ∈ db.actions, action.key = job.key ∧
    withdrawsAccess action

theorem targetIsIdle_spec {db : Database} {target : Target} (idle : targetIsIdle db target)
    {action : SecurityAction} (member : action ∈ db.actions) (same : action.target = target) :
    action.execution.status ≠ .executing := by
  have free := List.all_eq_true.mp idle action member
  simpa [same] using free

theorem oneExecution_update {actions : ActionTable} {f : SecurityAction → SecurityAction}
    (keeps : ∀ action, (f action).key = action.key) (one : OneExecution actions)
    (targets : ∀ action ∈ actions, (f action).target = action.target)
    (running : ∀ action ∈ actions, (f action).execution.status = .executing →
      action.execution.status = .executing) : OneExecution (actions.update f keeps) := by
  intro left leftMember right rightMember same leftRuns rightRuns
  rcases (Table.mem_update _ _ keeps _).mp leftMember with ⟨oldLeft, leftOld, rfl⟩
  rcases (Table.mem_update _ _ keeps _).mp rightMember with ⟨oldRight, rightOld, rfl⟩
  rw [targets oldLeft leftOld, targets oldRight rightOld] at same
  rw [one oldLeft leftOld oldRight rightOld same (running oldLeft leftOld leftRuns)
    (running oldRight rightOld rightRuns)]

theorem oneExecution_execute {call : ClaimCall} {chosen : SecurityAction} {version : Nat}
    {db : Database} (one : OneExecution db.actions) (idle : targetIsIdle db chosen.target)
    (present : chosen ∈ db.actions) :
    OneExecution (db.actions.update (executeAction call chosen version)
      (executeAction_key call chosen version)) := by
  intro left leftMember right rightMember same leftRuns rightRuns
  rcases (Table.mem_update _ _ (executeAction_key _ _ _) _).mp leftMember with
    ⟨oldLeft, leftOld, rfl⟩
  rcases (Table.mem_update _ _ (executeAction_key _ _ _) _).mp rightMember with
    ⟨oldRight, rightOld, rfl⟩
  have chosen_or_running : ∀ action ∈ db.actions,
      (executeAction call chosen version action).execution.status = .executing →
      (executeAction call chosen version action).target = action.target ∧
        (action = chosen ∨ action.execution.status = .executing) := by
    intro action member runs
    by_cases key : action.key = chosen.key
    · exact ⟨by simp [executeAction, key],
        Or.inl (db.actions.unique member present key)⟩
    · simp only [executeAction, key, if_false] at runs ⊢
      exact ⟨trivial, Or.inr runs⟩
  rcases chosen_or_running oldLeft leftOld leftRuns with ⟨leftTarget, leftCase⟩
  rcases chosen_or_running oldRight rightOld rightRuns with ⟨rightTarget, rightCase⟩
  rw [leftTarget, rightTarget] at same
  rcases leftCase with rfl | leftRunning <;> rcases rightCase with rfl | rightRunning
  · rfl
  · exact absurd rightRunning (targetIsIdle_spec idle rightOld same.symm)
  · exact absurd leftRunning (targetIsIdle_spec idle leftOld same)
  · rw [one oldLeft leftOld oldRight rightOld same leftRunning rightRunning]

theorem oneExecution_effect {before after : Database} (one : OneExecution before.actions)
    (effect : Effect before after) : OneExecution after.actions := by
  cases effect with
  | environment _ actions _ _ _ _ => rwa [actions]
  | createState _ _ _ => exact one
  | authorize _ _ _ _ _ _ _ _ _ _ => exact one
  | enqueue _ _ inserted =>
      intro left leftMember right rightMember same leftRuns rightRuns
      rcases (Table.mem_insertNew inserted left).mp leftMember with leftOld | rfl
      · rcases (Table.mem_insertNew inserted right).mp rightMember with rightOld | rfl
        · exact one left leftOld right rightOld same leftRuns rightRuns
        · cases rightRuns
      · cases leftRuns
  | expire at_ =>
      refine oneExecution_update (expireAction_key at_) one
        (fun action _ => (expireAction_continues at_ action).target) ?_
      intro action _ runs
      unfold expireAction at runs
      split at runs
      · cases runs
      · exact runs
  | suppress legal succeeds =>
      rcases suppress_states succeeds with ⟨attempts, _, rfl⟩
      refine oneExecution_update (suppressAction_key _ _) one ?_ ?_
      · intro action member
        exact (suppressAction_continues fun chosen => (legal action member chosen).1).target
      · intro action _ runs
        unfold suppressAction at runs
        split at runs
        · cases runs
        · exact runs
  | execute present _ _ _ _ succeeds =>
      rcases startExecution_cases succeeds with ⟨idle, attempts, _, rfl, _⟩
      exact oneExecution_execute one idle present
  | succeed legal shape =>
      rename_i report action state _
      refine oneExecution_update (succeedAction_key report) one ?_ ?_ <;> intro other _
      · unfold succeedAction
        split <;> rfl
      · unfold succeedAction
        split
        · intro runs
          cases runs
        · exact id
  | fail found held =>
      rename_i report action _
      refine oneExecution_update (failAction_key report) one ?_ ?_ <;> intro other _
      · unfold failAction
        split <;> rfl
      · unfold failAction
        split
        · intro runs
          cases runs
        · exact id

/-- A row-wise update that neither makes nor unmakes a success keeps every version right. -/
theorem versionsCount_update {before after : Database} {f : SecurityAction → SecurityAction}
    (keeps : ∀ action, (f action).key = action.key) (count : VersionsCount before)
    (states : after.states = before.states)
    (actions : after.actions = before.actions.update f keeps)
    (targets : ∀ action ∈ before.actions, (f action).target = action.target)
    (successes : ∀ action ∈ before.actions,
      (f action).execution.status = .succeeded ↔ action.execution.status = .succeeded) :
    VersionsCount after where
  target := by
    rw [states, actions]
    intro action member
    rcases (Table.mem_update _ _ keeps _).mp member with ⟨old, present, rfl⟩
    rcases count.target old present with ⟨state, stateMember, same⟩
    exact ⟨state, stateMember, by rw [same, targets old present]⟩
  version := by
    rw [states, actions]
    intro state member
    rw [Table.count_update]
    · exact count.version state member
    · intro action present
      simp only [succeededOn, targets action present, successes action present]

theorem advanceState_version (target : Target) (actionId : ActionId)
    (posture : SecurityActionState)
    (shape : posture.targetCertificate = .active → posture.replacement = .notRequired)
    (state : SubjectSecurityState) :
    (advanceState target actionId posture shape state).stateVersion =
      state.stateVersion + if state.target = target then 1 else 0 := by
  unfold advanceState
  split <;> rfl

theorem versionsCount_succeed {before : Database} {report : SuccessReport}
    {action : SecurityAction} {state : SubjectSecurityState} (count : VersionsCount before)
    (legal : Succeeds before report action state)
    (shape : report.resultState.targetCertificate = .active →
      report.resultState.replacement = .notRequired) :
    VersionsCount (recordSuccess action report shape before) := by
  have key := Table.get?_key legal.action_found
  have present := Table.get?_mem legal.action_found
  rcases heldClaim_spec legal.held with ⟨claim, executing, _⟩
  have others : ∀ other ∈ before.actions, other ≠ action →
      succeedAction report other = other := by
    intro other member distinct
    have apart : other.key ≠ (report.tenantId, report.actionId) := by
      intro same
      exact distinct (before.actions.unique member present (same.trans key.symm))
    simp [succeedAction, apart]
  constructor
  · intro new member
    rcases (Table.mem_update _ _ (succeedAction_key report) _).mp member with ⟨old, oldMember, rfl⟩
    rcases count.target old oldMember with ⟨posture, postureMember, same⟩
    refine ⟨_, (Table.mem_update _ _ (advanceState_target _ _ _ shape) _).mpr
      ⟨posture, postureMember, rfl⟩, ?_⟩
    rw [advanceState_target, same]
    unfold succeedAction
    split <;> rfl
  · intro new member
    rcases (Table.mem_update _ _ (advanceState_target _ _ _ shape) _).mp member with
      ⟨old, oldMember, rfl⟩
    rw [advanceState_version, advanceState_target, count.version old oldMember]
    by_cases same : old.target = action.target
    · have one := Table.count_update_one before.actions (succeedAction report)
        (succeedAction_key report) (succeededOn old.target) action present
        (by simp [succeededOn, executing, ActionExecution.status])
        (by simp [succeededOn, succeedAction, key, same, ActionExecution.status])
        (fun other member distinct => by rw [others other member distinct])
      simp only [recordSuccess, same, if_true] at one ⊢
      omega
    · have unchanged := Table.count_update before.actions (succeedAction report)
        (succeedAction_key report) (succeededOn old.target) (by
          intro other member
          by_cases chosen : other = action
          · have apart : ¬ action.target = old.target := fun h => same h.symm
            rw [chosen]
            simp [succeededOn, succeedAction, key, apart]
          · rw [others other member chosen])
      simp only [recordSuccess, same, if_false] at unchanged ⊢
      omega

theorem status_expireAction (at_ : Timestamp) (action : SecurityAction) :
    (expireAction at_ action).execution.status = .succeeded ↔
      action.execution.status = .succeeded := by
  unfold expireAction
  split
  · rename_i expired
    rcases status_of_leaseExpired expired with ⟨claim, executing⟩
    simp [executing, ActionExecution.status]
  · rfl

theorem claimable_not_succeeded {action : SecurityAction}
    (claimable : action.execution.isClaimable) : action.execution.status ≠ .succeeded := by
  rcases (isClaimable_iff _).mp claimable with open_ | open_ <;> simp [open_]

theorem versionsCount_effect {before after : Database} (count : VersionsCount before)
    (effect : Effect before after) : VersionsCount after := by
  cases effect with
  | environment states actions _ _ _ _ =>
      rcases count with ⟨target, version⟩
      constructor
      · rw [states, actions]
        exact target
      · rw [states, actions]
        exact version
  | createState found owner inserted =>
      rename_i target certificate states
      constructor
      · intro action member
        rcases count.target action member with ⟨state, present, same⟩
        exact ⟨state, (Table.mem_insertNew inserted state).mpr (Or.inl present), same⟩
      · intro state member
        rcases (Table.mem_insertNew inserted state).mp member with old | rfl
        · exact count.version state old
        · -- No action can name this target yet, because each one has a posture row.
          have none_ : before.actions.count (succeededOn target) = 0 := by
            refine List.countP_eq_zero.mpr fun action present counted => ?_
            rcases count.target action present with ⟨state, stateMember, same⟩
            simp only [succeededOn, Bool.and_eq_true, decide_eq_true_eq] at counted
            exact Table.insertNew_fresh inserted state stateMember (same.trans counted.1)
          change 1 = 1 + before.actions.count (succeededOn target)
          rw [none_]
  | authorize _ _ _ _ _ _ _ _ _ _ => exact ⟨count.target, count.version⟩
  | enqueue found _ inserted =>
      rename_i p state actions authorized
      constructor
      · intro action member
        rcases (Table.mem_insertNew inserted action).mp member with old | rfl
        · exact count.target action old
        · exact ⟨state, Table.get?_mem found, Table.get?_key found⟩
      · intro posture member
        rw [Table.count_insertNew inserted, count.version posture member]
        simp [succeededOn, EnqueueRequest.action, ActionExecution.status]
  | expire at_ =>
      exact versionsCount_update (expireAction_key at_) count rfl rfl
        (fun action _ => (expireAction_continues at_ action).target)
        (fun action _ => status_expireAction at_ action)
  | suppress legal succeeds =>
      rcases suppress_states succeeds with ⟨attempts, _, rfl⟩
      refine versionsCount_update (suppressAction_key _ _) count rfl rfl ?_ ?_
      · intro action member
        exact (suppressAction_continues fun chosen => (legal action member chosen).1).target
      · intro action member
        unfold suppressAction
        split
        · rename_i chosen
          have open_ := claimable_not_succeeded (legal action member chosen).1
          exact ⟨fun done => (by cases done), fun done => absurd done open_⟩
        · rfl
  | execute present candidate _ _ _ succeeds =>
      rcases startExecution_cases succeeds with ⟨_, attempts, _, rfl, _⟩
      refine versionsCount_update (executeAction_key _ _ _) count rfl rfl ?_ ?_
      · intro action member
        exact (executeAction_continues present (isCandidate_claimable candidate) member).target
      · intro action member
        unfold executeAction
        split
        · rename_i same
          have open_ := claimable_not_succeeded (isCandidate_claimable candidate)
          rw [before.actions.unique member present same]
          exact ⟨fun done => (by cases done), fun done => absurd done open_⟩
        · rfl
  | succeed legal shape =>
      have recorded := versionsCount_succeed count legal shape
      exact ⟨recorded.target, recorded.version⟩
  | fail found held =>
      rename_i report target _
      rcases heldClaim_spec held with ⟨claim, executing, _⟩
      refine versionsCount_update (failAction_key report) count rfl rfl ?_ ?_
      · intro action member
        exact (failAction_continues found executing member).target
      · intro action member
        unfold failAction
        split
        · rename_i same
          rw [before.actions.unique member (Table.get?_mem found)
            (same.trans (Table.get?_key found).symm)]
          simp [executing, ActionExecution.status]
        · rfl

/-- A row-wise update under which access is withdrawn by the same actions as before. -/
theorem jobsMatch_update {before after : Database} {f : SecurityAction → SecurityAction}
    (keeps : ∀ action, (f action).key = action.key) (jobs : JobsMatch before)
    (invalidations : after.invalidations = before.invalidations)
    (actions : after.actions = before.actions.update f keeps)
    (same : ∀ action ∈ before.actions, withdrawsAccess (f action) ↔ withdrawsAccess action) :
    JobsMatch after where
  queued := by
    rw [actions, invalidations]
    intro action member withdraws
    rcases (Table.mem_update _ _ keeps _).mp member with ⟨old, present, rfl⟩
    rw [keeps]
    exact jobs.queued old present ((same old present).mp withdraws)
  caused := by
    rw [actions, invalidations]
    intro job member
    rcases jobs.caused job member with ⟨action, present, key, withdraws⟩
    exact ⟨f action, (Table.mem_update _ _ keeps _).mpr ⟨action, present, rfl⟩,
      by rw [keeps, key], (same action present).mpr withdraws⟩

theorem withdrawsAccess_of_status {old new : SecurityAction}
    (type : new.actionType = old.actionType)
    (status : new.execution.status = .succeeded ↔ old.execution.status = .succeeded) :
    withdrawsAccess new ↔ withdrawsAccess old := by
  rw [withdrawsAccess, withdrawsAccess, type, status]

theorem jobsAfter_keeps {action : SecurityAction} {state : SubjectSecurityState}
    {report : SuccessReport} {db : Database} {job : SecurityStateInvalidation}
    (member : job ∈ db.invalidations) : job ∈ jobsAfter action state report db := by
  unfold jobsAfter
  split
  · cases inserted : db.invalidations.insertNew
        (invalidationJob action (state.stateVersion + 1) report.succeededAt) with
    | none => exact member
    | some next => exact (Table.mem_insertNew inserted job).mpr (Or.inl member)
  · exact member

theorem jobsAfter_origin {action : SecurityAction} {state : SubjectSecurityState}
    {report : SuccessReport} {db : Database} {job : SecurityStateInvalidation}
    (member : job ∈ jobsAfter action state report db) :
    job ∈ db.invalidations ∨ (job.key = action.key ∧ queuesInvalidation action.actionType) := by
  unfold jobsAfter at member
  split at member
  · rename_i queues
    cases inserted : db.invalidations.insertNew
        (invalidationJob action (state.stateVersion + 1) report.succeededAt) with
    | none =>
        rw [inserted] at member
        exact Or.inl member
    | some next =>
        rw [inserted] at member
        rcases (Table.mem_insertNew inserted job).mp member with old | rfl
        · exact Or.inl old
        · exact Or.inr ⟨rfl, queues⟩
  · exact Or.inl member

theorem jobsAfter_queued {action : SecurityAction} {state : SubjectSecurityState}
    {report : SuccessReport} {db : Database} (queues : queuesInvalidation action.actionType) :
    ∃ job ∈ jobsAfter action state report db, job.key = action.key := by
  unfold jobsAfter
  rw [if_pos queues]
  let row := invalidationJob action (state.stateVersion + 1) report.succeededAt
  cases inserted : db.invalidations.insertNew row with
  | none =>
      -- ON CONFLICT DO NOTHING leaves the row that already has this key.
      cases found : db.invalidations.get? row.key with
      | none => simp [Table.insertNew, found] at inserted
      | some job => exact ⟨job, Table.get?_mem found, Table.get?_key found⟩
  | some next => exact ⟨row, (Table.mem_insertNew inserted row).mpr (Or.inr rfl), rfl⟩

theorem jobsMatch_effect {before after : Database} (jobs : JobsMatch before)
    (effect : Effect before after) : JobsMatch after := by
  cases effect with
  | environment _ actions _ _ invalidations _ =>
      rcases jobs with ⟨queued, caused⟩
      constructor
      · rw [actions, invalidations]
        exact queued
      · rw [actions, invalidations]
        exact caused
  | createState _ _ _ => exact ⟨jobs.queued, jobs.caused⟩
  | authorize _ _ _ _ _ _ _ _ _ _ => exact ⟨jobs.queued, jobs.caused⟩
  | enqueue _ _ inserted =>
      constructor
      · intro action member withdraws
        rcases (Table.mem_insertNew inserted action).mp member with old | rfl
        · exact jobs.queued action old withdraws
        · cases withdraws.1
      · intro job member
        rcases jobs.caused job member with ⟨action, present, cause⟩
        exact ⟨action, (Table.mem_insertNew inserted action).mpr (Or.inl present), cause⟩
  | expire at_ =>
      exact jobsMatch_update (expireAction_key at_) jobs rfl rfl fun action _ =>
        withdrawsAccess_of_status (expireAction_continues at_ action).actionType
          (status_expireAction at_ action)
  | suppress legal succeeds =>
      rcases suppress_states succeeds with ⟨attempts, _, rfl⟩
      refine jobsMatch_update (suppressAction_key _ _) jobs rfl rfl fun action member => ?_
      unfold suppressAction
      split
      · rename_i chosen
        have open_ := claimable_not_succeeded (legal action member chosen).1
        exact ⟨fun new => (by cases new.1), fun old => absurd old.1 open_⟩
      · rfl
  | execute present candidate _ _ _ succeeds =>
      rcases startExecution_cases succeeds with ⟨_, attempts, _, rfl, _⟩
      refine jobsMatch_update (executeAction_key _ _ _) jobs rfl rfl fun action member => ?_
      unfold executeAction
      split
      · rename_i same
        have open_ := claimable_not_succeeded (isCandidate_claimable candidate)
        rw [before.actions.unique member present same]
        exact ⟨fun new => (by cases new.1), fun old => absurd old.1 open_⟩
      · rfl
  | succeed legal shape =>
      rename_i report action state _
      have key := Table.get?_key legal.action_found
      have present := Table.get?_mem legal.action_found
      rcases heldClaim_spec legal.held with ⟨claim, executing, _⟩
      have type : ∀ other, (succeedAction report other).actionType = other.actionType := by
        intro other
        unfold succeedAction
        split <;> rfl
      constructor
      · intro new member withdraws
        rcases (Table.mem_update _ _ (succeedAction_key report) _).mp member with
          ⟨old, oldMember, rfl⟩
        rw [succeedAction_key]
        by_cases chosen : old = action
        · have queues := withdraws.2
          rw [type, chosen] at queues
          rw [chosen]
          exact jobsAfter_queued queues
        · have apart : old.key ≠ (report.tenantId, report.actionId) := by
            intro same
            exact chosen (before.actions.unique oldMember present (same.trans key.symm))
          rw [succeedAction, if_neg apart] at withdraws
          rcases jobs.queued old oldMember withdraws with ⟨job, jobMember, same⟩
          exact ⟨job, jobsAfter_keeps jobMember, same⟩
      · intro job member
        rcases jobsAfter_origin member with old | ⟨same, queues⟩
        · rcases jobs.caused job old with ⟨cause, causeMember, causeKey, withdraws⟩
          have continues := succeedAction_continues legal.action_found executing causeMember
          rw [← continues.succeeded withdraws.1] at causeKey withdraws
          exact ⟨_, (Table.mem_update _ _ (succeedAction_key report) _).mpr
            ⟨cause, causeMember, rfl⟩, causeKey, withdraws⟩
        · refine ⟨_, (Table.mem_update _ _ (succeedAction_key report) _).mpr
            ⟨action, present, rfl⟩, by rw [succeedAction_key, same], ?_, by rw [type]; exact queues⟩
          simp [succeedAction, key, ActionExecution.status]
  | fail found held =>
      rename_i report target _
      rcases heldClaim_spec held with ⟨claim, executing, _⟩
      refine jobsMatch_update (failAction_key report) jobs rfl rfl fun action member => ?_
      unfold failAction
      split
      · rename_i same
        rw [before.actions.unique member (Table.get?_mem found)
          (same.trans (Table.get?_key found).symm)]
        exact ⟨fun new => (by cases new.1),
          fun old => absurd old.1 (executing_not_succeeded executing)⟩
      · rfl

/-- The state of the queue between two operations. -/
structure QueueInvariant (db : Database) : Prop where
  oneExecution : OneExecution db.actions
  counts : AttemptCounts db
  versions : VersionsCount db
  jobs : JobsMatch db

theorem queueInvariant_fresh {db : Database} (fresh : db.Fresh) : QueueInvariant db where
  oneExecution := by
    rw [OneExecution, fresh.actions]
    intro left member
    exact absurd member (Table.not_mem_empty left)
  counts := attemptCounts_fresh fresh
  versions := by
    constructor
    · rw [fresh.actions]
      intro action member
      exact absurd member (Table.not_mem_empty action)
    · rw [fresh.states]
      intro state member
      exact absurd member (Table.not_mem_empty state)
  jobs := by
    constructor
    · rw [fresh.actions]
      intro action member
      exact absurd member (Table.not_mem_empty action)
    · rw [fresh.invalidations]
      intro job member
      exact absurd member (Table.not_mem_empty job)

theorem queueInvariant_effect {before after : Database} (invariant : QueueInvariant before)
    (effect : Effect before after) : QueueInvariant after where
  oneExecution := oneExecution_effect invariant.oneExecution effect
  counts := attemptCounts_effect invariant.counts effect
  versions := versionsCount_effect invariant.versions effect
  jobs := jobsMatch_effect invariant.jobs effect

theorem queueInvariant_reachable {db : Database} (reachable : db.Reachable) :
    QueueInvariant db :=
  reachable_invariant (fun _ => queueInvariant_fresh)
    (fun _ _ invariant effect => queueInvariant_effect invariant effect) reachable

end TenantTrust.Orchestration
