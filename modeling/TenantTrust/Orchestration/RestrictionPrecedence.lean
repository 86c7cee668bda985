import TenantTrust.Orchestration.RecoverySnapshot

/-! When a restriction that is requested after a recovery was authorized overrules it. -/

namespace TenantTrust.Orchestration

open Library Identity

/-- A severity action that stays open until it has succeeded. -/
def isBinding (db : Database) (severity : SecurityAction) : Bool :=
  severity.authorityClass = .severityRule && severity.awaits && !isRedundant db severity

/-- The recovery action was given up, has lost its snapshot, or waits for a severity action. -/
inductive Blocked (db : Database) (recovery : SecurityAction)
    (authorization : RecoveryAuthorization) : Prop where
  | terminal (never : recovery.nextAttemptAt = ⊤)
  | stale (state : SubjectSecurityState) (found : db.states.get? recovery.target = some state)
      (later : authorization.expectedStateVersion < state.stateVersion)
  | waits (severity : SecurityAction) (present : severity ∈ db.actions)
      (same : severity.target = recovery.target) (binding : isBinding db severity)

/-- The recovery action with this key will never run on its authorization. -/
def Overruled (key : ActionKey) (authorization : RecoveryAuthorization) (db : Database) : Prop :=
  db.authorizations.get? key = some authorization ∧
  ∃ recovery ∈ db.actions, recovery.key = key ∧
    recovery.authorityClass = .recoveryAuthorization ∧
    recovery.execution.isClaimable ∧ Blocked db recovery authorization

theorem isBinding_iff {db : Database} {severity : SecurityAction} :
    isBinding db severity ↔ severity.authorityClass = .severityRule ∧ severity.awaits ∧
      isRedundant db severity = false := by
  simp [isBinding, and_assoc]

/-- Redundancy depends on the posture row of the target only. -/
theorem isRedundant_congr {before after : Database} {action : SecurityAction}
    (same : after.states.get? action.target = before.states.get? action.target) :
    isRedundant after action = isRedundant before action := by
  simp [isRedundant, same]

theorem isBinding_congr (before : Database) {after : Database} {severity : SecurityAction}
    (same : after.states.get? severity.target = before.states.get? severity.target) :
    isBinding after severity = isBinding before severity := by
  simp [isBinding, isRedundant_congr same]

/-- Once attempted, an open severity action is never redundant again. -/
theorem isBinding_attempted {db : Database} {severity : SecurityAction}
    (severe : severity.authorityClass = .severityRule) (awaits : severity.awaits)
    (attempted : severity.attemptCount ≠ 0) : isBinding db severity := by
  simp [isBinding, severe, awaits, isRedundant, attempted]

/-- A row-wise update under which the recovery action stays idle and binding severity
actions stay binding. -/
theorem overruled_update {before after : Database} {f : SecurityAction → SecurityAction}
    {key : ActionKey} {authorization : RecoveryAuthorization}
    (keeps : ∀ action, (f action).key = action.key)
    (actions : after.actions = before.actions.update f keeps)
    (states : after.states = before.states)
    (authorizations : after.authorizations = before.authorizations)
    (targets : ∀ action ∈ before.actions, action.Continues (f action))
    (recovery : ∀ action ∈ before.actions, action.key = key → action.execution.isClaimable →
      Blocked before action authorization →
      (f action).execution.isClaimable ∧
        (action.nextAttemptAt = ⊤ → (f action).nextAttemptAt = ⊤))
    (severity : ∀ action ∈ before.actions, isBinding before action → isBinding before (f action))
    (overruled : Overruled key authorization before) : Overruled key authorization after := by
  rcases overruled with ⟨granted, old, present, same, recovers, claimable, blocked⟩
  rcases recovery old present same claimable blocked with ⟨idle, never⟩
  have continues := targets old present
  refine ⟨by rw [authorizations, granted], f old, ?_, by rw [keeps, same],
    by rw [continues.authorityClass, recovers], idle, ?_⟩
  · rw [actions]
    exact (Table.mem_update _ _ keeps _).mpr ⟨old, present, rfl⟩
  · cases blocked with
    | terminal last => exact .terminal (never last)
    | stale state found later =>
        exact .stale state (by rw [states, continues.target, found]) later
    | waits other otherPresent sameTarget binding =>
        refine .waits (f other) ?_ ?_ ?_
        · rw [actions]
          exact (Table.mem_update _ _ keeps _).mpr ⟨other, otherPresent, rfl⟩
        · rw [(targets other otherPresent).target, continues.target, sameTarget]
        · rw [isBinding_congr before (by rw [states])]
          exact severity other otherPresent binding

/-- No claim chooses an overruled recovery action. -/
theorem overruled_not_chosen {call : ClaimCall} {db : Database} {chosen : SecurityAction}
    {state : SubjectSecurityState} {authorization : RecoveryAuthorization}
    (granted : db.authorizations.get? chosen.key = some authorization)
    (recovers : chosen.authorityClass = .recoveryAuthorization) (present : chosen ∈ db.actions)
    (candidate : isCandidate call db chosen)
    (found : db.states.get? chosen.target = some state)
    (fits : lostAuthorization db chosen state = false) : ¬ Blocked db chosen authorization := by
  intro blocked
  cases blocked with
  | terminal never => exact isCandidate_finite candidate never
  | stale other otherFound later =>
      rcases lostAuthorization_false fits recovers with ⟨same, sameFound, version⟩
      rw [Option.some.inj (granted.symm.trans sameFound), version,
        Option.some.inj (found.symm.trans otherFound)] at later
      exact absurd later (lt_irrefl _)
  | waits severity severityPresent same binding =>
      rcases isBinding_iff.mp binding with ⟨severe, awaits, _⟩
      have open_ := hasOpenSeverity_of_awaits severityPresent present same recovers severe awaits
      rw [candidate_not_open candidate recovers] at open_
      cases open_

theorem failed_binding {db : Database} {action new : SecurityAction}
    (counted : action.Counted) {claim : Claim}
    (executing : action.execution = .executing claim) (continues : action.Continues new)
    (failed : new.execution = .failed) (finite : new.nextAttemptAt ≠ ⊤)
    (binding : isBinding db action) : isBinding db new := by
  rcases isBinding_iff.mp binding with ⟨severe, _⟩
  refine isBinding_attempted (continues.authorityClass.trans severe) ?_ ?_
  · simp [SecurityAction.awaits, failed, finite, ActionExecution.status]
  · have started := counted.started (by simp [executing])
    have grown := continues.attempts
    omega

theorem overruled_effect {before after : Database} {key : ActionKey}
    {authorization : RecoveryAuthorization} (counts : AttemptCounts before)
    (snapshot : SnapshotInvariant before) (overruled : Overruled key authorization before)
    (effect : Effect before after) : Overruled key authorization after := by
  have persists : before.authorizations.get? key = some authorization →
      after.authorizations.get? key = some authorization := effect.authorization_persists
  cases effect with
  | environment states actions _ authorizations _ _ =>
      rcases overruled with ⟨granted, recovery, present, same, recovers, claimable, blocked⟩
      refine ⟨persists granted, recovery, by rwa [actions], same, recovers, claimable, ?_⟩
      cases blocked with
      | terminal never => exact .terminal never
      | stale state found later => exact .stale state (by rw [states, found]) later
      | waits severity severityPresent sameTarget binding =>
          refine .waits severity (by rwa [actions]) sameTarget ?_
          rwa [isBinding_congr before (by rw [states])]
  | createState found owner inserted =>
      rename_i target certificate states
      rcases overruled with ⟨granted, recovery, present, same, recovers, claimable, blocked⟩
      refine ⟨granted, recovery, present, same, recovers, claimable, ?_⟩
      cases blocked with
      | terminal never => exact .terminal never
      | stale state stateFound later =>
          exact .stale state (Table.get?_of_insertNew inserted stateFound) later
      | waits severity severityPresent sameTarget binding =>
          refine .waits severity severityPresent sameTarget ?_
          -- The target has a posture row already, since the recovery was granted for it.
          rcases snapshot.granted authorization (Table.get?_mem granted) with
            ⟨granter, granterPresent, grants⟩
          rcases snapshot.versioned authorization (Table.get?_mem granted) with
            ⟨state, stateFound, _⟩
          have chosen : granter = recovery := before.actions.unique granterPresent present
            (grants.key.trans ((Table.get?_key granted).trans same.symm))
          rw [← grants.target, chosen, ← sameTarget] at stateFound
          rwa [isBinding_congr before]
          rw [stateFound]
          exact Table.get?_of_insertNew inserted stateFound
  | enqueue found authorized inserted =>
      rcases overruled with ⟨granted, recovery, present, same, recovers, claimable, blocked⟩
      refine ⟨granted, recovery, (Table.mem_insertNew inserted _).mpr (Or.inl present), same,
        recovers, claimable, ?_⟩
      cases blocked with
      | terminal never => exact .terminal never
      | stale state stateFound later => exact .stale state stateFound later
      | waits severity severityPresent sameTarget binding =>
          exact .waits severity ((Table.mem_insertNew inserted _).mpr (Or.inl severityPresent))
            sameTarget binding
  | authorize _ _ _ _ _ _ _ _ _ _ =>
      rcases overruled with ⟨granted, other, otherPresent, same, recovers, claimable, blocked⟩
      refine ⟨persists granted, other, otherPresent, same, recovers, claimable, ?_⟩
      cases blocked with
      | terminal never => exact .terminal never
      | stale state stateFound later => exact .stale state stateFound later
      | waits severity severityPresent sameTarget binding =>
          exact .waits severity severityPresent sameTarget binding
  | expire at_ =>
      refine overruled_update (expireAction_key at_) rfl rfl rfl
        (fun action _ => expireAction_continues at_ action) ?_ ?_ overruled
      · intro action _ _ claimable _
        have running : ¬ action.leaseExpired at_ := by
          intro expired
          rcases status_of_leaseExpired expired with ⟨claim, executing⟩
          simp [executing, ActionExecution.isClaimable] at claimable
        have untouched : expireAction at_ action = action := by rw [expireAction, if_neg running]
        rw [untouched]
        exact ⟨claimable, id⟩
      · intro action present binding
        by_cases expired : action.leaseExpired at_
        · rcases status_of_leaseExpired expired with ⟨claim, executing⟩
          exact failed_binding (counts action present) executing
            (expireAction_continues at_ action) (by simp [expireAction, expired])
            (by simp [expireAction, expired]) binding
        · rwa [expireAction, if_neg expired]
  | suppress legal succeeds =>
      rcases suppress_states succeeds with ⟨attempts, _, rfl⟩
      refine overruled_update (suppressAction_key _ _) rfl rfl rfl (fun action member =>
        suppressAction_continues fun chosen => (legal action member chosen).1) ?_ ?_ overruled
      · intro action _ _ claimable _
        unfold suppressAction
        split
        · exact ⟨rfl, fun _ => rfl⟩
        · exact ⟨claimable, id⟩
      · intro action present binding
        unfold suppressAction
        split
        · rename_i chosen
          rcases isBinding_iff.mp binding with ⟨severe, _, effective⟩
          rcases (legal action present chosen).2 with recovers | redundant
          · rw [recovers] at severe
            cases severe
          · rw [redundant] at effective
            cases effective
        · exact binding
  | execute present candidate effective found fits succeeds =>
      rename_i call chosen state claimed
      rcases startExecution_cases succeeds with ⟨_, attempts, _, rfl, _⟩
      have claimable := isCandidate_claimable candidate
      rcases overruled with ⟨granted, recovery, recoveryPresent, same, recovers, idle, blocked⟩
      have apart : recovery ≠ chosen := by
        intro equal
        rw [equal] at same recovers blocked
        rw [← same] at granted
        exact overruled_not_chosen granted recovers present candidate found fits blocked
      refine overruled_update (executeAction_key _ _ _) rfl rfl rfl (fun action member =>
        executeAction_continues present claimable member) ?_ ?_
        ⟨granted, recovery, recoveryPresent, same, recovers, idle, blocked⟩
      · intro action member sameKey waiting _
        have chosenKey : action.key ≠ chosen.key := by
          intro equal
          apply apart
          rw [← before.actions.unique member recoveryPresent (sameKey.trans same.symm)]
          exact before.actions.unique member present equal
        rw [executeAction, if_neg chosenKey]
        exact ⟨waiting, id⟩
      · intro action member binding
        unfold executeAction
        split
        · rcases isBinding_iff.mp binding with ⟨severe, _⟩
          refine isBinding_iff.mpr ⟨severe, ?_, ?_⟩
          · simp [SecurityAction.awaits, ActionExecution.status]
          · simp [isRedundant, ActionExecution.isClaimable]
        · exact binding
  | succeed legal shape =>
      rename_i report action state _
      rcases overruled with ⟨granted, recovery, present, same, recovers, claimable, blocked⟩
      rcases heldClaim_spec legal.held with ⟨claim, executing, _⟩
      have actionKey := legal.action_found
      have untouched : ∀ other, other.key ≠ (report.tenantId, report.actionId) →
          succeedAction report other = other := by
        intro other apart
        rw [succeedAction, if_neg apart]
      have idle : succeedAction report recovery = recovery := by
        apply untouched
        intro equal
        rw [before.actions.unique present (Table.get?_mem actionKey)
          (equal.trans (Table.get?_key actionKey).symm), executing] at claimable
        simp [ActionExecution.isClaimable] at claimable
      have member : recovery ∈ before.actions.update (succeedAction report)
          (succeedAction_key report) :=
        (Table.mem_update _ _ (succeedAction_key report) _).mpr ⟨recovery, present, idle⟩
      refine ⟨granted, recovery, member, same, recovers, claimable, ?_⟩
      rcases snapshot.granted authorization (Table.get?_mem granted) with
        ⟨granter, granterPresent, grants⟩
      rcases snapshot.versioned authorization (Table.get?_mem granted) with
        ⟨posture, postureFound, atMost⟩
      have chosen : granter = recovery := before.actions.unique granterPresent present
        (grants.key.trans ((Table.get?_key granted).trans same.symm))
      rw [← grants.target, chosen] at postureFound
      by_cases here : recovery.target = action.target
      · -- The version of the target moves past the snapshot.
        refine .stale (advanceState action.target action.actionId report.resultState shape posture)
          ?_ ?_
        · simp only [recordSuccess, Table.get?_update, postureFound, Option.map_some]
        · have owner := Table.get?_key postureFound
          rw [advanceState_version, if_pos (owner.trans here)]
          omega
      · have elsewhere : ∀ posture, before.states.get? recovery.target = some posture →
            (before.states.update
              (advanceState action.target action.actionId report.resultState shape)
              (advanceState_target action.target action.actionId report.resultState shape)).get?
                recovery.target = some posture := by
          intro posture found
          rw [Table.get?_update, found, Option.map_some, advanceState,
            if_neg fun equal => here ((Table.get?_key found).symm.trans equal)]
        cases blocked with
        | terminal never => exact .terminal never
        | stale other otherFound later => exact .stale other (elsewhere other otherFound) later
        | waits severity severityPresent sameTarget binding =>
            have other : severity.key ≠ (report.tenantId, report.actionId) := by
              intro equal
              apply here
              rw [← sameTarget, before.actions.unique severityPresent (Table.get?_mem actionKey)
                (equal.trans (Table.get?_key actionKey).symm)]
            refine .waits severity ((Table.mem_update _ _ (succeedAction_key report) _).mpr
              ⟨severity, severityPresent, untouched severity other⟩) sameTarget ?_
            rwa [isBinding_congr before]
            rw [sameTarget, postureFound]
            exact elsewhere posture postureFound
  | fail found held =>
      rename_i report action _
      rcases heldClaim_spec held with ⟨claim, executing, _⟩
      refine overruled_update (failAction_key report) rfl rfl rfl
        (fun other member => failAction_continues found executing member) ?_ ?_ overruled
      · intro other present _ claimable _
        have apart : other.key ≠ (report.tenantId, report.actionId) := by
          intro equal
          rw [before.actions.unique present (Table.get?_mem found)
            (equal.trans (Table.get?_key found).symm), executing] at claimable
          simp [ActionExecution.isClaimable] at claimable
        rw [failAction, if_neg apart]
        exact ⟨claimable, id⟩
      · intro other present binding
        by_cases same : other.key = (report.tenantId, report.actionId)
        · have equal : other = action := before.actions.unique present (Table.get?_mem found)
            (same.trans (Table.get?_key found).symm)
          refine failed_binding (counts other present) (by rw [equal, executing])
            (failAction_continues found executing present) ?_ ?_ binding
          · rw [failAction, if_pos same]
          · rw [failAction, if_pos same]
            exact WithTop.coe_ne_top
        · rwa [failAction, if_neg same]

theorem overruled_run {db : Database} {key : ActionKey} {authorization : RecoveryAuthorization}
    (counts : AttemptCounts db) (snapshot : SnapshotInvariant db)
    (overruled : Overruled key authorization db) (ops : List QueueOp) :
    Overruled key authorization (runQueue db ops) := by
  have all := run_invariant
    (fun now => AttemptCounts now ∧ SnapshotInvariant now ∧
      Overruled key authorization now)
    (fun before after holds effect => ⟨attemptCounts_effect holds.1 effect,
      snapshotInvariant_effect holds.2.1 effect,
      overruled_effect holds.1 holds.2.1 holds.2.2 effect⟩)
    db ops ⟨counts, snapshot, overruled⟩
  exact all.2.2

theorem overruled_not_succeeded {db : Database} {key : ActionKey}
    {authorization : RecoveryAuthorization} (overruled : Overruled key authorization db) :
    ¬ HasSucceeded key db := by
  intro success
  rcases overruled with ⟨_, recovery, present, same, _, claimable, _⟩
  rcases success with ⟨action, member, actionKey, done⟩
  rw [db.actions.unique member present (actionKey.trans same.symm)] at done
  exact claimable_not_succeeded claimable done

/-- The restriction, or something before it, keeps the recovery action from running: it is
not executing, and it was given up, has lost its snapshot, waits for another severity action,
or will wait for this one because the posture still lacks the control that it adds. -/
def Overrules (db : Database) (restriction recovery : SecurityAction) : Prop :=
  recovery.execution.isClaimable ∧
    (recovery.nextAttemptAt = ⊤ ∨ isStaleRecovery db recovery ∨
      (∃ severity ∈ db.actions, severity.target = recovery.target ∧ isBinding db severity) ∨
      (restriction.authorityClass = .severityRule ∧
        (db.states.get? recovery.target).all fun state =>
          !alreadySatisfied restriction.actionType state.posture))

instance (db : Database) (restriction recovery : SecurityAction) :
    Decidable (Overrules db restriction recovery) := by
  unfold Overrules
  infer_instance

/-- A restriction is new after the operation, while a restoration of its target is authorized
and has not succeeded. -/
def Enqueues (db : Database) (restriction recovery : SecurityAction) : Prop :=
  (∀ old ∈ db.actions, old.key ≠ restriction.key) ∧
    restriction.authorityClass ≠ .recoveryAuthorization ∧
    recovery.actionType = .restoreAccess ∧ recovery.target = restriction.target ∧
    (db.authorizations.get? recovery.key).isSome ∧ recovery.execution.status ≠ .succeeded

instance (db : Database) (restriction recovery : SecurityAction) :
    Decidable (Enqueues db restriction recovery) := by
  unfold Enqueues
  infer_instance

/-- A fresh action key appears with an enqueue only, as a pending action. -/
theorem new_action {op : QueueOp} {before after : Database} {reply : QueueReply}
    (succeeds : applyQueue op before = .ok (after, reply)) {action : SecurityAction}
    (member : action ∈ after.actions) (new : ∀ old ∈ before.actions, old.key ≠ action.key) :
    action.execution = .pending ∧ action.attemptCount = 0 ∧
      (∀ old ∈ before.actions, old ∈ after.actions) ∧
      ∀ target state, before.states.get? target = some state →
        after.states.get? target = some state := by
  by_cases silent : ∀ report, op ≠ .succeed report
  · rcases applyQueue_outcome silent succeeds with
      rows | ⟨p, version, authorized, inserted, states⟩
    · rcases rows action member with ⟨old, present, same, _⟩
      exact absurd same (new old present)
    · rcases (Table.mem_insertNew inserted action).mp member with old | rfl
      · exact absurd rfl (new action old)
      · refine ⟨rfl, rfl, ?_, fun target state found => ?_⟩
        · exact fun old present => (Table.mem_insertNew inserted old).mpr (Or.inl present)
        rw [states]
        unfold initializeSecurityState
        split
        · rename_i certificate _
          split
          · cases opened : before.states.insertNew (initialSecurityState p.target certificate)
            · exact found
            · exact Table.get?_of_insertNew opened found
          · exact found
        · exact found
  · rcases not_forall_not.mp silent with ⟨report, rfl⟩
    simp only [applyQueue, Checked.bind_eq_ok, Checked.pure_eq_ok, Prod.mk.injEq] at succeeds
    rcases succeeds with ⟨⟨middle, row⟩, called, rfl, _⟩
    rcases markSecurityActionSucceeded_cases called with ⟨other, state, legal, shape, rfl⟩
    rcases (Table.mem_update _ _ (succeedAction_key report) _).mp member with ⟨old, present, rfl⟩
    exact absurd (succeedAction_key report old).symm (new old present)

/-- The condition on the request is enough: the recovery action is overruled from then on. -/
theorem overrules_overruled {db : Database} {op : QueueOp} {restriction recovery : SecurityAction}
    (counts : AttemptCounts db) (snapshot : SnapshotInvariant db)
    (member : restriction ∈ (commitQueue db op).actions) (present : recovery ∈ db.actions)
    (enqueues : Enqueues db restriction recovery) (overrules : Overrules db restriction recovery) :
    ∃ authorization, Overruled recovery.key authorization (commitQueue db op) := by
  rcases enqueues with ⟨new, _, _, target, granted, _⟩
  rcases Option.isSome_iff_exists.mp granted with ⟨authorization, found⟩
  rcases snapshot.granted authorization (Table.get?_mem found) with
    ⟨granter, granterPresent, grants⟩
  have same : granter = recovery := db.actions.unique granterPresent present
    (grants.key.trans (Table.get?_key found))
  rw [same] at grants
  rcases snapshot.versioned authorization (Table.get?_mem found) with
    ⟨state, stateFound, atMost⟩
  rw [← grants.target] at stateFound
  have kept : Blocked db recovery authorization →
      Overruled recovery.key authorization (commitQueue db op) := fun blocked =>
    overruled_run counts snapshot
      ⟨found, recovery, present, rfl, grants.recovery, overrules.1, blocked⟩ [op]
  refine ⟨authorization, ?_⟩
  rcases overrules with ⟨claimable, never | stale | ⟨severity, severityPresent, sameTarget,
    binding⟩ | ⟨severe, adds⟩⟩
  · exact kept (.terminal never)
  · refine kept (.stale state stateFound ?_)
    simp only [isStaleRecovery, found, stateFound, Bool.and_eq_true, decide_eq_true_eq] at stale
    exact lt_of_le_of_ne atMost stale.2
  · exact kept (.waits severity severityPresent sameTarget binding)
  · rcases commitQueue_cases db op with aborted | ⟨reply, succeeds⟩
    · rw [aborted] at member
      exact absurd rfl (new restriction member)
    · rcases new_action succeeds member new with ⟨pending, untried, rows, states⟩
      have granted' : (commitQueue db op).authorizations.get? recovery.key = some authorization :=
        run_invariant (fun now => now.authorizations.get? recovery.key = some authorization)
          (fun _ _ kept effect => effect.authorization_persists kept) db [op] found
      refine ⟨granted', recovery, rows recovery present, rfl, grants.recovery, claimable,
        .waits restriction member target.symm (isBinding_iff.mpr ⟨severe, ?_, ?_⟩)⟩
      · simp [SecurityAction.awaits, pending, ActionExecution.status]
      · rw [stateFound] at adds
        simpa [isRedundant, pending, untried, severe, ← target, states _ _ stateFound,
          ActionExecution.isClaimable] using adds

/-- A restriction that overrules a restoration when it is enqueued keeps it from ever
succeeding on that authorization. -/
theorem later_restriction_prevails {start : Database} (fresh : start.Fresh)
    (front : List QueueOp) (op : QueueOp) (back : List QueueOp)
    {restriction recovery : SecurityAction}
    (member : restriction ∈ (commitQueue (runQueue start front) op).actions)
    (present : recovery ∈ (runQueue start front).actions)
    (enqueues : Enqueues (runQueue start front) restriction recovery)
    (overrules : Overrules (runQueue start front) restriction recovery) :
    ¬ HasSucceeded recovery.key (runQueue start (front ++ op :: back)) := by
  have reachable : (runQueue start front).Reachable := ⟨start, front, fresh, rfl⟩
  have counts := attemptCounts_reachable reachable
  have snapshot := snapshotInvariant_run fresh front
  rcases overrules_overruled counts snapshot member present enqueues overrules with
    ⟨authorization, overruled⟩
  have later := overruled_run (attemptCounts_reachable (reachable.commit op))
    (run_invariant SnapshotInvariant (fun _ _ => snapshotInvariant_effect) _ [op] snapshot)
    overruled back
  rw [runQueue_append]
  exact overruled_not_succeeded later

theorem revocation_prevails : ¬ HasSucceeded (⟨1⟩, ⟨3⟩) (runQueue Scenario.deployment
    ((Scenario.suspended ++ [Scenario.restoration]) ++ Scenario.severity .revokeCertificate ::
      [Scenario.claim 2, Scenario.restores])) := by
  have enqueued : ∃ restriction ∈ (commitQueue (runQueue Scenario.deployment
        (Scenario.suspended ++ [Scenario.restoration]))
        (Scenario.severity .revokeCertificate)).actions,
      ∃ recovery ∈ (runQueue Scenario.deployment
        (Scenario.suspended ++ [Scenario.restoration])).actions,
      recovery.key = (⟨1⟩, ⟨3⟩) ∧
      Enqueues (runQueue Scenario.deployment
        (Scenario.suspended ++ [Scenario.restoration])) restriction recovery ∧
      Overrules (runQueue Scenario.deployment
        (Scenario.suspended ++ [Scenario.restoration])) restriction recovery := by decide
  rcases enqueued with ⟨restriction, member, recovery, present, key, enqueues, overrules⟩
  rw [← key]
  exact later_restriction_prevails Scenario.deployment_fresh _ _ _ member present enqueues overrules

/-- A restriction is enqueued between the two parts of the run, and the restoration with
the given key succeeds on the authorization that it had before. -/
def RestorationPrevails (front : List QueueOp) (op : QueueOp) (back : List QueueOp)
    (key : ActionKey) : Prop :=
  (∃ restriction ∈ (commitQueue (runQueue Scenario.deployment front) op).actions,
    ∃ recovery ∈ (runQueue Scenario.deployment front).actions, recovery.key = key ∧
      Enqueues (runQueue Scenario.deployment front) restriction recovery) ∧
  HasSucceeded key (runQueue Scenario.deployment (front ++ op :: back))

/-- A quarantine request has no precedence, an executing restoration completes, and a
renewal block that repeats the posture is dropped as already satisfied. -/
theorem restriction_can_be_passed :
    RestorationPrevails (Scenario.restricted ++ [Scenario.restoration])
      (Scenario.quarantine 4 .suspendSubject) [Scenario.claim 2, Scenario.restores] (⟨1⟩, ⟨3⟩) ∧
    RestorationPrevails (Scenario.suspended ++ [Scenario.restoration, Scenario.claim 2])
      (Scenario.severity .revokeCertificate) [Scenario.restores] (⟨1⟩, ⟨3⟩) ∧
    RestorationPrevails (Scenario.suspended ++ [Scenario.restoration])
      (Scenario.severity .blockRenewal) [Scenario.claim 2, Scenario.restores] (⟨1⟩, ⟨3⟩) := by
  refine ⟨⟨by decide, ?_⟩, ⟨by decide, ?_⟩, ⟨by decide, ?_⟩⟩ <;> unfold HasSucceeded <;> decide

end TenantTrust.Orchestration
