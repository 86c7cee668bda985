import TenantTrust.Orchestration.QueueInvariant

/-! A claim token speaks for one running attempt, and for nothing once that attempt ended. -/

namespace TenantTrust.Orchestration

open Library Identity

theorem AttemptHistory.running {db : Database} (history : AttemptHistory db)
    {action : SecurityAction} (present : action ∈ db.actions) {claim : Claim}
    (executing : action.execution = .executing claim) :
    ∃ attempt ∈ db.attempts, attempt.key = (action.key, action.attemptCount) ∧
      attempt.outcome = .executing ∧ attempt.claimToken = claim.claimToken := by
  rcases (history.recorded action present).latest (history.counts action present)
      (by simp [executing]) with
    ⟨attempt, member, key, reflects⟩
  rw [executing] at reflects
  cases outcome : attempt.outcome <;> simp [Reflects, outcome] at reflects
  exact ⟨attempt, member, key, outcome, reflects.symm⟩

/-- A running attempt is the latest one of an executing action. -/
theorem AttemptHistory.runner {db : Database} (history : AttemptHistory db)
    {attempt : SecurityActionAttempt} (member : attempt ∈ db.attempts)
    (running : attempt.outcome = .executing) :
    ∃ action ∈ db.actions, attempt.key = (action.key, action.attemptCount) ∧
      ∃ claim, action.execution = .executing claim ∧ claim.claimToken = attempt.claimToken := by
  rcases history.owned attempt member with ⟨action, present, owner, low, high⟩
  rcases history.recorded action present attempt.attemptNumber low high with
    ⟨other, otherMember, key, fits⟩
  have own : attempt.key = (action.key, attempt.attemptNumber) := by
    rw [SecurityActionAttempt.key, owner]
  have same : other = attempt := db.attempts.unique otherMember member (key.trans own.symm)
  rw [same, running] at fits
  split at fits
  · rename_i latest
    refine ⟨action, present, by rw [own, latest], ?_⟩
    cases execution : action.execution <;> simp [Reflects, execution, running] at fits
    exact ⟨_, rfl, fits⟩
  · exact absurd fits id

/-- An attempt that has ended is never rewritten. -/
theorem Effect.attempt_persists {before after : Database} (history : AttemptHistory before)
    (effect : Effect before after) {attempt : SecurityActionAttempt}
    (member : attempt ∈ before.attempts) (ended : attempt.outcome ≠ .executing) :
    attempt ∈ after.attempts := by
  have not_running : ∀ {action : SecurityAction} {claim : Claim}, action ∈ before.actions →
      action.execution = .executing claim →
      attempt.key ≠ (action.key, action.attemptCount) := by
    intro action claim present executing same
    rcases history.running present executing with ⟨latest, latestMember, key, running, _⟩
    rw [before.attempts.unique member latestMember (same.trans key.symm)] at ended
    exact ended running
  cases effect with
  | environment _ _ attempts _ _ _ => rwa [attempts]
  | createState _ _ _ => exact member
  | authorize _ _ _ _ _ _ _ _ _ _ => exact member
  | enqueue _ _ _ => exact member
  | expire at_ =>
      refine (Table.mem_update _ _ (expireAttempt_key at_ before.actions) _).mpr
        ⟨attempt, member, ?_⟩
      unfold expireAttempt
      split
      · rw [if_neg fun expired => ended expired.2.2]
      · rfl
  | suppress _ succeeds =>
      rcases suppress_states succeeds with ⟨attempts, inserted, rfl⟩
      exact ((insertAttempts_spec inserted).1 attempt).mpr (Or.inl member)
  | execute _ _ _ _ _ succeeds =>
      rcases startExecution_cases succeeds with ⟨_, attempts, inserted, rfl, _⟩
      exact (Table.mem_insertNew (insertAttempt_spec inserted).1 attempt).mpr (Or.inl member)
  | succeed legal _ =>
      rcases heldClaim_spec legal.held with ⟨claim, executing, _⟩
      exact (Table.mem_update _ _ (completeAttempt_key _ _ _ _) _).mpr ⟨attempt, member,
        completeAttempt_untouched (not_running (Table.get?_mem legal.action_found) executing)⟩
  | fail found held =>
      rename_i report action _
      rcases heldClaim_spec held with ⟨claim, executing, _⟩
      refine (Table.mem_update _ _ (fun old => completeAttempt_key action report.claimToken
        (.failed report.failedAt report.failureCode) old.externalReference old) _).mpr
        ⟨attempt, member, ?_⟩
      exact completeAttempt_untouched (not_running (Table.get?_mem found) executing)

/-- The token of an ended attempt. -/
def TokenLost (tenantId : TenantId) (token : ClaimToken) (db : Database) : Prop :=
  ∃ attempt ∈ db.attempts, attempt.tenantId = tenantId ∧ attempt.claimToken = token ∧
    attempt.outcome ≠ .executing

/-- No executing action of the tenant is held with a lost token. -/
theorem tokenLost_not_held {tenantId : TenantId} {token : ClaimToken} {db : Database}
    (history : AttemptHistory db) (lost : TokenLost tenantId token db)
    {action : SecurityAction} (present : action ∈ db.actions)
    (tenant : action.target.tenantId = tenantId) {claim : Claim}
    (executing : action.execution = .executing claim) : claim.claimToken ≠ token := by
  intro same
  rcases lost with ⟨ended, endedMember, endedTenant, endedToken, notRunning⟩
  rcases history.running present executing with ⟨attempt, member, key, running, attemptToken⟩
  have attemptTenant : attempt.tenantId = action.target.tenantId :=
    congrArg (fun key : ActionKey × Nat => key.1.1) key
  have equal : ended = attempt := history.tokens ended endedMember attempt member
    (by rw [endedTenant, attemptTenant, tenant]) (by rw [endedToken, attemptToken, same])
  rw [equal] at notRunning
  exact notRunning running

/-- The reports that no row of the queue answers to. -/
def Unclaimed (db : Database) (tenantId : TenantId) (actionId : ActionId)
    (token : Option ClaimToken) (at_ : Timestamp) : Prop :=
  ∀ action claim, db.actions.get? (tenantId, actionId) = some action →
    action.execution = .executing claim → (∀ own, token = some own → claim.claimToken = own) →
    claim.leaseExpiresAt < at_

theorem unclaimed_not_held {db : Database} {tenantId : TenantId} {actionId : ActionId}
    {token : Option ClaimToken} {at_ : Timestamp}
    (unclaimed : Unclaimed db tenantId actionId token at_) {action : SecurityAction}
    (found : db.actions.get? (tenantId, actionId) = some action) :
    ¬ heldClaim action token at_ := by
  intro held
  rcases heldClaim_spec held with ⟨claim, executing, same, live⟩
  exact absurd (unclaimed action claim found executing same) (not_lt.mpr live)

theorem unclaimed_success_aborts {db : Database} {report : SuccessReport}
    (unclaimed : Unclaimed db report.tenantId report.actionId report.claimToken
      report.succeededAt) : commitQueue db (.succeed report) = db := by
  rcases commitQueue_cases db (.succeed report) with aborted | ⟨reply, succeeds⟩
  · exact aborted
  · simp only [applyQueue, Checked.bind_eq_ok] at succeeds
    rcases succeeds with ⟨result, called, _⟩
    rcases markSecurityActionSucceeded_cases called with ⟨action, state, legal, _⟩
    exact absurd legal.held (unclaimed_not_held unclaimed legal.action_found)

theorem unclaimed_failure_aborts {db : Database} {report : FailureReport}
    (unclaimed : Unclaimed db report.tenantId report.actionId report.claimToken
      report.failedAt) : commitQueue db (.fail report) = db := by
  rcases commitQueue_cases db (.fail report) with aborted | ⟨reply, succeeds⟩
  · exact aborted
  · simp only [applyQueue, Checked.bind_eq_ok] at succeeds
    rcases succeeds with ⟨result, called, _⟩
    rcases markSecurityActionFailed_cases called with ⟨action, found, held, _⟩
    exact absurd held (unclaimed_not_held unclaimed found)

theorem tokenLost_unclaimed {tenantId : TenantId} {token : ClaimToken} {db : Database}
    (history : AttemptHistory db) (lost : TokenLost tenantId token db) (actionId : ActionId)
    (at_ : Timestamp) : Unclaimed db tenantId actionId (some token) at_ := by
  intro action claim found executing same
  have tenant : action.target.tenantId = tenantId := congrArg Prod.fst (Table.get?_key found)
  exact absurd (same token rfl)
    (tokenLost_not_held history lost (Table.get?_mem found) tenant executing)

theorem succeeded_attempt_unique {db : Database} (history : AttemptHistory db)
    {action : SecurityAction} (present : action ∈ db.actions)
    (done : action.execution.status = .succeeded) :
    ∃! attempt, attempt ∈ db.attempts ∧ attempt.actionKey = action.key ∧
      ∃ at_, attempt.outcome = .succeeded at_ := by
  have recorded := history.recorded action present
  have started : action.execution ≠ .pending := by
    intro pending
    rw [pending] at done
    cases done
  rcases recorded.latest (history.counts action present) started with
    ⟨latest, member, key, reflects⟩
  have outcome : ∃ at_, latest.outcome = .succeeded at_ := by
    cases execution : action.execution <;> rw [execution] at done reflects <;> cases done
    cases result : latest.outcome <;> simp [Reflects, result] at reflects
    exact ⟨_, rfl⟩
  refine ⟨latest, ⟨member, (actionKey_of_key key).1, outcome⟩, ?_⟩
  intro other succeeded
  rcases succeeded with ⟨otherMember, owner, at_, success⟩
  rcases history.owned other otherMember with ⟨holder, holderMember, holderKey, low, high⟩
  rw [db.actions.unique holderMember present (holderKey.symm.trans owner)] at high
  rcases recorded other.attemptNumber low high with ⟨twin, twinMember, twinKey, fits⟩
  have own : other.key = (action.key, other.attemptNumber) := by
    rw [SecurityActionAttempt.key, owner]
  rw [db.attempts.unique twinMember otherMember (twinKey.trans own.symm)] at fits
  split at fits
  · rename_i last
    exact db.attempts.unique otherMember member (by rw [own, key, last])
  · rw [success] at fits
    exact absurd fits id

/-- What holds of the attempts of one action. -/
structure AttemptLedger (db : Database) (action : SecurityAction) : Prop where
  numbered : ∀ n, (∃ attempt ∈ db.attempts, attempt.key = (action.key, n)) ↔
    1 ≤ n ∧ n ≤ action.attemptCount
  oneRunning : ∀ left ∈ db.attempts, ∀ right ∈ db.attempts, left.actionKey = action.key →
    right.actionKey = action.key → left.outcome = .executing → right.outcome = .executing →
    left = right
  running : ∀ token, (∃ attempt ∈ db.attempts, attempt.actionKey = action.key ∧
      attempt.outcome = .executing ∧ attempt.claimToken = token) ↔
    ∃ claim, action.execution = .executing claim ∧ claim.claimToken = token

theorem attemptLedger {db : Database} (history : AttemptHistory db) {action : SecurityAction}
    (present : action ∈ db.actions) : AttemptLedger db action where
  numbered := by
    intro n
    constructor
    · intro recorded
      rcases recorded with ⟨attempt, member, key⟩
      rcases history.owned attempt member with ⟨owner, ownerMember, ownerKey, low, high⟩
      rcases actionKey_of_key key with ⟨actionKey, number⟩
      rw [db.actions.unique ownerMember present (ownerKey.symm.trans actionKey)] at high
      rw [number] at low high
      exact ⟨low, high⟩
    · intro range
      rcases history.recorded action present n range.1 range.2 with
        ⟨attempt, member, key, _⟩
      exact ⟨attempt, member, key⟩
  oneRunning := by
    intro left leftMember right rightMember leftOwner rightOwner leftRuns rightRuns
    rcases history.runner leftMember leftRuns with ⟨first, firstMember, firstKey, _⟩
    rcases history.runner rightMember rightRuns with ⟨second, secondMember, secondKey, _⟩
    rw [db.actions.unique firstMember present
      ((actionKey_of_key firstKey).1.symm.trans leftOwner)] at firstKey
    rw [db.actions.unique secondMember present
      ((actionKey_of_key secondKey).1.symm.trans rightOwner)] at secondKey
    exact db.attempts.unique leftMember rightMember (firstKey.trans secondKey.symm)
  running := by
    intro token
    constructor
    · intro recorded
      rcases recorded with ⟨attempt, member, owner, runs, same⟩
      rcases history.runner member runs with ⟨runner, runnerMember, key, claim, executing, held⟩
      rw [db.actions.unique runnerMember present
        ((actionKey_of_key key).1.symm.trans owner)] at executing
      exact ⟨claim, executing, held.trans same⟩
    · intro claimed
      rcases claimed with ⟨claim, executing, same⟩
      rcases history.running present executing with ⟨attempt, member, key, runs, held⟩
      exact ⟨attempt, member, (actionKey_of_key key).1, runs, held.trans same⟩

theorem withdrawsAccess_job {db : Database} (jobs : JobsMatch db) {action : SecurityAction}
    (present : action ∈ db.actions) (withdraws : withdrawsAccess action) :
    ∃! job, job ∈ db.invalidations ∧ job.key = action.key := by
  rcases jobs.queued action present withdraws with ⟨job, member, key⟩
  refine ⟨job, ⟨member, key⟩, ?_⟩
  intro other queued
  exact db.invalidations.unique queued.1 member (queued.2.trans key.symm)

end TenantTrust.Orchestration
