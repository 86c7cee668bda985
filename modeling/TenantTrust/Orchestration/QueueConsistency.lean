import TenantTrust.Orchestration.ClaimTokens

/-! The queue over whole runs: consistent in every state exactly when no report without a token
is ever recorded. -/

namespace TenantTrust.Orchestration

open Library Identity

/-- Every check that `mark_security_action_succeeded` makes of a report. -/
structure CompletesSuccess (db : Database) (report : SuccessReport) (action : SecurityAction)
    (state : SubjectSecurityState) : Prop extends Succeeds db report action state where
  reference : report.externalReference.all ExternalReference.wellFormed
  free : referenceIsFree action report.externalReference db
  shape : report.resultState.targetCertificate = .active →
    report.resultState.replacement = .notRequired

/-- Every check that `mark_security_action_failed` makes of a report. -/
structure CompletesFailure (db : Database) (report : FailureReport) (action : SecurityAction) :
    Prop where
  code : isReasonCode report.failureCode
  delay : 1 ≤ report.retryDelaySeconds ∧ report.retryDelaySeconds ≤ 600
  action_found : db.actions.get? (report.tenantId, report.actionId) = some action
  held : heldClaim action report.claimToken report.failedAt

/-- A report whose token is `NULL` meets a check that refuses it. -/
def Tokened (db : Database) : QueueOp → Prop
  | .succeed report => report.claimToken = none →
      ∀ action state, ¬ CompletesSuccess db report action state
  | .fail report => report.claimToken = none → ∀ action, ¬ CompletesFailure db report action
  | _ => True

theorem markSecurityActionSucceeded_completes {db after : Database} {report : SuccessReport}
    {reply : SecurityAction}
    (succeeds : markSecurityActionSucceeded report db = .ok (after, reply)) :
    ∃ action state, CompletesSuccess db report action state := by
  rcases markSecurityActionSucceeded_cases succeeds with ⟨action, state, legal, shape, _⟩
  simp only [markSecurityActionSucceeded, legal.action_found, Checked.bind_eq_ok,
    Checked.require_eq_ok, Checked.requireSome_eq_ok, exists_const, Option.some.injEq] at succeeds
  rcases succeeds with ⟨_, rfl, _, _, _, _, _, _, _, _, _, reference, free, _⟩
  exact ⟨_, _, legal, reference, free, shape⟩

theorem markSecurityActionFailed_completes {db after : Database} {report : FailureReport}
    {reply : SecurityAction}
    (succeeds : markSecurityActionFailed report db = .ok (after, reply)) :
    ∃ action, CompletesFailure db report action := by
  simp only [markSecurityActionFailed, Checked.bind_eq_ok, Checked.require_eq_ok,
    Checked.requireSome_eq_ok, Checked.pure_eq_ok, exists_const, Prod.mk.injEq] at succeeds
  rcases succeeds with ⟨⟨code, low, high⟩, action, found, held, _⟩
  exact ⟨action, code, ⟨low, high⟩, found, held⟩

theorem applyQueue_succeed {db after : Database} {report : SuccessReport}
    {reply : SecurityAction}
    (succeeds : markSecurityActionSucceeded report db = .ok (after, reply)) :
    applyQueue (.succeed report) db = .ok (after, .action reply) := by
  rw [applyQueue, Checked.bind_eq_ok]
  exact ⟨_, succeeds, rfl⟩

theorem applyQueue_fail {db after : Database} {report : FailureReport} {reply : SecurityAction}
    (succeeds : markSecurityActionFailed report db = .ok (after, reply)) :
    applyQueue (.fail report) db = .ok (after, .action reply) := by
  rw [applyQueue, Checked.bind_eq_ok]
  exact ⟨_, succeeds, rfl⟩

theorem CompletesSuccess.recorded {db : Database} {report : SuccessReport}
    {action : SecurityAction} {state : SubjectSecurityState}
    (completes : CompletesSuccess db report action state) :
    ∃ after reply, markSecurityActionSucceeded report db = .ok (after, reply) := by
  have advanced : (recordSuccess action report completes.shape db).states.get? action.target =
      some (advanceState action.target action.actionId report.resultState completes.shape
        state) := by
    simp only [recordSuccess, Table.get?_update, completes.state_found, Option.map_some]
  have last : (advanceState action.target action.actionId report.resultState completes.shape
      state).lastActionId = some action.actionId := by
    simp only [advanceState, Table.get?_key completes.state_found, if_true]
  have queued : ∃ after, queueSecurityStateInvalidation action report.succeededAt
      (recordSuccess action report completes.shape db) = .ok after := by
    unfold queueSecurityStateInvalidation
    split
    · simp only [advanced, last, Checked.bind_eq_ok, Checked.require_eq_ok,
        Checked.requireSome_eq_ok, Checked.pure_eq_ok, exists_const, Option.some.injEq,
        exists_eq_left', true_and, exists_eq']
    · exact ⟨_, rfl⟩
  rcases queued with ⟨after, queued⟩
  refine ⟨after, succeedAction report action, ?_⟩
  simp only [markSecurityActionSucceeded, Checked.bind_eq_ok, Checked.require_eq_ok,
    Checked.requireSome_eq_ok, exists_const]
  refine ⟨action, completes.action_found, completes.held, state, completes.state_found,
    completes.version, completes.result, (), completes.authority, (), completes.inventory,
    completes.reference, completes.free, ?_⟩
  rw [dif_pos completes.shape, Checked.bind_eq_ok]
  exact ⟨after, queued, rfl⟩

theorem CompletesFailure.recorded {db : Database} {report : FailureReport}
    {action : SecurityAction} (completes : CompletesFailure db report action) :
    markSecurityActionFailed report db =
      .ok (recordFailure action report db, failAction report action) := by
  simp only [markSecurityActionFailed, Checked.bind_eq_ok, Checked.require_eq_ok,
    Checked.requireSome_eq_ok, Checked.pure_eq_ok, exists_const]
  exact ⟨⟨completes.code, completes.delay⟩, action, completes.action_found, completes.held, rfl⟩

/-- An operation that meets the guard and is recorded shows a token. -/
theorem tokened_admitted {db after : Database} {op : QueueOp} {reply : QueueReply}
    (tokened : Tokened db op) (succeeds : applyQueue op db = .ok (after, reply)) :
    op.Admitted (· ≠ none) := by
  cases op with
  | succeed report =>
      simp only [applyQueue, Checked.bind_eq_ok] at succeeds
      rcases succeeds with ⟨result, called, _⟩
      rcases markSecurityActionSucceeded_completes called with ⟨action, state, completes⟩
      exact fun missing => tokened missing action state completes
  | fail report =>
      simp only [applyQueue, Checked.bind_eq_ok] at succeeds
      rcases succeeds with ⟨result, called, _⟩
      rcases markSecurityActionFailed_completes called with ⟨action, completes⟩
      exact fun missing => tokened missing action completes
  | _ => trivial

theorem guarded_invariant (Inv : Database → Prop)
    (preserved : ∀ before after, Inv before → AdmittedEffect (· ≠ none) before after → Inv after)
    (db : Database) (ops : List QueueOp)
    (tokened : Transaction.Guarded applyQueue Tokened db ops) (holds : Inv db) :
    Inv (runQueue db ops) :=
  Transaction.run_preserves_guarded Inv
    (fun _ _ _ _ held tokened succeeds =>
      effects_preserve preserved held (applyQueue_admitted (tokened_admitted tokened succeeds)
        succeeds))
    db ops tokened holds

theorem tokenLost_run {tenantId : TenantId} {token : ClaimToken} {db : Database}
    (history : AttemptHistory db) (lost : TokenLost tenantId token db) {ops : List QueueOp}
    (tokened : Transaction.Guarded applyQueue Tokened db ops) :
    AttemptHistory (runQueue db ops) ∧ TokenLost tenantId token (runQueue db ops) := by
  refine guarded_invariant (fun now => AttemptHistory now ∧ TokenLost tenantId token now) ?_
    db ops tokened ⟨history, lost⟩
  intro before after holds effect
  rcases holds with ⟨historyNow, attempt, member, tenant, same, ended⟩
  exact ⟨attemptHistory_effect historyNow effect,
    attempt, effect.effect.attempt_persists historyNow member ended, tenant, same, ended⟩

/-- The actions, attempts, posture versions and invalidation jobs of one state. -/
structure ConsistentQueue (db : Database) : Prop where
  oneExecution : OneExecution db.actions
  ledger : ∀ action ∈ db.actions, AttemptLedger db action
  owned : ∀ attempt ∈ db.attempts, ∃ action ∈ db.actions, attempt.actionKey = action.key
  settled : ∀ action ∈ db.actions, action.execution.status = .succeeded →
    (∀ ops, action ∈ (runQueue db ops).actions) ∧
    ∃! attempt, attempt ∈ db.attempts ∧ attempt.actionKey = action.key ∧
      ∃ at_, attempt.outcome = .succeeded at_
  success : ∀ report : SuccessReport,
    Unclaimed db report.tenantId report.actionId report.claimToken report.succeededAt →
    commitQueue db (.succeed report) = db
  failure : ∀ report : FailureReport,
    Unclaimed db report.tenantId report.actionId report.claimToken report.failedAt →
    commitQueue db (.fail report) = db
  posture : ∀ action ∈ db.actions, ∃ state ∈ db.states, state.target = action.target
  version : ∀ state ∈ db.states,
    state.stateVersion = 1 + db.actions.count (succeededOn state.target)
  job : ∀ action ∈ db.actions, withdrawsAccess action →
    ∃! job, job ∈ db.invalidations ∧ job.key = action.key

/-- Every state of the run is consistent, and a token is lost for the rest of it. -/
structure ConsistentRun (start : Database) (ops : List QueueOp) : Prop where
  states : ∀ front back, ops = front ++ back → ConsistentQueue (runQueue start front)
  lost : ∀ front middle back, ops = front ++ (middle ++ back) → ∀ tenantId token,
    TokenLost tenantId token (runQueue start front) → ∀ actionId at_,
    Unclaimed (runQueue start (front ++ middle)) tenantId actionId (some token) at_

theorem consistentQueue {db : Database} (invariant : QueueInvariant db)
    (history : AttemptHistory db) : ConsistentQueue db where
  oneExecution := invariant.oneExecution
  ledger := fun _ present => attemptLedger history present
  owned := by
    intro attempt member
    rcases history.owned attempt member with ⟨action, present, owner, _⟩
    exact ⟨action, present, owner⟩
  settled := fun _ present done => ⟨fun ops => succeeded_persists _ ops present done,
    succeeded_attempt_unique history present done⟩
  success := fun _ => unclaimed_success_aborts
  failure := fun _ => unclaimed_failure_aborts
  posture := invariant.versions.target
  version := invariant.versions.version
  job := fun _ present => withdrawsAccess_job invariant.jobs present

/-- An attempt that stays open when its action has stopped breaks the ledger. -/
theorem ledger_broken {before after : Database} (history : AttemptHistory before)
    {old new : SecurityAction} {claim : Claim} (present : old ∈ before.actions)
    (executing : old.execution = .executing claim) (attempts : after.attempts = before.attempts)
    (member : new ∈ after.actions) (key : new.key = old.key)
    (stopped : new.execution.status ≠ .executing) : ¬ ConsistentQueue after := by
  intro consistent
  rcases history.running present executing with ⟨attempt, recorded, own, running, _⟩
  have claimed := ((consistent.ledger new member).running attempt.claimToken).mp
    ⟨attempt, by rwa [attempts], by rw [key, (actionKey_of_key own).1], running, rfl⟩
  rcases claimed with ⟨later, executes, _⟩
  exact stopped (by rw [executes]; rfl)

/-- A report without a token finds no attempt row. -/
theorem update_tokenless {attempts : AttemptTable} {action : SecurityAction}
    {token : Option ClaimToken} (missing : token = none) (outcome : AttemptOutcome)
    (reference : SecurityActionAttempt → Option ExternalReference)
    (keeps : ∀ attempt, (completeAttempt action token outcome (reference attempt) attempt).key =
      attempt.key) :
    attempts.update
      (fun attempt => completeAttempt action token outcome (reference attempt) attempt) keeps =
      attempts := by
  have same : (fun attempt => completeAttempt action token outcome (reference attempt) attempt) =
      id := by
    funext attempt
    simp [completeAttempt, missing]
  cases attempts
  simp [Table.update, same]

/-- A report without a token that every check lets through leaves the attempt running. -/
theorem tokenless_breaks {db : Database} {op : QueueOp} (history : AttemptHistory db)
    (recorded : ¬ Tokened db op) : ¬ ConsistentQueue (commitQueue db op) := by
  cases op with
  | succeed report =>
      simp only [Tokened, not_forall, not_not] at recorded
      rcases recorded with ⟨missing, action, state, completes⟩
      rcases completes.recorded with ⟨after, reply, succeeds⟩
      rcases markSecurityActionSucceeded_cases succeeds with ⟨found, posture, legal, shape, rfl⟩
      have committed : commitQueue db (.succeed report) = _ :=
        Transaction.commit_ok (applyQueue_succeed succeeds)
      rcases heldClaim_spec legal.held with ⟨claim, executing, _⟩
      have key := Table.get?_key legal.action_found
      rw [committed]
      refine ledger_broken history (Table.get?_mem legal.action_found) executing
        (update_tokenless missing (.succeeded report.succeededAt)
          (fun _ => report.externalReference) (completeAttempt_key found report.claimToken _ _))
        ((Table.mem_update _ _ (succeedAction_key report) _).mpr
          ⟨found, Table.get?_mem legal.action_found, rfl⟩) (succeedAction_key report found) ?_
      simp [succeedAction, key, ActionExecution.status]
  | fail report =>
      simp only [Tokened, not_forall, not_not] at recorded
      rcases recorded with ⟨missing, action, completes⟩
      have committed : commitQueue db (.fail report) = _ :=
        Transaction.commit_ok (applyQueue_fail completes.recorded)
      rcases heldClaim_spec completes.held with ⟨claim, executing, _⟩
      have key := Table.get?_key completes.action_found
      rw [committed]
      refine ledger_broken history (Table.get?_mem completes.action_found) executing
        (update_tokenless missing (.failed report.failedAt report.failureCode)
          (fun attempt => attempt.externalReference)
          (fun attempt => completeAttempt_key action report.claimToken _ _ attempt))
        ((Table.mem_update _ _ (failAction_key report) _).mpr
          ⟨action, Table.get?_mem completes.action_found, rfl⟩) (failAction_key report action) ?_
      simp [failAction, key, ActionExecution.status]
  | _ => exact absurd trivial recorded

theorem attemptHistory_run {start : Database} (fresh : start.Fresh) {ops : List QueueOp}
    (tokened : Transaction.Guarded applyQueue Tokened start ops) :
    AttemptHistory (runQueue start ops) :=
  guarded_invariant AttemptHistory (fun _ _ => attemptHistory_effect) start ops tokened
    (attemptHistory_fresh fresh)

def tokenless : List QueueOp :=
  [Scenario.quarantine 1 .suspendSubject, Scenario.claim 1, .succeed {
    tenantId := Scenario.target.tenantId
    actionId := ⟨1⟩
    claimToken := none
    resultState := ⟨.suspended, .blocked, .active, .notRequired⟩
    externalReference := none
    succeededAt := 0 }]

end TenantTrust.Orchestration
