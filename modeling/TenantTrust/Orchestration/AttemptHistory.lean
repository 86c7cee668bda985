import TenantTrust.Orchestration.Persistence

/-! The attempts of an action are numbered without gaps and mirror its execution. -/

namespace TenantTrust.Orchestration

open Library Identity

abbrev AttemptTable := Table SecurityActionAttempt SecurityActionAttempt.key

def AttemptOutcome.isFailed : AttemptOutcome → Prop
  | failed _ _ => True
  | executing | succeeded _ => False

/-- The latest attempt shows the state of its action. -/
def Reflects (execution : ActionExecution) (attempt : SecurityActionAttempt) : Prop :=
  match execution, attempt.outcome with
  | .executing claim, .executing => claim.claimToken = attempt.claimToken
  | .succeeded _ _, .succeeded _ => True
  | .failed, .failed _ _ => True
  | _, _ => False

/-- What the attempt numbered `n` of an action must look like. -/
def Fits (action : SecurityAction) (n : Nat) (attempt : SecurityActionAttempt) : Prop :=
  attempt.key = (action.key, n) ∧
    if n = action.attemptCount then Reflects action.execution attempt
    else attempt.outcome.isFailed

def Recorded (attempts : AttemptTable) (action : SecurityAction) : Prop :=
  ∀ n, 1 ≤ n → n ≤ action.attemptCount → ∃ attempt ∈ attempts, Fits action n attempt

def TokensUnique (attempts : AttemptTable) : Prop :=
  ∀ left ∈ attempts, ∀ right ∈ attempts, left.tenantId = right.tenantId →
    left.claimToken = right.claimToken → left = right

def AttemptCounts (db : Database) : Prop :=
  ∀ action ∈ db.actions, action.Counted

theorem attemptCounts_effect {before after : Database} (counts : AttemptCounts before)
    (effect : Effect before after) : AttemptCounts after := by
  intro new member
  rcases effect.action_origin member with ⟨old, present, continues⟩ | ⟨pending, untried, _⟩
  · exact continues.counted (counts old present)
  · exact iff_of_true pending untried

theorem attemptCounts_fresh {db : Database} (fresh : db.Fresh) : AttemptCounts db := by
  rw [AttemptCounts, fresh.actions]
  intro action member
  exact absurd member (Table.not_mem_empty action)

theorem attemptCounts_reachable {db : Database} (reachable : db.Reachable) : AttemptCounts db :=
  reachable_invariant (fun _ => attemptCounts_fresh)
    (fun _ _ counts effect => attemptCounts_effect counts effect) reachable

structure AttemptHistory (db : Database) : Prop where
  counts : AttemptCounts db
  owned : ∀ attempt ∈ db.attempts, ∃ action ∈ db.actions, attempt.actionKey = action.key ∧
    1 ≤ attempt.attemptNumber ∧ attempt.attemptNumber ≤ action.attemptCount
  recorded : ∀ action ∈ db.actions, Recorded db.attempts action
  tokens : TokensUnique db.attempts

theorem Recorded.latest {attempts : AttemptTable} {action : SecurityAction}
    (recorded : Recorded attempts action) (counted : action.Counted)
    (started : action.execution ≠ .pending) :
    ∃ attempt ∈ attempts, attempt.key = (action.key, action.attemptCount) ∧
      Reflects action.execution attempt := by
  rcases recorded action.attemptCount (counted.started started) (Nat.le_refl _) with
    ⟨attempt, member, key, reflects⟩
  rw [if_pos rfl] at reflects
  exact ⟨attempt, member, key, reflects⟩

/-- A claimable action has only failed attempts behind it. -/
theorem Recorded.failed {attempts : AttemptTable} {action : SecurityAction}
    (recorded : Recorded attempts action) (counted : action.Counted)
    (claimable : action.execution.isClaimable) (n : Nat) (low : 1 ≤ n)
    (high : n ≤ action.attemptCount) :
    ∃ attempt ∈ attempts, attempt.key = (action.key, n) ∧ attempt.outcome.isFailed := by
  rcases recorded n low high with ⟨attempt, member, key, fits⟩
  refine ⟨attempt, member, key, ?_⟩
  split at fits
  · cases execution : action.execution with
    | pending =>
        have none_ := counted.mp execution
        omega
    | executing claim => simp [execution, ActionExecution.isClaimable] at claimable
    | succeeded state at_ => simp [execution, ActionExecution.isClaimable] at claimable
    | failed =>
        rw [execution] at fits
        cases outcome : attempt.outcome <;> simp [Reflects, outcome, AttemptOutcome.isFailed] at *
  · exact fits

theorem insertAttempt_spec {row : SecurityActionAttempt} {before after : AttemptTable}
    (succeeds : insertAttempt row before = .ok after) :
    before.insertNew row = some after ∧
      ∀ old ∈ before, old.tenantId = row.tenantId → old.claimToken ≠ row.claimToken := by
  simp only [insertAttempt, Checked.bind_eq_ok, Checked.require_eq_ok,
    Checked.requireSome_eq_ok, exists_const] at succeeds
  rcases succeeds with ⟨fresh, inserted⟩
  exact ⟨inserted, fun old member tenant token => fresh old member ⟨tenant, token⟩⟩

theorem insertAttempt_tokens {row : SecurityActionAttempt} {before after : AttemptTable}
    (succeeds : insertAttempt row before = .ok after) (unique : TokensUnique before) :
    TokensUnique after := by
  rcases insertAttempt_spec succeeds with ⟨inserted, fresh⟩
  intro left leftMember right rightMember tenant token
  rcases (Table.mem_insertNew inserted left).mp leftMember with leftOld | rfl <;>
    rcases (Table.mem_insertNew inserted right).mp rightMember with rightOld | rfl
  · exact unique left leftOld right rightOld tenant token
  · exact absurd token (fresh left leftOld tenant)
  · exact absurd token.symm (fresh right rightOld tenant.symm)
  · rfl

theorem insertAttempts_spec {call : ClaimCall} {code : String} {actions : List SecurityAction}
    {before after : AttemptTable}
    (succeeds : actions.foldlM
      (fun attempts action => insertAttempt (suppressedAttempt call code action) attempts)
      before = .ok after) :
    (∀ attempt, attempt ∈ after ↔ attempt ∈ before ∨
      ∃ action ∈ actions, attempt = suppressedAttempt call code action) ∧
    (TokensUnique before → TokensUnique after) := by
  induction actions generalizing before with
  | nil =>
      simp only [List.foldlM_nil, Checked.pure_eq_ok] at succeeds
      subst succeeds
      simp
  | cons head tail ih =>
      simp only [List.foldlM_cons, Checked.bind_eq_ok] at succeeds
      rcases succeeds with ⟨middle, first, rest⟩
      rcases ih rest with ⟨members, tokens⟩
      constructor
      · intro attempt
        rw [members, Table.mem_insertNew (insertAttempt_spec first).1]
        simp only [List.mem_cons, exists_eq_or_imp, or_assoc]
      · intro unique
        exact tokens (insertAttempt_tokens first unique)

theorem update_tokens {attempts : AttemptTable}
    {f : SecurityActionAttempt → SecurityActionAttempt}
    (keeps : ∀ attempt, (f attempt).key = attempt.key) (unique : TokensUnique attempts)
    (same : ∀ attempt, (f attempt).claimToken = attempt.claimToken) :
    TokensUnique (attempts.update f keeps) := by
  have tenants : ∀ attempt, (f attempt).tenantId = attempt.tenantId := fun attempt =>
    congrArg (fun key : ActionKey × Nat => key.1.1) (keeps attempt)
  intro left leftMember right rightMember tenant token
  rcases (Table.mem_update _ _ keeps _).mp leftMember with ⟨oldLeft, leftOld, rfl⟩
  rcases (Table.mem_update _ _ keeps _).mp rightMember with ⟨oldRight, rightOld, rfl⟩
  rw [tenants, tenants] at tenant
  rw [same, same] at token
  rw [unique oldLeft leftOld oldRight rightOld tenant token]

theorem actionKey_of_key {attempt : SecurityActionAttempt} {key : ActionKey} {n : Nat}
    (same : attempt.key = (key, n)) : attempt.actionKey = key ∧ attempt.attemptNumber = n :=
  ⟨congrArg Prod.fst same, congrArg Prod.snd same⟩

theorem expireAction_attemptCount (at_ : Timestamp) (action : SecurityAction) :
    (expireAction at_ action).attemptCount = action.attemptCount := by
  unfold expireAction
  split <;> rfl

theorem expireAttempt_token (at_ : Timestamp)
    (actions : Table SecurityAction SecurityAction.key) (attempt : SecurityActionAttempt) :
    (expireAttempt at_ actions attempt).claimToken = attempt.claimToken := by
  unfold expireAttempt
  split
  · split <;> rfl
  · rfl

/-- The attempt that belongs to an action changes exactly as the action does. -/
theorem expire_fits {db : Database} {at_ : Timestamp} {action : SecurityAction}
    (member : action ∈ db.actions) {n : Nat} {attempt : SecurityActionAttempt}
    (fits : Fits action n attempt) :
    Fits (expireAction at_ action) n (expireAttempt at_ db.actions attempt) := by
  rcases fits with ⟨key, fits⟩
  rcases actionKey_of_key key with ⟨actionKey, number⟩
  have found : db.actions.get? attempt.actionKey = some action := by
    rw [actionKey]
    exact Table.get?_of_mem member
  refine ⟨by rw [expireAttempt_key, expireAction_key, key], ?_⟩
  rw [expireAction_attemptCount]
  by_cases latest : n = action.attemptCount
  · rw [if_pos latest] at fits ⊢
    by_cases expired : action.leaseExpired at_
    · rcases status_of_leaseExpired expired with ⟨claim, executing⟩
      have running : attempt.outcome = .executing := by
        rw [executing] at fits
        cases outcome : attempt.outcome <;> simp [Reflects, outcome] at fits ⊢
      simp [expireAction, expireAttempt, found, expired, number, latest, running, Reflects]
    · simp only [expireAction, expireAttempt, found, expired]
      exact fits
  · rw [if_neg latest] at fits ⊢
    have settled : attempt.outcome ≠ .executing := by
      intro running
      rw [running] at fits
      exact fits
    simp only [expireAttempt, found, settled, and_false, if_false]
    exact fits

theorem attemptHistory_expire {db : Database} (history : AttemptHistory db)
    (at_ : Timestamp) : AttemptHistory (expireLeases at_ db) where
  counts := attemptCounts_effect history.counts (.expire at_)
  owned := by
    intro attempt member
    rcases (Table.mem_update _ _ (expireAttempt_key at_ db.actions) _).mp member with
      ⟨old, oldMember, rfl⟩
    rcases history.owned old oldMember with ⟨action, present, key, low, high⟩
    have same := actionKey_of_key (expireAttempt_key at_ db.actions old)
    refine ⟨expireAction at_ action,
      (Table.mem_update _ _ (expireAction_key at_) _).mpr ⟨action, present, rfl⟩, ?_, ?_, ?_⟩
    · rw [same.1, expireAction_key, key]
    · rw [same.2]
      exact low
    · rw [same.2, expireAction_attemptCount]
      exact high
  recorded := by
    intro action member
    rcases (Table.mem_update _ _ (expireAction_key at_) _).mp member with ⟨old, present, rfl⟩
    intro n low high
    rw [expireAction_attemptCount] at high
    rcases history.recorded old present n low high with ⟨attempt, attemptMember, fits⟩
    exact ⟨_, (Table.mem_update _ _ (expireAttempt_key at_ db.actions) _).mpr
      ⟨attempt, attemptMember, rfl⟩, expire_fits present fits⟩
  tokens := update_tokens (expireAttempt_key at_ db.actions) history.tokens
    (expireAttempt_token at_ db.actions)

/-- One more failed or running attempt on top of a claimable action. -/
theorem recorded_next {before after : AttemptTable} {old new : SecurityAction}
    (row : SecurityActionAttempt) (recorded : Recorded before old) (counted : old.Counted)
    (claimable : old.execution.isClaimable) (kept : ∀ attempt ∈ before, attempt ∈ after)
    (added : row ∈ after) (key : new.key = old.key)
    (count : new.attemptCount = old.attemptCount + 1)
    (rowKey : row.key = (old.key, old.attemptCount + 1)) (reflects : Reflects new.execution row) :
    Recorded after new := by
  intro n low high
  by_cases latest : n = new.attemptCount
  · refine ⟨row, added, ?_, by rw [if_pos latest]; exact reflects⟩
    rw [rowKey, key, latest, count]
  · rcases recorded.failed counted claimable n low (by omega) with
      ⟨attempt, member, same, settled⟩
    exact ⟨attempt, kept attempt member, by rw [same, key], by rw [if_neg latest]; exact settled⟩

theorem recorded_mono {before after : AttemptTable} {action : SecurityAction}
    (recorded : Recorded before action) (kept : ∀ attempt ∈ before, attempt ∈ after) :
    Recorded after action := by
  intro n low high
  rcases recorded n low high with ⟨attempt, member, fits⟩
  exact ⟨attempt, kept attempt member, fits⟩

theorem attemptHistory_suppress {call : ClaimCall} {suppressed : SecurityAction → Bool}
    {code : String} {before after : Database} (history : AttemptHistory before)
    (legal : ∀ action ∈ before.actions, suppressed action → action.execution.isClaimable)
    (succeeds : suppress call suppressed code before = .ok after)
    (counts : AttemptCounts after) : AttemptHistory after := by
  rcases suppress_states succeeds with ⟨attempts, inserted, rfl⟩
  rcases insertAttempts_spec inserted with ⟨members, tokens⟩
  have kept : ∀ attempt ∈ before.attempts, attempt ∈ attempts := fun attempt member =>
    (members attempt).mpr (Or.inl member)
  refine ⟨counts, ?_, ?_, ?_⟩
  · intro attempt member
    rcases (members attempt).mp member with old | ⟨action, chosen, rfl⟩
    · rcases history.owned attempt old with ⟨action, present, key, low, high⟩
      refine ⟨_, (Table.mem_update _ _ (suppressAction_key _ _) _).mpr ⟨action, present, rfl⟩,
        ?_, low, ?_⟩
      · rw [suppressAction_key, key]
      · unfold suppressAction
        split
        · exact Nat.le_succ_of_le high
        · exact high
    · rcases List.mem_filter.mp chosen with ⟨present, matches_⟩
      refine ⟨_, (Table.mem_update _ _ (suppressAction_key _ _) _).mpr ⟨action, present, rfl⟩,
        ?_, Nat.succ_pos _, ?_⟩
      · rw [suppressAction_key]
        rfl
      · simp [suppressAction, matches_, suppressedAttempt]
  · intro action member
    rcases (Table.mem_update _ _ (suppressAction_key _ _) _).mp member with ⟨old, present, rfl⟩
    have recorded := history.recorded old present
    by_cases chosen : suppressed old
    · refine recorded_next (suppressedAttempt call code old) recorded (history.counts old present)
        (legal old present chosen) kept ?_ (suppressAction_key _ _ _) ?_ rfl ?_
      · exact (members _).mpr (Or.inr ⟨old, List.mem_filter.mpr ⟨present, chosen⟩, rfl⟩)
      · simp [suppressAction, chosen]
      · simp [suppressAction, chosen, suppressedAttempt, Reflects]
    · have same : suppressAction suppressed code old = old := by simp [suppressAction, chosen]
      rw [same]
      exact recorded_mono recorded kept
  · exact tokens history.tokens

theorem attemptHistory_execute {call : ClaimCall} {chosen : SecurityAction}
    {state : SubjectSecurityState} {before after : Database} {claimed : Option ClaimedAction}
    (history : AttemptHistory before) (present : chosen ∈ before.actions)
    (claimable : chosen.execution.isClaimable)
    (succeeds : startExecution call chosen state before = .ok (after, claimed))
    (counts : AttemptCounts after) : AttemptHistory after := by
  rcases startExecution_cases succeeds with ⟨_, attempts, inserted, rfl, _⟩
  have row := (insertAttempt_spec inserted).1
  have kept : ∀ attempt ∈ before.attempts, attempt ∈ attempts := fun attempt member =>
    (Table.mem_insertNew row attempt).mpr (Or.inl member)
  refine ⟨counts, ?_, ?_, ?_⟩
  · intro attempt member
    rcases (Table.mem_insertNew row attempt).mp member with old | rfl
    · rcases history.owned attempt old with ⟨action, owner, key, low, high⟩
      refine ⟨_, (Table.mem_update _ _ (executeAction_key _ _ _) _).mpr ⟨action, owner, rfl⟩,
        ?_, low, ?_⟩
      · rw [executeAction_key, key]
      · unfold executeAction
        split
        · exact Nat.le_succ_of_le high
        · exact high
    · refine ⟨_, (Table.mem_update _ _ (executeAction_key _ _ _) _).mpr ⟨chosen, present, rfl⟩,
        ?_, Nat.succ_pos _, ?_⟩
      · rw [executeAction_key]
        rfl
      · simp [executeAction, claimedAttempt]
  · intro action member
    rcases (Table.mem_update _ _ (executeAction_key _ _ _) _).mp member with ⟨old, owner, rfl⟩
    have recorded := history.recorded old owner
    by_cases same : old.key = chosen.key
    · rw [before.actions.unique owner present same] at recorded ⊢
      refine recorded_next (claimedAttempt call chosen) recorded
        (history.counts chosen present) claimable kept
        ((Table.mem_insertNew row _).mpr (Or.inr rfl)) (executeAction_key _ _ _ _) ?_ rfl ?_
      · simp [executeAction]
      · simp [executeAction, claimedAttempt, Reflects, ClaimCall.claim]
    · have unchanged : executeAction call chosen state.stateVersion old = old := by
        simp [executeAction, same]
      rw [unchanged]
      exact recorded_mono recorded kept
  · exact insertAttempt_tokens inserted history.tokens

/-- The end of an execution: the running attempt and its action change together, and
nothing else does. -/
theorem attemptHistory_complete {db after : Database} {target : SecurityAction} {claim : Claim}
    {f : SecurityActionAttempt → SecurityActionAttempt} {g : SecurityAction → SecurityAction}
    (execution : ActionExecution) (outcome : AttemptOutcome) (history : AttemptHistory db)
    (present : target ∈ db.actions) (executing : target.execution = .executing claim)
    (keepsAttempt : ∀ attempt, (f attempt).key = attempt.key)
    (keepsAction : ∀ action, (g action).key = action.key)
    (attempts : after.attempts = db.attempts.update f keepsAttempt)
    (actions : after.actions = db.actions.update g keepsAction)
    (token : ∀ attempt, (f attempt).claimToken = attempt.claimToken)
    (completed : ∀ attempt, attempt.key = (target.key, target.attemptCount) →
      attempt.claimToken = claim.claimToken → (f attempt).outcome = outcome)
    (untouched : ∀ attempt, attempt.key ≠ (target.key, target.attemptCount) → f attempt = attempt)
    (ended : (g target).execution = execution ∧ (g target).attemptCount = target.attemptCount)
    (others : ∀ action, action.key ≠ target.key → g action = action)
    (reflects : ∀ attempt, attempt.outcome = outcome → Reflects execution attempt)
    (counts : AttemptCounts after) : AttemptHistory after := by
  have count : ∀ action ∈ db.actions, (g action).attemptCount = action.attemptCount := by
    intro action member
    by_cases same : action.key = target.key
    · rw [db.actions.unique member present same]
      exact ended.2
    · rw [others action same]
  have kept : ∀ attempt ∈ db.attempts, f attempt ∈ after.attempts := by
    intro attempt member
    rw [attempts]
    exact (Table.mem_update _ _ keepsAttempt _).mpr ⟨attempt, member, rfl⟩
  refine ⟨counts, ?_, ?_, ?_⟩
  · intro attempt member
    rw [attempts] at member
    rcases (Table.mem_update _ _ keepsAttempt _).mp member with ⟨old, oldMember, rfl⟩
    rcases history.owned old oldMember with ⟨action, owner, key, low, high⟩
    have same := actionKey_of_key (keepsAttempt old)
    refine ⟨g action, ?_, ?_, ?_, ?_⟩
    · rw [actions]
      exact (Table.mem_update _ _ keepsAction _).mpr ⟨action, owner, rfl⟩
    · rw [same.1, keepsAction, key]
    · rw [same.2]
      exact low
    · rw [same.2, count action owner]
      exact high
  · intro action member
    rw [actions] at member
    rcases (Table.mem_update _ _ keepsAction _).mp member with ⟨old, owner, rfl⟩
    have recorded := history.recorded old owner
    by_cases same : old.key = target.key
    · rw [db.actions.unique owner present same] at recorded ⊢
      intro n low high
      rw [ended.2] at high
      rcases recorded n low high with ⟨attempt, attemptMember, key, fits⟩
      refine ⟨f attempt, kept attempt attemptMember, by rw [keepsAttempt, keepsAction, key], ?_⟩
      rw [ended.2, ended.1]
      split at fits
      · rename_i latest
        rw [if_pos latest]
        apply reflects
        apply completed attempt (by rw [key, latest])
        rw [executing] at fits
        cases running : attempt.outcome <;> simp [Reflects, running] at fits
        exact fits.symm
      · rename_i earlier
        rw [if_neg earlier, untouched attempt]
        · exact fits
        · rw [key]
          intro latest
          exact earlier (congrArg Prod.snd latest)
    · rw [others old same]
      intro n low high
      rcases recorded n low high with ⟨attempt, attemptMember, key, fits⟩
      have apart : attempt.key ≠ (target.key, target.attemptCount) := by
        rw [key]
        intro equal
        exact same (congrArg Prod.fst equal)
      have here := kept attempt attemptMember
      rw [untouched attempt apart] at here
      exact ⟨attempt, here, key, fits⟩
  · rw [attempts]
    exact update_tokens keepsAttempt history.tokens token

theorem completeAttempt_token (action : SecurityAction) (token : Option ClaimToken)
    (outcome : AttemptOutcome) (reference : Option ExternalReference)
    (attempt : SecurityActionAttempt) :
    (completeAttempt action token outcome reference attempt).claimToken = attempt.claimToken := by
  unfold completeAttempt
  split <;> rfl

theorem completeAttempt_outcome {action : SecurityAction} {token : Option ClaimToken}
    {outcome : AttemptOutcome} {reference : Option ExternalReference}
    {attempt : SecurityActionAttempt} (key : attempt.key = (action.key, action.attemptCount))
    (held : token = some attempt.claimToken) :
    (completeAttempt action token outcome reference attempt).outcome = outcome := by
  rcases actionKey_of_key key with ⟨actionKey, number⟩
  simp [completeAttempt, actionKey, number, held]

theorem completeAttempt_untouched {action : SecurityAction} {token : Option ClaimToken}
    {outcome : AttemptOutcome} {reference : Option ExternalReference}
    {attempt : SecurityActionAttempt} (apart : attempt.key ≠ (action.key, action.attemptCount)) :
    completeAttempt action token outcome reference attempt = attempt := by
  unfold completeAttempt
  rw [if_neg]
  intro same
  exact apart (by rw [SecurityActionAttempt.key, same.1, same.2.1])

/-- The token that a held report shows is the one of the claim. -/
theorem held_token {token : Option ClaimToken} {claim : Claim} (shown : token ≠ none)
    (own : ∀ own, token = some own → claim.claimToken = own) :
    token = some claim.claimToken := by
  rcases Option.ne_none_iff_exists'.mp shown with ⟨given, same⟩
  rw [same, own given same]

theorem attemptHistory_effect {before after : Database} (history : AttemptHistory before)
    (effect : AdmittedEffect (· ≠ none) before after) : AttemptHistory after := by
  have counts := attemptCounts_effect history.counts effect.effect
  cases effect with
  | environment _ actions attempts _ _ _ =>
      rcases history with ⟨_, owned, recorded, tokens⟩
      refine ⟨counts, ?_, ?_, ?_⟩
      · rw [attempts, actions]
        exact owned
      · rw [attempts, actions]
        exact recorded
      · rw [attempts]
        exact tokens
  | createState _ _ _ => exact ⟨counts, history.owned, history.recorded, history.tokens⟩
  | authorize _ _ _ _ _ _ _ _ _ _ =>
      exact ⟨counts, history.owned, history.recorded, history.tokens⟩
  | enqueue _ _ inserted =>
      refine ⟨counts, ?_, ?_, history.tokens⟩
      · intro attempt member
        rcases history.owned attempt member with ⟨action, present, fits⟩
        exact ⟨action, (Table.mem_insertNew inserted action).mpr (Or.inl present), fits⟩
      · intro action member
        rcases (Table.mem_insertNew inserted action).mp member with old | rfl
        · exact history.recorded action old
        · intro n low high
          exact absurd (Nat.le_trans low high) (by simp [EnqueueRequest.action])
  | expire at_ => exact attemptHistory_expire history at_
  | suppress legal succeeds =>
      exact attemptHistory_suppress history
        (fun action member chosen => (legal action member chosen).1) succeeds counts
  | execute present candidate _ _ _ succeeds =>
      exact attemptHistory_execute history present (isCandidate_claimable candidate) succeeds
        counts
  | succeed legal shape shown =>
      rename_i report action state
      rcases heldClaim_spec legal.held with ⟨claim, executing, token, _⟩
      have key := Table.get?_key legal.action_found
      refine attemptHistory_complete (.succeeded report.resultState report.succeededAt)
        (.succeeded report.succeededAt) history (Table.get?_mem legal.action_found) executing
        (completeAttempt_key action report.claimToken _ report.externalReference)
        (succeedAction_key report) rfl rfl (completeAttempt_token _ _ _ _)
        (fun attempt latest held =>
          completeAttempt_outcome latest (by rw [held, held_token shown token]))
        (fun attempt apart => completeAttempt_untouched apart)
        ?_ ?_ ?_ counts
      · simp [succeedAction, key]
      · intro other apart
        rw [key] at apart
        simp [succeedAction, apart]
      · intro attempt outcome
        simp [Reflects, outcome]
  | fail found held shown =>
      rename_i report action
      rcases heldClaim_spec held with ⟨claim, executing, token, _⟩
      have key := Table.get?_key found
      refine attemptHistory_complete .failed (.failed report.failedAt report.failureCode)
        history (Table.get?_mem found) executing
        (fun attempt => completeAttempt_key action report.claimToken _
          attempt.externalReference attempt)
        (failAction_key report) rfl rfl (fun attempt => completeAttempt_token _ _ _ _ attempt)
        (fun attempt latest same =>
          completeAttempt_outcome latest (by rw [same, held_token shown token]))
        (fun attempt apart => completeAttempt_untouched apart)
        ?_ ?_ ?_ counts
      · simp [failAction, key]
      · intro other apart
        rw [key] at apart
        simp [failAction, apart]
      · intro attempt outcome
        simp [Reflects, outcome]

theorem attemptHistory_fresh {db : Database} (fresh : db.Fresh) : AttemptHistory db := by
  refine ⟨attemptCounts_fresh fresh, ?_, ?_, ?_⟩
  · rw [fresh.attempts]
    intro attempt member
    exact absurd member (Table.not_mem_empty attempt)
  · rw [fresh.actions]
    intro action member
    exact absurd member (Table.not_mem_empty action)
  · rw [fresh.attempts]
    intro attempt member
    exact absurd member (Table.not_mem_empty attempt)

end TenantTrust.Orchestration
