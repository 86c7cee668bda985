import TenantTrust.Orchestration.Successes

/-! What the queue leaves behind for those who look up the action that caused an event. -/

namespace TenantTrust.Orchestration

open Library Identity Audit

theorem markSecurityActionSucceeded_reference {report : SuccessReport}
    {before after : Database} {reply : SecurityAction}
    (succeeds : markSecurityActionSucceeded report before = .ok (after, reply)) :
    ∃ action, before.actions.get? (report.tenantId, report.actionId) = some action ∧
      referenceIsFree action report.externalReference before := by
  simp only [markSecurityActionSucceeded, Checked.bind_eq_ok, Checked.require_eq_ok,
    Checked.requireSome_eq_ok, exists_const] at succeeds
  rcases succeeds with ⟨action, found, _, _, _, _, _, _, _, _, _, _, free, _⟩
  exact ⟨action, found, free⟩

/-- What the unique index on results is for, said of the succeeded rows. -/
def UniqueResults (actions : ActionTable) : Prop :=
  ∀ left ∈ actions, ∀ right ∈ actions,
    left.execution.status = .succeeded → right.execution.status = .succeeded →
    left.target.tenantId = right.target.tenantId → left.externalReference.isSome →
    left.externalReference = right.externalReference → left = right

/-- A reported result is new among the results of its tenant. -/
theorem referenceIsFree_spec {action other : SecurityAction}
    {reference : Option ExternalReference} {db : Database}
    (free : referenceIsFree action reference db) (member : other ∈ db.actions)
    (tenant : other.target.tenantId = action.target.tenantId) (some_ : reference.isSome)
    (same : other.externalReference = reference) : other.key = action.key := by
  have apart := List.all_eq_true.mp free other member
  by_contra different
  have distinct : other.actionId ≠ action.actionId := by
    intro equal
    exact different (by rw [SecurityAction.key, SecurityAction.key, tenant, equal])
  simp [tenant, some_, same, distinct] at apart

theorem uniqueResults_succeed {report : SuccessReport} {action : SecurityAction}
    {before : Database} (unique : UniqueResults before.actions)
    (found : before.actions.get? (report.tenantId, report.actionId) = some action)
    (free : referenceIsFree action report.externalReference before) :
    UniqueResults (before.actions.update (succeedAction report) (succeedAction_key report)) := by
  have key := Table.get?_key found
  -- A row with the reported result, beside the reported row, has the reported key as well.
  have clash : ∀ row ∈ before.actions, ∀ other ∈ before.actions,
      row.key = (report.tenantId, report.actionId) →
      row.target.tenantId = other.target.tenantId → report.externalReference.isSome →
      other.externalReference = report.externalReference →
      other.key = (report.tenantId, report.actionId) := by
    intro row member other otherMember rowKey tenant some_ same
    have this : row = action := Table.unique _ member (Table.get?_mem found) (rowKey.trans key.symm)
    rw [this] at tenant
    exact (referenceIsFree_spec free otherMember tenant.symm some_ same).trans key
  intro left leftMember right rightMember leftDone rightDone tenant some_ same
  rcases (Table.mem_update _ _ (succeedAction_key report) _).mp leftMember with ⟨l, hl, rfl⟩
  rcases (Table.mem_update _ _ (succeedAction_key report) _).mp rightMember with ⟨r, hr, rfl⟩
  by_cases leftKey : l.key = (report.tenantId, report.actionId)
  · by_cases rightKey : r.key = (report.tenantId, report.actionId)
    · rw [Table.unique _ hl hr (leftKey.trans rightKey.symm)]
    · simp only [succeedAction, leftKey, rightKey, if_true, if_false] at tenant some_ same
      exact absurd (clash l hl r hr leftKey tenant some_ same.symm) rightKey
  · by_cases rightKey : r.key = (report.tenantId, report.actionId)
    · simp only [succeedAction, leftKey, rightKey, if_true, if_false] at tenant some_ same
      rw [same] at some_
      exact absurd (clash r hr l hl rightKey tenant.symm some_ same) leftKey
    · simp only [succeedAction, leftKey, rightKey, if_false] at *
      exact unique l hl r hr leftDone rightDone tenant some_ same

theorem applyQueue_uniqueResults {op : QueueOp} {before after : Database} {reply : QueueReply}
    (unique : UniqueResults before.actions)
    (succeeds : applyQueue op before = .ok (after, reply)) : UniqueResults after.actions := by
  by_cases reported : ∃ report, op = .succeed report
  · rcases reported with ⟨report, rfl⟩
    simp only [applyQueue, Checked.bind_eq_ok, Checked.pure_eq_ok, Prod.mk.injEq] at succeeds
    rcases succeeds with ⟨⟨middle, row⟩, called, rfl, _⟩
    rcases markSecurityActionSucceeded_reference called with ⟨action, found, free⟩
    rcases markSecurityActionSucceeded_cases called with ⟨_, _, _, _, rfl⟩
    exact uniqueResults_succeed unique found free
  · have outcome := applyQueue_outcome (fun report same => reported ⟨report, same⟩) succeeds
    intro left leftMember right rightMember leftDone rightDone
    exact unique left (outcome.keeps_successes leftMember leftDone) right
      (outcome.keeps_successes rightMember rightDone) leftDone rightDone

theorem uniqueResults_run {start : Database} (fresh : start.Fresh) (ops : List QueueOp) :
    UniqueResults (runQueue start ops).actions := by
  have step : ∀ state op next reply, UniqueResults state.actions →
      applyQueue op state = .ok (next, reply) → UniqueResults next.actions :=
    fun _ _ _ _ unique succeeds => applyQueue_uniqueResults unique succeeds
  refine Transaction.run_preserves step start ops ?_
  intro left member
  rw [fresh.actions] at member
  exact absurd member (Table.not_mem_empty left)

end TenantTrust.Orchestration
