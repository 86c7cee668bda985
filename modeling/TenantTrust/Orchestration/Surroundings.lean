import TenantTrust.Identity.LifecycleEvents
import TenantTrust.Orchestration.Successes

/-! What the queue procedures leave alone: the event log and the recorded trust transitions
only grow, whichever procedures run. -/

namespace TenantTrust.Orchestration

open Library Identity Audit

structure Database.SameSurroundings (before after : Database) : Prop where
  inventory : after.inventory = before.inventory
  transitions : after.transitions = before.transitions

theorem Database.SameSurroundings.refl (db : Database) : db.SameSurroundings db := ⟨rfl, rfl⟩

theorem Database.SameSurroundings.trans {first second third : Database}
    (earlier : first.SameSurroundings second) (later : second.SameSurroundings third) :
    first.SameSurroundings third :=
  ⟨later.inventory.trans earlier.inventory, later.transitions.trans earlier.transitions⟩

structure Database.Grows (before after : Database) : Prop where
  events : before.inventory.Appends after.inventory
  transitions : ∀ key row, before.transitions.get? key = some row →
    after.transitions.get? key = some row

theorem Database.Grows.refl (db : Database) : db.Grows db := ⟨.refl _, fun _ _ found => found⟩

theorem Database.Grows.trans {first second third : Database} (earlier : first.Grows second)
    (later : second.Grows third) : first.Grows third where
  events := earlier.events.trans later.events
  transitions key row found := later.transitions key row (earlier.transitions key row found)

theorem Database.SameSurroundings.grows {before after : Database}
    (same : before.SameSurroundings after) : before.Grows after where
  events := .of_events (congrArg Inventory.events same.inventory)
  transitions := by
    rw [same.transitions]
    exact fun _ _ found => found

theorem enqueueSecurityActionInternal_surroundings {clock : Timestamp} {p : EnqueueRequest}
    {before after : Database} {action : SecurityAction}
    (succeeds : enqueueSecurityActionInternal clock p before = .ok (after, action)) :
    before.SameSurroundings after := by
  simp only [enqueueSecurityActionInternal, Checked.bind_eq_ok, Checked.require_eq_ok,
    Checked.requireSome_eq_ok, exists_const] at succeeds
  rcases succeeds with ⟨_, state, _, succeeds⟩
  split at succeeds
  · simp only [Checked.bind_eq_ok, Checked.require_eq_ok, Checked.pure_eq_ok, exists_const,
      Prod.mk.injEq] at succeeds
    rcases succeeds with ⟨_, rfl, _⟩
    exact ⟨rfl, rfl⟩
  · simp only [insertAction] at succeeds
    split at succeeds
    · simp only [Checked.bind_eq_ok, Checked.requireSome_eq_ok, Checked.pure_eq_ok,
        Prod.mk.injEq] at succeeds
      rcases succeeds with ⟨actions, _, rfl, _⟩
      exact ⟨rfl, rfl⟩
    · simp at succeeds

theorem suppress_surroundings {call : ClaimCall} {suppressed : SecurityAction → Bool}
    {code : String} {before after : Database}
    (succeeds : suppress call suppressed code before = .ok after) :
    before.SameSurroundings after := by
  rcases suppress_states succeeds with ⟨attempts, _, rfl⟩
  exact ⟨rfl, rfl⟩

theorem claimSecurityAction_surroundings {call : ClaimCall} {before after : Database}
    {claimed : Option ClaimedAction}
    (succeeds : claimSecurityAction call before = .ok (after, claimed)) :
    before.SameSurroundings after := by
  simp only [claimSecurityAction, Checked.bind_eq_ok, Checked.require_eq_ok,
    exists_const] at succeeds
  rcases succeeds with ⟨_, refreshed, stale, remaining, redundant, succeeds⟩
  have swept : (expireLeases call.claimedAt before).SameSurroundings remaining :=
    (suppress_surroundings stale).trans (suppress_surroundings redundant)
  suffices ended : remaining.SameSurroundings after from
    ⟨(swept.trans ended).inventory, (swept.trans ended).transitions⟩
  unfold claimCandidate at succeeds
  split at succeeds
  · simp only [Except.ok.injEq, Prod.mk.injEq] at succeeds
    rw [← succeeds.1]
    exact ⟨rfl, rfl⟩
  · simp only [Checked.bind_eq_ok, Checked.requireSome_eq_ok] at succeeds
    rcases succeeds with ⟨state, _, succeeds⟩
    split at succeeds
    · simp only [Checked.bind_eq_ok, Checked.pure_eq_ok, Prod.mk.injEq] at succeeds
      rcases succeeds with ⟨final, suppressed, rfl, _⟩
      exact suppress_surroundings suppressed
    · rcases startExecution_cases succeeds with ⟨_, attempts, _, rfl, _⟩
      exact ⟨rfl, rfl⟩

theorem applyQueue_grows {op : QueueOp} {before after : Database} {reply : QueueReply}
    (succeeds : applyQueue op before = .ok (after, reply)) :
    before.Grows after := by
  cases op with
  | requestQuarantine session p =>
      simp only [applyQueue, Checked.bind_eq_ok, Checked.pure_eq_ok, Prod.mk.injEq] at succeeds
      rcases succeeds with ⟨⟨middle, row⟩, called, rfl, _⟩
      rcases (requestQuarantineAction_cases called).2 with rfl | ⟨requests, action, enqueued⟩
      · exact .refl _
      · have grown := (enqueueSecurityActionInternal_surroundings enqueued).grows
        exact ⟨grown.events, grown.transitions⟩
  | enqueueSeverity clock p =>
      simp only [applyQueue, Checked.bind_eq_ok, Checked.pure_eq_ok, Prod.mk.injEq] at succeeds
      rcases succeeds with ⟨⟨middle, row⟩, called, rfl, _⟩
      rcases enqueueSeveritySecurityAction_cases called with ⟨correlationId, enqueued⟩
      exact (enqueueSecurityActionInternal_surroundings enqueued).grows
  | authorizeRecovery session p =>
      simp only [applyQueue, Checked.bind_eq_ok, Checked.pure_eq_ok, Prod.mk.injEq] at succeeds
      rcases succeeds with ⟨⟨middle, row⟩, called, rfl, _⟩
      rcases authorizeSecurityRecovery_cases called with rfl | fresh
      · exact Database.SameSurroundings.grows ⟨rfl, rfl⟩
      · rcases authorizeNewRecovery_cases fresh with
          ⟨_, _, proofs, action, opened, authorizations, _, enqueued, _, _, _, rfl⟩
        have grown := (enqueueSecurityActionInternal_surroundings enqueued).grows
        exact ⟨grown.events, grown.transitions⟩
  | claim call =>
      simp only [applyQueue, Checked.bind_eq_ok, Checked.pure_eq_ok, Prod.mk.injEq] at succeeds
      rcases succeeds with ⟨⟨middle, row⟩, called, rfl, _⟩
      exact (claimSecurityAction_surroundings called).grows
  | succeed report =>
      simp only [applyQueue, Checked.bind_eq_ok, Checked.pure_eq_ok, Prod.mk.injEq] at succeeds
      rcases succeeds with ⟨⟨middle, row⟩, called, rfl, _⟩
      rcases markSecurityActionSucceeded_cases called with ⟨action, state, _, shape, rfl⟩
      exact Database.SameSurroundings.grows ⟨rfl, rfl⟩
  | fail report =>
      simp only [applyQueue, Checked.bind_eq_ok, Checked.pure_eq_ok, Prod.mk.injEq] at succeeds
      rcases succeeds with ⟨⟨middle, row⟩, called, rfl, _⟩
      rcases markSecurityActionFailed_cases called with ⟨action, _, _, rfl⟩
      exact Database.SameSurroundings.grows ⟨rfl, rfl⟩
  | recoverLeases clock recoveredBy recoveredAt =>
      simp only [applyQueue, recoverExpiredLeases, Checked.bind_eq_ok, Checked.require_eq_ok,
        Checked.pure_eq_ok, exists_const, Prod.mk.injEq] at succeeds
      rcases succeeds with ⟨⟨middle, count⟩, ⟨_, rfl, _⟩, rfl, _⟩
      exact Database.SameSurroundings.grows ⟨rfl, rfl⟩
  | certificates op =>
      simp only [applyQueue, Checked.bind_eq_ok, Checked.pure_eq_ok, Prod.mk.injEq] at succeeds
      rcases succeeds with ⟨⟨inventory, row⟩, called, rfl, _⟩
      exact ⟨applyInventory_appends called, fun _ _ found => found⟩
  | recordTransition row =>
      simp only [applyQueue, recordTransition, Checked.bind_eq_ok, Checked.requireSome_eq_ok,
        Checked.pure_eq_ok, Prod.mk.injEq] at succeeds
      rcases succeeds with ⟨middle, ⟨transitions, inserted, rfl⟩, rfl, _⟩
      exact ⟨.refl _, fun _ _ found => Table.get?_of_insertNew inserted found⟩
  | recordProvenance row =>
      simp only [applyQueue, Checked.bind_eq_ok, Checked.requireSome_eq_ok, Checked.pure_eq_ok,
        Prod.mk.injEq] at succeeds
      rcases succeeds with ⟨provenance, _, rfl, _⟩
      exact Database.SameSurroundings.grows ⟨rfl, rfl⟩
  | recordStepUpProof row =>
      simp only [applyQueue, Checked.bind_eq_ok, Checked.requireSome_eq_ok, Checked.pure_eq_ok,
        Prod.mk.injEq] at succeeds
      rcases succeeds with ⟨proofs, _, rfl, _⟩
      exact Database.SameSurroundings.grows ⟨rfl, rfl⟩
  | consumeStepUp session p =>
      simp only [applyQueue, Checked.bind_eq_ok, Checked.pure_eq_ok, Prod.mk.injEq] at succeeds
      rcases succeeds with ⟨⟨proofs, consumed⟩, _, rfl, _⟩
      exact Database.SameSurroundings.grows ⟨rfl, rfl⟩

theorem runQueue_grows (db : Database) (ops : List QueueOp) : db.Grows (runQueue db ops) := by
  have step : ∀ state op next reply, db.Grows state →
      applyQueue op state = .ok (next, reply) → db.Grows next :=
    fun _ _ _ _ earlier succeeds => earlier.trans (applyQueue_grows succeeds)
  exact Transaction.run_preserves step db ops (.refl db)

end TenantTrust.Orchestration
