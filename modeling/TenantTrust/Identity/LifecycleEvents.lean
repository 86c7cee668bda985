import TenantTrust.Identity.Lifecycle

/-! The event log only grows, and each of its entries says what its type says. -/

namespace TenantTrust.Identity

open Library

/-- The state that an event of each type leaves its certificate in. -/
def LifecycleEventType.state : LifecycleEventType → CertificateState
  | .issued | .renewed => .active
  | .superseded => .superseded
  | .revoked => .revoked
  | .expired => .expired

/-- Only an issuance has no cause. -/
structure LifecycleEvent.Shaped (event : LifecycleEvent) : Prop where
  state : event.certificateState = event.eventType.state
  cause : event.causationEventId = none ↔ event.eventType = .issued

structure Inventory.Appends (before after : Inventory) : Prop where
  kept : ∀ eventId event, before.events.get? eventId = some event →
    after.events.get? eventId = some event
  origin : ∀ event ∈ after.events, event ∈ before.events ∨ event.Shaped

theorem Inventory.Appends.of_events {before after : Inventory}
    (same : after.events = before.events) : before.Appends after where
  kept := by
    rw [same]
    exact fun _ _ found => found
  origin := by
    rw [same]
    exact fun _ member => Or.inl member

theorem Inventory.Appends.refl (inventory : Inventory) : inventory.Appends inventory :=
  .of_events rfl

theorem Inventory.Appends.trans {first second third : Inventory}
    (earlier : first.Appends second) (later : second.Appends third) : first.Appends third where
  kept eventId event found := later.kept eventId event (earlier.kept eventId event found)
  origin event member := by
    rcases later.origin event member with old | shaped
    · exact earlier.origin event old
    · exact Or.inr shaped

theorem insertLifecycleEvent_appends {row : LifecycleEvent} {before after : Inventory}
    (succeeds : insertLifecycleEvent row before = .ok after) (shaped : row.Shaped) :
    before.Appends after := by
  simp only [insertLifecycleEvent, Checked.bind_eq_ok, Checked.require_eq_ok,
    Checked.requireSome_eq_ok, Checked.pure_eq_ok, exists_const] at succeeds
  rcases succeeds with ⟨_, _, events, inserted, rfl⟩
  constructor
  · intro eventId event found
    exact Table.get?_of_insertNew inserted found
  · intro event member
    rcases (Table.mem_insertNew inserted event).mp member with old | rfl
    · exact Or.inl old
    · exact Or.inr shaped

theorem insertCertificate_events {row : Certificate} {before after : Inventory}
    (succeeds : insertCertificate row before = .ok after) : after.events = before.events := by
  simp only [insertCertificate, Checked.bind_eq_ok, Checked.require_eq_ok,
    Checked.requireSome_eq_ok, Checked.pure_eq_ok, exists_const] at succeeds
  rcases succeeds with ⟨_, _, certificates, _, rfl⟩
  rfl

theorem updateState_events {target : Certificate} {state : CertificateState}
    {changedAt clock : Timestamp} {eventId : EventId} {before after : Inventory}
    (succeeds : updateState target state changedAt eventId clock before = .ok after) :
    after.events = before.events := by
  simp only [updateState, Checked.bind_eq_ok, Checked.require_eq_ok, Checked.pure_eq_ok,
    exists_const] at succeeds
  rcases succeeds with ⟨_, _, rfl⟩
  rfl

theorem recordCertificateIssuance_appends {session : Session} {p : CertificateRequest}
    {before after : Inventory} {reply : RecordedCertificate}
    (succeeds : recordCertificateIssuance session p before = .ok (after, reply)) :
    before.Appends after := by
  simp only [recordCertificateIssuance, Checked.bind_eq_ok, Checked.require_eq_ok,
    exists_const] at succeeds
  rcases succeeds with ⟨_, succeeds⟩
  split at succeeds
  · simp only [Checked.bind_eq_ok, Checked.require_eq_ok, Checked.pure_eq_ok, exists_const,
      Prod.mk.injEq] at succeeds
    rcases succeeds with ⟨_, rfl, _⟩
    exact .refl before
  · simp only [Checked.bind_eq_ok, Checked.pure_eq_ok, Prod.mk.injEq] at succeeds
    rcases succeeds with ⟨inserted, hinsert, logged, hlog, rfl, _⟩
    have issued : (p.event session .issued none).Shaped := ⟨rfl, by simp [CertificateRequest.event]⟩
    exact (Inventory.Appends.of_events (insertCertificate_events hinsert)).trans
      (insertLifecycleEvent_appends hlog issued)

theorem recordCertificateRenewal_appends {session : Session} {p : CertificateRequest}
    {supersedes : CertificateId} {supersededEventId : EventId} {before after : Inventory}
    {reply : RecordedCertificate}
    (succeeds : recordCertificateRenewal session p supersedes supersededEventId before =
      .ok (after, reply)) : before.Appends after := by
  simp only [recordCertificateRenewal, Checked.bind_eq_ok, Checked.require_eq_ok,
    exists_const] at succeeds
  rcases succeeds with ⟨_, _, succeeds⟩
  split at succeeds
  · simp only [Checked.bind_eq_ok, Checked.require_eq_ok, Checked.pure_eq_ok, exists_const,
      Prod.mk.injEq] at succeeds
    rcases succeeds with ⟨_, rfl, _⟩
    exact .refl _
  · simp only [Checked.bind_eq_ok, Checked.require_eq_ok, Checked.requireSome_eq_ok,
      Checked.pure_eq_ok, exists_const, Prod.mk.injEq] at succeeds
    rcases succeeds with ⟨predecessor, _, _, inserted, hinsert, logged, hlog,
      changed, hchange, final, hfinal, rfl, _⟩
    have renewed : (p.event session .renewed (some predecessor.lastEventId)).Shaped :=
      ⟨rfl, by simp [CertificateRequest.event]⟩
    have superseded : (supersededEvent session p supersededEventId predecessor).Shaped :=
      ⟨rfl, by simp [supersededEvent]⟩
    have first : before.Appends logged :=
      (Inventory.Appends.of_events (insertCertificate_events hinsert)).trans
        (insertLifecycleEvent_appends hlog renewed)
    have second : logged.Appends final :=
      (Inventory.Appends.of_events (updateState_events hchange)).trans
        (insertLifecycleEvent_appends hfinal superseded)
    exact first.trans second

theorem recordCertificateRevocation_appends {session : Session} {p : RevocationRequest}
    {before after : Inventory} {reply : RecordedCertificate}
    (succeeds : recordCertificateRevocation session p before = .ok (after, reply)) :
    before.Appends after := by
  simp only [recordCertificateRevocation, Checked.bind_eq_ok, Checked.require_eq_ok,
    exists_const] at succeeds
  rcases succeeds with ⟨_, succeeds⟩
  split at succeeds
  · simp only [Checked.bind_eq_ok, Checked.require_eq_ok, Checked.requireSome_eq_ok,
      Checked.pure_eq_ok, exists_const, Prod.mk.injEq] at succeeds
    rcases succeeds with ⟨_, _, _, _, rfl, _⟩
    exact .refl _
  · simp only [Checked.bind_eq_ok, Checked.require_eq_ok, Checked.requireSome_eq_ok,
      Checked.pure_eq_ok, exists_const, Prod.mk.injEq] at succeeds
    rcases succeeds with ⟨target, _, _, changed, hchange, final, hfinal, rfl, _⟩
    have revoked : (p.event session target).Shaped := ⟨rfl, by simp [RevocationRequest.event]⟩
    exact (Inventory.Appends.of_events (updateState_events hchange)).trans
      (insertLifecycleEvent_appends hfinal revoked)

theorem recordDueCertificateExpiration_appends {clock : Timestamp} {p : ExpirationRequest}
    {before after : Inventory} {reply : RecordedCertificate}
    (succeeds : recordDueCertificateExpiration clock p before = .ok (after, reply)) :
    before.Appends after := by
  simp only [recordDueCertificateExpiration, Checked.bind_eq_ok,
    Checked.requireSome_eq_ok] at succeeds
  rcases succeeds with ⟨target, _, succeeds⟩
  split at succeeds
  · simp only [Checked.bind_eq_ok, Checked.require_eq_ok, Checked.requireSome_eq_ok,
      Checked.pure_eq_ok, exists_const, Prod.mk.injEq] at succeeds
    rcases succeeds with ⟨_, _, _, rfl, _⟩
    exact .refl _
  · simp only [Checked.bind_eq_ok, Checked.require_eq_ok, Checked.pure_eq_ok, exists_const,
      Prod.mk.injEq] at succeeds
    rcases succeeds with ⟨_, changed, hchange, final, hfinal, rfl, _⟩
    have expired : (p.event clock target).Shaped := ⟨rfl, by simp [ExpirationRequest.event]⟩
    exact (Inventory.Appends.of_events (updateState_events hchange)).trans
      (insertLifecycleEvent_appends hfinal expired)

theorem applyInventory_appends {op : InventoryOp} {before after : Inventory}
    {reply : RecordedCertificate} (succeeds : applyInventory op before = .ok (after, reply)) :
    before.Appends after := by
  cases op with
  | issue session p => exact recordCertificateIssuance_appends succeeds
  | renew session p supersedes supersededEventId =>
      exact recordCertificateRenewal_appends succeeds
  | revoke session p => exact recordCertificateRevocation_appends succeeds
  | expire clock p => exact recordDueCertificateExpiration_appends succeeds

end TenantTrust.Identity
