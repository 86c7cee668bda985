import TenantTrust.Identity.LifecycleEvents

/-! What one recorded call of the inventory does to both of its tables, row by row. -/

namespace TenantTrust.Identity

open Library

/-- The key of the certificate that an event is about. -/
def LifecycleEvent.owner (event : LifecycleEvent) : TenantId × CertificateId :=
  (event.tenantId, event.certificateId)

/-- A fresh row and the event that it was recorded with. -/
structure Certificate.OpenedBy (row : Certificate) (event : LifecycleEvent) : Prop where
  active : row.state = .active
  version : row.version = 1
  issuedEvent : row.issuedEventId = event.eventId
  lastEvent : row.lastEventId = event.eventId
  owner : event.owner = row.key
  occurredAt : event.occurredAt = row.issuedAt
  idempotencyKey : event.idempotencyKey = row.idempotencyKey
  checks : certificateChecks row = true

/-- An event that ends an active certificate. -/
structure Certificate.EndedBy (target : Certificate) (event : LifecycleEvent) : Prop where
  active : target.state = .active
  owner : event.owner = target.key
  occurredAt : target.issuedAt ≤ event.occurredAt

/-- The transition of one row that a terminal event records. -/
def LifecycleEvent.endsRow (event : LifecycleEvent) (target : Certificate) (clock : Timestamp) :
    Certificate → Certificate :=
  changeState target event.eventType.state event.occurredAt event.eventId clock

theorem LifecycleEvent.endsRow_key (event : LifecycleEvent) (target : Certificate)
    (clock : Timestamp) (row : Certificate) : (event.endsRow target clock row).key = row.key :=
  changeState_key _ _ _ _ _ row

theorem LifecycleEvent.endsRow_self (event : LifecycleEvent) (target : Certificate)
    (clock : Timestamp) :
    (event.endsRow target clock target).state = event.eventType.state ∧
      (event.endsRow target clock target).lastEventId = event.eventId ∧
      (event.endsRow target clock target).version = target.version + 1 := by
  simp [LifecycleEvent.endsRow, changeState]

theorem LifecycleEvent.endsRow_other (event : LifecycleEvent) (target : Certificate)
    (clock : Timestamp) {row : Certificate} (different : row.key ≠ target.key) :
    event.endsRow target clock row = row := by
  simp [LifecycleEvent.endsRow, changeState, different]

theorem LifecycleEvent.endsRow_identity (event : LifecycleEvent) (target : Certificate)
    (clock : Timestamp) (row : Certificate) :
    (event.endsRow target clock row).toCertificateIdentity = row.toCertificateIdentity :=
  changeState_identity _ _ _ _ _ row

inductive Inventory.Step (before : Inventory) : Inventory → Prop
  | issued {row : Certificate} {event : LifecycleEvent}
      {certificates : Table Certificate Certificate.key}
      {events : Table LifecycleEvent LifecycleEvent.key}
      (first : row.supersedesCertificateId = none) (opened : row.OpenedBy event)
      (type : event.eventType = .issued) (cause : event.causationEventId = none)
      (inserted : before.certificates.insertNew row = some certificates)
      (logged : before.events.insertNew event = some events) :
      Inventory.Step before ⟨certificates, events⟩
  | ended {target : Certificate} {event : LifecycleEvent} {clock : Timestamp}
      {events : Table LifecycleEvent LifecycleEvent.key}
      (present : target ∈ before.certificates) (ended : target.EndedBy event)
      (type : event.eventType = .revoked ∨ event.eventType = .expired)
      (cause : event.causationEventId = some target.lastEventId)
      (checks : certificateChecks (event.endsRow target clock target) = true)
      (logged : before.events.insertNew event = some events) :
      Inventory.Step before
        ⟨before.certificates.update (event.endsRow target clock) (event.endsRow_key target clock),
          events⟩
  | renewed {predecessor row : Certificate} {event closing : LifecycleEvent} {clock : Timestamp}
      {certificates : Table Certificate Certificate.key}
      {logged events : Table LifecycleEvent LifecycleEvent.key}
      (present : predecessor ∈ before.certificates)
      (names : row.supersedesCertificateId = some predecessor.certificateId)
      (tenant : row.tenantId = predecessor.tenantId)
      (freshKey : row.publicKeySha256 ≠ predecessor.publicKeySha256)
      (opened : row.OpenedBy event) (type : event.eventType = .renewed)
      (cause : event.causationEventId = some predecessor.lastEventId)
      (ended : predecessor.EndedBy closing) (closes : closing.eventType = .superseded)
      (after : closing.causationEventId = some event.eventId)
      (shared : closing.idempotencyKey = row.idempotencyKey)
      (checks : certificateChecks (closing.endsRow predecessor clock predecessor) = true)
      (inserted : before.certificates.insertNew row = some certificates)
      (first : before.events.insertNew event = some logged)
      (second : logged.insertNew closing = some events) :
      Inventory.Step before
        ⟨certificates.update (closing.endsRow predecessor clock)
          (closing.endsRow_key predecessor clock), events⟩

theorem insertCertificate_rows {row : Certificate} {before after : Inventory}
    (succeeds : insertCertificate row before = .ok after) :
    certificateChecks row = true ∧
      ∃ certificates, before.certificates.insertNew row = some certificates ∧
        after = { before with certificates := certificates } := by
  simp only [insertCertificate, Checked.bind_eq_ok, Checked.require_eq_ok,
    Checked.requireSome_eq_ok, Checked.pure_eq_ok, exists_const] at succeeds
  rcases succeeds with ⟨checks, _, certificates, inserted, rfl⟩
  exact ⟨checks, certificates, inserted, rfl⟩

theorem insertLifecycleEvent_rows {row : LifecycleEvent} {before after : Inventory}
    (succeeds : insertLifecycleEvent row before = .ok after) :
    ∃ events, before.events.insertNew row = some events ∧
      after = { before with events := events } := by
  simp only [insertLifecycleEvent, Checked.bind_eq_ok, Checked.require_eq_ok,
    Checked.requireSome_eq_ok, Checked.pure_eq_ok, exists_const] at succeeds
  rcases succeeds with ⟨_, _, events, inserted, rfl⟩
  exact ⟨events, inserted, rfl⟩

/-- A transition passes the row checks, so it is not dated before the issuance. -/
theorem updateState_rows {target : Certificate} {state : CertificateState}
    {changedAt clock : Timestamp} {eventId : EventId} {before after : Inventory}
    (succeeds : updateState target state changedAt eventId clock before = .ok after) :
    target.issuedAt ≤ changedAt ∧
      certificateChecks (changeState target state changedAt eventId clock target) = true ∧
      after = { before with
        certificates := before.certificates.update
          (changeState target state changedAt eventId clock)
          (changeState_key target state changedAt eventId clock) } := by
  simp only [updateState, Checked.bind_eq_ok, Checked.require_eq_ok, Checked.pure_eq_ok,
    exists_const] at succeeds
  rcases succeeds with ⟨checks, _, rfl⟩
  have dated := checks
  simp only [certificateChecks, changeState, if_true, Bool.and_eq_true, decide_eq_true_eq] at dated
  exact ⟨dated.1.1.1.2.1, checks, rfl⟩

theorem renewable_key {p : CertificateRequest} {predecessor : Certificate}
    (eligible : renewable p predecessor = true) :
    p.publicKeySha256 ≠ predecessor.publicKeySha256 := by
  simp only [renewable, Bool.and_eq_true, decide_eq_true_eq] at eligible
  exact Ne.symm eligible.1.1.1.2

theorem recordCertificateIssuance_step {session : Session} {p : CertificateRequest}
    {before after : Inventory} {reply : RecordedCertificate}
    (succeeds : recordCertificateIssuance session p before = .ok (after, reply)) :
    after = before ∨ before.Step after := by
  simp only [recordCertificateIssuance, Checked.bind_eq_ok, Checked.require_eq_ok,
    exists_const] at succeeds
  rcases succeeds with ⟨_, succeeds⟩
  split at succeeds
  · simp only [Checked.bind_eq_ok, Checked.require_eq_ok, Checked.pure_eq_ok, exists_const,
      Prod.mk.injEq] at succeeds
    exact Or.inl succeeds.2.1.symm
  · simp only [Checked.bind_eq_ok, Checked.pure_eq_ok, Prod.mk.injEq] at succeeds
    rcases succeeds with ⟨inserted, hinsert, logged, hlog, rfl, _⟩
    rcases insertCertificate_rows hinsert with ⟨checked, certificates, row, rfl⟩
    rcases insertLifecycleEvent_rows hlog with ⟨events, event, rfl⟩
    have opened : (p.row session none).OpenedBy (p.event session .issued none) :=
      ⟨rfl, rfl, rfl, rfl, rfl, rfl, rfl, checked⟩
    exact Or.inr (.issued rfl opened rfl rfl row event)

theorem recordCertificateRenewal_step {session : Session} {p : CertificateRequest}
    {supersedes : CertificateId} {supersededEventId : EventId} {before after : Inventory}
    {reply : RecordedCertificate}
    (succeeds : recordCertificateRenewal session p supersedes supersededEventId before =
      .ok (after, reply)) : after = before ∨ before.Step after := by
  simp only [recordCertificateRenewal, Checked.bind_eq_ok, Checked.require_eq_ok,
    exists_const] at succeeds
  rcases succeeds with ⟨_, _, succeeds⟩
  split at succeeds
  · simp only [Checked.bind_eq_ok, Checked.require_eq_ok, Checked.pure_eq_ok, exists_const,
      Prod.mk.injEq] at succeeds
    exact Or.inl succeeds.2.1.symm
  · simp only [Checked.bind_eq_ok, Checked.require_eq_ok, Checked.requireSome_eq_ok,
      Checked.pure_eq_ok, exists_const, Prod.mk.injEq] at succeeds
    rcases succeeds with ⟨predecessor, found, eligible, inserted, hinsert, logged, hlog,
      changed, hchange, final, hfinal, rfl, _⟩
    rcases certificate?_mem found with ⟨present, named⟩
    rcases insertCertificate_rows hinsert with ⟨checked, certificates, row, rfl⟩
    rcases insertLifecycleEvent_rows hlog with ⟨events, event, rfl⟩
    rcases updateState_rows hchange with ⟨dated, checks, rfl⟩
    rcases insertLifecycleEvent_rows hfinal with ⟨closed, closing, rfl⟩
    have tenant : predecessor.tenantId = session.tenantId := congrArg Prod.fst named
    have names : predecessor.certificateId = supersedes := congrArg Prod.snd named
    have opened : (p.row session (some supersedes)).OpenedBy
        (p.event session .renewed (some predecessor.lastEventId)) :=
      ⟨rfl, rfl, rfl, rfl, rfl, rfl, rfl, checked⟩
    have owner : (supersededEvent session p supersededEventId predecessor).owner =
        predecessor.key := by
      simp [LifecycleEvent.owner, supersededEvent, Certificate.key, tenant]
    have ended : predecessor.EndedBy (supersededEvent session p supersededEventId predecessor) :=
      ⟨(renewable_active eligible).1, owner, dated⟩
    exact Or.inr (.renewed present (congrArg some names.symm) tenant.symm (renewable_key eligible)
      opened rfl rfl ended rfl rfl rfl checks row event closing)

theorem recordCertificateRevocation_step {session : Session} {p : RevocationRequest}
    {before after : Inventory} {reply : RecordedCertificate}
    (succeeds : recordCertificateRevocation session p before = .ok (after, reply)) :
    after = before ∨ before.Step after := by
  simp only [recordCertificateRevocation, Checked.bind_eq_ok, Checked.require_eq_ok,
    exists_const] at succeeds
  rcases succeeds with ⟨_, succeeds⟩
  split at succeeds
  · simp only [Checked.bind_eq_ok, Checked.require_eq_ok, Checked.requireSome_eq_ok,
      Checked.pure_eq_ok, exists_const, Prod.mk.injEq] at succeeds
    rcases succeeds with ⟨_, _, _, _, rfl, _⟩
    exact Or.inl rfl
  · simp only [Checked.bind_eq_ok, Checked.require_eq_ok, Checked.requireSome_eq_ok,
      Checked.pure_eq_ok, exists_const, Prod.mk.injEq] at succeeds
    rcases succeeds with ⟨target, found, legal, changed, hchange, final, hfinal, rfl, _⟩
    rcases certificate?_mem found with ⟨present, named⟩
    rcases updateState_rows hchange with ⟨dated, checks, rfl⟩
    rcases insertLifecycleEvent_rows hfinal with ⟨events, event, rfl⟩
    have tenant : target.tenantId = session.tenantId := congrArg Prod.fst named
    have owner : (p.event session target).owner = target.key := by
      simp [LifecycleEvent.owner, RevocationRequest.event, Certificate.key, tenant]
    exact Or.inr (.ended present ⟨legal.1, owner, dated⟩ (Or.inl rfl) rfl checks event)

theorem recordDueCertificateExpiration_step {clock : Timestamp} {p : ExpirationRequest}
    {before after : Inventory} {reply : RecordedCertificate}
    (succeeds : recordDueCertificateExpiration clock p before = .ok (after, reply)) :
    after = before ∨ before.Step after := by
  simp only [recordDueCertificateExpiration, Checked.bind_eq_ok,
    Checked.requireSome_eq_ok] at succeeds
  rcases succeeds with ⟨target, found, succeeds⟩
  split at succeeds
  · simp only [Checked.bind_eq_ok, Checked.require_eq_ok, Checked.requireSome_eq_ok,
      Checked.pure_eq_ok, exists_const, Prod.mk.injEq] at succeeds
    rcases succeeds with ⟨_, _, _, rfl, _⟩
    exact Or.inl rfl
  · simp only [Checked.bind_eq_ok, Checked.require_eq_ok, Checked.pure_eq_ok, exists_const,
      Prod.mk.injEq] at succeeds
    rcases succeeds with ⟨legal, changed, hchange, final, hfinal, rfl, _⟩
    rcases certificate?_mem found with ⟨present, named⟩
    rcases updateState_rows hchange with ⟨dated, checks, rfl⟩
    rcases insertLifecycleEvent_rows hfinal with ⟨events, event, rfl⟩
    have tenant : target.tenantId = p.tenantId := congrArg Prod.fst named
    have owner : (p.event clock target).owner = target.key := by
      simp [LifecycleEvent.owner, ExpirationRequest.event, Certificate.key, tenant]
    exact Or.inr (.ended present ⟨legal.1, owner, dated⟩ (Or.inr rfl) rfl checks event)

/-- A call that is answered changes nothing or takes one step. -/
theorem applyInventory_step {op : InventoryOp} {before after : Inventory}
    {reply : RecordedCertificate} (succeeds : applyInventory op before = .ok (after, reply)) :
    after = before ∨ before.Step after := by
  cases op with
  | issue session p => exact recordCertificateIssuance_step succeeds
  | renew session p supersedes supersededEventId =>
      exact recordCertificateRenewal_step succeeds
  | revoke session p => exact recordCertificateRevocation_step succeeds
  | expire clock p => exact recordDueCertificateExpiration_step succeeds

end TenantTrust.Identity
