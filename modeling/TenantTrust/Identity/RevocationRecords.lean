import TenantTrust.Identity.CertificateRevocation
import TenantTrust.Identity.EventOutbox
import TenantTrust.Identity.Recordability

/-! When the inventory records a confirmed revocation, and what stays recorded of it. -/

namespace TenantTrust.Identity

open Library

/-- A certificate is written once when it is issued, and once more when its active state ends. -/
def Inventory.Versioned (inventory : Inventory) : Prop :=
  ∀ certificate ∈ inventory.certificates,
    certificate.version = if certificate.state = .active then 1 else 2

theorem Inventory.empty_versioned : Inventory.empty.Versioned :=
  fun certificate member => absurd member (Table.not_mem_empty certificate)

theorem Inventory.Versioned.inserted {before : Inventory} (versioned : before.Versioned)
    {row : Certificate} {event : LifecycleEvent} (opened : row.OpenedBy event)
    {certificates : Table Certificate Certificate.key}
    (inserted : before.certificates.insertNew row = some certificates)
    (events : Table LifecycleEvent LifecycleEvent.key) :
    Inventory.Versioned ⟨certificates, events⟩ := by
  intro certificate member
  rcases (Table.mem_insertNew inserted certificate).mp member with old | rfl
  · exact versioned certificate old
  · rw [opened.active, if_pos rfl, opened.version]

theorem Inventory.Versioned.ended {before : Inventory} (versioned : before.Versioned)
    {target : Certificate} {event : LifecycleEvent} (present : target ∈ before.certificates)
    (active : target.state = .active) (final : event.eventType.state ≠ .active)
    (clock : Timestamp) (events : Table LifecycleEvent LifecycleEvent.key) :
    Inventory.Versioned ⟨before.certificates.update (event.endsRow target clock)
      (event.endsRow_key target clock), events⟩ := by
  intro certificate member
  rcases (Table.mem_update before.certificates _ (event.endsRow_key target clock) certificate).mp
    member with ⟨old, kept, rfl⟩
  by_cases same : old.key = target.key
  · have first := versioned target present
    rw [active, if_pos rfl] at first
    have self := event.endsRow_self target clock
    rw [before.certificates.unique kept present same, self.1, self.2.2, if_neg final, first]
  · rw [event.endsRow_other target clock same]
    exact versioned old kept

theorem Inventory.Versioned.step {before after : Inventory} (versioned : before.Versioned)
    (step : before.Step after) : after.Versioned := by
  cases step with
  | issued _ opened _ _ inserted _ => exact versioned.inserted opened inserted _
  | @ended target event clock events present ended type cause checks logged =>
      have final : event.eventType.state ≠ .active := by
        rcases type with revoked | expired
        · simp [revoked, LifecycleEventType.state]
        · simp [expired, LifecycleEventType.state]
      exact versioned.ended present ended.active final clock events
  | @renewed predecessor row event closing clock certificates logged events present names tenant
      freshKey opened type cause ended closes after shared checks inserted first second =>
      have final : closing.eventType.state ≠ .active := by
        simp [closes, LifecycleEventType.state]
      have kept : predecessor ∈ certificates :=
        (Table.mem_insertNew inserted predecessor).mpr (Or.inl present)
      exact (versioned.inserted opened inserted logged).ended kept ended.active final clock events

/-- What holds of the inventory after every run from nothing. -/
structure Inventory.Sound (inventory : Inventory) : Prop where
  stored : inventory.Stored
  versioned : inventory.Versioned

theorem Inventory.empty_sound : Inventory.empty.Sound := 
  ⟨Inventory.empty_stored, Inventory.empty_versioned⟩

theorem Inventory.Sound.apply {before after : Inventory} (sound : before.Sound) {op : InventoryOp}
    {reply : RecordedCertificate} (succeeds : applyInventory op before = .ok (after, reply)) :
    after.Sound := by
  rcases applyInventory_step succeeds with rfl | step
  · exact sound
  · exact ⟨sound.stored.step step, sound.versioned.step step⟩

theorem Inventory.Sound.run {inventory : Inventory} (sound : inventory.Sound)
    (ops : List InventoryOp) : (Transaction.run applyInventory inventory ops).Sound :=
  Transaction.run_preserves (fun _ _ _ _ sound succeeds => Inventory.Sound.apply sound succeeds)
    inventory ops sound

/-- A certificate stays in the inventory, and a terminal state stays with it. -/
def Inventory.Keeps (inventory : Inventory) (old : Certificate) : Prop :=
  ∃ new, inventory.certificate? old.tenantId old.certificateId = some new ∧ old.Continues new

theorem Inventory.keeps_iff {inventory : Inventory} {old : Certificate} :
    inventory.Keeps old ↔ ∃ new ∈ inventory.certificates, old.Continues new := by
  constructor
  · intro keeps
    rcases keeps with ⟨new, found, continues⟩
    exact ⟨new, (certificate?_mem found).1, continues⟩
  · intro keeps
    rcases keeps with ⟨new, member, continues⟩
    exact ⟨new, (Table.get?_eq_some _ _ _).mpr ⟨member, continues.key⟩, continues⟩

theorem Inventory.keeps_of_found {inventory : Inventory} {tenantId : TenantId}
    {certificateId : CertificateId} {certificate : Certificate}
    (found : inventory.certificate? tenantId certificateId = some certificate) :
    inventory.Keeps certificate :=
  keeps_iff.mpr ⟨certificate, (certificate?_mem found).1, .refl certificate⟩

theorem Inventory.Keeps.run {inventory : Inventory} {old : Certificate}
    (keeps : inventory.Keeps old) (ops : List InventoryOp) :
    (Transaction.run applyInventory inventory ops).Keeps old := by
  have preserved : ∀ before op after reply, before.Keeps old →
      applyInventory op before = .ok (after, reply) → after.Keeps old := by
    intro before op after reply keeps succeeds
    rcases keeps_iff.mp keeps with ⟨middle, member, continues⟩
    rcases (applyInventory_extends succeeds).persists middle member with ⟨new, present, later⟩
    exact keeps_iff.mpr ⟨new, present, continues.trans later⟩
  exact Transaction.run_preserves preserved inventory ops keeps

/-- The revocation of an event stays the one that is found under its key. -/
theorem revocationEvent?_run {inventory : Inventory} {tenantId : TenantId} {key : IdempotencyKey}
    {event : LifecycleEvent} (found : inventory.revocationEvent? tenantId key = some event)
    (ops : List InventoryOp) :
    (Transaction.run applyInventory inventory ops).revocationEvent? tenantId key = some event := by
  have preserved : ∀ before op after reply, before.revocationEvent? tenantId key = some event →
      applyInventory op before = .ok (after, reply) →
        after.revocationEvent? tenantId key = some event := by
    intro before op after reply found succeeds
    have rows := applyInventory_log succeeds
    unfold Inventory.revocationEvent? at found ⊢
    rw [rows, List.find?_append, found]
    rfl
  exact Transaction.run_preserves preserved inventory ops found

/-- No revocation of the tenant has the idempotency key, the request or the confirmation, and the
event is new. -/
def RevocationRequest.Unrecorded (p : RevocationRequest) (tenantId : TenantId)
    (issuerId : IssuerId) (inventory : Inventory) : Prop :=
  ∀ old ∈ inventory.events, old.eventId ≠ p.eventId ∧ (old.tenantId = tenantId →
    (old.eventType = .revoked →
      old.idempotencyKey ≠ p.idempotencyKey ∧ old.requestId ≠ p.requestId) ∧
    (old.issuerId = issuerId → old.issuerConfirmationId ≠ some p.issuerConfirmationId))

/-- Under what the procedure itself requires, the times and the unique constraints decide. -/
structure RevocationRequest.Recordable (p : RevocationRequest) (session : Session)
    (target : Certificate) (inventory : Inventory) : Prop where
  occurred : p.revokedAt ≤ session.clock
  created : target.createdAt ≤ session.clock
  unrecorded : p.Unrecorded session.tenantId target.issuerId inventory

/-- The bound of the procedure on the time, and the standing of the actor and the issuer. -/
structure RevocationRequest.Permitted (p : RevocationRequest) (session : Session)
    (target : Certificate) : Prop where
  actor : session.actorIsActive = true
  issued : target.issuedAt ≤ p.revokedAt
  unexpired : p.revokedAt < target.notAfter
  bound : p.revokedAt ≤ session.clock + seconds 2
  entitled : target.subjectId = session.subjectId ∨ session.actorIsTenantAdmin = true
  issuer : session.activeIssuer target.issuerId = true

section Recording

variable {session : Session} {p : RevocationRequest} {target : Certificate}
  {inventory : Inventory}

theorem revocation_reason (reason : RevocationReason) : isReasonCode reason.text = true := by
  cases reason <;> decide +kernel

theorem revocationEvent_checks :
    lifecycleEventChecks (p.event session target) = true ↔ p.revokedAt ≤ session.clock := by
  simp [lifecycleEventChecks, RevocationRequest.event, revocation_reason]
  exact decide_eq_true_iff

theorem revocationEvent_unconflicted :
    ((∀ old ∈ inventory.events, lifecycleEventConflict (p.event session target) old = false) ∧
      ∀ old ∈ inventory.events, old.eventId ≠ (p.event session target).eventId) ↔
      p.Unrecorded session.tenantId target.issuerId inventory := by
  rw [RevocationRequest.Unrecorded, ← forall₂_and]
  refine forall₂_congr fun old _ => ?_
  simp only [lifecycleEventConflict, RevocationRequest.event, Bool.or_eq_false_iff,
    Bool.and_eq_false_iff, decide_eq_false_iff_not, Option.isSome_some, decide_true]
  grind

theorem revoked_checks (checked : certificateChecks target = true)
    (issued : target.issuedAt ≤ p.revokedAt) (occurred : p.revokedAt ≤ session.clock) :
    certificateChecks (changeState target .revoked p.revokedAt p.eventId session.clock target) =
      true ↔ target.createdAt ≤ session.clock := by
  simp only [certificateChecks, Bool.and_eq_true, Bool.or_eq_true, decide_eq_true_eq] at checked
  have later : max session.clock p.revokedAt = session.clock := max_eq_left occurred
  simp only [certificateChecks, changeState, if_true, later, Bool.and_eq_true, Bool.or_eq_true,
    decide_eq_true_eq]
  constructor
  · intro checks
    exact checks.2.2
  · intro created
    have version : 1 < target.version + 1 := by omega
    exact ⟨⟨⟨⟨⟨checked.1.1.1.1.1, Or.inl version⟩, issued, occurred⟩, checked.1.1.2⟩, by omega⟩,
      checked.2.1, created⟩

/-- A key under which a revocation is recorded already does not revoke an active certificate. -/
theorem recordCertificateRevocation_known {existing : LifecycleEvent}
    (known : inventory.revocationEvent? session.tenantId p.idempotencyKey = some existing)
    (found : inventory.certificate? session.tenantId p.certificateId = some target)
    (active : target.state = .active) (result : Inventory × RecordedCertificate) :
    recordCertificateRevocation session p inventory ≠ .ok result := by
  intro succeeds
  unfold Inventory.revocationEvent? at known
  simp only [recordCertificateRevocation, known, Checked.bind_eq_ok, Checked.require_eq_ok,
    Checked.requireSome_eq_ok, Checked.pure_eq_ok, exists_const] at succeeds
  rcases succeeds with ⟨_, replays, other, names, revoked, _⟩
  simp only [RevocationRequest.replays, Bool.and_eq_true, decide_eq_true_eq] at replays
  rw [replays.1.1.1.1, found, Option.some.injEq] at names
  rw [← names, active] at revoked
  exact absurd revoked.1 (by decide)

/-- A revocation of an active certificate is within the bound of the procedure. -/
theorem recordCertificateRevocation_bound {result : Inventory × RecordedCertificate}
    (found : inventory.certificate? session.tenantId p.certificateId = some target)
    (active : target.state = .active)
    (succeeds : recordCertificateRevocation session p inventory = .ok result) :
    p.revokedAt ≤ session.clock + seconds 2 := by
  cases known : inventory.revocationEvent? session.tenantId p.idempotencyKey with
  | some existing =>
      exact absurd succeeds (recordCertificateRevocation_known known found active result)
  | none =>
      unfold Inventory.revocationEvent? at known
      simp only [recordCertificateRevocation, known, Checked.bind_eq_ok, Checked.require_eq_ok,
        exists_const] at succeeds
      rcases succeeds with ⟨_, _, _, facts, _⟩
      exact facts.2.2.2.1

theorem recordCertificateRevocation_accepts
    (found : inventory.certificate? session.tenantId p.certificateId = some target)
    (active : target.state = .active) (checked : certificateChecks target = true)
    (permitted : p.Permitted session target) :
    (∃ result, recordCertificateRevocation session p inventory = .ok result) ↔
      p.Recordable session target inventory := by
  cases known : inventory.revocationEvent? session.tenantId p.idempotencyKey with
  | some existing =>
      constructor
      · intro accepted
        rcases accepted with ⟨result, succeeds⟩
        exact absurd succeeds (recordCertificateRevocation_known known found active result)
      · intro recordable
        have member := List.mem_of_find?_eq_some known
        have matching := List.find?_some known
        simp only [Bool.and_eq_true, decide_eq_true_eq] at matching
        have free := ((recordable.unrecorded existing member).2 matching.1.1).1 matching.2
        exact absurd matching.1.2 free.1
  | none =>
      unfold Inventory.revocationEvent? at known
      simp only [recordCertificateRevocation, known, permitted.actor, Checked.bind_eq_ok,
        Checked.require_eq_ok, Checked.requireSome_eq_ok, Checked.pure_eq_ok, exists_const,
        found, Option.some.injEq, true_and]
      constructor
      · intro accepted
        rcases accepted with ⟨_, _, rfl, _, changed, hchange, final, hfinal, _⟩
        have event := (insertLifecycleEvent_accepts _ _).mp ⟨final, hfinal⟩
        have row := (updateState_accepts _ _ _ _ _ _).mp ⟨changed, hchange⟩
        rw [updateState_events hchange] at event
        have occurred := revocationEvent_checks.mp event.1
        exact ⟨occurred, (revoked_checks checked permitted.issued occurred).mp row.1,
          revocationEvent_unconflicted.mp event.2⟩
      · intro recordable
        have checks := (revoked_checks checked permitted.issued recordable.occurred).mpr
          recordable.created
        rcases (updateState_accepts target .revoked p.revokedAt session.clock p.eventId
          inventory).mpr ⟨checks, Or.inl active⟩ with ⟨changed, hchange⟩
        have free := revocationEvent_unconflicted.mpr recordable.unrecorded
        rcases (insertLifecycleEvent_accepts (p.event session target) changed).mpr
          ⟨revocationEvent_checks.mpr recordable.occurred,
            by rwa [updateState_events hchange]⟩ with ⟨final, hfinal⟩
        exact ⟨_, target, rfl, ⟨active, permitted.issued, permitted.unexpired, permitted.bound,
          permitted.entitled, permitted.issuer⟩, changed, hchange, final, hfinal, rfl⟩

end Recording

end TenantTrust.Identity
