import TenantTrust.Identity.InventorySteps
import TenantTrust.Identity.CertificateRecords

/-! When the inventory accepts a certificate that the verification has accepted. -/

namespace TenantTrust.Identity

open Library

/-- What every reachable inventory guarantees of its rows: they pass their checks, and an event
that an issuance or a renewal wrote shares its idempotency key with a certificate. -/
structure Inventory.Stored (inventory : Inventory) : Prop where
  checked : ∀ certificate ∈ inventory.certificates, certificateChecks certificate = true
  keyed : ∀ event ∈ inventory.events, event.eventType ≠ .revoked → event.eventType ≠ .expired →
    ∃ certificate ∈ inventory.certificates, certificate.tenantId = event.tenantId ∧
      certificate.idempotencyKey = event.idempotencyKey

theorem Inventory.empty_stored : Inventory.empty.Stored where
  checked certificate member := absurd member (Table.not_mem_empty certificate)
  keyed event member := absurd member (Table.not_mem_empty event)

theorem Inventory.Stored.opens {before : Inventory} (stored : before.Stored) {row : Certificate}
    {event : LifecycleEvent} {certificates : Table Certificate Certificate.key}
    {events : Table LifecycleEvent LifecycleEvent.key} (opened : row.OpenedBy event)
    (inserted : before.certificates.insertNew row = some certificates)
    (logged : before.events.insertNew event = some events) :
    Inventory.Stored ⟨certificates, events⟩ where
  checked := by
    intro certificate member
    rcases (Table.mem_insertNew inserted certificate).mp member with old | rfl
    · exact stored.checked certificate old
    · exact opened.checks
  keyed := by
    intro other member notRevoked notExpired
    rcases (Table.mem_insertNew logged other).mp member with old | rfl
    · rcases stored.keyed other old notRevoked notExpired with ⟨certificate, present, same⟩
      exact ⟨certificate, (Table.mem_insertNew inserted certificate).mpr (Or.inl present), same⟩
    · have tenant : other.tenantId = row.tenantId := congrArg Prod.fst opened.owner
      exact ⟨row, (Table.mem_insertNew inserted row).mpr (Or.inr rfl), tenant.symm,
        opened.idempotencyKey.symm⟩

theorem Inventory.Stored.ends {before : Inventory} (stored : before.Stored) {target : Certificate}
    {event : LifecycleEvent} {clock : Timestamp} {events : Table LifecycleEvent LifecycleEvent.key}
    (present : target ∈ before.certificates)
    (checks : certificateChecks (event.endsRow target clock target) = true)
    (known : event.eventType ≠ .revoked → event.eventType ≠ .expired →
      ∃ certificate ∈ before.certificates, certificate.tenantId = event.tenantId ∧
        certificate.idempotencyKey = event.idempotencyKey)
    (logged : before.events.insertNew event = some events) :
    Inventory.Stored ⟨before.certificates.update (event.endsRow target clock)
      (event.endsRow_key target clock), events⟩ := by
  have rows := Table.mem_update before.certificates (event.endsRow target clock)
    (event.endsRow_key target clock)
  have kept : ∀ tenant key, (∃ certificate ∈ before.certificates, certificate.tenantId = tenant ∧
      certificate.idempotencyKey = key) → ∃ certificate ∈ before.certificates.update
        (event.endsRow target clock) (event.endsRow_key target clock),
          certificate.tenantId = tenant ∧ certificate.idempotencyKey = key := by
    intro tenant key found
    rcases found with ⟨certificate, member, same, shared⟩
    have identity := event.endsRow_identity target clock certificate
    exact ⟨_, (rows _).mpr ⟨certificate, member, rfl⟩,
      (congrArg CertificateIdentity.tenantId identity).trans same,
      (congrArg CertificateIdentity.idempotencyKey identity).trans shared⟩
  constructor
  · intro certificate member
    rcases (rows certificate).mp member with ⟨old, wasThere, rfl⟩
    by_cases same : old.key = target.key
    · rw [before.certificates.unique wasThere present same]
      exact checks
    · rw [event.endsRow_other target clock same]
      exact stored.checked old wasThere
  · intro other member notRevoked notExpired
    rcases (Table.mem_insertNew logged other).mp member with old | rfl
    · exact kept _ _ (stored.keyed other old notRevoked notExpired)
    · exact kept _ _ (known notRevoked notExpired)

theorem Inventory.Stored.step {before after : Inventory} (stored : before.Stored)
    (step : before.Step after) : after.Stored := by
  cases step with
  | issued _ opened _ _ inserted logged => exact stored.opens opened inserted logged
  | ended present _ type _ checks logged =>
      refine stored.ends present checks ?_ logged
      intro notRevoked notExpired
      rcases type with revoked | expired
      · exact absurd revoked notRevoked
      · exact absurd expired notExpired
  | @renewed predecessor row event closing clock certificates logged events present names tenant
      freshKey opened type cause ended closes after shared checks inserted first second =>
      have kept : predecessor ∈ certificates :=
        (Table.mem_insertNew inserted predecessor).mpr (Or.inl present)
      refine (stored.opens opened inserted first).ends kept checks ?_ second
      intro _ _
      have owner : closing.tenantId = predecessor.tenantId := congrArg Prod.fst ended.owner
      exact ⟨row, (Table.mem_insertNew inserted row).mpr (Or.inr rfl), tenant.trans owner.symm,
        shared.symm⟩

theorem applyInventory_run_stored (ops : List InventoryOp) :
    (Transaction.run applyInventory .empty ops).Stored := by
  refine Transaction.run_preserves ?_ Inventory.empty ops Inventory.empty_stored
  intro before op after reply stored succeeds
  rcases applyInventory_step succeeds with rfl | step
  · exact stored
  · exact stored.step step

/-- No stored certificate shares a unique value with the row, and the events are new. -/
def Inventory.Unused (inventory : Inventory) (row : Certificate) (eventIds : List EventId) :
    Prop :=
  (∀ old ∈ inventory.certificates, certificateConflict row old = false) ∧
    ∀ event ∈ inventory.events, event.eventId ∉ eventIds

theorem insertCertificate_accepts (row : Certificate) (inventory : Inventory) :
    (∃ after, insertCertificate row inventory = .ok after) ↔
      certificateChecks row = true ∧
        ∀ old ∈ inventory.certificates, certificateConflict row old = false := by
  simp only [insertCertificate, Checked.bind_eq_ok, Checked.require_eq_ok,
    Checked.requireSome_eq_ok, Checked.pure_eq_ok, exists_const]
  constructor
  · intro accepted
    rcases accepted with ⟨_, checks, free, _⟩
    exact ⟨checks, free⟩
  · intro accepted
    rcases accepted with ⟨checks, free⟩
    have absent : inventory.certificates.get? row.key = none := by
      rw [Table.get?_eq_none]
      intro old member same
      have conflict := free old member
      have shared : row.certificateId = old.certificateId := (congrArg Prod.snd same).symm
      simp [certificateConflict, shared] at conflict
    exact ⟨_, checks, free, _, Table.insertNew_eq_some.mpr ⟨absent, rfl⟩, rfl⟩

theorem insertLifecycleEvent_accepts (row : LifecycleEvent) (inventory : Inventory) :
    (∃ after, insertLifecycleEvent row inventory = .ok after) ↔
      lifecycleEventChecks row = true ∧
        (∀ old ∈ inventory.events, lifecycleEventConflict row old = false) ∧
        ∀ old ∈ inventory.events, old.eventId ≠ row.eventId := by
  simp only [insertLifecycleEvent, Checked.bind_eq_ok, Checked.require_eq_ok,
    Checked.requireSome_eq_ok, Checked.pure_eq_ok, exists_const]
  constructor
  · intro accepted
    rcases accepted with ⟨_, checks, free, events, inserted, _⟩
    exact ⟨checks, free, Table.insertNew_fresh inserted⟩
  · intro accepted
    rcases accepted with ⟨checks, free, fresh⟩
    have absent : inventory.events.get? row.key = none :=
      (Table.get?_eq_none _ _).mpr fresh
    exact ⟨_, checks, free, _, Table.insertNew_eq_some.mpr ⟨absent, rfl⟩, rfl⟩

theorem updateState_accepts (target : Certificate) (state : CertificateState)
    (changedAt clock : Timestamp) (eventId : EventId) (inventory : Inventory) :
    (∃ after, updateState target state changedAt eventId clock inventory = .ok after) ↔
      certificateChecks (changeState target state changedAt eventId clock target) = true ∧
        (target.state = .active ∨ state = target.state) := by
  simp only [updateState, Checked.bind_eq_ok, Checked.require_eq_ok, Checked.pure_eq_ok,
    exists_const]
  constructor
  · intro accepted
    rcases accepted with ⟨_, checks, legal, _⟩
    exact ⟨checks, legal⟩
  · intro accepted
    exact ⟨_, accepted.1, accepted.2, rfl⟩

/-- An event that is neither a revocation nor an expiry meets no other while its idempotency
key is unknown. -/
theorem Inventory.Stored.conflictFree {inventory : Inventory} (stored : inventory.Stored)
    (event : LifecycleEvent) (notRevoked : event.eventType ≠ .revoked)
    (notExpired : event.eventType ≠ .expired) (unconfirmed : event.issuerConfirmationId = none)
    (unknown : inventory.byIdempotencyKey event.tenantId event.idempotencyKey = none) :
    ∀ old ∈ inventory.events, lifecycleEventConflict event old = false := by
  intro old member
  have apart : ¬ (event.tenantId = old.tenantId ∧ event.idempotencyKey = old.idempotencyKey ∧
      event.eventType = old.eventType) := by
    intro same
    rcases stored.keyed old member (by rwa [← same.2.2]) (by rwa [← same.2.2]) with
      ⟨certificate, present, tenant, key⟩
    have absent := List.find?_eq_none.mp unknown certificate present
    simp [tenant, key, same.1, same.2.1] at absent
  simp only [lifecycleEventConflict, notRevoked, notExpired, unconfirmed, Option.isSome_none,
    decide_false, Bool.false_and, Bool.or_false, Bool.and_eq_false_iff, decide_eq_false_iff_not]
  tauto

theorem CertificateRequest.row_checks {p : CertificateRequest} {session : Session}
    {supersedes : Option CertificateId} (clock : p.issuedAt ≤ session.clock)
    (other : supersedes ≠ some p.certificateId) :
    certificateChecks (p.row session supersedes) = true ↔
      p.notBefore ≤ p.issuedAt ∧ p.issuedAt < p.notAfter := by
  simp only [certificateChecks, Bool.and_eq_true, Bool.or_eq_true, decide_eq_true_eq]
  simp [CertificateRequest.row, clock, other]

theorem CertificateRequest.event_checks {p : CertificateRequest} {session : Session}
    {type : LifecycleEventType} {causation : Option EventId}
    (opens : type = .issued ∧ causation = none ∨ type = .renewed)
    (clock : p.issuedAt ≤ session.clock) :
    lifecycleEventChecks (p.event session type causation) = true := by
  rcases opens with ⟨rfl, rfl⟩ | rfl <;>
    simp [lifecycleEventChecks, CertificateRequest.event, clock]

/-- What the database still has to find when an issuance is recorded. -/
def CertificateRequest.IssuanceFresh (p : CertificateRequest) (session : Session)
    (inventory : Inventory) : Prop :=
  match inventory.byIdempotencyKey session.tenantId p.idempotencyKey with
  | some existing => p.replays none existing = true
  | none => inventory.Unused (p.row session none) [p.eventId]

theorem recordCertificateIssuance_accepts {session : Session} {p : CertificateRequest}
    {inventory : Inventory} (stored : inventory.Stored) (clock : p.issuedAt ≤ session.clock)
    (permitted : p.permitted session = true)
    (window : p.notBefore ≤ p.issuedAt ∧ p.issuedAt < p.notAfter) :
    (∃ result, recordCertificateIssuance session p inventory = .ok result) ↔
      p.IssuanceFresh session inventory := by
  have rowChecks : certificateChecks (p.row session none) = true :=
    (CertificateRequest.row_checks clock (by simp)).mpr window
  have eventChecks : lifecycleEventChecks (p.event session .issued none) = true :=
    CertificateRequest.event_checks (Or.inl ⟨rfl, rfl⟩) clock
  rw [CertificateRequest.IssuanceFresh]
  simp only [recordCertificateIssuance, Checked.bind_eq_ok, Checked.require_eq_ok, exists_const,
    permitted, true_and]
  cases found : inventory.byIdempotencyKey session.tenantId p.idempotencyKey with
  | some existing =>
      simp only [Checked.bind_eq_ok, Checked.require_eq_ok, Checked.pure_eq_ok, exists_const]
      exact ⟨fun accepted => accepted.choose_spec.1, fun replays => ⟨_, replays, rfl⟩⟩
  | none =>
      simp only [Checked.bind_eq_ok, Checked.pure_eq_ok]
      constructor
      · intro accepted
        rcases accepted with ⟨_, inserted, hinsert, logged, hlog, _⟩
        have row := (insertCertificate_accepts _ _).mp ⟨inserted, hinsert⟩
        have event := (insertLifecycleEvent_accepts _ _).mp ⟨logged, hlog⟩
        rw [insertCertificate_events hinsert] at event
        refine ⟨row.2, fun old member => ?_⟩
        rw [List.mem_singleton]
        exact event.2.2 old member
      · intro fresh
        rcases (insertCertificate_accepts _ _).mpr ⟨rowChecks, fresh.1⟩ with ⟨inserted, hinsert⟩
        have same := insertCertificate_events hinsert
        have conflicts := stored.conflictFree (p.event session .issued none)
          (by simp [CertificateRequest.event]) (by simp [CertificateRequest.event]) rfl found
        have new : ∀ old ∈ inventory.events, old.eventId ≠ p.eventId := by
          intro old member shared
          exact fresh.2 old member (by simp [shared])
        rcases (insertLifecycleEvent_accepts (p.event session .issued none) inserted).mpr
          ⟨eventChecks, by rwa [same], by rwa [same]⟩ with ⟨logged, hlog⟩
        exact ⟨_, inserted, hinsert, logged, hlog, rfl⟩

/-- What the database still has to find when a renewal is recorded. The last two conditions
keep the times of the predecessor in order when it is superseded. -/
def CertificateRequest.RenewalFresh (p : CertificateRequest) (session : Session)
    (predecessor : Certificate) (supersededEventId : EventId) (inventory : Inventory) : Prop :=
  match inventory.byIdempotencyKey session.tenantId p.idempotencyKey with
  | some existing => p.replays (some predecessor.certificateId) existing = true
  | none => inventory.Unused (p.row session (some predecessor.certificateId))
      [p.eventId, supersededEventId] ∧
      predecessor.issuedAt ≤ p.issuedAt ∧ predecessor.createdAt ≤ session.clock

theorem CertificateRequest.renewalFresh_iff {p : CertificateRequest} {session : Session}
    {predecessor : Certificate} {supersededEventId : EventId} {inventory : Inventory}
    (unknown : inventory.byIdempotencyKey session.tenantId p.idempotencyKey = none) :
    p.RenewalFresh session predecessor supersededEventId inventory ↔
      inventory.Unused (p.row session (some predecessor.certificateId))
        [p.eventId, supersededEventId] ∧
      predecessor.issuedAt ≤ p.issuedAt ∧ predecessor.createdAt ≤ session.clock := by
  rw [CertificateRequest.RenewalFresh, unknown]

theorem supersede_checks {predecessor : Certificate} {changedAt clock : Timestamp}
    (eventId : EventId) (checked : certificateChecks predecessor = true)
    (dated : changedAt ≤ clock) :
    certificateChecks (changeState predecessor .superseded changedAt eventId clock predecessor) =
        true ↔
      predecessor.issuedAt ≤ changedAt ∧ predecessor.createdAt ≤ clock := by
  simp only [certificateChecks, Bool.and_eq_true, Bool.or_eq_true, decide_eq_true_eq] at checked
  have later : max clock changedAt = clock := max_eq_left dated
  simp only [certificateChecks, changeState, if_true, later, Bool.and_eq_true, Bool.or_eq_true,
    decide_eq_true_eq]
  constructor
  · intro checks
    exact ⟨checks.1.1.1.2.1, checks.2.2⟩
  · intro ordered
    have version : 1 < predecessor.version + 1 := by omega
    exact ⟨⟨⟨⟨⟨checked.1.1.1.1.1, Or.inl version⟩, ordered.1, dated⟩, checked.1.1.2⟩, by omega⟩,
      checked.2.1, ordered.2⟩

theorem supersededEvent_checks {session : Session} {p : CertificateRequest}
    {supersededEventId : EventId} {predecessor : Certificate} (clock : p.issuedAt ≤ session.clock) :
    lifecycleEventChecks (supersededEvent session p supersededEventId predecessor) = true := by
  have reason : isReasonCode "CERTIFICATE_RENEWED" = true := by decide +kernel
  simp [lifecycleEventChecks, supersededEvent, clock, reason]

/-- The two events of a renewal do not meet each other. -/
theorem renewal_events_apart {session : Session} {p : CertificateRequest}
    {supersededEventId : EventId} {predecessor : Certificate} :
    lifecycleEventConflict (supersededEvent session p supersededEventId predecessor)
      (p.event session .renewed (some predecessor.lastEventId)) = false := by
  simp [lifecycleEventConflict, supersededEvent, CertificateRequest.event]

section Renewal

variable {session : Session} {p : CertificateRequest} {predecessor : Certificate}
  {supersededEventId : EventId} {inventory : Inventory}

/-- The five statements of a renewal whose idempotency key is new. -/
theorem renewal_accepts (stored : inventory.Stored) (clock : p.issuedAt ≤ session.clock)
    (window : p.notBefore ≤ p.issuedAt ∧ p.issuedAt < p.notAfter)
    (distinct : p.eventId ≠ supersededEventId) (present : predecessor ∈ inventory.certificates)
    (active : predecessor.state = .active)
    (unknown : inventory.byIdempotencyKey session.tenantId p.idempotencyKey = none) :
    (∃ inserted logged changed final,
        insertCertificate (p.row session (some predecessor.certificateId)) inventory =
          .ok inserted ∧
        insertLifecycleEvent (p.event session .renewed (some predecessor.lastEventId)) inserted =
          .ok logged ∧
        updateState predecessor .superseded p.issuedAt supersededEventId session.clock logged =
          .ok changed ∧
        insertLifecycleEvent (supersededEvent session p supersededEventId predecessor) changed =
          .ok final) ↔
      inventory.Unused (p.row session (some predecessor.certificateId))
        [p.eventId, supersededEventId] ∧
      predecessor.issuedAt ≤ p.issuedAt ∧ predecessor.createdAt ≤ session.clock := by
  have supersede := supersede_checks supersededEventId
    (stored.checked predecessor present) clock
  have renewed : lifecycleEventChecks
      (p.event session .renewed (some predecessor.lastEventId)) = true :=
    CertificateRequest.event_checks (Or.inr rfl) clock
  constructor
  · intro accepted
    rcases accepted with ⟨inserted, logged, changed, final, hinsert, hlog, hchange, hfinal⟩
    have row := (insertCertificate_accepts _ _).mp ⟨inserted, hinsert⟩
    have first := (insertLifecycleEvent_accepts _ _).mp ⟨logged, hlog⟩
    have second := (insertLifecycleEvent_accepts _ _).mp ⟨final, hfinal⟩
    have ended := (updateState_accepts _ _ _ _ _ _).mp ⟨changed, hchange⟩
    rcases insertLifecycleEvent_rows hlog with ⟨events, appended, rfl⟩
    rw [insertCertificate_events hinsert] at first appended
    rw [updateState_events hchange] at second
    refine ⟨⟨row.2, fun old member => ?_⟩, supersede.mp ended.1⟩
    have apart : old.eventId ≠ supersededEventId :=
      second.2.2 old ((Table.mem_insertNew appended old).mpr (Or.inl member))
    have fresh : old.eventId ≠ p.eventId := first.2.2 old member
    simp [apart, fresh]
  · intro accepted
    rcases accepted with ⟨⟨free, new⟩, ordered⟩
    have different : predecessor.certificateId ≠ p.certificateId := by
      intro same
      have conflict := free predecessor present
      simp [certificateConflict, CertificateRequest.row, same] at conflict
    have rowChecks : certificateChecks (p.row session (some predecessor.certificateId)) = true :=
      (CertificateRequest.row_checks clock (by simp [different])).mpr window
    have fresh : ∀ old ∈ inventory.events, old.eventId ≠ p.eventId ∧
        old.eventId ≠ supersededEventId := by
      intro old member
      simpa using new old member
    rcases (insertCertificate_accepts _ _).mpr ⟨rowChecks, free⟩ with ⟨inserted, hinsert⟩
    have firstConflicts := stored.conflictFree
      (p.event session .renewed (some predecessor.lastEventId))
      (by simp [CertificateRequest.event]) (by simp [CertificateRequest.event]) rfl unknown
    have same := insertCertificate_events hinsert
    rcases (insertLifecycleEvent_accepts
      (p.event session .renewed (some predecessor.lastEventId)) inserted).mpr
      ⟨renewed, by rwa [same], by rw [same]; exact fun old member => (fresh old member).1⟩ with
      ⟨logged, hlog⟩
    rcases (updateState_accepts predecessor .superseded p.issuedAt session.clock supersededEventId
      logged).mpr ⟨supersede.mpr ordered, Or.inl active⟩ with ⟨changed, hchange⟩
    rcases insertLifecycleEvent_rows hlog with ⟨events, appended, rows⟩
    have log : changed.events = events := by
      rw [updateState_events hchange, rows]
    rw [same] at appended
    have secondConflicts : ∀ old ∈ changed.events, lifecycleEventConflict
        (supersededEvent session p supersededEventId predecessor) old = false := by
      rw [log]
      intro old member
      rcases (Table.mem_insertNew appended old).mp member with kept | rfl
      · exact stored.conflictFree (supersededEvent session p supersededEventId predecessor)
          (by simp [supersededEvent]) (by simp [supersededEvent]) rfl unknown old kept
      · exact renewal_events_apart
    have secondFresh : ∀ old ∈ changed.events, old.eventId ≠
        (supersededEvent session p supersededEventId predecessor).eventId := by
      rw [log]
      intro old member
      rcases (Table.mem_insertNew appended old).mp member with kept | rfl
      · exact (fresh old kept).2
      · exact distinct
    rcases (insertLifecycleEvent_accepts _ changed).mpr
      ⟨supersededEvent_checks clock, secondConflicts, secondFresh⟩ with ⟨final, hfinal⟩
    exact ⟨inserted, logged, changed, final, hinsert, hlog, hchange, hfinal⟩

theorem recordCertificateRenewal_accepts (stored : inventory.Stored)
    (clock : p.issuedAt ≤ session.clock) (permitted : p.permitted session = true)
    (window : p.notBefore ≤ p.issuedAt ∧ p.issuedAt < p.notAfter)
    (distinct : p.eventId ≠ supersededEventId)
    (found : inventory.certificate? session.tenantId predecessor.certificateId = some predecessor)
    (eligible : renewable p predecessor = true) :
    (∃ result, recordCertificateRenewal session p predecessor.certificateId supersededEventId
        inventory = .ok result) ↔
      p.RenewalFresh session predecessor supersededEventId inventory := by
  rw [CertificateRequest.RenewalFresh]
  simp only [recordCertificateRenewal, Checked.bind_eq_ok, Checked.require_eq_ok, exists_const,
    permitted, true_and]
  cases unknown : inventory.byIdempotencyKey session.tenantId p.idempotencyKey with
  | some existing =>
      simp only [Checked.bind_eq_ok, Checked.require_eq_ok, Checked.pure_eq_ok, exists_const]
      exact ⟨fun accepted => accepted.choose_spec.2.1, fun replays => ⟨_, distinct, replays, rfl⟩⟩
  | none =>
      have active := (renewable_active eligible).1
      have present := (certificate?_mem found).1
      rw [← renewal_accepts stored clock window distinct present active unknown]
      simp only [Checked.bind_eq_ok, Checked.require_eq_ok, Checked.requireSome_eq_ok,
        Checked.pure_eq_ok, exists_const, found, Option.some.injEq]
      constructor
      · intro accepted
        rcases accepted with ⟨_, _, _, rfl, _, inserted, hinsert, logged, hlog, changed, hchange,
          final, hfinal, _⟩
        exact ⟨inserted, logged, changed, final, hinsert, hlog, hchange, hfinal⟩
      · intro accepted
        rcases accepted with ⟨inserted, logged, changed, final, hinsert, hlog, hchange, hfinal⟩
        exact ⟨_, distinct, predecessor, rfl, eligible, inserted, hinsert, logged, hlog, changed,
          hchange, final, hfinal, rfl⟩

end Renewal

end TenantTrust.Identity
