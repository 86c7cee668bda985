import TenantTrust.Identity.RevocationRecords

/-! Whether a revocation that the issuer confirmed is recorded, by the call or by its repetition. -/

namespace TenantTrust.Identity

open Library

section Recorded

variable {session : Session} {p : RevocationRequest} {target : Certificate}
  {inventory : Inventory}

/-- What a recorded revocation leaves behind. -/
structure RevocationRequest.Leaves (p : RevocationRequest) (session : Session)
    (target : Certificate) (after : Inventory) : Prop where
  certificate : ∃ revoked, after.certificate? session.tenantId p.certificateId = some revoked ∧
    target.Continues revoked ∧ revoked.state = .revoked ∧ revoked.version = target.version + 1
  event : after.revocationEvent? session.tenantId p.idempotencyKey = some (p.event session target)
  logged : after.events.get? p.eventId = some (p.event session target)

theorem recordCertificateRevocation_leaves {after : Inventory} {reply : RecordedCertificate}
    (found : inventory.certificate? session.tenantId p.certificateId = some target)
    (active : target.state = .active)
    (succeeds : recordCertificateRevocation session p inventory = .ok (after, reply)) :
    p.Leaves session target after ∧ reply = ⟨target.certificateId, p.eventId, .revoked⟩ := by
  cases known : inventory.revocationEvent? session.tenantId p.idempotencyKey with
  | some existing =>
      exact absurd succeeds (recordCertificateRevocation_known known found active _)
  | none =>
      have unknown := known
      unfold Inventory.revocationEvent? at unknown
      simp only [recordCertificateRevocation, unknown, Checked.bind_eq_ok, Checked.require_eq_ok,
        Checked.requireSome_eq_ok, Checked.pure_eq_ok, exists_const, found, Option.some.injEq,
        Prod.mk.injEq] at succeeds
      rcases succeeds with ⟨_, _, rfl, _, changed, hchange, final, hfinal, rfl, rfl⟩
      rcases updateState_rows hchange with ⟨_, _, rfl⟩
      rcases insertLifecycleEvent_rows hfinal with ⟨events, inserted, rfl⟩
      have named := (certificate?_mem found).2
      refine ⟨⟨⟨changeState target .revoked p.revokedAt p.eventId session.clock target, ?_,
        changeState_continues (certificate?_mem found).1 active target (certificate?_mem found).1,
        by simp [changeState], by simp [changeState]⟩, ?_, ?_⟩, rfl⟩
      · apply (Table.get?_eq_some _ _ _).mpr
        refine ⟨(Table.mem_update _ _ (changeState_key _ _ _ _ _) _).mpr
          ⟨target, (certificate?_mem found).1, rfl⟩, ?_⟩
        rw [changeState_key, named]
      · have rows := Table.insertNew_rows inserted
        unfold Inventory.revocationEvent?
        rw [rows, List.find?_append]
        unfold Inventory.revocationEvent? at known
        rw [known]
        simp [RevocationRequest.event]
      · exact (Table.get?_eq_some _ _ _).mpr
          ⟨(Table.mem_insertNew inserted _).mpr (Or.inr rfl), rfl⟩

end Recorded

namespace RevocationCall

variable (call : RevocationCall)

/-- The sessions of the call belong to its actor, who may revoke the certificate of an active
issuer. -/
structure Entitled (target : Certificate) : Prop where
  reading : call.reading.tenantId = call.context.tenantId ∧
    call.reading.subjectId = call.context.subjectId ∧ call.reading.actorIsActive = true
  recording : call.recording.tenantId = call.context.tenantId ∧
    call.recording.subjectId = call.context.subjectId ∧ call.recording.actorIsActive = true
  standing : target.subjectId = call.context.subjectId ∨ .tenantAdmin ∈ call.context.roles ∧
    call.reading.actorIsTenantAdmin = true ∧ call.recording.actorIsTenantAdmin = true
  active : call.recording.activeIssuer target.issuerId = true

/-- The instruction for a certificate of the tenant. -/
def instruction (target : Certificate) (issuer : TenantIssuer) : RevocationInstruction :=
  revocationInstruction call.normalizedRequest target issuer

variable {call} {target : Certificate} {issuer : TenantIssuer} {loaded stored : Inventory}

theorem Entitled.continues (entitled : call.Entitled target) {row : Certificate}
    (continues : target.Continues row) : call.Entitled row where
  reading := entitled.reading
  recording := entitled.recording
  standing := by
    rw [congrArg CertificateIdentity.subjectId continues.identity]
    exact entitled.standing
  active := by
    rw [congrArg CertificateIdentity.issuerId continues.identity]
    exact entitled.active

theorem instruction_continues {row : Certificate} (continues : target.Continues row) :
    call.instruction row issuer = call.instruction target issuer := by
  simp only [instruction, revocationInstruction, continues.identity]

theorem existing_none (absent : loaded.revocationEvent? call.context.tenantId
    call.request.idempotencyKey = none) : call.existing loaded = none := by
  simp only [existing, loadExistingRevocation, absent]
  rfl

theorem Entitled.shows (entitled : call.Entitled target)
    (tenant : target.tenantId = call.context.tenantId) :
    call.reading.shows target.tenantId target.subjectId = true := by
  have reading := entitled.reading
  rcases entitled.standing with own | ⟨_, admin, _⟩
  · simp [Session.shows, tenant, reading, own]
  · simp [Session.shows, tenant, reading, admin]

/-- An active certificate of the tenant is prepared for its issuer. -/
theorem Entitled.prepares (entitled : call.Entitled target)
    (resolved : requireRevocationIssuer call.context.tenantId target call.issuer = .ok issuer)
    (found : loaded.certificate? call.context.tenantId call.request.certificateId = some target)
    (active : target.state = .active) (version : target.version = 1) :
    call.prepare loaded = .ok ⟨target, call.instruction target issuer⟩ := by
  have named := (certificate?_mem found).2
  have tenant : target.tenantId = call.context.tenantId := congrArg Prod.fst named
  have certificateId : target.certificateId = call.request.certificateId :=
    congrArg Prod.snd named
  have shown := entitled.shows tenant
  have loads : loadCertificate call.reading call.context.tenantId call.request.certificateId
      loaded = some target := by
    rw [loadCertificate, found, Option.filter_some, if_pos shown]
  have standing : target.subjectId = call.context.subjectId ∨
      .tenantAdmin ∈ call.context.roles := entitled.standing.imp id And.left
  have validates : validateTarget call.context call.normalizedRequest (some target) =
      .ok target := by
    simp only [validateTarget, Checked.bind_eq_ok, Checked.require_eq_ok,
      Checked.requireSome_eq_ok, Checked.pure_eq_ok, exists_const]
    exact ⟨target, rfl, ⟨tenant, certificateId, by rw [version]; decide, by omega, active⟩,
      standing, rfl⟩
  rw [prepare, loads, prepareNormalizedRevocation, validates]
  simp only [Checked.bind_eq_ok, Checked.pure_eq_ok]
  exact ⟨target, rfl, issuer, resolved, rfl⟩

/-- What the issuer confirmed fits the instruction, apart from the time. -/
structure Matches (confirmation : IssuerConfirmation) (request : RevokeRequest)
    (target : Certificate) : Prop where
  status : confirmation.status = "revoked"
  tenantId : confirmation.tenantId = target.tenantId
  certificateId : confirmation.certificateId = target.certificateId
  issuerId : confirmation.issuerId = target.issuerId
  serialNumber : confirmation.serialNumber = target.serialNumber
  fingerprintSha256 : confirmation.fingerprintSha256 = target.fingerprintSha256
  reasonCode : confirmation.reasonCode = request.reasonCode
  issuerConfirmationId : isConfirmationId confirmation.issuerConfirmationId = true

theorem validateIssuerConfirmation_iff {confirmation value : IssuerConfirmation}
    (tenant : target.tenantId = call.context.tenantId) :
    validateIssuerConfirmation (some confirmation) (call.instruction target issuer)
        call.checkedAt = .ok value ↔
      confirmation = value ∧ Matches confirmation call.request target ∧
        call.requestedAt ≤ confirmation.revokedAt ∧
        confirmation.revokedAt ≤ call.checkedAt + seconds 2 := by
  have instructed : (call.instruction target issuer).tenantId = target.tenantId := tenant.symm
  simp only [validateIssuerConfirmation, Checked.bind_eq_ok, Checked.require_eq_ok,
    Checked.requireSome_eq_ok, Checked.pure_eq_ok, exists_const, Option.some.injEq]
  constructor
  · intro valid
    rcases valid with ⟨_, rfl, facts, times, rfl⟩
    rcases facts with ⟨status, tenantId, certificateId, issuerId, serial, fingerprint, reason, id⟩
    exact ⟨rfl, ⟨status, tenantId.trans instructed, certificateId, issuerId, serial, fingerprint,
      reason, id⟩, times⟩
  · intro valid
    rcases valid with ⟨rfl, facts, times⟩
    exact ⟨_, rfl, ⟨facts.status, facts.tenantId.trans instructed.symm, facts.certificateId,
      facts.issuerId, facts.serialNumber, facts.fingerprintSha256, facts.reasonCode,
      facts.issuerConfirmationId⟩, times, rfl⟩

/-- The inventory after the call: a call that fails leaves it as it was. -/
def left (call : RevocationCall) (loaded stored : Inventory) : Inventory :=
  match (call.revoke loaded stored).2 with
  | .ok (after, _) => after
  | .error _ => stored

theorem left_ok {after : Inventory} {reply : RevocationReply}
    (succeeds : (call.revoke loaded stored).2 = .ok (after, reply)) :
    call.left loaded stored = after := by
  rw [left, succeeds]

/-- A call that finds a revocation under its key changes nothing. -/
theorem left_existing {existing : ExistingRevocation}
    (known : call.existing loaded = some existing) : call.left loaded stored = stored := by
  simp only [left, revoke, known]
  cases validateReplay existing call.normalizedRequest <;> rfl

/-- Any call leaves the inventory as it was, or records one revocation. -/
theorem left_cases (call : RevocationCall) (loaded stored : Inventory) :
    call.left loaded stored = stored ∨ ∃ confirmation recorded,
      applyInventory (.revoke call.recording (call.parameters confirmation)) stored =
        .ok (call.left loaded stored, recorded) := by
  cases result : (call.revoke loaded stored).2 with
  | error failure => exact Or.inl (by rw [left, result])
  | ok pair =>
      cases known : call.existing loaded with
      | some existing => exact Or.inl (left_existing known)
      | none =>
          rw [left_ok result]
          rw [revoke, known] at result
          cases prepared : call.prepare loaded with
          | error reasonCode =>
              simp only [prepared] at result
              cases result
          | ok instructed =>
              simp only [prepared, confirm, Checked.bind_eq_ok, Checked.mapError_eq_ok,
                Checked.pure_eq_ok, Prod.exists] at result
              rcases result with ⟨_, _, confirmation, _, after, recorded, records, _, _, _, _, rfl⟩
              exact Or.inr ⟨confirmation, recorded, records⟩

theorem left_keeps {old : Certificate} (keeps : stored.Keeps old) :
    (call.left loaded stored).Keeps old := by
  rcases left_cases call loaded stored with same | ⟨confirmation, recorded, records⟩
  · rwa [same]
  · have committed := keeps.run [.revoke call.recording (call.parameters confirmation)]
    rwa [Transaction.run_cons, Transaction.commit_ok records, Transaction.run_nil] at committed

theorem left_sound (sound : stored.Sound) : (call.left loaded stored).Sound := by
  rcases left_cases call loaded stored with same | ⟨confirmation, recorded, records⟩
  · rwa [same]
  · exact sound.apply records

/-- A call that is not answered from the inventory, for an active certificate: the issuer is
instructed, and the recording decides. -/
theorem Entitled.revoke_eq (entitled : call.Entitled target)
    (resolved : requireRevocationIssuer call.context.tenantId target call.issuer = .ok issuer)
    (unknown : call.existing loaded = none)
    (found : loaded.certificate? call.context.tenantId call.request.certificateId = some target)
    (active : target.state = .active) (version : target.version = 1) :
    call.revoke loaded stored = ([call.instruction target issuer],
      call.confirm ⟨target, call.instruction target issuer⟩ stored) := by
  rw [revoke, unknown]
  simp only [entitled.prepares resolved found active version]

section Confirmed

variable {confirmation : IssuerConfirmation} {row : Certificate}

/-- A confirmed call that is recorded was confirmed in time, and says what is stored. -/
theorem confirm_ok {after : Inventory} {reply : RevocationReply}
    (answers : call.revokeAtIssuer (call.instruction target issuer) = .ok (some confirmation))
    (tenant : target.tenantId = call.context.tenantId)
    (succeeds : call.confirm ⟨target, call.instruction target issuer⟩ stored =
      .ok (after, reply)) :
    Matches confirmation call.request target ∧ call.requestedAt ≤ confirmation.revokedAt ∧
      confirmation.revokedAt ≤ call.checkedAt + seconds 2 ∧
      ∃ recorded persisted, recordCertificateRevocation call.recording
        (call.parameters confirmation) stored = .ok (after, recorded) ∧
      after.persistedRevocation call.recording.tenantId recorded = some persisted ∧
      reply = .recorded target.certificateId persisted.eventId persisted.correlationId
        persisted.version := by
  simp only [confirm, answers, Checked.bind_eq_ok, Checked.mapError_eq_ok, Checked.require_eq_ok,
    Checked.requireSome_eq_ok, Checked.pure_eq_ok, exists_const, Except.ok.injEq, Prod.exists,
    Prod.mk.injEq] at succeeds
  rcases succeeds with ⟨_, rfl, value, valid, _, recorded, records, persisted, reads, _, rfl, rfl⟩
  rcases (validateIssuerConfirmation_iff tenant).mp valid with ⟨rfl, facts, times⟩
  exact ⟨facts, times.1, times.2, recorded, persisted, records, reads, rfl⟩

/-- A valid confirmation for a certificate that is still active when it is recorded. -/
theorem confirm_ok_iff (entitled : call.Entitled target)
    (answers : call.revokeAtIssuer (call.instruction target issuer) = .ok (some confirmation))
    (tenant : target.tenantId = call.context.tenantId)
    (certificateId : target.certificateId = call.request.certificateId)
    (facts : Matches confirmation call.request target)
    (times : call.requestedAt ≤ confirmation.revokedAt ∧
      confirmation.revokedAt ≤ call.checkedAt + seconds 2)
    (sound : stored.Sound)
    (found : stored.certificate? call.context.tenantId call.request.certificateId = some row)
    (active : row.state = .active) (version : target.version = 1)
    (permitted : (call.parameters confirmation).Permitted call.recording row) :
    (∃ result, call.confirm ⟨target, call.instruction target issuer⟩ stored = .ok result) ↔
      (call.parameters confirmation).Recordable call.recording row stored := by
  have session : call.recording.tenantId = call.context.tenantId := entitled.recording.1
  have present := (certificate?_mem found).1
  have found' : stored.certificate? call.recording.tenantId
      (call.parameters confirmation).certificateId = some row := by rw [session]; exact found
  rw [← recordCertificateRevocation_accepts found' active (sound.stored.checked row present)
    permitted]
  constructor
  · intro accepted
    rcases accepted with ⟨⟨after, reply⟩, succeeds⟩
    rcases confirm_ok answers tenant succeeds with ⟨_, _, _, recorded, _, records, _⟩
    exact ⟨_, records⟩
  · intro accepted
    rcases accepted with ⟨⟨after, recorded⟩, records⟩
    rcases recordCertificateRevocation_leaves found' active records with ⟨leaves, rfl⟩
    rcases leaves.certificate with ⟨revoked, lookup, _, _, versioned⟩
    have first := sound.versioned row present
    rw [active, if_pos rfl] at first
    have named : row.certificateId = call.request.certificateId :=
      congrArg Prod.snd (certificate?_mem found).2
    have persisted : after.persistedRevocation call.recording.tenantId
        ⟨row.certificateId, call.eventId, .revoked⟩ =
          some ⟨row.certificateId, call.eventId, call.correlationId, .revoked,
            revoked.version⟩ := by
      have logged : after.events.get? call.eventId = some _ := leaves.logged
      have kept : after.certificate? call.recording.tenantId row.certificateId = some revoked := by
        rw [named]
        exact lookup
      simp only [Inventory.persistedRevocation, logged, kept]
      rfl
    refine ⟨(after, .recorded target.certificateId call.eventId call.correlationId
      revoked.version), ?_⟩
    simp only [confirm, answers, Checked.bind_eq_ok, Checked.mapError_eq_ok,
      Checked.require_eq_ok, Checked.requireSome_eq_ok, Checked.pure_eq_ok, exists_const,
      Except.ok.injEq, Prod.exists, Prod.mk.injEq]
    refine ⟨_, rfl, confirmation, (validateIssuerConfirmation_iff tenant).mpr ⟨rfl, facts, times⟩,
      after, _, records, _, persisted, ⟨named.trans certificateId.symm, rfl, ?_, ?_⟩, rfl, rfl⟩
    · simp [versioned, first, isSafeInteger]
    · simp [versioned, first, version]

end Confirmed

end RevocationCall

end TenantTrust.Identity
