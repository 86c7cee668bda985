import TenantTrust.Identity.RevocationRetry
import TenantTrust.Identity.SignedCertificates

/-! Repeating a certificate request under its idempotency key. -/

namespace TenantTrust.Identity

open Library

/-- One call of the issuance service with all that it is handed; an issuance loads no certificate
and records no superseded event. -/
structure EnrollmentCall where
  context : ResolvedContext
  request : EnrollmentRequest
  target : Option TargetMembership
  loaded : Option Certificate
  issuer : Option TenantIssuer
  signCertificate : SigningInstruction → Except String (Option String)
  clock : Timestamp
  session : Session
  ids : InventoryIds
  supersededEventId : EventId

inductive AuthorityCall where
  | sign (instruction : SigningInstruction)
  | revoke (instruction : RevocationInstruction)
  deriving DecidableEq, Repr

inductive ServiceFailure where
  | denied (reasonCode : String)
  | authority (message : String)
  | record (failure : RecordFailure)
  | revocation (failure : RevocationFailure)
  deriving DecidableEq, Repr

/-- The identifiers that a service returns. -/
structure CertificateReply where
  certificateId : CertificateId
  eventId : EventId
  deriving DecidableEq, Repr

def RecordedCertificate.reply (recorded : RecordedCertificate) : CertificateReply :=
  ⟨recorded.certificateId, recorded.eventId⟩

def RevocationReply.reply : RevocationReply → CertificateReply
  | .recorded certificateId eventId _ _ => ⟨certificateId, eventId⟩
  | .replayed existing => ⟨existing.certificateId, existing.eventId⟩

/-- The calls that reach the certificate authority, and the result. -/
structure ServiceOutcome where
  authorityCalls : List AuthorityCall
  result : Except ServiceFailure (Inventory × CertificateReply)

namespace EnrollmentCall

variable (platform : EnrollmentPlatform) (call : EnrollmentCall)

/-- The part of a call after its preparation. A signer that returns no certificate is treated as
one that returns a certificate of no length. -/
def complete (prepared : Except String PreparedRequest)
    (record : PreparedRequest → VerifiedCertificate →
      Except RecordFailure (Inventory × RecordedCertificate)) : ServiceOutcome :=
  match prepared with
  | .error reasonCode => ⟨[], .error (.denied reasonCode)⟩
  | .ok prepared => {
      authorityCalls := [.sign prepared.signingInstruction]
      result := do
        let signed ← (call.signCertificate prepared.signingInstruction).mapError .authority
        let verified ← (verifyIssuedCertificate platform (signed.getD "") prepared).mapError .denied
        let (inventory, recorded) ← (record prepared verified).mapError .record
        return (inventory, recorded.reply) }

def issue (stored : Inventory) : ServiceOutcome :=
  call.complete platform
    (prepareCertificateIssuance platform call.context call.request call.target call.issuer
      call.clock)
    fun prepared verified => recordIssuedCertificate call.context call.session
      prepared.normalizedRequest verified call.ids stored

def renew (stored : Inventory) : ServiceOutcome :=
  call.complete platform
    (prepareCertificateRenewal platform call.context call.request call.target call.loaded
      call.issuer call.clock)
    fun prepared verified => do
      let predecessor ← requireSome prepared.predecessor (.denied "RENEWAL_BINDING_MISMATCH")
      recordRenewedCertificate call.context call.session prepared.normalizedRequest predecessor
        verified call.ids call.supersededEventId stored

end EnrollmentCall

inductive CertificateCall where
  | issue (call : EnrollmentCall)
  | renew (call : EnrollmentCall)
  | revoke (call : RevocationCall)

namespace CertificateCall

/-- A call, from the inventory that it reads to the one that its recording finds. -/
def perform (platform : EnrollmentPlatform) (loaded stored : Inventory) :
    CertificateCall → ServiceOutcome
  | .issue call => call.issue platform stored
  | .renew call => call.renew platform stored
  | .revoke call => {
      authorityCalls := (call.revoke loaded stored).1.map .revoke
      result := ((call.revoke loaded stored).2.mapError .revocation).map fun result =>
        (result.1, result.2.reply) }

def isRevocation : CertificateCall → Bool
  | .revoke _ => true
  | _ => false

/-- The sessions of a revocation are those of its actor. -/
def Bound : CertificateCall → Prop
  | .revoke call => call.reading.tenantId = call.context.tenantId ∧
      call.recording.tenantId = call.context.tenantId ∧
      call.recording.subjectId = call.context.subjectId
  | _ => True

/-- The same actor makes the identical request, with the same standing. -/
def Repeats : CertificateCall → CertificateCall → Prop
  | .issue first, .issue retry | .renew first, .renew retry =>
      retry.context = first.context ∧ retry.request = first.request
  | .revoke first, .revoke retry => retry.context = first.context ∧
      retry.request = first.request ∧ retry.reading = { first.reading with
        clock := retry.reading.clock }
  | _, _ => False

/-- Another request of the kind uses the key in the same tenant. -/
def Reuses : CertificateCall → CertificateCall → Prop
  | .issue first, .issue other | .renew first, .renew other =>
      other.context.tenantId = first.context.tenantId ∧
        other.request.idempotencyKey = first.request.idempotencyKey ∧
        other.request ≠ first.request
  | .revoke first, .revoke other => other.context.tenantId = first.context.tenantId ∧
      other.request.idempotencyKey = first.request.idempotencyKey ∧
      other.request ≠ first.request ∧ (CertificateCall.revoke other).Bound
  | _, _ => False

end CertificateCall

/-- The reply again, and nothing for the authority to do. -/
def ServiceOutcome.Replays (outcome : ServiceOutcome) (reply : CertificateReply) : Prop :=
  outcome.authorityCalls = [] ∧ ∃ inventory, outcome.result = .ok (inventory, reply)

def ServiceOutcome.Refuses (outcome : ServiceOutcome) : Prop :=
  ∃ failure, outcome.result = .error failure

/-- An enrollment that is not denied beforehand has something signed, also when it is repeated. -/
theorem EnrollmentCall.complete_not_replays (platform : EnrollmentPlatform) (call : EnrollmentCall)
    (prepared : Except String PreparedRequest)
    (record : PreparedRequest → VerifiedCertificate →
      Except RecordFailure (Inventory × RecordedCertificate)) (reply : CertificateReply) :
    ¬ (call.complete platform prepared record).Replays reply := by
  intro replays
  rcases replays with ⟨untouched, inventory, succeeds⟩
  cases prepared with
  | error reasonCode => cases succeeds
  | ok prepared => cases untouched

section Attribution

/-- The revocations of the event log are about the subjects of their certificates. -/
def Inventory.Attributed (inventory : Inventory) : Prop :=
  ∀ event ∈ inventory.events, event.eventType = .revoked →
    ∃ certificate ∈ inventory.certificates, certificate.key = event.owner ∧
      certificate.subjectId = event.subjectId

/-- The event that a statement appends is the only one that was not there before. -/
theorem insertLifecycleEvent_member {row event : LifecycleEvent} {before after : Inventory}
    (succeeds : insertLifecycleEvent row before = .ok after) (member : event ∈ after.events) :
    event ∈ before.events ∨ event = row := by
  rcases insertLifecycleEvent_rows succeeds with ⟨events, inserted, rfl⟩
  exact (Table.mem_insertNew inserted event).mp member

theorem recordCertificateRevocation_member {session : Session} {p : RevocationRequest}
    {before after : Inventory} {reply : RecordedCertificate}
    (succeeds : recordCertificateRevocation session p before = .ok (after, reply))
    {event : LifecycleEvent} (member : event ∈ after.events) :
    event ∈ before.events ∨ ∃ target ∈ before.certificates,
      target.tenantId = session.tenantId ∧ event = p.event session target := by
  simp only [recordCertificateRevocation, Checked.bind_eq_ok, Checked.require_eq_ok,
    exists_const] at succeeds
  rcases succeeds with ⟨_, succeeds⟩
  split at succeeds
  · simp only [Checked.bind_eq_ok, Checked.require_eq_ok, Checked.requireSome_eq_ok,
      Checked.pure_eq_ok, exists_const, Prod.mk.injEq] at succeeds
    rcases succeeds with ⟨_, _, _, _, rfl, _⟩
    exact Or.inl member
  · simp only [Checked.bind_eq_ok, Checked.require_eq_ok, Checked.requireSome_eq_ok,
      Checked.pure_eq_ok, exists_const, Prod.mk.injEq] at succeeds
    rcases succeeds with ⟨target, found, _, changed, hchange, final, hfinal, rfl, _⟩
    rcases certificate?_mem found with ⟨present, named⟩
    have kept := insertLifecycleEvent_member hfinal member
    rw [updateState_events hchange] at kept
    exact kept.imp id fun same => ⟨target, present, congrArg Prod.fst named, same⟩

theorem applyInventory_revocation {op : InventoryOp} {before after : Inventory}
    {reply : RecordedCertificate} (succeeds : applyInventory op before = .ok (after, reply))
    {event : LifecycleEvent} (member : event ∈ after.events)
    (revoked : event.eventType = .revoked) :
    event ∈ before.events ∨ ∃ certificate ∈ before.certificates,
      certificate.key = event.owner ∧ certificate.subjectId = event.subjectId := by
  cases op with
  | issue session p =>
      simp only [applyInventory, recordCertificateIssuance, Checked.bind_eq_ok,
        Checked.require_eq_ok, exists_const] at succeeds
      rcases succeeds with ⟨_, succeeds⟩
      split at succeeds
      · simp only [Checked.bind_eq_ok, Checked.require_eq_ok, Checked.pure_eq_ok, exists_const,
          Prod.mk.injEq] at succeeds
        rcases succeeds with ⟨_, rfl, _⟩
        exact Or.inl member
      · simp only [Checked.bind_eq_ok, Checked.pure_eq_ok, Prod.mk.injEq] at succeeds
        rcases succeeds with ⟨inserted, hinsert, logged, hlog, rfl, _⟩
        rcases insertLifecycleEvent_member hlog member with old | rfl
        · rw [insertCertificate_events hinsert] at old
          exact Or.inl old
        · cases revoked
  | renew session p supersedes supersededEventId =>
      simp only [applyInventory, recordCertificateRenewal, Checked.bind_eq_ok,
        Checked.require_eq_ok, exists_const] at succeeds
      rcases succeeds with ⟨_, _, succeeds⟩
      split at succeeds
      · simp only [Checked.bind_eq_ok, Checked.require_eq_ok, Checked.pure_eq_ok, exists_const,
          Prod.mk.injEq] at succeeds
        rcases succeeds with ⟨_, rfl, _⟩
        exact Or.inl member
      · simp only [Checked.bind_eq_ok, Checked.require_eq_ok, Checked.requireSome_eq_ok,
          Checked.pure_eq_ok, exists_const, Prod.mk.injEq] at succeeds
        rcases succeeds with ⟨predecessor, _, _, inserted, hinsert, logged, hlog, changed, hchange,
          final, hfinal, rfl, _⟩
        rcases insertLifecycleEvent_member hfinal member with old | rfl
        · rw [updateState_events hchange] at old
          rcases insertLifecycleEvent_member hlog old with older | rfl
          · rw [insertCertificate_events hinsert] at older
            exact Or.inl older
          · cases revoked
        · cases revoked
  | revoke session p =>
      rcases recordCertificateRevocation_member succeeds member with old | added
      · exact Or.inl old
      · rcases added with ⟨target, present, tenant, rfl⟩
        refine Or.inr ⟨target, present, ?_, rfl⟩
        rw [Certificate.key, tenant]
        rfl
  | expire clock p =>
      simp only [applyInventory, recordDueCertificateExpiration, Checked.bind_eq_ok,
        Checked.requireSome_eq_ok] at succeeds
      rcases succeeds with ⟨target, _, succeeds⟩
      split at succeeds
      · simp only [Checked.bind_eq_ok, Checked.require_eq_ok, Checked.requireSome_eq_ok,
          Checked.pure_eq_ok, exists_const, Prod.mk.injEq] at succeeds
        rcases succeeds with ⟨_, _, _, rfl, _⟩
        exact Or.inl member
      · simp only [Checked.bind_eq_ok, Checked.require_eq_ok, Checked.pure_eq_ok, exists_const,
          Prod.mk.injEq] at succeeds
        rcases succeeds with ⟨_, changed, hchange, final, hfinal, rfl, _⟩
        rcases insertLifecycleEvent_member hfinal member with old | rfl
        · rw [updateState_events hchange] at old
          exact Or.inl old
        · cases revoked

theorem Inventory.Attributed.apply {op : InventoryOp} {before after : Inventory}
    {reply : RecordedCertificate} (attributed : before.Attributed)
    (succeeds : applyInventory op before = .ok (after, reply)) : after.Attributed := by
  intro event member revoked
  have source : ∃ certificate ∈ before.certificates, certificate.key = event.owner ∧
      certificate.subjectId = event.subjectId := by
    rcases applyInventory_revocation succeeds member revoked with old | added
    · exact attributed event old revoked
    · exact added
  rcases source with ⟨certificate, present, owner, subject⟩
  rcases (applyInventory_extends succeeds).persists certificate present with
    ⟨next, kept, continues⟩
  exact ⟨next, kept, continues.key.trans owner,
    (congrArg CertificateIdentity.subjectId continues.identity).trans subject⟩

theorem Inventory.Attributed.run {inventory : Inventory} (attributed : inventory.Attributed)
    (ops : List InventoryOp) : (Transaction.run applyInventory inventory ops).Attributed :=
  Transaction.run_preserves (fun _ _ _ _ attributed succeeds =>
    Attributed.apply attributed succeeds)
    inventory ops attributed

theorem Inventory.empty_attributed : Inventory.empty.Attributed :=
  fun event member => absurd member (Table.not_mem_empty event)

end Attribution

/-- The revocation that a request asks for stands in the inventory. -/
structure Inventory.Holds (inventory : Inventory) (context : ResolvedContext)
    (request : RevokeRequest) (event : LifecycleEvent) (row : Certificate) : Prop where
  known : inventory.revocationEvent? context.tenantId request.idempotencyKey = some event
  certificate : inventory.certificate? context.tenantId request.certificateId = some row
  revoked : row.state = .revoked
  certificateId : event.certificateId = request.certificateId
  requestId : event.requestId = request.requestId
  reasonCode : event.reasonCode = some request.reasonCode.text
  actor : event.actorSubjectId = some context.subjectId
  confirmation : isConfirmationId (event.issuerConfirmationId.getD "") = true

section Holding

variable {inventory : Inventory} {context : ResolvedContext} {request : RevokeRequest}
  {event : LifecycleEvent} {row : Certificate}

theorem Inventory.Holds.facts (holds : inventory.Holds context request event row) :
    event ∈ inventory.events ∧ event.tenantId = context.tenantId ∧
      event.idempotencyKey = request.idempotencyKey ∧ event.eventType = .revoked := by
  have member := List.mem_of_find?_eq_some holds.known
  have matching := List.find?_some holds.known
  simp only [Bool.and_eq_true, decide_eq_true_eq] at matching
  exact ⟨member, matching.1.1, matching.1.2, matching.2⟩

theorem Inventory.Holds.run (holds : inventory.Holds context request event row)
    (ops : List InventoryOp) : ∃ later,
      (Transaction.run applyInventory inventory ops).Holds context request event later ∧
        row.Continues later := by
  rcases (Inventory.keeps_of_found holds.certificate).run ops with ⟨later, found, continues⟩
  have named := (certificate?_mem holds.certificate).2
  have tenant : row.tenantId = context.tenantId := congrArg Prod.fst named
  have certificateId : row.certificateId = request.certificateId := congrArg Prod.snd named
  rw [tenant, certificateId] at found
  have revoked : later.state = .revoked :=
    (continues.terminal (by rw [holds.revoked]; decide)).trans holds.revoked
  exact ⟨later, ⟨revocationEvent?_run holds.known ops, found, revoked, holds.certificateId,
    holds.requestId, holds.reasonCode, holds.actor, holds.confirmation⟩, continues⟩

/-- The subject of the revocation is the subject of the certificate. -/
theorem Inventory.Holds.subject (holds : inventory.Holds context request event row)
    (attributed : inventory.Attributed) : event.subjectId = row.subjectId := by
  have facts := holds.facts
  rcases attributed event facts.1 facts.2.2.2 with ⟨certificate, present, owner, subject⟩
  have found := certificate?_mem holds.certificate
  have same : certificate = row := by
    apply inventory.certificates.unique present found.1
    rw [owner, found.2, LifecycleEvent.owner, facts.2.1, holds.certificateId]
  rw [← subject, same]

theorem RevocationReason.text_injective {left right : RevocationReason}
    (same : left.text = right.text) : left = right := by
  cases left <;> cases right <;> first | rfl | exact absurd same (by decide)

theorem recordCertificateRevocation_holds {session : Session} {p : RevocationRequest}
    {after : Inventory} {recorded : RecordedCertificate}
    (succeeds : recordCertificateRevocation session p inventory = .ok (after, recorded)) :
    ∃ event row, after.revocationEvent? session.tenantId p.idempotencyKey = some event ∧
      after.certificate? session.tenantId p.certificateId = some row ∧ row.state = .revoked ∧
      p.replays session event = true ∧ recorded.eventId = event.eventId := by
  have records := succeeds
  cases known : inventory.revocationEvent? session.tenantId p.idempotencyKey with
  | some existing =>
      have branch := known
      unfold Inventory.revocationEvent? at branch
      simp only [recordCertificateRevocation, branch, Checked.bind_eq_ok, Checked.require_eq_ok,
        Checked.requireSome_eq_ok, Checked.pure_eq_ok, exists_const, Prod.mk.injEq] at succeeds
      rcases succeeds with ⟨_, replays, row, found, state, rfl, rfl⟩
      have named : existing.certificateId = p.certificateId := by
        simp only [RevocationRequest.replays, Bool.and_eq_true, decide_eq_true_eq] at replays
        exact replays.1.1.1.1
      rw [named] at found
      exact ⟨existing, row, known, found, state.1, replays, rfl⟩
  | none =>
      have branch := known
      unfold Inventory.revocationEvent? at branch
      simp only [recordCertificateRevocation, branch, Checked.bind_eq_ok, Checked.require_eq_ok,
        Checked.requireSome_eq_ok, Checked.pure_eq_ok, exists_const, Prod.mk.injEq] at succeeds
      rcases succeeds with ⟨_, target, found, facts, _⟩
      rcases recordCertificateRevocation_leaves found facts.1 records with ⟨leaves, rfl⟩
      rcases leaves.certificate with ⟨row, lookup, _, state, _⟩
      have named : target.certificateId = p.certificateId :=
        congrArg Prod.snd (certificate?_mem found).2
      refine ⟨_, row, leaves.event, lookup, state, ?_, rfl⟩
      simp [RevocationRequest.replays, RevocationRequest.event, named]

/-- A request that a recorded revocation answers under its key is the request it was made for. -/
theorem recordCertificateRevocation_conflict {session : Session} {p : RevocationRequest}
    {result : Inventory × RecordedCertificate}
    (holds : inventory.Holds context request event row)
    (tenant : session.tenantId = context.tenantId)
    (key : p.idempotencyKey = request.idempotencyKey)
    (succeeds : recordCertificateRevocation session p inventory = .ok result) :
    p.requestId = request.requestId ∧ p.certificateId = request.certificateId ∧
      p.reasonCode = request.reasonCode := by
  have known := holds.known
  rw [← tenant, ← key] at known
  unfold Inventory.revocationEvent? at known
  simp only [recordCertificateRevocation, known, Checked.bind_eq_ok, Checked.require_eq_ok,
    exists_const] at succeeds
  rcases succeeds with ⟨_, replays, _⟩
  simp only [RevocationRequest.replays, Bool.and_eq_true, decide_eq_true_eq] at replays
  have reason := holds.reasonCode.symm.trans replays.1.1.2
  exact ⟨replays.1.1.1.2.symm.trans holds.requestId,
    replays.1.1.1.1.symm.trans holds.certificateId,
    RevocationReason.text_injective (Option.some.inj reason).symm⟩

end Holding

namespace RevocationCall

variable {call : RevocationCall} {loaded stored : Inventory}

theorem existing_some {existing : ExistingRevocation}
    (known : call.existing loaded = some existing) :
    ∃ event certificate,
      loaded.revocationEvent? call.context.tenantId call.request.idempotencyKey = some event ∧
      loaded.certificate? event.tenantId event.certificateId = some certificate ∧
      call.reading.shows certificate.tenantId certificate.subjectId = true ∧
      existing = event.existingRevocation certificate := by
  simp only [RevocationCall.existing, loadExistingRevocation, loadCertificate, bind,
    Option.bind_eq_some_iff, Option.filter_eq_some_iff, pure, Option.some.injEq] at known
  rcases known with ⟨event, ⟨found, _⟩, certificate, ⟨lookup, shown⟩, rfl⟩
  exact ⟨event, certificate, found, lookup, shown, rfl⟩

theorem prepare_ok {prepared : PreparedRevocation} (prepares : call.prepare loaded = .ok prepared) :
    loaded.certificate? call.context.tenantId call.request.certificateId = some prepared.target ∧
      call.reading.shows prepared.target.tenantId prepared.target.subjectId = true := by
  simp only [prepare, prepareNormalizedRevocation, validateTarget, Checked.bind_eq_ok,
    Checked.require_eq_ok, Checked.requireSome_eq_ok, Checked.pure_eq_ok, exists_const,
    loadCertificate, Option.filter_eq_some_iff] at prepares
  rcases prepares with ⟨target, ⟨_, ⟨found, shown⟩, _, _, rfl⟩, issuer, _, rfl⟩
  exact ⟨found, shown⟩

theorem left_attributed (attributed : stored.Attributed) :
    (call.left loaded stored).Attributed := by
  rcases left_cases call loaded stored with same | ⟨confirmation, recorded, records⟩
  · rwa [same]
  · exact attributed.apply records

/-- Whoever is answered finds the revocation in the inventory, and is shown its certificate. -/
theorem revoke_holds (bound : (CertificateCall.revoke call).Bound) (ops : List InventoryOp)
    {after : Inventory} {reply : RevocationReply}
    (succeeds : (call.revoke loaded (Transaction.run applyInventory loaded ops)).2 =
      .ok (after, reply)) :
    ∃ event row, after.Holds call.context call.request event row ∧
      reply.reply = ⟨call.request.certificateId, event.eventId⟩ ∧
      call.reading.shows row.tenantId row.subjectId = true := by
  have shown : ∀ old row : Certificate, old.Continues row →
      call.reading.shows old.tenantId old.subjectId = true →
        call.reading.shows row.tenantId row.subjectId = true := by
    intro old row continues shows
    rwa [congrArg CertificateIdentity.tenantId continues.identity,
      congrArg CertificateIdentity.subjectId continues.identity]
  cases known : call.existing loaded with
  | some existing =>
      rcases existing_some known with ⟨event, certificate, found, lookup, shows, rfl⟩
      simp only [revoke, known] at succeeds
      cases replay : validateReplay (event.existingRevocation certificate)
          call.normalizedRequest with
      | error reasonCode =>
          rw [replay] at succeeds
          cases succeeds
      | ok replayed =>
          rw [replay] at succeeds
          cases succeeds
          simp only [validateReplay, Checked.bind_eq_ok, Checked.require_eq_ok,
            Checked.pure_eq_ok, exists_const] at replay
          rcases replay with ⟨facts, rfl⟩
          rcases facts with ⟨tenant, certificateId, requestId, reason, actor, confirmation, state,
            _⟩
          have lookup' : loaded.certificate? call.context.tenantId call.request.certificateId =
              some certificate := by
            rw [← lookup]
            exact congrArg₂ loaded.certificate? tenant.symm certificateId.symm
          have holds : loaded.Holds call.context call.request event certificate :=
            ⟨found, lookup', state, certificateId, requestId, reason, actor, confirmation⟩
          rcases holds.run ops with ⟨later, kept, continues⟩
          exact ⟨event, later, kept, congrArg (CertificateReply.mk · event.eventId) certificateId,
            shown _ _ continues shows⟩
  | none =>
      cases prepares : call.prepare loaded with
      | error reasonCode =>
          simp only [revoke, known, prepares] at succeeds
          cases succeeds
      | ok prepared =>
          rcases prepare_ok prepares with ⟨found, shows⟩
          simp only [revoke, known, prepares, confirm, Checked.bind_eq_ok,
            Checked.mapError_eq_ok, Checked.require_eq_ok, Checked.requireSome_eq_ok,
            Checked.pure_eq_ok, exists_const, Prod.exists, Prod.mk.injEq] at succeeds
          rcases succeeds with ⟨answer, _, confirmation, valid, after', recorded, records,
            persisted, reads, same, rfl, rfl⟩
          rcases recordCertificateRevocation_holds records with
            ⟨event, row, event?, lookup, state, replays, eventId⟩
          rw [bound.2.1] at event? lookup
          simp only [RevocationRequest.replays, Bool.and_eq_true, decide_eq_true_eq] at replays
          have confirmed : isConfirmationId confirmation.issuerConfirmationId = true := by
            simp only [validateIssuerConfirmation, Checked.bind_eq_ok, Checked.require_eq_ok,
              Checked.requireSome_eq_ok, Checked.pure_eq_ok, exists_const] at valid
            rcases valid with ⟨value, _, facts, _, rfl⟩
            exact facts.2.2.2.2.2.2.2
          have holds : after'.Holds call.context call.request event row := by
            refine ⟨event?, lookup, state, replays.1.1.1.1, replays.1.1.1.2, replays.1.1.2, ?_, ?_⟩
            · rw [replays.1.2, bound.2.2]
            · rw [replays.2]
              exact confirmed
          have persistedId : persisted.eventId = recorded.eventId := by
            simp only [Inventory.persistedRevocation, bind, Option.bind_eq_some_iff, pure,
              Option.some.injEq] at reads
            rcases reads with ⟨_, _, _, _, rfl⟩
            rfl
          have target : prepared.target.certificateId = call.request.certificateId :=
            congrArg Prod.snd (certificate?_mem found).2
          have keeps : after'.Keeps prepared.target := by
            have applied : applyInventory
                (.revoke call.recording (call.parameters confirmation))
                (Transaction.run applyInventory loaded ops) = .ok (after', recorded) := records
            have kept := ((Inventory.keeps_of_found found).run ops).run
              [.revoke call.recording (call.parameters confirmation)]
            rwa [Transaction.run_cons, Transaction.commit_ok applied, Transaction.run_nil] at kept
          rcases keeps with ⟨next, lookupNext, continues⟩
          have same : row = next := by
            have tenant : prepared.target.tenantId = call.context.tenantId :=
              congrArg Prod.fst (certificate?_mem found).2
            rw [tenant, target] at lookupNext
            exact Option.some.inj (lookup.symm.trans lookupNext)
          refine ⟨event, row, holds, ?_, shown _ _ (same ▸ continues) shows⟩
          simp only [RevocationReply.reply, target, persistedId, eventId]

/-- The actor whose revocation stands is answered from the inventory. -/
theorem holds_replays {inventory : Inventory} {event : LifecycleEvent} {row : Certificate}
    (holds : inventory.Holds call.context call.request event row) (sound : inventory.Sound)
    (attributed : inventory.Attributed)
    (shows : call.reading.shows row.tenantId row.subjectId = true) (stored : Inventory) :
    call.revoke inventory stored =
      ([], .ok (stored, .replayed (event.existingRevocation row))) := by
  have facts := holds.facts
  have tenant : row.tenantId = call.context.tenantId :=
    congrArg Prod.fst (certificate?_mem holds.certificate).2
  have known : call.existing inventory = some (event.existingRevocation row) := by
    have shown : call.reading.shows call.context.tenantId event.subjectId = true := by
      rw [holds.subject attributed, ← tenant]
      exact shows
    have joins : loadCertificate call.reading call.context.tenantId event.certificateId inventory =
        some row := by
      simp only [loadCertificate, holds.certificateId, holds.certificate, Option.filter_some, shows,
        if_true]
    simp only [existing, loadExistingRevocation, holds.known, Option.filter_some, facts.2.1, shown,
      if_true, bind, Option.bind_some, joins]
    rfl
  have version : row.version = 2 := by
    have versioned := sound.versioned row (certificate?_mem holds.certificate).1
    rwa [holds.revoked, if_neg (by decide)] at versioned
  have valid : validateReplay (event.existingRevocation row) call.normalizedRequest =
      .ok (event.existingRevocation row) := by
    simp only [validateReplay, Checked.bind_eq_ok, Checked.require_eq_ok, Checked.pure_eq_ok,
      exists_const, and_true]
    exact ⟨facts.2.1, holds.certificateId, holds.requestId, holds.reasonCode, holds.actor,
      holds.confirmation, holds.revoked, by simp [LifecycleEvent.existingRevocation, version,
        isSafeInteger], by simp [LifecycleEvent.existingRevocation, version]⟩
  simp only [revoke, known, valid]
  rfl

/-- Under the key of a recorded revocation, a request that is answered is the same request. -/
theorem holds_conflict {context : ResolvedContext} {request : RevokeRequest}
    {event : LifecycleEvent} {row : Certificate} (holds : loaded.Holds context request event row)
    (ops : List InventoryOp) (bound : (CertificateCall.revoke call).Bound)
    (tenant : call.context.tenantId = context.tenantId)
    (key : call.request.idempotencyKey = request.idempotencyKey)
    {result : Inventory × RevocationReply}
    (succeeds : (call.revoke loaded (Transaction.run applyInventory loaded ops)).2 = .ok result) :
    call.request = request := by
  have equal : ∀ {requestId certificateId reasonCode}, call.request.requestId = requestId →
      call.request.certificateId = certificateId → call.request.reasonCode = reasonCode →
      request.requestId = requestId → request.certificateId = certificateId →
      request.reasonCode = reasonCode → call.request = request := by
    intro requestId certificateId reasonCode one two three four five six
    rcases call with ⟨_, ⟨_, _, _, _⟩, _, _, _, _, _, _, _, _⟩
    rcases request with ⟨_, _, _, _⟩
    simp_all
  cases known : call.existing loaded with
  | some existing =>
      rcases existing_some known with ⟨other, certificate, found, _, _, rfl⟩
      rw [tenant, key, holds.known, Option.some.injEq] at found
      subst found
      simp only [revoke, known] at succeeds
      cases replay : validateReplay (event.existingRevocation certificate)
          call.normalizedRequest with
      | error reasonCode =>
          rw [replay] at succeeds
          cases succeeds
      | ok replayed =>
          simp only [validateReplay, Checked.bind_eq_ok, Checked.require_eq_ok,
            Checked.pure_eq_ok, exists_const] at replay
          rcases replay with ⟨⟨_, certificateId, requestId, reason, _⟩, _⟩
          have reasons := reason.symm.trans holds.reasonCode
          exact equal requestId.symm certificateId.symm
            (RevocationReason.text_injective (Option.some.inj reasons)) holds.requestId.symm
            holds.certificateId.symm rfl
  | none =>
      cases prepares : call.prepare loaded with
      | error reasonCode =>
          simp only [revoke, known, prepares] at succeeds
          cases succeeds
      | ok prepared =>
          simp only [revoke, known, prepares, confirm, Checked.bind_eq_ok,
            Checked.mapError_eq_ok, Prod.exists] at succeeds
          rcases succeeds with ⟨_, _, confirmation, _, after, recorded, records, _⟩
          rcases holds.run ops with ⟨later, kept, _⟩
          have same :=
            recordCertificateRevocation_conflict kept (bound.2.1.trans tenant) key records
          exact equal same.1 same.2.1 same.2.2 rfl rfl rfl

end RevocationCall

theorem CertificateCall.perform_revoke_ok {platform : EnrollmentPlatform} {call : RevocationCall}
    {loaded stored after : Inventory} {reply : CertificateReply}
    (succeeds : ((CertificateCall.revoke call).perform platform loaded stored).result =
      .ok (after, reply)) :
    ∃ answer, (call.revoke loaded stored).2 = .ok (after, answer) ∧ answer.reply = reply := by
  simp only [CertificateCall.perform] at succeeds
  cases result : (call.revoke loaded stored).2 with
  | error failure =>
      rw [result] at succeeds
      cases succeeds
  | ok pair =>
      rw [result] at succeeds
      cases succeeds
      exact ⟨pair.2, rfl, rfl⟩

/-- A completed request is answered again without its authority, and its key refuses another
request, exactly if it is a revocation. -/
theorem retry_replays_iff (platform : EnrollmentPlatform)
    (earlier during between meanwhile later reading : List InventoryOp)
    (first retry reuse : CertificateCall) (bound : first.Bound) (repeats : first.Repeats retry)
    (reuses : first.Reuses reuse) (left : Inventory) (reply : CertificateReply)
    (completed : (first.perform platform (Transaction.run applyInventory .empty earlier)
      (Transaction.run applyInventory .empty (earlier ++ during))).result = .ok (left, reply)) :
    ((retry.perform platform (Transaction.run applyInventory left between)
        (Transaction.run applyInventory left (between ++ meanwhile))).Replays reply ∧
      (reuse.perform platform (Transaction.run applyInventory left later)
        (Transaction.run applyInventory left (later ++ reading))).Refuses) ↔
      first.isRevocation = true := by
  cases first with
  | issue first =>
      cases retry with
      | issue retry =>
          simp only [CertificateCall.isRevocation, Bool.false_eq_true, iff_false, not_and]
          intro replays
          exact absurd replays (EnrollmentCall.complete_not_replays platform retry _ _ reply)
      | renew retry => cases repeats
      | revoke retry => cases repeats
  | renew first =>
      cases retry with
      | issue retry => cases repeats
      | renew retry =>
          simp only [CertificateCall.isRevocation, Bool.false_eq_true, iff_false, not_and]
          intro replays
          exact absurd replays (EnrollmentCall.complete_not_replays platform retry _ _ reply)
      | revoke retry => cases repeats
  | revoke first =>
      cases retry with
      | issue retry => cases repeats
      | renew retry => cases repeats
      | revoke retry =>
          cases reuse with
          | issue reuse => cases reuses
          | renew reuse => cases reuses
          | revoke reuse =>
              simp only [CertificateCall.isRevocation, iff_true]
              rcases repeats with ⟨context, request, standing⟩
              rcases reuses with ⟨tenant, key, other, reusing⟩
              rcases CertificateCall.perform_revoke_ok completed with ⟨answer, answered, rfl⟩
              rw [Transaction.run_append] at answered
              rcases RevocationCall.revoke_holds bound during answered with
                ⟨event, row, holds, ids, shows⟩
              have reached : left.Sound ∧ left.Attributed := by
                have sound := Inventory.empty_sound.run (earlier ++ during)
                have attributed := Inventory.empty_attributed.run (earlier ++ during)
                rw [Transaction.run_append] at sound attributed
                rw [← RevocationCall.left_ok answered]
                exact ⟨RevocationCall.left_sound sound, RevocationCall.left_attributed attributed⟩
              constructor
              · rcases holds.run between with ⟨kept, holding, continues⟩
                rw [← context, ← request] at holding
                have shown : retry.reading.shows kept.tenantId kept.subjectId = true := by
                  rw [standing, congrArg CertificateIdentity.tenantId continues.identity,
                    congrArg CertificateIdentity.subjectId continues.identity]
                  exact shows
                have replay := RevocationCall.holds_replays holding (reached.1.run between)
                  (reached.2.run between) shown
                  (Transaction.run applyInventory left (between ++ meanwhile))
                simp only [ServiceOutcome.Replays, CertificateCall.perform, replay]
                refine ⟨rfl, _, congrArg (fun reply => Except.ok (_, reply)) ?_⟩
                rw [ids]
                simp only [RevocationReply.reply, LifecycleEvent.existingRevocation,
                  holds.certificateId]
              · rcases holds.run later with ⟨kept, holding, _⟩
                rw [ServiceOutcome.Refuses]
                cases result : ((CertificateCall.revoke reuse).perform platform
                    (Transaction.run applyInventory left later)
                    (Transaction.run applyInventory left (later ++ reading))).result with
                | error failure => exact ⟨failure, rfl⟩
                | ok pair =>
                    rcases CertificateCall.perform_revoke_ok result with ⟨accepted, same, _⟩
                    rw [Transaction.run_append] at same
                    exact absurd (RevocationCall.holds_conflict holding reading reusing tenant key
                      same) other

namespace RevocationScenario

/-- The reuse names another request. -/
def conflicting : RevocationCall :=
  { call (seconds 5) (seconds 6) 4 with request := ⟨⟨3⟩, ⟨1⟩, .keyCompromise, .requested 2⟩ }

theorem completes : ∃ left reply, ((CertificateCall.revoke (call (seconds 1) (seconds 3) 2)).perform
    EnrollmentScenario.platform
    (Transaction.run applyInventory .empty [.issue (sessionAt 0) issuance])
    (Transaction.run applyInventory .empty ([.issue (sessionAt 0) issuance] ++ []))).result =
      .ok (left, reply) := by
  have evaluated : (match ((call (seconds 1) (seconds 3) 2).revoke inventory inventory).2 with
    | .ok _ => true
    | .error _ => false) = true := by decide +kernel
  cases result : ((call (seconds 1) (seconds 3) 2).revoke inventory inventory).2 with
  | error failure =>
      rw [result] at evaluated
      cases evaluated
  | ok pair =>
      refine ⟨pair.1, pair.2.reply, ?_⟩
      have performed : ((CertificateCall.revoke (call (seconds 1) (seconds 3) 2)).perform
          EnrollmentScenario.platform inventory inventory).result =
            .ok (pair.1, pair.2.reply) := by
        simp only [CertificateCall.perform, result]
        rfl
      exact performed

end RevocationScenario

open RevocationScenario in
theorem retry_replays_revocation : ∃ left reply,
    ((CertificateCall.revoke (call (seconds 4) (seconds 5) 3)).perform EnrollmentScenario.platform
        (Transaction.run applyInventory left []) (Transaction.run applyInventory left [])).Replays
      reply ∧
    ((CertificateCall.revoke conflicting).perform EnrollmentScenario.platform
        (Transaction.run applyInventory left [])
        (Transaction.run applyInventory left [])).Refuses := by
  rcases completes with ⟨left, reply, completed⟩
  exact ⟨left, reply, (retry_replays_iff EnrollmentScenario.platform
    [.issue (sessionAt 0) issuance] [] [] [] [] [] (.revoke (call (seconds 1) (seconds 3) 2))
    (.revoke (call (seconds 4) (seconds 5) 3)) (.revoke conflicting) ⟨rfl, rfl, rfl⟩
    ⟨rfl, rfl, rfl⟩ ⟨rfl, rfl, by decide, rfl, rfl, rfl⟩ left reply completed).mpr rfl⟩

namespace EnrollmentScenario

def call : EnrollmentCall where
  context := context
  request := request
  target := some membership
  loaded := none
  issuer := some issuer
  signCertificate _ := .ok (some backdatedPem)
  clock := requestedAt
  session := session
  ids := ids
  supersededEventId := ⟨9⟩

theorem issues : ∃ left reply, (call.issue platform .empty).result = .ok (left, reply) := by
  have recorded : (match recordIssuedCertificate context session normalized
      (certificate backdatedPem 1759999940) ids .empty with
    | .ok _ => true
    | .error _ => false) = true := by decide +kernel
  cases result : recordIssuedCertificate context session normalized
      (certificate backdatedPem 1759999940) ids .empty with
  | error failure =>
      rw [result] at recorded
      cases recorded
  | ok pair =>
      refine ⟨pair.1, pair.2.reply, ?_⟩
      have verified : verifyIssuedCertificate platform ((some backdatedPem).getD "") prepared =
          .ok (certificate backdatedPem 1759999940) := enrolls.2.2
      simp only [EnrollmentCall.issue, call, enrolls.1, EnrollmentCall.complete,
        Checked.bind_eq_ok, Checked.mapError_eq_ok, Checked.pure_eq_ok, Prod.exists,
        Prod.mk.injEq]
      exact ⟨_, rfl, _, verified, pair.1, pair.2, result, rfl, rfl⟩

end EnrollmentScenario

open EnrollmentScenario in
/-- An issuance that was completed is signed again when its request is repeated. -/
theorem retry_signs_again :
    ¬ ∀ (platform : EnrollmentPlatform)
      (earlier during between meanwhile later reading : List InventoryOp)
      (first retry reuse : CertificateCall), first.Bound → first.Repeats retry →
      first.Reuses reuse → ∀ left reply,
      (first.perform platform (Transaction.run applyInventory .empty earlier)
        (Transaction.run applyInventory .empty (earlier ++ during))).result = .ok (left, reply) →
      (retry.perform platform (Transaction.run applyInventory left between)
          (Transaction.run applyInventory left (between ++ meanwhile))).Replays reply ∧
        (reuse.perform platform (Transaction.run applyInventory left later)
          (Transaction.run applyInventory left (later ++ reading))).Refuses := by
  intro claim
  rcases issues with ⟨left, reply, completed⟩
  have other : { request with requestId := ⟨7⟩ } ≠ request := by decide
  have replays := (claim platform [] [] [] [] [] [] (.issue call) (.issue call)
    (.issue { call with request := { request with requestId := ⟨7⟩ } }) trivial ⟨rfl, rfl⟩
    ⟨rfl, rfl, other⟩ left reply completed).1
  exact EnrollmentCall.complete_not_replays platform call _ _ reply replays

end TenantTrust.Identity
