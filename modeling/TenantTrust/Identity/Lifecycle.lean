import TenantTrust.Identity.Certificates
import TenantTrust.Library.Transaction
import Mathlib.Logic.Relation

/-! What any sequence of inventory writes can do to the recorded certificates. -/

namespace TenantTrust.Identity

open Library

inductive InventoryOp where
  | issue (session : Session) (p : CertificateRequest)
  | renew (session : Session) (p : CertificateRequest) (supersedes : CertificateId)
      (supersededEventId : EventId)
  | revoke (session : Session) (p : RevocationRequest)
  | expire (clock : Timestamp) (p : ExpirationRequest)

def applyInventory : Transaction Inventory InventoryOp RecordedCertificate SqlError
  | .issue session p => recordCertificateIssuance session p
  | .renew session p supersedes supersededEventId =>
      recordCertificateRenewal session p supersedes supersededEventId
  | .revoke session p => recordCertificateRevocation session p
  | .expire clock p => recordDueCertificateExpiration clock p

/-- The same certificate at a later time: its identity is frozen and a terminal state stays. -/
structure Certificate.Continues (old new : Certificate) : Prop where
  identity : new.toCertificateIdentity = old.toCertificateIdentity
  terminal : old.state ≠ .active → new.state = old.state

theorem Certificate.Continues.refl (certificate : Certificate) :
    certificate.Continues certificate := ⟨rfl, fun _ => rfl⟩

theorem Certificate.Continues.trans {first second third : Certificate}
    (earlier : first.Continues second) (later : second.Continues third) :
    first.Continues third where
  identity := later.identity.trans earlier.identity
  terminal := by
    intro ended
    have kept := earlier.terminal ended
    rw [later.terminal (by rwa [kept]), kept]

theorem Certificate.Continues.key {old new : Certificate} (continues : old.Continues new) :
    new.key = old.key := by
  simp only [Certificate.key, continues.identity]

/-- A row that a renewal inserts names an active predecessor of the same subject, which the
same call supersedes. -/
structure Certificate.Succeeds (new : Certificate) (supersedes : CertificateId)
    (before after : Inventory) : Prop where
  predecessor : ∃ old ∈ before.certificates, old.key = (new.tenantId, supersedes) ∧
    old.subjectId = new.subjectId ∧ old.state = .active
  superseded : ∃ old ∈ after.certificates, old.key = (new.tenantId, supersedes) ∧
    old.state = .superseded

/-- Every row persists, and every row that was not there before is a fresh active one. -/
structure Inventory.Extends (before after : Inventory) : Prop where
  persists : ∀ old ∈ before.certificates, ∃ new ∈ after.certificates, old.Continues new
  origin : ∀ new ∈ after.certificates,
    (∃ old ∈ before.certificates, old.Continues new) ∨
      (new.state = .active ∧ (∀ old ∈ before.certificates, old.certificateId ≠ new.certificateId) ∧
        ∀ supersedes, new.supersedesCertificateId = some supersedes →
          new.Succeeds supersedes before after)

theorem Inventory.Extends.refl (inventory : Inventory) : inventory.Extends inventory where
  persists old member := ⟨old, member, .refl old⟩
  origin new member := Or.inl ⟨new, member, .refl new⟩

theorem insertLifecycleEvent_certificates {row : LifecycleEvent} {before after : Inventory}
    (succeeds : insertLifecycleEvent row before = .ok after) :
    after.certificates = before.certificates := by
  simp only [insertLifecycleEvent, Checked.bind_eq_ok, Checked.require_eq_ok,
    Checked.requireSome_eq_ok, Checked.pure_eq_ok, exists_const] at succeeds
  rcases succeeds with ⟨_, _, events, _, rfl⟩
  rfl

theorem insertCertificate_mem {row : Certificate} {before after : Inventory}
    (succeeds : insertCertificate row before = .ok after) (certificate : Certificate) :
    certificate ∈ after.certificates ↔ certificate ∈ before.certificates ∨ certificate = row := by
  simp only [insertCertificate, Checked.bind_eq_ok, Checked.require_eq_ok,
    Checked.requireSome_eq_ok, Checked.pure_eq_ok, exists_const] at succeeds
  rcases succeeds with ⟨_, _, certificates, inserted, rfl⟩
  exact Table.mem_insertNew inserted certificate

theorem insertCertificate_fresh {row : Certificate} {before after : Inventory}
    (succeeds : insertCertificate row before = .ok after) :
    ∀ old ∈ before.certificates, old.certificateId ≠ row.certificateId := by
  simp only [insertCertificate, Checked.bind_eq_ok, Checked.require_eq_ok,
    Checked.requireSome_eq_ok, Checked.pure_eq_ok, exists_const] at succeeds
  rcases succeeds with ⟨_, free, _⟩
  intro old member same
  have conflict := free old member
  simp [certificateConflict, same] at conflict

theorem updateState_mem {target : Certificate} {state : CertificateState}
    {changedAt clock : Timestamp} {eventId : EventId} {before after : Inventory}
    (succeeds : updateState target state changedAt eventId clock before = .ok after)
    (certificate : Certificate) :
    certificate ∈ after.certificates ↔
      ∃ old ∈ before.certificates, changeState target state changedAt eventId clock old =
        certificate := by
  simp only [updateState, Checked.bind_eq_ok, Checked.require_eq_ok, 
    Checked.pure_eq_ok, exists_const] at succeeds
  rcases succeeds with ⟨_, _, rfl⟩
  exact Table.mem_update before.certificates _
    (changeState_key target state changedAt eventId clock) certificate

theorem changeState_continues {target : Certificate} {state : CertificateState}
    {changedAt clock : Timestamp} {eventId : EventId} {inventory : Inventory}
    (present : target ∈ inventory.certificates) (active : target.state = .active)
    (old : Certificate) (member : old ∈ inventory.certificates) :
    old.Continues (changeState target state changedAt eventId clock old) where
  identity := changeState_identity target state changedAt eventId clock old
  terminal := by
    intro ended
    have different : old.key ≠ target.key := by
      intro same
      rw [inventory.certificates.unique member present same] at ended
      exact ended active
    simp [changeState, different]

/-- One transition of an active certificate extends the inventory. -/
theorem updateState_extends {target : Certificate} {state : CertificateState}
    {changedAt clock : Timestamp} {eventId : EventId} {before after : Inventory}
    (succeeds : updateState target state changedAt eventId clock before = .ok after)
    (present : target ∈ before.certificates) (active : target.state = .active) :
    before.Extends after where
  persists := by
    intro old member
    exact ⟨_, (updateState_mem succeeds _).mpr ⟨old, member, rfl⟩,
      changeState_continues present active old member⟩
  origin := by
    intro new member
    rcases (updateState_mem succeeds new).mp member with ⟨old, oldMember, rfl⟩
    exact Or.inl ⟨old, oldMember, changeState_continues present active old oldMember⟩

theorem certificate?_mem {inventory : Inventory} {tenantId : TenantId}
    {certificateId : CertificateId} {certificate : Certificate}
    (found : inventory.certificate? tenantId certificateId = some certificate) :
    certificate ∈ inventory.certificates ∧ certificate.key = (tenantId, certificateId) :=
  (Table.get?_eq_some _ _ _).mp found

theorem recordCertificateIssuance_extends {session : Session} {p : CertificateRequest}
    {before after : Inventory} {reply : RecordedCertificate}
    (succeeds : recordCertificateIssuance session p before = .ok (after, reply)) :
    before.Extends after := by
  simp only [recordCertificateIssuance, Checked.bind_eq_ok, Checked.require_eq_ok,
    exists_const] at succeeds
  rcases succeeds with ⟨_, succeeds⟩
  split at succeeds
  · simp only [Checked.bind_eq_ok, Checked.require_eq_ok, 
      Checked.pure_eq_ok, exists_const, Prod.mk.injEq] at succeeds
    rcases succeeds with ⟨_, rfl, _⟩
    exact .refl before
  · simp only [Checked.bind_eq_ok, 
      Checked.pure_eq_ok, Prod.mk.injEq] at succeeds
    rcases succeeds with ⟨inserted, hinsert, logged, hlog, rfl, _⟩
    have same := insertLifecycleEvent_certificates hlog
    constructor
    · intro old member
      refine ⟨old, ?_, .refl old⟩
      rw [same]
      exact (insertCertificate_mem hinsert old).mpr (Or.inl member)
    · intro new member
      rw [same] at member
      rcases (insertCertificate_mem hinsert new).mp member with kept | rfl
      · exact Or.inl ⟨new, kept, .refl new⟩
      · refine Or.inr ⟨rfl, insertCertificate_fresh hinsert, ?_⟩
        intro supersedes names
        simp [CertificateRequest.row] at names

theorem renewable_active {p : CertificateRequest} {predecessor : Certificate}
    (eligible : renewable p predecessor = true) :
    predecessor.state = .active ∧ predecessor.subjectId = p.subjectId := by
  simp only [renewable, Bool.and_eq_true, decide_eq_true_eq] at eligible
  rcases eligible with ⟨⟨⟨⟨⟨⟨⟨subject, _⟩, active⟩, _⟩, _⟩, _⟩, _⟩, _⟩
  exact ⟨active, subject⟩

/-- What a recorded renewal did: the request was eligible, its row is new, and nothing but
its predecessor changed state. -/
theorem recordCertificateRenewal_cases {session : Session} {p : CertificateRequest}
    {supersedes : CertificateId} {supersededEventId : EventId} {before after : Inventory}
    {reply : RecordedCertificate}
    (succeeds : recordCertificateRenewal session p supersedes supersededEventId before =
      .ok (after, reply)) :
    after = before ∨ ∃ predecessor ∈ before.certificates,
      predecessor.key = (session.tenantId, supersedes) ∧ renewable p predecessor ∧
      (∀ old ∈ before.certificates, old.certificateId ≠ p.certificateId) ∧
      ∀ certificate, certificate ∈ after.certificates ↔
        ∃ old, (old ∈ before.certificates ∨ old = p.row session (some supersedes)) ∧
          changeState predecessor .superseded p.issuedAt supersededEventId session.clock old =
            certificate := by
  simp only [recordCertificateRenewal, Checked.bind_eq_ok, Checked.require_eq_ok,
    exists_const] at succeeds
  rcases succeeds with ⟨_, _, succeeds⟩
  split at succeeds
  · simp only [Checked.bind_eq_ok, Checked.require_eq_ok, 
      Checked.pure_eq_ok, exists_const, Prod.mk.injEq] at succeeds
    rcases succeeds with ⟨_, rfl, _⟩
    exact Or.inl rfl
  · simp only [Checked.bind_eq_ok, Checked.require_eq_ok, Checked.requireSome_eq_ok,
      Checked.pure_eq_ok, exists_const, Prod.mk.injEq] at succeeds
    rcases succeeds with ⟨predecessor, found, eligible, inserted, hinsert, logged, hlog,
      changed, hchange, final, hfinal, rfl, _⟩
    rcases certificate?_mem found with ⟨present, named⟩
    refine Or.inr ⟨predecessor, present, named, eligible, insertCertificate_fresh hinsert, ?_⟩
    intro certificate
    rw [insertLifecycleEvent_certificates hfinal, updateState_mem hchange,
      insertLifecycleEvent_certificates hlog]
    constructor
    · intro changedRow
      rcases changedRow with ⟨old, member, same⟩
      exact ⟨old, (insertCertificate_mem hinsert old).mp member, same⟩
    · intro changedRow
      rcases changedRow with ⟨old, member, same⟩
      exact ⟨old, (insertCertificate_mem hinsert old).mpr member, same⟩

theorem recordCertificateRenewal_extends {session : Session} {p : CertificateRequest}
    {supersedes : CertificateId} {supersededEventId : EventId} {before after : Inventory}
    {reply : RecordedCertificate}
    (succeeds : recordCertificateRenewal session p supersedes supersededEventId before =
      .ok (after, reply)) : before.Extends after := by
  rcases recordCertificateRenewal_cases succeeds with rfl | renewed
  · exact .refl _
  · rcases renewed with ⟨predecessor, present, named, eligible, fresh, rows⟩
    rcases renewable_active eligible with ⟨active, subject⟩
    have continues : ∀ old ∈ before.certificates, old.Continues (changeState predecessor
        .superseded p.issuedAt supersededEventId session.clock old) :=
      changeState_continues present active
    have newKey : (p.row session (some supersedes)).key ≠ predecessor.key := by
      intro same
      exact fresh predecessor present (congrArg Prod.snd same).symm
    constructor
    · intro old member
      exact ⟨_, (rows _).mpr ⟨old, Or.inl member, rfl⟩, continues old member⟩
    · intro new member
      rcases (rows new).mp member with ⟨old, oldMember | rfl, rfl⟩
      · exact Or.inl ⟨old, oldMember, continues old oldMember⟩
      · right
        rw [changeState, if_neg newKey]
        refine ⟨rfl, fresh, ?_⟩
        intro named' names
        have same : supersedes = named' := Option.some.inj names
        subst same
        refine ⟨⟨predecessor, present, named, subject, active⟩, ?_⟩
        refine ⟨_, (rows _).mpr ⟨predecessor, Or.inl present, rfl⟩, ?_, ?_⟩
        · rw [changeState_key, named]
          rfl
        · simp [changeState]

theorem recordCertificateRevocation_cases {session : Session} {p : RevocationRequest}
    {before after : Inventory} {reply : RecordedCertificate}
    (succeeds : recordCertificateRevocation session p before = .ok (after, reply)) :
    after = before ∨ ∃ target ∈ before.certificates, target.state = .active ∧
      target.key = (session.tenantId, p.certificateId) ∧
      ∃ changed, updateState target .revoked p.revokedAt p.eventId session.clock before =
        .ok changed ∧ after.certificates = changed.certificates := by
  simp only [recordCertificateRevocation, Checked.bind_eq_ok, Checked.require_eq_ok,
    exists_const] at succeeds
  rcases succeeds with ⟨_, succeeds⟩
  split at succeeds
  · simp only [Checked.bind_eq_ok, Checked.require_eq_ok, Checked.requireSome_eq_ok,
      Checked.pure_eq_ok, exists_const, Prod.mk.injEq] at succeeds
    rcases succeeds with ⟨_, _, _, _, rfl, _⟩
    exact Or.inl rfl
  · simp only [Checked.bind_eq_ok, Checked.require_eq_ok, Checked.requireSome_eq_ok,
      Checked.pure_eq_ok, exists_const, Prod.mk.injEq] at succeeds
    rcases succeeds with ⟨target, found, legal, changed, hchange, final, hfinal, rfl, _⟩
    rcases certificate?_mem found with ⟨present, named⟩
    exact Or.inr ⟨target, present, legal.1, named, changed, hchange,
      insertLifecycleEvent_certificates hfinal⟩

theorem recordDueCertificateExpiration_cases {clock : Timestamp} {p : ExpirationRequest}
    {before after : Inventory} {reply : RecordedCertificate}
    (succeeds : recordDueCertificateExpiration clock p before = .ok (after, reply)) :
    after = before ∨ ∃ target ∈ before.certificates, target.state = .active ∧
      ∃ changed, updateState target .expired p.expiredAt p.eventId clock before = .ok changed ∧
        after.certificates = changed.certificates := by
  simp only [recordDueCertificateExpiration, Checked.bind_eq_ok, 
    Checked.requireSome_eq_ok] at succeeds
  rcases succeeds with ⟨target, found, succeeds⟩
  split at succeeds
  · simp only [Checked.bind_eq_ok, Checked.require_eq_ok, Checked.requireSome_eq_ok,
      Checked.pure_eq_ok, exists_const, Prod.mk.injEq] at succeeds
    rcases succeeds with ⟨_, _, _, rfl, _⟩
    exact Or.inl rfl
  · simp only [Checked.bind_eq_ok, Checked.require_eq_ok, 
      Checked.pure_eq_ok, exists_const, Prod.mk.injEq] at succeeds
    rcases succeeds with ⟨legal, changed, hchange, final, hfinal, rfl, _⟩
    rcases certificate?_mem found with ⟨present, _⟩
    exact Or.inr ⟨target, present, legal.1, changed, hchange,
      insertLifecycleEvent_certificates hfinal⟩

theorem Inventory.Extends.of_certificates {before changed after : Inventory}
    (extended : before.Extends changed) (same : after.certificates = changed.certificates) :
    before.Extends after where
  persists := by
    rw [same]
    exact extended.persists
  origin := by
    rw [same]
    intro new member
    rcases extended.origin new member with kept | ⟨active, fresh, succession⟩
    · exact Or.inl kept
    · refine Or.inr ⟨active, fresh, ?_⟩
      intro supersedes names
      have succeeds := succession supersedes names
      exact ⟨succeeds.predecessor, by rw [same]; exact succeeds.superseded⟩

theorem applyInventory_extends {op : InventoryOp} {before after : Inventory}
    {reply : RecordedCertificate} (succeeds : applyInventory op before = .ok (after, reply)) :
    before.Extends after := by
  cases op with
  | issue session p => exact recordCertificateIssuance_extends succeeds
  | renew session p supersedes supersededEventId =>
      exact recordCertificateRenewal_extends succeeds
  | revoke session p =>
      rcases recordCertificateRevocation_cases succeeds with rfl | revoked
      · exact .refl _
      · rcases revoked with ⟨target, present, active, _, changed, hchange, same⟩
        exact (updateState_extends hchange present active).of_certificates same
  | expire clock p =>
      rcases recordDueCertificateExpiration_cases succeeds with rfl | expired
      · exact .refl _
      · rcases expired with ⟨target, present, active, changed, hchange, same⟩
        exact (updateState_extends hchange present active).of_certificates same

/-- Every certificate that names a predecessor has superseded it. -/
def Inventory.Linked (inventory : Inventory) : Prop :=
  ∀ new ∈ inventory.certificates, ∀ supersedes, new.supersedesCertificateId = some supersedes →
    ∃ old ∈ inventory.certificates, old.key = (new.tenantId, supersedes) ∧
      old.state = .superseded

theorem Inventory.empty_linked : Inventory.empty.Linked := by
  intro new member
  exact absurd member (Table.not_mem_empty new)

theorem Inventory.Linked.extends {before after : Inventory} (linked : before.Linked)
    (extends_ : before.Extends after) : after.Linked := by
  intro new member supersedes names
  rcases extends_.origin new member with ⟨old, present, continues⟩ | ⟨_, _, succeeds⟩
  · have oldNames : old.supersedesCertificateId = some supersedes := by
      rw [← congrArg CertificateIdentity.supersedesCertificateId continues.identity, names]
    have tenant : new.tenantId = old.tenantId :=
      congrArg CertificateIdentity.tenantId continues.identity
    rcases linked old present supersedes oldNames with ⟨predecessor, kept, key, superseded⟩
    rcases extends_.persists predecessor kept with ⟨later, laterMember, laterContinues⟩
    refine ⟨later, laterMember, ?_, ?_⟩
    · rw [laterContinues.key, key, tenant]
    · rw [laterContinues.terminal (by simp [superseded]), superseded]
  · exact (succeeds supersedes names).superseded

/-- One step of a supersession chain inside a tenant. -/
def Inventory.Supersedes (inventory : Inventory) (new old : Certificate) : Prop :=
  new ∈ inventory.certificates ∧ old ∈ inventory.certificates ∧
    new.supersedesCertificateId = some old.certificateId ∧ new.tenantId = old.tenantId

/-- A chain leads back to superseded certificates only. -/
theorem Inventory.Linked.chain {inventory : Inventory} (linked : inventory.Linked)
    {new old : Certificate} (chain : Relation.TransGen inventory.Supersedes new old) :
    old.state = .superseded := by
  have last : ∃ middle, inventory.Supersedes middle old := by
    cases chain with
    | single step => exact ⟨_, step⟩
    | tail _ step => exact ⟨_, step⟩
  rcases last with ⟨middle, member, present, names, tenant⟩
  rcases linked middle member _ names with ⟨predecessor, kept, key, superseded⟩
  rw [← inventory.certificates.unique kept present (by rw [key, tenant]; rfl)]
  exact superseded

/-- A renewal is recorded, or repeated, for a predecessor that it has superseded. -/
theorem recordCertificateRenewal_superseded {session : Session} {p : CertificateRequest}
    {supersedes : CertificateId} {supersededEventId : EventId} {before after : Inventory}
    {reply : RecordedCertificate} (linked : before.Linked)
    (succeeds : recordCertificateRenewal session p supersedes supersededEventId before =
      .ok (after, reply)) :
    ∃ predecessor ∈ before.certificates, predecessor.key = (session.tenantId, supersedes) ∧
      (predecessor.state = .active ∨ predecessor.state = .superseded) := by
  simp only [recordCertificateRenewal, Checked.bind_eq_ok, Checked.require_eq_ok,
    exists_const] at succeeds
  rcases succeeds with ⟨_, _, succeeds⟩
  split at succeeds
  · rename_i existing found
    simp only [Checked.bind_eq_ok, Checked.require_eq_ok, exists_const] at succeeds
    have replays := succeeds.1
    simp only [CertificateRequest.replays, Bool.and_eq_true, decide_eq_true_eq] at replays
    have stored := List.find?_some found
    simp only [Bool.and_eq_true, decide_eq_true_eq] at stored
    rcases linked existing (List.mem_of_find?_eq_some found) supersedes replays.2 with
      ⟨predecessor, member, key, superseded⟩
    exact ⟨predecessor, member, by rw [key, stored.1], Or.inr superseded⟩
  · simp only [Checked.bind_eq_ok, Checked.require_eq_ok, Checked.requireSome_eq_ok,
      exists_const] at succeeds
    rcases succeeds with ⟨predecessor, found, eligible, _⟩
    rcases certificate?_mem found with ⟨member, key⟩
    exact ⟨predecessor, member, key, Or.inl (renewable_active eligible).1⟩

end TenantTrust.Identity
