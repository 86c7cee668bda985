import TenantTrust.Identity.CertificateSuccession
import TenantTrust.Identity.EventOutbox

/-! What holds of the certificates, their events and the outbox after any sequence of calls. -/

namespace TenantTrust.Identity

open Library

/-- The events met when causes are followed back from the last event of a certificate. -/
def Inventory.causesOf (inventory : Inventory) (certificate : Certificate) :
    List LifecycleEvent :=
  inventory.events.trail LifecycleEvent.causationEventId inventory.events.rows.length
    certificate.lastEventId

/-- The last event of a certificate is its newest one, and leads back over all of them. -/
structure Inventory.Traced (inventory : Inventory) (certificate : Certificate) : Prop where
  newest : ∃ newest, (inventory.eventsOf certificate).getLast? = some newest ∧
    newest.eventId = certificate.lastEventId ∧
    (inventory.causesOf certificate).head? = some newest ∧
    ∀ event ∈ inventory.eventsOf certificate, event.occurredAt ≤ newest.occurredAt
  covers : ∀ event ∈ inventory.eventsOf certificate, event ∈ inventory.causesOf certificate
  distinct : (inventory.causesOf certificate).Nodup
  rooted : ∃ root, (inventory.causesOf certificate).getLast? = some root ∧
    root.eventType = .issued

structure Inventory.Forest (inventory : Inventory) : Prop where
  acyclic : ∀ certificate, ¬ Relation.TransGen inventory.Supersedes certificate certificate
  linked : ∀ new ∈ inventory.certificates, new.supersedesCertificateId.isSome →
    ∃ old, inventory.Supersedes new old
  single : ∀ first second old, inventory.Supersedes first old → inventory.Supersedes second old →
    first = second
  exact : ∀ old ∈ inventory.certificates,
    old.state = .superseded ↔ ∃ new, inventory.Supersedes new old
  freshKey : ∀ new old, inventory.Supersedes new old → new.publicKeySha256 ≠ old.publicKeySha256

/-- The state of a certificate that both inventories hold is not the same in them. -/
def stateChanged (key : TenantId × CertificateId) (before after : Inventory) : Bool :=
  match before.certificates.get? key, after.certificates.get? key with
  | some old, some new => old.state ≠ new.state
  | _, _ => false

/-- The version of a certificate; a certificate starts with version one. -/
def versionAt (key : TenantId × CertificateId) (inventory : Inventory) : Nat :=
  ((inventory.certificates.get? key).map Certificate.version).getD 1

theorem Inventory.Succession.forest {inventory : Inventory}
    (succession : inventory.Succession Certificate.Superseded) : inventory.Forest where
  acyclic := by
    intro certificate cycle
    apply succession.grounded.acyclic certificate
    have links : inventory.Supersedes ≤ inventory.certificates.ParentOf Certificate.parentKey :=
      fun _ _ step => Inventory.supersedes_iff.mp step
    exact Relation.TransGen.mono links _ _ cycle
  linked := by
    intro new member isSome
    rcases Option.isSome_iff_exists.mp isSome with ⟨supersedes, names⟩
    have parent : new.parentKey = some (new.tenantId, supersedes) := by
      simp [Certificate.parentKey, names]
    rcases List.append_of_mem member with ⟨front, back, split⟩
    rcases succession.grounded front new back split _ parent with ⟨old, earlier, same⟩
    have present : old ∈ inventory.certificates := by
      rw [Table.mem_def, split]
      exact List.mem_append_left _ earlier
    exact ⟨old, Inventory.supersedes_iff.mpr ⟨member, present, by rw [parent, same]⟩⟩
  single := succession.single
  exact := succession.exact
  freshKey := succession.freshKey

theorem Inventory.History.traced {inventory : Inventory} (history : inventory.History)
    (shaped : ∀ event ∈ inventory.events, event.Shaped) {certificate : Certificate}
    (member : certificate ∈ inventory.certificates) : inventory.Traced certificate := by
  have follow : ∀ newest ∈ inventory.events, certificate.lastEventId = newest.eventId →
      Table.Complete LifecycleEvent.key LifecycleEvent.causationEventId newest
        (inventory.causesOf certificate) := by
    intro newest present same
    rw [Inventory.causesOf, same]
    exact history.grounded.trail_length present
  have issued : ∀ {newest : LifecycleEvent}, Table.Complete LifecycleEvent.key
      LifecycleEvent.causationEventId newest (inventory.causesOf certificate) →
      ∃ root, (inventory.causesOf certificate).getLast? = some root ∧
        root.eventType = .issued := by
    intro newest complete
    rcases complete.ends with ⟨root, last, noCause⟩
    have present : root ∈ inventory.events :=
      Table.trail_subset (List.mem_of_getLast? last)
    exact ⟨root, last, (shaped root present).cause.mp noCause⟩
  by_cases active : certificate.state = .active
  · rcases history.opened certificate member active with ⟨first, opened, _⟩
    have complete := follow first opened.mem opened.lastEvent
    have listed := opened.events
    refine ⟨⟨first, ?_, opened.lastEvent.symm, complete.starts, ?_⟩, ?_, complete.distinct,
      issued complete⟩
    · rw [listed]
      rfl
    · intro event present
      rw [listed, List.mem_singleton] at present
      rw [present]
    · intro event present
      rw [listed, List.mem_singleton] at present
      rw [present]
      exact List.mem_of_mem_head? complete.starts
  · rcases history.closed certificate member active with ⟨first, last, closed⟩
    have complete := follow last closed.mem.2 closed.lastEvent
    have starts : last ∈ inventory.causesOf certificate := List.mem_of_mem_head? complete.starts
    have identify : ∀ event ∈ inventory.causesOf certificate, event.eventId = first.eventId →
        first ∈ inventory.causesOf certificate := by
      intro event present same
      have known := Table.trail_subset present
      rwa [← inventory.events.unique known closed.mem.1 same]
    have reached : first ∈ inventory.causesOf certificate := by
      rcases closed.leads with direct | ⟨via, known, first_, second⟩
      · rcases complete.closed last starts _ direct with ⟨event, present, same⟩
        exact identify event present same
      · rcases complete.closed last starts _ first_ with ⟨middle, present, same⟩
        rw [inventory.events.unique (Table.trail_subset present) known same] at present
        rcases complete.closed via present _ second with ⟨event, present, same⟩
        exact identify event present same
    have listed := closed.events
    refine ⟨⟨last, ?_, closed.lastEvent.symm, complete.starts, ?_⟩, ?_, complete.distinct,
      issued complete⟩
    · rw [listed]
      rfl
    · intro event present
      rw [listed] at present
      rcases List.mem_cons.mp present with rfl | second
      · exact closed.later
      · rw [List.mem_singleton.mp second]
    · intro event present
      rw [listed] at present
      rcases List.mem_cons.mp present with rfl | second
      · exact reached
      · rw [List.mem_singleton.mp second]
        exact starts

/-- A step raises the version of a certificate by one exactly when it changes its state. -/
theorem Inventory.Step.version {before after : Inventory} (step : before.Step after)
    (key : TenantId × CertificateId) :
    versionAt key after =
      versionAt key before + if stateChanged key before after then 1 else 0 := by
  have moved : ∀ {target : Certificate} {event : LifecycleEvent} (clock : Timestamp),
      before.certificates.get? target.key = some target → target.state = .active →
      event.eventType.state ≠ .active → after.certificates.get? target.key =
        some (event.endsRow target clock target) →
      versionAt target.key after = versionAt target.key before +
        if stateChanged target.key before after then 1 else 0 := by
    intro target event clock was active final now
    have self := event.endsRow_self target clock
    have changed : target.state ≠ (event.endsRow target clock target).state := by
      rw [self.1, active]
      exact Ne.symm final
    simp [versionAt, stateChanged, was, now, changed, self.2.2]
  have kept : after.certificates.get? key = before.certificates.get? key →
      versionAt key after = versionAt key before +
        if stateChanged key before after then 1 else 0 := by
    intro same
    cases found : before.certificates.get? key <;>
      simp [versionAt, stateChanged, same, found]
  cases step with
  | @issued row event certificates events first opened type cause inserted logged =>
      have found := Table.get?_insertNew inserted key
      by_cases same : row.key = key
      · have absent : before.certificates.get? key = none := by
          rw [Table.get?_eq_none, ← same]
          exact Table.insertNew_fresh inserted
        rw [if_pos same] at found
        simp [versionAt, stateChanged, found, absent, opened.version]
      · rw [if_neg same] at found
        exact kept found
  | @ended target event clock events present ended type cause checks logged =>
      have found := Table.get?_update before.certificates (event.endsRow target clock)
        (event.endsRow_key target clock) key
      have was := Table.get?_of_mem present
      by_cases same : target.key = key
      · rw [← same] at found ⊢
        rw [was] at found
        have final : event.eventType.state ≠ .active := by
          rcases type with revoked | expired
          · simp [revoked, LifecycleEventType.state]
          · simp [expired, LifecycleEventType.state]
        exact moved clock was ended.active final found
      · apply kept
        rw [found]
        cases old : before.certificates.get? key with
        | none => rfl
        | some row =>
            have different : row.key ≠ target.key := by
              rw [Table.get?_key old]
              exact Ne.symm same
            rw [Option.map_some, event.endsRow_other target clock different]
  | @renewed predecessor row event closing clock certificates logged events present names tenant
      freshKey opened type cause ended closes after shared checks inserted first second =>
      have found := Table.get?_update certificates (closing.endsRow predecessor clock)
        (closing.endsRow_key predecessor clock) key
      rw [Table.get?_insertNew inserted] at found
      have was := Table.get?_of_mem present
      have apart : predecessor.key ≠ row.key := Table.insertNew_fresh inserted predecessor present
      by_cases new : row.key = key
      · have absent : before.certificates.get? key = none := by
          rw [Table.get?_eq_none, ← new]
          exact Table.insertNew_fresh inserted
        rw [if_pos new, Option.map_some,
          closing.endsRow_other predecessor clock (Ne.symm apart)] at found
        simp [versionAt, stateChanged, found, absent, opened.version]
      · rw [if_neg new] at found
        by_cases same : predecessor.key = key
        · rw [← same] at found ⊢
          rw [was] at found
          exact moved clock was ended.active (by simp [closes, LifecycleEventType.state]) found
        · apply kept
          rw [found]
          cases old : before.certificates.get? key with
          | none => rfl
          | some row =>
              have different : row.key ≠ predecessor.key := by
                rw [Table.get?_key old]
                exact Ne.symm same
              rw [Option.map_some, closing.endsRow_other predecessor clock different]

/-- What the certificate tables satisfy after every call. -/
structure Inventory.Consistent (inventory : Inventory) : Prop where
  history : inventory.History
  succession : inventory.Succession Certificate.Superseded
  shaped : ∀ event ∈ inventory.events, event.Shaped

theorem Inventory.empty_consistent : Inventory.empty.Consistent where
  history := Inventory.empty_history
  succession := Inventory.empty_succession
  shaped event member := absurd member (Table.not_mem_empty event)

theorem applyInventory_consistent {op : InventoryOp} {before after : Inventory}
    {reply : RecordedCertificate} (consistent : before.Consistent)
    (succeeds : applyInventory op before = .ok (after, reply)) : after.Consistent := by
  have shaped : ∀ event ∈ after.events, event.Shaped := by
    intro event member
    rcases (applyInventory_appends succeeds).origin event member with old | new
    · exact consistent.shaped event old
    · exact new
  rcases applyInventory_step succeeds with rfl | step
  · exact consistent
  · exact ⟨consistent.history.step step, consistent.succession.step step, shaped⟩

theorem applyInventory_run_consistent (ops : List InventoryOp) :
    (Transaction.run applyInventory .empty ops).Consistent := by
  refine Transaction.run_preserves ?_ Inventory.empty ops Inventory.empty_consistent
  intro before op after reply consistent succeeds
  exact applyInventory_consistent consistent succeeds

/-- What a run does to the certificate tables, a committed call after another. -/
theorem applyCertificates_inventory {op : InventoryOp} {before after : CertificateDatabase}
    {reply : RecordedCertificate}
    (succeeds : applyCertificates op before = .ok (after, reply)) :
    applyInventory op before.inventory = .ok (after.inventory, reply) := by
  simp only [applyCertificates, Checked.bind_eq_ok, Checked.pure_eq_ok, Prod.mk.injEq] at succeeds
  rcases succeeds with ⟨pair, answered, outbox, _, rfl, rfl⟩
  exact answered

def CertificateDatabase.stateChanged (key : TenantId × CertificateId)
    (before after : CertificateDatabase) : Bool :=
  Identity.stateChanged key before.inventory after.inventory

theorem applyCertificates_version (key : TenantId × CertificateId)
    (database : CertificateDatabase) (op : InventoryOp) :
    versionAt key (Transaction.commit applyCertificates database op).inventory =
      versionAt key database.inventory +
        if CertificateDatabase.stateChanged key database
            (Transaction.commit applyCertificates database op) then 1 else 0 := by
  have still : ∀ inventory, stateChanged key inventory inventory = false := by
    intro inventory
    cases found : inventory.certificates.get? key <;> simp [stateChanged, found]
  rcases Transaction.commit_cases applyCertificates database op with aborted | ⟨reply, succeeds⟩
  · rw [aborted, CertificateDatabase.stateChanged, still]
    rfl
  · rcases applyInventory_step (applyCertificates_inventory succeeds) with same | step
    · rw [CertificateDatabase.stateChanged, same, still]
      rfl
    · exact step.version key

/-- The lifecycle invariant of a database that a run has produced. -/
structure CertificateDatabase.Lifecycle (ops : List InventoryOp)
    (database : CertificateDatabase) : Prop where
  terminal : ∀ certificate ∈ database.inventory.certificates, certificate.state ≠ .active →
    ∀ more, ∃ later ∈ (Transaction.run applyCertificates database more).inventory.certificates,
      later.key = certificate.key ∧ later.state = certificate.state
  version : ∀ certificate ∈ database.inventory.certificates, certificate.version =
    1 + Transaction.countSteps applyCertificates
      (CertificateDatabase.stateChanged certificate.key) .empty ops
  traced : ∀ certificate ∈ database.inventory.certificates, database.inventory.Traced certificate
  forest : database.inventory.Forest
  outbox : ∀ event ∈ database.inventory.events, ∃ row ∈ database.outbox,
    row.tenantId = event.tenantId ∧ row.eventId = event.eventId ∧
      ∀ other ∈ database.outbox, other.eventId = event.eventId → other = row

/-- The database holds the certificate as it is or as it has become. -/
def CertificateDatabase.Carries (certificate : Certificate)
    (database : CertificateDatabase) : Prop :=
  ∃ later ∈ database.inventory.certificates, certificate.Continues later

theorem applyCertificates_run_continues (database : CertificateDatabase)
    (ops : List InventoryOp) {certificate : Certificate}
    (member : certificate ∈ database.inventory.certificates) :
    CertificateDatabase.Carries certificate (Transaction.run applyCertificates database ops) := by
  refine Transaction.run_preserves ?_ database ops ⟨certificate, member, .refl certificate⟩
  intro before op after reply holds succeeds
  rcases holds with ⟨old, present, continues⟩
  rcases (applyInventory_extends (applyCertificates_inventory succeeds)).persists old present with
    ⟨new, kept, next⟩
  exact ⟨new, kept, continues.trans next⟩

theorem EventsEnqueued.single {outbox : EventOutbox} {events : List LifecycleEvent}
    (matched : EventsEnqueued outbox events)
    (distinct : (events.map LifecycleEvent.eventId).Nodup) {left right : CertificateEventOutbox}
    (first : left ∈ outbox) (second : right ∈ outbox) (same : left.eventId = right.eventId) :
    left = right := by
  have recorded : ∀ row ∈ outbox, ∃ event ∈ events, event.outboxRow.key = row.key := by
    intro row member
    have listed : row.key ∈ outbox.rows.map CertificateEventOutbox.key :=
      List.mem_map_of_mem member
    rw [matched] at listed
    exact List.mem_map.mp listed
  rcases recorded left first with ⟨one, oneMember, oneKey⟩
  rcases recorded right second with ⟨two, twoMember, twoKey⟩
  have equal : one = two := by
    apply List.inj_on_of_nodup_map distinct oneMember twoMember
    calc one.eventId
      _ = left.eventId := congrArg Prod.snd oneKey
      _ = right.eventId := same
      _ = two.eventId := (congrArg Prod.snd twoKey).symm
  apply outbox.unique first second
  rw [← oneKey, ← twoKey, equal]

theorem applyCertificates_lifecycle (ops : List InventoryOp) :
    (Transaction.run applyCertificates .empty ops).Lifecycle ops := by
  have agreed := applyCertificates_run ops
  have consistent : (Transaction.run applyCertificates .empty ops).inventory.Consistent := by
    rw [agreed.1]
    exact applyInventory_run_consistent ops
  constructor
  · intro certificate member ended more
    rcases applyCertificates_run_continues _ more member with ⟨later, present, continues⟩
    exact ⟨later, present, continues.key, continues.terminal ended⟩
  · intro certificate member
    have counted := Transaction.run_count
      (fun database : CertificateDatabase => versionAt certificate.key database.inventory)
      (CertificateDatabase.stateChanged certificate.key)
      (applyCertificates_version certificate.key) .empty ops
    have now : versionAt certificate.key
        (Transaction.run applyCertificates .empty ops).inventory = certificate.version := by
      rw [versionAt, Table.get?_of_mem member]
      rfl
    have start : versionAt certificate.key CertificateDatabase.empty.inventory = 1 := rfl
    rw [now, start] at counted
    exact counted
  · intro certificate member
    exact consistent.history.traced consistent.shaped member
  · exact consistent.succession.forest
  · intro event member
    rcases agreed.2.outbox member with ⟨row, present, same⟩
    have own := Prod.mk.inj same
    refine ⟨row, present, own.1, own.2, ?_⟩
    intro other second equal
    exact agreed.2.single (Table.distinct _) second present (equal.trans own.2.symm)

end TenantTrust.Identity
