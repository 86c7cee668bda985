import TenantTrust.Identity.InventorySteps
import TenantTrust.Library.Lineage

/-! The events of each certificate, in the order of the log, and what caused them. -/

namespace TenantTrust.Identity

open Library

/-- The events about one certificate, oldest first. -/
def Inventory.eventsOf (inventory : Inventory) (certificate : Certificate) :
    List LifecycleEvent :=
  inventory.events.rows.filter fun event => event.owner = certificate.key

/-- The cause of the event is the named one, or was itself caused by the named one. -/
def Inventory.Leads (inventory : Inventory) (event : LifecycleEvent) (origin : EventId) : Prop :=
  event.causationEventId = some origin ∨
    ∃ via ∈ inventory.events, event.causationEventId = some via.eventId ∧
      via.causationEventId = some origin

/-- An active certificate has the event that opened it and no other. -/
structure Inventory.Opened (inventory : Inventory) (certificate : Certificate)
    (first : LifecycleEvent) : Prop where
  events : inventory.eventsOf certificate = [first]
  lastEvent : certificate.lastEventId = first.eventId

/-- A certificate that is not active any more has a second event, which leads to the first. -/
structure Inventory.Closed (inventory : Inventory) (certificate : Certificate)
    (first last : LifecycleEvent) : Prop where
  events : inventory.eventsOf certificate = [first, last]
  lastEvent : certificate.lastEventId = last.eventId
  later : first.occurredAt ≤ last.occurredAt
  leads : inventory.Leads last first.eventId

structure Inventory.History (inventory : Inventory) : Prop where
  owned : ∀ event ∈ inventory.events, ∃ certificate ∈ inventory.certificates,
    certificate.key = event.owner
  opened : ∀ certificate ∈ inventory.certificates, certificate.state = .active →
    ∃ first, inventory.Opened certificate first ∧ first.occurredAt = certificate.issuedAt
  closed : ∀ certificate ∈ inventory.certificates, certificate.state ≠ .active →
    ∃ first last, inventory.Closed certificate first last
  grounded : inventory.events.Grounded LifecycleEvent.causationEventId

theorem Inventory.empty_history : Inventory.empty.History where
  owned event member := absurd member (Table.not_mem_empty event)
  opened certificate member := absurd member (Table.not_mem_empty certificate)
  closed certificate member := absurd member (Table.not_mem_empty certificate)
  grounded := Table.empty_grounded

theorem Inventory.mem_eventsOf {inventory : Inventory} {certificate : Certificate}
    {event : LifecycleEvent} :
    event ∈ inventory.eventsOf certificate ↔
      event ∈ inventory.events ∧ event.owner = certificate.key := by
  simp [Inventory.eventsOf, Table.mem_def]

/-- An event that is appended shows up in the history of its own certificate only. -/
theorem eventsOf_insertNew {before after : Inventory} {event : LifecycleEvent}
    (logged : before.events.insertNew event = some after.events) {old new : Certificate}
    (same : new.key = old.key) :
    after.eventsOf new = before.eventsOf old ++ if event.owner = old.key then [event] else [] := by
  simp only [Inventory.eventsOf, Table.insertNew_rows logged, List.filter_append, same]
  congr 1
  by_cases own : event.owner = old.key
  · simp [own]
  · simp [own]

theorem Inventory.Leads.appended {before after : Inventory} {event : LifecycleEvent}
    {origin : EventId} (leads : before.Leads event origin)
    (kept : ∀ old ∈ before.events, old ∈ after.events) : after.Leads event origin := by
  rcases leads with direct | ⟨via, member, first, second⟩
  · exact Or.inl direct
  · exact Or.inr ⟨via, kept via member, first, second⟩

section OneEvent

variable {before after : Inventory} {event : LifecycleEvent}

theorem Inventory.Opened.appended {old new : Certificate} {first : LifecycleEvent}
    (opened : before.Opened old first)
    (logged : before.events.insertNew event = some after.events) (other : event.owner ≠ old.key)
    (key : new.key = old.key)
    (last : new.lastEventId = old.lastEventId) : after.Opened new first where
  events := by rw [eventsOf_insertNew logged key, if_neg other, List.append_nil, opened.events]
  lastEvent := last.trans opened.lastEvent

theorem Inventory.Closed.appended {old new : Certificate} {first last : LifecycleEvent}
    (closed : before.Closed old first last)
    (logged : before.events.insertNew event = some after.events) (other : event.owner ≠ old.key)
    (key : new.key = old.key) (same : new.lastEventId = old.lastEventId) :
    after.Closed new first last where
  events := by rw [eventsOf_insertNew logged key, if_neg other, List.append_nil, closed.events]
  lastEvent := same.trans closed.lastEvent
  later := closed.later
  leads := closed.leads.appended fun old member =>
    (Table.mem_insertNew logged old).mpr (Or.inl member)

/-- The event that ends an active certificate becomes its second one. -/
theorem Inventory.Opened.ended {old new : Certificate} {first : LifecycleEvent}
    (opened : before.Opened old first)
    (logged : before.events.insertNew event = some after.events)
    (dated : first.occurredAt ≤ event.occurredAt)
    (own : event.owner = old.key) (key : new.key = old.key)
    (last : new.lastEventId = event.eventId)
    (leads : before.Leads event first.eventId) : after.Closed new first event where
  events := by rw [eventsOf_insertNew logged key, if_pos own, opened.events]; rfl
  lastEvent := last
  later := dated
  leads := leads.appended fun old member => (Table.mem_insertNew logged old).mpr (Or.inl member)

end OneEvent

theorem Inventory.Opened.mem {inventory : Inventory} {certificate : Certificate}
    {first : LifecycleEvent} (opened : inventory.Opened certificate first) :
    first ∈ inventory.events := by
  have listed : first ∈ inventory.eventsOf certificate := by
    rw [opened.events]
    exact List.mem_singleton_self first
  exact (Inventory.mem_eventsOf.mp listed).1

theorem Inventory.Closed.mem {inventory : Inventory} {certificate : Certificate}
    {first last : LifecycleEvent} (closed : inventory.Closed certificate first last) :
    first ∈ inventory.events ∧ last ∈ inventory.events := by
  have listed : ∀ event ∈ [first, last], event ∈ inventory.events := by
    rw [← closed.events]
    exact fun event member => (Inventory.mem_eventsOf.mp member).1
  exact ⟨listed first (by simp), listed last (by simp)⟩

/-- A certificate that is not in the table has no events. -/
theorem Inventory.History.eventsOf_absent {inventory : Inventory} (history : inventory.History)
    {certificate : Certificate}
    (absent : ∀ old ∈ inventory.certificates, old.key ≠ certificate.key) :
    inventory.eventsOf certificate = [] := by
  rw [Inventory.eventsOf, List.filter_eq_nil_iff]
  intro event member own
  rcases history.owned event member with ⟨old, present, same⟩
  exact absent old present (same.trans (of_decide_eq_true own))

theorem Inventory.History.opens {before : Inventory} (history : before.History)
    {row : Certificate} {event : LifecycleEvent} {certificates : Table Certificate Certificate.key}
    {events : Table LifecycleEvent LifecycleEvent.key} (opened : row.OpenedBy event)
    (cause : ∀ k, event.causationEventId = some k → ∃ old ∈ before.events, old.eventId = k)
    (inserted : before.certificates.insertNew row = some certificates)
    (logged : before.events.insertNew event = some events) :
    Inventory.History ⟨certificates, events⟩ := by
  have fresh : ∀ old ∈ before.certificates, old.key ≠ row.key := Table.insertNew_fresh inserted
  have foreign : ∀ old ∈ before.certificates, event.owner ≠ old.key := by
    intro old member
    rw [opened.owner]
    exact (fresh old member).symm
  constructor
  · intro other member
    rcases (Table.mem_insertNew logged other).mp member with old | rfl
    · rcases history.owned other old with ⟨certificate, present, same⟩
      exact ⟨certificate, (Table.mem_insertNew inserted certificate).mpr (Or.inl present), same⟩
    · exact ⟨row, (Table.mem_insertNew inserted row).mpr (Or.inr rfl), opened.owner.symm⟩
  · intro certificate member active
    rcases (Table.mem_insertNew inserted certificate).mp member with old | rfl
    · rcases history.opened certificate old active with ⟨first, kept, dated⟩
      exact ⟨first, kept.appended logged (foreign certificate old) rfl rfl, dated⟩
    · refine ⟨event, ⟨?_, opened.lastEvent⟩, opened.occurredAt⟩
      have listed : Inventory.eventsOf ⟨certificates, events⟩ certificate =
          before.eventsOf certificate ++ if event.owner = certificate.key then [event] else [] :=
        eventsOf_insertNew logged rfl
      rw [listed, history.eventsOf_absent fresh, if_pos opened.owner, List.nil_append]
  · intro certificate member ended
    rcases (Table.mem_insertNew inserted certificate).mp member with old | rfl
    · rcases history.closed certificate old ended with ⟨first, last, kept⟩
      exact ⟨first, last, kept.appended logged (foreign certificate old) rfl rfl⟩
    · exact absurd opened.active ended
  · exact history.grounded.insertNew logged cause

theorem Inventory.History.ends {before : Inventory} (history : before.History)
    {target : Certificate} {event : LifecycleEvent} {clock : Timestamp}
    {events : Table LifecycleEvent LifecycleEvent.key} (present : target ∈ before.certificates)
    (ended : target.EndedBy event) (final : event.eventType.state ≠ .active)
    (leads : before.Leads event target.lastEventId)
    (logged : before.events.insertNew event = some events) :
    Inventory.History ⟨before.certificates.update (event.endsRow target clock)
      (event.endsRow_key target clock), events⟩ := by
  have self := event.endsRow_self target clock
  have rows := Table.mem_update before.certificates (event.endsRow target clock)
    (event.endsRow_key target clock)
  rcases history.opened target present ended.active with ⟨first, opened, dated⟩
  have foreign : ∀ old ∈ before.certificates, old.key ≠ target.key → event.owner ≠ old.key := by
    intro old _ different
    rw [ended.owner]
    exact different.symm
  constructor
  · intro other member
    rcases (Table.mem_insertNew logged other).mp member with old | rfl
    · rcases history.owned other old with ⟨certificate, kept, same⟩
      refine ⟨_, (rows _).mpr ⟨certificate, kept, rfl⟩, ?_⟩
      rw [LifecycleEvent.endsRow_key, same]
    · refine ⟨_, (rows _).mpr ⟨target, present, rfl⟩, ?_⟩
      rw [LifecycleEvent.endsRow_key, ended.owner]
  · intro certificate member active
    rcases (rows _).mp member with ⟨old, kept, rfl⟩
    by_cases same : old.key = target.key
    · rw [before.certificates.unique kept present same, self.1] at active
      exact absurd active final
    · rw [event.endsRow_other target clock same] at active ⊢
      rcases history.opened old kept active with ⟨start, was, when_⟩
      exact ⟨start, was.appended logged (foreign old kept same) rfl rfl, when_⟩
  · intro certificate member inactive
    rcases (rows _).mp member with ⟨old, kept, rfl⟩
    by_cases same : old.key = target.key
    · rw [before.certificates.unique kept present same]
      have ordered : first.occurredAt ≤ event.occurredAt := by
        rw [dated]
        exact ended.occurredAt
      exact ⟨first, event, opened.ended logged ordered ended.owner
        (event.endsRow_key target clock target) self.2.1 (opened.lastEvent ▸ leads)⟩
    · rw [event.endsRow_other target clock same] at inactive ⊢
      rcases history.closed old kept inactive with ⟨start, last, was⟩
      exact ⟨start, last, was.appended logged (foreign old kept same) rfl rfl⟩
  · refine history.grounded.insertNew logged ?_
    intro k names
    rcases leads with direct | ⟨via, member, cause, _⟩
    · rw [direct] at names
      exact ⟨first, opened.mem, opened.lastEvent.symm.trans (Option.some.inj names)⟩
    · rw [cause] at names
      exact ⟨via, member, Option.some.inj names⟩

theorem Inventory.History.lastEvent_mem {inventory : Inventory} (history : inventory.History)
    {certificate : Certificate} (present : certificate ∈ inventory.certificates)
    (active : certificate.state = .active) :
    ∃ event ∈ inventory.events, event.eventId = certificate.lastEventId := by
  rcases history.opened certificate present active with ⟨first, opened, _⟩
  exact ⟨first, opened.mem, opened.lastEvent.symm⟩

/-- A renewal opens its successor first and then ends the predecessor. -/
theorem Inventory.History.step {before after : Inventory} (history : before.History)
    (step : before.Step after) : after.History := by
  cases step with
  | issued _ opened _ cause inserted logged =>
      refine history.opens opened ?_ inserted logged
      intro k names
      rw [cause] at names
      cases names
  | ended present ended type cause _ logged =>
      refine history.ends present ended ?_ (Or.inl cause) logged
      rcases type with revoked | expired
      · simp [revoked, LifecycleEventType.state]
      · simp [expired, LifecycleEventType.state]
  | @renewed predecessor row event closing clock certificates logged events present names tenant
      freshKey opened type cause ended closes after shared checks inserted first second =>
      have active : predecessor.state = .active := ended.active
      have midway : Inventory.History ⟨certificates, logged⟩ := by
        refine history.opens opened ?_ inserted first
        intro k named
        rw [cause] at named
        have same := Option.some.inj named
        rw [← same]
        exact history.lastEvent_mem present active
      have kept : predecessor ∈ certificates :=
        (Table.mem_insertNew inserted predecessor).mpr (Or.inl present)
      have via : event ∈ logged := (Table.mem_insertNew first event).mpr (Or.inr rfl)
      refine midway.ends kept ended ?_ (Or.inr ⟨event, via, after, cause⟩) second
      simp [closes, LifecycleEventType.state]

end TenantTrust.Identity
