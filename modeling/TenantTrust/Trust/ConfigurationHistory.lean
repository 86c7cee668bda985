import Mathlib.Data.List.MinMax
import TenantTrust.Trust.ConfigurationStore

/-! What every history of drafts, activations and rollbacks keeps of the configurations of a
tenant. -/

namespace TenantTrust.Trust

open Library Identity

/-- The same version at a later time. -/
structure TrustConfigurationRow.Advances (old new : TrustConfigurationRow) : Prop where
  version : new.configurationVersion = old.configurationVersion
  parameters : new.parameters = old.parameters
  creator : new.createdBySubjectId = old.createdBySubjectId
  created : new.createdAt = old.createdAt
  state : new = old ∨ (old.state = .draft ∧ new.state = .active) ∨
    (old.state = .active ∧ new.state = .superseded ∧ new.activatedAt = old.activatedAt)

theorem TrustConfigurationRow.Advances.refl (row : TrustConfigurationRow) : row.Advances row :=
  ⟨rfl, rfl, rfl, rfl, .inl rfl⟩

theorem stored_stored (parameters : ConfigurationParameters) :
    parameters.stored.stored = parameters.stored := by
  simp [ConfigurationParameters.stored, Components.map, Components.tabulate, Components.get,
    roundNumeric_idem]

/-- The versions are numbered without a gap, and each row is one that the table admits. -/
structure Recorded (configurations : ConfigurationTable) : Prop where
  numbered : ∀ version,
    version ∈ configurations.rows.map TrustConfigurationRow.configurationVersion ↔
      1 ≤ version ∧ version ≤ configurations.rows.length
  lifecycle : ∀ row ∈ configurations, row.LifecycleCheck
  stored : ∀ row ∈ configurations, row.parameters.stored = row.parameters

def OneActive (configurations : ConfigurationTable) : Prop :=
  ∀ left ∈ configurations, ∀ right ∈ configurations,
    left.state = .active → right.state = .active → left = right

/-- A version is active that was activated at the time or later. -/
def ActiveSince (configurations : ConfigurationTable) (time : Instant) : Prop :=
  ∃ active ∈ configurations, active.state = .active ∧
    ∃ latest ∈ active.activatedAt, time ≤ latest

section Writes

variable {configurations next : ConfigurationTable} {row : TrustConfigurationRow}

theorem check_lifecycle {u : Unit} (checked : row.check = .ok u) : row.LifecycleCheck := by
  simp only [TrustConfigurationRow.check, Checked.bind_eq_ok, Checked.require_eq_ok,
    exists_const] at checked
  exact checked.2.2.2.2.2.2.2.2.1

theorem insertConfiguration_eq_ok
    (inserted : insertConfiguration row configurations = .ok next) :
    row.LifecycleCheck ∧ configurations.insertNew row = some next ∧
      oneActive configurations row := by
  simp only [insertConfiguration, Checked.bind_eq_ok, Checked.requireSome_eq_ok,
    Checked.require_eq_ok, Checked.pure_eq_ok, exists_const] at inserted
  obtain ⟨_, checked, _, found, unique, rfl⟩ := inserted
  exact ⟨check_lifecycle checked, found, unique⟩

theorem updateConfiguration_eq_ok
    (updated : updateConfiguration row configurations = .ok next) :
    row.LifecycleCheck ∧ next = configurations.replace row := by
  simp only [updateConfiguration, Checked.bind_eq_ok, Checked.require_eq_ok,
    Checked.pure_eq_ok, exists_const] at updated
  obtain ⟨_, checked, _, rfl⟩ := updated
  exact ⟨check_lifecycle checked, rfl⟩

theorem nextConfigurationVersion_eq {version : Nat} (recorded : Recorded configurations)
    (found : nextConfigurationVersion configurations = .ok version) :
    version = configurations.rows.length + 1 := by
  simp only [nextConfigurationVersion, Checked.bind_eq_ok, Checked.require_eq_ok,
    Checked.pure_eq_ok, exists_const] at found
  obtain ⟨_, rfl⟩ := found
  have most : (configurations.rows.map TrustConfigurationRow.configurationVersion).foldr max 0 ≤
      configurations.rows.length :=
    List.max_le_of_forall_le _ _ fun version member => ((recorded.numbered version).mp member).2
  have least : configurations.rows.length ≤
      (configurations.rows.map TrustConfigurationRow.configurationVersion).foldr max 0 := by
    rcases Nat.eq_zero_or_pos configurations.rows.length with none_ | some_
    · rw [none_]
      exact Nat.zero_le _
    · exact List.le_max_of_le ((recorded.numbered _).mpr ⟨some_, le_rfl⟩) le_rfl
  omega

theorem recorded_insert (recorded : Recorded configurations)
    (version : row.configurationVersion = configurations.rows.length + 1)
    (lifecycle : row.LifecycleCheck) (stored : row.parameters.stored = row.parameters)
    (inserted : configurations.insertNew row = some next) : Recorded next := by
  have members := Table.mem_insertNew inserted
  refine ⟨?_, ?_, ?_⟩
  · intro other
    rw [Table.insertNew_rows inserted, List.map_append, List.mem_append, recorded.numbered]
    simp only [List.map_cons, List.map_nil, List.mem_singleton, List.length_append,
      List.length_singleton]
    omega
  · intro other member
    rcases (members other).mp member with old | rfl
    · exact recorded.lifecycle other old
    · exact lifecycle
  · intro other member
    rcases (members other).mp member with old | rfl
    · exact recorded.stored other old
    · exact stored

theorem recorded_replace {old : TrustConfigurationRow} (recorded : Recorded configurations)
    (present : old ∈ configurations)
    (same : old.configurationVersion = row.configurationVersion)
    (parameters : row.parameters = old.parameters) (lifecycle : row.LifecycleCheck) :
    Recorded (configurations.replace row) := by
  have members := Table.mem_replace configurations row present same
  refine ⟨?_, ?_, ?_⟩
  · intro version
    have keys := configurations.update_keys
      (fun other => if other.configurationVersion = row.configurationVersion then row else other)
      (by intro other; split <;> simp_all)
    have count : (configurations.replace row).rows.length = configurations.rows.length := by
      simp [Table.replace, Table.update_rows]
    rw [count, ← recorded.numbered]
    exact iff_of_eq (congrArg _ keys)
  · intro other member
    rcases (members other).mp member with rfl | ⟨kept, _⟩
    · exact lifecycle
    · exact recorded.lifecycle other kept
  · intro other member
    rcases (members other).mp member with rfl | ⟨kept, _⟩
    · rw [parameters]
      exact recorded.stored old present
    · exact recorded.stored other kept

end Writes

theorem activeConfiguration?_spec {configurations : ConfigurationTable}
    {row : TrustConfigurationRow} (found : activeConfiguration? configurations = some row) :
    row ∈ configurations ∧ row.state = .active := by
  have active := List.find?_some found
  exact ⟨List.mem_of_find?_eq_some found, of_decide_eq_true active⟩

theorem activeConfiguration?_none {configurations : ConfigurationTable}
    (found : activeConfiguration? configurations = none) :
    ∀ row ∈ configurations, row.state ≠ .active := by
  intro row member
  have inactive := List.find?_eq_none.mp found row member
  simpa using inactive

structure ConfigurationStore.Sound (store : ConfigurationStore) : Prop where
  recorded : Recorded store.configurations
  oneActive : OneActive store.configurations
  succession : ∀ row ∈ store.configurations, ∀ time ∈ row.activatedAt,
    ActiveSince store.configurations time
  announced : ∀ event ∈ store.events, event.eventType ≠ .draftCreated →
    ActiveSince store.configurations event.occurredAt
  ordered : (store.events.filter fun event => event.eventType ≠ .draftCreated).Pairwise
    fun newer older => older.occurredAt ≤ newer.occurredAt

/-- The rows between the end of one active version and the start of the next. -/
structure Passes (before between : ConfigurationTable) (time : Instant) : Prop where
  recorded : Recorded between
  passive : ∀ row ∈ between, row.state ≠ .active
  forward : ∀ row ∈ before, ∃ next ∈ between, row.Advances next
  backward : ∀ next ∈ between, ∃ row ∈ before, row.Advances next
  others : ∀ row ∈ before, row.state ≠ .active → row ∈ between
  earlier : ∀ row ∈ between, ∀ activated ∈ row.activatedAt, activated ≤ time
  count : between.rows.length = before.rows.length

section Calls

variable {store next : ConfigurationStore} {call : LifecycleCall}

theorem passes_superseded {previous : TrustConfigurationRow} {between : ConfigurationTable}
    (sound : store.Sound) (member : previous ∈ store.configurations)
    (active : previous.state = .active)
    (earlier : ∀ activated ∈ previous.activatedAt, activated ≤ call.occurredAt)
    (updated : updateConfiguration (supersededRow call previous) store.configurations =
      .ok between) : Passes store.configurations between call.occurredAt := by
  obtain ⟨lifecycle, rfl⟩ := updateConfiguration_eq_ok updated
  have members := Table.mem_replace store.configurations (supersededRow call previous) member rfl
  have advances : previous.Advances (supersededRow call previous) :=
    ⟨rfl, rfl, rfl, rfl, .inr (.inr ⟨active, rfl, rfl⟩)⟩
  refine ⟨recorded_replace sound.recorded member rfl rfl lifecycle, ?_, ?_, ?_, ?_, ?_, ?_⟩
  · intro row kept
    rcases (members row).mp kept with rfl | ⟨old, apart⟩
    · simp [supersededRow]
    · intro alsoActive
      rw [sound.oneActive row old previous member alsoActive active] at apart
      exact apart rfl
  · intro row old
    by_cases same : row.configurationVersion = previous.configurationVersion
    · cases Table.unique store.configurations old member same
      exact ⟨_, (members _).mpr (.inl rfl), advances⟩
    · exact ⟨row, (members row).mpr (.inr ⟨old, same⟩), .refl row⟩
  · intro row kept
    rcases (members row).mp kept with rfl | ⟨old, _⟩
    · exact ⟨previous, member, advances⟩
    · exact ⟨row, old, .refl row⟩
  · intro row old inactive
    apply (members row).mpr
    refine .inr ⟨old, fun same => inactive ?_⟩
    rw [Table.unique store.configurations old member same]
    exact active
  · intro row kept time activated
    rcases (members row).mp kept with rfl | ⟨old, _⟩
    · exact earlier time activated
    · obtain ⟨current, present, alsoActive, latest, since, bound⟩ :=
        sound.succession row old time activated
      cases sound.oneActive current present previous member alsoActive active
      exact bound.trans (earlier latest since)
  · simp [Table.replace, Table.update_rows]

theorem passes_previous {between : ConfigurationTable} (sound : store.Sound)
    (superseded : supersedePrevious call (activeConfiguration? store.configurations)
      store.configurations = .ok between) :
    Passes store.configurations between call.occurredAt := by
  unfold supersedePrevious at superseded
  split at superseded
  · rename_i previous found
    obtain ⟨member, active⟩ := activeConfiguration?_spec found
    simp only [Checked.bind_eq_ok, Checked.require_eq_ok, exists_const] at superseded
    exact passes_superseded sound member active superseded.1 superseded.2
  · rename_i found
    cases superseded
    have passive := activeConfiguration?_none found
    refine ⟨sound.recorded, passive, fun row member => ⟨row, member, .refl row⟩,
      fun row member => ⟨row, member, .refl row⟩, fun row member _ => member, ?_, rfl⟩
    intro row member time activated
    obtain ⟨current, present, active, _⟩ := sound.succession row member time activated
    exact absurd active (passive current present)

/-- The rows after a new version has become active. -/
structure Succeeds (before after : ConfigurationTable) (active : TrustConfigurationRow)
    (time : Instant) : Prop where
  recorded : Recorded after
  present : active ∈ after
  state : active.state = .active
  activatedAt : active.activatedAt = some time
  alone : ∀ row ∈ after, row.state = .active → row = active
  latest : ∀ row ∈ after, ∀ activated ∈ row.activatedAt, activated ≤ time
  forward : ∀ row ∈ before, ∃ next ∈ after, row.Advances next
  backward : ∀ next ∈ after, (∃ row ∈ before, row.Advances next) ∨
    next.configurationVersion = before.rows.length + 1

theorem succeeds_activated {target : TrustConfigurationRow}
    {before between after : ConfigurationTable} (passes : Passes before between call.occurredAt)
    (member : target ∈ before) (draft : target.state = .draft)
    (updated : updateConfiguration (activatedRow call target) between = .ok after) :
    Succeeds before after (activatedRow call target) call.occurredAt := by
  obtain ⟨lifecycle, rfl⟩ := updateConfiguration_eq_ok updated
  have kept := passes.others target member (by simp [draft])
  have members := Table.mem_replace between (activatedRow call target) kept rfl
  have advances : target.Advances (activatedRow call target) :=
    ⟨rfl, rfl, rfl, rfl, .inr (.inl ⟨draft, rfl⟩)⟩
  refine ⟨recorded_replace passes.recorded kept rfl rfl lifecycle, (members _).mpr (.inl rfl),
    rfl, rfl, ?_, ?_, ?_, ?_⟩
  · intro row written active
    rcases (members row).mp written with rfl | ⟨old, _⟩
    · rfl
    · exact absurd active (passes.passive row old)
  · intro row written time activated
    rcases (members row).mp written with rfl | ⟨old, _⟩
    · cases activated
      exact le_rfl
    · exact passes.earlier row old time activated
  · intro row old
    by_cases same : row.configurationVersion = target.configurationVersion
    · cases Table.unique before old member same
      exact ⟨_, (members _).mpr (.inl rfl), advances⟩
    · obtain ⟨middle, present, advanced⟩ := passes.forward row old
      exact ⟨middle, (members middle).mpr (.inr ⟨present, advanced.version ▸ same⟩), advanced⟩
  · intro row written
    left
    rcases (members row).mp written with rfl | ⟨old, _⟩
    · exact ⟨target, member, advances⟩
    · exact passes.backward row old

theorem succeeds_restored {target : TrustConfigurationRow} {version : Nat}
    {before between after : ConfigurationTable} (passes : Passes before between call.occurredAt)
    (numbered : version = before.rows.length + 1)
    (inserted : insertConfiguration (restoredRow call version target) between = .ok after) :
    Succeeds before after (restoredRow call version target) call.occurredAt := by
  obtain ⟨lifecycle, added, _⟩ := insertConfiguration_eq_ok inserted
  have members := Table.mem_insertNew added
  have recorded := recorded_insert passes.recorded (numbered.trans (by rw [passes.count]))
    lifecycle (stored_stored _) added
  refine ⟨recorded, (members _).mpr (.inr rfl), rfl, rfl, ?_, ?_, ?_, ?_⟩
  · intro row written active
    rcases (members row).mp written with old | rfl
    · exact absurd active (passes.passive row old)
    · rfl
  · intro row written time activated
    rcases (members row).mp written with old | rfl
    · exact passes.earlier row old time activated
    · cases activated
      exact le_rfl
  · intro row old
    obtain ⟨middle, present, advanced⟩ := passes.forward row old
    exact ⟨middle, (members middle).mpr (.inl present), advanced⟩
  · intro row written
    rcases (members row).mp written with old | rfl
    · exact .inl (passes.backward row old)
    · exact .inr numbered

theorem TrustConfigurationRow.Advances.activatedAt {old new : TrustConfigurationRow}
    (advances : old.Advances new) (active : old.state = .active) :
    new.activatedAt = old.activatedAt := by
  rcases advances.state with rfl | ⟨draft, _⟩ | ⟨_, _, same⟩
  · rfl
  · rw [active] at draft
    cases draft
  · exact same

/-- No version was active at a later time than the one that follows it. -/
theorem Succeeds.since {before after : ConfigurationTable} {active : TrustConfigurationRow}
    {time earlier : Instant} (succeeds : Succeeds before after active time)
    (since : ActiveSince before earlier) : earlier ≤ time := by
  obtain ⟨current, member, state, latest, activated, bound⟩ := since
  obtain ⟨kept, present, advances⟩ := succeeds.forward current member
  rw [← advances.activatedAt state] at activated
  exact bound.trans (succeeds.latest kept present latest activated)

theorem sound_succeeds {active : TrustConfigurationRow} {event : ConfigurationEvent}
    (sound : store.Sound)
    (succeeds : Succeeds store.configurations next.configurations active event.occurredAt)
    (kind : event.eventType ≠ .draftCreated) (events : next.events = event :: store.events) :
    next.Sound := by
  have since : ∀ time, time ≤ event.occurredAt → ActiveSince next.configurations time :=
    fun time bound => ⟨active, succeeds.present, succeeds.state, event.occurredAt,
      succeeds.activatedAt, bound⟩
  have older : ∀ earlier ∈ store.events, earlier.eventType ≠ .draftCreated →
      earlier.occurredAt ≤ event.occurredAt :=
    fun earlier member activation => succeeds.since (sound.announced earlier member activation)
  refine ⟨succeeds.recorded, ?_, ?_, ?_, ?_⟩
  · intro left leftMember right rightMember leftActive rightActive
    rw [succeeds.alone left leftMember leftActive, succeeds.alone right rightMember rightActive]
  · intro row member time activated
    exact since time (succeeds.latest row member time activated)
  · intro announced member activation
    rw [events] at member
    rcases List.mem_cons.mp member with rfl | earlier
    · exact since _ le_rfl
    · exact since _ (older announced earlier activation)
  · rw [events, List.filter_cons_of_pos (by simpa using kind), List.pairwise_cons]
    refine ⟨?_, sound.ordered⟩
    intro earlier member
    rw [List.mem_filter] at member
    exact older earlier member.1 (by simpa using member.2)

/-- A draft leaves the other versions as they are. -/
theorem sound_drafted {row : TrustConfigurationRow} {event : ConfigurationEvent}
    (sound : store.Sound) (recorded : Recorded next.configurations)
    (draft : row.state = .draft) (dormant : row.activatedAt = none)
    (inserted : store.configurations.insertNew row = some next.configurations)
    (kind : event.eventType = .draftCreated) (events : next.events = event :: store.events) :
    next.Sound := by
  have members := Table.mem_insertNew inserted
  have since : ∀ time, ActiveSince store.configurations time →
      ActiveSince next.configurations time := by
    rintro time ⟨active, member, rest⟩
    exact ⟨active, (members active).mpr (.inl member), rest⟩
  have old : ∀ other ∈ next.configurations, other.state = .active →
      other ∈ store.configurations := by
    intro other member active
    rcases (members other).mp member with kept | rfl
    · exact kept
    · rw [draft] at active
      cases active
  refine ⟨recorded, ?_, ?_, ?_, ?_⟩
  · intro left leftMember right rightMember leftActive rightActive
    exact sound.oneActive left (old left leftMember leftActive) right
      (old right rightMember rightActive) leftActive rightActive
  · intro other member time activated
    rcases (members other).mp member with kept | rfl
    · exact since time (sound.succession other kept time activated)
    · rw [dormant] at activated
      cases activated
  · intro announced member activation
    rw [events] at member
    rcases List.mem_cons.mp member with rfl | earlier
    · exact absurd kind activation
    · exact since _ (sound.announced announced earlier activation)
  · rw [events, List.filter_cons_of_neg (by simpa using kind)]
    exact sound.ordered

end Calls

/-- What a successful call did to the versions and to the events. -/
inductive ConfigurationStep (before after : ConfigurationStore) (reply : TrustConfigurationRow) :
    ConfigurationCall → Prop
  | drafted {call : DraftCall} {event : ConfigurationEvent}
      (recorded : Recorded after.configurations)
      (draft : reply.state = .draft) (dormant : reply.activatedAt = none)
      (version : reply.configurationVersion = before.configurations.rows.length + 1)
      (inserted : before.configurations.insertNew reply = some after.configurations)
      (kind : event.eventType = .draftCreated) (events : after.events = event :: before.events) :
      ConfigurationStep before after reply (.createDraft call)
  | activated {call : LifecycleCall} {event : ConfigurationEvent}
      (version : reply.configurationVersion = call.configurationVersion)
      (dated : event.occurredAt = call.occurredAt)
      (succeeds : Succeeds before.configurations after.configurations reply event.occurredAt)
      (kind : event.eventType ≠ .draftCreated) (events : after.events = event :: before.events) :
      ConfigurationStep before after reply (.activate call)
  | restored {call : LifecycleCall} {event : ConfigurationEvent}
      {target : TrustConfigurationRow}
      (member : target ∈ before.configurations)
      (version : target.configurationVersion = call.configurationVersion)
      (superseded : target.state = .superseded)
      (fresh : reply.configurationVersion = before.configurations.rows.length + 1)
      (parameters : reply.parameters = target.parameters)
      (succeeds : Succeeds before.configurations after.configurations reply event.occurredAt)
      (kind : event.eventType ≠ .draftCreated) (events : after.events = event :: before.events) :
      ConfigurationStep before after reply (.rollback call)

theorem createTrustConfigurationDraft_step {call : DraftCall}
    {before after : ConfigurationStore} {reply : TrustConfigurationRow} (sound : before.Sound)
    (created : createTrustConfigurationDraft call before = .ok (after, reply)) :
    ConfigurationStep before after reply (.createDraft call) := by
  simp only [createTrustConfigurationDraft, Checked.bind_eq_ok, Checked.require_eq_ok,
    Checked.pure_eq_ok, exists_const, Prod.mk.injEq] at created
  obtain ⟨_, _, _, version, numbered, configurations, inserted, rfl, rfl⟩ := created
  have fresh := nextConfigurationVersion_eq sound.recorded numbered
  obtain ⟨lifecycle, added, _⟩ := insertConfiguration_eq_ok inserted
  have recorded := recorded_insert sound.recorded fresh lifecycle (stored_stored _) added
  exact .drafted recorded rfl rfl fresh added rfl rfl

theorem activateTrustConfiguration_step {call : LifecycleCall}
    {before after : ConfigurationStore} {reply : TrustConfigurationRow} (sound : before.Sound)
    (activated : activateTrustConfiguration call before = .ok (after, reply)) :
    ConfigurationStep before after reply (.activate call) := by
  simp only [activateTrustConfiguration, Checked.bind_eq_ok, Checked.require_eq_ok,
    Checked.requireSome_eq_ok, Checked.pure_eq_ok, exists_const, Prod.mk.injEq] at activated
  obtain ⟨_, _, target, found, ⟨draft, _⟩, between, superseded, configurations, updated, rfl,
    rfl⟩ := activated
  have passes := passes_previous sound superseded
  have version : target.configurationVersion = call.configurationVersion := Table.get?_key found
  exact .activated version rfl
    (succeeds_activated passes (Table.get?_mem found) draft updated) (by simp) rfl

theorem rollbackTrustConfiguration_step {call : LifecycleCall}
    {before after : ConfigurationStore} {reply : TrustConfigurationRow} (sound : before.Sound)
    (restored : rollbackTrustConfiguration call before = .ok (after, reply)) :
    ConfigurationStep before after reply (.rollback call) := by
  simp only [rollbackTrustConfiguration, Checked.bind_eq_ok, Checked.require_eq_ok,
    Checked.requireSome_eq_ok, Checked.pure_eq_ok, exists_const, Prod.mk.injEq] at restored
  obtain ⟨_, _, target, found, previous, current, ⟨superseded, earlier⟩, version, numbered,
    between, updated, configurations, inserted, rfl, rfl⟩ := restored
  obtain ⟨member, active⟩ := activeConfiguration?_spec current
  have fresh := nextConfigurationVersion_eq sound.recorded numbered
  have passes := passes_superseded sound member active earlier updated
  have present := Table.get?_mem found
  exact .restored present (Table.get?_key found) superseded fresh
    (sound.recorded.stored target present) (succeeds_restored passes fresh inserted) (by simp) rfl

theorem applyConfiguration_step {call : ConfigurationCall} {before after : ConfigurationStore}
    {reply : TrustConfigurationRow} (sound : before.Sound)
    (succeeds : applyConfiguration call before = .ok (after, reply)) :
    ConfigurationStep before after reply call := by
  cases call with
  | createDraft call => exact createTrustConfigurationDraft_step sound succeeds
  | activate call => exact activateTrustConfiguration_step sound succeeds
  | rollback call => exact rollbackTrustConfiguration_step sound succeeds

theorem sound_step {call : ConfigurationCall} {before after : ConfigurationStore}
    {reply : TrustConfigurationRow} (sound : before.Sound)
    (step : ConfigurationStep before after reply call) : after.Sound := by
  cases step with
  | drafted recorded draft dormant version inserted kind events =>
      exact sound_drafted sound recorded draft dormant inserted kind events
  | activated version dated succeeds kind events => exact sound_succeeds sound succeeds kind events
  | restored member version superseded fresh parameters succeeds kind events =>
      exact sound_succeeds sound succeeds kind events

theorem sound_empty : ConfigurationStore.empty.Sound where
  recorded := by
    refine ⟨?_, by simp [ConfigurationStore.empty], by simp [ConfigurationStore.empty]⟩
    intro version
    simp only [ConfigurationStore.empty, Table.empty, List.map_nil, List.length_nil]
    simp only [List.not_mem_nil, false_iff]
    omega
  oneActive := by simp [OneActive, ConfigurationStore.empty]
  succession := by simp [ConfigurationStore.empty]
  announced := by simp [ConfigurationStore.empty]
  ordered := by simp [ConfigurationStore.empty]

theorem sound_run (calls : List ConfigurationCall) :
    (runConfigurations .empty calls).Sound :=
  Transaction.run_preserves
    (fun _ _ _ _ sound succeeds => sound_step sound (applyConfiguration_step sound succeeds))
    _ calls sound_empty

/-- The laws of the lifecycle for one call after any others. -/
structure Governed (before after : ConfigurationStore) (call : ConfigurationCall) : Prop where
  oneActive : OneActive after.configurations
  contiguous : ∀ version,
    (∃ row ∈ after.configurations, row.configurationVersion = version) ↔
      1 ≤ version ∧ version ≤ after.configurations.rows.length
  advances : ∀ row ∈ before.configurations, ∃ next ∈ after.configurations, row.Advances next
  fresh : ∀ next ∈ after.configurations, (∃ row ∈ before.configurations, row.Advances next) ∨
    next.configurationVersion = before.configurations.rows.length + 1
  succession : ∀ old ∈ before.configurations, ∀ new ∈ after.configurations,
    old.state = .active → new.state = .active →
    ∀ earlier ∈ old.activatedAt, ∀ later ∈ new.activatedAt, earlier ≤ later
  activations : (after.events.filter fun event => event.eventType ≠ .draftCreated).Pairwise
    fun newer older => older.occurredAt ≤ newer.occurredAt
  rollback : ∀ request next reply, call = .rollback request →
    applyConfiguration call before = .ok (next, reply) → next = after ∧
    reply ∈ after.configurations ∧ reply.state = .active ∧
    reply.configurationVersion = before.configurations.rows.length + 1 ∧
    ∃ target ∈ before.configurations, target.state = .superseded ∧
      target.configurationVersion = request.configurationVersion ∧
      reply.parameters = target.parameters
  failed : ∀ failure, applyConfiguration call before = .error failure → after = before

section Laws

variable {before after : ConfigurationStore} {call : ConfigurationCall}
  {reply : TrustConfigurationRow}

theorem step_advances (step : ConfigurationStep before after reply call) :
    ∀ row ∈ before.configurations, ∃ next ∈ after.configurations, row.Advances next := by
  cases step with
  | drafted recorded draft dormant version inserted kind events =>
      intro row member
      exact ⟨row, (Table.mem_insertNew inserted row).mpr (.inl member), .refl row⟩
  | activated version dated succeeds kind events => exact succeeds.forward
  | restored member version superseded fresh parameters succeeds kind events =>
      exact succeeds.forward

theorem step_fresh (step : ConfigurationStep before after reply call) :
    ∀ next ∈ after.configurations, (∃ row ∈ before.configurations, row.Advances next) ∨
      next.configurationVersion = before.configurations.rows.length + 1 := by
  cases step with
  | drafted recorded draft dormant version inserted kind events =>
      intro next member
      rcases (Table.mem_insertNew inserted next).mp member with old | rfl
      · exact .inl ⟨next, old, .refl next⟩
      · exact .inr version
  | activated version dated succeeds kind events => exact succeeds.backward
  | restored member version superseded fresh parameters succeeds kind events =>
      exact succeeds.backward

/-- In sound rows no activation time exceeds that of the active version. -/
theorem step_succession (sound : after.Sound)
    (step : ConfigurationStep before after reply call) :
    ∀ old ∈ before.configurations, ∀ new ∈ after.configurations,
      old.state = .active → new.state = .active →
      ∀ earlier ∈ old.activatedAt, ∀ later ∈ new.activatedAt, earlier ≤ later := by
  intro old member new present oldActive newActive earlier activated later since
  obtain ⟨kept, keptMember, advances⟩ := step_advances step old member
  rw [← advances.activatedAt oldActive] at activated
  obtain ⟨current, currentMember, active, latest, reached, bound⟩ :=
    sound.succession kept keptMember earlier activated
  cases sound.oneActive current currentMember new present active newActive
  cases Option.mem_unique reached since
  exact bound

/-- After an activation its version is the one that is active, since the time of the call. -/
theorem step_activation (step : ConfigurationStep before after reply call)
    {request : LifecycleCall} (activated : call = .activate request) :
    reply.configurationVersion = request.configurationVersion ∧
    reply.activatedAt = some request.occurredAt ∧ reply ∈ after.configurations ∧
    ∀ row ∈ after.configurations, row.state = .active ↔ row = reply := by
  cases step with
  | drafted recorded draft dormant version inserted kind events => cases activated
  | activated version dated succeeds kind events =>
      cases activated
      refine ⟨version, succeeds.activatedAt.trans (congrArg some dated), succeeds.present, ?_⟩
      intro row member
      constructor
      · exact succeeds.alone row member
      · rintro rfl
        exact succeeds.state
  | restored member version superseded fresh parameters succeeds kind events => cases activated

theorem step_rollback (step : ConfigurationStep before after reply call)
    {request : LifecycleCall} (rolledBack : call = .rollback request) :
    reply ∈ after.configurations ∧ reply.state = .active ∧
    reply.configurationVersion = before.configurations.rows.length + 1 ∧
    ∃ target ∈ before.configurations, target.state = .superseded ∧
      target.configurationVersion = request.configurationVersion ∧
      reply.parameters = target.parameters := by
  cases step with
  | drafted recorded draft dormant version inserted kind events => cases rolledBack
  | activated version dated succeeds kind events => cases rolledBack
  | restored member version superseded fresh parameters succeeds kind events =>
      cases rolledBack
      exact ⟨succeeds.present, succeeds.state, fresh, _, member, superseded, version, parameters⟩

theorem contiguous_of_recorded {configurations : ConfigurationTable}
    (recorded : Recorded configurations) (version : Nat) :
    (∃ row ∈ configurations, row.configurationVersion = version) ↔
      1 ≤ version ∧ version ≤ configurations.rows.length := by
  rw [← recorded.numbered, List.mem_map]
  rfl

end Laws

/-- After any sequence of calls a successful activation makes its version the active one. -/
theorem activation_prevails (calls : List ConfigurationCall) {request : LifecycleCall}
    {after : ConfigurationStore} {reply : TrustConfigurationRow}
    (succeeds : activateTrustConfiguration request (runConfigurations .empty calls) =
      .ok (after, reply)) :
    reply.configurationVersion = request.configurationVersion ∧
    reply.activatedAt = some request.occurredAt ∧ reply ∈ after.configurations ∧
    ∀ row ∈ after.configurations, row.state = .active ↔ row = reply :=
  step_activation (activateTrustConfiguration_step (sound_run calls) succeeds) rfl

/-- One call after any sequence of calls obeys the laws of the lifecycle. -/
theorem configurations_governed (calls : List ConfigurationCall) (call : ConfigurationCall) :
    Governed (runConfigurations .empty calls)
      (Transaction.commit applyConfiguration (runConfigurations .empty calls) call) call := by
  have sound := sound_run calls
  cases applied : applyConfiguration call (runConfigurations .empty calls) with
  | error failure =>
      rw [Transaction.commit_error applied]
      exact {
        oneActive := sound.oneActive
        contiguous := contiguous_of_recorded sound.recorded
        advances := fun row member => ⟨row, member, .refl row⟩
        fresh := fun next member => .inl ⟨next, member, .refl next⟩
        succession := by
          intro old member new present oldActive newActive earlier activated later since
          cases sound.oneActive old member new present oldActive newActive
          exact (Option.mem_unique activated since).le
        activations := sound.ordered
        rollback := by
          intro request next reply _ succeeded
          rw [applied] at succeeded
          cases succeeded
        failed := fun _ _ => rfl }
  | ok result =>
      obtain ⟨after, reply⟩ := result
      rw [Transaction.commit_ok applied]
      have step := applyConfiguration_step sound applied
      have later := sound_step sound step
      exact {
        oneActive := later.oneActive
        contiguous := contiguous_of_recorded later.recorded
        advances := step_advances step
        fresh := step_fresh step
        succession := step_succession later step
        activations := later.ordered
        rollback := by
          intro request next row rolledBack succeeded
          rw [applied] at succeeded
          cases succeeded
          exact ⟨rfl, step_rollback step rolledBack⟩
        failed := by
          intro failure failed
          rw [applied] at failed
          cases failed }

end TenantTrust.Trust
