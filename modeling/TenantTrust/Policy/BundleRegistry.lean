import TenantTrust.Library.Editions
import TenantTrust.Library.Refinement
import TenantTrust.Policy.PolicyBundles

/-! For each tenant and policy name the table is a series of editions: what publications and
activations make of the rows and the events is what they make of the series. -/

namespace TenantTrust.Policy

open Library Identity Trust

abbrev Series := ScriptString × ScriptString

abbrev Reign := Option (Timestamp × Option Timestamp)

/-- The editions of each series, as their rows were inserted. -/
abbrev BundleRegistry := Series → Editions PolicyVersionRow Timestamp

def BundleRegistry.empty : BundleRegistry := fun _ => Editions.empty

def bundleState : Reign → PolicyVersionState
  | none => .published
  | some (_, none) => .active
  | some (_, some _) => .superseded

/-- The row of an edition with this reign. -/
def PolicyVersionRow.shown (published : PolicyVersionRow) (reign : Reign)
    (updatedAt : Timestamp) : PolicyVersionRow :=
  { published with
    state := bundleState reign
    activatedAt := reign.map Prod.fst
    supersededAt := reign.bind Prod.snd
    updatedAt := updatedAt }

/-- The events of an edition with this reign, newest first. -/
def bundleHistory (createdAt : Timestamp) : Reign → List (PolicyBundleEventType × Timestamp)
  | none => [(.published, createdAt)]
  | some (since, none) => [(.activated, since), (.published, createdAt)]
  | some (since, some ended) =>
      [(.superseded, ended), (.activated, since), (.published, createdAt)]

def PolicyBundleEvent.key (event : PolicyBundleEvent) : ScriptString × ScriptString :=
  (event.tenantId, event.policyVersionId)

/-- The kinds and times of the events of one version, newest first. -/
def PolicyStore.history (store : PolicyStore) (key : ScriptString × ScriptString) :
    List (PolicyBundleEventType × Timestamp) :=
  (store.events.filter fun event => event.key = key).map fun event =>
    (event.eventType, event.occurredAt)

instance (editions : Editions PolicyVersionRow Timestamp) (n : Nat) (at_ : Timestamp) :
    Decidable (editions.Ready n at_) :=
  decidable_of_iff (n < editions.contents.length ∧ n ∉ editions.activations.map Prod.fst ∧
      ∀ activation ∈ editions.activations, activation.2 ≤ at_)
    ⟨fun ready => ⟨ready.1, ready.2.1, ready.2.2⟩,
      fun ready => ⟨ready.present, ready.unused, ready.later⟩⟩

namespace BundleRegistry

def publish (registry : BundleRegistry) (row : PolicyVersionRow) : BundleRegistry :=
  Function.update registry row.series ((registry row.series).publish row)

def activate (registry : BundleRegistry) (row : PolicyVersionRow) (occurredAt : Timestamp) :
    BundleRegistry :=
  if ready : (registry row.series).Ready (row.bundleVersion - 1) occurredAt then
    Function.update registry row.series
      ((registry row.series).activate (row.bundleVersion - 1) occurredAt ready)
  else registry

/-- What an accepted call does to the series. -/
theorem contents_publish {registry : BundleRegistry} {row content : PolicyVersionRow}
    {series : Series} {n : Nat}
    (edition : (registry.publish row series).contents[n]? = some content) :
    (registry series).contents[n]? = some content ∨ content = row := by
  by_cases same : series = row.series
  · rw [same, publish, Function.update_self] at edition
    rw [same]
    rcases Editions.publish_cases edition with old | ⟨_, rfl⟩
    · exact .inl old
    · exact .inr rfl
  · rw [publish, Function.update_of_ne same] at edition
    exact .inl edition

theorem contents_activate (registry : BundleRegistry) (row : PolicyVersionRow)
    (occurredAt : Timestamp) (series : Series) :
    (registry.activate row occurredAt series).contents = (registry series).contents := by
  unfold activate
  split
  · by_cases same : series = row.series
    · rw [same, Function.update_self]
      rfl
    · rw [Function.update_of_ne same]
  · rfl

def record (registry : BundleRegistry) : PolicyBundleCall × PolicyVersionRow → BundleRegistry
  | (.publish _, row) => registry.publish row
  | (.activate call, row) => registry.activate row call.occurredAt

end BundleRegistry

/-- The row and the events of an edition with this reign. -/
structure PolicyStore.Displays (store : PolicyStore) (content : PolicyVersionRow) (reign : Reign) :
    Prop where
  row : ∃ updatedAt, store.versions.get? content.key = some (content.shown reign updatedAt)
  events : store.history content.key = bundleHistory content.createdAt reign

/-- The store shows the series: their editions in order as the rows, each with its reign, its
number and its events, and nothing else. -/
structure BundleRegistry.Shows (registry : BundleRegistry) (store : PolicyStore) : Prop where
  placed : ∀ (series : Series) (n : Nat) (content : PolicyVersionRow),
    (registry series).contents[n]? = some content →
    content.series = series ∧ content.bundleVersion = n + 1
  displayed : ∀ (series : Series) (n : Nat) (content : PolicyVersionRow),
    (registry series).contents[n]? = some content →
    store.Displays content ((registry series).reign? n)
  covered : ∀ row ∈ store.versions, ∃ (n : Nat) (content : PolicyVersionRow),
    (registry row.series).contents[n]? = some content ∧ content.key = row.key
  known : ∀ event ∈ store.events, ∃ row ∈ store.versions, row.key = event.key

section Rows

variable {row published : PolicyVersionRow} {reign : Reign} {updatedAt : Timestamp}

@[simp] theorem shown_series : (published.shown reign updatedAt).series = published.series := rfl

@[simp] theorem shown_bundleVersion :
    (published.shown reign updatedAt).bundleVersion = published.bundleVersion := rfl

theorem bundleState_eq_published : bundleState reign = .published ↔ reign = none := by
  rcases reign with _ | ⟨since, _ | ended⟩ <;> simp [bundleState]

theorem bundleState_eq_active :
    bundleState reign = .active ↔ ∃ since, reign = some (since, none) := by
  rcases reign with _ | ⟨since, _ | ended⟩ <;> simp [bundleState]

end Rows

section Histories

variable {store : PolicyStore} {event : PolicyBundleEvent} {events : List PolicyBundleEvent}
  {versions : PolicyVersionTable} {key : ScriptString × ScriptString}

theorem history_cons_self (same : event.key = key) :
    (PolicyStore.mk versions (event :: events)).history key =
      (event.eventType, event.occurredAt) :: (PolicyStore.mk versions events).history key := by
  simp [PolicyStore.history, same]

theorem history_cons_other (other : event.key ≠ key) :
    (PolicyStore.mk versions (event :: events)).history key =
      (PolicyStore.mk versions events).history key := by
  simp [PolicyStore.history, other]

theorem history_versions (versions' : PolicyVersionTable) :
    (PolicyStore.mk versions events).history key =
      (PolicyStore.mk versions' events).history key := rfl

theorem history_unknown (unknown : ∀ event ∈ store.events, event.key ≠ key) :
    store.history key = [] := by
  rw [PolicyStore.history, List.map_eq_nil_iff, List.filter_eq_nil_iff]
  intro event member same
  exact unknown event member (of_decide_eq_true same)

end Histories

namespace BundleRegistry.Shows

variable {registry : BundleRegistry} {store : PolicyStore} {series series' : Series} {n m : Nat}
  {content content' row : PolicyVersionRow}

/-- A row is the only edition with its key. -/
theorem unique (holds : registry.Shows store)
    (first : (registry series).contents[n]? = some content)
    (second : (registry series').contents[m]? = some content')
    (same : content.key = content'.key) : series = series' ∧ n = m := by
  obtain ⟨updatedAt, found⟩ := (holds.displayed series n content first).row
  obtain ⟨updatedAt', found'⟩ := (holds.displayed series' m content' second).row
  obtain ⟨here, number⟩ := holds.placed series n content first
  obtain ⟨here', number'⟩ := holds.placed series' m content' second
  rw [same, found'] at found
  have rows := Option.some.inj found
  have versions := congrArg PolicyVersionRow.bundleVersion rows
  have names := congrArg PolicyVersionRow.series rows
  rw [shown_bundleVersion, shown_bundleVersion] at versions
  rw [shown_series, shown_series] at names
  constructor
  · rw [← here, ← here', names]
  · omega

/-- Where a row stands in its series. -/
theorem position (holds : registry.Shows store) (member : row ∈ store.versions) :
    ∃ (n : Nat) (content : PolicyVersionRow),
      (registry row.series).contents[n]? = some content ∧
      row = content.shown ((registry row.series).reign? n) row.updatedAt := by
  obtain ⟨n, content, edition, key⟩ := holds.covered row member
  obtain ⟨updatedAt, found⟩ := (holds.displayed _ n content edition).row
  rw [key, Table.get?_of_mem member, Option.some.injEq] at found
  have times : row.updatedAt = updatedAt := congrArg PolicyVersionRow.updatedAt found
  exact ⟨n, content, edition, by rw [times]; exact found⟩

theorem position_at (holds : registry.Shows store) (member : row ∈ store.versions) :
    ∃ content : PolicyVersionRow,
      (registry row.series).contents[row.bundleVersion - 1]? = some content ∧
      1 ≤ row.bundleVersion ∧
      row = content.shown ((registry row.series).reign? (row.bundleVersion - 1))
        row.updatedAt := by
  obtain ⟨n, content, edition, same⟩ := holds.position member
  have number := (holds.placed _ n content edition).2
  have version : row.bundleVersion = n + 1 := by
    rw [same]
    exact number
  have index : row.bundleVersion - 1 = n := by omega
  rw [index]
  exact ⟨content, edition, by omega, same⟩

/-- The active row of a series is its edition in force. -/
theorem active_current (holds : registry.Shows store) (member : row ∈ store.versions)
    (active : row.state = .active) : ∃ since,
      (registry row.series).reign? (row.bundleVersion - 1) = some (since, none) ∧
      row.activatedAt = some since := by
  obtain ⟨content, edition, _, same⟩ := holds.position_at member
  rw [same] at active
  obtain ⟨since, reigned⟩ := bundleState_eq_active.mp active
  refine ⟨since, reigned, ?_⟩
  rw [same]
  exact congrArg (Option.map Prod.fst) reigned

/-- A series has one row of each number. -/
theorem version_unique (holds : registry.Shows store) {other : PolicyVersionRow}
    (member : row ∈ store.versions) (present : other ∈ store.versions)
    (series : row.series = other.series) (version : row.bundleVersion = other.bundleVersion) :
    row = other := by
  obtain ⟨content, edition, _, same⟩ := holds.position_at member
  obtain ⟨content', edition', _, same'⟩ := holds.position_at present
  rw [series, version, edition'] at edition
  cases edition
  apply store.versions.unique member present
  rw [same, same']
  rfl

/-- A series has one active row at most. -/
theorem active_unique (holds : registry.Shows store) {other : PolicyVersionRow}
    (member : row ∈ store.versions) (present : other ∈ store.versions)
    (series : row.series = other.series) (active : row.state = .active)
    (otherActive : other.state = .active) : row = other := by
  obtain ⟨since, reigned, _⟩ := holds.active_current member active
  obtain ⟨since', reigned', _⟩ := holds.active_current present otherActive
  obtain ⟨_, _, least, _⟩ := holds.position_at member
  obtain ⟨_, _, least', _⟩ := holds.position_at present
  rw [series] at reigned
  have first := Editions.current?_eq_some.mpr ⟨since, reigned⟩
  have second := Editions.current?_eq_some.mpr ⟨since', reigned'⟩
  have index := Option.some.inj (first.symm.trans second)
  exact holds.version_unique member present series (by omega)

/-- Every edition has a row. -/
theorem row_of (holds : registry.Shows store)
    (edition : (registry series).contents[n]? = some content) :
    ∃ row ∈ store.versions, row.series = series ∧ row.bundleVersion = n + 1 ∧
      row = content.shown ((registry series).reign? n) row.updatedAt := by
  obtain ⟨updatedAt, found⟩ := (holds.displayed series n content edition).row
  obtain ⟨here, number⟩ := holds.placed series n content edition
  exact ⟨_, Table.get?_mem found, here, number, rfl⟩

/-- One series has new editions; the rows and the events of the others are as they were. -/
theorem update {editions : Editions PolicyVersionRow Timestamp} {next : PolicyStore}
    (holds : registry.Shows store)
    (placed : ∀ (n : Nat) (content : PolicyVersionRow), editions.contents[n]? = some content →
      content.series = series ∧ content.bundleVersion = n + 1)
    (displayed : ∀ (n : Nat) (content : PolicyVersionRow), editions.contents[n]? = some content →
      next.Displays content (editions.reign? n))
    (kept : ∀ row ∈ store.versions, row.series ≠ series →
      next.versions.get? row.key = some row ∧ next.history row.key = store.history row.key)
    (covered : ∀ row ∈ next.versions, row.series = series →
      ∃ (n : Nat) (content : PolicyVersionRow),
        editions.contents[n]? = some content ∧ content.key = row.key)
    (others : ∀ row ∈ next.versions, row.series ≠ series → row ∈ store.versions)
    (known : ∀ event ∈ next.events, ∃ row ∈ next.versions, row.key = event.key) :
    BundleRegistry.Shows (Function.update registry series editions) next where
  placed := by
    intro other n content edition
    by_cases same : other = series
    · rw [same, Function.update_self] at edition
      rw [same]
      exact placed n content edition
    · rw [Function.update_of_ne same] at edition
      exact holds.placed other n content edition
  displayed := by
    intro other n content edition
    by_cases same : other = series
    · rw [same, Function.update_self] at edition ⊢
      exact displayed n content edition
    · rw [Function.update_of_ne same] at edition ⊢
      obtain ⟨⟨updatedAt, found⟩, events⟩ := holds.displayed other n content edition
      have apart : content.series ≠ series := by
        rw [(holds.placed other n content edition).1]
        exact same
      obtain ⟨row, history⟩ := kept _ (Table.get?_mem found) apart
      exact ⟨⟨updatedAt, row⟩, history.trans events⟩
  covered := by
    intro row member
    by_cases same : row.series = series
    · rw [same, Function.update_self]
      exact covered row member same
    · rw [Function.update_of_ne same]
      exact holds.covered row (others row member same)
  known := known

end BundleRegistry.Shows

namespace BundleRegistry

section Publication

variable {registry : BundleRegistry} {store next : PolicyStore} {row : PolicyVersionRow}
  {series : Series}

/-- The next version number is that of the edition to come. -/
theorem latestBundle?_length (holds : registry.Shows store) :
    (latestBundle? store.versions series).elim 1 (·.bundleVersion + 1) =
      (registry series).contents.length + 1 := by
  have numbered : ∀ n < (registry series).contents.length, ∃ row ∈ store.versions,
      row.series = series ∧ row.bundleVersion = n + 1 := by
    intro n below
    have edition := List.getElem?_eq_getElem below
    obtain ⟨row, member, here, number, _⟩ := holds.row_of edition
    exact ⟨row, member, here, number⟩
  cases latest : latestBundle? store.versions series with
  | none =>
      have vacant : (registry series).contents.length = 0 := by
        by_contra some_
        obtain ⟨row, member, here, _⟩ := numbered 0 (by omega)
        have listed : row ∈ store.versions.rows.filter (·.series = series) :=
          List.mem_filter.mpr ⟨member, decide_eq_true here⟩
        rw [latestBundle?, List.argmax_eq_none] at latest
        rw [latest] at listed
        exact List.not_mem_nil listed
      rw [vacant]
      rfl
  | some row =>
      have listed := List.mem_filter.mp (List.argmax_mem latest)
      have here : row.series = series := of_decide_eq_true listed.2
      obtain ⟨content, edition, positive, _⟩ := holds.position_at listed.1
      rw [here] at edition
      have below := (List.getElem?_eq_some_iff.mp edition).1
      have last : ¬ row.bundleVersion < (registry series).contents.length := by
        intro more
        obtain ⟨later, member, sameSeries, number⟩ := numbered row.bundleVersion more
        have among : later ∈ store.versions.rows.filter (·.series = series) :=
          List.mem_filter.mpr ⟨member, decide_eq_true sameSeries⟩
        have bound := List.le_of_mem_argmax among latest
        omega
      change row.bundleVersion + 1 = _
      omega

/-- What a successful publication wrote. -/
structure Publishes (call : PublishCall) (store next : PolicyStore) (row : PolicyVersionRow) :
    Prop where
  inserted : store.versions.insertNew row = some next.versions
  events : next.events = publishedEvent call :: store.events
  written : ∃ document previous, jsonb? call.bundleCanonicalJson = some document ∧
    row = publishedRow call document previous
  numbered : call.bundleVersion =
    (latestBundle? store.versions (call.session.tenantId, call.policyName)).elim 1
      (·.bundleVersion + 1)

theorem insertVersion_eq_ok {versions inserted : PolicyVersionTable}
    (succeeded : insertVersion row versions = .ok inserted) :
    versions.insertNew row = some inserted := by
  simp only [insertVersion, Checked.bind_eq_ok, Checked.require_eq_ok, Checked.requireSome_eq_ok,
    Checked.pure_eq_ok, exists_const] at succeeded
  obtain ⟨_, _, inserted', found, _, _, rfl⟩ := succeeded
  exact found

theorem publishPolicyBundle_writes {crypto : Crypto} {time : TimeText} {call : PublishCall}
    (succeeded : publishPolicyBundle crypto time call store = .ok (next, row)) :
    Publishes call store next row := by
  simp only [publishPolicyBundle, Checked.bind_eq_ok, Checked.require_eq_ok,
    Checked.requireSome_eq_ok, Checked.pure_eq_ok, exists_const, Prod.mk.injEq] at succeeded
  obtain ⟨_, _, _, _, document, read, _, _, _, _, numbered, versions, inserted, rfl, rfl⟩ :=
    succeeded
  exact ⟨insertVersion_eq_ok inserted, rfl, ⟨document, _, read, rfl⟩, numbered⟩

section Writes

variable {call : PublishCall}

theorem Publishes.event_key (writes : Publishes call store next row) :
    (publishedEvent call).key = row.key := by
  obtain ⟨document, previous, _, written⟩ := writes.written
  rw [written]
  rfl

theorem Publishes.row_series (writes : Publishes call store next row) :
    row.series = (call.session.tenantId, call.policyName) := by
  obtain ⟨document, previous, _, written⟩ := writes.written
  rw [written]
  rfl

theorem Publishes.row_version (writes : Publishes call store next row)
    (holds : registry.Shows store) :
    row.bundleVersion = (registry row.series).contents.length + 1 := by
  obtain ⟨document, previous, _, written⟩ := writes.written
  have number : row.bundleVersion = call.bundleVersion := by rw [written]; rfl
  rw [← latestBundle?_length holds, writes.row_series, number]
  exact writes.numbered

theorem Publishes.store_eq (writes : Publishes call store next row) :
    next = ⟨next.versions, publishedEvent call :: store.events⟩ := by
  rw [← writes.events]

theorem Publishes.history_other (writes : Publishes call store next row)
    {key : ScriptString × ScriptString} (other : key ≠ row.key) :
    next.history key = store.history key := by
  rw [writes.store_eq, history_cons_other (by rw [writes.event_key]; exact other.symm)]
  rfl

/-- A new row is shown as an edition that was never in force. -/
theorem Publishes.displays_row (writes : Publishes call store next row)
    (holds : registry.Shows store) : next.Displays row none := by
  obtain ⟨document, previous, _, written⟩ := writes.written
  have unknown : ∀ event ∈ store.events, event.key ≠ row.key := by
    intro event member same
    obtain ⟨origin, present, key⟩ := holds.known event member
    exact Table.insertNew_fresh writes.inserted origin present (key.trans same)
  constructor
  · refine ⟨row.updatedAt, ?_⟩
    rw [Table.get?_insertNew writes.inserted, if_pos rfl, written]
    rfl
  · rw [writes.store_eq, history_cons_self writes.event_key, history_versions store.versions,
      history_unknown unknown, written]
    rfl

theorem Publishes.displays_other (writes : Publishes call store next row) {reign : Reign}
    {content : PolicyVersionRow} (displayed : store.Displays content reign) :
    next.Displays content reign := by
  obtain ⟨⟨updatedAt, found⟩, recorded⟩ := displayed
  have apart : content.key ≠ row.key :=
    Table.insertNew_fresh writes.inserted (content.shown _ _) (Table.get?_mem found)
  exact ⟨⟨updatedAt, Table.get?_of_insertNew writes.inserted found⟩,
    (writes.history_other apart).trans recorded⟩

end Writes

/-- A publication adds one edition to its series. -/
theorem shows_published {crypto : Crypto} {time : TimeText} {call : PublishCall}
    (holds : registry.Shows store)
    (succeeded : publishPolicyBundle crypto time call store = .ok (next, row)) :
    (registry.publish row).Shows next := by
  have writes := publishPolicyBundle_writes succeeded
  have inserted := writes.inserted
  have unborn : (registry row.series).reign? (registry row.series).contents.length = none :=
    Editions.reign?_absent (le_refl _)
  apply holds.update
  · intro n content edition
    rcases Editions.publish_cases edition with old | ⟨rfl, rfl⟩
    · exact holds.placed _ n content old
    · exact ⟨rfl, writes.row_version holds⟩
  · intro n content edition
    rw [Editions.reign?_publish]
    rcases Editions.publish_cases edition with old | ⟨rfl, rfl⟩
    · exact writes.displays_other (holds.displayed _ n content old)
    · rw [unborn]
      exact writes.displays_row holds
  · intro other member apart
    have present := Table.get?_of_mem member
    exact ⟨Table.get?_of_insertNew inserted present,
      writes.history_other (Table.insertNew_fresh inserted other member)⟩
  · intro other member same
    rcases (Table.mem_insertNew inserted other).mp member with old | rfl
    · obtain ⟨n, content, edition, key⟩ := holds.covered other old
      rw [same] at edition
      have below := (List.getElem?_eq_some_iff.mp edition).1
      refine ⟨n, content, ?_, key⟩
      rw [Editions.contents_publish, List.getElem?_append_left below]
      exact edition
    · exact ⟨_, other, by rw [Editions.contents_publish, List.getElem?_concat_length], rfl⟩
  · intro other member apart
    rcases (Table.mem_insertNew inserted other).mp member with old | rfl
    · exact old
    · exact absurd rfl apart
  · intro event member
    rw [writes.events] at member
    rcases List.mem_cons.mp member with rfl | old
    · exact ⟨row, (Table.mem_insertNew inserted row).mpr (.inr rfl), writes.event_key.symm⟩
    · obtain ⟨origin, present, key⟩ := holds.known event old
      exact ⟨origin, (Table.mem_insertNew inserted origin).mpr (.inl present), key⟩

end Publication

section Activation

variable {registry : BundleRegistry} {store next : PolicyStore} {row target : PolicyVersionRow}
  {previous : Option PolicyVersionRow} {call : ActivateCall} {series : Series}

/-- What a successful activation did to the row of its target, to that of the version that was
active, and to no other. -/
structure Activates (call : ActivateCall) (store next : PolicyStore) (target : PolicyVersionRow)
    (previous : Option PolicyVersionRow) : Prop where
  target_row : next.versions.get? target.key = some (activatedBundle call target)
  target_history : next.history target.key =
    (.activated, call.occurredAt) :: store.history target.key
  previous_row : ∀ row ∈ previous,
    next.versions.get? row.key = some (supersededBundle call row)
  previous_history : ∀ row ∈ previous,
    next.history row.key = (.superseded, call.occurredAt) :: store.history row.key
  other_row : ∀ key, key ≠ target.key → (∀ row ∈ previous, key ≠ row.key) →
    next.versions.get? key = store.versions.get? key
  other_history : ∀ key, key ≠ target.key → (∀ row ∈ previous, key ≠ row.key) →
    next.history key = store.history key
  events : ∀ event ∈ next.events, event ∈ store.events ∨ event.key = target.key ∨
    ∃ row ∈ previous, event.key = row.key

theorem activeBundle?_spec (found : activeBundle? store.versions series = some row) :
    row ∈ store.versions ∧ row.series = series ∧ row.state = .active := by
  have holds := List.find?_some found
  rw [decide_eq_true_eq] at holds
  exact ⟨List.mem_of_find?_eq_some found, holds⟩

theorem activeBundle?_none (vacant : activeBundle? store.versions series = none) :
    ∀ row ∈ store.versions, row.series = series → row.state ≠ .active := by
  intro row member same active
  have absent := List.find?_eq_none.mp vacant row member
  rw [decide_eq_true_eq] at absent
  exact absent ⟨same, active⟩

theorem updateVersion_eq_ok {versions updated : PolicyVersionTable}
    (succeeded : updateVersion row versions = .ok updated) : updated = versions.replace row := by
  simp only [updateVersion, Checked.bind_eq_ok, Checked.require_eq_ok, Checked.pure_eq_ok,
    exists_const] at succeeded
  obtain ⟨_, _, _, rfl⟩ := succeeded
  rfl

/-- The store after one row has been rewritten and an event recorded of it. -/
def touched (store : PolicyStore) (row : PolicyVersionRow) (event : PolicyBundleEvent) :
    PolicyStore := ⟨store.versions.replace row, event :: store.events⟩

section Touched

variable {old : PolicyVersionRow} {event : PolicyBundleEvent} {key : ScriptString × ScriptString}

theorem touched_row (row : PolicyVersionRow) (found : store.versions.get? row.key = some old) :
    (touched store row event).versions.get? row.key = some row := by
  rw [touched, Table.get?_replace _ found, if_pos rfl]

theorem touched_row_other (row : PolicyVersionRow)
    (found : store.versions.get? row.key = some old)
    (apart : key ≠ row.key) :
    (touched store row event).versions.get? key = store.versions.get? key := by
  rw [touched, Table.get?_replace _ found, if_neg apart.symm]

theorem touched_history (about : event.key = key) :
    (touched store row event).history key =
      (event.eventType, event.occurredAt) :: store.history key := by
  rw [touched, history_cons_self about]
  rfl

theorem touched_history_other (apart : event.key ≠ key) :
    (touched store row event).history key = store.history key := by
  rw [touched, history_cons_other apart]
  rfl

end Touched

section Written

variable {old : PolicyVersionRow} {event first : PolicyBundleEvent}

theorem activates_touched (found : store.versions.get? target.key = some target)
    (about : event.key = target.key) (kind : event.eventType = .activated)
    (stamp : event.occurredAt = call.occurredAt) :
    Activates call store (touched store (activatedBundle call target) event) target none where
  target_row := touched_row (activatedBundle call target) found
  target_history := by rw [touched_history about, kind, stamp]
  previous_row := nofun
  previous_history := nofun
  other_row := by
    intro key apart _
    exact touched_row_other (activatedBundle call target) found apart
  other_history := by
    intro key apart _
    exact touched_history_other (by rw [about]; exact apart.symm)
  events := by
    intro other member
    rcases List.mem_cons.mp member with rfl | old
    · exact .inr (.inl about)
    · exact .inl old

theorem activates_superseding (held : store.versions.get? old.key = some old)
    (found : store.versions.get? target.key = some target) (apart : old.key ≠ target.key)
    (aboutOld : first.key = old.key) (kindOld : first.eventType = .superseded)
    (stampOld : first.occurredAt = call.occurredAt) (about : event.key = target.key)
    (kind : event.eventType = .activated) (stamp : event.occurredAt = call.occurredAt) :
    Activates call store
      (touched (touched store (supersededBundle call old) first) (activatedBundle call target)
        event) target (some old) := by
  have rewritten : (touched store (supersededBundle call old) first).versions.get? old.key =
      some (supersededBundle call old) := touched_row (supersededBundle call old) held
  have between : (touched store (supersededBundle call old) first).versions.get? target.key =
      some target := by
    rw [touched_row_other (supersededBundle call old) held apart.symm]
    exact found
  constructor
  · exact touched_row (activatedBundle call target) between
  · rw [touched_history about, touched_history_other (by rw [aboutOld]; exact apart), kind, stamp]
  · intro row same
    cases same
    exact (touched_row_other (activatedBundle call target) between apart).trans rewritten
  · intro row same
    cases same
    rw [touched_history_other (by rw [about]; exact apart.symm), touched_history aboutOld, kindOld,
      stampOld]
  · intro key notTarget notOld
    have other : key ≠ old.key := notOld old rfl
    exact (touched_row_other (activatedBundle call target) between notTarget).trans
      (touched_row_other (supersededBundle call old) held other)
  · intro key notTarget notOld
    have other : key ≠ old.key := notOld old rfl
    rw [touched_history_other (by rw [about]; exact notTarget.symm),
      touched_history_other (by rw [aboutOld]; exact other.symm)]
  · intro other member
    rcases List.mem_cons.mp member with rfl | earlier
    · exact .inr (.inl about)
    · rcases List.mem_cons.mp earlier with rfl | oldest
      · exact .inr (.inr ⟨old, rfl, aboutOld⟩)
      · exact .inl oldest

end Written

theorem activatePolicyBundle_writes
    (succeeded : activatePolicyBundle call store = .ok (next, row)) : ∃ target,
      store.versions.get? (call.session.tenantId, call.policyVersionId) = some target ∧
      target.state = .published ∧ row = activatedBundle call target ∧
      (∀ old ∈ activeBundle? store.versions target.series, ∀ activated ∈ old.activatedAt,
        activated ≤ call.occurredAt) ∧
      Activates call store next target (activeBundle? store.versions target.series) := by
  simp only [activatePolicyBundle, Checked.bind_eq_ok, Checked.require_eq_ok,
    Checked.requireSome_eq_ok, Checked.pure_eq_ok, exists_const, Prod.mk.injEq] at succeeded
  obtain ⟨_, _, _, target, found, ⟨published, _⟩, between, superseded, versions, updated, rfl,
    rfl⟩ := succeeded
  obtain rfl := updateVersion_eq_ok updated
  have same : target.key = (call.session.tenantId, call.policyVersionId) := Table.get?_key found
  refine ⟨target, found, published, rfl, ?_⟩
  rw [← same] at found
  have about : (call.event .activated call.policyVersionId
      ((activeBundle? store.versions target.series).map (·.policyVersionId))).key = target.key :=
    same.symm
  cases latest : activeBundle? store.versions target.series with
  | none =>
      rw [latest, supersedeBundle, Except.ok.injEq] at superseded
      subst superseded
      rw [latest] at about
      exact ⟨fun _ held => absurd held (Option.not_mem_none _),
        activates_touched found about rfl rfl⟩
  | some old =>
      rw [latest] at superseded about
      simp only [supersedeBundle, Checked.bind_eq_ok, Checked.require_eq_ok, Checked.pure_eq_ok,
        exists_const] at superseded
      obtain ⟨earlier, versions, rewritten, rfl⟩ := superseded
      obtain rfl := updateVersion_eq_ok rewritten
      obtain ⟨member, series, active⟩ := activeBundle?_spec latest
      have apart : old.key ≠ target.key := by
        intro same
        have rows := store.versions.unique member (Table.get?_mem found) same
        rw [rows, published] at active
        cases active
      have tenant : old.tenantId = call.session.tenantId := by
        calc
          old.tenantId = target.tenantId := congrArg Prod.fst series
          _ = call.session.tenantId := congrArg Prod.fst same
      have aboutOld : (call.event .superseded old.policyVersionId
          (some old.policyVersionId)).key = old.key := by
        rw [PolicyVersionRow.key, tenant]
        rfl
      refine ⟨?_, activates_superseding (Table.get?_of_mem member) found apart aboutOld rfl rfl
        about rfl rfl⟩
      intro other held
      cases held
      exact earlier

/-- The row that an activation finds active is the edition in force. -/
theorem activeBundle?_current (holds : registry.Shows store) {n : Nat}
    {content : PolicyVersionRow} {since : Timestamp}
    (edition : (registry series).contents[n]? = some content)
    (reigned : (registry series).reign? n = some (since, none)) :
    ∃ old, activeBundle? store.versions series = some old ∧ old.key = content.key ∧
      old = content.shown (some (since, none)) old.updatedAt := by
  obtain ⟨current, present, sameSeries, _, same⟩ := holds.row_of edition
  have active : current.state = .active := by
    rw [same, reigned]
    rfl
  cases found : activeBundle? store.versions series with
  | none => exact absurd active (activeBundle?_none found current present sameSeries)
  | some old =>
      obtain ⟨member, here, oldActive⟩ := activeBundle?_spec found
      obtain rfl : old = current :=
        holds.active_unique member present (here.trans sameSeries.symm) oldActive active
      rw [reigned] at same
      exact ⟨old, rfl, by rw [same]; rfl, same⟩

/-- An identifier is the target's, that of the version that was active, or its row is kept. -/
theorem Activates.key_cases (writes : Activates call store next target previous)
    (key : ScriptString × ScriptString) :
    key = target.key ∨ (∃ old ∈ previous, key = old.key) ∨
      next.versions.get? key = store.versions.get? key := by
  by_cases isTarget : key = target.key
  · exact .inl isTarget
  by_cases isPrevious : ∃ old ∈ previous, key = old.key
  · exact .inr (.inl isPrevious)
  · have apart : ∀ old ∈ previous, key ≠ old.key := fun old held same =>
      isPrevious ⟨old, held, same⟩
    exact .inr (.inr (writes.other_row key isTarget apart))

theorem Activates.mem_cases (writes : Activates call store next target previous)
    (member : row ∈ next.versions) :
    row ∈ store.versions ∨ row = activatedBundle call target ∨
      ∃ old ∈ previous, row = supersededBundle call old := by
  have found := Table.get?_of_mem member
  rcases writes.key_cases row.key with isTarget | ⟨old, held, same⟩ | kept
  · rw [isTarget, writes.target_row] at found
    exact .inr (.inl (Option.some.inj found).symm)
  · rw [same, writes.previous_row old held] at found
    exact .inr (.inr ⟨old, held, (Option.some.inj found).symm⟩)
  · rw [kept] at found
    exact .inl (Table.get?_mem found)

theorem Activates.kept (writes : Activates call store next target previous)
    (member : row ∈ store.versions) : ∃ row' ∈ next.versions, row'.key = row.key := by
  rcases writes.key_cases row.key with isTarget | ⟨old, held, same⟩ | kept
  · exact ⟨_, Table.get?_mem writes.target_row, isTarget.symm⟩
  · exact ⟨_, Table.get?_mem (writes.previous_row old held), same.symm⟩
  · have found := Table.get?_of_mem member
    rw [← kept] at found
    exact ⟨row, Table.get?_mem found, rfl⟩

/-- An activation keeps the rows of the other series and their events. -/
theorem Activates.foreign_kept
    (writes : Activates call store next target (activeBundle? store.versions target.series))
    (member : target ∈ store.versions) (present : row ∈ store.versions)
    (foreign : row.series ≠ target.series) :
    next.versions.get? row.key = some row ∧ next.history row.key = store.history row.key := by
  have notTarget : row.key ≠ target.key := by
    intro key
    exact foreign (congrArg PolicyVersionRow.series (store.versions.unique present member key))
  have notOld : ∀ old ∈ activeBundle? store.versions target.series, row.key ≠ old.key := by
    intro old held key
    obtain ⟨oldMember, oldSeries, _⟩ := activeBundle?_spec held
    rw [store.versions.unique present oldMember key] at foreign
    exact foreign oldSeries
  rw [writes.other_row _ notTarget notOld]
  exact ⟨Table.get?_of_mem present, writes.other_history _ notTarget notOld⟩

/-- The edition that is activated is ready for it. -/
theorem ready_target (holds : registry.Shows store) (member : target ∈ store.versions)
    (published : target.state = .published)
    (earlier : ∀ old ∈ activeBundle? store.versions target.series,
      ∀ activated ∈ old.activatedAt, activated ≤ call.occurredAt) :
    (registry target.series).Ready (target.bundleVersion - 1) call.occurredAt := by
  obtain ⟨content, edition, _, same⟩ := holds.position_at member
  rw [same] at published
  have unborn := bundleState_eq_published.mp published
  refine ⟨(List.getElem?_eq_some_iff.mp edition).1, Editions.reign?_eq_none.mp unborn, ?_⟩
  cases current : (registry target.series).current? with
  | none =>
      rw [Editions.activations_of_current?_none current]
      exact fun _ absent => absurd absent List.not_mem_nil
  | some n =>
      obtain ⟨since, reigned⟩ := Editions.current?_eq_some.mp current
      have below := Editions.current?_lt current
      obtain ⟨old, found, _, row⟩ :=
        activeBundle?_current holds (List.getElem?_eq_getElem below) reigned
      have activated : old.activatedAt = some since := by
        rw [row]
        rfl
      intro activation listed
      exact (Editions.activation_le reigned activation listed).trans
        (earlier old found since activated)

section Displayed

variable {n : Nat} {content : PolicyVersionRow}

theorem displays_target (holds : registry.Shows store)
    (writes : Activates call store next target previous) (member : target ∈ store.versions)
    (published : target.state = .published)
    (edition : (registry target.series).contents[n]? = some content)
    (same : content.key = target.key) :
    next.Displays content (some (call.occurredAt, none)) := by
  obtain ⟨⟨updatedAt, found⟩, recorded⟩ := holds.displayed _ n content edition
  rw [same, Table.get?_of_mem member, Option.some.injEq] at found
  rw [found] at published
  rw [bundleState_eq_published.mp published] at found recorded
  constructor
  · refine ⟨max call.session.clock call.occurredAt, ?_⟩
    rw [same, writes.target_row, found]
    rfl
  · rw [same, writes.target_history, ← same, recorded]
    rfl

theorem displays_other (holds : registry.Shows store)
    (writes : Activates call store next target (activeBundle? store.versions target.series))
    (edition : (registry target.series).contents[n]? = some content)
    (apart : content.key ≠ target.key) :
    next.Displays content (((registry target.series).reign? n).map fun reign =>
      (reign.1, some (reign.2.getD call.occurredAt))) := by
  obtain ⟨⟨updatedAt, found⟩, recorded⟩ := holds.displayed _ n content edition
  have untouched : bundleState ((registry target.series).reign? n) ≠ .active →
      next.Displays content ((registry target.series).reign? n) := by
    intro inactive
    have notOld : ∀ old ∈ activeBundle? store.versions target.series, content.key ≠ old.key := by
      intro old held same
      obtain ⟨present, _, active⟩ := activeBundle?_spec held
      rw [same, Table.get?_of_mem present, Option.some.injEq] at found
      rw [found] at active
      exact inactive active
    exact ⟨⟨updatedAt, (writes.other_row _ apart notOld).trans found⟩,
      (writes.other_history _ apart notOld).trans recorded⟩
  rcases reigned : (registry target.series).reign? n with _ | ⟨since, _ | ended⟩
  · rw [reigned] at untouched
    exact untouched (by simp [bundleState])
  · rw [reigned] at recorded
    obtain ⟨old, held, key, row⟩ := activeBundle?_current holds edition reigned
    constructor
    · refine ⟨max call.session.clock call.occurredAt, ?_⟩
      rw [← key, writes.previous_row old held, row]
      rfl
    · rw [← key, writes.previous_history old held, key, recorded]
      rfl
  · rw [reigned] at untouched
    exact untouched (by simp [bundleState])

end Displayed

/-- An activation brings its target into force in the place of the version that was active. -/
theorem shows_activated (holds : registry.Shows store)
    (succeeded : activatePolicyBundle call store = .ok (next, row)) :
    (registry.activate row call.occurredAt).Shows next := by
  obtain ⟨target, found, published, written, earlier, writes⟩ :=
    activatePolicyBundle_writes succeeded
  have member := Table.get?_mem found
  have ready := ready_target holds member published earlier
  have sameSeries : row.series = target.series := by rw [written]; rfl
  have sameVersion : row.bundleVersion = target.bundleVersion := by rw [written]; rfl
  rw [activate, sameSeries, sameVersion, dif_pos ready]
  obtain ⟨content, edition, _, shownTarget⟩ := holds.position_at member
  have targetKey : content.key = target.key := by rw [shownTarget]; rfl
  apply holds.update
  · exact fun n content edition => holds.placed _ n content edition
  · intro n other otherEdition
    by_cases same : n = target.bundleVersion - 1
    · rw [same, Editions.contents_activate, edition] at otherEdition
      cases otherEdition
      rw [same, Editions.reign?_activate_self]
      exact displays_target holds writes member published edition targetKey
    · rw [Editions.reign?_activate_other ready same]
      refine displays_other holds writes otherEdition fun key => same ?_
      exact (holds.unique otherEdition edition (key.trans targetKey.symm)).2
  · exact fun other present foreign => writes.foreign_kept member present foreign
  · intro other present sameSeries
    rcases writes.mem_cases present with old | rfl | ⟨old, held, rfl⟩
    · have covered := holds.covered other old
      rw [sameSeries] at covered
      exact covered
    · exact holds.covered target member
    · have covered := holds.covered old (activeBundle?_spec held).1
      rw [(activeBundle?_spec held).2.1] at covered
      exact covered
  · intro other present foreign
    rcases writes.mem_cases present with old | rfl | ⟨old, held, rfl⟩
    · exact old
    · exact absurd rfl foreign
    · exact absurd (activeBundle?_spec held).2.1 foreign
  · intro event recorded
    rcases writes.events event recorded with old | key | ⟨old, held, key⟩
    · obtain ⟨origin, present, key⟩ := holds.known event old
      obtain ⟨row, present', key'⟩ := writes.kept present
      exact ⟨row, present', key'.trans key⟩
    · exact ⟨_, Table.get?_mem writes.target_row, key.symm⟩
    · exact ⟨_, Table.get?_mem (writes.previous_row old held), key.symm⟩

end Activation

theorem shows_empty : BundleRegistry.empty.Shows .empty where
  placed := fun _ _ _ edition => nomatch edition
  displayed := fun _ _ _ edition => nomatch edition
  covered := fun row member => absurd member (Table.not_mem_empty row)
  known := fun _ member => absurd member List.not_mem_nil

theorem shows_step {crypto : Crypto} {time : TimeText} {registry : BundleRegistry}
    {store next : PolicyStore} {call : PolicyBundleCall} {row : PolicyVersionRow}
    (holds : registry.Shows store)
    (succeeded : applyBundle crypto time call store = .ok (next, row)) :
    (registry.record (call, row)).Shows next := by
  cases call with
  | publish call => exact shows_published holds succeeded
  | activate call => exact shows_activated holds succeeded

end BundleRegistry

section Runs

variable (crypto : Crypto) (time : TimeText)

/-- What the accepted calls of a run made of the series. -/
def registryOf (calls : List PolicyBundleCall) : BundleRegistry :=
  (Transaction.accepted (applyBundle crypto time) .empty calls).foldl BundleRegistry.record .empty

/-- Every edition is the row that one of these publications wrote, with the document that the text
of its call reads as. -/
def WrittenBy (served : List (PolicyBundleCall × PolicyVersionRow)) : Prop :=
  ∀ (series : Series) (n : Nat) (row : PolicyVersionRow),
    (served.foldl BundleRegistry.record .empty series).contents[n]? = some row →
    ∃ call document previous, (PolicyBundleCall.publish call, row) ∈ served ∧
      jsonb? call.bundleCanonicalJson = some document ∧ row = publishedRow call document previous

variable {crypto time}

theorem WrittenBy.step {served : List (PolicyBundleCall × PolicyVersionRow)}
    {store next : PolicyStore} {op : PolicyBundleCall} {reply : PolicyVersionRow}
    (written : WrittenBy served) (applied : applyBundle crypto time op store = .ok (next, reply)) :
    WrittenBy (served ++ [(op, reply)]) := by
  intro series n row edition
  rw [List.foldl_concat] at edition
  have earlier : (served.foldl BundleRegistry.record .empty series).contents[n]? = some row →
      ∃ call document previous, (PolicyBundleCall.publish call, row) ∈ served ++ [(op, reply)] ∧
        jsonb? call.bundleCanonicalJson = some document ∧
        row = publishedRow call document previous := by
    intro old
    obtain ⟨call, document, previous, member, carried⟩ := written series n row old
    exact ⟨call, document, previous, List.mem_append_left _ member, carried⟩
  cases op with
  | publish call =>
      rcases BundleRegistry.contents_publish edition with old | rfl
      · exact earlier old
      · obtain ⟨document, previous, read, same⟩ :=
          (BundleRegistry.publishPolicyBundle_writes applied).written
        exact ⟨call, document, previous, List.mem_append_right _ List.mem_cons_self, read, same⟩
  | activate call =>
      rw [BundleRegistry.record, BundleRegistry.contents_activate] at edition
      exact earlier edition

variable (crypto time)

theorem accepted_written (calls : List PolicyBundleCall) :
    WrittenBy (Transaction.accepted (applyBundle crypto time) .empty calls) := by
  have start : WrittenBy [] := fun _ _ _ absent => nomatch absent
  have written : WrittenBy ([] ++ Transaction.accepted (applyBundle crypto time) .empty calls) :=
    Transaction.run_recorded (fun served _ => WrittenBy served) (fun _ _ _ _ _ => .step) start calls
  exact written

theorem edition_published (calls : List PolicyBundleCall) {series : Series} {n : Nat}
    {row : PolicyVersionRow}
    (edition : (registryOf crypto time calls series).contents[n]? = some row) :
    ∃ call document previous, PolicyBundleCall.publish call ∈ calls ∧
      jsonb? call.bundleCanonicalJson = some document ∧
      row = publishedRow call document previous := by
  obtain ⟨call, document, previous, member, carried⟩ :=
    accepted_written crypto time calls series n row edition
  exact ⟨call, document, previous, Transaction.mem_of_accepted member, carried⟩

/-- After every run of publications and activations the rows and the events are those of the
series, and every edition of a series is what its publication wrote. -/
theorem bundles_shown (calls : List PolicyBundleCall) :
    (registryOf crypto time calls).Shows (runBundles crypto time .empty calls) ∧
      WrittenBy (Transaction.accepted (applyBundle crypto time) .empty calls) :=
  ⟨Transaction.run_simulated (fun _ _ _ _ _ => BundleRegistry.shows_step)
    BundleRegistry.shows_empty calls, accepted_written crypto time calls⟩

end Runs

end TenantTrust.Policy
