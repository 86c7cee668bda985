import TenantTrust.Trust.GuardOutcomes
import TenantTrust.Trust.KeyRegistry

/-! What a call of the registry or of the guard can do to one source and its keys. -/

namespace TenantTrust.Trust

open Library Identity

def SourceControlEvent.source (event : SourceControlEvent) : SourceKey :=
  (event.tenantId, event.sourceId)

/-- The rows of one source in the tables that the calls write. -/
structure SourceRecord where
  row : Option EvidenceSource
  history : List EvidenceSourceKey
  controls : List SourceControlEvent

namespace SourceRecord

def active? (record : SourceRecord) : Option EvidenceSourceKey :=
  record.history.find? fun row => row.state = .active

end SourceRecord

def KeyRegistry.record (registry : KeyRegistry) (source : SourceKey) : SourceRecord where
  row := registry.source? source
  history := registry.keys.history source
  controls := registry.evidence.controlEvents.filter fun event => event.source = source

/-- A key of a history gets another state. -/
def setKeyState (row : EvidenceSourceKey) (state : EvidenceSourceKeyState)
    (updatedAt : Instant) (history : List EvidenceSourceKey) : List EvidenceSourceKey :=
  history.map fun other =>
    if other.key = row.key then row.withState state updatedAt else other

/-- The life of a source as the calls move it. -/
inductive SourceMove (sha256 : Bytes → Sha256Digest) (source : SourceKey) :
    RegistryOp → SourceRecord → SourceRecord → Prop where
  | idle (op : RegistryOp) (record : SourceRecord) :
      (∀ actor call, op = .setSuspension actor call →
        (actor.tenantId, call.sourceId) ≠ source) →
      SourceMove sha256 source op record record
  | configured (actor : RegistryActor) (call : SafeguardsCall) (old new : EvidenceSource)
      (event : SourceControlEvent) (history : List EvidenceSourceKey)
      (controls : List SourceControlEvent) :
      new.state = old.state → new.verificationKeySha256 = old.verificationKeySha256 →
      event.eventType = .configured actor.subjectId →
      SourceMove sha256 source (.configure actor call) ⟨some old, history, controls⟩
        ⟨some new, history, controls ++ [event]⟩
  | enrolled (actor : RegistryActor) (call : KeyCall) (old : EvidenceSource)
      (updatedAt : Instant) (controls : List SourceControlEvent) :
      (actor.tenantId, call.sourceId) = source → old.state = .planned →
      SourceMove sha256 source (.enroll actor call) ⟨some old, [], controls⟩
        ⟨some (old.withKey (sha256 call.publicKey.material) .active updatedAt),
          [call.row sha256 actor 1], controls⟩
  | rotated (actor : RegistryActor) (call : KeyCall) (old : EvidenceSource)
      (current : EvidenceSourceKey) (updatedAt : Instant)
      (history ended : List EvidenceSourceKey) (controls : List SourceControlEvent) :
      (actor.tenantId, call.sourceId) = source →
      old.state = .active ∨ old.state = .suspended →
      history.find? (fun row => row.state = .active) = some current →
      ended = setKeyState current (.rotated ⟨actor.subjectId, call.at_⟩) updatedAt history →
      (∀ row ∈ ended, row.state ≠ .active) →
      (∀ row ∈ ended, row.publicKeySha256 ≠ sha256 call.publicKey.material) →
      SourceMove sha256 source (.rotate actor call) ⟨some old, history, controls⟩
        ⟨some (old.withKey (sha256 call.publicKey.material) .active updatedAt),
          ended ++ [call.row sha256 actor
            ((ended.map EvidenceSourceKey.keyVersion).foldl max 0 + 1)], controls⟩
  | recovered (actor : RegistryActor) (call : KeyCall) (old : EvidenceSource)
      (updatedAt : Instant) (history : List EvidenceSourceKey)
      (controls : List SourceControlEvent) :
      (actor.tenantId, call.sourceId) = source → old.state = .suspended → history ≠ [] →
      history.find? (fun row => row.state = .active) = none →
      (∀ row ∈ history, row.publicKeySha256 ≠ sha256 call.publicKey.material) →
      SourceMove sha256 source (.rotate actor call) ⟨some old, history, controls⟩
        ⟨some (old.withKey (sha256 call.publicKey.material) .active updatedAt),
          history ++ [call.row sha256 actor
            ((history.map EvidenceSourceKey.keyVersion).foldl max 0 + 1)], controls⟩
  | revoked (actor : RegistryActor) (call : KeyRevocationCall) (old : EvidenceSource)
      (row : EvidenceSourceKey) (rotation : Option KeyRotation) (revocation : KeyRevocation)
      (updatedAt : Instant) (history : List EvidenceSourceKey)
      (controls : List SourceControlEvent) :
      row ∈ history → row.state.isRevoked = false →
      SourceMove sha256 source (.revoke actor call) ⟨some old, history, controls⟩
        ⟨some (old.afterRevocation row updatedAt),
          setKeyState row (.revoked rotation revocation) updatedAt history, controls⟩
  | suspended (actor : RegistryActor) (call : SuspensionCall) (old : EvidenceSource)
      (event : SourceControlEvent) (updatedAt : Instant) (history : List EvidenceSourceKey)
      (controls : List SourceControlEvent) :
      (actor.tenantId, call.sourceId) = source → call.suspended = some true → old.state = .active →
      event.eventType = .suspended actor.subjectId →
      SourceMove sha256 source (.setSuspension actor call) ⟨some old, history, controls⟩
        ⟨some (old.withState .suspended updatedAt), history, controls ++ [event]⟩
  | resumed (actor : RegistryActor) (call : SuspensionCall) (old : EvidenceSource)
      (event : SourceControlEvent) (updatedAt : Instant) (history : List EvidenceSourceKey)
      (controls : List SourceControlEvent) :
      (actor.tenantId, call.sourceId) = source → call.suspended ≠ some true →
      (call.suspended = some false → old.state = .suspended) →
      old.verificationKeySha256.isSome = true →
      event.eventType = .resumed actor.subjectId →
      SourceMove sha256 source (.setSuspension actor call) ⟨some old, history, controls⟩
        ⟨some (old.withState .active updatedAt), history, controls ++ [event]⟩
  | flooded (view : TenantView) (now innerNow : Instant) (candidate : ReplayCandidate)
      (old : EvidenceSource) (event : SourceControlEvent) (updatedAt : Instant)
      (history : List EvidenceSourceKey) (controls : List SourceControlEvent) :
      candidate.source = source → old.state = .active →
      event.eventType = .automaticallySuspended →
      SourceMove sha256 source (.submit view now innerNow candidate)
        ⟨some old, history, controls⟩
        ⟨some (old.withState .suspended updatedAt), history, controls ++ [event]⟩

@[simp] theorem KeyCall.row_source (p : KeyCall) (sha256 : Bytes → Sha256Digest)
    (actor : RegistryActor) (keyVersion : Nat) :
    (p.row sha256 actor keyVersion).source = (actor.tenantId, p.sourceId) := rfl

namespace EvidenceSourceKeys

variable {keys next : EvidenceSourceKeys} {row : EvidenceSourceKey} {source : SourceKey}

theorem mem_history : row ∈ keys.history source ↔ row ∈ keys ∧ row.source = source := by
  simp [history, Table.mem_def]

theorem active?_eq_some (found : keys.active? source = some row) :
    row ∈ keys ∧ row.source = source ∧ row.state = .active := by
  have member := mem_history.mp (List.mem_of_find?_eq_some found)
  have holds := List.find?_some found
  exact ⟨member.1, member.2, by simpa using holds⟩

theorem history_replace (state : EvidenceSourceKeyState) (updatedAt : Instant)
    (source : SourceKey) : history (keys.replace (row.withState state updatedAt)) source =
      setKeyState row state updatedAt (keys.history source) := by
  have keeps : ∀ other : EvidenceSourceKey,
      (if other.key = row.key then row.withState state updatedAt else other).source =
        other.source := by
    intro other
    split
    · rename_i same
      have parts := Prod.mk.inj same
      exact Prod.ext parts.1.symm (Prod.mk.inj parts.2).1.symm
    · rfl
  change List.filter _ (keys.rows.map _) = List.map _ (List.filter _ keys.rows)
  rw [List.filter_map]
  congr 1
  refine List.filter_congr fun other _ => ?_
  simp only [Function.comp_apply]
  exact decide_eq_decide.mpr (by rw [← keeps other]; rfl)

theorem setKeyState_elsewhere (state : EvidenceSourceKeyState) (updatedAt : Instant)
    (different : row.source ≠ source) :
    setKeyState row state updatedAt (keys.history source) = keys.history source := by
  refine (List.map_congr_left ?_).trans (List.map_id _)
  intro other member
  rw [if_neg, id]
  intro same
  have parts := Prod.mk.inj same
  have owner := (mem_history.mp member).2
  apply different
  rw [← owner]
  exact Prod.ext parts.1.symm (Prod.mk.inj parts.2).1.symm

/-- What an insertion has checked. -/
structure Inserts (row : EvidenceSourceKey) (keys next : EvidenceSourceKeys) : Prop where
  inserted : keys.insertNew row = some next
  newMaterial : ∀ other ∈ keys.history row.source, other.publicKeySha256 ≠ row.publicKeySha256
  noneActive : ∀ other ∈ keys.history row.source, other.state ≠ .active

theorem Inserts.history_self (inserts : Inserts row keys next) :
    next.history row.source = keys.history row.source ++ [row] := by
  rw [history, Table.insertNew_rows inserts.inserted, List.filter_append]
  simp [history]

theorem Inserts.history_elsewhere (inserts : Inserts row keys next)
    (different : row.source ≠ source) : next.history source = keys.history source := by
  rw [history, Table.insertNew_rows inserts.inserted, List.filter_append]
  simp [history, different]

theorem insertKey_eq_ok (succeeded : keys.insertKey row = .ok next) : Inserts row keys next := by
  simp only [insertKey, Checked.bind_eq_ok, Checked.require_eq_ok, Checked.requireSome_eq_ok,
    Checked.pure_eq_ok, exists_const] at succeeded
  obtain ⟨_, _, inserted, _, material, inactive, rfl⟩ := succeeded
  exact ⟨inserted, material, inactive⟩

theorem updateKey_eq_ok {state : EvidenceSourceKeyState} {updatedAt : Instant}
    (succeeded : keys.updateKey row state updatedAt = .ok next) :
    next = keys.replace (row.withState state updatedAt) := by
  simp only [updateKey, Checked.bind_eq_ok, Checked.require_eq_ok, Checked.pure_eq_ok,
    exists_const] at succeeded
  exact succeeded.2.symm

theorem rotateCurrentKey_eq_ok {actor : RegistryActor} {at_ : Instant}
    {current : Option EvidenceSourceKey}
    (succeeded : rotateCurrentKey actor at_ current keys = .ok next) :
    (current = none ∧ next = keys) ∨ ∃ row, current = some row ∧
      next = keys.replace (row.withState (.rotated ⟨actor.subjectId, at_⟩)
        (max actor.clock at_)) := by
  cases current with
  | none =>
      left
      exact ⟨rfl, (Except.ok.inj succeeded).symm⟩
  | some row =>
      right
      exact ⟨row, rfl, updateKey_eq_ok succeeded⟩

end EvidenceSourceKeys

namespace KeyRegistry

open EvidenceSourceKeys

variable {sha256 : Bytes → Sha256Digest} {registry next : KeyRegistry} {actor : RegistryActor}
  {change : KeyChange} {source : SourceKey}

theorem storeSource_tables {stored : EvidenceSource} {before after : EvidenceDatabase}
    (succeeded : storeSource stored before = .ok after) :
    after.sources = before.sources.upsert stored ∧ after.controlEvents = before.controlEvents := by
  obtain ⟨_, rfl⟩ := storeSource_eq_ok succeeded
  exact ⟨rfl, rfl⟩

/-- A call that stores the row of a source. -/
theorem record_at {stored : EvidenceSource} {evidence : EvidenceDatabase}
    (sources : evidence.sources = registry.evidence.sources.upsert stored)
    (owner : stored.key = source) (keys : EvidenceSourceKeys) :
    record ⟨evidence, keys⟩ source = ⟨some stored, keys.history source,
      evidence.controlEvents.filter fun event => event.source = source⟩ := by
  rw [record, source?, sources, Table.get?_upsert, if_pos owner]

/-- A call that stores the row of another source. -/
theorem record_elsewhere {stored : EvidenceSource} {evidence : EvidenceDatabase}
    (sources : evidence.sources = registry.evidence.sources.upsert stored)
    (elsewhere : stored.key ≠ source) {keys : EvidenceSourceKeys}
    (history : keys.history source = registry.keys.history source)
    (controls : (evidence.controlEvents.filter fun event => event.source = source) =
      registry.evidence.controlEvents.filter fun event => event.source = source) :
    record ⟨evidence, keys⟩ source = registry.record source := by
  rw [record, source?, sources, Table.get?_upsert, if_neg elsewhere, history, controls]
  rfl

theorem record_registered {old : EvidenceSource} (registered : registry.source? source = some old) :
    registry.record source =
      ⟨some old, registry.keys.history source, (registry.record source).controls⟩ := by
  rw [record, registered]

theorem controls_append_self {event : SourceControlEvent} (events : List SourceControlEvent)
    (same : event.source = source) :
    ((events ++ [event]).filter fun other => other.source = source) =
      (events.filter fun other => other.source = source) ++ [event] := by
  rw [List.filter_append]
  simp [same]

theorem controls_elsewhere {event : SourceControlEvent} {before after : List SourceControlEvent}
    (controls : after = before ++ [event]) (different : event.source ≠ source) :
    (after.filter fun other => other.source = source) =
      before.filter fun other => other.source = source := by
  rw [controls, List.filter_append]
  simp [different]

theorem enroll_moves {p : KeyCall}
    (succeeded : enrollEvidenceSource sha256 actor p registry = .ok (next, change))
    (source : SourceKey) :
    SourceMove sha256 source (.enroll actor p) (registry.record source) (next.record source) := by
  simp only [enrollEvidenceSource, Checked.bind_eq_ok, Checked.require_eq_ok,
    Checked.requireSome_eq_ok, Checked.pure_eq_ok, exists_const, Prod.mk.injEq] at succeeded
  obtain ⟨_, _, old, registered, ⟨planned, _, _, unused⟩, keys, inserted, evidence, stored,
    rfl, _⟩ := succeeded
  obtain ⟨sources, controls⟩ := storeSource_tables stored
  have inserts := insertKey_eq_ok inserted
  have owner : old.key = (actor.tenantId, p.sourceId) := Table.get?_key registered
  by_cases target : (actor.tenantId, p.sourceId) = source
  · subst target
    have history := inserts.history_self
    rw [KeyCall.row_source, unused, List.nil_append] at history
    rw [record_registered registered, unused, record_at sources owner, history, controls]
    exact .enrolled actor p old _ _ rfl planned
  · have elsewhere : old.key ≠ source := fun same => target (owner.symm.trans same)
    rw [record_elsewhere sources elsewhere (inserts.history_elsewhere target) (by rw [controls])]
    exact .idle _ _ (by simp)

theorem rotate_moves {p : KeyCall}
    (succeeded : rotateEvidenceSourceKey sha256 actor p registry = .ok (next, change))
    (source : SourceKey) :
    SourceMove sha256 source (.rotate actor p) (registry.record source) (next.record source) := by
  simp only [rotateEvidenceSourceKey, Checked.bind_eq_ok, Checked.require_eq_ok,
    Checked.requireSome_eq_ok, Checked.pure_eq_ok, exists_const, Prod.mk.injEq] at succeeded
  obtain ⟨_, _, old, registered, ⟨state, _, used⟩, consistent, _, ended, closed, keys, inserted,
    evidence, stored, rfl, _⟩ := succeeded
  obtain ⟨sources, controls⟩ := storeSource_tables stored
  have inserts := insertKey_eq_ok inserted
  have owner : old.key = (actor.tenantId, p.sourceId) := Table.get?_key registered
  by_cases target : (actor.tenantId, p.sourceId) = source
  · subst target
    have history := inserts.history_self
    have material := inserts.newMaterial
    have inactive := inserts.noneActive
    rw [KeyCall.row_source] at history material inactive
    rw [record_registered registered, record_at sources owner, history, controls, nextVersion]
    rcases rotateCurrentKey_eq_ok closed with ⟨absent, rfl⟩ | ⟨current, found, rfl⟩
    · have suspended : old.state = .suspended := by
        refine state.resolve_left fun active => ?_
        have present := consistent active
        rw [absent] at present
        cases present
      exact .recovered actor p old _ _ _ rfl suspended used absent material
    · rw [history_replace] at material inactive ⊢
      exact .rotated actor p old current _ _ _ _ rfl state found rfl inactive material
  · have elsewhere : old.key ≠ source := fun same => target (owner.symm.trans same)
    have untouched : EvidenceSourceKeys.history ended source = registry.keys.history source := by
      rcases rotateCurrentKey_eq_ok closed with ⟨_, rfl⟩ | ⟨current, found, rfl⟩
      · rfl
      · rw [history_replace, setKeyState_elsewhere]
        rw [(active?_eq_some found).2.1]
        exact target
    rw [record_elsewhere sources elsewhere ((inserts.history_elsewhere target).trans untouched)
      (by rw [controls])]
    exact .idle _ _ (by simp)

theorem afterRevocation_key (old : EvidenceSource) (row : EvidenceSourceKey)
    (updatedAt : Instant) : (old.afterRevocation row updatedAt).key = old.key := by
  unfold EvidenceSource.afterRevocation
  split <;> rfl

theorem revoke_moves {p : KeyRevocationCall}
    (succeeded : revokeEvidenceSourceKey actor p registry = .ok (next, change))
    (source : SourceKey) :
    SourceMove sha256 source (.revoke actor p) (registry.record source) (next.record source) := by
  simp only [revokeEvidenceSourceKey, Checked.bind_eq_ok, Checked.require_eq_ok,
    Checked.requireSome_eq_ok, Checked.pure_eq_ok, exists_const, Prod.mk.injEq] at succeeded
  obtain ⟨_, _, old, registered, row, found, ⟨valid, _⟩, keys, updated, evidence, stored,
    rfl, _⟩ := succeeded
  obtain ⟨sources, controls⟩ := storeSource_tables stored
  obtain rfl := updateKey_eq_ok updated
  have owner : (old.afterRevocation row (max actor.clock p.revokedAt)).key =
      (actor.tenantId, p.sourceId) :=
    (afterRevocation_key old row _).trans (Table.get?_key registered)
  have belongs : row.source = (actor.tenantId, p.sourceId) := by
    have named : row.key = (actor.tenantId, p.sourceId, p.keyId) := Table.get?_key found
    have parts := Prod.mk.inj named
    exact Prod.ext parts.1 (Prod.mk.inj parts.2).1
  by_cases target : (actor.tenantId, p.sourceId) = source
  · subst target
    have member := mem_history.mpr ⟨Table.get?_mem found, belongs⟩
    rw [record_registered registered, record_at sources owner, history_replace, controls]
    exact .revoked actor p old row _ _ _ _ _ member (by simpa using valid)
  · have elsewhere := fun same => target (owner.symm.trans same)
    have untouched : setKeyState row (.revoked row.state.rotation
        ⟨actor.subjectId, p.revokedAt, p.reasonCode⟩) (max actor.clock p.revokedAt)
          (registry.keys.history source) = registry.keys.history source :=
      setKeyState_elsewhere _ _ (belongs ▸ target)
    rw [record_elsewhere sources elsewhere ((history_replace _ _ _).trans untouched)
      (by rw [controls])]
    exact .idle _ _ (by simp)

theorem configure_moves {p : SafeguardsCall} {evidence : EvidenceDatabase}
    {configured : EvidenceSource}
    (succeeded : configureEvidenceSourceSafeguards (registry.adminSession actor) p
      registry.evidence = .ok (evidence, configured)) (source : SourceKey) :
    SourceMove sha256 source (.configure actor p) (registry.record source)
      (record ⟨evidence, registry.keys⟩ source) := by
  simp only [configureEvidenceSourceSafeguards, Checked.bind_eq_ok, Checked.require_eq_ok,
    Checked.requireSome_eq_ok, Checked.pure_eq_ok, exists_const, Prod.mk.injEq] at succeeded
  obtain ⟨_, safeguards, _, old, registered, _, stored, updated, recorded, _⟩ := succeeded
  obtain ⟨sources, controls⟩ := storeSource_tables updated
  have registered : registry.source? (actor.tenantId, p.sourceId) = some old := registered
  have owner : old.key = (actor.tenantId, p.sourceId) := Table.get?_key registered
  have sources := (congrArg EvidenceDatabase.sources recorded.symm).trans sources
  have recordedEvents := congrArg EvidenceDatabase.controlEvents recorded.symm
  have controls := recordedEvents.trans (congrArg (· ++ _) controls)
  by_cases target : (actor.tenantId, p.sourceId) = source
  · subst target
    rw [record_registered registered, record_at sources owner, controls, controls_append_self]
    · exact .configured actor p old _ _ _ _ rfl rfl rfl
    · exact owner
  · have elsewhere : old.key ≠ source := fun same => target (owner.symm.trans same)
    rw [record_elsewhere sources elsewhere rfl (controls_elsewhere controls elsewhere)]
    exact .idle _ _ (by simp)

theorem setSuspension_moves {p : SuspensionCall} {evidence : EvidenceDatabase}
    {controlled : EvidenceSource}
    (succeeded : setEvidenceSourceSuspension (registry.adminSession actor) p
      registry.evidence = .ok (evidence, controlled)) (source : SourceKey) :
    SourceMove sha256 source (.setSuspension actor p) (registry.record source)
      (record ⟨evidence, registry.keys⟩ source) := by
  simp only [setEvidenceSourceSuspension, Checked.bind_eq_ok, Checked.require_eq_ok,
    Checked.requireSome_eq_ok, Checked.pure_eq_ok, exists_const, Prod.mk.injEq] at succeeded
  obtain ⟨_, old, registered, allowed, keyed, stored, updated, recorded, _⟩ := succeeded
  obtain ⟨sources, controls⟩ := storeSource_tables updated
  have registered : registry.source? (actor.tenantId, p.sourceId) = some old := registered
  have owner : old.key = (actor.tenantId, p.sourceId) := Table.get?_key registered
  have sources := (congrArg EvidenceDatabase.sources recorded.symm).trans sources
  have recordedEvents := congrArg EvidenceDatabase.controlEvents recorded.symm
  have controls := recordedEvents.trans (congrArg (· ++ _) controls)
  by_cases target : (actor.tenantId, p.sourceId) = source
  · subst target
    rw [record_registered registered, record_at sources owner, controls, controls_append_self]
    case same => exact owner
    unfold EvidenceSource.allows at allowed
    by_cases suspend : p.suspended = some true
    · simp only [suspend, if_true, decide_eq_true_eq] at allowed ⊢
      exact .suspended actor p old _ _ _ _ rfl suspend allowed rfl
    · simp only [if_neg suspend, EvidenceSource.isKeyed, EvidenceSource.withState, ne_eq,
        not_true_eq_false, decide_false, Bool.false_or] at keyed ⊢
      refine .resumed actor p old _ _ _ _ rfl suspend (fun resume => ?_) keyed rfl
      simp only [resume, Bool.and_eq_true, decide_eq_true_eq] at allowed
      exact allowed.1
  · have elsewhere : old.key ≠ source := fun same => target (owner.symm.trans same)
    rw [record_elsewhere sources elsewhere rfl (controls_elsewhere controls elsewhere)]
    exact .idle _ _ (by rintro _ _ ⟨⟩; exact target)

theorem record_congr {evidence : EvidenceDatabase}
    (sources : evidence.sources = registry.evidence.sources)
    (controls : evidence.controlEvents = registry.evidence.controlEvents) (source : SourceKey) :
    record ⟨evidence, registry.keys⟩ source = registry.record source := by
  rw [record, source?, sources, controls]
  rfl

theorem submit_moves {digests : EvidenceDigests} {view : TenantView} {now innerNow : Instant}
    {p : ReplayCandidate} {evidence : EvidenceDatabase} {decision : GuardDecision}
    (succeeded : applyEvidenceReplayGuard digests (registry.guardSession view) now innerNow p
      registry.evidence = .ok (evidence, decision)) (source : SourceKey) :
    SourceMove sha256 source (.submit view now innerNow p) (registry.record source)
      (record ⟨evidence, registry.keys⟩ source) := by
  have outcome := applyEvidenceReplayGuard_outcome succeeded
  cases outcome with
  | unresolved context => exact .idle _ _ (by simp)
  | rateLimited old next highest context limits =>
      obtain ⟨registered, verifies⟩ := verificationContext_eq_some.mp context
      have registered : registry.source? p.source = some old := registered
      have owner : old.key = p.source := Table.get?_key registered
      rcases limits.control with ⟨_, sources, controls⟩ | ⟨_, _, sources, controls⟩
      · rw [record_congr sources controls]
        exact .idle _ _ (by simp)
      · by_cases target : p.source = source
        · subst target
          have active : old.state = .active := by
            simp only [EvidenceSource.verifies, Bool.and_eq_true, decide_eq_true_eq] at verifies
            exact verifies.1.1.1.1.1.2
          rw [record_registered registered, record_at sources owner, controls,
            controls_append_self]
          · exact .flooded view now innerNow p old _ _ _ _ rfl active rfl
          · exact owner
        · have elsewhere : old.key ≠ source := fun same => target (owner.symm.trans same)
          rw [record_elsewhere sources elsewhere rfl (controls_elsewhere controls elsewhere)]
          exact .idle _ _ (by simp)
  | refused old window next decision context opened room inner denied =>
      obtain ⟨sources, _, controls⟩ := inner.surroundings
      rw [record_congr sources controls]
      exact .idle _ _ (by simp)
  | accepted old window admitted context opened room ordered accepts =>
      have same : record ⟨{ admitted with
          rates := admitted.rates.upsert (window.countAccepted now) }, registry.keys⟩ source =
          registry.record source :=
        record_congr accepts.sources accepts.controlEvents source
      rw [same]
      exact .idle _ _ (by simp)

/-- Every call moves every source as its record allows. -/
theorem applyRegistry_moves {digests : EvidenceDigests} {op : RegistryOp}
    {reply : Option GuardDecision}
    (succeeded : applyRegistry sha256 digests op registry = .ok (next, reply))
    (source : SourceKey) :
    SourceMove sha256 source op (registry.record source) (next.record source) := by
  cases op with
  | enroll actor call =>
      simp only [applyRegistry, Checked.bind_eq_ok, Checked.pure_eq_ok, Prod.mk.injEq,
        Prod.exists] at succeeded
      obtain ⟨_, _, enrolled, rfl, _⟩ := succeeded
      exact enroll_moves enrolled source
  | rotate actor call =>
      simp only [applyRegistry, Checked.bind_eq_ok, Checked.pure_eq_ok, Prod.mk.injEq,
        Prod.exists] at succeeded
      obtain ⟨_, _, rotated, rfl, _⟩ := succeeded
      exact rotate_moves rotated source
  | revoke actor call =>
      simp only [applyRegistry, Checked.bind_eq_ok, Checked.pure_eq_ok, Prod.mk.injEq,
        Prod.exists] at succeeded
      obtain ⟨_, _, revoked, rfl, _⟩ := succeeded
      exact revoke_moves revoked source
  | configure actor call =>
      simp only [applyRegistry, Checked.bind_eq_ok, Checked.pure_eq_ok, Prod.mk.injEq,
        Prod.exists] at succeeded
      obtain ⟨_, _, configured, rfl, _⟩ := succeeded
      exact configure_moves configured source
  | setSuspension actor call =>
      simp only [applyRegistry, Checked.bind_eq_ok, Checked.pure_eq_ok, Prod.mk.injEq,
        Prod.exists] at succeeded
      obtain ⟨_, _, controlled, rfl, _⟩ := succeeded
      exact setSuspension_moves controlled source
  | submit view now innerNow candidate =>
      simp only [applyRegistry, Checked.bind_eq_ok, Checked.pure_eq_ok, Prod.mk.injEq,
        Prod.exists] at succeeded
      obtain ⟨_, _, submitted, rfl, _⟩ := succeeded
      exact submit_moves submitted source

end KeyRegistry

end TenantTrust.Trust
