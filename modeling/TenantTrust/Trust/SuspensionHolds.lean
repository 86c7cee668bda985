import TenantTrust.Trust.KeyEpochs

/-! Whether a source that was suspended stays silent until it is resumed. -/

namespace TenantTrust.Trust

open Library Identity

/-- Whether a control event suspends or resumes its source. -/
def SourceControlEventType.suspension : SourceControlEventType → Option Bool
  | .configured _ => none
  | .suspended _ | .automaticallySuspended => some true
  | .resumed _ => some false

namespace SourceRecord

def state? (record : SourceRecord) : Option EvidenceSourceState :=
  record.row.map EvidenceSource.state

/-- The suspensions and resumptions of a source, in the order in which they were recorded. -/
def suspensions (record : SourceRecord) : List Bool :=
  record.controls.filterMap fun event => event.eventType.suspension

/-- A suspension by an administrator or for flooding that nobody has resumed. -/
def held (record : SourceRecord) : Bool := record.suspensions.getLast? = some true

end SourceRecord

section Calls

variable (sha256 : Bytes → Sha256Digest) (digests : EvidenceDigests)

/-- The call suspends the source, for an administrator or for flooding. -/
def suspends (registry : KeyRegistry) (source : SourceKey) (op : RegistryOp) : Bool :=
  match op with
  | .setSuspension actor call => call.suspended = some true &&
      (actor.tenantId, call.sourceId) = source && (applyRegistry sha256 digests op registry).isOk
  | .submit _ _ _ candidate => candidate.source = source &&
      (registry.record source).state? = some .active &&
      ((Transaction.commit (applyRegistry sha256 digests) registry op).record source).state? =
        some .suspended
  | .enroll _ _ | .rotate _ _ | .revoke _ _ | .configure _ _ => false

/-- The call resumes the source, also when it leaves open whether to suspend it. -/
def resumes (registry : KeyRegistry) (source : SourceKey) (op : RegistryOp) : Bool :=
  match op with
  | .setSuspension actor call => call.suspended ≠ some true &&
      (actor.tenantId, call.sourceId) = source && (applyRegistry sha256 digests op registry).isOk
  | .submit _ _ _ _ | .enroll _ _ | .rotate _ _ | .revoke _ _ | .configure _ _ => false

/-- The guard accepts evidence of the source. -/
def acceptsEvidence (registry : KeyRegistry) (source : SourceKey) (op : RegistryOp) : Bool :=
  match op with
  | .submit _ _ _ candidate => candidate.source = source &&
      match applyRegistry sha256 digests op registry with
      | .ok (_, some decision) => decision.accepted
      | _ => false
  | .setSuspension _ _ | .enroll _ _ | .rotate _ _ | .revoke _ _ | .configure _ _ => false

/-- Between a suspension and the next resumption no evidence is accepted. -/
def SilentUntilResumed (start : KeyRegistry) (ops : List RegistryOp) (source : SourceKey) : Prop :=
  ∀ front suspending middle accepting back,
    ops = front ++ suspending :: (middle ++ accepting :: back) →
    suspends sha256 digests (runRegistry sha256 digests start front) source suspending = true →
    (∀ before op after, middle = before ++ op :: after →
      resumes sha256 digests (runRegistry sha256 digests start (front ++ suspending :: before))
        source op = false) →
    acceptsEvidence sha256 digests
      (runRegistry sha256 digests start (front ++ suspending :: middle)) source accepting = false

end Calls

/-- The call is a suspension or a resumption with NULL in place of the wish, which resumes a source
whatever its state. -/
def RegistryOp.wishesNothing : RegistryOp → Bool
  | .setSuspension _ call => call.suspended = none
  | .submit _ _ _ _ | .enroll _ _ | .rotate _ _ | .revoke _ _ | .configure _ _ => false

/-- A change of a source between active and suspended, other than the loss or the recovery of its
active key, has one control event, and without a change there is none unless the call wished for
none. -/
structure ChangeRecorded (op : RegistryOp) (before after : SourceRecord) : Prop where
  suspended : before.state? = some .active → after.state? = some .suspended →
    ¬ (before.active?.isSome = true ∧ after.active? = none) →
    ∃ event, after.controls = before.controls ++ [event] ∧ event.eventType.suspension = some true
  resumed : before.state? = some .suspended → after.state? = some .active →
    ¬ (before.active? = none ∧ after.active?.isSome = true) →
    ∃ event, after.controls = before.controls ++ [event] ∧ event.eventType.suspension = some false
  unchanged : op.wishesNothing = false → before.state? = after.state? →
    after.suspensions = before.suspensions

/-- What `rotate_evidence_source_key` and the constraints of its tables check. -/
structure Rotatable (sha256 : Bytes → Sha256Digest) (registry : KeyRegistry)
    (actor : RegistryActor) (p : KeyCall) (source : EvidenceSource) : Prop where
  registered : registry.source? (actor.tenantId, p.sourceId) = some source
  admin : actor.isTenantAdmin = true
  timely : p.at_ ≤ actor.clock + interval 2
  state : source.state = .active ∨ source.state = .suspended
  algorithm : source.verificationAlgorithm = .ed25519
  used : registry.keys.history (actor.tenantId, p.sourceId) ≠ []
  sourceTimes : source.createdAt ≤ max actor.clock p.at_
  currentTimes : ∀ row, registry.keys.active? (actor.tenantId, p.sourceId) = some row →
    row.enrolledAt ≤ p.at_ ∧ (row.withState (.rotated ⟨actor.subjectId, p.at_⟩)
      (max actor.clock p.at_)).timesOrdered = true
  newKey : registry.keys.get? (actor.tenantId, p.sourceId, p.keyId) = none
  newMaterial : ∀ row ∈ registry.keys.history (actor.tenantId, p.sourceId),
    row.publicKeySha256 ≠ sha256 p.publicKey.material

/-- No rotation that would succeed is issued for a source while its suspension is in force. -/
def LeavesHeld (sha256 : Bytes → Sha256Digest) (source : SourceKey) (registry : KeyRegistry)
    (op : RegistryOp) : Prop :=
  match op with
  | .rotate actor call => (actor.tenantId, call.sourceId) = source →
      (registry.record source).held = true → ∀ row, ¬ Rotatable sha256 registry actor call row
  | .enroll _ _ | .revoke _ _ | .configure _ _ | .setSuspension _ _ | .submit _ _ _ _ => True

variable {sha256 : Bytes → Sha256Digest} {digests : EvidenceDigests}

section Rotation

open EvidenceSourceKeys

variable {registry next : KeyRegistry} {actor : RegistryActor} {p : KeyCall} {change : KeyChange}

theorem rotate_rotatable
    (succeeded : rotateEvidenceSourceKey sha256 actor p registry = .ok (next, change)) :
    ∃ row, Rotatable sha256 registry actor p row := by
  simp only [rotateEvidenceSourceKey, Checked.bind_eq_ok, Checked.require_eq_ok,
    Checked.requireSome_eq_ok, Checked.pure_eq_ok, exists_const, Prod.mk.injEq] at succeeded
  obtain ⟨admin, timely, source, registered, ⟨state, algorithm, used⟩, _, times, ended, closed,
    keys, inserted, evidence, stored, _⟩ := succeeded
  have inserts := insertKey_eq_ok inserted
  have newMaterial := inserts.newMaterial
  rw [KeyCall.row_source] at newMaterial
  have absent : ended.get? (actor.tenantId, p.sourceId, p.keyId) = none :=
    (Table.insertNew_eq_some.mp inserts.inserted).1
  refine ⟨source, registered, admin, timely, state, algorithm, used, ?_, ?_, ?_, ?_⟩
  · exact (storeSource_eq_ok stored).1
  · intro row found
    rw [found] at times closed
    simp only [rotateCurrentKey, updateKey, Checked.bind_eq_ok, Checked.require_eq_ok,
      exists_const] at closed
    exact ⟨by simpa using times, closed.1⟩
  · rcases rotateCurrentKey_eq_ok closed with ⟨_, rfl⟩ | ⟨row, _, rfl⟩
    · exact absent
    · rw [Table.replace, Table.get?_update, Option.map_eq_none_iff] at absent
      exact absent
  · rcases rotateCurrentKey_eq_ok closed with ⟨_, rfl⟩ | ⟨row, found, rfl⟩
    · exact newMaterial
    · rw [history_replace] at newMaterial
      have column := setKeyState_column EvidenceSourceKey.publicKeySha256 (fun _ _ _ => rfl)
        (.rotated ⟨actor.subjectId, p.at_⟩) (max actor.clock p.at_)
        (registry.record_distinct (actor.tenantId, p.sourceId)) (List.mem_of_find?_eq_some found)
      intro other member same
      have listed : sha256 p.publicKey.material ∈ (setKeyState row
          (.rotated ⟨actor.subjectId, p.at_⟩) (max actor.clock p.at_)
          (registry.record (actor.tenantId, p.sourceId)).history).map
            EvidenceSourceKey.publicKeySha256 := by
        rw [column, ← same]
        exact List.mem_map_of_mem member
      obtain ⟨kept, present, equal⟩ := List.mem_map.mp listed
      exact newMaterial kept present equal

theorem rotateCurrentKey_succeeds {row : EvidenceSource}
    (rotatable : Rotatable sha256 registry actor p row) :
    ∃ ended, rotateCurrentKey actor p.at_ (registry.keys.active? (actor.tenantId, p.sourceId))
      registry.keys = .ok ended := by
  cases found : registry.keys.active? (actor.tenantId, p.sourceId) with
  | none => exact ⟨registry.keys, rfl⟩
  | some current =>
      have ordered := (rotatable.currentTimes current found).2
      refine ⟨registry.keys.replace (current.withState (.rotated ⟨actor.subjectId, p.at_⟩)
        (max actor.clock p.at_)), ?_⟩
      simp only [rotateCurrentKey, updateKey, Checked.bind_eq_ok, Checked.require_eq_ok,
        Checked.pure_eq_ok, exists_const]
      exact ⟨ordered, trivial⟩

/-- The checks are exactly what a rotation needs. -/
theorem rotatable_rotates {row : EvidenceSource}
    (epochs : (registry.record (actor.tenantId, p.sourceId)).Epochs sha256)
    (rotatable : Rotatable sha256 registry actor p row) :
    ∃ result, rotateEvidenceSourceKey sha256 actor p registry = .ok result := by
  obtain ⟨ended, closed⟩ := rotateCurrentKey_succeeds rotatable
  have distinct := registry.record_distinct (actor.tenantId, p.sourceId)
  have history : (registry.keys.active? (actor.tenantId, p.sourceId) = none ∧
      ended = registry.keys) ∨ ∃ current,
        registry.keys.active? (actor.tenantId, p.sourceId) = some current ∧
        ended.get? (actor.tenantId, p.sourceId, p.keyId) = none ∧
        ended.history (actor.tenantId, p.sourceId) = setKeyState current
          (.rotated ⟨actor.subjectId, p.at_⟩) (max actor.clock p.at_)
          (registry.keys.history (actor.tenantId, p.sourceId)) := by
    rcases rotateCurrentKey_eq_ok closed with ⟨absent, rfl⟩ | ⟨current, found, rfl⟩
    · exact Or.inl ⟨absent, rfl⟩
    · refine Or.inr ⟨current, found, ?_, history_replace _ _ _⟩
      rw [Table.replace, Table.get?_update, rotatable.newKey]
      rfl
  have column {α : Type} (f : EvidenceSourceKey → α)
      (kept : ∀ row state updatedAt, f (EvidenceSourceKey.withState row state updatedAt) = f row) :
      (ended.history (actor.tenantId, p.sourceId)).map f =
        (registry.keys.history (actor.tenantId, p.sourceId)).map f := by
    rcases history with ⟨_, rfl⟩ | ⟨current, found, _, same⟩
    · rfl
    · rw [same]
      exact setKeyState_column f kept _ _ distinct (List.mem_of_find?_eq_some found)
  have versions : (ended.history (actor.tenantId, p.sourceId)).map EvidenceSourceKey.keyVersion =
      List.range' 1 (registry.keys.history (actor.tenantId, p.sourceId)).length :=
    (column EvidenceSourceKey.keyVersion fun _ _ _ => rfl).trans epochs.versions
  have newVersion : ∀ other ∈ ended.history (actor.tenantId, p.sourceId),
      other.keyVersion ≠ ended.nextVersion (actor.tenantId, p.sourceId) := by
    intro other member
    have listed := List.mem_map_of_mem (f := EvidenceSourceKey.keyVersion) member
    rw [nextVersion, versions, foldl_max_range']
    rw [versions, List.mem_range'_1] at listed
    omega
  have inactive : ∀ other ∈ ended.history (actor.tenantId, p.sourceId),
      other.state ≠ .active := by
    have none_ : (ended.history (actor.tenantId, p.sourceId)).find?
        (fun other => other.state = .active) = none := by
      rcases history with ⟨absent, rfl⟩ | ⟨current, found, _, same⟩
      · exact absent
      · have closed := find?_setKeyState (.rotated ⟨actor.subjectId, p.at_⟩)
          (max actor.clock p.at_) epochs.oneActive distinct (List.mem_of_find?_eq_some found)
          (by simp)
        rw [if_pos (active?_eq_some found).2.2] at closed
        rw [same]
        exact closed
    intro other member
    simpa using List.find?_eq_none.mp none_ other member
  have newMaterial : ∀ other ∈ ended.history (actor.tenantId, p.sourceId),
      other.publicKeySha256 ≠ sha256 p.publicKey.material := by
    intro other member same
    have listed := List.mem_map_of_mem (f := EvidenceSourceKey.publicKeySha256) member
    rw [column EvidenceSourceKey.publicKeySha256 fun _ _ _ => rfl] at listed
    obtain ⟨earlier, present, equal⟩ := List.mem_map.mp listed
    exact rotatable.newMaterial earlier present (equal.trans same)
  have absent : ended.get? (actor.tenantId, p.sourceId, p.keyId) = none := by
    rcases history with ⟨_, rfl⟩ | ⟨_, _, absent, _⟩
    · exact rotatable.newKey
    · exact absent
  let key := p.row sha256 actor (ended.nextVersion (actor.tenantId, p.sourceId))
  have ordered : key.timesOrdered = true := by
    simp [key, KeyCall.row, EvidenceSourceKey.timesOrdered, EvidenceSourceKeyState.rotation,
      EvidenceSourceKeyState.revocation, rotatable.timely]
  have inserted : insertKey key ended = .ok (ended.insert key absent) := by
    simp only [insertKey, Checked.bind_eq_ok, Checked.require_eq_ok, Checked.requireSome_eq_ok,
      Checked.pure_eq_ok, exists_const]
    exact ⟨ordered, _, Table.insertNew_eq_some.mpr ⟨absent, rfl⟩, newVersion, newMaterial,
      inactive, rfl⟩
  have current : row.state = .active →
      (registry.keys.active? (actor.tenantId, p.sourceId)).isSome = true :=
    epochs.activeKey row rotatable.registered
  have times : (registry.keys.active? (actor.tenantId, p.sourceId)).all
      (fun other => other.enrolledAt ≤ p.at_) = true := by
    cases found : registry.keys.active? (actor.tenantId, p.sourceId) with
    | none => rfl
    | some other => simpa using (rotatable.currentTimes other found).1
  let stored := row.withKey key.publicKeySha256 .active (max actor.clock p.at_)
  obtain ⟨evidence, updated⟩ : ∃ evidence, storeSource stored registry.evidence =
      .ok evidence := by
    refine ⟨{ registry.evidence with sources := registry.evidence.sources.upsert stored }, ?_⟩
    simp only [storeSource, Checked.bind_eq_ok, Checked.require_eq_ok, Checked.pure_eq_ok,
      exists_const]
    exact ⟨rotatable.sourceTimes, trivial⟩
  refine ⟨(⟨evidence, ended.insert key absent⟩, ⟨stored, key⟩), ?_⟩
  simp only [rotateEvidenceSourceKey, Checked.bind_eq_ok, Checked.require_eq_ok,
    Checked.requireSome_eq_ok, Checked.pure_eq_ok, exists_const]
  exact ⟨rotatable.admin, rotatable.timely, row, rotatable.registered,
    ⟨rotatable.state, rotatable.algorithm, rotatable.used⟩, current, times, ended, closed, _,
    inserted, _, updated, rfl⟩

end Rotation

/-- The suspension in force and the state of a source agree. -/
structure SourceRecord.Holds (record : SourceRecord) : Prop where
  suspended : record.held = true → record.state? = some .suspended
  recorded : record.state? = some .suspended → record.active?.isSome = true → record.held = true

namespace SourceRecord

variable {row : Option EvidenceSource} {history : List EvidenceSourceKey}
  {controls : List SourceControlEvent} {event : SourceControlEvent}

theorem suspensions_append : (⟨row, history, controls ++ [event]⟩ : SourceRecord).suspensions =
    (⟨row, history, controls⟩ : SourceRecord).suspensions ++ event.eventType.suspension.toList := by
  rw [suspensions, List.filterMap_append]
  congr 1

theorem held_append {suspended : Bool} (recorded : event.eventType.suspension = some suspended) :
    (⟨row, history, controls ++ [event]⟩ : SourceRecord).held = suspended := by
  rw [held, suspensions_append, recorded, Option.toList_some, List.getLast?_append,
    List.getLast?_singleton]
  cases suspended <;> rfl

theorem held_configured (recorded : event.eventType.suspension = none) :
    (⟨row, history, controls ++ [event]⟩ : SourceRecord).held =
      (⟨row, history, controls⟩ : SourceRecord).held := by
  rw [held, suspensions_append, recorded, Option.toList_none, List.append_nil]
  rfl

end SourceRecord

section Moves

variable {source : SourceKey} {op : RegistryOp} {before after : SourceRecord}

/-- Only a suspension or a resumption changes whether a suspension is in force. -/
theorem SourceMove.held_cases (moved : SourceMove sha256 source op before after) :
    after.held = before.held ∨ (after.held = true ∧ after.state? = some .suspended) ∨
      ∃ actor call, op = .setSuspension actor call ∧ call.suspended ≠ some true ∧
        (actor.tenantId, call.sourceId) = source := by
  cases moved with
  | idle | enrolled | rotated | recovered | revoked => exact Or.inl rfl
  | configured actor call old new event history controls state fingerprint recorded =>
      exact Or.inl (SourceRecord.held_configured (by rw [recorded]; rfl))
  | suspended actor call old event updatedAt history controls target suspend active recorded =>
      exact Or.inr (Or.inl ⟨SourceRecord.held_append (by rw [recorded]; rfl), rfl⟩)
  | resumed actor call old event updatedAt history controls target resume suspended keyed
      recorded =>
      exact Or.inr (Or.inr ⟨actor, call, rfl, resume, target⟩)
  | flooded view now innerNow candidate old event updatedAt history controls target active
      recorded =>
      exact Or.inr (Or.inl ⟨SourceRecord.held_append (by rw [recorded]; rfl), rfl⟩)

theorem SourceRecord.Holds.released {updatedAt : Instant} {old : EvidenceSource}
    {fingerprint : Option Sha256Digest}
    (histories : List EvidenceSourceKey × List EvidenceSourceKey)
    {controls : List SourceControlEvent}
    (released : (⟨some old, histories.1, controls⟩ : SourceRecord).held = false) :
    (⟨some (old.withKey fingerprint .active updatedAt), histories.2, controls⟩ :
      SourceRecord).Holds := by
  constructor
  · intro held
    have same : (⟨some old, histories.1, controls⟩ : SourceRecord).held = true := held
    rw [released] at same
    cases same
  · intro state _
    cases state

/-- A call that does not rotate the key of a source whose suspension is in force. -/
theorem SourceRecord.Holds.move (holds : before.Holds)
    (moved : SourceMove sha256 source op before after)
    (distinct : (before.history.map EvidenceSourceKey.key).Nodup) (epochs : before.Epochs sha256)
    (released : ∀ actor call, op = .rotate actor call →
      (actor.tenantId, call.sourceId) = source → before.held = false) :
    after.Holds := by
  cases moved with
  | idle => exact holds
  | configured actor call old new event history controls state fingerprint recorded =>
      have held : (⟨some new, history, controls ++ [event]⟩ : SourceRecord).held =
          (⟨some new, history, controls⟩ : SourceRecord).held :=
        SourceRecord.held_configured (by rw [recorded]; rfl)
      have same : some new.state = some old.state := congrArg some state
      constructor
      · intro now
        exact same.trans (holds.suspended (held.symm.trans now))
      · intro suspended active
        exact held.trans (holds.recorded (same.symm.trans suspended) active)
  | enrolled actor call old updatedAt controls target planned =>
      refine Holds.released ([], _) ?_
      by_contra held
      have state : some old.state = some .suspended := holds.suspended (by simpa using held)
      rw [planned] at state
      cases state
  | rotated actor call old current updatedAt history ended controls target state found closed
      inactive fresh =>
      exact .released (history, _) (released actor call rfl target)
  | recovered actor call old updatedAt history controls target state used absent fresh =>
      exact .released (history, _) (released actor call rfl target)
  | revoked actor call old row rotation revocation updatedAt history controls member valid =>
      have active := find?_setKeyState (.revoked rotation revocation) updatedAt
        epochs.oneActive distinct member (by simp)
      constructor
      · intro held
        have before : some old.state = some .suspended := holds.suspended held
        change some (old.afterRevocation row updatedAt).state = _
        unfold EvidenceSource.afterRevocation
        split
        · rfl
        · exact before
      · intro state present
        change some (old.afterRevocation row updatedAt).state = _ at state
        change Option.isSome (List.find? _ _) = _ at present
        rw [active] at present
        unfold EvidenceSource.afterRevocation at state
        split at present
        · cases present
        · rename_i inactive
          rw [if_neg inactive] at state
          exact holds.recorded state present
  | suspended actor call old event updatedAt history controls target suspend active recorded =>
      exact ⟨fun _ => rfl, fun _ _ => SourceRecord.held_append (by rw [recorded]; rfl)⟩
  | resumed actor call old event updatedAt history controls target resume suspended keyed
      recorded =>
      have ended : (⟨some (old.withState .active updatedAt), history, controls ++ [event]⟩ :
          SourceRecord).held = false :=
        SourceRecord.held_append (by rw [recorded]; rfl)
      constructor
      · intro held
        rw [ended] at held
        cases held
      · intro state _
        cases state
  | flooded view now innerNow candidate old event updatedAt history controls target active
      recorded =>
      exact ⟨fun _ => rfl, fun _ _ => SourceRecord.held_append (by rw [recorded]; rfl)⟩

theorem ChangeRecorded.refl (op : RegistryOp) (record : SourceRecord) :
    ChangeRecorded op record record := by
  refine ⟨fun active suspended => ?_, fun suspended active => ?_, fun _ _ => rfl⟩
  · rw [active] at suspended
    cases suspended
  · rw [suspended] at active
    cases active

/-- Under the invariants every change of a source is recorded as it should be. -/
theorem SourceMove.changeRecorded (moved : SourceMove sha256 source op before after)
    (holds : before.Holds) (distinct : (before.history.map EvidenceSourceKey.key).Nodup)
    (epochs : before.Epochs sha256)
    (released : ∀ actor call, op = .rotate actor call →
      (actor.tenantId, call.sourceId) = source → before.held = false) :
    ChangeRecorded op before after := by
  cases moved with
  | idle => exact .refl _ _
  | configured actor call old new event history controls state fingerprint recorded =>
      have same : some new.state = some old.state := congrArg some state
      refine ⟨fun active suspended => ?_, fun suspended active => ?_, fun _ _ => ?_⟩
      · have still : some old.state = some .active := active
        have now : some new.state = some .suspended := suspended
        rw [same, still] at now
        cases now
      · have still : some old.state = some .suspended := suspended
        have now : some new.state = some .active := active
        rw [same, still] at now
        cases now
      · rw [SourceRecord.suspensions_append, recorded]
        exact List.append_nil _
  | enrolled actor call old updatedAt controls target planned =>
      have before : (⟨some old, [], controls⟩ : SourceRecord).state? = some .planned :=
        congrArg some planned
      refine ⟨fun active => ?_, fun suspended => ?_, fun _ _ => rfl⟩
      · rw [before] at active
        cases active
      · rw [before] at suspended
        cases suspended
  | rotated actor call old current updatedAt history ended controls target state found closed
      inactive fresh =>
      refine ⟨fun _ suspended => ?_, fun suspended _ => ?_, fun _ _ => rfl⟩
      · cases suspended
      · have active : (⟨some old, history, controls⟩ : SourceRecord).active?.isSome = true := by
          rw [SourceRecord.active?, found]
          rfl
        have held := holds.recorded suspended active
        rw [released actor call rfl target] at held
        cases held
  | recovered actor call old updatedAt history controls target state used absent fresh =>
      refine ⟨fun _ suspended => ?_, fun _ _ other => ?_, fun _ _ => rfl⟩
      · cases suspended
      · refine absurd ⟨absent, ?_⟩ other
        have inactive : ∀ row ∈ history, row.state ≠ .active := by
          intro row member
          simpa using List.find?_eq_none.mp absent row member
        rw [SourceRecord.active?, find?_appended inactive rfl]
        rfl
  | revoked actor call old row rotation revocation updatedAt history controls member valid =>
      have active := find?_setKeyState (.revoked rotation revocation) updatedAt
        epochs.oneActive distinct member (by simp)
      by_cases current : row.state = .active
      · rw [if_pos current] at active
        have after : old.afterRevocation row updatedAt = old.withKey none .suspended updatedAt :=
          if_pos current
        rw [after]
        refine ⟨fun _ _ other => ?_, fun _ claimed => ?_, fun _ _ => rfl⟩
        · refine absurd ⟨?_, active⟩ other
          rw [SourceRecord.active?, (find?_active epochs.oneActive).mpr ⟨member, current⟩]
          rfl
        · cases claimed
      · have after : old.afterRevocation row updatedAt = old.withState old.state updatedAt :=
          if_neg current
        rw [after]
        refine ⟨fun active suspended => ?_, fun suspended active => ?_, fun _ _ => rfl⟩
        · have same : some old.state = some .suspended := suspended
          have still : some old.state = some .active := active
          rw [still] at same
          cases same
        · have same : some old.state = some .suspended := suspended
          have now : some old.state = some .active := active
          rw [same] at now
          cases now
  | suspended actor call old event updatedAt history controls target suspend active recorded =>
      have before : (⟨some old, history, controls⟩ : SourceRecord).state? = some .active :=
        congrArg some active
      refine ⟨fun _ _ _ => ⟨event, rfl, by rw [recorded]; rfl⟩, fun claimed => ?_, fun _ same => ?_⟩
      · rw [before] at claimed
        cases claimed
      · rw [before] at same
        cases same
  | resumed actor call old event updatedAt history controls target resume suspended keyed
      recorded =>
      refine ⟨fun _ claimed => ?_, fun _ _ _ => ⟨event, rfl, by rw [recorded]; rfl⟩,
        fun wished same => ?_⟩
      · cases claimed
      · have resumption : call.suspended = some false := by
          rcases wish : call.suspended with _ | _ | _
          · simp [RegistryOp.wishesNothing, wish] at wished
          · rfl
          · exact absurd wish resume
        have before : (⟨some old, history, controls⟩ : SourceRecord).state? = some .suspended :=
          congrArg some (suspended resumption)
        rw [before] at same
        cases same
  | flooded view now innerNow candidate old event updatedAt history controls target active
      recorded =>
      have before : (⟨some old, history, controls⟩ : SourceRecord).state? = some .active :=
        congrArg some active
      refine ⟨fun _ _ _ => ⟨event, rfl, by rw [recorded]; rfl⟩, fun claimed => ?_, fun _ same => ?_⟩
      · rw [before] at claimed
        cases claimed
      · rw [before] at same
        cases same

end Moves

section Runs

variable {source : SourceKey} {registry next : KeyRegistry} {op : RegistryOp}
  {reply : Option GuardDecision}

theorem LeavesHeld.released (leaves : LeavesHeld sha256 source registry op)
    (succeeded : applyRegistry sha256 digests op registry = .ok (next, reply)) :
    ∀ actor call, op = .rotate actor call → (actor.tenantId, call.sourceId) = source →
      (registry.record source).held = false := by
  rintro actor call rfl target
  by_contra held
  simp only [applyRegistry, Checked.bind_eq_ok, Checked.pure_eq_ok, Prod.mk.injEq,
    Prod.exists] at succeeded
  obtain ⟨_, _, rotated, _⟩ := succeeded
  obtain ⟨row, rotatable⟩ := rotate_rotatable rotated
  exact leaves target (by simpa using held) row rotatable

/-- What holds of a source in every state of a run. -/
structure SourceSafe (sha256 : Bytes → Sha256Digest) (source : SourceKey)
    (registry : KeyRegistry) : Prop where
  epochs : (registry.record source).Epochs sha256
  holds : (registry.record source).Holds

theorem SourceSafe.step (safe : SourceSafe sha256 source registry)
    (leaves : LeavesHeld sha256 source registry op)
    (succeeded : applyRegistry sha256 digests op registry = .ok (next, reply)) :
    SourceSafe sha256 source next := by
  have moved := KeyRegistry.applyRegistry_moves succeeded source
  have distinct := registry.record_distinct source
  exact ⟨safe.epochs.move distinct moved,
    safe.holds.move moved distinct safe.epochs (leaves.released succeeded)⟩

theorem KeyRegistry.Fresh.safe (fresh : registry.Fresh) (source : SourceKey) :
    SourceSafe sha256 source registry := by
  have none : (registry.record source).held = false := by
    simp [KeyRegistry.record, SourceRecord.held, SourceRecord.suspensions, fresh.controlEvents]
  refine ⟨fresh.epochs source, fun held => ?_, fun state _ => ?_⟩
  · rw [none] at held
    cases held
  · obtain ⟨row, found, suspended⟩ := Option.map_eq_some_iff.mp state
    rw [(fresh.planned row (Table.get?_mem found)).1] at suspended
    cases suspended

theorem SourceSafe.run {start : KeyRegistry} (fresh : start.Fresh) {ops : List RegistryOp}
    (guarded : Transaction.Guarded (applyRegistry sha256 digests) (LeavesHeld sha256 source)
      start ops) : SourceSafe sha256 source (runRegistry sha256 digests start ops) := by
  have preserved : ∀ before op after (reply : Option GuardDecision),
      SourceSafe sha256 source before → LeavesHeld sha256 source before op →
      applyRegistry sha256 digests op before = .ok (after, reply) →
      SourceSafe sha256 source after := by
    intro before op after reply safe leaves succeeded
    exact safe.step leaves succeeded
  exact Transaction.run_preserves_guarded _ preserved start ops guarded (fresh.safe source)

/-- A suspension is in force once the call has committed. -/
theorem suspends_held (suspending : suspends sha256 digests registry source op = true) :
    ((Transaction.commit (applyRegistry sha256 digests) registry op).record source).held =
      true := by
  cases op with
  | enroll | rotate | revoke | configure => cases suspending
  | setSuspension actor call =>
      simp only [suspends, Bool.and_eq_true, decide_eq_true_eq] at suspending
      obtain ⟨⟨suspend, target⟩, succeeds⟩ := suspending
      cases result : applyRegistry sha256 digests (.setSuspension actor call) registry with
      | error failure =>
          rw [result] at succeeds
          cases succeeds
      | ok pair =>
          obtain ⟨next, reply⟩ := pair
          rw [Transaction.commit_ok result]
          have moved := KeyRegistry.applyRegistry_moves result source
          generalize registry.record source = before at moved
          generalize next.record source = after at moved ⊢
          cases moved with
          | idle _ _ elsewhere => exact absurd target (elsewhere actor call rfl)
          | suspended _ _ old event updatedAt history controls _ _ active recorded =>
              exact SourceRecord.held_append (by rw [recorded]; rfl)
          | resumed _ _ old event updatedAt history controls _ resume =>
              exact absurd suspend resume
  | submit view now innerNow candidate =>
      simp only [suspends, Bool.and_eq_true, decide_eq_true_eq] at suspending
      obtain ⟨⟨target, active⟩, suspended⟩ := suspending
      rcases Transaction.commit_cases (applyRegistry sha256 digests) registry
        (.submit view now innerNow candidate) with aborted | ⟨reply, succeeded⟩
      · rw [aborted, active] at suspended
        cases suspended
      · have moved := KeyRegistry.applyRegistry_moves succeeded source
        generalize Transaction.commit (applyRegistry sha256 digests) registry
          (.submit view now innerNow candidate) = next at moved suspended
        generalize registry.record source = before at moved active
        generalize next.record source = after at moved suspended ⊢
        cases moved with
        | idle =>
            rw [active] at suspended
            cases suspended
        | flooded _ _ _ _ old event updatedAt history controls _ _ recorded =>
            exact SourceRecord.held_append (by rw [recorded]; rfl)

/-- A suspension stays in force until a call resumes the source. -/
theorem held_step (held : (registry.record source).held = true)
    (notResumed : resumes sha256 digests registry source op = false) :
    ((Transaction.commit (applyRegistry sha256 digests) registry op).record source).held =
      true := by
  rcases Transaction.commit_cases (applyRegistry sha256 digests) registry op with
    aborted | ⟨reply, succeeded⟩
  · rw [aborted]
    exact held
  · rcases (KeyRegistry.applyRegistry_moves succeeded source).held_cases with
      same | ⟨now, _⟩ | ⟨actor, call, rfl, resume, target⟩
    · exact same.trans held
    · exact now
    · simp [resumes, resume, target, succeeded, Except.isOk, Except.toBool] at notResumed

theorem held_run {middle : List RegistryOp} (held : (registry.record source).held = true)
    (notResumed : ∀ before op after, middle = before ++ op :: after →
      resumes sha256 digests (runRegistry sha256 digests registry before) source op = false) :
    ((runRegistry sha256 digests registry middle).record source).held = true := by
  induction middle generalizing registry with
  | nil => exact held
  | cons op middle ih =>
      refine ih (held_step held (notResumed [] op middle rfl)) ?_
      intro before next after split
      exact notResumed (op :: before) next after (congrArg (List.cons op) split)

/-- While a suspension is in force the guard accepts nothing of the source. -/
theorem SourceSafe.silent (safe : SourceSafe sha256 source registry)
    (held : (registry.record source).held = true) :
    acceptsEvidence sha256 digests registry source op = false := by
  by_contra accepting
  cases op with
  | enroll | rotate | revoke | configure | setSuspension => exact accepting rfl
  | submit view now innerNow candidate =>
      simp only [acceptsEvidence, Bool.and_eq_true, decide_eq_true_eq,
        Bool.not_eq_false] at accepting
      obtain ⟨rfl, accepted⟩ := accepting
      split at accepted
      · rename_i next decision succeeded
        simp only [applyRegistry, Checked.bind_eq_ok, Checked.pure_eq_ok, Prod.mk.injEq,
          Prod.exists, Option.some.injEq] at succeeded
        obtain ⟨_, _, submitted, _, rfl⟩ := succeeded
        obtain ⟨old, _, registered, active, _⟩ := KeyRegistry.accepts_active submitted accepted
        have suspended := safe.holds.suspended held
        have state : (registry.record candidate.source).state? = some .active := by
          rw [SourceRecord.state?, KeyRegistry.record, registered, Option.map_some, active]
        rw [state] at suspended
        cases suspended
      · cases accepted

end Runs

/-- Unless the key of a source is rotated while its suspension is in force, no evidence is
accepted before the source is resumed, and every change of its state is recorded. -/
theorem suspension_holds (sha256 : Bytes → Sha256Digest) (digests : EvidenceDigests)
    (start : KeyRegistry) (fresh : start.Fresh) (ops : List RegistryOp) (source : SourceKey)
    (guarded : Transaction.Guarded (applyRegistry sha256 digests) (LeavesHeld sha256 source)
      start ops) :
    SilentUntilResumed sha256 digests start ops source ∧
      ∀ front op back, ops = front ++ op :: back →
        ChangeRecorded op ((runRegistry sha256 digests start front).record source)
          ((runRegistry sha256 digests start (front ++ [op])).record source) := by
  constructor
  · intro front suspending middle accepting back split suspended notResumed
    have first : SourceSafe sha256 source
        (runRegistry sha256 digests start (front ++ suspending :: middle)) := by
      refine SourceSafe.run fresh ?_
      rw [split, ← List.cons_append, ← List.append_assoc] at guarded
      exact ((Transaction.guarded_append start _ _).mp guarded).1
    refine first.silent ?_
    rw [runRegistry, Transaction.run_append, Transaction.run_cons]
    refine held_run (suspends_held suspended) fun before op after parts => ?_
    have earlier := notResumed before op after parts
    rw [runRegistry, Transaction.run_append, Transaction.run_cons] at earlier
    exact earlier
  · intro front op back split
    rw [split] at guarded
    obtain ⟨before, leaves, _⟩ := (Transaction.guarded_append start _ _).mp guarded
    have safe : SourceSafe sha256 source (runRegistry sha256 digests start front) :=
      SourceSafe.run fresh before
    rw [runRegistry, Transaction.run_concat]
    rcases Transaction.commit_cases (applyRegistry sha256 digests)
      (runRegistry sha256 digests start front) op with aborted | ⟨reply, succeeded⟩
    · rw [aborted]
      exact .refl _ _
    · exact (KeyRegistry.applyRegistry_moves succeeded source).changeRecorded safe.holds
        (KeyRegistry.record_distinct _ _) safe.epochs (leaves.released succeeded)

namespace RegistryScenario

def suspend : RegistryOp := .setSuspension (actor 1500000)
    ⟨⟨2⟩, some true, "COMPROMISE_SUSPECTED", 1500000⟩

def view : TenantView where
  activeMember := fun _ _ => true
  activeInfluence := fun _ => some influence

def candidate : ReplayCandidate where
  tenantId := ⟨1⟩
  subjectId := ⟨5⟩
  sourceId := ⟨2⟩
  keyId := ⟨7⟩
  evidenceType := .device
  eventId := ⟨8⟩
  sourceSequence := 0
  nonce := "".pushn 'n' 22
  observedAt := interval 3
  expiresAt := interval 60
  contentHashSha256 := ⟨6⟩
  synthetic := false

def submit : RegistryOp := .submit view (interval 3) (interval 3) candidate

end RegistryScenario

open RegistryScenario in
/-- A rotation lifts the suspension by an administrator without a trace. -/
theorem rotation_lifts_suspension :
    ¬ ∀ (sha256 : Bytes → Sha256Digest) (digests : EvidenceDigests) (start : KeyRegistry),
      start.Fresh → ∀ (ops : List RegistryOp) (source : SourceKey),
        SilentUntilResumed sha256 digests start ops source ∧
        ∀ front op back, ops = front ++ op :: back →
          ChangeRecorded op ((runRegistry sha256 digests start front).record source)
            ((runRegistry sha256 digests start (front ++ [op])).record source) := by
  intro claim
  have silent := (claim hash hashes start start_fresh [enroll, suspend, rotate, submit]
    (⟨1⟩, ⟨2⟩)).1 [enroll] suspend [rotate] submit [] rfl (by decide +kernel) (by
      intro before op after split
      have parts : before = [] ∧ op = rotate := by
        cases before with
        | nil => exact ⟨rfl, (List.cons.inj split).1.symm⟩
        | cons first rest =>
            have rest := (List.cons.inj split).2
            simp at rest
      rw [parts.2]
      rfl)
  have accepted : acceptsEvidence hash hashes
      (runRegistry hash hashes start ([enroll] ++ suspend :: [rotate])) (⟨1⟩, ⟨2⟩) submit =
        true := by
    decide +kernel
  rw [accepted] at silent
  cases silent

open RegistryScenario in
/-- A source that is suspended after a rotation. -/
theorem suspension_holds_rotated :
    suspends hash hashes (runRegistry hash hashes start [enroll, rotate]) (⟨1⟩, ⟨2⟩) suspend =
      true ∧
    SilentUntilResumed hash hashes start [enroll, rotate, suspend, submit] (⟨1⟩, ⟨2⟩) :=
  ⟨by decide +kernel, (suspension_holds hash hashes start start_fresh
    [enroll, rotate, suspend, submit] (⟨1⟩, ⟨2⟩)
    ⟨trivial, fun _ held => absurd held (by decide +kernel), trivial, trivial, trivial⟩).1⟩

end TenantTrust.Trust
