import TenantTrust.Trust.ReplaySafety
import TenantTrust.Trust.SourceMoves

/-! The epochs of the keys of a source: one active key at a time, in the order of enrolment. -/

namespace TenantTrust.Trust

open Library Identity

variable {sha256 : Bytes → Sha256Digest} {digests : EvidenceDigests}

/-- What holds of the rows of a source between calls. -/
structure SourceRecord.Epochs (sha256 : Bytes → Sha256Digest) (record : SourceRecord) : Prop where
  versions : record.history.map EvidenceSourceKey.keyVersion =
    List.range' 1 record.history.length
  fingerprints : ∀ row ∈ record.history, row.publicKeySha256 = sha256 row.publicKey.material
  material : (record.history.map EvidenceSourceKey.publicKeySha256).Nodup
  oneActive : ∀ left ∈ record.history, ∀ right ∈ record.history, left.state = .active →
    right.state = .active → left = right
  unenrolled : record.history = [] → ∀ row, record.row = some row →
    row.state = .planned ∧ row.verificationKeySha256 = none
  current : record.history ≠ [] → ∀ row, record.row = some row →
    row.verificationKeySha256 = record.active?.map EvidenceSourceKey.publicKeySha256
  activeKey : ∀ row, record.row = some row → row.state = .active → record.active?.isSome = true

section Histories

variable {history : List EvidenceSourceKey} {row : EvidenceSourceKey}

theorem find?_active (one : ∀ left ∈ history, ∀ right ∈ history, left.state = .active →
    right.state = .active → left = right) :
    history.find? (fun other => other.state = .active) = some row ↔
      row ∈ history ∧ row.state = .active := by
  constructor
  · intro found
    have holds := List.find?_some found
    exact ⟨List.mem_of_find?_eq_some found, by simpa using holds⟩
  · intro ⟨member, active⟩
    cases found : history.find? fun other => other.state = .active with
    | none =>
        have inactive := List.find?_eq_none.mp found row member
        simp [active] at inactive
    | some other =>
        have holds := List.find?_some found
        rw [one other (List.mem_of_find?_eq_some found) row member (by simpa using holds) active]

theorem find?_inactive (inactive : ∀ other ∈ history, other.state ≠ .active) :
    history.find? (fun other => other.state = .active) = none := by
  rw [List.find?_eq_none]
  intro other member
  simpa using inactive other member

theorem find?_appended (inactive : ∀ other ∈ history, other.state ≠ .active)
    (active : row.state = .active) :
    (history ++ [row]).find? (fun other => other.state = .active) = some row := by
  rw [List.find?_append, find?_inactive inactive]
  simp [active]

/-- A column that no change of state writes. -/
theorem setKeyState_column {α : Type} (column : EvidenceSourceKey → α)
    (kept : ∀ row state updatedAt, column (EvidenceSourceKey.withState row state updatedAt) =
      column row)
    (state : EvidenceSourceKeyState) (updatedAt : Instant)
    (distinct : (history.map EvidenceSourceKey.key).Nodup) (member : row ∈ history) :
    (setKeyState row state updatedAt history).map column = history.map column := by
  rw [setKeyState, List.map_map]
  apply List.map_congr_left
  intro other present
  rw [Function.comp_apply]
  split
  · rename_i same
    rw [kept, List.inj_on_of_nodup_map distinct present member same]
  · rfl

theorem mem_setKeyState (state : EvidenceSourceKeyState) (updatedAt : Instant)
    (distinct : (history.map EvidenceSourceKey.key).Nodup) (member : row ∈ history)
    {other : EvidenceSourceKey} :
    other ∈ setKeyState row state updatedAt history ↔
      other = row.withState state updatedAt ∨ (other ∈ history ∧ other ≠ row) := by
  rw [setKeyState, List.mem_map]
  constructor
  · rintro ⟨old, present, rfl⟩
    split
    · exact Or.inl rfl
    · rename_i different
      exact Or.inr ⟨present, fun same => different (by rw [same])⟩
  · rintro (rfl | ⟨present, different⟩)
    · exact ⟨row, member, if_pos rfl⟩
    · refine ⟨other, present, if_neg fun same => different ?_⟩
      exact List.inj_on_of_nodup_map distinct present member same

theorem setKeyState_oneActive {state : EvidenceSourceKeyState} (updatedAt : Instant)
    (one : ∀ left ∈ history, ∀ right ∈ history, left.state = .active → right.state = .active →
      left = right)
    (distinct : (history.map EvidenceSourceKey.key).Nodup) (member : row ∈ history)
    (ends : state ≠ .active) :
    ∀ left ∈ setKeyState row state updatedAt history,
      ∀ right ∈ setKeyState row state updatedAt history, left.state = .active →
      right.state = .active → left = right := by
  intro left leftPresent right rightPresent leftActive rightActive
  rcases (mem_setKeyState state updatedAt distinct member).mp leftPresent with rfl | earlier
  · exact absurd leftActive ends
  · rcases (mem_setKeyState state updatedAt distinct member).mp rightPresent with rfl | later
    · exact absurd rightActive ends
    · exact one left earlier.1 right later.1 leftActive rightActive

/-- When the active key ends there is none; any other leaves the active key as it is. -/
theorem find?_setKeyState (state : EvidenceSourceKeyState) (updatedAt : Instant)
    (one : ∀ left ∈ history, ∀ right ∈ history, left.state = .active → right.state = .active →
      left = right)
    (distinct : (history.map EvidenceSourceKey.key).Nodup) (member : row ∈ history)
    (ends : state ≠ .active) :
    (setKeyState row state updatedAt history).find? (fun other => other.state = .active) =
      if row.state = .active then none
      else history.find? fun other => other.state = .active := by
  split
  · rename_i active
    refine find?_inactive fun other present holds => ?_
    rcases (mem_setKeyState state updatedAt distinct member).mp present with rfl | earlier
    · exact ends holds
    · exact earlier.2 (one other earlier.1 row member holds active)
  · rename_i inactive
    refine Option.ext fun other => ?_
    rw [find?_active (setKeyState_oneActive updatedAt one distinct member ends), find?_active one,
      mem_setKeyState state updatedAt distinct member]
    constructor
    · rintro ⟨rfl | ⟨earlier, _⟩, active⟩
      · exact absurd active ends
      · exact ⟨earlier, active⟩
    · rintro ⟨earlier, active⟩
      exact ⟨Or.inr ⟨earlier, fun same => inactive (same ▸ active)⟩, active⟩

/-- The largest of the versions so far. -/
theorem foldl_max_range' (n : Nat) : (List.range' 1 n).foldl max 0 = n := by
  induction n with
  | zero => rfl
  | succ n ih =>
      rw [List.range'_concat, List.foldl_append, ih]
      simp only [List.foldl_cons, List.foldl_nil]
      omega

end Histories

namespace SourceRecord.Epochs

variable {row : Option EvidenceSource} {history : List EvidenceSourceKey}
  {controls : List SourceControlEvent}

/-- A call that writes neither the state nor the fingerprint of a source, or only its state. -/
theorem restated {old new : EvidenceSource} {later : List SourceControlEvent}
    (epochs : Epochs sha256 ⟨some old, history, controls⟩)
    (fingerprint : new.verificationKeySha256 = old.verificationKeySha256)
    (planned : history = [] → old.state = .planned → new.state = .planned)
    (active : new.state = .active →
      (history.find? fun row => row.state = .active).isSome = true) :
    Epochs sha256 ⟨some new, history, later⟩ where
  versions := epochs.versions
  fingerprints := epochs.fingerprints
  material := epochs.material
  oneActive := epochs.oneActive
  unenrolled := by
    intro empty row same
    obtain rfl := Option.some.inj same
    have before := epochs.unenrolled empty old rfl
    exact ⟨planned empty before.1, fingerprint.trans before.2⟩
  current := by
    intro used row same
    obtain rfl := Option.some.inj same
    exact fingerprint.trans (epochs.current used old rfl)
  activeKey := by
    intro row same
    obtain rfl := Option.some.inj same
    exact active

/-- A key enrolled when no other one is active. -/
theorem appended {old : EvidenceSource} {actor : RegistryActor} {call : KeyCall}
    {keyVersion : Nat} {updatedAt : Instant}
    (versions : history.map EvidenceSourceKey.keyVersion = List.range' 1 history.length)
    (fingerprints : ∀ row ∈ history, row.publicKeySha256 = sha256 row.publicKey.material)
    (material : (history.map EvidenceSourceKey.publicKeySha256).Nodup)
    (inactive : ∀ row ∈ history, row.state ≠ .active)
    (fresh : ∀ row ∈ history, row.publicKeySha256 ≠ sha256 call.publicKey.material)
    (version : keyVersion = history.length + 1) :
    Epochs sha256 ⟨some (old.withKey (sha256 call.publicKey.material) .active updatedAt),
      history ++ [call.row sha256 actor keyVersion], controls⟩ where
  versions := by
    rw [List.map_append, versions, List.length_append, List.length_singleton,
      List.range'_concat]
    simp [KeyCall.row, version, Nat.add_comm]
  fingerprints := by
    intro row member
    rcases List.mem_append.mp member with earlier | last
    · exact fingerprints row earlier
    · rw [List.mem_singleton.mp last]
      rfl
  material := by
    rw [List.map_append, List.nodup_append]
    refine ⟨material, List.nodup_singleton _, ?_⟩
    intro left present right last same
    obtain ⟨row, member, rfl⟩ := List.mem_map.mp present
    rw [List.map_singleton, List.mem_singleton] at last
    exact fresh row member (same.trans last)
  oneActive := by
    have last : ∀ row ∈ history ++ [call.row sha256 actor keyVersion], row.state = .active →
        row = call.row sha256 actor keyVersion := by
      intro row member holds
      rcases List.mem_append.mp member with earlier | last
      · exact absurd holds (inactive row earlier)
      · exact List.mem_singleton.mp last
    intro left present right member leftActive rightActive
    rw [last left present leftActive, last right member rightActive]
  unenrolled := by
    intro empty
    simp at empty
  current := by
    intro _ row same
    obtain rfl := Option.some.inj same
    rw [SourceRecord.active?, find?_appended inactive rfl]
    rfl
  activeKey := by
    intro _ _ _
    rw [SourceRecord.active?, find?_appended inactive rfl]
    rfl

/-- The key of a history that a revocation names. -/
theorem closed {old : EvidenceSource} {key : EvidenceSourceKey} {state : EvidenceSourceKeyState}
    {updatedAt : Instant} (epochs : Epochs sha256 ⟨some old, history, controls⟩)
    (distinct : (history.map EvidenceSourceKey.key).Nodup) (member : key ∈ history)
    (ends : state ≠ .active) :
    Epochs sha256 ⟨some (old.afterRevocation key updatedAt),
      setKeyState key state updatedAt history, controls⟩ := by
  have column {α : Type} (f : EvidenceSourceKey → α)
      (kept : ∀ row state updatedAt, f (EvidenceSourceKey.withState row state updatedAt) = f row) :=
    setKeyState_column f kept state updatedAt distinct member
  have nonempty : setKeyState key state updatedAt history ≠ [] := by
    intro empty
    rw [setKeyState, List.map_eq_nil_iff] at empty
    rw [empty] at member
    exact absurd member List.not_mem_nil
  have used : history ≠ [] := List.ne_nil_of_mem member
  have fingerprint := epochs.current used old rfl
  have status : (old.afterRevocation key updatedAt).verificationKeySha256 =
      ((setKeyState key state updatedAt history).find? fun row => row.state = .active).map
        EvidenceSourceKey.publicKeySha256 ∧
      ((old.afterRevocation key updatedAt).state = .active →
        ((setKeyState key state updatedAt history).find?
          fun row => row.state = .active).isSome = true) := by
    rw [find?_setKeyState _ updatedAt epochs.oneActive distinct member ends]
    unfold EvidenceSource.afterRevocation
    split
    · refine ⟨rfl, fun claimed => ?_⟩
      cases claimed
    · exact ⟨fingerprint, epochs.activeKey old rfl⟩
  refine ⟨?_, ?_, ?_, setKeyState_oneActive updatedAt epochs.oneActive distinct member ends,
    fun empty => absurd empty nonempty, ?_, ?_⟩
  · rw [column _ fun _ _ _ => rfl, epochs.versions, setKeyState, List.length_map]
  · intro row present
    rcases (mem_setKeyState state updatedAt distinct member).mp present with rfl | earlier
    · exact epochs.fingerprints key member
    · exact epochs.fingerprints row earlier.1
  · rw [column _ fun _ _ _ => rfl]
    exact epochs.material
  · intro _ row same
    obtain rfl := Option.some.inj same
    exact status.1
  · intro row same
    obtain rfl := Option.some.inj same
    exact status.2

/-- Every move of a source keeps its epochs. -/
theorem move {source : SourceKey} {op : RegistryOp} {before after : SourceRecord}
    (epochs : Epochs sha256 before) (distinct : (before.history.map EvidenceSourceKey.key).Nodup)
    (moved : SourceMove sha256 source op before after) : Epochs sha256 after := by
  cases moved with
  | idle => exact epochs
  | configured actor call old new event history controls state fingerprint recorded =>
      refine epochs.restated fingerprint (fun _ planned => state.trans planned) fun active => ?_
      exact epochs.activeKey old rfl (state.symm.trans active)
  | enrolled actor call old updatedAt controls target planned =>
      exact appended rfl (fun _ none => absurd none List.not_mem_nil) List.nodup_nil
        (fun _ none => absurd none List.not_mem_nil) (fun _ none => absurd none List.not_mem_nil)
        rfl
  | rotated actor call old current updatedAt history ended controls target state found closed
      inactive fresh =>
      subst closed
      have member := List.mem_of_find?_eq_some found
      have versions : (setKeyState current (.rotated ⟨actor.subjectId, call.at_⟩) updatedAt
          history).map EvidenceSourceKey.keyVersion = List.range' 1 history.length :=
        (setKeyState_column _ (fun _ _ _ => rfl) _ _ distinct member).trans epochs.versions
      have length : (setKeyState current (.rotated ⟨actor.subjectId, call.at_⟩) updatedAt
          history).length = history.length := List.length_map _
      refine appended (versions.trans (by rw [length])) ?_ ?_ inactive fresh ?_
      · intro row present
        rcases (mem_setKeyState _ updatedAt distinct member).mp present with rfl | earlier
        · exact epochs.fingerprints current member
        · exact epochs.fingerprints row earlier.1
      · rw [setKeyState_column _ (fun _ _ _ => rfl) _ _ distinct member]
        exact epochs.material
      · rw [length, versions, foldl_max_range']
  | recovered actor call old updatedAt history controls target state used absent fresh =>
      have inactive : ∀ row ∈ history, row.state ≠ .active := by
        intro row member
        simpa using List.find?_eq_none.mp absent row member
      refine appended epochs.versions epochs.fingerprints epochs.material inactive fresh ?_
      rw [epochs.versions, foldl_max_range']
  | revoked actor call old row rotation revocation updatedAt history controls member valid =>
      exact epochs.closed distinct member (by simp)
  | suspended actor call old event updatedAt history controls target suspend active recorded =>
      refine epochs.restated rfl (fun _ planned => ?_) fun claimed => ?_
      · rw [active] at planned
        cases planned
      · cases claimed
  | resumed actor call old event updatedAt history controls target resume suspended keyed
      recorded =>
      have used : history ≠ [] := by
        intro empty
        rw [(epochs.unenrolled empty old rfl).2] at keyed
        cases keyed
      refine epochs.restated rfl (fun empty => absurd empty used) fun _ => ?_
      rw [epochs.current used old rfl, Option.isSome_map] at keyed
      exact keyed
  | flooded view now innerNow candidate old event updatedAt history controls target active
      recorded =>
      refine epochs.restated rfl (fun _ planned => ?_) fun claimed => ?_
      · rw [active] at planned
        cases planned
      · cases claimed

end SourceRecord.Epochs

/-- A later row of the same key: only its state has changed, and not back to active. -/
def KeyPersists (old new : EvidenceSourceKey) : Prop :=
  new.withState old.state old.updatedAt = old ∧ (old.state ≠ .active → new.state ≠ .active)

/-- The keys of a source stay where they are; others may follow them. -/
def Retains (before after : List EvidenceSourceKey) : Prop :=
  ∀ (i : Nat) row, before[i]? = some row →
    ∃ later, after[i]? = some later ∧ KeyPersists row later

theorem KeyPersists.refl (row : EvidenceSourceKey) : KeyPersists row row := ⟨rfl, id⟩

theorem KeyPersists.trans {first second third : EvidenceSourceKey}
    (earlier : KeyPersists first second) (later : KeyPersists second third) :
    KeyPersists first third := by
  refine ⟨?_, fun ended => later.2 (earlier.2 ended)⟩
  have restored := earlier.1
  rw [← later.1] at restored
  exact restored

theorem Retains.refl (history : List EvidenceSourceKey) : Retains history history :=
  fun _ row found => ⟨row, found, .refl row⟩

theorem Retains.trans {first second third : List EvidenceSourceKey}
    (earlier : Retains first second) (later : Retains second third) : Retains first third := by
  intro i row found
  obtain ⟨kept, keptAt, persists⟩ := earlier i row found
  obtain ⟨last, lastAt, persistsLater⟩ := later i kept keptAt
  exact ⟨last, lastAt, persists.trans persistsLater⟩

theorem Retains.append (history added : List EvidenceSourceKey) :
    Retains history (history ++ added) := by
  intro i row found
  have inside : i < history.length := (List.getElem?_eq_some_iff.mp found).1
  exact ⟨row, (List.getElem?_append_left inside).trans found, .refl row⟩

theorem Retains.setKeyState {history : List EvidenceSourceKey} {row : EvidenceSourceKey}
    {state : EvidenceSourceKeyState} {updatedAt : Instant}
    (distinct : (history.map EvidenceSourceKey.key).Nodup) (member : row ∈ history)
    (ends : state ≠ .active) : Retains history (setKeyState row state updatedAt history) := by
  intro i other found
  refine ⟨_, by rw [Trust.setKeyState, List.getElem?_map, found, Option.map_some], ?_⟩
  split
  · rename_i same
    obtain rfl := List.inj_on_of_nodup_map distinct (List.mem_of_getElem? found) member same
    exact ⟨rfl, fun _ => ends⟩
  · exact .refl other

theorem SourceMove.retains {source : SourceKey} {op : RegistryOp} {before after : SourceRecord}
    (distinct : (before.history.map EvidenceSourceKey.key).Nodup)
    (moved : SourceMove sha256 source op before after) :
    Retains before.history after.history := by
  cases moved with
  | idle | configured | suspended | resumed | flooded => exact .refl _
  | enrolled actor call old updatedAt controls target planned => exact .append [] _
  | rotated actor call old current updatedAt history ended controls target state found closed
      inactive fresh =>
      subst closed
      have kept : Retains history (setKeyState current (.rotated ⟨actor.subjectId, call.at_⟩)
          updatedAt history) :=
        .setKeyState distinct (List.mem_of_find?_eq_some found) (by simp)
      exact kept.trans (.append _ _)
  | recovered actor call old updatedAt history controls target state used absent fresh =>
      exact .append _ _
  | revoked actor call old row rotation revocation updatedAt history controls member valid =>
      exact .setKeyState distinct member (by simp)

namespace KeyRegistry

variable {registry next : KeyRegistry} {source : SourceKey}

theorem record_distinct (registry : KeyRegistry) (source : SourceKey) :
    ((registry.record source).history.map EvidenceSourceKey.key).Nodup :=
  (List.filter_sublist.map EvidenceSourceKey.key).nodup registry.keys.distinct

theorem Fresh.epochs (fresh : registry.Fresh) (source : SourceKey) :
    (registry.record source).Epochs sha256 := by
  have empty : (registry.record source).history = [] := by
    simp [record, EvidenceSourceKeys.history, fresh.keys, Table.empty]
  refine ⟨?_, ?_, ?_, ?_, ?_, ?_, ?_⟩
  · rw [empty]
    rfl
  · intro row member
    rw [empty] at member
    exact absurd member List.not_mem_nil
  · rw [empty]
    exact List.nodup_nil
  · intro row member
    rw [empty] at member
    exact absurd member List.not_mem_nil
  · intro _ row found
    exact fresh.planned row (Table.get?_mem found)
  · exact fun used => absurd empty used
  · intro row found active
    rw [(fresh.planned row (Table.get?_mem found)).1] at active
    cases active

theorem run_epochs {start : KeyRegistry} (fresh : start.Fresh) (ops : List RegistryOp)
    (source : SourceKey) :
    ((runRegistry sha256 digests start ops).record source).Epochs sha256 := by
  have preserved : ∀ before op after (reply : Option GuardDecision),
      (before.record source).Epochs sha256 →
      applyRegistry sha256 digests op before = .ok (after, reply) →
      (after.record source).Epochs sha256 := by
    intro before op after reply epochs succeeded
    exact epochs.move (before.record_distinct source) (applyRegistry_moves succeeded source)
  exact Transaction.run_preserves preserved start ops (fresh.epochs source)

theorem run_retains (start : KeyRegistry) (ops : List RegistryOp) (source : SourceKey) :
    Retains (start.keys.history source)
      ((runRegistry sha256 digests start ops).keys.history source) := by
  have preserved : ∀ before op after (reply : Option GuardDecision),
      Retains (start.keys.history source) (before.keys.history source) →
      applyRegistry sha256 digests op before = .ok (after, reply) →
      Retains (start.keys.history source) (after.keys.history source) := by
    intro before op after reply retained succeeded
    exact retained.trans
      ((applyRegistry_moves succeeded source).retains (before.record_distinct source))
  exact Transaction.run_preserves preserved start ops (.refl _)

/-- The guard accepts under the active key of an active source only. -/
theorem accepts_active {view : TenantView} {now innerNow : Instant} {p : ReplayCandidate}
    {evidence : EvidenceDatabase} {decision : GuardDecision}
    (succeeded : applyEvidenceReplayGuard digests (registry.guardSession view) now innerNow p
      registry.evidence = .ok (evidence, decision)) (accepted : decision.accepted = true) :
    ∃ old row, registry.source? p.source = some old ∧ old.state = .active ∧
      registry.keys.active? p.source = some row ∧ row.keyId = p.keyId := by
  have resolved : ∃ old, verificationContext (registry.guardSession view) p registry.evidence =
      some old := by
    cases applyEvidenceReplayGuard_outcome succeeded with
    | unresolved context => cases accepted
    | rateLimited old next highest context limits => cases accepted
    | refused old window next decision context opened room inner denied =>
        rw [denied] at accepted
        cases accepted
    | accepted old window admitted context opened room ordered accepts => exact ⟨old, context⟩
  obtain ⟨old, context⟩ := resolved
  obtain ⟨registered, verifies⟩ := verificationContext_eq_some.mp context
  simp only [EvidenceSource.verifies, Bool.and_eq_true, decide_eq_true_eq] at verifies
  obtain ⟨⟨⟨⟨⟨⟨_, active⟩, _⟩, _⟩, _⟩, present⟩, _⟩ := verifies
  have current : (registry.guardSession view).activeKey p.tenantId p.sourceId =
      (registry.keys.active? p.source).map fun row => (row.keyId, row.publicKeySha256) := rfl
  rw [GuardSession.keySha256, current] at present
  cases found : registry.keys.active? p.source with
  | none => simp [found] at present
  | some row =>
      refine ⟨old, row, registered, active, rfl, ?_⟩
      by_contra different
      simp [found, different] at present

end KeyRegistry

/-- Evidence with the bytes of the public key whose private half signed it; a signature verifies
under no other key. -/
structure SignedEvidence where
  candidate : ReplayCandidate
  signedWith : Bytes

/-- The service resolves the key and verifies the signature, and the guard decides later. -/
def SignedEvidence.AcceptedBy (evidence : SignedEvidence) (digests : EvidenceDigests)
    (resolved registry : KeyRegistry) : Prop :=
  ∃ view source row later now innerNow next decision,
    resolveEvidenceVerificationContext view evidence.candidate.tenantId
      evidence.candidate.subjectId evidence.candidate.sourceId evidence.candidate.keyId resolved =
        some (source, row) ∧
    row.publicKey.material = evidence.signedWith ∧
    applyEvidenceReplayGuard digests (registry.guardSession later) now innerNow
      evidence.candidate registry.evidence = .ok (next, decision) ∧
    decision.accepted = true

/-- The registry of a source in every state that calls can reach. -/
structure KeyEpochs (registry : KeyRegistry) (source : SourceKey) : Prop where
  versions : (registry.keys.history source).map EvidenceSourceKey.keyVersion =
    List.range' 1 (registry.keys.history source).length
  oneActive : (registry.keys.history source).countP (fun row => row.state = .active) ≤ 1
  fingerprint : ∀ row, registry.source? source = some row → registry.keys.history source ≠ [] →
    row.verificationKeySha256 =
      (registry.keys.active? source).map EvidenceSourceKey.publicKeySha256
  activeKey : ∀ row, registry.source? source = some row → row.state = .active →
    (registry.keys.active? source).isSome = true
  material : ((registry.keys.history source).map fun row => row.publicKey.material).Nodup

theorem countP_le_one {history : List EvidenceSourceKey} (nodup : history.Nodup)
    (one : ∀ left ∈ history, ∀ right ∈ history, left.state = .active → right.state = .active →
      left = right) : history.countP (fun row => row.state = .active) ≤ 1 := by
  rw [List.countP_eq_length_filter]
  have distinct : (history.filter fun row => row.state = .active).Nodup := nodup.filter _
  have members : ∀ row ∈ history.filter fun row => row.state = .active,
      row ∈ history ∧ row.state = .active := by
    intro row member
    simpa using member
  generalize history.filter (fun row => row.state = .active) = active at distinct members
  match active, distinct, members with
  | [], _, _ => exact Nat.zero_le 1
  | [_], _, _ => exact le_refl 1
  | first :: second :: rest, distinct, members =>
      have left := members first (by simp)
      have right := members second (by simp)
      have same := one first left.1 second right.1 left.2 right.2
      rw [same] at distinct
      simp at distinct

theorem SourceRecord.Epochs.keyEpochs {registry : KeyRegistry} {source : SourceKey}
    (epochs : (registry.record source).Epochs sha256) : KeyEpochs registry source where
  versions := epochs.versions
  oneActive := countP_le_one (.of_map _ (registry.record_distinct source)) epochs.oneActive
  fingerprint := fun row found used => epochs.current used row found
  activeKey := epochs.activeKey
  material := by
    have hashed : (registry.keys.history source).map EvidenceSourceKey.publicKeySha256 =
        ((registry.keys.history source).map fun row => row.publicKey.material).map sha256 := by
      rw [List.map_map]
      exact List.map_congr_left epochs.fingerprints
    have distinct := epochs.material
    change ((registry.keys.history source).map EvidenceSourceKey.publicKeySha256).Nodup at distinct
    rw [hashed] at distinct
    exact .of_map sha256 distinct

theorem resolve_eq_some {view : TenantView} {tenantId : TenantId} {subjectId : SubjectId}
    {sourceId : SourceId} {keyId : EvidenceSourceKeyId} {registry : KeyRegistry}
    {old : EvidenceSource} {row : EvidenceSourceKey}
    (resolved : resolveEvidenceVerificationContext view tenantId subjectId sourceId keyId
      registry = some (old, row)) :
    row ∈ registry.keys.history (tenantId, sourceId) ∧ row.keyId = keyId := by
  simp only [resolveEvidenceVerificationContext, Option.bind_eq_bind, Option.bind_eq_some_iff,
    Option.ite_none_right_eq_some, Option.some.injEq, Prod.mk.injEq] at resolved
  obtain ⟨_, _, found, present, _, _, rfl⟩ := resolved
  have named : found.key = (tenantId, sourceId, keyId) := Table.get?_key present
  have parts := Prod.mk.inj named
  have rest := Prod.mk.inj parts.2
  refine ⟨EvidenceSourceKeys.mem_history.mpr ⟨Table.get?_mem present, ?_⟩, rest.2⟩
  exact Prod.ext parts.1 rest.1

section Revocation

variable {registry next : KeyRegistry} {actor : RegistryActor} {p : KeyRevocationCall}
  {change : KeyChange}

/-- A revocation ends the key that it names and no other, and with the active key it takes the
source out of service. -/
theorem revoke_ends_key
    (revoked : revokeEvidenceSourceKey actor p registry = .ok (next, change)) :
    next.keys.get? (actor.tenantId, p.sourceId, p.keyId) = some change.key ∧
      change.key.state.isRevoked = true ∧
      (∀ key, key ≠ (actor.tenantId, p.sourceId, p.keyId) →
        next.keys.get? key = registry.keys.get? key) ∧
      next.source? (actor.tenantId, p.sourceId) = some change.source ∧
      ∀ row, registry.keys.get? (actor.tenantId, p.sourceId, p.keyId) = some row →
        row.state = .active →
        change.source.state = .suspended ∧ change.source.verificationKeySha256 = none := by
  simp only [revokeEvidenceSourceKey, Checked.bind_eq_ok, Checked.require_eq_ok,
    Checked.requireSome_eq_ok, Checked.pure_eq_ok, exists_const, Prod.mk.injEq] at revoked
  obtain ⟨_, _, old, registered, row, found, _, keys, updated, evidence, stored, rfl, rfl⟩ :=
    revoked
  obtain rfl := EvidenceSourceKeys.updateKey_eq_ok updated
  obtain ⟨_, rfl⟩ := storeSource_eq_ok stored
  have named : row.key = (actor.tenantId, p.sourceId, p.keyId) := Table.get?_key found
  have kept (state : EvidenceSourceKeyState) (at_ : Timestamp) :
      registry.keys.get? (row.withState state at_).key = some row := (congrArg _ named).trans found
  have replaced := Table.get?_replace registry.keys (kept (.revoked row.state.rotation
    ⟨actor.subjectId, p.revokedAt, p.reasonCode⟩) (max actor.clock p.revokedAt))
  have owner : (old.afterRevocation row (max actor.clock p.revokedAt)).key =
      (actor.tenantId, p.sourceId) :=
    (KeyRegistry.afterRevocation_key old row _).trans (Table.get?_key registered)
  refine ⟨(replaced _).trans (if_pos named), rfl, ?_, ?_, ?_⟩
  · intro key other
    exact (replaced key).trans (if_neg fun same => other (same.symm.trans named))
  · exact (Table.get?_upsert registry.evidence.sources _ _).trans (if_pos owner)
  · intro stored present active
    cases found.symm.trans present
    exact ⟨congrArg EvidenceSource.state (if_pos active),
      congrArg EvidenceSource.verificationKeySha256 (if_pos active)⟩

/-- No service verifies a signature with a key once it is revoked. -/
theorem revoked_key_unresolved
    (revoked : revokeEvidenceSourceKey actor p registry = .ok (next, change))
    (view : TenantView) (subjectId : SubjectId) :
    resolveEvidenceVerificationContext view actor.tenantId subjectId p.sourceId p.keyId next =
      none := by
  obtain ⟨present, ended, _⟩ := revoke_ends_key revoked
  have inactive : change.key.state ≠ .active := by
    intro active
    rw [active] at ended
    cases ended
  simp only [resolveEvidenceVerificationContext, Option.bind_eq_bind, present, Option.bind_some,
    inactive, and_false, if_false, Option.bind_fun_none]

end Revocation

/-- Two keys of a source with one id are the same row. -/
theorem history_unique {keys : EvidenceSourceKeys} {source : SourceKey}
    {left right : EvidenceSourceKey} (leftMember : left ∈ keys.history source)
    (rightMember : right ∈ keys.history source) (same : left.keyId = right.keyId) :
    left = right := by
  obtain ⟨leftPresent, leftSource⟩ := EvidenceSourceKeys.mem_history.mp leftMember
  obtain ⟨rightPresent, rightSource⟩ := EvidenceSourceKeys.mem_history.mp rightMember
  have sources := Prod.mk.inj (leftSource.trans rightSource.symm)
  refine keys.unique leftPresent rightPresent ?_
  exact Prod.ext sources.1 (Prod.ext sources.2 same)

theorem KeyPersists.columns {old new : EvidenceSourceKey} (persists : KeyPersists old new) :
    new.keyId = old.keyId ∧ new.publicKey = old.publicKey := by
  rw [← persists.1]
  exact ⟨rfl, rfl⟩

/-- The row of a key after more calls. -/
theorem ended_key_persists {start : KeyRegistry} {ops : List RegistryOp} (later : List RegistryOp)
    {source : SourceKey} {row : EvidenceSourceKey}
    (member : row ∈ (runRegistry sha256 digests start ops).keys.history source)
    (ended : row.state ≠ .active) :
    ∃ last ∈ (runRegistry sha256 digests start (ops ++ later)).keys.history source,
      last.keyId = row.keyId ∧ last.publicKey = row.publicKey ∧ last.state ≠ .active := by
  obtain ⟨i, rowAt⟩ := List.getElem?_of_mem member
  have retained : Retains _ ((runRegistry sha256 digests _ later).keys.history source) :=
    KeyRegistry.run_retains (runRegistry sha256 digests start ops) later source
  obtain ⟨last, lastAt, persists⟩ := retained i row rowAt
  refine ⟨last, ?_, persists.columns.1, persists.columns.2, persists.2 ended⟩
  rw [runRegistry, Transaction.run_append]
  exact List.mem_of_getElem? lastAt

/-- The row that verified a signature is the active one when the guard accepts. -/
theorem SignedEvidence.AcceptedBy.active {evidence : SignedEvidence} {start : KeyRegistry}
    {front back : List RegistryOp}
    (accepted : evidence.AcceptedBy digests (runRegistry sha256 digests start front)
      (runRegistry sha256 digests start (front ++ back))) :
    ∃ active, (runRegistry sha256 digests start (front ++ back)).keys.active?
        evidence.candidate.source = some active ∧
      active.publicKey.material = evidence.signedWith := by
  obtain ⟨view, old, row, laterView, now, innerNow, next, decision, resolved, verified,
    succeeded, accepted⟩ := accepted
  obtain ⟨_, active, _, _, found, named⟩ := KeyRegistry.accepts_active succeeded accepted
  obtain ⟨member, resolvedName⟩ := resolve_eq_some resolved
  obtain ⟨i, resolvedAt⟩ := List.getElem?_of_mem member
  have retained : Retains _
      ((runRegistry sha256 digests _ back).keys.history evidence.candidate.source) :=
    KeyRegistry.run_retains (runRegistry sha256 digests start front) back
      evidence.candidate.source
  obtain ⟨kept, keptAt, persists⟩ := retained i row resolvedAt
  have keptMember : kept ∈ (runRegistry sha256 digests start (front ++ back)).keys.history
      evidence.candidate.source := by
    rw [runRegistry, Transaction.run_append]
    exact List.mem_of_getElem? keptAt
  have same : kept = active := by
    refine history_unique keptMember (List.mem_of_find?_eq_some found) ?_
    rw [persists.columns.1, resolvedName, named]
  refine ⟨active, found, ?_⟩
  rw [← same, persists.columns.2, verified]

/-- After every sequence of calls the epochs of the keys are in order; what a key that has ended
signed is not accepted any more, and its public key stays in the table. -/
theorem evidence_key_epochs (sha256 : Bytes → Sha256Digest) (digests : EvidenceDigests)
    (start : KeyRegistry) (fresh : start.Fresh) (ops : List RegistryOp) (source : SourceKey) :
    KeyEpochs (runRegistry sha256 digests start ops) source ∧
      ∀ later, Retains ((runRegistry sha256 digests start ops).keys.history source)
          ((runRegistry sha256 digests start (ops ++ later)).keys.history source) ∧
        ∀ row ∈ (runRegistry sha256 digests start ops).keys.history source,
          row.state ≠ .active →
          (∀ view now innerNow p next decision, p.source = source → p.keyId = row.keyId →
            applyEvidenceReplayGuard digests
              ((runRegistry sha256 digests start (ops ++ later)).guardSession view) now innerNow p
              (runRegistry sha256 digests start (ops ++ later)).evidence = .ok (next, decision) →
            decision.accepted = false) ∧
          (∀ evidence : SignedEvidence, evidence.candidate.source = source →
            evidence.signedWith = row.publicKey.material →
            ∀ front back, ops ++ later = front ++ back →
              ¬ evidence.AcceptedBy digests (runRegistry sha256 digests start front)
                (runRegistry sha256 digests start (ops ++ later))) := by
  refine ⟨(KeyRegistry.run_epochs fresh ops source).keyEpochs, fun later => ⟨?_, ?_⟩⟩
  · rw [runRegistry, Transaction.run_append]
    exact KeyRegistry.run_retains _ later source
  · intro row member ended
    have epochs : ((runRegistry sha256 digests start (ops ++ later)).record source).Epochs sha256 :=
      KeyRegistry.run_epochs fresh (ops ++ later) source
    obtain ⟨last, lastMember, lastName, lastKey, lastEnded⟩ :=
      ended_key_persists later member ended
    constructor
    · rintro view now innerNow p next decision rfl named succeeded
      by_contra accepted
      obtain ⟨_, active, _, _, found, activeName⟩ :=
        KeyRegistry.accepts_active succeeded (by simpa using accepted)
      have same : active = last := history_unique (List.mem_of_find?_eq_some found) lastMember
        (activeName.trans (named.trans lastName.symm))
      exact lastEnded (same ▸ (EvidenceSourceKeys.active?_eq_some found).2.2)
    · rintro evidence rfl signed front back split accepted
      rw [split] at accepted
      obtain ⟨active, found, material⟩ := accepted.active
      rw [← split] at found
      have same : active = last := List.inj_on_of_nodup_map epochs.keyEpochs.material
        (List.mem_of_find?_eq_some found) lastMember (by rw [material, signed, lastKey])
      exact lastEnded (same ▸ (EvidenceSourceKeys.active?_eq_some found).2.2)

namespace RegistryScenario

def hash (material : Bytes) : Sha256Digest :=
  ⟨material.foldl (fun n byte => n * 256 + byte.toNat) 0⟩

def hashes : EvidenceDigests where
  event := fun eventId => ⟨eventId.value⟩
  nonce := fun nonce => ⟨nonce.length⟩

def influence : Influence := FloodScenario.influence

/-- The source of the flood scenario before it has a key. -/
def source : EvidenceSource :=
  { FloodScenario.source with state := .planned, verificationKeySha256 := none }

def start : KeyRegistry where
  evidence := {
    sources := ⟨[source], by decide⟩
    ingestion := Table.empty
    receipts := Table.empty
    rejections := []
    rates := Table.empty
    controlEvents := [] }
  keys := Table.empty

theorem start_fresh : start.Fresh where
  planned := by
    intro row member
    rw [List.mem_singleton.mp member]
    exact ⟨rfl, rfl⟩
  keys := rfl
  controlEvents := rfl

def actor (clock : Instant) : RegistryActor where
  clock := clock
  tenantId := ⟨1⟩
  subjectId := ⟨5⟩
  isTenantAdmin := true

def publicKey (first : Bool) : Ed25519PublicKey :=
  if first then ⟨"AAAAAAAAAAAAAAAAAAAAAAAAAAAAAAAAAAAAAAAAAAA", by decide⟩
  else ⟨"BAAAAAAAAAAAAAAAAAAAAAAAAAAAAAAAAAAAAAAAAAA", by decide⟩

def enroll : RegistryOp := .enroll (actor (interval 1)) ⟨⟨2⟩, ⟨4⟩, publicKey true, interval 1⟩

def rotate : RegistryOp := .rotate (actor (interval 2)) ⟨⟨2⟩, ⟨7⟩, publicKey false, interval 2⟩

end RegistryScenario

/-- A source whose first key has been rotated. -/
theorem rotated_key_epochs :
    let registry := runRegistry RegistryScenario.hash RegistryScenario.hashes
      RegistryScenario.start [RegistryScenario.enroll, RegistryScenario.rotate]
    ((registry.keys.history (⟨1⟩, ⟨2⟩)).map fun row => (row.keyVersion, row.state.isRevoked,
      decide (row.state = .active))) = [(1, false, false), (2, false, true)] ∧
    KeyEpochs registry (⟨1⟩, ⟨2⟩) :=
  ⟨by decide +kernel, (evidence_key_epochs RegistryScenario.hash RegistryScenario.hashes
    RegistryScenario.start RegistryScenario.start_fresh
    [RegistryScenario.enroll, RegistryScenario.rotate] (⟨1⟩, ⟨2⟩)).1⟩

end TenantTrust.Trust
