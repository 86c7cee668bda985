import TenantTrust.Audit.AuditContract

/-! What calls of the chaincode can make of the state of a channel. -/

namespace TenantTrust.Audit

open Library
open Trust (script isSha256 matchesEach)

section Texts

theorem matchesEach_replicate_spec {p : CodeUnit → Bool} {n : ℕ} {s : ScriptString}
    (accepted : matchesEach (List.replicate n p) s = true) :
    s.length = n ∧ ∀ unit ∈ s, p unit = true := by
  induction n generalizing s with
  | zero =>
      cases s with
      | nil => exact ⟨rfl, fun _ member => by cases member⟩
      | cons unit rest => cases accepted
  | succ n ih =>
      cases s with
      | nil => cases accepted
      | cons unit rest =>
          rw [List.replicate_succ, matchesEach, Bool.and_eq_true] at accepted
          have others := ih accepted.2
          refine ⟨by rw [List.length_cons, others.1], ?_⟩
          intro other member
          rcases List.mem_cons.mp member with rfl | later
          · exact accepted.1
          · exact others.2 other later

theorem Sha256Text.length (hash : Sha256Text) : hash.val.length = 64 :=
  (matchesEach_replicate_spec hash.property).1

/-- The code units of a key are ASCII characters. -/
def IsAscii (s : ScriptString) : Prop := ∀ unit ∈ s, unit.val < 128

theorem IsAscii.append {left right : ScriptString} (first : IsAscii left)
    (second : IsAscii right) : IsAscii (left ++ right) := by
  intro unit member
  rcases List.mem_append.mp member with before | after
  · exact first unit before
  · exact second unit after

theorem IsAscii.ofChars_text {s : ScriptString} (ascii : IsAscii s) :
    ScriptString.ofChars s.text = s := by
  apply ScriptString.ofChars_text
  intro unit member
  have small := ascii unit member
  unfold IsHigh IsLow
  omega

theorem Sha256Text.ascii (hash : Sha256Text) : IsAscii hash.val := by
  intro unit member
  have digit := (matchesEach_replicate_spec hash.property).2 unit member
  simp only [Hex.isDigit, Bool.or_eq_true, Bool.and_eq_true, decide_eq_true_eq] at digit
  omega

instance (s : ScriptString) : Decidable (IsAscii s) :=
  List.decidableBAll (fun unit : CodeUnit => unit.val < 128) s

theorem commitmentKey_ascii (recordType : AuditRecordType) (hash : Sha256Text) :
    IsAscii (commitmentKey recordType hash) := by
  have texts : IsAscii (script "audit~" ++ script recordType.text ++ script "~") := by
    cases recordType <;> decide
  exact texts.append hash.ascii

theorem anchorState_injective {left right : ScriptString} (first : IsAscii left)
    (second : IsAscii right) (same : anchorState left = anchorState right) : left = right := by
  have texts : left.text = right.text := by
    rw [← Utf8.decode_encode left.text, ← Utf8.decode_encode right.text]
    exact congrArg Utf8.decode same
  rw [← first.ofChars_text, ← second.ofChars_text, texts]

theorem recordType_script_injective {left right : AuditRecordType}
    (same : script left.text = script right.text) : left = right := by
  revert same
  cases left <;> cases right <;> decide

theorem commitmentKey_injective {left right : AuditRecordType} {first second : Sha256Text}
    (same : commitmentKey left first = commitmentKey right second) :
    left = right ∧ first = second := by
  have lengths : first.val.length = second.val.length := by
    rw [first.length, second.length]
  have parts := List.append_inj' same lengths
  have types : script left.text = script right.text :=
    List.append_cancel_left (List.append_cancel_right parts.1)
  exact ⟨recordType_script_injective types, Subtype.ext parts.2⟩

theorem eventAnchorKey_injective {first second : Sha256Text}
    (same : eventAnchorKey first = eventAnchorKey second) : first = second :=
  Subtype.ext (List.append_cancel_left same)

theorem commitmentKey_ne_eventAnchorKey (recordType : AuditRecordType)
    (first second : Sha256Text) : commitmentKey recordType first ≠ eventAnchorKey second := by
  intro same
  have heads : script "audit~" = script "event~" := by
    have equal := congrArg (List.take 6) same
    simp only [commitmentKey, eventAnchorKey, List.append_assoc] at equal
    rw [List.take_left' (by decide), List.take_left' (by decide)] at equal
    exact equal
  exact absurd heads (by decide)

theorem PublicCommitment.json_wellFormed (value : PublicCommitment) : value.json.WellFormed := by
  have names : [script "canonicalizationProfile", script "commitmentHashSha256",
      script "digestAlgorithm", script "eventKeyHashSha256", script "recordType",
      script "schemaVersion"].Nodup := by decide
  refine .object names ?_
  intro member found
  simp only [List.mem_cons, List.not_mem_nil, or_false] at found
  rcases found with rfl | rfl | rfl | rfl | rfl | rfl <;> exact .string _

theorem serializeCommitment_injective {left right : PublicCommitment}
    (same : serializeCommitment left = serializeCommitment right) : left = right := by
  have texts : left.text = right.text := by
    rw [← Utf8.decode_encode left.text, ← Utf8.decode_encode right.text]
    exact congrArg Utf8.decode same
  have values : left.json = right.json := by
    have parsed := left.json_wellFormed.parse_stringify
    have other := right.json_wellFormed.parse_stringify
    rw [show left.json.stringify = right.json.stringify from texts, other] at parsed
    exact (Option.some.inj parsed).symm
  simp only [PublicCommitment.json, JsonValue.object.injEq, List.cons.injEq, Prod.mk.injEq,
    JsonValue.string.injEq, true_and, and_true] at values
  rcases left with ⟨recordType, key, hash⟩
  rcases right with ⟨otherType, otherKey, otherHash⟩
  have types : recordType = otherType := recordType_script_injective values.2.2
  have keys : key = otherKey := Subtype.ext values.2.1
  have hashes : hash = otherHash := Subtype.ext values.1
  rw [types, keys, hashes]

/-- The text of a JSON object is not empty. -/
theorem serializeCommitment_ne_nil (value : PublicCommitment) :
    serializeCommitment value ≠ [] := by
  intro empty
  have text : value.text = [] := by
    rw [← Utf8.decode_encode value.text]
    exact congrArg Utf8.decode empty
  cases text

theorem anchorState_ne_nil (recordType : AuditRecordType) (hash : Sha256Text) :
    anchorState (commitmentKey recordType hash) ≠ [] := by
  intro empty
  have text : (commitmentKey recordType hash).text = [] := by
    rw [← Utf8.decode_encode (commitmentKey recordType hash).text]
    exact congrArg Utf8.decode empty
  have key := (commitmentKey_ascii recordType hash).ofChars_text
  rw [text] at key
  have length := congrArg List.length key
  simp [commitmentKey, hash.length, ScriptString.ofChars] at length

end Texts

section States

variable {getState : ScriptString → Bytes} {value other : PublicCommitment}

/-- The state of a channel holds a commitment and its anchor. -/
structure Stored (getState : ScriptString → Bytes) (value : PublicCommitment) : Prop where
  state : getState value.key = serializeCommitment value
  anchor : getState value.anchorKey = anchorState value.key

/-- Whatever stands under a commitment key or an event anchor belongs to a stored commitment. -/
structure Anchored (getState : ScriptString → Bytes) : Prop where
  states : ∀ recordType hash, getState (commitmentKey recordType hash) ≠ [] →
    ∃ value, Stored getState value ∧ value.recordType = recordType ∧
      value.eventKeyHashSha256 = hash
  anchors : ∀ hash, getState (eventAnchorKey hash) ≠ [] →
    ∃ value, Stored getState value ∧ value.eventKeyHashSha256 = hash

/-- The state of a channel on which nothing has been written. -/
def emptyState : ScriptString → Bytes := fun _ => []

theorem anchored_empty : Anchored emptyState where
  states _ _ occupied := absurd rfl occupied
  anchors _ occupied := absurd rfl occupied

/-- An event key hash is bound to one commitment. -/
theorem Stored.unique (left : Stored getState value) (right : Stored getState other)
    (same : value.eventKeyHashSha256 = other.eventKeyHashSha256) : value = other := by
  have anchors : anchorState value.key = anchorState other.key := by
    rw [← left.anchor, ← right.anchor, PublicCommitment.anchorKey, same,
      PublicCommitment.anchorKey]
  have keys : value.key = other.key := anchorState_injective
    (commitmentKey_ascii _ _) (commitmentKey_ascii _ _) anchors
  apply serializeCommitment_injective
  rw [← left.state, ← right.state, keys]

def applyWrites (getState : ScriptString → Bytes) (writes : List (ScriptString × Bytes)) :
    ScriptString → Bytes :=
  writes.foldl (fun state write => Function.update state write.1 write.2) getState

theorem applyWrites_commitment (getState : ScriptString → Bytes) (value : PublicCommitment)
    (key : ScriptString) : applyWrites getState value.writes key =
      if key = value.anchorKey then anchorState value.key
      else if key = value.key then serializeCommitment value else getState key := by
  simp only [applyWrites, PublicCommitment.writes, List.foldl_cons, List.foldl_nil,
    Function.update_apply]

/-- Under a commitment key, only the state of the commitment is written. -/
theorem applyWrites_key (getState : ScriptString → Bytes) (value : PublicCommitment)
    (recordType : AuditRecordType) (hash : Sha256Text) :
    applyWrites getState value.writes (commitmentKey recordType hash) =
      if commitmentKey recordType hash = value.key then serializeCommitment value
      else getState (commitmentKey recordType hash) := by
  have apart : commitmentKey recordType hash ≠ value.anchorKey :=
    commitmentKey_ne_eventAnchorKey _ _ _
  rw [applyWrites_commitment, if_neg apart]

/-- Under an event anchor, only the anchor of the commitment is written. -/
theorem applyWrites_anchor (getState : ScriptString → Bytes) (value : PublicCommitment)
    (hash : Sha256Text) : applyWrites getState value.writes (eventAnchorKey hash) =
      if eventAnchorKey hash = value.anchorKey then anchorState value.key
      else getState (eventAnchorKey hash) := by
  have apart : eventAnchorKey hash ≠ value.key :=
    fun same => commitmentKey_ne_eventAnchorKey _ _ _ same.symm
  rw [applyWrites_commitment, if_neg apart]

theorem stored_after_writes (getState : ScriptString → Bytes) (value : PublicCommitment) :
    Stored (applyWrites getState value.writes) value where
  state := (applyWrites_key getState value _ _).trans (if_pos rfl)
  anchor := (applyWrites_anchor getState value _).trans (if_pos rfl)

/-- Writing a commitment of another event leaves a stored commitment alone. -/
theorem Stored.after_writes (stored : Stored getState other)
    (apart : other.eventKeyHashSha256 ≠ value.eventKeyHashSha256) :
    Stored (applyWrites getState value.writes) other where
  state := by
    have keys : other.key ≠ value.key := fun same => apart (commitmentKey_injective same).2
    exact (applyWrites_key getState value _ _).trans ((if_neg keys).trans stored.state)
  anchor := by
    have keys : other.anchorKey ≠ value.anchorKey := fun same =>
      apart (eventAnchorKey_injective same)
    exact (applyWrites_anchor getState value _).trans ((if_neg keys).trans stored.anchor)

/-- Where the anchor of an event is free, no commitment of the event is stored. -/
theorem Stored.apart (stored : Stored getState other) (free : getState value.anchorKey = []) :
    other.eventKeyHashSha256 ≠ value.eventKeyHashSha256 := by
  intro same
  have anchor := stored.anchor
  rw [PublicCommitment.anchorKey, same] at anchor
  rw [PublicCommitment.anchorKey, anchor] at free
  exact anchorState_ne_nil _ _ free

/-- Writing a commitment whose anchor is free keeps the state anchored. -/
theorem Anchored.after_writes (anchored : Anchored getState)
    (free : getState value.anchorKey = []) : Anchored (applyWrites getState value.writes) where
  states recordType hash occupied := by
    rw [applyWrites_key] at occupied
    by_cases own : commitmentKey recordType hash = value.key
    · have parts := commitmentKey_injective own
      exact ⟨value, stored_after_writes getState value, parts.1.symm, parts.2.symm⟩
    · rw [if_neg own] at occupied
      rcases anchored.states recordType hash occupied with ⟨other, stored, types, hashes⟩
      exact ⟨other, stored.after_writes (stored.apart free), types, hashes⟩
  anchors hash occupied := by
    rw [applyWrites_anchor] at occupied
    by_cases own : eventAnchorKey hash = value.anchorKey
    · exact ⟨value, stored_after_writes getState value, (eventAnchorKey_injective own).symm⟩
    · rw [if_neg own] at occupied
      rcases anchored.anchors hash occupied with ⟨other, stored, hashes⟩
      exact ⟨other, stored.after_writes (stored.apart free), hashes⟩

end States

section Calls

variable {ctx : CallContext} {getState : ScriptString → Bytes} {input : List Char}
  {effect : CommitEffect}

/-- A call that succeeds finds the commitment stored, or finds both of its keys free. -/
theorem commitCommitment_cases (succeeds : commitCommitment ctx getState input = .ok effect) :
    assertWriter ctx = .ok () ∧ ∃ value, parseCommitment input = .ok value ∧
      ((Stored getState value ∧ effect = ⟨⟨value.key, .duplicate⟩, [], none⟩) ∨
        (getState value.key = [] ∧ getState value.anchorKey = [] ∧
          effect = ⟨⟨value.key, .created⟩, value.writes, some value.createdEvent⟩)) := by
  simp only [commitCommitment, Checked.bind_eq_ok] at succeeds
  rcases succeeds with ⟨_, writer, value, parsed, rest⟩
  refine ⟨writer, value, parsed, ?_⟩
  split at rest
  · simp only [Checked.bind_eq_ok, Checked.require_eq_ok, Checked.pure_eq_ok,
      exists_const] at rest
    rcases rest with ⟨bound, present, same, rfl⟩
    rcases bound with absent | bound
    · exact absurd absent present.2
    · exact Or.inl ⟨⟨same, bound⟩, rfl⟩
  · rename_i free
    simp only [not_or, not_not] at free
    exact Or.inr ⟨free.1, free.2, (Checked.pure_eq_ok.mp rest).symm⟩

theorem commitCommitment_duplicate (writer : assertWriter ctx = .ok ()) {value : PublicCommitment}
    (parsed : parseCommitment input = .ok value) (stored : Stored getState value) :
    commitCommitment ctx getState input = .ok ⟨⟨value.key, .duplicate⟩, [], none⟩ := by
  have present : getState value.key ≠ [] := by
    rw [stored.state]
    exact serializeCommitment_ne_nil value
  have anchored : getState value.anchorKey ≠ [] := by
    rw [stored.anchor]
    exact anchorState_ne_nil _ _
  simp only [commitCommitment, Checked.bind_eq_ok]
  refine ⟨(), writer, value, parsed, ?_⟩
  rw [if_pos (Or.inl present)]
  simp only [Checked.bind_eq_ok, Checked.require_eq_ok, exists_const]
  exact ⟨Or.inr stored.anchor, ⟨present, anchored⟩, stored.state, rfl⟩

/-- A commitment key and its anchor are both occupied, if the anchor is not bound otherwise. -/
theorem Anchored.both (anchored : Anchored getState) (value : PublicCommitment)
    (occupied : getState value.key ≠ [] ∨ getState value.anchorKey ≠ [])
    (own : getState value.anchorKey = [] ∨ getState value.anchorKey = anchorState value.key) :
    getState value.key ≠ [] ∧ getState value.anchorKey ≠ [] := by
  rcases occupied with state | anchor
  · rcases anchored.states _ _ state with ⟨other, stored, _, hashes⟩
    have anchor := stored.anchor
    rw [PublicCommitment.anchorKey, hashes] at anchor
    refine ⟨state, ?_⟩
    rw [PublicCommitment.anchorKey, anchor]
    exact anchorState_ne_nil _ _
  · have same := own.resolve_left anchor
    rcases anchored.anchors _ anchor with ⟨other, stored, hashes⟩
    have anchors : other.anchorKey = value.anchorKey := congrArg eventAnchorKey hashes
    have keys : other.key = value.key := anchorState_injective (commitmentKey_ascii _ _)
      (commitmentKey_ascii _ _) (by rw [← same, ← stored.anchor, anchors])
    refine ⟨?_, anchor⟩
    rw [← keys, stored.state]
    exact serializeCommitment_ne_nil other

def Inconsistent (failure : ContractError) : Prop := failure.code = "INCONSISTENT_STATE"

theorem assertWriter_avoids : Checked.Avoids Inconsistent (assertWriter ctx) := by
  unfold assertWriter assertKnownChannel
  refine Checked.avoids_bind (Checked.avoids_bind (Checked.avoids_require ?_) ?_) ?_
  · show ¬ "UNSUPPORTED_CHANNEL" = "INCONSISTENT_STATE"
    decide
  · intro _ _
    exact Checked.avoids_ok _
  · intro _ _
    apply Checked.avoids_require
    show ¬ "FORBIDDEN" = "INCONSISTENT_STATE"
    decide

theorem parseCommitment_avoids : Checked.Avoids Inconsistent (parseCommitment input) := by
  have other : ∀ detail, ¬ Inconsistent (INVALID_COMMITMENT detail) := by
    intro detail
    show ¬ "INVALID_COMMITMENT" = "INCONSISTENT_STATE"
    decide
  unfold parseCommitment
  refine Checked.avoids_bind (Checked.avoids_require (other _)) fun _ _ => ?_
  refine Checked.avoids_bind (Checked.avoids_requireSome (other _)) fun _ _ => ?_
  refine Checked.avoids_bind (Checked.avoids_requireSome (other _)) fun _ _ => ?_
  refine Checked.avoids_bind (Checked.avoids_require (other _)) fun _ _ => ?_
  refine Checked.avoids_bind (Checked.avoids_require (other _)) fun _ _ => ?_
  refine Checked.avoids_bind (Checked.avoids_requireSome (other _)) fun _ _ => ?_
  refine Checked.avoids_bind (Checked.avoids_requireSome (other _)) fun _ _ => ?_
  refine Checked.avoids_bind (Checked.avoids_requireSome (other _)) fun _ _ => ?_
  refine Checked.avoids_bind (Checked.avoids_require (other _)) fun _ _ => ?_
  refine Checked.avoids_bind (Checked.avoids_require (other _)) fun _ _ => ?_
  exact Checked.avoids_ok _

theorem commitCommitment_avoids (anchored : Anchored getState) :
    Checked.Avoids Inconsistent (commitCommitment ctx getState input) := by
  unfold commitCommitment
  refine Checked.avoids_bind assertWriter_avoids fun _ _ => ?_
  refine Checked.avoids_bind parseCommitment_avoids fun value _ => ?_
  dsimp only
  split
  · rename_i occupied
    refine Checked.avoids_bind (Checked.avoids_require ?_) fun _ own => ?_
    · show ¬ "CONFLICTING_EVENT_ANCHOR" = "INCONSISTENT_STATE"
      decide
    · have both := anchored.both value occupied (Checked.require_eq_ok.mp own)
      refine Checked.avoids_bind (Checked.avoids_require_of both) fun _ _ => ?_
      refine Checked.avoids_bind (Checked.avoids_require ?_) fun _ _ => Checked.avoids_ok _
      show ¬ "CONFLICTING_COMMITMENT" = "INCONSISTENT_STATE"
      decide
  · exact Checked.avoids_ok _

theorem recordType?_eq_some {text : ScriptString} {recordType : AuditRecordType} :
    recordType? (some text) = some recordType ↔ text = script recordType.text := by
  constructor
  · intro found
    have holds := List.find?_some found
    exact Option.some.inj (of_decide_eq_true holds)
  · rintro rfl
    cases recordType <;> decide

theorem sha256?_eq_some {text : ScriptString} {hash : Sha256Text} :
    sha256? (some text) = some hash ↔ text = hash.val := by
  unfold sha256?
  constructor
  · intro found
    dsimp only at found
    split at found
    · exact congrArg Subtype.val (Option.some.inj found)
    · cases found
  · rintro rfl
    exact dif_pos hash.property

/-- Reading returns the stored commitment of the queried key and nothing else. -/
theorem readCommitment_eq_ok (anchored : Anchored getState)
    {recordType eventKeyHashSha256 : ScriptString} {text : List Char} :
    readCommitment ctx getState recordType eventKeyHashSha256 = .ok text ↔
      assertReader ctx = .ok () ∧ ∃ value, Stored getState value ∧
        recordType = script value.recordType.text ∧
        eventKeyHashSha256 = value.eventKeyHashSha256.val ∧ text = value.text := by
  simp only [readCommitment, assertRecordType, assertEventKeyHash, Checked.bind_eq_ok,
    Checked.requireSome_eq_ok, Checked.require_eq_ok, Checked.pure_eq_ok, exists_const,
    recordType?_eq_some, sha256?_eq_some]
  constructor
  · intro succeeds
    rcases succeeds with ⟨_, reader, kind, rfl, hash, rfl, present, rfl⟩
    rcases anchored.states kind hash present with ⟨value, stored, rfl, rfl⟩
    refine ⟨reader, value, stored, rfl, rfl, ?_⟩
    show Utf8.decode (getState value.key) = value.text
    rw [stored.state]
    exact Utf8.decode_encode value.text
  · intro readable
    rcases readable with ⟨reader, value, stored, rfl, rfl, rfl⟩
    refine ⟨(), reader, value.recordType, rfl, value.eventKeyHashSha256, rfl, ?_, ?_⟩
    · show getState value.key ≠ []
      rw [stored.state]
      exact serializeCommitment_ne_nil value
    · show Utf8.decode (getState value.key) = value.text
      rw [stored.state]
      exact Utf8.decode_encode value.text

end Calls

section Runs

variable {getState : ScriptString → Bytes} {value other : PublicCommitment}

abbrev CommitCall := CallContext × List Char

/-- A failed call writes nothing. -/
def callCommit (getState : ScriptString → Bytes) (call : CommitCall) : ScriptString → Bytes :=
  match commitCommitment call.1 getState call.2 with
  | .ok effect => applyWrites getState effect.writes
  | .error _ => getState

def stateAfter (calls : List CommitCall) : ScriptString → Bytes :=
  calls.foldl callCommit emptyState

/-- One call keeps the state anchored and what is stored. -/
theorem callCommit_keeps (anchored : Anchored getState) (call : CommitCall) :
    Anchored (callCommit getState call) ∧
      ∀ value, Stored getState value → Stored (callCommit getState call) value := by
  unfold callCommit
  cases result : commitCommitment call.1 getState call.2 with
  | error failure => exact ⟨anchored, fun _ stored => stored⟩
  | ok effect =>
      rcases commitCommitment_cases result with ⟨_, value, _, ⟨_, rfl⟩ | ⟨_, free, rfl⟩⟩
      · exact ⟨anchored, fun _ stored => stored⟩
      · exact ⟨anchored.after_writes free, fun _ stored => stored.after_writes (stored.apart free)⟩

theorem calls_keep (anchored : Anchored getState) (calls : List CommitCall) :
    Anchored (calls.foldl callCommit getState) ∧
      ∀ value, Stored getState value → Stored (calls.foldl callCommit getState) value := by
  induction calls generalizing getState with
  | nil => exact ⟨anchored, fun _ stored => stored⟩
  | cons call rest ih =>
      have first := callCommit_keeps anchored call
      have others := ih first.1
      exact ⟨others.1, fun value stored => others.2 value (first.2 value stored)⟩

theorem stateAfter_anchored (calls : List CommitCall) : Anchored (stateAfter calls) :=
  (calls_keep anchored_empty calls).1

theorem stateAfter_stored (calls more : List CommitCall)
    (stored : Stored (stateAfter calls) value) : Stored (stateAfter (calls ++ more)) value := by
  rw [stateAfter, List.foldl_append]
  exact (calls_keep (stateAfter_anchored calls) more).2 value stored

/-- What a channel guarantees after a sequence of calls. -/
structure ChannelGuarantees (calls : List CommitCall) : Prop where
  stateHasAnchor : ∀ recordType hash, stateAfter calls (commitmentKey recordType hash) ≠ [] →
    stateAfter calls (eventAnchorKey hash) = anchorState (commitmentKey recordType hash)
  anchorHasState : ∀ hash, stateAfter calls (eventAnchorKey hash) ≠ [] →
    ∃ recordType, stateAfter calls (commitmentKey recordType hash) ≠ []
  isCommitment : ∀ recordType hash, stateAfter calls (commitmentKey recordType hash) ≠ [] →
    ∃ value, Stored (stateAfter calls) value ∧ value.recordType = recordType ∧
      value.eventKeyHashSha256 = hash
  permanent : ∀ value more, Stored (stateAfter calls) value →
    Stored (stateAfter (calls ++ more)) value
  bound : ∀ value other more, Stored (stateAfter calls) value →
    Stored (stateAfter (calls ++ more)) other →
    value.eventKeyHashSha256 = other.eventKeyHashSha256 → other = value
  consistent : ∀ ctx input failure,
    commitCommitment ctx (stateAfter calls) input = .error failure →
    failure.code ≠ "INCONSISTENT_STATE"
  duplicate : ∀ ctx input, (∃ effect, commitCommitment ctx (stateAfter calls) input = .ok effect ∧
      effect.response.status = .duplicate) ↔
    assertWriter ctx = .ok () ∧ ∃ value, parseCommitment input = .ok value ∧
      Stored (stateAfter calls) value
  reads : ∀ ctx recordType hash text,
    readCommitment ctx (stateAfter calls) recordType hash = .ok text ↔
      assertReader ctx = .ok () ∧ ∃ value, Stored (stateAfter calls) value ∧
        recordType = script value.recordType.text ∧ hash = value.eventKeyHashSha256.val ∧
        text = value.text

theorem channelGuarantees (calls : List CommitCall) : ChannelGuarantees calls := by
  have anchored := stateAfter_anchored calls
  exact {
    stateHasAnchor := by
      intro recordType hash present
      rcases anchored.states recordType hash present with ⟨value, stored, rfl, rfl⟩
      exact stored.anchor
    anchorHasState := by
      intro hash present
      rcases anchored.anchors hash present with ⟨value, stored, rfl⟩
      refine ⟨value.recordType, ?_⟩
      show stateAfter calls value.key ≠ []
      rw [stored.state]
      exact serializeCommitment_ne_nil value
    isCommitment := anchored.states
    permanent := fun value more stored => stateAfter_stored calls more stored
    bound := fun value other more first second same =>
      second.unique (stateAfter_stored calls more first) same.symm
    consistent := fun ctx input failure refused =>
      commitCommitment_avoids anchored failure refused
    duplicate := by
      intro ctx input
      constructor
      · intro found
        rcases found with ⟨effect, succeeds, status⟩
        rcases commitCommitment_cases succeeds with
          ⟨writer, value, parsed, ⟨stored, _⟩ | ⟨_, _, rfl⟩⟩
        · exact ⟨writer, value, parsed, stored⟩
        · cases status
      · intro stored
        rcases stored with ⟨writer, value, parsed, stored⟩
        exact ⟨_, commitCommitment_duplicate writer parsed stored, rfl⟩
    reads := fun ctx recordType hash text => readCommitment_eq_ok anchored }

end Runs

end TenantTrust.Audit
