import TenantTrust.Audit.AuditChannel

/-! A row that the outbox reports as committed stands on the ledger of its tenant for good. -/

namespace TenantTrust.Audit

open Library Identity
open Trust (script)

section Channels

variable {name : String} {channel next : Channel}

/-- A call that has been endorsed, and what it found. -/
def EndorsedTransaction.IsEndorsed (transaction : EndorsedTransaction) (channel : Channel) :
    Prop :=
  ∃ value, parseCommitment transaction.commitmentJson = .ok value ∧
    ((Stored channel.getState value ∧ transaction.effect.writes = []) ∨
      (transaction.effect.writes = value.writes ∧ (value.anchorKey, none) ∈ transaction.reads))

structure ChannelSound (channel : Channel) : Prop where
  anchored : Anchored channel.getState
  written : ∀ key entry, channel.state key = some entry → entry.value ≠ []
  endorsed : ∀ transaction ∈ channel.endorsed, transaction.IsEndorsed channel
  distinct : (channel.endorsed.map EndorsedTransaction.transactionId).Nodup
  resolved : ∀ transactionId outcome, channel.outcomes transactionId = some outcome →
    ∃ transaction ∈ channel.endorsed, transaction.transactionId = transactionId
  committed : ∀ transaction ∈ channel.endorsed, ∀ value outcome,
    parseCommitment transaction.commitmentJson = .ok value →
    channel.outcomes transaction.transactionId = some outcome → outcome.validationCode = 0 →
    Stored channel.getState value

/-- What a channel keeps for ever. -/
structure Channel.Extends (channel next : Channel) : Prop where
  endorsed : ∀ transaction ∈ channel.endorsed, transaction ∈ next.endorsed
  outcomes : ∀ transactionId outcome, channel.outcomes transactionId = some outcome →
    next.outcomes transactionId = some outcome
  stored : ∀ value, Stored channel.getState value → Stored next.getState value

theorem Channel.Extends.refl (channel : Channel) : channel.Extends channel :=
  ⟨fun _ member => member, fun _ _ same => same, fun _ stored => stored⟩

theorem Channel.Extends.trans {last : Channel} (first : channel.Extends next)
    (second : next.Extends last) : channel.Extends last :=
  ⟨fun transaction member => second.endorsed transaction (first.endorsed transaction member),
    fun transactionId outcome same =>
      second.outcomes transactionId outcome (first.outcomes transactionId outcome same),
    fun value stored => second.stored value (first.stored value stored)⟩

theorem channelSound_empty : ChannelSound Channel.empty where
  anchored := anchored_empty
  written _ _ same := by cases same
  endorsed _ member := by cases member
  distinct := List.nodup_nil
  resolved _ _ same := by cases same
  committed _ member := by cases member

theorem getState_write (channel : Channel) (writes : List (ScriptString × Bytes)) :
    (channel.write writes).getState = applyWrites channel.getState writes := by
  let put (state : ScriptString → Option LedgerEntry) (write : ScriptString × Bytes) :=
    Function.update state write.1 (some ⟨write.2, channel.height⟩)
  have each : ∀ (writes : List (ScriptString × Bytes)) (state : ScriptString → Option LedgerEntry),
      entryBytes ∘ writes.foldl put state = applyWrites (entryBytes ∘ state) writes := by
    intro writes
    induction writes with
    | nil => exact fun _ => rfl
    | cons write rest ih =>
        intro state
        have first : entryBytes ∘ put state write =
            Function.update (entryBytes ∘ state) write.1 write.2 :=
          Function.comp_update entryBytes state write.1 (some ⟨write.2, channel.height⟩)
        rw [List.foldl_cons, ih, first]
        rfl
  exact each writes channel.state

theorem EndorsedTransaction.IsEndorsed.extends {transaction : EndorsedTransaction}
    (isEndorsed : transaction.IsEndorsed channel) (extends_ : channel.Extends next) :
    transaction.IsEndorsed next := by
  rcases isEndorsed with ⟨value, parsed, ⟨stored, writes⟩ | fresh⟩
  · exact ⟨value, parsed, Or.inl ⟨extends_.stored value stored, writes⟩⟩
  · exact ⟨value, parsed, Or.inr fresh⟩

/-- A key that reads as empty has no version. -/
theorem ChannelSound.version_none (sound : ChannelSound channel) {key : ScriptString}
    (free : channel.getState key = []) : channel.version key = none := by
  unfold Channel.getState entryBytes at free
  unfold Channel.version
  cases found : channel.state key with
  | none => rfl
  | some entry =>
      rw [found] at free
      exact absurd free (sound.written key entry found)

theorem getState_of_version_none {key : ScriptString} (none_ : channel.version key = none) :
    channel.getState key = [] := by
  unfold Channel.version at none_
  unfold Channel.getState entryBytes
  rw [Option.map_eq_none_iff.mp none_]

theorem ChannelSound.endorse (sound : ChannelSound channel) {ctx : CallContext}
    {commitmentJson : List Char} {effect : CommitEffect} {transactionId : TransactionId}
    (fresh : ∀ transaction ∈ channel.endorsed, transaction.transactionId ≠ transactionId)
    (endorses : commitCommitment ctx channel.getState commitmentJson = .ok effect) :
    ChannelSound (channel.endorse transactionId commitmentJson effect) ∧
      channel.Extends (channel.endorse transactionId commitmentJson effect) := by
  rcases commitCommitment_cases endorses with ⟨_, value, parsed, cases_⟩
  have isEndorsed : EndorsedTransaction.IsEndorsed
      ⟨transactionId, commitmentJson, channel.readSet commitmentJson, effect⟩ channel := by
    rcases cases_ with ⟨stored, rfl⟩ | ⟨_, free, rfl⟩
    · exact ⟨value, parsed, Or.inl ⟨stored, rfl⟩⟩
    · refine ⟨value, parsed, Or.inr ⟨rfl, ?_⟩⟩
      have none_ := sound.version_none free
      simp [Channel.readSet, parsed, none_]
  refine ⟨⟨sound.anchored, sound.written, ?_, ?_, ?_, ?_⟩,
    ⟨fun _ member => List.mem_append_left _ member, fun _ _ same => same, fun _ stored => stored⟩⟩
  · intro transaction member
    rcases List.mem_append.mp member with old | isNew
    · exact sound.endorsed transaction old
    · rw [List.mem_singleton.mp isNew]
      exact isEndorsed
  · show ((channel.endorsed ++ [_]).map EndorsedTransaction.transactionId).Nodup
    rw [List.map_append, List.nodup_append]
    refine ⟨sound.distinct, List.nodup_singleton _, ?_⟩
    intro id member other single same
    rcases List.mem_map.mp member with ⟨transaction, old, rfl⟩
    rw [List.mem_singleton.mp single] at same
    exact fresh transaction old same
  · intro id outcome same
    rcases sound.resolved id outcome same with ⟨transaction, member, own⟩
    exact ⟨transaction, List.mem_append_left _ member, own⟩
  · intro transaction member other outcome parsed settled code
    rcases List.mem_append.mp member with old | isNew
    · exact sound.committed transaction old other outcome parsed settled code
    · rw [List.mem_singleton.mp isNew] at settled
      rcases sound.resolved transactionId outcome settled with ⟨earlier, present, same⟩
      exact absurd same (fresh earlier present)

/-- An entry of a channel that has been written is an earlier one or one of the writes. -/
theorem state_write (channel : Channel) (writes : List (ScriptString × Bytes)) {key : ScriptString}
    {entry : LedgerEntry} (found : (channel.write writes).state key = some entry) :
    channel.state key = some entry ∨ ∃ write ∈ writes, entry.value = write.2 := by
  let put (state : ScriptString → Option LedgerEntry) (write : ScriptString × Bytes) :=
    Function.update state write.1 (some ⟨write.2, channel.height⟩)
  have each : ∀ (writes : List (ScriptString × Bytes)) (state : ScriptString → Option LedgerEntry),
      writes.foldl put state key = some entry →
      state key = some entry ∨ ∃ write ∈ writes, entry.value = write.2 := by
    intro writes
    induction writes with
    | nil => exact fun _ same => Or.inl same
    | cons write rest ih =>
        intro state same
        rcases ih (put state write) same with first | ⟨later, member, value⟩
        · by_cases own : key = write.1
          · rw [own, show put state write write.1 = some ⟨write.2, channel.height⟩ from
              Function.update_self _ _ _] at first
            right
            exact ⟨write, List.mem_cons_self, by rw [← Option.some.inj first]⟩
          · rw [show put state write key = state key from Function.update_of_ne own _ _] at first
            exact Or.inl first
        · exact Or.inr ⟨later, List.mem_cons_of_mem _ member, value⟩
  exact each writes channel.state found

theorem PublicCommitment.writes_ne_nil (value : PublicCommitment) :
    ∀ write ∈ value.writes, write.2 ≠ [] := by
  intro write member
  simp only [PublicCommitment.writes, List.mem_cons, List.not_mem_nil, or_false] at member
  rcases member with rfl | rfl
  · exact serializeCommitment_ne_nil value
  · exact anchorState_ne_nil _ _

/-- The outcome of one transaction is new; the states are those of its writes, if it has any. -/
theorem ChannelSound.resolve (sound : ChannelSound channel) {transaction : EndorsedTransaction}
    (member : transaction ∈ channel.endorsed)
    (waiting : channel.outcomes transaction.transactionId = none) {validationCode : Fin 256}
    {writes : List (ScriptString × Bytes)}
    (anchored : Anchored (applyWrites channel.getState writes))
    (written : ∀ write ∈ writes, write.2 ≠ [])
    (stored : ∀ value, Stored channel.getState value →
      Stored (applyWrites channel.getState writes) value)
    (own : ∀ value, parseCommitment transaction.commitmentJson = .ok value →
      validationCode = 0 → Stored (applyWrites channel.getState writes) value) :
    ChannelSound ((channel.write writes).resolve transaction.transactionId validationCode) ∧
      channel.Extends ((channel.write writes).resolve transaction.transactionId
        validationCode) := by
  have state : ((channel.write writes).resolve transaction.transactionId validationCode).getState =
      applyWrites channel.getState writes := getState_write channel writes
  have old : ∀ transactionId outcome, channel.outcomes transactionId = some outcome →
      ((channel.write writes).resolve transaction.transactionId validationCode).outcomes
        transactionId = some outcome := by
    intro transactionId outcome same
    have different : transactionId ≠ transaction.transactionId := by
      rintro rfl
      rw [waiting] at same
      cases same
    exact (Function.update_of_ne different _ _).trans same
  have kept : channel.Extends ((channel.write writes).resolve transaction.transactionId
      validationCode) := ⟨fun _ present => present, old, fun value holds => by
    rw [state]
    exact stored value holds⟩
  refine ⟨⟨by rw [state]; exact anchored, ?_, ?_, sound.distinct, ?_, ?_⟩, kept⟩
  · intro key entry found
    rcases state_write channel writes found with earlier | ⟨write, present, value⟩
    · exact sound.written key entry earlier
    · rw [value]
      exact written write present
  · intro other present
    exact (sound.endorsed other present).extends kept
  · intro transactionId outcome found
    by_cases same : transactionId = transaction.transactionId
    · exact ⟨transaction, member, same.symm⟩
    · exact sound.resolved transactionId outcome
        ((Function.update_of_ne same _ _).symm.trans found)
  · intro other present value outcome parsed found code
    rw [state]
    by_cases same : other.transactionId = transaction.transactionId
    · have equal : other = transaction :=
        List.inj_on_of_nodup_map sound.distinct present member same
      rw [equal] at parsed found
      have isNew : some (CommitOutcome.mk validationCode channel.height) = some outcome := by
        rw [← found]
        exact (Function.update_self transaction.transactionId _ channel.outcomes).symm
      rw [← Option.some.inj isNew] at code
      exact own value parsed code
    · have earlier := (Function.update_of_ne same _ _).symm.trans found
      exact stored value (sound.committed other present value outcome parsed earlier code)

/-- A step of a channel keeps it sound, and everything that has been committed. -/
theorem ChannelSound.step (sound : ChannelSound channel) (step : ChannelStep name channel next) :
    ChannelSound next ∧ channel.Extends next := by
  cases step with
  | endorse ctx onChannel commitmentJson effect transactionId fresh endorses =>
      exact sound.endorse fresh endorses
  | commit transaction member waiting current =>
      rcases sound.endorsed transaction member with
        ⟨value, parsed, ⟨stored, nothing⟩ | ⟨writes, free⟩⟩
      · rw [nothing]
        refine sound.resolve member waiting sound.anchored (fun _ absent => by cases absent)
          (fun _ holds => holds) ?_
        intro other same _
        cases parsed.symm.trans same
        exact stored
      · -- The anchor was free at the endorsement and still is.
        have anchor : channel.getState value.anchorKey = [] :=
          getState_of_version_none (current _ free)
        rw [writes]
        refine sound.resolve member waiting (sound.anchored.after_writes anchor)
          value.writes_ne_nil (fun _ holds => holds.after_writes (holds.apart anchor)) ?_
        intro other same _
        cases parsed.symm.trans same
        exact stored_after_writes channel.getState value
  | invalidate transaction member waiting validationCode invalid =>
      have kept : ChannelSound ((channel.write []).resolve transaction.transactionId
          validationCode) ∧ channel.Extends ((channel.write []).resolve transaction.transactionId
            validationCode) :=
        sound.resolve member waiting sound.anchored (fun _ absent => by cases absent)
          (fun _ holds => holds) (fun _ _ valid => absurd valid invalid)
      exact kept

end Channels

section Networks

variable {topology : TenantId → Option String} {network next : Network}

def NetworkSound (network : Network) : Prop := ∀ name, ChannelSound (network name)

def Network.Extends (network next : Network) : Prop := ∀ name, (network name).Extends (next name)

theorem NetworkSound.update (sound : NetworkSound network) {name : String} {channel : Channel}
    (own : ChannelSound channel ∧ (network name).Extends channel) :
    NetworkSound (Function.update network name channel) ∧
      network.Extends (Function.update network name channel) := by
  have each : ∀ other, ChannelSound (Function.update network name channel other) ∧
      (network other).Extends (Function.update network name channel other) := by
    intro other
    by_cases same : other = name
    · rw [same, Function.update_self]
      exact own
    · rw [Function.update_of_ne same]
      exact ⟨sound other, Channel.Extends.refl _⟩
  exact ⟨fun other => (each other).1, fun other => (each other).2⟩

theorem NetworkSound.proceeds (sound : NetworkSound network)
    (moves : (auditFabric topology).proceeds network next) :
    NetworkSound next ∧ network.Extends next := by
  rcases moves with ⟨name, channel, step, rfl⟩
  exact sound.update ((sound name).step step)

/-- The transaction was endorsed on the channel of the tenant, for the value of the commitment. -/
def Network.Endorsed (network : Network) (topology : TenantId → Option String)
    (commitment : FabricCommitment) (transactionId : TransactionId) : Prop :=
  ∃ name, topology commitment.tenantId = some name ∧
    ∃ transaction ∈ (network name).endorsed, transaction.transactionId = transactionId ∧
      transaction.commitmentJson = commitment.ledgerValue.submittedText

/-- The value of the commitment is stored on the channel of the tenant. -/
def Network.Stores (network : Network) (topology : TenantId → Option String)
    (commitment : FabricCommitment) : Prop :=
  ∃ name value, topology commitment.tenantId = some name ∧
    parseCommitment commitment.ledgerValue.submittedText = .ok value ∧
    Stored (network name).getState value

theorem NetworkSound.submits (sound : NetworkSound network) {commitment : FabricCommitment}
    {submission : Submission}
    (submits : (auditFabric topology).submits network commitment.tenantId commitment.ledgerValue
      next submission) : NetworkSound next ∧ network.Extends next ∧
        next.Endorsed topology commitment submission.transactionId := by
  rcases submits with ⟨name, ctx, effect, mapped, _, endorses, fresh, _, _, _, rfl⟩
  have updated := sound.update ((sound name).endorse fresh endorses)
  refine ⟨updated.1, updated.2, name, mapped, ⟨submission.transactionId,
    commitment.ledgerValue.submittedText, (network name).readSet
      commitment.ledgerValue.submittedText, effect⟩, ?_, rfl, rfl⟩
  rw [Function.update_self]
  exact List.mem_append_right _ (List.mem_singleton_self _)

theorem Network.Endorsed.extends {commitment : FabricCommitment} {transactionId : TransactionId}
    (endorsed : network.Endorsed topology commitment transactionId)
    (extends_ : network.Extends next) : next.Endorsed topology commitment transactionId := by
  rcases endorsed with ⟨name, mapped, transaction, member, own⟩
  exact ⟨name, mapped, transaction, (extends_ name).endorsed transaction member, own⟩

theorem Network.Stores.extends {commitment : FabricCommitment}
    (stores : network.Stores topology commitment) (extends_ : network.Extends next) :
    next.Stores topology commitment := by
  rcases stores with ⟨name, value, mapped, parsed, stored⟩
  exact ⟨name, value, mapped, parsed, (extends_ name).stored value stored⟩

end Networks

end TenantTrust.Audit
