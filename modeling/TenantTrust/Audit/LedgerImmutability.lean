import TenantTrust.Audit.LedgerDelivery

/-! Committed commitments are immutable, on the channel and from the outbox to the channel. -/

namespace TenantTrust.Audit

open Library Identity
open Trust (script)

section Immutability

variable {topology : TenantId → Option String} {s t : OutboxSystem Network}
  {row : FabricCommitmentRow}

/-- What is stored for a commitment of the outbox reads as its ledger value. -/
theorem Stored.reads {getState : ScriptString → Bytes} {value : PublicCommitment}
    (stored : Stored getState value) (anchored : Anchored getState)
    {commitment : FabricCommitment} (checked : commitment.checks = true)
    (parsed : parseCommitment commitment.ledgerValue.submittedText = .ok value)
    {ctx : CallContext} (reader : assertReader ctx = .ok ()) :
    readCommitment ctx getState (script commitment.recordType.text)
      (digestText commitment.eventKeyHashSha256) = .ok commitment.ledgerValue.ledgerText := by
  simp only [FabricCommitment.checks, Bool.and_eq_true, decide_eq_true_eq] at checked
  have columns := checked.1.2
  have type : commitment.ledgerValue.recordType = commitment.recordType := by rw [columns]
  have hash : commitment.ledgerValue.eventKeyHashSha256 = commitment.eventKeyHashSha256 := by
    rw [columns]
  have parts := parseCommitment_submitted parsed
  refine (readCommitment_eq_ok anchored).mpr ⟨reader, value, stored, ?_, ?_, parts.2.2.symm⟩
  · rw [parts.1, type]
  · rw [parts.2.1, hash]

/-- From the empty channel on, no sequence of calls rebinds an event; and a row that the workers
have marked as committed reads as its ledger value from then on. -/
theorem committed_is_immutable :
    (∀ calls : List CommitCall, ChannelGuarantees calls) ∧
    ∀ (topology : TenantId → Option String) (s : OutboxSystem Network),
      OutboxSystem.Reachable (auditFabric topology) EmptyNetwork s →
      ∀ row ∈ s.db.outbox, row.status = .committed →
        ∃ name, topology row.commitment.tenantId = some name ∧
          ∀ t, OutboxSystem.Run (auditFabric topology) s t →
          ∀ ctx, ctx.channelId = name → assertReader ctx = .ok () →
            readCommitment ctx (t.ledger name).getState (script row.commitment.recordType.text)
              (digestText row.commitment.eventKeyHashSha256) =
                .ok row.commitment.ledgerValue.ledgerText := by
  refine ⟨channelGuarantees, ?_⟩
  intro topology s reachable row present committed
  have delivers := reachable.delivers
  have checked := ((columnChecks_iff row).mp (delivers.sound.history.valid row present).columns).1
  rcases delivers.traced.committed row present committed with ⟨name, value, mapped, parsed, stored⟩
  refine ⟨name, mapped, ?_⟩
  intro t run ctx _ reader
  have later := delivers.run run
  exact ((later.2 name).stored value stored).reads (later.1.network name).anchored checked parsed
    reader

end Immutability

section Delivered

/-- The channel of the first tenant. -/
def alphaTopology (tenantId : TenantId) : Option String :=
  if tenantId = ⟨1⟩ then some "tt-audit-alpha-v1" else none

/-- An identity that may commit and read. -/
def alphaPlatform : CallContext where
  channelId := "tt-audit-alpha-v1"
  mspId := "PlatformAuditMSP"
  hasRole role := role = "audit-writer" || role = "audit-verifier"

theorem transitionCommitment_created : ∃ effect,
    commitCommitment alphaPlatform Channel.empty.getState
      transitionCommitment.ledgerValue.submittedText = .ok effect ∧
    effect.response.ledgerKey = transitionCommitment.ledgerValue.keyText ∧
    effect.response.status = .created := by
  have evaluated : (commitCommitment alphaPlatform Channel.empty.getState
      transitionCommitment.ledgerValue.submittedText).toOption.any (fun effect =>
        effect.response.ledgerKey = transitionCommitment.ledgerValue.keyText ∧
          effect.response.status = .created) = true := by decide +kernel
  cases result : commitCommitment alphaPlatform Channel.empty.getState
      transitionCommitment.ledgerValue.submittedText with
  | error failure =>
      rw [result] at evaluated
      cases evaluated
  | ok effect =>
      rw [result] at evaluated
      exact ⟨effect, rfl, of_decide_eq_true evaluated⟩

theorem readSet_current (channel : Channel) (commitmentJson : List Char) :
    ∀ read ∈ channel.readSet commitmentJson, channel.version read.1 = read.2 := by
  intro read member
  unfold Channel.readSet at member
  split at member
  · simp only [List.mem_cons, List.not_mem_nil, or_false] at member
    rcases member with rfl | rfl <;> rfl
  · cases member

/-- What has just been endorsed can be validated at once. -/
theorem endorsed_commits {name : String} {channel : Channel} {transactionId : TransactionId}
    (commitmentJson : List Char) (effect : CommitEffect)
    (waiting : channel.outcomes transactionId = none) :
    ChannelStep name (channel.endorse transactionId commitmentJson effect)
      (((channel.endorse transactionId commitmentJson effect).write effect.writes).resolve
        transactionId 0) := by
  have member : (⟨transactionId, commitmentJson, channel.readSet commitmentJson, effect⟩ :
      EndorsedTransaction) ∈ (channel.endorse transactionId commitmentJson effect).endorsed :=
    List.mem_append_right _ (List.mem_singleton_self _)
  exact .commit _ member waiting (readSet_current channel commitmentJson)

theorem resolve_outcome (channel : Channel) (transactionId : TransactionId)
    (validationCode : Fin 256) :
    (channel.resolve transactionId validationCode).outcomes transactionId =
      some ⟨validationCode, channel.height⟩ :=
  Function.update_self _ _ _

/-- The only row of an event has its commitment. -/
theorem has_unique {db : CommitmentDatabase} {commitment : FabricCommitment}
    (has : db.Has commitment) {row : FabricCommitmentRow} (present : row ∈ db.outbox)
    (key : row.key = commitment.key) : row.commitment = commitment := by
  rcases has with ⟨owner, member, rfl⟩
  rw [db.outbox.unique present member key]

/-- The first commitment can be delivered, and its row committed. -/
theorem exists_committed : ∃ s row,
    OutboxSystem.Reachable (auditFabric alphaTopology) EmptyNetwork s ∧ row ∈ s.db.outbox ∧
      row.commitment = transitionCommitment ∧ row.status = .committed := by
  let fabric := auditFabric alphaTopology
  let start : OutboxSystem Network := enqueuedSystem fun _ => Channel.empty
  have reachable : OutboxSystem.Reachable fabric EmptyNetwork start :=
    enqueuedSystem_reachable fabric EmptyNetwork _ rfl
  have present : CommitmentEnqueue.row ⟨transitionCommitment, 0⟩ ∈ start.db.outbox := by
    rw [Table.mem_def, enqueuedSystem_rows]
    exact List.mem_singleton_self _
  have has : start.db.Has transitionCommitment := ⟨_, present, rfl⟩
  have carrying : (CommitmentEnqueue.row ⟨transitionCommitment, 0⟩).Carrying none := Or.inl rfl
  -- A worker takes the row.
  rcases waits_later fabric reachable.sound reachable.spare present carrying with
    ⟨waiting, first, sameDb, sameLedger, ready, waits⟩
  rcases row_is_taken fabric _ waiting rfl ready ⟨_, waits⟩ with
    ⟨taken, onward, worker, claim, held, submits, key⟩
  have toTaken : OutboxSystem.Continuation fabric start taken := first.trans onward.steps
  have commitment : claim.commitment = transitionCommitment :=
    submits.commitment.symm.trans (has_unique (run_has toTaken.run has) submits.present key)
  have ledger : taken.ledger = fun _ => Channel.empty := onward.ledger.trans sameLedger
  -- It submits the commitment, and the transaction is endorsed.
  rcases transitionCommitment_created with ⟨effect, endorses, keyText, created⟩
  let channel := Channel.empty.endorse ⟨1⟩ transitionCommitment.ledgerValue.submittedText effect
  let submission : Submission := ⟨transitionCommitment.ledgerKey, .created, ⟨1⟩⟩
  have accepts : fabric.submits taken.ledger claim.commitment.tenantId claim.commitment.ledgerValue
      (Function.update taken.ledger "tt-audit-alpha-v1" channel) submission := by
    rw [commitment, ledger]
    exact ⟨"tt-audit-alpha-v1", alphaPlatform, effect, rfl, rfl, endorses,
      (fun _ member => by cases member), keyText, rfl, created.symm, rfl⟩
  have unused : taken.db.Unused ⟨1⟩ := by
    have none_ : start.db.attempts.rows = [] := by
      have empty : (Transaction.commit applyOutbox CommitmentDatabase.empty
          (.enqueue ⟨1⟩ 0 ⟨transitionCommitment, 0⟩)).attempts.rows = [] := by decide +kernel
      exact empty
    rw [CommitmentDatabase.Unused, onward.attempts, sameDb]
    intro attempt member
    rw [Table.mem_def, none_] at member
    cases member
  rcases records onward.ready submits accepts (by rw [commitment]) unused with
    ⟨recorded, row, second, recordedLedger, recordedReady, rowKey, confirms⟩
  -- The channel validates it.
  have own : recorded.ledger "tt-audit-alpha-v1" = channel := by
    rw [recordedLedger]
    exact Function.update_self _ _ _
  have validated : ChannelStep "tt-audit-alpha-v1" channel
      ((channel.write effect.writes).resolve ⟨1⟩ 0) := endorsed_commits _ effect rfl
  have outcomeOf := resolve_outcome (channel.write effect.writes) ⟨1⟩ 0
  generalize (channel.write effect.writes).resolve ⟨1⟩ 0 = valid at validated outcomeOf
  let settled : OutboxSystem Network := { recorded with
    ledger := Function.update recorded.ledger "tt-audit-alpha-v1" valid }
  have moves : OutboxSystem.Step fabric recorded settled :=
    .proceed _ ⟨"tt-audit-alpha-v1", valid, by rw [own]; exact validated, rfl⟩
  have step : OutboxSystem.Run fabric recorded settled := Relation.ReflTransGen.single moves
  have settledReady : settled.Ready :=
    ⟨recordedReady.sound.run step, recordedReady.spare.run step, recordedReady.created⟩
  have settledConfirms : settled.Confirms worker (claim.active ⟨1⟩) .direct row :=
    ⟨confirms.asks, confirms.present, confirms.key, confirms.status, confirms.held,
      confirms.transaction⟩
  -- The worker hears of it and marks the row.
  let outcome : CommitOutcome := ⟨0, (channel.write effect.writes).height⟩
  have reports : fabric.reports settled.ledger (claim.active ⟨1⟩).tenantId
      (claim.active ⟨1⟩).transactionId (outcome.status (claim.active ⟨1⟩).transactionId) := by
    refine ⟨"tt-audit-alpha-v1", outcome, ?_, ?_, rfl, rfl, rfl⟩
    · show alphaTopology claim.commitment.tenantId = some "tt-audit-alpha-v1"
      rw [commitment]
      rfl
    · show (Function.update recorded.ledger "tt-audit-alpha-v1" valid "tt-audit-alpha-v1").outcomes
        ⟨1⟩ = some outcome
      rw [Function.update_self]
      exact outcomeOf
  rcases settles settledReady settledConfirms reports with ⟨t, last, ⟨_, committed⟩ | ⟨failed, _⟩⟩
  · have run : OutboxSystem.Run fabric start t :=
      (toTaken.run.trans (OutboxSystem.Continuation.run second)).trans
        (step.trans (OutboxSystem.Continuation.run last))
    rcases committed with ⟨final, member, finalKey, status⟩
    have finalCommitment : final.commitment = transitionCommitment :=
      has_unique (run_has run has) member (finalKey.trans (rowKey.trans key))
    rcases reachable with ⟨clock, network, empty, before⟩
    exact ⟨t, final, ⟨clock, network, empty, before.trans run⟩, member, finalCommitment, status⟩
  · exact absurd rfl failed

/-- The outbox is safe after a claim, a submission and a commit: the transaction of the committed
row is that of an attempt, and no token changes the row any more. -/
theorem outbox_protocol_committed : ∃ s row attempt,
    OutboxSystem.Reachable (auditFabric alphaTopology) EmptyNetwork s ∧
    row ∈ s.db.outbox ∧ row.status = .committed ∧
    attempt ∈ s.db.attempts ∧ attempt.rowKey = row.key ∧
    row.transactionId = some attempt.transactionId ∧
    (∀ call claimToken, OutboxCall.holder? call = some (row.key, claimToken) →
      ∀ clock locked, Transaction.commit applyOutbox s.db (.call clock locked call) = s.db) ∧
    s.Safe (auditFabric alphaTopology) := by
  rcases exists_committed with ⟨s, row, reachable, present, _, committed⟩
  have safe := outbox_protocol (auditFabric alphaTopology) EmptyNetwork s reachable
  have shape := (safe.rows_valid row present).1
  simp only [FabricCommitmentRow.stateShape, committed, Bool.and_eq_true, Option.isNone_iff_eq_none,
    Option.isSome_iff_exists] at shape
  rcases shape with ⟨⟨⟨⟨⟨⟨unclaimed, transactionId, submitted⟩, _⟩, _⟩, _⟩, _⟩, _⟩
  rcases safe.transactions_kept row present transactionId submitted s Relation.ReflTransGen.refl
    with ⟨attempt, member, owner, same⟩
  refine ⟨s, row, attempt, reachable, present, committed, member, owner, ?_, ?_, safe⟩
  · rw [submitted, same]
  · intro call claimToken holds
    apply safe.stale_tokens call row.key claimToken holds
    right
    intro other otherPresent key
    rw [s.db.outbox.unique otherPresent present key, unclaimed]
    simp

theorem committed_is_immutable_transition : ∃ s,
    OutboxSystem.Reachable (auditFabric alphaTopology) EmptyNetwork s ∧
    readCommitment { alphaPlatform with hasRole := fun role => role = "audit-verifier" }
      (s.ledger "tt-audit-alpha-v1").getState (script "trust-transition") (digestText ⟨1⟩) =
        .ok transitionCommitment.ledgerValue.ledgerText := by
  rcases exists_committed with ⟨s, row, reachable, present, commitment, committed⟩
  rcases committed_is_immutable.2 alphaTopology s reachable row present committed with
    ⟨name, mapped, reads⟩
  rw [commitment] at mapped reads
  obtain rfl : "tt-audit-alpha-v1" = name := Option.some.inj mapped
  exact ⟨s, reachable, reads s Relation.ReflTransGen.refl _ rfl rfl⟩

end Delivered

end TenantTrust.Audit
