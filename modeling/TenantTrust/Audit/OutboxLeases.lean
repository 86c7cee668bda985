import TenantTrust.Audit.FabricOutboxSafety
import TenantTrust.Audit.OutboxWorker

/-! A claim token speaks for the latest lease of one row. -/

namespace TenantTrust.Audit

open Library Identity

/-- The token under which a row was leased last. -/
def lastLease (leases : List Lease) (key : OutboxKey) : Option AuditClaimToken :=
  (leases.reverse.find? fun lease => lease.1 = key).map Prod.snd

theorem lastLease_concat (leases : List Lease) (lease : Lease) (key : OutboxKey) :
    lastLease (leases ++ [lease]) key =
      if lease.1 = key then some lease.2 else lastLease leases key := by
  simp only [lastLease, List.reverse_append, List.reverse_singleton, List.singleton_append,
    List.find?_cons]
  by_cases same : lease.1 = key
  · simp [same]
  · simp [same]

theorem lastLease_mem {leases : List Lease} {key : OutboxKey} {claimToken : AuditClaimToken}
    (last : lastLease leases key = some claimToken) : (key, claimToken) ∈ leases := by
  unfold lastLease at last
  rcases Option.map_eq_some_iff.mp last with ⟨lease, found, rfl⟩
  have member := List.mem_reverse.mp (List.mem_of_find?_eq_some found)
  have same : lease.1 = key := by simpa using List.find?_some found
  rw [← same]
  exact member

/-- No row is held under a token that it was not held under before. -/
def TokensFrom (before after : FabricOutboxTable) : Prop :=
  ∀ row ∈ after, ∀ claimToken, row.claimToken = some claimToken →
    ∃ old ∈ before, old.key = row.key ∧ old.claimToken = some claimToken

theorem tokensFrom_replace {outbox : FabricOutboxTable} {row next : FabricCommitmentRow}
    (present : row ∈ outbox) (key : row.key = next.key)
    (kept : ∀ claimToken, next.claimToken = some claimToken → row.claimToken = some claimToken) :
    TokensFrom outbox (outbox.replace next) := by
  intro other member claimToken held
  rcases (Table.mem_replace outbox next present key other).mp member with rfl | ⟨old, _⟩
  · exact ⟨row, present, key, kept claimToken held⟩
  · exact ⟨other, old, rfl, held⟩

theorem tokensFrom_update {outbox : FabricOutboxTable}
    {f : FabricCommitmentRow → FabricCommitmentRow} (keeps : ∀ row, (f row).key = row.key)
    (kept : ∀ row claimToken, (f row).claimToken = some claimToken →
      row.claimToken = some claimToken) : TokensFrom outbox (outbox.update f keeps) := by
  intro row member claimToken held
  rcases (Table.mem_update _ _ keeps row).mp member with ⟨old, present, rfl⟩
  exact ⟨old, present, (keeps old).symm, kept old claimToken held⟩

def OutboxCall.claimToken? : OutboxCall → Option AuditClaimToken
  | .claimSubmission p | .claimConfirmation p => some p.claimToken
  | _ => none

/-- What a successful call does to the leases: it gives at most one, under its own token. -/
structure LeaseStep (call : OutboxCall) (before after : FabricOutboxTable)
    (lease : Option Lease) : Prop where
  own : ∀ given, lease = some given → call.claimToken? = some given.2
  held : ∀ row ∈ after, ∀ claimToken, row.claimToken = some claimToken →
    lease = some (row.key, claimToken) ∨
    ((∀ given, lease = some given → given.1 ≠ row.key) ∧
      ∃ old ∈ before, old.key = row.key ∧ old.claimToken = some claimToken)

theorem LeaseStep.of_tokens {call : OutboxCall} {before after : FabricOutboxTable}
    (tokens : TokensFrom before after) : LeaseStep call before after none where
  own _ same := by cases same
  held row member claimToken held :=
    Or.inr ⟨fun _ same => (by cases same), tokens row member claimToken held⟩

/-- The claimed row is the only one that is held anew. -/
theorem LeaseStep.of_claim {call : OutboxCall} {before recovered : FabricOutboxTable}
    {row next : FabricCommitmentRow} {claimToken : AuditClaimToken}
    (tokens : TokensFrom before recovered) (present : row ∈ recovered) (key : row.key = next.key)
    (called : call.claimToken? = some claimToken) (taken : next.claimToken = some claimToken) :
    LeaseStep call before (recovered.replace next) (some (next.key, claimToken)) where
  own given same := by
    cases same
    exact called
  held other member token held := by
    rcases (Table.mem_replace recovered next present key other).mp member with rfl | ⟨old, apart⟩
    · left
      rw [taken] at held
      rw [Option.some.inj held]
    · right
      refine ⟨?_, tokens other old token held⟩
      intro given same
      cases same
      exact fun equal => apart equal.symm

section Calls

variable {clock : Timestamp} {locked : List OutboxKey} {db next : CommitmentDatabase}

theorem recoverSubmission_token (p : CommitmentClaimCall) (row : FabricCommitmentRow)
    (claimToken : AuditClaimToken)
    (held : (p.recoverSubmission clock row).claimToken = some claimToken) :
    row.claimToken = some claimToken := by
  unfold CommitmentClaimCall.recoverSubmission at held
  split at held
  · cases held
  · exact held

theorem recoverConfirmation_token (p : CommitmentClaimCall) (row : FabricCommitmentRow)
    (claimToken : AuditClaimToken)
    (held : (p.recoverConfirmation clock row).claimToken = some claimToken) :
    row.claimToken = some claimToken := by
  unfold CommitmentClaimCall.recoverConfirmation at held
  split at held
  · cases held
  · exact held

theorem claimSubmission_leases {p : CommitmentClaimCall} {claim : Option SubmissionClaim}
    (succeeds : claimFabricCommitment clock locked p db = .ok (next, claim)) :
    LeaseStep (.claimSubmission p) db.outbox next.outbox
      (OutboxReply.submissionClaim claim).lease? := by
  have tokens : TokensFrom db.outbox (p.recoveredSubmissions clock db) :=
    tokensFrom_update (p.recoverSubmission_key clock) (recoverSubmission_token p)
  rcases claimFabricCommitment_cases succeeds with
    ⟨_, ⟨rfl, rfl, _⟩ | ⟨row, present, _, rfl, rfl⟩⟩
  · exact LeaseStep.of_tokens tokens
  · exact LeaseStep.of_claim tokens present rfl rfl rfl

theorem claimConfirmation_leases {p : CommitmentClaimCall} {claim : Option ConfirmationClaim}
    (succeeds : claimFabricCommitmentConfirmation clock locked p db = .ok (next, claim)) :
    LeaseStep (.claimConfirmation p) db.outbox next.outbox
      (OutboxReply.confirmationClaim claim).lease? := by
  have tokens : TokensFrom db.outbox (p.recoveredConfirmations clock db) :=
    tokensFrom_update (p.recoverConfirmation_key clock) (recoverConfirmation_token p)
  rcases claimFabricCommitmentConfirmation_cases succeeds with
    ⟨valid, ⟨rfl, rfl, _⟩ | ⟨row, present, _, rfl, rfl⟩⟩
  · exact LeaseStep.of_tokens tokens
  · have claimed := (Table.mem_replace (p.recoveredConfirmations clock db)
      (p.claimConfirmation clock row) present rfl _).mpr (Or.inl rfl)
    have shape := FabricCommitmentRow.confirming_shape (valid _ claimed).shape rfl
    rcases Option.isSome_iff_exists.mp shape.1 with ⟨transactionId, has⟩
    have same : row.transactionId = some transactionId := has
    rw [same]
    exact LeaseStep.of_claim tokens present rfl rfl rfl

theorem resolveCommitment_tokens {key : OutboxKey} {verdict : CommitVerdict}
    {state : AttemptState} {resolvedAt : Timestamp} {row resolved : FabricCommitmentRow}
    (succeeds : resolveCommitment key verdict state resolvedAt resolved db = .ok next)
    (present : row ∈ db.outbox) (same : row.key = resolved.key)
    (released : resolved.claimToken = none) :
    TokensFrom db.outbox next.outbox := by
  rw [(resolveCommitment_spec succeeds).1]
  refine tokensFrom_replace present same ?_
  intro claimToken held
  rw [released] at held
  cases held

theorem applyCall_leases {call : OutboxCall} {reply : OutboxReply}
    (succeeds : applyCall clock locked call db = .ok (next, reply)) :
    LeaseStep call db.outbox next.outbox reply.lease? := by
  cases call with
  | claimSubmission p =>
      simp only [applyCall, Checked.bind_eq_ok, Checked.pure_eq_ok, Prod.mk.injEq] at succeeds
      rcases succeeds with ⟨⟨_, claim⟩, called, rfl, rfl⟩
      exact claimSubmission_leases called
  | claimConfirmation p =>
      simp only [applyCall, Checked.bind_eq_ok, Checked.pure_eq_ok, Prod.mk.injEq] at succeeds
      rcases succeeds with ⟨⟨_, claim⟩, called, rfl, rfl⟩
      exact claimConfirmation_leases called
  | recordSubmission p =>
      simp only [applyCall, recordFabricCommitmentSubmission, Checked.bind_eq_ok,
        Checked.require_eq_ok, Checked.requireSome_eq_ok, checkedOutbox_eq_ok, Checked.pure_eq_ok,
        Prod.mk.injEq, exists_const, Option.filter_eq_some_iff] at succeeds
      rcases succeeds with ⟨_, ⟨_, row, ⟨held, _⟩, outbox, ⟨_, rfl⟩, _, _, attempts, _, rfl⟩,
        rfl, rfl⟩
      have spec := heldCommitment?_spec held
      exact LeaseStep.of_tokens (tokensFrom_replace spec.1 rfl fun _ same => same)
  | markCommitted p =>
      simp only [applyCall, markFabricCommitmentCommitted, Checked.bind_eq_ok,
        Checked.require_eq_ok, Checked.requireSome_eq_ok, Checked.pure_eq_ok, Prod.mk.injEq,
        exists_const] at succeeds
      rcases succeeds with ⟨_, ⟨_, row, held, resolved⟩, rfl, rfl⟩
      have spec := confirmingCommitment?_spec held
      exact LeaseStep.of_tokens (resolveCommitment_tokens resolved spec.1 rfl rfl)
  | markCommitFailed p =>
      simp only [applyCall, markFabricCommitmentCommitFailed, Checked.bind_eq_ok,
        Checked.require_eq_ok, Checked.requireSome_eq_ok, Checked.pure_eq_ok, Prod.mk.injEq,
        exists_const] at succeeds
      rcases succeeds with ⟨_, ⟨_, row, held, resolved⟩, rfl, rfl⟩
      have spec := confirmingCommitment?_spec held
      exact LeaseStep.of_tokens (resolveCommitment_tokens resolved spec.1 rfl rfl)
  | markConfirmationPending p transactionId =>
      simp only [applyCall, markFabricCommitmentConfirmationPending, Checked.bind_eq_ok,
        Checked.require_eq_ok, Checked.requireSome_eq_ok, checkedOutbox_eq_ok, Checked.pure_eq_ok,
        Prod.mk.injEq, exists_const] at succeeds
      rcases succeeds with ⟨_, ⟨_, row, held, outbox, ⟨_, rfl⟩, rfl⟩, rfl, rfl⟩
      have spec := confirmingCommitment?_spec held
      exact LeaseStep.of_tokens (tokensFrom_replace spec.1 rfl fun _ same => by cases same)
  | markFailed p =>
      simp only [applyCall, markFabricCommitmentFailed, Checked.bind_eq_ok,
        Checked.require_eq_ok, Checked.requireSome_eq_ok, checkedOutbox_eq_ok, Checked.pure_eq_ok,
        Prod.mk.injEq, exists_const] at succeeds
      rcases succeeds with ⟨_, ⟨_, row, held, outbox, ⟨_, rfl⟩, rfl⟩, rfl, rfl⟩
      have spec := heldCommitment?_spec held
      exact LeaseStep.of_tokens (tokensFrom_replace spec.1 rfl fun _ same => by cases same)

theorem enqueue_tokens {currentTenantId : TenantId} {p : CommitmentEnqueue} :
    TokensFrom db.outbox
      (Transaction.commit applyOutbox db (.enqueue currentTenantId clock p)).outbox := by
  rcases Transaction.commit_cases applyOutbox db (.enqueue currentTenantId clock p) with
    aborted | ⟨reply, succeeds⟩
  · rw [aborted]
    exact fun row member claimToken held => ⟨row, member, rfl, held⟩
  · generalize Transaction.commit applyOutbox db (.enqueue currentTenantId clock p) = after
      at succeeds ⊢
    simp only [applyOutbox, enqueueFabricCommitment, Checked.bind_eq_ok, Checked.require_eq_ok,
      Checked.pure_eq_ok, Prod.mk.injEq, exists_const] at succeeds
    rcases succeeds with ⟨⟨_, status⟩, ⟨_, _, rest⟩, rfl, _⟩
    split at rest
    · simp only [Checked.bind_eq_ok, Checked.require_eq_ok, Checked.pure_eq_ok, Prod.mk.injEq,
        exists_const] at rest
      rcases rest with ⟨_, rfl, _⟩
      exact fun row member claimToken held => ⟨row, member, rfl, held⟩
    · simp only [Checked.bind_eq_ok, Checked.require_eq_ok, Checked.requireSome_eq_ok,
        checkedOutbox_eq_ok, Checked.pure_eq_ok, Prod.mk.injEq, exists_const] at rest
      rcases rest with ⟨_, inserted, isNew, outbox, ⟨_, rfl⟩, rfl, _⟩
      intro row member claimToken held
      rcases (Table.mem_insertNew isNew row).mp member with old | rfl
      · exact ⟨row, old, rfl, held⟩
      · cases held

end Calls

/-- Every token is drawn for one claim, which leases at most one row, and a held row is held
under the token of its latest lease. -/
structure Leased {Ledger : Type} (s : OutboxSystem Ledger) : Prop where
  distinct : (s.leases.map Prod.snd ++ s.inFlight.filterMap OutboxCall.claimToken?).Nodup
  drawn : ∀ claimToken ∈ s.leases.map Prod.snd ++ s.inFlight.filterMap OutboxCall.claimToken?,
    claimToken ∈ s.drawn
  held : ∀ row ∈ s.db.outbox, ∀ claimToken, row.claimToken = some claimToken →
    lastLease s.leases row.key = some claimToken

section Steps

variable {Ledger : Type} {fabric : Fabric Ledger} {s t : OutboxSystem Ledger}

theorem leased_initial (clock : Timestamp) (ledger : Ledger) :
    Leased (OutboxSystem.initial clock ledger) where
  distinct := List.nodup_nil
  drawn _ member := by cases member
  held _ member := absurd member (Table.not_mem_empty _)

/-- Removing a call from flight while its token may become that of a lease. -/
theorem Leased.execute (leased : Leased s) (locked : List OutboxKey) {call : OutboxCall}
    {front back : List OutboxCall} (pending : s.inFlight = front ++ call :: back) :
    Leased (s.execute locked call (front ++ back)).1 := by
  have tokens : (s.leases.map Prod.snd ++ s.inFlight.filterMap OutboxCall.claimToken?).Perm
      (s.leases.map Prod.snd ++ call.claimToken?.toList ++
        (front ++ back).filterMap OutboxCall.claimToken?) := by
    rw [pending, List.append_assoc]
    refine List.Perm.append_left _ ?_
    have moved : (front ++ call :: back).Perm (call :: (front ++ back)) := List.perm_middle
    refine (moved.filterMap _).trans ?_
    cases token : call.claimToken? with
    | none => simp [token]
    | some claimToken => simp [token]
  have distinct := tokens.nodup_iff.mp leased.distinct
  have drawn : ∀ claimToken ∈ s.leases.map Prod.snd ++ call.claimToken?.toList ++
      (front ++ back).filterMap OutboxCall.claimToken?, claimToken ∈ s.drawn :=
    fun claimToken member => leased.drawn claimToken (tokens.mem_iff.mpr member)
  have smaller : (s.leases.map Prod.snd ++
      (front ++ back).filterMap OutboxCall.claimToken?).Sublist
      (s.leases.map Prod.snd ++ call.claimToken?.toList ++
        (front ++ back).filterMap OutboxCall.claimToken?) :=
    (List.sublist_append_left _ _).append_right _
  unfold OutboxSystem.execute
  cases result : applyCall s.clock locked call s.db with
  | error failure =>
      exact ⟨distinct.sublist smaller, fun claimToken member => drawn claimToken
        (smaller.subset member), leased.held⟩
  | ok pair =>
      rcases pair with ⟨db, reply⟩
      have step := applyCall_leases result
      cases given : reply.lease? with
      | none =>
          rw [given] at step
          refine ⟨?_, ?_, ?_⟩
          · simpa [given] using distinct.sublist smaller
          · intro claimToken member
            exact drawn claimToken (smaller.subset (by simpa [given] using member))
          · intro row member claimToken held
            rcases step.held row member claimToken held with absent | ⟨_, old, present, key, same⟩
            · cases absent
            · have last := leased.held old present claimToken same
              rw [key] at last
              simpa [given] using last
      | some lease =>
          rw [given] at step
          have own := step.own lease rfl
          rw [own] at distinct drawn
          refine ⟨?_, ?_, ?_⟩
          · simpa [given] using distinct
          · intro claimToken member
            exact drawn claimToken (by simpa [given] using member)
          · intro row member claimToken held
            simp only [given, Option.toList_some]
            rw [lastLease_concat]
            rcases step.held row member claimToken held with
              taken | ⟨apart, old, present, key, same⟩
            · rw [if_pos (congrArg Prod.fst (Option.some.inj taken)), Option.some.inj taken]
            · rw [if_neg (apart lease rfl), ← key]
              exact leased.held old present claimToken same

theorem Leased.advance (leased : Leased s) (step : OutboxSystem.Advance fabric s t) :
    Leased t := by
  cases step with
  | tick clock later => exact ⟨leased.distinct, leased.drawn, leased.held⟩
  | send worker workerId claimToken now call awaited named fresh sends =>
      have own : call.claimToken?.toList = [] ∨ call.claimToken?.toList = [claimToken] := by
        cases phase : s.workers worker with
        | idle =>
            rw [phase] at sends
            cases sends
            exact Or.inr rfl
        | noGap =>
            rw [phase] at sends
            cases sends
            exact Or.inr rfl
        | reported claim path verdict =>
            rw [phase] at sends
            cases sends
            left
            unfold WorkerPhase.finish
            split <;> rfl
        | submitted claim submission =>
            rw [phase] at sends
            cases sends
            exact Or.inl rfl
        | submissionFailed claim reasonCode =>
            rw [phase] at sends
            cases sends
            exact Or.inl rfl
        | confirmationFailed claim path reasonCode =>
            rw [phase] at sends
            cases sends
            exact Or.inl rfl
        | awaiting call awaited =>
            rw [phase] at sends
            cases sends
        | querying gap =>
            rw [phase] at sends
            cases sends
        | submitting claim =>
            rw [phase] at sends
            cases sends
        | waiting active =>
            rw [phase] at sends
            cases sends
      have list : (s.inFlight ++ [call]).filterMap OutboxCall.claimToken? =
          s.inFlight.filterMap OutboxCall.claimToken? ++ call.claimToken?.toList := by
        cases token : call.claimToken? <;> simp [List.filterMap_append, token]
      have unused : claimToken ∉ s.leases.map Prod.snd ++
          s.inFlight.filterMap OutboxCall.claimToken? :=
        fun member => fresh (leased.drawn claimToken member)
      refine ⟨?_, ?_, leased.held⟩
      · show (s.leases.map Prod.snd ++ (s.inFlight ++ [call]).filterMap _).Nodup
        rw [list, ← List.append_assoc]
        rcases own with none_ | some_
        · rw [none_, List.append_nil]
          exact leased.distinct
        · rw [some_]
          exact List.nodup_append.mpr ⟨leased.distinct, List.nodup_singleton _, by
            intro token member other single
            rw [List.mem_singleton.mp single]
            exact fun equal => unused (equal ▸ member)⟩
      · show ∀ token ∈ s.leases.map Prod.snd ++ (s.inFlight ++ [call]).filterMap _, _
        intro token member
        rw [list, ← List.append_assoc] at member
        rcases List.mem_append.mp member with old | isNew
        · exact List.mem_cons_of_mem _ (leased.drawn token old)
        · rcases own with none_ | some_
          · rw [none_] at isNew
            cases isNew
          · rw [some_] at isNew
            rw [List.mem_singleton.mp isNew]
            exact List.mem_cons_self
  | answer worker call awaited front back awaits pending =>
      have executed := leased.execute [] pending
      exact ⟨executed.distinct, executed.drawn, executed.held⟩
  | submit worker claim ledger submission holds submits =>
      exact ⟨leased.distinct, leased.drawn, leased.held⟩
  | report worker claim path status asks reports =>
      exact ⟨leased.distinct, leased.drawn, leased.held⟩

theorem Leased.step (leased : Leased s) (step : OutboxSystem.Step fabric s t) : Leased t := by
  cases step with
  | advance step => exact leased.advance step
  | contend worker locked call awaited front back awaits pending =>
      have executed := leased.execute locked pending
      exact ⟨executed.distinct, executed.drawn, executed.held⟩
  | proceed ledger moves => exact ⟨leased.distinct, leased.drawn, leased.held⟩
  | enqueue currentTenantId p =>
      refine ⟨leased.distinct, leased.drawn, ?_⟩
      intro row member claimToken held
      rcases enqueue_tokens row member claimToken held with ⟨old, present, key, same⟩
      rw [← key]
      exact leased.held old present claimToken same
  | deliver locked call front back pending => exact leased.execute locked pending
  | lose worker call awaited reasonCode awaits =>
      exact ⟨leased.distinct, leased.drawn, leased.held⟩
  | unavailable worker claim path reasonCode asks =>
      exact ⟨leased.distinct, leased.drawn, leased.held⟩
  | submitUnheard worker claim ledger submission reasonCode holds submits =>
      exact ⟨leased.distinct, leased.drawn, leased.held⟩
  | refuse worker claim reasonCode holds => exact ⟨leased.distinct, leased.drawn, leased.held⟩
  | crash worker => exact ⟨leased.distinct, leased.drawn, leased.held⟩

end Steps

end TenantTrust.Audit
