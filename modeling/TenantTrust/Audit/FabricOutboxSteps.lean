import TenantTrust.Audit.FabricOutbox

/-! What one call of an outbox procedure can do to the rows and to the attempts. -/

namespace TenantTrust.Audit

open Library Identity

/-- A row that all constraints of its table accept. -/
structure FabricCommitmentRow.Valid (row : FabricCommitmentRow) : Prop where
  columns : row.columnChecks = true
  shape : row.stateShape = true
  times : row.timeOrder = true

/-- The row has a transaction whose outcome is not known yet. -/
def FabricCommitmentRow.InFlight (row : FabricCommitmentRow) : Prop :=
  row.status = .confirming ∨ row.status = .submitted

/-- A row that is claimed has the time of its claim. -/
def FabricCommitmentRow.Claimed (row : FabricCommitmentRow) : Prop :=
  row.status = .submitting ∨ row.status = .confirming → row.claimedAt.isSome = true

theorem claimed_of_closed {row : FabricCommitmentRow} (submitting : row.status ≠ .submitting)
    (confirming : row.status ≠ .confirming) : row.Claimed := by
  intro open_
  rcases open_ with open_ | open_
  · exact absurd open_ submitting
  · exact absurd open_ confirming

/-- The moves of a row that leave the attempts alone. -/
inductive DeliveryMove (row : FabricCommitmentRow) : FabricCommitmentRow → Prop
  | kept : DeliveryMove row row
  | carried {next : FabricCommitmentRow} (before : row.InFlight) (after : next.InFlight)
      (transaction : next.transactionId = row.transactionId)
      (code : next.validationCode = row.validationCode)
      (count : next.attemptCount = row.attemptCount) : DeliveryMove row next
  | released {next : FabricCommitmentRow} (before : row.status = .submitting)
      (after : next.status = .failed) (transaction : next.transactionId = row.transactionId)
      (count : next.attemptCount = row.attemptCount) : DeliveryMove row next
  | reopened {next : FabricCommitmentRow}
      (before : row.status = .pending ∨ row.status = .failed ∨ row.status = .submitting)
      (after : next.status = .submitting) (transaction : next.transactionId = none)
      (code : next.validationCode = none) (count : next.attemptCount = row.attemptCount + 1) :
      DeliveryMove row next

structure RowMove (row next : FabricCommitmentRow) : Prop where
  commitment : next.commitment = row.commitment
  createdAt : next.createdAt = row.createdAt
  delivery : DeliveryMove row next
  claimed : row.Claimed → next.Claimed

theorem RowMove.key {row next : FabricCommitmentRow} (move : RowMove row next) :
    next.key = row.key :=
  congrArg FabricCommitment.key move.commitment

theorem RowMove.refl (row : FabricCommitmentRow) : RowMove row row := ⟨rfl, rfl, .kept, id⟩

/-- What a successful procedure did. -/
inductive OutboxEffect (op : OutboxOp) (before after : CommitmentDatabase) : Prop
  | unchanged (same : after = before)
  | enqueued (p : CommitmentEnqueue) (inserted : before.outbox.insertNew p.row = some after.outbox)
      (attempts : after.attempts = before.attempts)
      (valid : ∀ row ∈ after.outbox, row.Valid)
  | moved (f : FabricCommitmentRow → FabricCommitmentRow)
      (outbox : after.outbox.rows = before.outbox.rows.map f)
      (attempts : after.attempts = before.attempts)
      (moves : ∀ row ∈ before.outbox, RowMove row (f row))
      (valid : ∀ row ∈ after.outbox, row.Valid)
  | recorded (p : SubmissionRecord) (clock : Timestamp) (locked : List OutboxKey)
      (called : op = .call clock locked (.recordSubmission p)) (row : FabricCommitmentRow)
      (present : row ∈ before.outbox) (submitting : row.status = .submitting)
      (key : row.key = (p.tenantId, p.eventId))
      (outbox : after.outbox = before.outbox.replace (p.recorded clock row))
      (unused : ∀ other ∈ before.attempts, other.transactionId ≠ p.transactionId)
      (inserted : before.attempts.insertNew (p.attempt row) = some after.attempts)
      (valid : ∀ row ∈ after.outbox, row.Valid) (checked : (p.attempt row).checks = true)
  | committed (p : CommitConfirmation) (clock : Timestamp) (locked : List OutboxKey)
      (called : op = .call clock locked (.markCommitted p)) (row : FabricCommitmentRow)
      (present : row ∈ before.outbox) (confirming : row.status = .confirming)
      (key : row.key = (p.tenantId, p.eventId))
      (transaction : row.transactionId = some p.verdict.transactionId)
      (code : p.verdict.validationCode = 0)
      (outbox : after.outbox = before.outbox.replace (p.verdict.committed clock p.confirmedAt row))
      (attempts : after.attempts.rows = before.attempts.rows.map
        (p.verdict.resolve row.key .committed p.confirmedAt))
      (valid : ∀ row ∈ after.outbox, row.Valid)
      (checked : ∀ attempt ∈ after.attempts, attempt.checks = true)
  | commitFailed (p : CommitFailure) (clock : Timestamp) (locked : List OutboxKey)
      (called : op = .call clock locked (.markCommitFailed p)) (row : FabricCommitmentRow)
      (present : row ∈ before.outbox) (confirming : row.status = .confirming)
      (transaction : row.transactionId = some p.verdict.transactionId)
      (outbox : after.outbox =
        before.outbox.replace (p.verdict.commitFailed clock p.failedAt p.retryDelaySeconds row))
      (attempts : after.attempts.rows = before.attempts.rows.map
        (p.verdict.resolve row.key .failed p.failedAt))
      (valid : ∀ row ∈ after.outbox, row.Valid)
      (checked : ∀ attempt ∈ after.attempts, attempt.checks = true)

theorem checkedOutbox_eq_ok {outbox result : FabricOutboxTable} :
    checkedOutbox outbox = .ok result ↔ (∀ row ∈ outbox, row.Valid) ∧ outbox = result := by
  simp only [checkedOutbox, Checked.bind_eq_ok, Checked.require_eq_ok, Checked.pure_eq_ok,
    exists_const]
  constructor
  · intro checked
    exact ⟨fun row member =>
      ⟨checked.1 row member, checked.2.1 row member, checked.2.2.1 row member⟩, checked.2.2.2⟩
  · intro checked
    exact ⟨fun row member => (checked.1 row member).columns,
      fun row member => (checked.1 row member).shape,
      fun row member => (checked.1 row member).times, checked.2⟩

theorem nextCommitment?_spec {due : FabricCommitmentRow → Bool}
    {dueAt : FabricCommitmentRow → Timestamp} {locked : List OutboxKey}
    {outbox : FabricOutboxTable} {row : FabricCommitmentRow}
    (found : nextCommitment? due dueAt locked outbox = some row) :
    row ∈ outbox ∧ due row = true := by
  have member := List.mem_filter.mp (List.argmin_mem found)
  have holds : due row = true ∧ row.key ∉ locked := by simpa using member.2
  exact ⟨member.1, holds.1⟩

theorem nextCommitment?_none {due : FabricCommitmentRow → Bool}
    {dueAt : FabricCommitmentRow → Timestamp} {locked : List OutboxKey}
    {outbox : FabricOutboxTable} (none_ : nextCommitment? due dueAt locked outbox = none)
    {row : FabricCommitmentRow} (member : row ∈ outbox) (isDue : due row = true) :
    row.key ∈ locked := by
  have empty := List.argmin_eq_none.mp none_
  have absent := List.filter_eq_nil_iff.mp empty row member
  by_contra unlocked
  exact absent (by simp [isDue, unlocked])

theorem heldCommitment?_spec {status : AuditOutboxState} {key : OutboxKey}
    {claimToken : AuditClaimToken} {db : CommitmentDatabase} {row : FabricCommitmentRow}
    (held : heldCommitment? status key claimToken db = some row) :
    row ∈ db.outbox ∧ row.key = key ∧ row.status = status ∧
      row.claimToken = some claimToken := by
  rw [heldCommitment?, Option.filter_eq_some_iff] at held
  have found := (Table.get?_eq_some _ _ _).mp held.1
  have holds : row.status = status ∧ row.claimToken = some claimToken := by simpa using held.2
  exact ⟨found.1, found.2, holds.1, holds.2⟩

theorem confirmingCommitment?_spec {key : OutboxKey} {claimToken : AuditClaimToken}
    {transactionId : TransactionId} {db : CommitmentDatabase} {row : FabricCommitmentRow}
    (held : confirmingCommitment? key claimToken transactionId db = some row) :
    row ∈ db.outbox ∧ row.key = key ∧ row.status = .confirming ∧
      row.claimToken = some claimToken ∧ row.transactionId = some transactionId := by
  rw [confirmingCommitment?, Option.filter_eq_some_iff] at held
  have spec := heldCommitment?_spec held.1
  have same : row.transactionId = some transactionId := by simpa using held.2
  exact ⟨spec.1, spec.2.1, spec.2.2.1, spec.2.2.2, same⟩

/-- Writing one row moves that row and keeps the others. -/
theorem replace_moves {outbox : FabricOutboxTable} {row next : FabricCommitmentRow}
    (present : row ∈ outbox) (move : RowMove row next) :
    ∃ f, (outbox.replace next).rows = outbox.rows.map f ∧
      ∀ old ∈ outbox, RowMove old (f old) := by
  refine ⟨fun old => if old.key = next.key then next else old, rfl, ?_⟩
  intro old member
  by_cases same : old.key = next.key
  · have equal : old = row := outbox.unique member present (same.trans move.key)
    simp only [if_pos same]
    rw [equal]
    exact move
  · simp only [if_neg same]
    exact RowMove.refl old

theorem moved_by_replace {op : OutboxOp} {db : CommitmentDatabase}
    {row next : FabricCommitmentRow} (present : row ∈ db.outbox) (move : RowMove row next)
    (valid : ∀ row ∈ db.outbox.replace next, row.Valid) :
    OutboxEffect op db { db with outbox := db.outbox.replace next } := by
  have replaced := replace_moves present move
  rcases replaced with ⟨f, rows, moves⟩
  exact .moved f rows rfl moves valid

section Claims

variable {op : OutboxOp} {clock : Timestamp} {locked : List OutboxKey} {p : CommitmentClaimCall}
  {before after : CommitmentDatabase}

theorem recoverSubmission_move (row : FabricCommitmentRow) :
    RowMove row (p.recoverSubmission clock row) := by
  unfold CommitmentClaimCall.recoverSubmission
  split
  · rename_i stale
    have submitting : row.status = .submitting := by
      simp only [CommitmentClaimCall.isStale, Bool.and_eq_true, decide_eq_true_eq] at stale
      exact stale.1
    exact ⟨rfl, rfl, .released submitting rfl rfl rfl, fun _ =>
      claimed_of_closed (by simp) (by simp)⟩
  · exact RowMove.refl row

theorem recoverConfirmation_move (row : FabricCommitmentRow) :
    RowMove row (p.recoverConfirmation clock row) := by
  unfold CommitmentClaimCall.recoverConfirmation
  split
  · rename_i stale
    have confirming : row.status = .confirming := by
      simp only [CommitmentClaimCall.isStale, Bool.and_eq_true, decide_eq_true_eq] at stale
      exact stale.1
    exact ⟨rfl, rfl, .carried (Or.inl confirming) (Or.inr rfl) rfl rfl rfl, fun _ =>
      claimed_of_closed (by simp) (by simp)⟩
  · exact RowMove.refl row

theorem claimSubmission_move {row : FabricCommitmentRow}
    (due : p.submissionDue (p.recoverSubmission clock row) = true) :
    RowMove row (p.claimSubmission clock (p.recoverSubmission clock row)) := by
  have first : RowMove row (p.recoverSubmission clock row) := recoverSubmission_move row
  have count : (p.recoverSubmission clock row).attemptCount = row.attemptCount := by
    unfold CommitmentClaimCall.recoverSubmission
    split <;> rfl
  have open_ : row.status = .pending ∨ row.status = .failed ∨ row.status = .submitting := by
    simp only [CommitmentClaimCall.submissionDue, Bool.and_eq_true, Bool.or_eq_true,
      decide_eq_true_eq] at due
    unfold CommitmentClaimCall.recoverSubmission at due
    split at due
    · rename_i stale
      simp only [CommitmentClaimCall.isStale, Bool.and_eq_true, decide_eq_true_eq] at stale
      exact Or.inr (Or.inr stale.1)
    · rcases due.1 with pending | failed
      · exact Or.inl pending
      · exact Or.inr (Or.inl failed)
  refine ⟨first.commitment, first.createdAt, .reopened open_ rfl rfl rfl ?_, fun _ _ => rfl⟩
  rw [← count]
  rfl

theorem claimConfirmation_move {row : FabricCommitmentRow}
    (due : p.confirmationDue (p.recoverConfirmation clock row) = true) :
    RowMove row (p.claimConfirmation clock (p.recoverConfirmation clock row)) := by
  have first : RowMove row (p.recoverConfirmation clock row) := recoverConfirmation_move row
  have flight : row.InFlight := by
    simp only [CommitmentClaimCall.confirmationDue, Bool.and_eq_true, decide_eq_true_eq] at due
    unfold CommitmentClaimCall.recoverConfirmation at due
    split at due
    · rename_i stale
      simp only [CommitmentClaimCall.isStale, Bool.and_eq_true, decide_eq_true_eq] at stale
      exact Or.inl stale.1
    · exact Or.inr due.1
  have same : (p.recoverConfirmation clock row).transactionId = row.transactionId ∧
      (p.recoverConfirmation clock row).validationCode = row.validationCode ∧
      (p.recoverConfirmation clock row).attemptCount = row.attemptCount := by
    unfold CommitmentClaimCall.recoverConfirmation
    split <;> exact ⟨rfl, rfl, rfl⟩
  exact ⟨first.commitment, first.createdAt,
    .carried flight (Or.inl rfl) same.1 same.2.1 same.2.2, fun _ _ => rfl⟩

/-- A recovery of stale rows followed by the claim of one of them. -/
theorem moved_by_claim {recover claim : FabricCommitmentRow → FabricCommitmentRow}
    {due : FabricCommitmentRow → Bool} (keeps : ∀ row, (recover row).key = row.key)
    (recovers : ∀ row, RowMove row (recover row))
    (claims : ∀ row, due (recover row) = true → RowMove row (claim (recover row)))
    {row : FabricCommitmentRow} (present : row ∈ before.outbox.update recover keeps)
    (isDue : due row = true)
    (valid : ∀ other ∈ (before.outbox.update recover keeps).replace (claim row), other.Valid) :
    OutboxEffect op before
      { before with outbox := (before.outbox.update recover keeps).replace (claim row) } := by
  rcases (Table.mem_update _ _ keeps _).mp present with ⟨old, member, rfl⟩
  have claimed := claims old isDue
  refine .moved (fun other => if (recover other).key = (claim (recover old)).key
    then claim (recover old) else recover other) ?_ rfl ?_ valid
  · exact List.map_map
  · intro other otherMember
    by_cases same : (recover other).key = (claim (recover old)).key
    · have equal : other = old :=
        before.outbox.unique otherMember member ((keeps other).symm.trans (same.trans claimed.key))
      simp only [if_pos same]
      rw [equal]
      exact claimed
    · simp only [if_neg same]
      exact recovers other

/-- The table after the stale submission claims have been recovered. -/
def CommitmentClaimCall.recoveredSubmissions (p : CommitmentClaimCall) (clock : Timestamp)
    (db : CommitmentDatabase) : FabricOutboxTable :=
  db.outbox.update (p.recoverSubmission clock) (p.recoverSubmission_key clock)

/-- The table after the stale confirmation claims have been recovered. -/
def CommitmentClaimCall.recoveredConfirmations (p : CommitmentClaimCall) (clock : Timestamp)
    (db : CommitmentDatabase) : FabricOutboxTable :=
  db.outbox.update (p.recoverConfirmation clock) (p.recoverConfirmation_key clock)

theorem claimFabricCommitment_cases {claim : Option SubmissionClaim}
    (succeeds : claimFabricCommitment clock locked p before = .ok (after, claim)) :
    (∀ row ∈ after.outbox, row.Valid) ∧
      ((claim = none ∧ after = { before with outbox := p.recoveredSubmissions clock before } ∧
          ∀ row ∈ p.recoveredSubmissions clock before, p.submissionDue row = true →
            row.key ∈ locked) ∨
        ∃ row ∈ p.recoveredSubmissions clock before, p.submissionDue row = true ∧
          claim = some ⟨row.commitment, p.claimToken, row.attemptCount + 1⟩ ∧
          after = { before with outbox :=
            (p.recoveredSubmissions clock before).replace (p.claimSubmission clock row) }) := by
  simp only [claimFabricCommitment, Checked.bind_eq_ok, Checked.require_eq_ok, exists_const,
    checkedOutbox_eq_ok] at succeeds
  rcases succeeds with ⟨_, recovered, ⟨valid, rfl⟩, rest⟩
  split at rest
  · rename_i none_
    simp only [Checked.pure_eq_ok, Prod.mk.injEq] at rest
    rcases rest with ⟨rfl, rfl⟩
    exact ⟨valid, Or.inl ⟨rfl, rfl, fun row => nextCommitment?_none none_⟩⟩
  · rename_i row found
    simp only [Checked.bind_eq_ok, checkedOutbox_eq_ok, Checked.pure_eq_ok, Prod.mk.injEq] at rest
    rcases rest with ⟨outbox, ⟨written, rfl⟩, rfl, rfl⟩
    have spec := nextCommitment?_spec found
    exact ⟨written, Or.inr ⟨row, spec.1, spec.2, rfl, rfl⟩⟩

theorem claimFabricCommitment_effect {claim : Option SubmissionClaim}
    (succeeds : claimFabricCommitment clock locked p before = .ok (after, claim)) :
    OutboxEffect op before after := by
  rcases claimFabricCommitment_cases succeeds with
    ⟨valid, ⟨_, rfl, _⟩ | ⟨row, present, due, _, rfl⟩⟩
  · exact .moved (p.recoverSubmission clock) rfl rfl (fun row _ => recoverSubmission_move row) valid
  · exact moved_by_claim (p.recoverSubmission_key clock) recoverSubmission_move
      (fun _ => claimSubmission_move) present due valid

theorem claimFabricCommitmentConfirmation_cases {claim : Option ConfirmationClaim}
    (succeeds : claimFabricCommitmentConfirmation clock locked p before = .ok (after, claim)) :
    (∀ row ∈ after.outbox, row.Valid) ∧
      ((claim = none ∧ after = { before with outbox := p.recoveredConfirmations clock before } ∧
          ∀ row ∈ p.recoveredConfirmations clock before, p.confirmationDue row = true →
            row.key ∈ locked) ∨
        ∃ row ∈ p.recoveredConfirmations clock before, p.confirmationDue row = true ∧
          claim = row.transactionId.map (fun transactionId =>
            ⟨row.commitment.tenantId, row.commitment.eventId, transactionId, p.claimToken,
              row.attemptCount⟩) ∧
          after = { before with outbox :=
            (p.recoveredConfirmations clock before).replace (p.claimConfirmation clock row) }) := by
  simp only [claimFabricCommitmentConfirmation, Checked.bind_eq_ok, Checked.require_eq_ok,
    exists_const, checkedOutbox_eq_ok] at succeeds
  rcases succeeds with ⟨_, recovered, ⟨valid, rfl⟩, rest⟩
  split at rest
  · rename_i none_
    simp only [Checked.pure_eq_ok, Prod.mk.injEq] at rest
    rcases rest with ⟨rfl, rfl⟩
    exact ⟨valid, Or.inl ⟨rfl, rfl, fun row => nextCommitment?_none none_⟩⟩
  · rename_i row found
    simp only [Checked.bind_eq_ok, checkedOutbox_eq_ok, Checked.pure_eq_ok, Prod.mk.injEq] at rest
    rcases rest with ⟨outbox, ⟨written, rfl⟩, rfl, rfl⟩
    have spec := nextCommitment?_spec found
    exact ⟨written, Or.inr ⟨row, spec.1, spec.2, rfl, rfl⟩⟩

theorem claimFabricCommitmentConfirmation_effect {claim : Option ConfirmationClaim}
    (succeeds : claimFabricCommitmentConfirmation clock locked p before = .ok (after, claim)) :
    OutboxEffect op before after := by
  rcases claimFabricCommitmentConfirmation_cases succeeds with
    ⟨valid, ⟨_, rfl, _⟩ | ⟨row, present, due, _, rfl⟩⟩
  · exact .moved (p.recoverConfirmation clock) rfl rfl
      (fun row _ => recoverConfirmation_move row) valid
  · exact moved_by_claim (p.recoverConfirmation_key clock) recoverConfirmation_move
      (fun _ => claimConfirmation_move) present due valid

end Claims

section Reports

variable {op : OutboxOp} {clock : Timestamp} {before after : CommitmentDatabase}

theorem enqueueFabricCommitment_effect {currentTenantId : TenantId} {p : CommitmentEnqueue}
    {status : AuditOutboxState}
    (succeeds : enqueueFabricCommitment currentTenantId clock p before = .ok (after, status)) :
    OutboxEffect op before after := by
  simp only [enqueueFabricCommitment, Checked.bind_eq_ok, Checked.require_eq_ok,
    exists_const] at succeeds
  rcases succeeds with ⟨_, _, rest⟩
  split at rest
  · simp only [Checked.bind_eq_ok, Checked.require_eq_ok, Checked.pure_eq_ok, Prod.mk.injEq,
      exists_const] at rest
    exact .unchanged rest.2.1.symm
  · simp only [Checked.bind_eq_ok, Checked.require_eq_ok, Checked.requireSome_eq_ok,
      checkedOutbox_eq_ok, Checked.pure_eq_ok, Prod.mk.injEq, exists_const] at rest
    rcases rest with ⟨_, inserted, isNew, outbox, ⟨valid, rfl⟩, rfl, _⟩
    exact .enqueued p isNew rfl valid

theorem recordFabricCommitmentSubmission_effect {locked : List OutboxKey} {p : SubmissionRecord}
    (succeeds : recordFabricCommitmentSubmission clock p before = .ok after) :
    OutboxEffect (.call clock locked (.recordSubmission p)) before after := by
  simp only [recordFabricCommitmentSubmission, Checked.bind_eq_ok, Checked.require_eq_ok,
    Checked.requireSome_eq_ok, checkedOutbox_eq_ok, Checked.pure_eq_ok, exists_const,
    Option.filter_eq_some_iff] at succeeds
  rcases succeeds with
    ⟨_, row, ⟨held, _⟩, outbox, ⟨valid, rfl⟩, unused, checked, attempts, inserted, rfl⟩
  have spec := heldCommitment?_spec held
  exact .recorded p clock locked rfl row spec.1 spec.2.2.1 spec.2.1 rfl unused inserted valid
    checked

theorem resolveCommitment_spec {key : OutboxKey} {verdict : CommitVerdict} {state : AttemptState}
    {resolvedAt : Timestamp} {resolved : FabricCommitmentRow}
    (succeeds : resolveCommitment key verdict state resolvedAt resolved before = .ok after) :
    after.outbox = before.outbox.replace resolved ∧
      after.attempts.rows = before.attempts.rows.map (verdict.resolve key state resolvedAt) ∧
      (∀ row ∈ after.outbox, row.Valid) ∧ ∀ attempt ∈ after.attempts, attempt.checks = true := by
  simp only [resolveCommitment, Checked.bind_eq_ok, Checked.require_eq_ok, checkedOutbox_eq_ok,
    Checked.pure_eq_ok, exists_const] at succeeds
  rcases succeeds with ⟨outbox, ⟨valid, rfl⟩, checked, rfl⟩
  exact ⟨rfl, rfl, valid, checked⟩

theorem markFabricCommitmentCommitted_effect {locked : List OutboxKey} {p : CommitConfirmation}
    (succeeds : markFabricCommitmentCommitted clock p before = .ok after) :
    OutboxEffect (.call clock locked (.markCommitted p)) before after := by
  simp only [markFabricCommitmentCommitted, Checked.bind_eq_ok, Checked.require_eq_ok,
    Checked.requireSome_eq_ok, exists_const] at succeeds
  rcases succeeds with ⟨allowed, row, held, resolved⟩
  have spec := confirmingCommitment?_spec held
  rw [← spec.2.1] at resolved
  have written := resolveCommitment_spec resolved
  exact .committed p clock locked rfl row spec.1 spec.2.2.1 spec.2.1 spec.2.2.2.2 allowed.1
    written.1 written.2.1 written.2.2.1 written.2.2.2

theorem markFabricCommitmentCommitFailed_effect {locked : List OutboxKey} {p : CommitFailure}
    (succeeds : markFabricCommitmentCommitFailed clock p before = .ok after) :
    OutboxEffect (.call clock locked (.markCommitFailed p)) before after := by
  simp only [markFabricCommitmentCommitFailed, Checked.bind_eq_ok, Checked.require_eq_ok,
    Checked.requireSome_eq_ok, exists_const] at succeeds
  rcases succeeds with ⟨_, row, held, resolved⟩
  have spec := confirmingCommitment?_spec held
  rw [← spec.2.1] at resolved
  have written := resolveCommitment_spec resolved
  exact .commitFailed p clock locked rfl row spec.1 spec.2.2.1 spec.2.2.2.2 written.1 written.2.1
    written.2.2.1 written.2.2.2

theorem markFabricCommitmentConfirmationPending_effect {p : CommitmentDelay}
    {transactionId : TransactionId}
    (succeeds : markFabricCommitmentConfirmationPending clock p transactionId before = .ok after) :
    OutboxEffect op before after := by
  simp only [markFabricCommitmentConfirmationPending, Checked.bind_eq_ok, Checked.require_eq_ok,
    Checked.requireSome_eq_ok, checkedOutbox_eq_ok, Checked.pure_eq_ok, exists_const] at succeeds
  rcases succeeds with ⟨_, row, held, outbox, ⟨valid, rfl⟩, rfl⟩
  have spec := confirmingCommitment?_spec held
  exact moved_by_replace spec.1
    ⟨rfl, rfl, .carried (Or.inl spec.2.2.1) (Or.inr rfl) rfl rfl rfl, fun _ =>
      claimed_of_closed (by simp [CommitmentDelay.confirmationPending])
        (by simp [CommitmentDelay.confirmationPending])⟩ valid

theorem markFabricCommitmentFailed_effect {p : CommitmentDelay}
    (succeeds : markFabricCommitmentFailed clock p before = .ok after) :
    OutboxEffect op before after := by
  simp only [markFabricCommitmentFailed, Checked.bind_eq_ok, Checked.require_eq_ok,
    Checked.requireSome_eq_ok, checkedOutbox_eq_ok, Checked.pure_eq_ok, exists_const] at succeeds
  rcases succeeds with ⟨_, row, held, outbox, ⟨valid, rfl⟩, rfl⟩
  have spec := heldCommitment?_spec held
  exact moved_by_replace spec.1 ⟨rfl, rfl, .released spec.2.2.1 rfl rfl rfl, fun _ =>
    claimed_of_closed (by simp [CommitmentDelay.submissionFailed])
      (by simp [CommitmentDelay.submissionFailed])⟩ valid

end Reports

theorem applyOutbox_effect {op : OutboxOp} {before after : CommitmentDatabase}
    {reply : OutboxReply} (succeeds : applyOutbox op before = .ok (after, reply)) :
    OutboxEffect op before after := by
  cases op with
  | enqueue currentTenantId clock p =>
      simp only [applyOutbox, Checked.bind_eq_ok, Checked.pure_eq_ok, Prod.mk.injEq] at succeeds
      rcases succeeds with ⟨⟨next, status⟩, called, rfl, _⟩
      exact enqueueFabricCommitment_effect called
  | call clock locked call =>
      cases call with
      | claimSubmission p =>
          simp only [applyOutbox, applyCall, Checked.bind_eq_ok, Checked.pure_eq_ok,
            Prod.mk.injEq] at succeeds
          rcases succeeds with ⟨⟨next, claim⟩, called, rfl, _⟩
          exact claimFabricCommitment_effect called
      | claimConfirmation p =>
          simp only [applyOutbox, applyCall, Checked.bind_eq_ok, Checked.pure_eq_ok,
            Prod.mk.injEq] at succeeds
          rcases succeeds with ⟨⟨next, claim⟩, called, rfl, _⟩
          exact claimFabricCommitmentConfirmation_effect called
      | recordSubmission p =>
          simp only [applyOutbox, applyCall, Checked.bind_eq_ok, Checked.pure_eq_ok,
            Prod.mk.injEq] at succeeds
          rcases succeeds with ⟨next, called, rfl, _⟩
          exact recordFabricCommitmentSubmission_effect called
      | markCommitted p =>
          simp only [applyOutbox, applyCall, Checked.bind_eq_ok, Checked.pure_eq_ok,
            Prod.mk.injEq] at succeeds
          rcases succeeds with ⟨next, called, rfl, _⟩
          exact markFabricCommitmentCommitted_effect called
      | markCommitFailed p =>
          simp only [applyOutbox, applyCall, Checked.bind_eq_ok, Checked.pure_eq_ok,
            Prod.mk.injEq] at succeeds
          rcases succeeds with ⟨next, called, rfl, _⟩
          exact markFabricCommitmentCommitFailed_effect called
      | markConfirmationPending p transactionId =>
          simp only [applyOutbox, applyCall, Checked.bind_eq_ok, Checked.pure_eq_ok,
            Prod.mk.injEq] at succeeds
          rcases succeeds with ⟨next, called, rfl, _⟩
          exact markFabricCommitmentConfirmationPending_effect called
      | markFailed p =>
          simp only [applyOutbox, applyCall, Checked.bind_eq_ok, Checked.pure_eq_ok,
            Prod.mk.injEq] at succeeds
          rcases succeeds with ⟨next, called, rfl, _⟩
          exact markFabricCommitmentFailed_effect called

end TenantTrust.Audit
