import TenantTrust.Audit.FabricOutboxSafety

/-! When the procedures of the outbox succeed. -/

namespace TenantTrust.Audit

open Library Identity

section Rows

variable {clock : Timestamp} {row : FabricCommitmentRow}

/-- The parts of `columnChecks`. -/
theorem columnChecks_iff (row : FabricCommitmentRow) : row.columnChecks = true ↔
    row.commitment.checks = true ∧ row.claimedBy.all isWorkerId = true ∧
      row.lastFailureCode.all isReasonCode = true ∧
      row.validationCode.all (fun code => decide (0 ≤ code) && decide (code ≤ 255)) = true ∧
      row.blockNumber.all (fun number => decide (0 ≤ number)) = true := by
  simp only [FabricCommitmentRow.columnChecks, Bool.and_eq_true, and_assoc]

/-- The parts of `timeOrder`. -/
theorem timeOrder_iff (row : FabricCommitmentRow) : row.timeOrder = true ↔
    row.createdAt ≤ row.updatedAt ∧ row.createdAt ≤ row.nextAttemptAt ∧
      (∀ time, row.claimedAt = some time → row.createdAt ≤ time) ∧
      (∀ time, row.submittedAt = some time → row.createdAt ≤ time) ∧
      (∀ time, row.nextConfirmationAt = some time → row.createdAt ≤ time) ∧
      (∀ time, row.committedAt = some time → row.createdAt ≤ time) ∧
      ∀ time, row.failedAt = some time → row.createdAt ≤ time := by
  simp only [FabricCommitmentRow.timeOrder, Bool.and_eq_true, decide_eq_true_eq, and_assoc,
    Option.all_eq_true]

theorem recoverSubmission_valid (p : CommitmentClaimCall) (valid : row.Valid)
    (unresolved : row.status = .submitting → row.validationCode = none)
    (created : row.createdAt ≤ p.claimedAt) : (p.recoverSubmission clock row).Valid := by
  refine ⟨?_, recoverSubmission_shaped p valid.shape unresolved, ?_⟩
  · unfold CommitmentClaimCall.recoverSubmission
    split
    · have columns := (columnChecks_iff row).mp valid.columns
      refine (columnChecks_iff _).mpr ⟨columns.1, rfl, ?_, columns.2.2.2⟩
      show isReasonCode "STALE_SUBMISSION_CLAIM_RECOVERED" = true
      decide
    · exact valid.columns
  · unfold CommitmentClaimCall.recoverSubmission
    split
    · have times := (timeOrder_iff row).mp valid.times
      refine (timeOrder_iff _).mpr ⟨le_max_of_le_right created, created, ?_, times.2.2.2.1,
        times.2.2.2.2.1, times.2.2.2.2.2.1, ?_⟩
      · intro time same
        cases same
      · intro time same
        cases same
        exact created
    · exact valid.times

theorem recoverConfirmation_valid (p : CommitmentClaimCall) (valid : row.Valid)
    (unresolved : row.status = .confirming → row.validationCode = none)
    (created : row.createdAt ≤ p.claimedAt) : (p.recoverConfirmation clock row).Valid := by
  refine ⟨?_, recoverConfirmation_shaped p valid.shape unresolved, ?_⟩
  · unfold CommitmentClaimCall.recoverConfirmation
    split
    · have columns := (columnChecks_iff row).mp valid.columns
      refine (columnChecks_iff _).mpr ⟨columns.1, rfl, ?_, columns.2.2.2⟩
      show isReasonCode "STALE_CONFIRMATION_CLAIM_RECOVERED" = true
      decide
    · exact valid.columns
  · unfold CommitmentClaimCall.recoverConfirmation
    split
    · have times := (timeOrder_iff row).mp valid.times
      refine (timeOrder_iff _).mpr ⟨le_max_of_le_right created, times.2.1, ?_, times.2.2.2.1, ?_,
        times.2.2.2.2.2⟩
      · intro time same
        cases same
      · intro time same
        cases same
        exact created
    · exact valid.times

theorem claimSubmission_valid (p : CommitmentClaimCall) (valid : row.Valid)
    (named : isWorkerId p.workerId = true) (created : row.createdAt ≤ p.claimedAt) :
    (p.claimSubmission clock row).Valid := by
  have columns := (columnChecks_iff row).mp valid.columns
  have times := (timeOrder_iff row).mp valid.times
  refine ⟨?_, rfl, ?_⟩
  · exact (columnChecks_iff _).mpr ⟨columns.1, named, rfl, rfl, rfl⟩
  · refine (timeOrder_iff _).mpr ⟨le_max_of_le_right created, times.2.1, ?_, ?_, ?_, ?_, ?_⟩
    · intro time same
      cases same
      exact created
    all_goals
      intro time same
      cases same

theorem claimConfirmation_valid (p : CommitmentClaimCall) (valid : row.Valid)
    (submitted : row.status = .submitted) (named : isWorkerId p.workerId = true)
    (created : row.createdAt ≤ p.claimedAt) : (p.claimConfirmation clock row).Valid := by
  have columns := (columnChecks_iff row).mp valid.columns
  have times := (timeOrder_iff row).mp valid.times
  refine ⟨?_, ?_, ?_⟩
  · exact (columnChecks_iff _).mpr ⟨columns.1, named, columns.2.2⟩
  · have shape := valid.shape
    simp only [FabricCommitmentRow.stateShape, submitted, Bool.and_eq_true] at shape
    simp [FabricCommitmentRow.stateShape, CommitmentClaimCall.claimConfirmation, shape.1.1.1.2,
      shape.1.1.2]
  · refine (timeOrder_iff _).mpr ⟨le_max_of_le_right created, times.2.1, ?_, times.2.2.2⟩
    intro time same
    cases same
    exact created

theorem recorded_valid (p : SubmissionRecord) (valid : row.Valid)
    (submitting : row.status = .submitting) (created : row.createdAt ≤ p.submittedAt) :
    (p.recorded clock row).Valid := by
  have columns := (columnChecks_iff row).mp valid.columns
  have times := (timeOrder_iff row).mp valid.times
  refine ⟨?_, ?_, ?_⟩
  · exact (columnChecks_iff _).mpr ⟨columns.1, columns.2.1, rfl, columns.2.2.2⟩
  · have shape := valid.shape
    simp only [FabricCommitmentRow.stateShape, submitting, Bool.and_eq_true] at shape
    simp [FabricCommitmentRow.stateShape, SubmissionRecord.recorded, shape.1.1]
  · refine (timeOrder_iff _).mpr ⟨le_max_of_le_right created, times.2.1, times.2.2.1, ?_,
      times.2.2.2.2⟩
    intro time same
    cases same
    exact created

/-- The numbers that the columns of a verdict accept. -/
def CommitVerdict.Storable (verdict : CommitVerdict) : Prop :=
  0 ≤ verdict.validationCode ∧ verdict.validationCode ≤ 255 ∧ 0 ≤ verdict.blockNumber

theorem committed_valid (verdict : CommitVerdict) {confirmedAt : Timestamp} (valid : row.Valid)
    (confirming : row.status = .confirming) (success : verdict.validationCode = 0)
    (storable : verdict.Storable) (created : row.createdAt ≤ confirmedAt) :
    (verdict.committed clock confirmedAt row).Valid := by
  have columns := (columnChecks_iff row).mp valid.columns
  have times := (timeOrder_iff row).mp valid.times
  have shape := FabricCommitmentRow.confirming_shape valid.shape confirming
  refine ⟨?_, ?_, ?_⟩
  · refine (columnChecks_iff _).mpr ⟨columns.1, rfl, rfl, ?_, ?_⟩
    · simp [CommitVerdict.committed, storable.1, storable.2.1]
    · simp [CommitVerdict.committed, storable.2.2]
  · simp [FabricCommitmentRow.stateShape, CommitVerdict.committed, shape.1, shape.2, success]
  · refine (timeOrder_iff _).mpr ⟨le_max_of_le_right created, times.2.1, ?_, times.2.2.2.1, ?_, ?_,
      times.2.2.2.2.2.2⟩
    · intro time same
      cases same
    · intro time same
      cases same
    · intro time same
      cases same
      exact created

theorem commitFailed_valid (verdict : CommitVerdict) {failedAt : Timestamp}
    {retryDelaySeconds : Int} (valid : row.Valid) (confirming : row.status = .confirming)
    (failure : 0 < verdict.validationCode) (storable : verdict.Storable)
    (delayed : 0 ≤ retryDelaySeconds) (created : row.createdAt ≤ failedAt) :
    (verdict.commitFailed clock failedAt retryDelaySeconds row).Valid := by
  have columns := (columnChecks_iff row).mp valid.columns
  have times := (timeOrder_iff row).mp valid.times
  have shape := FabricCommitmentRow.confirming_shape valid.shape confirming
  refine ⟨?_, ?_, ?_⟩
  · refine (columnChecks_iff _).mpr ⟨columns.1, rfl, ?_, ?_, ?_⟩
    · show isReasonCode "FABRIC_COMMIT_INVALID" = true
      decide
    · simp [CommitVerdict.commitFailed, storable.1, storable.2.1]
    · simp [CommitVerdict.commitFailed, storable.2.2]
  · simp [FabricCommitmentRow.stateShape, CommitVerdict.commitFailed, shape.1, shape.2, failure]
  · have later : row.createdAt ≤ failedAt + seconds retryDelaySeconds := by
      unfold Timestamp seconds at *
      omega
    refine (timeOrder_iff _).mpr ⟨le_max_of_le_right created, later, ?_, times.2.2.2.1, ?_,
      times.2.2.2.2.2.1, ?_⟩
    · intro time same
      cases same
    · intro time same
      cases same
    · intro time same
      cases same
      exact created

end Rows

section Calls

variable {clock : Timestamp} {locked : List OutboxKey} {db : CommitmentDatabase}

theorem replace_valid {outbox : FabricOutboxTable} {next : FabricCommitmentRow}
    (valid : ∀ row ∈ outbox, row.Valid) (own : next.Valid) :
    ∀ row ∈ outbox.replace next, row.Valid := by
  intro row member
  rw [Table.replace, Table.mem_update] at member
  rcases member with ⟨old, present, rfl⟩
  split
  · exact own
  · exact valid old present

/-- No row was created after the clock. -/
def CommitmentDatabase.CreatedBy (db : CommitmentDatabase) (at_ : Timestamp) : Prop :=
  ∀ row ∈ db.outbox, row.createdAt ≤ at_

theorem claimFabricCommitment_ok (history : DeliveryHistory db) (p : CommitmentClaimCall)
    (named : isWorkerId p.workerId = true) (now : p.claimedAt = clock)
    (created : db.CreatedBy clock) :
    ∃ result, claimFabricCommitment clock locked p db = .ok result := by
  have recovered : ∀ row ∈ db.outbox.update (p.recoverSubmission clock)
      (p.recoverSubmission_key clock), row.Valid ∧ row.createdAt ≤ p.claimedAt := by
    intro row member
    rcases (Table.mem_update _ _ (p.recoverSubmission_key clock) row).mp member with
      ⟨old, present, rfl⟩
    have before : old.createdAt ≤ p.claimedAt := by
      rw [now]
      exact created old present
    refine ⟨recoverSubmission_valid p (history.valid old present)
      (fun submitting => history.unresolved old present (Or.inl submitting)) before, ?_⟩
    rw [(recoverSubmission_move old).createdAt]
    exact before
  have allowed : isWorkerId p.workerId = true ∧ p.claimedAt ≤ clock + seconds 2 := by
    refine ⟨named, ?_⟩
    unfold Timestamp seconds at *
    omega
  have first := checkedOutbox_eq_ok.mpr ⟨fun row member => (recovered row member).1, rfl⟩
  unfold claimFabricCommitment
  refine Checked.exists_bind_ok (Checked.require_ok allowed) ?_
  refine Checked.exists_bind_ok first ?_
  split
  · exact ⟨_, rfl⟩
  · rename_i row found
    have spec := recovered row (nextCommitment?_spec found).1
    have own : (p.claimSubmission clock row).Valid := claimSubmission_valid p spec.1 named spec.2
    have written := replace_valid (fun row member => (recovered row member).1) own
    refine Checked.exists_bind_ok (checkedOutbox_eq_ok.mpr ⟨written, rfl⟩) ?_
    exact ⟨_, rfl⟩

theorem claimFabricCommitmentConfirmation_ok (history : DeliveryHistory db)
    (p : CommitmentClaimCall) (named : isWorkerId p.workerId = true) (now : p.claimedAt = clock)
    (created : db.CreatedBy clock) :
    ∃ result, claimFabricCommitmentConfirmation clock locked p db = .ok result := by
  have recovered : ∀ row ∈ db.outbox.update (p.recoverConfirmation clock)
      (p.recoverConfirmation_key clock), row.Valid ∧ row.createdAt ≤ p.claimedAt := by
    intro row member
    rcases (Table.mem_update _ _ (p.recoverConfirmation_key clock) row).mp member with
      ⟨old, present, rfl⟩
    have before : old.createdAt ≤ p.claimedAt := by
      rw [now]
      exact created old present
    refine ⟨recoverConfirmation_valid p (history.valid old present)
      (fun confirming => history.unresolved old present (Or.inr confirming)) before, ?_⟩
    rw [(recoverConfirmation_move old).createdAt]
    exact before
  have allowed : isWorkerId p.workerId = true ∧ p.claimedAt ≤ clock + seconds 2 := by
    refine ⟨named, ?_⟩
    unfold Timestamp seconds at *
    omega
  have first := checkedOutbox_eq_ok.mpr ⟨fun row member => (recovered row member).1, rfl⟩
  unfold claimFabricCommitmentConfirmation
  refine Checked.exists_bind_ok (Checked.require_ok allowed) ?_
  refine Checked.exists_bind_ok first ?_
  split
  · exact ⟨_, rfl⟩
  · rename_i row found
    have due := nextCommitment?_spec found
    have spec := recovered row due.1
    have submitted : row.status = .submitted := by
      have isDue := due.2
      simp only [CommitmentClaimCall.confirmationDue, Bool.and_eq_true, decide_eq_true_eq] at isDue
      exact isDue.1
    have own : (p.claimConfirmation clock row).Valid :=
      claimConfirmation_valid p spec.1 submitted named spec.2
    have written := replace_valid (fun row member => (recovered row member).1) own
    refine Checked.exists_bind_ok (checkedOutbox_eq_ok.mpr ⟨written, rfl⟩) ?_
    exact ⟨_, rfl⟩

theorem heldCommitment?_eq {status : AuditOutboxState} {row : FabricCommitmentRow}
    {claimToken : AuditClaimToken} (present : row ∈ db.outbox) (same : row.status = status)
    (held : row.claimToken = some claimToken) :
    heldCommitment? status row.key claimToken db = some row := by
  rw [heldCommitment?, Option.filter_eq_some_iff]
  exact ⟨Table.get?_of_mem present, by simp [same, held]⟩

theorem confirmingCommitment?_eq {row : FabricCommitmentRow} {claimToken : AuditClaimToken}
    {transactionId : TransactionId} (present : row ∈ db.outbox) (same : row.status = .confirming)
    (held : row.claimToken = some claimToken) (has : row.transactionId = some transactionId) :
    confirmingCommitment? row.key claimToken transactionId db = some row := by
  rw [confirmingCommitment?, Option.filter_eq_some_iff]
  exact ⟨heldCommitment?_eq present same held, by simp [has]⟩

/-- The submission of a held row is recorded, if its transaction is new. -/
theorem recordFabricCommitmentSubmission_ok (history : DeliveryHistory db)
    {p : SubmissionRecord} {row : FabricCommitmentRow} (present : row ∈ db.outbox)
    (key : row.key = (p.tenantId, p.eventId)) (submitting : row.status = .submitting)
    (held : row.claimToken = some p.claimToken) (ledgerKey : row.commitment.ledgerKey = p.ledgerKey)
    (attempted : 0 < row.attemptCount) (now : p.submittedAt = clock)
    (created : row.createdAt ≤ clock)
    (unused : ∀ other ∈ db.attempts, other.transactionId ≠ p.transactionId) :
    ∃ attempts, recordFabricCommitmentSubmission clock p db =
      .ok ⟨db.outbox.replace (p.recorded clock row), attempts⟩ := by
  have allowed : p.submittedAt ≤ clock + seconds 2 := by
    unfold Timestamp seconds at *
    omega
  have found : (heldCommitment? .submitting (p.tenantId, p.eventId) p.claimToken db).filter
      (fun row => row.commitment.ledgerKey = p.ledgerKey) = some row := by
    rw [← key, heldCommitment?_eq present submitting held, Option.filter_eq_some_iff]
    exact ⟨rfl, by simp [ledgerKey]⟩
  have before : row.createdAt ≤ p.submittedAt := by
    rw [now]
    exact created
  have own : (p.recorded clock row).Valid :=
    recorded_valid p (history.valid row present) submitting before
  have written := replace_valid history.valid own
  have checked : (p.attempt row).checks = true := by
    simp [FabricCommitmentAttempt.checks, SubmissionRecord.attempt, attempted]
  -- An attempt of the current number would have the transaction of the row, which has none.
  have free : db.attempts.get? (p.attempt row).key = none := by
    rw [Table.get?_eq_none]
    intro attempt member same
    rcases history.owned attempt member with ⟨owner, ownerPresent, ownerKey, belongs⟩
    have rowKey : attempt.rowKey = row.key := congrArg Prod.fst same
    rw [db.outbox.unique ownerPresent present (ownerKey.trans rowKey)] at belongs
    have number : attempt.attemptNumber = row.attemptCount := congrArg Prod.snd same
    rcases belongs with earlier | ⟨_, _, reflects⟩
    · omega
    · rw [submitting] at reflects
      exact absurd reflects id
  have inserted : db.attempts.insertNew (p.attempt row) =
      some (db.attempts.insert (p.attempt row) free) := Table.insertNew_eq_some.mpr ⟨free, rfl⟩
  refine ⟨db.attempts.insert (p.attempt row) free, ?_⟩
  unfold recordFabricCommitmentSubmission
  simp only [Checked.bind_eq_ok, Checked.require_eq_ok, Checked.requireSome_eq_ok,
    checkedOutbox_eq_ok, Checked.pure_eq_ok, exists_const]
  exact ⟨allowed, row, found, _, ⟨written, rfl⟩, unused, checked, _, inserted, rfl⟩

theorem resolve_checks (history : DeliveryHistory db) {key : OutboxKey} {verdict : CommitVerdict}
    {state : AttemptState} {resolvedAt : Timestamp} (storable : verdict.Storable)
    (shape : (state = .committed ∧ verdict.validationCode = 0) ∨
      (state = .failed ∧ 0 < verdict.validationCode)) :
    ∀ attempt ∈ db.attempts.update (verdict.resolve key state resolvedAt)
      (verdict.resolve_key key state resolvedAt), attempt.checks = true := by
  intro attempt member
  rcases (Table.mem_update _ _ (verdict.resolve_key key state resolvedAt) attempt).mp member with
    ⟨old, present, rfl⟩
  have checked := history.checked old present
  unfold CommitVerdict.resolve
  split
  · have positive : 0 < old.attemptNumber := (history.number_bounded present).1
    rcases shape with ⟨rfl, code⟩ | ⟨rfl, code⟩
    · simp [FabricCommitmentAttempt.checks, positive, code, storable.2.2]
    · simp [FabricCommitmentAttempt.checks, positive, code, storable.1, storable.2.1,
        storable.2.2]
  · exact checked

/-- The two ends of a confirmation, given the row that the caller holds. -/
theorem resolveCommitment_ok (history : DeliveryHistory db) {key : OutboxKey}
    {verdict : CommitVerdict} {state : AttemptState} {resolvedAt : Timestamp}
    {resolved : FabricCommitmentRow} (own : resolved.Valid) (storable : verdict.Storable)
    (shape : (state = .committed ∧ verdict.validationCode = 0) ∨
      (state = .failed ∧ 0 < verdict.validationCode)) :
    resolveCommitment key verdict state resolvedAt resolved db =
      .ok ⟨db.outbox.replace resolved, db.attempts.update (verdict.resolve key state resolvedAt)
        (verdict.resolve_key key state resolvedAt)⟩ := by
  unfold resolveCommitment
  simp only [Checked.bind_eq_ok, Checked.require_eq_ok, checkedOutbox_eq_ok, Checked.pure_eq_ok,
    exists_const]
  exact ⟨_, ⟨replace_valid history.valid own, rfl⟩, resolve_checks history storable shape, rfl⟩

theorem markFabricCommitmentCommitted_ok (history : DeliveryHistory db) {p : CommitConfirmation}
    {row : FabricCommitmentRow} (present : row ∈ db.outbox)
    (key : row.key = (p.tenantId, p.eventId)) (confirming : row.status = .confirming)
    (held : row.claimToken = some p.claimToken)
    (has : row.transactionId = some p.verdict.transactionId)
    (success : p.verdict.validationCode = 0) (storable : p.verdict.Storable)
    (now : p.confirmedAt = clock) (created : row.createdAt ≤ clock) :
    ∃ attempts, markFabricCommitmentCommitted clock p db =
      .ok ⟨db.outbox.replace (p.verdict.committed clock p.confirmedAt row), attempts⟩ := by
  have allowed : p.verdict.validationCode = 0 ∧ 0 ≤ p.verdict.blockNumber ∧
      p.confirmedAt ≤ clock + seconds 2 := by
    refine ⟨success, storable.2.2, ?_⟩
    unfold Timestamp seconds at *
    omega
  have found := confirmingCommitment?_eq present confirming held has
  rw [key] at found
  have before : row.createdAt ≤ p.confirmedAt := by
    rw [now]
    exact created
  have own : (p.verdict.committed clock p.confirmedAt row).Valid :=
    committed_valid p.verdict (history.valid row present) confirming success storable before
  unfold markFabricCommitmentCommitted
  simp only [Checked.bind_eq_ok, Checked.require_eq_ok, Checked.requireSome_eq_ok, exists_const]
  exact ⟨_, allowed, row, found, resolveCommitment_ok history own storable (Or.inl ⟨rfl, success⟩)⟩

theorem markFabricCommitmentCommitFailed_ok (history : DeliveryHistory db) {p : CommitFailure}
    {row : FabricCommitmentRow} (present : row ∈ db.outbox)
    (key : row.key = (p.tenantId, p.eventId)) (confirming : row.status = .confirming)
    (held : row.claimToken = some p.claimToken)
    (has : row.transactionId = some p.verdict.transactionId)
    (failure : 0 < p.verdict.validationCode) (storable : p.verdict.Storable)
    (delayed : 1 ≤ p.retryDelaySeconds ∧ p.retryDelaySeconds ≤ 600)
    (now : p.failedAt = clock) (created : row.createdAt ≤ clock) :
    ∃ attempts, markFabricCommitmentCommitFailed clock p db =
      .ok ⟨db.outbox.replace (p.verdict.commitFailed clock p.failedAt p.retryDelaySeconds row),
        attempts⟩ := by
  have allowed : 0 < p.verdict.validationCode ∧ 0 ≤ p.verdict.blockNumber ∧
      1 ≤ p.retryDelaySeconds ∧ p.retryDelaySeconds ≤ 600 ∧ p.failedAt ≤ clock + seconds 2 := by
    refine ⟨failure, storable.2.2, delayed.1, delayed.2, ?_⟩
    unfold Timestamp seconds at *
    omega
  have found := confirmingCommitment?_eq present confirming held has
  rw [key] at found
  have later : 0 ≤ p.retryDelaySeconds := by omega
  have before : row.createdAt ≤ p.failedAt := by
    rw [now]
    exact created
  have own : (p.verdict.commitFailed clock p.failedAt p.retryDelaySeconds row).Valid :=
    commitFailed_valid p.verdict (history.valid row present) confirming failure storable later
      before
  unfold markFabricCommitmentCommitFailed
  simp only [Checked.bind_eq_ok, Checked.require_eq_ok, Checked.requireSome_eq_ok, exists_const]
  exact ⟨_, allowed, row, found, resolveCommitment_ok history own storable (Or.inr ⟨rfl, failure⟩)⟩

end Calls

end TenantTrust.Audit
