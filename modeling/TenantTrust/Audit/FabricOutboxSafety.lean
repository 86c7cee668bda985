import TenantTrust.Audit.FabricOutboxInvariant

/-! Committed rows are final, foreign tokens change nothing, and no update breaks the shape. -/

namespace TenantTrust.Audit

open Library Identity

section Effects

variable {op : OutboxOp} {before after : CommitmentDatabase}

theorem DeliveryMove.of_committed {row next : FabricCommitmentRow} (move : DeliveryMove row next)
    (committed : row.status = .committed) : next = row := by
  cases move with
  | kept => rfl
  | carried flight after transaction code count =>
      rcases flight with flight | flight <;> cases flight.symm.trans committed
  | released submitting after transaction count => cases submitting.symm.trans committed
  | reopened open_ after transaction code count =>
      rcases open_ with open_ | open_ | open_ <;> cases open_.symm.trans committed

theorem DeliveryMove.to_committed {row next : FabricCommitmentRow} (move : DeliveryMove row next)
    (committed : next.status = .committed) : next = row := by
  cases move with
  | kept => rfl
  | carried flight after transaction code count =>
      rcases after with after | after <;> cases after.symm.trans committed
  | released submitting after transaction count => cases after.symm.trans committed
  | reopened open_ after transaction code count => cases after.symm.trans committed

/-- A row that is rewritten alone leaves the rows of another status where they are. -/
theorem mem_replace_of_status {outbox : FabricOutboxTable} {row next other : FabricCommitmentRow}
    (present : row ∈ outbox) (key : row.key = next.key) (member : other ∈ outbox)
    (different : other.status ≠ row.status) : other ∈ outbox.replace next := by
  refine (Table.mem_replace outbox next present key other).mpr (Or.inr ⟨member, ?_⟩)
  intro same
  have equal : other = row := outbox.unique member present (same.trans key.symm)
  exact different (by rw [equal])

/-- A committed row is never rewritten. -/
theorem OutboxEffect.committed_persists (effect : OutboxEffect op before after)
    {row : FabricCommitmentRow} (member : row ∈ before.outbox)
    (committed : row.status = .committed) : row ∈ after.outbox := by
  cases effect with
  | unchanged same =>
      rw [same]
      exact member
  | enqueued p inserted attempts valid =>
      exact (Table.mem_insertNew inserted row).mpr (Or.inl member)
  | moved f outbox attempts moves valid =>
      have same := (moves row member).delivery.of_committed committed
      rw [Table.mem_def, outbox, ← same]
      exact List.mem_map_of_mem member
  | recorded p clock locked called held present submitting key outbox unused inserted
      valid checked =>
      rw [outbox]
      refine mem_replace_of_status present rfl member ?_
      rw [committed, submitting]
      decide
  | committed p clock locked called held present confirming key transaction code outbox attempts
      valid checked =>
      rw [outbox]
      refine mem_replace_of_status present rfl member ?_
      rw [committed, confirming]
      decide
  | commitFailed p clock locked called held present confirming transaction outbox attempts valid
        checked =>
      rw [outbox]
      refine mem_replace_of_status present rfl member ?_
      rw [committed, confirming]
      decide

/-- The call that commits a row, and what it finds. -/
structure CommitsBy (op : OutboxOp) (before : CommitmentDatabase)
    (held row : FabricCommitmentRow) (p : CommitConfirmation) : Prop where
  called : ∃ clock locked, op = .call clock locked (.markCommitted p)
  present : held ∈ before.outbox
  key : held.key = (p.tenantId, p.eventId)
  same : row.key = held.key
  success : p.verdict.validationCode = 0
  current : ∃ attempt ∈ before.attempts, attempt.key = (held.key, held.attemptCount) ∧
    attempt.transactionId = p.verdict.transactionId ∧ attempt.state = .submitted
  transaction : row.transactionId = some p.verdict.transactionId

theorem OutboxEffect.becomes_committed (history : DeliveryHistory before)
    (effect : OutboxEffect op before after) {row : FabricCommitmentRow}
    (member : row ∈ after.outbox)
    (committed : row.status = .committed) (isNew : row ∉ before.outbox) :
    ∃ p held, CommitsBy op before held row p := by
  cases effect with
  | unchanged same =>
      rw [same] at member
      exact absurd member isNew
  | enqueued p inserted attempts valid =>
      rcases (Table.mem_insertNew inserted row).mp member with old | rfl
      · exact absurd old isNew
      · cases committed
  | moved f outbox attempts moves valid =>
      rw [Table.mem_def, outbox] at member
      rcases List.mem_map.mp member with ⟨old, present, rfl⟩
      have same := (moves old present).delivery.to_committed committed
      rw [same] at isNew
      exact absurd present isNew
  | recorded p clock locked called held present submitting key outbox unused inserted
      valid checked =>
      rw [outbox] at member
      rcases (Table.mem_replace before.outbox (p.recorded clock held) present rfl row).mp member
        with rfl | ⟨old, _⟩
      · cases committed
      · exact absurd old isNew
  | committed p clock locked called held present confirming key transaction code outbox attempts
      valid checked =>
      rw [outbox] at member
      rcases (Table.mem_replace before.outbox (p.verdict.committed clock p.confirmedAt held) present
        rfl row).mp member with rfl | ⟨old, _⟩
      · rcases history.recorded held present p.verdict.transactionId transaction with
          ⟨attempt, found, own, same⟩
        refine ⟨p, held, ⟨clock, locked, called⟩, present, key, rfl, code,
          ⟨attempt, found, own, same, ?_⟩, transaction⟩
        rcases history.owned attempt found with ⟨owner, ownerPresent, ownerKey, belongs⟩
        have rowKey : attempt.rowKey = held.key := congrArg Prod.fst own
        rw [before.outbox.unique ownerPresent present (ownerKey.trans rowKey)] at belongs
        have number : attempt.attemptNumber = held.attemptCount := congrArg Prod.snd own
        rcases belongs with earlier | ⟨_, _, reflects⟩
        · omega
        · exact reflects.submitted (Or.inl confirming)
      · exact absurd old isNew
  | commitFailed p clock locked called held present confirming transaction outbox attempts valid
        checked =>
      rw [outbox] at member
      rcases (Table.mem_replace before.outbox
        (p.verdict.commitFailed clock p.failedAt p.retryDelaySeconds held) present rfl row).mp
          member with rfl | ⟨old, _⟩
      · cases committed
      · exact absurd old isNew

/-- An attempt row keeps its number and its transaction. -/
theorem OutboxEffect.attempt_persists (effect : OutboxEffect op before after)
    {attempt : FabricCommitmentAttempt} (member : attempt ∈ before.attempts) :
    ∃ later ∈ after.attempts, later.key = attempt.key ∧
      later.transactionId = attempt.transactionId := by
  have resolved : ∀ (verdict : CommitVerdict) key state resolvedAt,
      after.attempts.rows = before.attempts.rows.map (verdict.resolve key state resolvedAt) →
      ∃ later ∈ after.attempts, later.key = attempt.key ∧
        later.transactionId = attempt.transactionId := by
    intro verdict key state resolvedAt rows
    refine ⟨verdict.resolve key state resolvedAt attempt, ?_, verdict.resolve_key _ _ _ _, ?_⟩
    · rw [Table.mem_def, rows]
      exact List.mem_map_of_mem member
    · unfold CommitVerdict.resolve
      split <;> rfl
  cases effect with
  | unchanged same =>
      rw [same]
      exact ⟨attempt, member, rfl, rfl⟩
  | enqueued p inserted attempts valid =>
      rw [attempts]
      exact ⟨attempt, member, rfl, rfl⟩
  | moved f outbox attempts moves valid =>
      rw [attempts]
      exact ⟨attempt, member, rfl, rfl⟩
  | recorded p clock locked called row present submitting key outbox unused inserted
      valid checked =>
      exact ⟨attempt, (Table.mem_insertNew inserted attempt).mpr (Or.inl member), rfl, rfl⟩
  | committed p clock locked called row present confirming key transaction code outbox attempts
      valid checked => exact resolved _ _ _ _ attempts
  | commitFailed p clock locked called row present confirming transaction outbox attempts valid
        checked =>
      exact resolved _ _ _ _ attempts

end Effects

section Tokens

variable {clock : Timestamp} {locked : List OutboxKey} {call : OutboxCall}
  {db next : CommitmentDatabase} {reply : OutboxReply}

/-- A report that succeeds names the row and the token that the row is claimed with. -/
theorem applyCall_held {key : OutboxKey} {claimToken : AuditClaimToken}
    (holder : call.holder? = some (key, claimToken))
    (succeeds : applyCall clock locked call db = .ok (next, reply)) :
    ∃ row ∈ db.outbox, row.key = key ∧ row.claimToken = some claimToken := by
  cases call with
  | claimSubmission p => cases holder
  | claimConfirmation p => cases holder
  | recordSubmission p =>
      cases holder
      simp only [applyCall, recordFabricCommitmentSubmission, Checked.bind_eq_ok,
        Checked.require_eq_ok, Checked.requireSome_eq_ok, exists_const,
        Option.filter_eq_some_iff] at succeeds
      rcases succeeds with ⟨_, ⟨_, row, ⟨held, _⟩, _⟩, _⟩
      have spec := heldCommitment?_spec held
      exact ⟨row, spec.1, spec.2.1, spec.2.2.2⟩
  | markCommitted p =>
      cases holder
      simp only [applyCall, markFabricCommitmentCommitted, Checked.bind_eq_ok,
        Checked.require_eq_ok, Checked.requireSome_eq_ok, exists_const] at succeeds
      rcases succeeds with ⟨_, ⟨_, row, held, _⟩, _⟩
      have spec := confirmingCommitment?_spec held
      exact ⟨row, spec.1, spec.2.1, spec.2.2.2.1⟩
  | markCommitFailed p =>
      cases holder
      simp only [applyCall, markFabricCommitmentCommitFailed, Checked.bind_eq_ok,
        Checked.require_eq_ok, Checked.requireSome_eq_ok, exists_const] at succeeds
      rcases succeeds with ⟨_, ⟨_, row, held, _⟩, _⟩
      have spec := confirmingCommitment?_spec held
      exact ⟨row, spec.1, spec.2.1, spec.2.2.2.1⟩
  | markConfirmationPending p transactionId =>
      cases holder
      simp only [applyCall, markFabricCommitmentConfirmationPending, Checked.bind_eq_ok,
        Checked.require_eq_ok, Checked.requireSome_eq_ok, exists_const] at succeeds
      rcases succeeds with ⟨_, ⟨_, row, held, _⟩, _⟩
      have spec := confirmingCommitment?_spec held
      exact ⟨row, spec.1, spec.2.1, spec.2.2.2.1⟩
  | markFailed p =>
      cases holder
      simp only [applyCall, markFabricCommitmentFailed, Checked.bind_eq_ok,
        Checked.require_eq_ok, Checked.requireSome_eq_ok, exists_const] at succeeds
      rcases succeeds with ⟨_, ⟨_, row, held, _⟩, _⟩
      have spec := heldCommitment?_spec held
      exact ⟨row, spec.1, spec.2.1, spec.2.2.2⟩

theorem unheld_changes_nothing {key : OutboxKey} {claimToken : AuditClaimToken}
    (holder : call.holder? = some (key, claimToken))
    (unheld : ∀ row ∈ db.outbox, row.key = key → row.claimToken ≠ some claimToken) :
    Transaction.commit applyOutbox db (.call clock locked call) = db := by
  rcases Transaction.commit_cases applyOutbox db (.call clock locked call) with
    aborted | ⟨reply, succeeds⟩
  · exact aborted
  · rcases applyCall_held holder succeeds with ⟨row, member, same, held⟩
    exact absurd held (unheld row member same)

end Tokens

section Shape

/-- An abort that the state-shape constraint has caused. -/
def BreaksShape (failure : SqlError) : Prop := failure = STATE_SHAPE

variable {clock : Timestamp} {locked : List OutboxKey} {db : CommitmentDatabase}

theorem checkedOutbox_avoids {outbox : FabricOutboxTable}
    (shaped : ∀ row ∈ outbox, row.stateShape = true) :
    Checked.Avoids BreaksShape (checkedOutbox outbox) := by
  unfold checkedOutbox
  refine Checked.avoids_bind (Checked.avoids_require (by simp [BreaksShape, STATE_SHAPE])) ?_
  intro _ _
  refine Checked.avoids_bind (Checked.avoids_require_of shaped) ?_
  intro _ _
  refine Checked.avoids_bind (Checked.avoids_require
    (by simp [BreaksShape, STATE_SHAPE, TIME_ORDER])) ?_
  intro _ _
  exact Checked.avoids_ok outbox

theorem replace_shaped {outbox : FabricOutboxTable} {next : FabricCommitmentRow}
    (shaped : ∀ row ∈ outbox, row.stateShape = true) (own : next.stateShape = true) :
    ∀ row ∈ outbox.replace next, row.stateShape = true := by
  intro row member
  rw [Table.replace, Table.mem_update] at member
  rcases member with ⟨old, present, rfl⟩
  split
  · exact own
  · exact shaped old present

theorem DeliveryHistory.shaped (history : DeliveryHistory db) :
    ∀ row ∈ db.outbox, row.stateShape = true :=
  fun row member => (history.valid row member).shape

theorem recoverSubmission_shaped (p : CommitmentClaimCall) {row : FabricCommitmentRow}
    (shaped : row.stateShape = true)
    (unresolved : row.status = .submitting → row.validationCode = none) :
    (p.recoverSubmission clock row).stateShape = true := by
  unfold CommitmentClaimCall.recoverSubmission
  split
  · rename_i stale
    simp only [CommitmentClaimCall.isStale, Bool.and_eq_true, decide_eq_true_eq] at stale
    have code := unresolved stale.1
    simp only [FabricCommitmentRow.stateShape, stale.1, Bool.and_eq_true,
      Option.isNone_iff_eq_none] at shaped
    simp [FabricCommitmentRow.stateShape, shaped.1.2, shaped.2, code]
  · exact shaped

theorem recoverConfirmation_shaped (p : CommitmentClaimCall) {row : FabricCommitmentRow}
    (shaped : row.stateShape = true)
    (unresolved : row.status = .confirming → row.validationCode = none) :
    (p.recoverConfirmation clock row).stateShape = true := by
  unfold CommitmentClaimCall.recoverConfirmation
  split
  · rename_i stale
    simp only [CommitmentClaimCall.isStale, Bool.and_eq_true, decide_eq_true_eq] at stale
    have code := unresolved stale.1
    simp only [FabricCommitmentRow.stateShape, stale.1, Bool.and_eq_true] at shaped
    simp [FabricCommitmentRow.stateShape, shaped.1.2, shaped.2, code]
  · exact shaped

theorem FabricCommitmentRow.confirming_shape {row : FabricCommitmentRow}
    (shaped : row.stateShape = true) (confirming : row.status = .confirming) :
    row.transactionId.isSome = true ∧ row.submissionStatus.isSome = true := by
  simp only [FabricCommitmentRow.stateShape, confirming, Bool.and_eq_true] at shaped
  exact ⟨shaped.1.2, shaped.2⟩

theorem claimFabricCommitment_avoids (history : DeliveryHistory db) (p : CommitmentClaimCall) :
    Checked.Avoids BreaksShape (claimFabricCommitment clock locked p db) := by
  have recovered : ∀ row ∈ db.outbox.update (p.recoverSubmission clock)
      (p.recoverSubmission_key clock), row.stateShape = true := by
    intro row member
    rcases (Table.mem_update _ _ (p.recoverSubmission_key clock) row).mp member with
      ⟨old, present, rfl⟩
    exact recoverSubmission_shaped p (history.shaped old present)
      fun submitting => history.unresolved old present (Or.inl submitting)
  unfold claimFabricCommitment
  refine Checked.avoids_bind (Checked.avoids_require (by simp [BreaksShape, STATE_SHAPE])) ?_
  intro _ _
  refine Checked.avoids_bind (checkedOutbox_avoids recovered) ?_
  intro outbox checked
  rcases checkedOutbox_eq_ok.mp checked with ⟨_, rfl⟩
  split
  · exact Checked.avoids_ok _
  · refine Checked.avoids_bind (checkedOutbox_avoids (replace_shaped recovered rfl)) ?_
    intro _ _
    exact Checked.avoids_ok _

theorem claimFabricCommitmentConfirmation_avoids (history : DeliveryHistory db)
    (p : CommitmentClaimCall) :
    Checked.Avoids BreaksShape (claimFabricCommitmentConfirmation clock locked p db) := by
  have recovered : ∀ row ∈ db.outbox.update (p.recoverConfirmation clock)
      (p.recoverConfirmation_key clock), row.stateShape = true := by
    intro row member
    rcases (Table.mem_update _ _ (p.recoverConfirmation_key clock) row).mp member with
      ⟨old, present, rfl⟩
    exact recoverConfirmation_shaped p (history.shaped old present)
      fun confirming => history.unresolved old present (Or.inr confirming)
  unfold claimFabricCommitmentConfirmation
  refine Checked.avoids_bind (Checked.avoids_require (by simp [BreaksShape, STATE_SHAPE])) ?_
  intro _ _
  refine Checked.avoids_bind (checkedOutbox_avoids recovered) ?_
  intro outbox checked
  rcases checkedOutbox_eq_ok.mp checked with ⟨_, rfl⟩
  split
  · exact Checked.avoids_ok _
  · rename_i row found
    have spec := nextCommitment?_spec found
    have own := recovered row spec.1
    have submitted : row.status = .submitted := by
      have due := spec.2
      simp only [CommitmentClaimCall.confirmationDue, Bool.and_eq_true, decide_eq_true_eq] at due
      exact due.1
    simp only [FabricCommitmentRow.stateShape, submitted, Bool.and_eq_true] at own
    have claimed : (p.claimConfirmation clock row).stateShape = true := by
      simp [FabricCommitmentRow.stateShape, CommitmentClaimCall.claimConfirmation, own.1.1.1.2,
        own.1.1.2]
    refine Checked.avoids_bind (checkedOutbox_avoids (replace_shaped recovered claimed)) ?_
    intro _ _
    exact Checked.avoids_ok _

theorem enqueueFabricCommitment_avoids (history : DeliveryHistory db)
    (currentTenantId : TenantId) (p : CommitmentEnqueue) :
    Checked.Avoids BreaksShape (enqueueFabricCommitment currentTenantId clock p db) := by
  unfold enqueueFabricCommitment
  refine Checked.avoids_bind (Checked.avoids_require (by simp [BreaksShape, STATE_SHAPE])) ?_
  intro _ _
  refine Checked.avoids_bind (Checked.avoids_require (by simp [BreaksShape, STATE_SHAPE])) ?_
  intro _ _
  split
  · refine Checked.avoids_bind (Checked.avoids_require (by simp [BreaksShape, STATE_SHAPE])) ?_
    intro _ _
    exact Checked.avoids_ok _
  · refine Checked.avoids_bind (Checked.avoids_require (by simp [BreaksShape, STATE_SHAPE])) ?_
    intro _ _
    refine Checked.avoids_bind (Checked.avoids_requireSome (by simp [BreaksShape, STATE_SHAPE])) ?_
    intro inserted isNew
    have rows : ∀ row ∈ inserted, row.stateShape = true := by
      intro row member
      rcases (Table.mem_insertNew (Checked.requireSome_eq_ok.mp isNew) row).mp member with old | rfl
      · exact history.shaped row old
      · rfl
    refine Checked.avoids_bind (checkedOutbox_avoids rows) ?_
    intro _ _
    exact Checked.avoids_ok _

theorem recordFabricCommitmentSubmission_avoids (history : DeliveryHistory db)
    (p : SubmissionRecord) :
    Checked.Avoids BreaksShape (recordFabricCommitmentSubmission clock p db) := by
  unfold recordFabricCommitmentSubmission
  refine Checked.avoids_bind (Checked.avoids_require (by simp [BreaksShape, STATE_SHAPE])) ?_
  intro _ _
  refine Checked.avoids_bind (Checked.avoids_requireSome (by simp [BreaksShape, STATE_SHAPE])) ?_
  intro row found
  have held := (Option.filter_eq_some_iff.mp (Checked.requireSome_eq_ok.mp found)).1
  have spec := heldCommitment?_spec held
  have own : (p.recorded clock row).stateShape = true := by
    simp [FabricCommitmentRow.stateShape, SubmissionRecord.recorded, spec.2.2.2]
  refine Checked.avoids_bind (checkedOutbox_avoids (replace_shaped history.shaped own)) ?_
  intro _ _
  refine Checked.avoids_bind (Checked.avoids_require (by simp [BreaksShape, STATE_SHAPE])) ?_
  intro _ _
  refine Checked.avoids_bind (Checked.avoids_require (by simp [BreaksShape, STATE_SHAPE])) ?_
  intro _ _
  refine Checked.avoids_bind (Checked.avoids_requireSome (by simp [BreaksShape, STATE_SHAPE])) ?_
  intro _ _
  exact Checked.avoids_ok _

theorem resolveCommitment_avoids (history : DeliveryHistory db) {key : OutboxKey}
    {verdict : CommitVerdict} {state : AttemptState} {resolvedAt : Timestamp}
    {resolved : FabricCommitmentRow} (own : resolved.stateShape = true) :
    Checked.Avoids BreaksShape (resolveCommitment key verdict state resolvedAt resolved db) := by
  unfold resolveCommitment
  refine Checked.avoids_bind (checkedOutbox_avoids (replace_shaped history.shaped own)) ?_
  intro _ _
  refine Checked.avoids_bind (Checked.avoids_require (by simp [BreaksShape, STATE_SHAPE])) ?_
  intro _ _
  exact Checked.avoids_ok _

theorem markFabricCommitmentCommitted_avoids (history : DeliveryHistory db)
    (p : CommitConfirmation) :
    Checked.Avoids BreaksShape (markFabricCommitmentCommitted clock p db) := by
  unfold markFabricCommitmentCommitted
  refine Checked.avoids_bind (Checked.avoids_require (by simp [BreaksShape, STATE_SHAPE])) ?_
  intro _ allowed
  refine Checked.avoids_bind (Checked.avoids_requireSome (by simp [BreaksShape, STATE_SHAPE])) ?_
  intro row found
  have spec := confirmingCommitment?_spec (Checked.requireSome_eq_ok.mp found)
  have shape := FabricCommitmentRow.confirming_shape (history.shaped row spec.1) spec.2.2.1
  apply resolveCommitment_avoids history
  simp [FabricCommitmentRow.stateShape, CommitVerdict.committed, shape.1, shape.2,
    (Checked.require_eq_ok.mp allowed).1]

theorem markFabricCommitmentCommitFailed_avoids (history : DeliveryHistory db)
    (p : CommitFailure) :
    Checked.Avoids BreaksShape (markFabricCommitmentCommitFailed clock p db) := by
  unfold markFabricCommitmentCommitFailed
  refine Checked.avoids_bind (Checked.avoids_require (by simp [BreaksShape, STATE_SHAPE])) ?_
  intro _ allowed
  refine Checked.avoids_bind (Checked.avoids_requireSome (by simp [BreaksShape, STATE_SHAPE])) ?_
  intro row found
  have spec := confirmingCommitment?_spec (Checked.requireSome_eq_ok.mp found)
  have shape := FabricCommitmentRow.confirming_shape (history.shaped row spec.1) spec.2.2.1
  apply resolveCommitment_avoids history
  simp [FabricCommitmentRow.stateShape, CommitVerdict.commitFailed, shape.1, shape.2,
    (Checked.require_eq_ok.mp allowed).1]

theorem markFabricCommitmentConfirmationPending_avoids (history : DeliveryHistory db)
    (p : CommitmentDelay) (transactionId : TransactionId) :
    Checked.Avoids BreaksShape
      (markFabricCommitmentConfirmationPending clock p transactionId db) := by
  unfold markFabricCommitmentConfirmationPending
  refine Checked.avoids_bind (Checked.avoids_require (by simp [BreaksShape, STATE_SHAPE])) ?_
  intro _ _
  refine Checked.avoids_bind (Checked.avoids_requireSome (by simp [BreaksShape, STATE_SHAPE])) ?_
  intro row found
  have spec := confirmingCommitment?_spec (Checked.requireSome_eq_ok.mp found)
  have shape := FabricCommitmentRow.confirming_shape (history.shaped row spec.1) spec.2.2.1
  have code := history.unresolved row spec.1 (Or.inr spec.2.2.1)
  have own : (p.confirmationPending clock row).stateShape = true := by
    simp [FabricCommitmentRow.stateShape, CommitmentDelay.confirmationPending, shape.1, shape.2,
      code]
  refine Checked.avoids_bind (checkedOutbox_avoids (replace_shaped history.shaped own)) ?_
  intro _ _
  exact Checked.avoids_ok _

theorem markFabricCommitmentFailed_avoids (history : DeliveryHistory db) (p : CommitmentDelay) :
    Checked.Avoids BreaksShape (markFabricCommitmentFailed clock p db) := by
  unfold markFabricCommitmentFailed
  refine Checked.avoids_bind (Checked.avoids_require (by simp [BreaksShape, STATE_SHAPE])) ?_
  intro _ _
  refine Checked.avoids_bind (Checked.avoids_requireSome (by simp [BreaksShape, STATE_SHAPE])) ?_
  intro row found
  have spec := heldCommitment?_spec (Checked.requireSome_eq_ok.mp found)
  have shape := history.shaped row spec.1
  have code := history.unresolved row spec.1 (Or.inl spec.2.2.1)
  simp only [FabricCommitmentRow.stateShape, spec.2.2.1, Bool.and_eq_true] at shape
  have own : (p.submissionFailed clock row).stateShape = true := by
    simp [FabricCommitmentRow.stateShape, CommitmentDelay.submissionFailed, shape.1.2, shape.2,
      code]
  refine Checked.avoids_bind (checkedOutbox_avoids (replace_shaped history.shaped own)) ?_
  intro _ _
  exact Checked.avoids_ok _

/-- No call of any procedure is refused by the state-shape constraint. -/
theorem applyOutbox_avoids (history : DeliveryHistory db) (op : OutboxOp) :
    Checked.Avoids BreaksShape (applyOutbox op db) := by
  have finish : ∀ {α : Type} {step : Except SqlError α}
      {reply : α → Except SqlError (CommitmentDatabase × OutboxReply)},
      Checked.Avoids BreaksShape step → (∀ value, ∃ result, reply value = .ok result) →
      Checked.Avoids BreaksShape (step >>= reply) := by
    intro α step reply avoids total
    refine Checked.avoids_bind avoids ?_
    intro value _
    rcases total value with ⟨result, same⟩
    rw [same]
    exact Checked.avoids_ok result
  cases op with
  | enqueue currentTenantId clock p =>
      exact finish (enqueueFabricCommitment_avoids history currentTenantId p) fun _ => ⟨_, rfl⟩
  | call clock locked call =>
      cases call with
      | claimSubmission p => exact finish (claimFabricCommitment_avoids history p) fun _ => ⟨_, rfl⟩
      | claimConfirmation p =>
          exact finish (claimFabricCommitmentConfirmation_avoids history p) fun _ => ⟨_, rfl⟩
      | recordSubmission p =>
          exact finish (recordFabricCommitmentSubmission_avoids history p) fun _ => ⟨_, rfl⟩
      | markCommitted p =>
          exact finish (markFabricCommitmentCommitted_avoids history p) fun _ => ⟨_, rfl⟩
      | markCommitFailed p =>
          exact finish (markFabricCommitmentCommitFailed_avoids history p) fun _ => ⟨_, rfl⟩
      | markConfirmationPending p transactionId =>
          exact finish (markFabricCommitmentConfirmationPending_avoids history p transactionId)
            fun _ => ⟨_, rfl⟩
      | markFailed p => exact finish (markFabricCommitmentFailed_avoids history p) fun _ => ⟨_, rfl⟩

end Shape

end TenantTrust.Audit
