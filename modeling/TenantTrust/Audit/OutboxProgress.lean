import TenantTrust.Audit.OutboxTurns

/-! Which commitments the outbox can still deliver, and which ones it can never deliver. -/

namespace TenantTrust.Audit

open Library Identity

/-- How a transaction ends in a block. -/
structure CommitOutcome where
  validationCode : Fin 256
  blockNumber : Nat
  deriving DecidableEq, Repr

/-- A network that takes every submission, and reports of a transaction how it ended. The status
of a transaction that gets into no block is never reported. -/
def settling (fate : TransactionId → Option CommitOutcome) : Fabric Unit where
  proceeds _ _ := False
  submits _ _ value _ submission := submission.ledgerKey = value.key
  reports _ _ transactionId status := ∃ outcome, fate transactionId = some outcome ∧
    status.transactionId = transactionId ∧
    status.validationCode = (outcome.validationCode.val : Int) ∧
    status.blockNumber = (outcome.blockNumber : Int)

/-- The transaction of the row gets into no block. -/
def FabricCommitmentRow.Lost (fate : TransactionId → Option CommitOutcome)
    (row : FabricCommitmentRow) : Prop :=
  row.InFlight ∧ ∃ transactionId, row.transactionId = some transactionId ∧
    fate transactionId = none

/-- The row of the event is committed. -/
def OutboxSystem.HasCommitted {Ledger : Type} (s : OutboxSystem Ledger) (key : OutboxKey) : Prop :=
  ∃ row ∈ s.db.outbox, row.key = key ∧ row.status = .committed

/-- No attempt has the transaction. -/
def CommitmentDatabase.Unused (db : CommitmentDatabase) (transactionId : TransactionId) : Prop :=
  ∀ attempt ∈ db.attempts, attempt.transactionId ≠ transactionId

section Later

variable {Ledger : Type} {fabric : Fabric Ledger} {s t : OutboxSystem Ledger}
  {row : FabricCommitmentRow}

/-- From some time on, a row that is not committed can be claimed. -/
theorem claimable_later (valid : row.Valid) (claimed : row.Claimed)
    (different : row.status ≠ .committed) :
    ∃ from_, ∀ at_, from_ ≤ at_ → row.isClaimable at_ = true := by
  have open_ : row.status = .pending ∨ row.status = .failed →
      ∃ from_, ∀ at_, from_ ≤ at_ → row.isClaimable at_ = true := by
    intro status
    refine ⟨row.nextAttemptAt, fun at_ later => ?_⟩
    rcases status with status | status <;> simp [FabricCommitmentRow.isClaimable, status, later]
  have held : row.status = .submitting ∨ row.status = .confirming →
      ∃ from_, ∀ at_, from_ ≤ at_ → row.isClaimable at_ = true := by
    intro status
    rcases Option.isSome_iff_exists.mp (claimed status) with ⟨claimedAt, has⟩
    refine ⟨claimedAt + minutes 5 + 1, fun at_ later => ?_⟩
    have stale : claimedAt < at_ - minutes 5 := by
      unfold Timestamp at *
      omega
    rcases status with status | status <;>
      simp [FabricCommitmentRow.isClaimable, status, has, stale]
  cases status : row.status with
  | pending => exact open_ (Or.inl status)
  | failed => exact open_ (Or.inr status)
  | submitting => exact held (Or.inl status)
  | confirming => exact held (Or.inr status)
  | committed => exact absurd status different
  | submitted =>
      have shape := valid.shape
      simp only [FabricCommitmentRow.stateShape, status, Bool.and_eq_true] at shape
      rcases Option.isSome_iff_exists.mp shape.1.2 with ⟨nextConfirmationAt, has⟩
      exact ⟨nextConfirmationAt, fun at_ later => by
        simp [FabricCommitmentRow.isClaimable, status, has, later]⟩

/-- When the clock has advanced enough, the turns can begin. -/
theorem waits_later (fabric : Fabric Ledger) (sound : s.Sound) (spare : s.Spare)
    (present : row ∈ s.db.outbox) {carried : Option TransactionId}
    (carrying : row.Carrying carried) :
    ∃ t, OutboxSystem.Continuation fabric s t ∧ t.db = s.db ∧ t.ledger = s.ledger ∧ t.Ready ∧
      t.Waits row.key carried row := by
  have different : row.status ≠ .committed := by
    intro committed
    cases carried with
    | none => rcases carrying with open_ | open_ | open_ <;> cases open_.symm.trans committed
    | some transactionId =>
        rcases carrying.1 with flight | flight <;> cases flight.symm.trans committed
  rcases claimable_later (sound.history.valid row present) (sound.history.claimed row present)
    different with ⟨from_, claimable⟩
  rcases Finset.exists_le (s.db.outbox.rows.map (·.createdAt)).toFinset with ⟨latest, created⟩
  let clock := max s.clock (max from_ latest)
  have later : s.clock ≤ clock := le_max_left _ _
  have tick : OutboxSystem.Continuation fabric s { s with clock := clock } :=
    Relation.ReflTransGen.single (.tick clock later)
  refine ⟨_, tick, rfl, rfl, ⟨sound.run tick.run, spare.run tick.run, ?_⟩, present, rfl, carrying,
    ?_⟩
  · intro other member
    have bound : other.createdAt ≤ latest :=
      created _ (List.mem_toFinset.mpr (List.mem_map_of_mem member))
    exact bound.trans ((le_max_right _ _).trans (le_max_right _ _))
  · exact claimable clock ((le_max_left _ _).trans (le_max_right _ _))

end Later

section Deliveries

variable {Ledger : Type} {fabric : Fabric Ledger} {s t : OutboxSystem Ledger}
  {row : FabricCommitmentRow}

/-- The status that the network reports. -/
def CommitOutcome.status (outcome : CommitOutcome) (transactionId : TransactionId) :
    CommitStatus where
  transactionId := transactionId
  validationCode := outcome.validationCode.val
  blockNumber := outcome.blockNumber
  source := .gatewayStatus

def CommitOutcome.verdict (outcome : CommitOutcome) (transactionId : TransactionId) :
    CommitVerdict where
  transactionId := transactionId
  validationCode := outcome.validationCode.val
  blockNumber := outcome.blockNumber
  confirmationSource := .gatewayStatus

theorem CommitOutcome.validated (outcome : CommitOutcome) (transactionId : TransactionId) :
    validateStatus (outcome.status transactionId) transactionId =
      some (outcome.verdict transactionId) := by
  have nonnegative : (outcome.status transactionId).transactionId = transactionId ∧
      0 ≤ (outcome.status transactionId).validationCode ∧
      0 ≤ (outcome.status transactionId).blockNumber :=
    ⟨rfl, Int.natCast_nonneg _, Int.natCast_nonneg _⟩
  rw [validateStatus, if_pos nonnegative]
  rfl

theorem CommitOutcome.storable (outcome : CommitOutcome) (transactionId : TransactionId) :
    (outcome.verdict transactionId).Storable := by
  have bound := outcome.validationCode.isLt
  refine ⟨Int.natCast_nonneg _, ?_, Int.natCast_nonneg _⟩
  show (outcome.validationCode.val : Int) ≤ 255
  omega

theorem delayFor_bounded (attemptCount : Nat) :
    1 ≤ delayFor attemptCount ∧ delayFor attemptCount ≤ 600 := by
  have positive : (1 : Int) ≤ 2 ^ min (attemptCount - 1) 30 := Int.pow_pos (by decide)
  unfold delayFor
  omega

theorem markFabricCommitmentCommitFailed_unused {clock : Timestamp} {p : CommitFailure}
    {before after : CommitmentDatabase}
    (succeeds : markFabricCommitmentCommitFailed clock p before = .ok after)
    {transactionId : TransactionId} (unused : before.Unused transactionId) :
    after.Unused transactionId := by
  simp only [markFabricCommitmentCommitFailed, Checked.bind_eq_ok, Checked.require_eq_ok,
    Checked.requireSome_eq_ok, exists_const] at succeeds
  rcases succeeds with ⟨_, held, _, resolved⟩
  have written := (resolveCommitment_spec resolved).2.1
  intro attempt member
  rw [Table.mem_def, written] at member
  rcases List.mem_map.mp member with ⟨old, present, rfl⟩
  have same : ∀ key state resolvedAt,
      (p.verdict.resolve key state resolvedAt old).transactionId = old.transactionId := by
    intro key state resolvedAt
    unfold CommitVerdict.resolve
    split <;> rfl
  rw [same]
  exact unused old present

/-- A worker that asks about a transaction in a block commits its row or opens it again. -/
theorem settles (ready : s.Ready) {worker : Nat} {claim : ConfirmationClaim}
    {path : ConfirmationPath} (confirms : s.Confirms worker claim path row)
    {outcome : CommitOutcome} (reports : fabric.reports s.ledger claim.tenantId
      claim.transactionId (outcome.status claim.transactionId)) :
    ∃ t, OutboxSystem.Continuation fabric s t ∧
      ((outcome.validationCode = 0 ∧ t.HasCommitted row.key) ∨
        outcome.validationCode ≠ 0 ∧ ∃ next ∈ t.db.outbox, next.key = row.key ∧ next.Open ∧
          ∀ transactionId, s.db.Unused transactionId → t.db.Unused transactionId) := by
  rcases carries_report confirms.asks reports with ⟨reported, first⟩
  have phase : reported.workers worker =
      .reported claim path (outcome.verdict claim.transactionId) := by
    rw [first.phase, WorkerPhase.onStatus, outcome.validated]
  rcases exists_fresh_token reported.drawn with ⟨claimToken, fresh⟩
  have history : DeliveryHistory s.db := ready.sound.history
  have storable := outcome.storable claim.transactionId
  have calls : ∀ call attempts next, WorkerPhase.finish claim
      (outcome.verdict claim.transactionId) s.clock = call →
      applyCall s.clock [] call s.db = .ok (⟨s.db.outbox.replace next, attempts⟩, .updated) →
      next.key = row.key → ∃ t, OutboxSystem.Continuation fabric s t ∧
        t.db.attempts = attempts ∧ next ∈ t.db.outbox := by
    intro call attempts next finish succeeds key
    have sends : (reported.workers worker).next? "worker" claimToken reported.clock =
        some (call, .finishing claim path) := by
      rw [phase, first.clock, ← finish]
      rfl
    rw [← first.clock, ← first.db] at succeeds
    rcases carries_call fabric reported worker fresh sends succeeds with ⟨t, second⟩
    refine ⟨t, first.steps.trans second.steps, by rw [second.db], ?_⟩
    rw [second.db, first.db]
    exact (Table.mem_replace _ next confirms.present key.symm next).mpr (Or.inl rfl)
  by_cases success : outcome.validationCode = 0
  · have code : (outcome.verdict claim.transactionId).validationCode = 0 := by
      simp [CommitOutcome.verdict, success]
    let p : CommitConfirmation := ⟨claim.tenantId, claim.eventId, claim.claimToken,
      outcome.verdict claim.transactionId, s.clock⟩
    have succeeds : ∃ attempts, markFabricCommitmentCommitted s.clock p s.db =
        .ok ⟨s.db.outbox.replace (p.verdict.committed s.clock p.confirmedAt row), attempts⟩ :=
      markFabricCommitmentCommitted_ok history confirms.present confirms.key confirms.status
        confirms.held confirms.transaction code storable rfl (ready.created row confirms.present)
    rcases succeeds with ⟨attempts, succeeds⟩
    have called : applyCall s.clock [] (.markCommitted p) s.db = .ok
        (⟨s.db.outbox.replace (p.verdict.committed s.clock p.confirmedAt row), attempts⟩,
          .updated) := by
      simp only [applyCall, succeeds]
      rfl
    rcases calls _ attempts _ (if_pos code) called rfl with ⟨t, steps, _, member⟩
    exact ⟨t, steps, Or.inl ⟨success, _, member, rfl, rfl⟩⟩
  · have code : 0 < (outcome.verdict claim.transactionId).validationCode := by
      have different : outcome.validationCode.val ≠ 0 := fun same => success (Fin.ext same)
      show (0 : Int) < (outcome.validationCode.val : Int)
      omega
    let p : CommitFailure := ⟨claim.tenantId, claim.eventId, claim.claimToken,
      outcome.verdict claim.transactionId, s.clock, delayFor claim.attemptCount⟩
    have succeeds : ∃ attempts, markFabricCommitmentCommitFailed s.clock p s.db =
        .ok ⟨s.db.outbox.replace
          (p.verdict.commitFailed s.clock p.failedAt p.retryDelaySeconds row), attempts⟩ :=
      markFabricCommitmentCommitFailed_ok history confirms.present confirms.key confirms.status
        confirms.held confirms.transaction code storable (delayFor_bounded claim.attemptCount) rfl
        (ready.created row confirms.present)
    rcases succeeds with ⟨attempts, succeeds⟩
    have called : applyCall s.clock [] (.markCommitFailed p) s.db = .ok (⟨s.db.outbox.replace
        (p.verdict.commitFailed s.clock p.failedAt p.retryDelaySeconds row), attempts⟩,
          .updated) := by
      simp only [applyCall, succeeds]
      rfl
    rcases calls _ attempts _ (if_neg (ne_of_gt code)) called rfl with ⟨t, steps, same, member⟩
    refine ⟨t, steps, Or.inr ⟨success, _, member, rfl, Or.inr (Or.inl rfl), ?_⟩⟩
    intro transactionId unused
    rw [CommitmentDatabase.Unused, same]
    exact markFabricCommitmentCommitFailed_unused succeeds unused

theorem OutboxSystem.Submits.ledgerKey (ready : s.Ready) {worker : Nat} {claim : SubmissionClaim}
    (submits : s.Submits worker claim row) :
    claim.commitment.ledgerKey = claim.commitment.ledgerValue.key := by
  have checked := ((columnChecks_iff row).mp
    (ready.sound.history.valid row submits.present).columns).1
  rw [submits.commitment] at checked
  simp only [FabricCommitment.checks, Bool.and_eq_true, decide_eq_true_eq] at checked
  exact checked.2.trans (congrArg AuditLedgerValue.key checked.1.2).symm

/-- A worker that is about to submit a row submits it and holds the row with its transaction. -/
theorem records (ready : s.Ready) {worker : Nat} {claim : SubmissionClaim}
    (submits : s.Submits worker claim row) {ledger : Ledger} {submission : Submission}
    (accepts : fabric.submits s.ledger claim.commitment.tenantId claim.commitment.ledgerValue
      ledger submission) (answers : submission.ledgerKey = claim.commitment.ledgerKey)
    (unused : s.db.Unused submission.transactionId) :
    ∃ t next, OutboxSystem.Continuation fabric s t ∧ t.ledger = ledger ∧ t.Ready ∧
      next.key = row.key ∧
      t.Confirms worker (claim.active submission.transactionId) .direct next := by
  rcases carries_submit submits.holds accepts with ⟨accepted, first⟩
  have phase : accepted.workers worker = .submitted claim submission :=
    first.phase.trans (if_pos answers)
  rcases exists_fresh_token accepted.drawn with ⟨claimToken, fresh⟩
  let p : SubmissionRecord := ⟨claim.commitment.tenantId, claim.commitment.eventId,
    claim.claimToken, claim.commitment.ledgerKey, submission.status, submission.transactionId,
    s.clock⟩
  have key : row.key = (p.tenantId, p.eventId) := congrArg FabricCommitment.key submits.commitment
  have succeeds : ∃ attempts, recordFabricCommitmentSubmission s.clock p s.db =
      .ok ⟨s.db.outbox.replace (p.recorded s.clock row), attempts⟩ :=
    recordFabricCommitmentSubmission_ok ready.sound.history submits.present key submits.status
      submits.held (congrArg (·.ledgerKey) submits.commitment) submits.attempted rfl
      (ready.created row submits.present) unused
  rcases succeeds with ⟨attempts, succeeds⟩
  have called : applyCall accepted.clock [] (.recordSubmission p) accepted.db =
      .ok (⟨s.db.outbox.replace (p.recorded s.clock row), attempts⟩, .updated) := by
    rw [first.clock, first.db]
    simp only [applyCall, succeeds]
    rfl
  have sends : (accepted.workers worker).next? "worker" claimToken accepted.clock =
      some (.recordSubmission p, .recording claim submission.transactionId) := by
    rw [phase, first.clock]
    rfl
  rcases carries_call fabric accepted worker fresh sends called with ⟨recorded, second⟩
  have steps : OutboxSystem.Continuation fabric s recorded := first.steps.trans second.steps
  have clock : recorded.clock = s.clock := second.clock.trans first.clock
  have created : recorded.db.CreatedBy recorded.clock := by
    rw [second.db, clock]
    exact created_replace ready.created (ready.created row submits.present)
  have inserted : p.recorded s.clock row ∈ recorded.db.outbox := by
    rw [second.db]
    exact (Table.mem_replace _ (p.recorded s.clock row) submits.present rfl _).mpr (Or.inl rfl)
  have asks : (recorded.workers worker).asks? =
      some (claim.active submission.transactionId, .direct) := by
    rw [second.phase]
    rfl
  exact ⟨recorded, p.recorded s.clock row, steps, second.ledger.trans first.ledger,
    ⟨ready.sound.run steps.run, ready.spare.run steps.run, created⟩, rfl,
    ⟨asks, inserted, key, rfl, submits.held, rfl⟩⟩

end Deliveries

section Settled

variable {fate : TransactionId → Option CommitOutcome} {s t : OutboxSystem Unit}
  {row : FabricCommitmentRow}

theorem settling_reports {claim : ConfirmationClaim} {outcome : CommitOutcome}
    (settled : fate claim.transactionId = some outcome) :
    (settling fate).reports s.ledger claim.tenantId claim.transactionId
      (outcome.status claim.transactionId) := ⟨outcome, settled, rfl, rfl, rfl⟩

theorem settling_records (ready : s.Ready) {worker : Nat} {claim : SubmissionClaim}
    (submits : s.Submits worker claim row) {transactionId : TransactionId}
    (unused : s.db.Unused transactionId) :
    ∃ t next, OutboxSystem.Continuation (settling fate) s t ∧ t.Ready ∧ next.key = row.key ∧
      t.Confirms worker (claim.active transactionId) .direct next := by
  have accepts : (settling fate).submits s.ledger claim.commitment.tenantId
      claim.commitment.ledgerValue () ⟨claim.commitment.ledgerKey, .created, transactionId⟩ :=
    submits.ledgerKey ready
  rcases records ready submits accepts rfl unused with ⟨t, next, steps, _, rest⟩
  exact ⟨t, next, steps, rest⟩

/-- An open row can be committed. -/
theorem open_commits (sound : s.Sound) (spare : s.Spare) (present : row ∈ s.db.outbox)
    (open_ : row.Open) {transactionId : TransactionId} {blockNumber : Nat}
    (success : fate transactionId = some ⟨0, blockNumber⟩) (unused : s.db.Unused transactionId) :
    ∃ t, OutboxSystem.Continuation (settling fate) s t ∧ t.HasCommitted row.key := by
  have carrying : row.Carrying none := open_
  rcases waits_later (settling fate) sound spare present carrying with
    ⟨waiting, first, same, _, ready, waits⟩
  rcases row_is_taken (settling fate) _ waiting rfl ready ⟨row, waits⟩ with
    ⟨taken, onward, worker, claim, held, submits, key⟩
  have stillUnused : taken.db.Unused transactionId := by
    rw [CommitmentDatabase.Unused, onward.attempts, same]
    exact unused
  rcases settling_records onward.ready submits stillUnused with
    ⟨recorded, next, second, recordedReady, nextKey, confirms⟩
  rcases settles recordedReady confirms (settling_reports success) with
    ⟨t, last, ⟨_, committed⟩ | ⟨failed, _⟩⟩
  · rw [nextKey, key] at committed
    exact ⟨t, ((first.trans onward.steps).trans second).trans last, committed⟩
  · exact absurd rfl failed

/-- A row whose transaction has got into a block can be committed. -/
theorem settled_commits (sound : s.Sound) (spare : s.Spare) (present : row ∈ s.db.outbox)
    (flight : row.InFlight) {carried : TransactionId} (has : row.transactionId = some carried)
    {outcome : CommitOutcome} (settled : fate carried = some outcome)
    {transactionId : TransactionId} {blockNumber : Nat}
    (success : fate transactionId = some ⟨0, blockNumber⟩) (unused : s.db.Unused transactionId) :
    ∃ t, OutboxSystem.Continuation (settling fate) s t ∧ t.HasCommitted row.key := by
  have carrying : row.Carrying (some carried) := ⟨flight, has⟩
  rcases waits_later (settling fate) sound spare present carrying with
    ⟨waiting, first, same, _, ready, waits⟩
  rcases row_is_taken (settling fate) _ waiting rfl ready ⟨row, waits⟩ with
    ⟨taken, onward, worker, claim, path, held, confirms, key, rfl⟩
  have steps : OutboxSystem.Continuation (settling fate) s taken := first.trans onward.steps
  rcases settles onward.ready confirms (settling_reports settled) with
    ⟨t, second, ⟨_, committed⟩ | ⟨_, next, nextPresent, nextKey, open_, kept⟩⟩
  · rw [key] at committed
    exact ⟨t, steps.trans second, committed⟩
  · have stillUnused : t.db.Unused transactionId := by
      apply kept
      rw [CommitmentDatabase.Unused, onward.attempts, same]
      exact unused
    have all : OutboxSystem.Continuation (settling fate) s t := steps.trans second
    rcases open_commits (sound.run all.run) (spare.run all.run) nextPresent open_ success
      stillUnused with ⟨last, rest, committed⟩
    rw [nextKey, key] at committed
    exact ⟨last, all.trans rest, committed⟩

end Settled

section Lost

variable {fate : TransactionId → Option CommitOutcome} {s t : OutboxSystem Unit}

/-- Every reported transaction has got into a block. -/
def OutboxSystem.ReportsSettled (fate : TransactionId → Option CommitOutcome)
    (s : OutboxSystem Unit) : Prop :=
  ∀ report ∈ s.reports, fate report.2.transactionId ≠ none

theorem reportsSettled_step (settled : s.ReportsSettled fate)
    (step : OutboxSystem.Step (settling fate) s t) : t.ReportsSettled fate := by
  have executed : ∀ locked call others, (s.execute locked call others).1.reports = s.reports :=
    fun locked call others => (execute_others s locked call others).2.2
  cases step with
  | advance step =>
      cases step with
      | report worker claim path status asks reports =>
          intro report member
          rcases List.mem_cons.mp member with rfl | old
          · rcases reports with ⟨outcome, has, same, _⟩
            show fate status.transactionId ≠ none
            rw [same, has]
            exact Option.some_ne_none outcome
          · exact settled report old
      | answer worker call awaited front back awaits pending =>
          intro report member
          exact settled report (executed [] call (front ++ back) ▸ member)
      | _ => exact settled
  | contend worker locked call awaited front back awaits pending =>
      intro report member
      exact settled report (executed locked call (front ++ back) ▸ member)
  | deliver locked call front back pending =>
      intro report member
      exact settled report (executed locked call (front ++ back) ▸ member)
  | _ => exact settled

/-- Some row of the event is in flight with the transaction. -/
def CommitmentDatabase.Holds (db : CommitmentDatabase) (key : OutboxKey)
    (transactionId : TransactionId) : Prop :=
  ∃ row ∈ db.outbox, row.key = key ∧ row.InFlight ∧ row.transactionId = some transactionId

theorem DeliveryMove.flight {row next : FabricCommitmentRow} (move : DeliveryMove row next)
    (flight : row.InFlight) : next.InFlight ∧ next.transactionId = row.transactionId := by
  cases move with
  | kept => exact ⟨flight, rfl⟩
  | carried before after transaction code count => exact ⟨after, transaction⟩
  | released submitting after transaction count =>
      exact absurd flight (open_not_flight (Or.inr (Or.inr submitting)))
  | reopened open_ after transaction code count => exact absurd flight (open_not_flight open_)

/-- A row stays in flight, unless a verdict on its own transaction is written. -/
theorem OutboxEffect.holds {op : OutboxOp} {before after : CommitmentDatabase}
    (effect : OutboxEffect op before after) {key : OutboxKey} {transactionId : TransactionId}
    (holds : before.Holds key transactionId)
    (silent : ∀ clock locked call tenantId verdict, op = .call clock locked call →
      OutboxCall.verdict? call = some (tenantId, verdict) →
      verdict.transactionId ≠ transactionId) : after.Holds key transactionId := by
  rcases holds with ⟨row, present, key_, flight, has⟩
  have stays : ∀ {held next : FabricCommitmentRow}, held ∈ before.outbox → held.key = next.key →
      held ≠ row → row ∈ before.outbox.replace next := by
    intro held next heldPresent sameKey different
    refine (Table.mem_replace _ next heldPresent sameKey row).mpr (Or.inr ⟨present, ?_⟩)
    intro equal
    exact different (before.outbox.unique heldPresent present (sameKey.trans equal.symm))
  cases effect with
  | unchanged same =>
      rw [same]
      exact ⟨row, present, key_, flight, has⟩
  | enqueued p inserted attempts valid =>
      exact ⟨row, (Table.mem_insertNew inserted row).mpr (Or.inl present), key_, flight, has⟩
  | moved f outbox attempts moves valid =>
      have move := moves row present
      have flies := move.delivery.flight flight
      refine ⟨f row, ?_, move.key.trans key_, flies.1, flies.2.trans has⟩
      rw [Table.mem_def, outbox]
      exact List.mem_map_of_mem present
  | recorded p clock locked called held heldPresent submitting key outbox unused inserted
      valid checked =>
      have different : held ≠ row := by
        intro same
        rw [same] at submitting
        exact open_not_flight (Or.inr (Or.inr submitting)) flight
      exact ⟨row, by rw [outbox]; exact stays heldPresent rfl different, key_, flight, has⟩
  | committed p clock locked called held heldPresent confirming heldKey transaction code outbox
      attempts valid checked =>
      have different : held ≠ row := by
        intro same
        rw [same, has] at transaction
        exact silent clock locked _ _ _ called rfl (Option.some.inj transaction).symm
      exact ⟨row, by rw [outbox]; exact stays heldPresent rfl different, key_, flight, has⟩
  | commitFailed p clock locked called held heldPresent confirming transaction outbox attempts valid
      checked =>
      have different : held ≠ row := by
        intro same
        rw [same, has] at transaction
        exact silent clock locked _ _ _ called rfl (Option.some.inj transaction).symm
      exact ⟨row, by rw [outbox]; exact stays heldPresent rfl different, key_, flight, has⟩

theorem holds_step (sound : s.Sound) (settled : s.ReportsSettled fate) {key : OutboxKey}
    {transactionId : TransactionId} (lost : fate transactionId = none)
    (holds : s.db.Holds key transactionId) (step : OutboxSystem.Step (settling fate) s t) :
    t.db.Holds key transactionId := by
  rcases step_database step with same | ⟨op, same, called⟩
  · rw [same]
    exact holds
  · rw [same]
    rcases Transaction.commit_cases applyOutbox s.db op with aborted | ⟨reply, succeeds⟩
    · rw [aborted]
      exact holds
    · apply (applyOutbox_effect succeeds).holds holds
      intro clock locked call tenantId verdict isCall brings equal
      rcases sound.witnessed.calls call (called clock locked call isCall) tenantId verdict brings
        with ⟨status, known, valid⟩
      have never := settled _ known
      rw [(validateStatus_eq_some valid).1, equal] at never
      exact never lost

theorem reportsSettled_run {start : Unit → Prop}
    (reachable : OutboxSystem.Reachable (settling fate) start s) : s.ReportsSettled fate := by
  rcases reachable with ⟨clock, ledger, _, run⟩
  induction run with
  | refl =>
      intro report member
      cases member
  | tail _ step ih => exact reportsSettled_step ih step

/-- A row whose transaction gets into no block stays as it is in every run. -/
theorem lost_run (sound : s.Sound) (settled : s.ReportsSettled fate) {key : OutboxKey}
    {transactionId : TransactionId} (lost : fate transactionId = none)
    (holds : s.db.Holds key transactionId) (run : OutboxSystem.Run (settling fate) s t) :
    t.db.Holds key transactionId := by
  have both : t.Sound ∧ t.ReportsSettled fate ∧ t.db.Holds key transactionId := by
    induction run with
    | refl => exact ⟨sound, settled, holds⟩
    | tail _ step ih =>
        exact ⟨ih.1.run (Relation.ReflTransGen.single step), reportsSettled_step ih.2.1 step,
          holds_step ih.1 ih.2.1 lost ih.2.2 step⟩
  exact both.2.2

theorem holds_not_committed {key : OutboxKey} {transactionId : TransactionId}
    (holds : t.db.Holds key transactionId) : ¬ t.HasCommitted key := by
  intro committed
  rcases holds with ⟨row, present, rowKey, flight, _⟩
  rcases committed with ⟨other, member, otherKey, status⟩
  rw [t.db.outbox.unique member present (otherKey.trans rowKey.symm)] at status
  rcases flight with flight | flight <;> cases flight.symm.trans status

end Lost

section Progress

variable {fate : TransactionId → Option CommitOutcome} {s : OutboxSystem Unit}
  {row : FabricCommitmentRow}

theorem deliverable_commits {start : Unit → Prop}
    (reachable : OutboxSystem.Reachable (settling fate) start s) (present : row ∈ s.db.outbox)
    (deliverable : ¬ row.Lost fate)
    (success : ∃ transactionId blockNumber, fate transactionId = some ⟨0, blockNumber⟩ ∧
      s.db.Unused transactionId) :
    ∃ t, OutboxSystem.Continuation (settling fate) s t ∧ t.HasCommitted row.key := by
  rcases success with ⟨fresh, blockNumber, success, unused⟩
  have sound := reachable.sound
  have flies : row.InFlight → ∃ t, OutboxSystem.Continuation (settling fate) s t ∧
      t.HasCommitted row.key := by
    intro flight
    have valid := sound.history.valid row present
    have has : row.transactionId.isSome = true := by
      have shape := valid.shape
      rcases flight with status | status <;>
        simp only [FabricCommitmentRow.stateShape, status, Bool.and_eq_true] at shape
      · exact shape.1.2
      · exact shape.1.1.1.2
    rcases Option.isSome_iff_exists.mp has with ⟨carried, same⟩
    cases settled : fate carried with
    | none => exact absurd ⟨flight, carried, same, settled⟩ deliverable
    | some outcome =>
        exact settled_commits sound reachable.spare present flight same settled success unused
  cases status : row.status with
  | committed => exact ⟨s, Relation.ReflTransGen.refl, row, present, rfl, status⟩
  | confirming => exact flies (Or.inl status)
  | submitted => exact flies (Or.inr status)
  | pending => exact open_commits sound reachable.spare present (Or.inl status) success unused
  | failed =>
      exact open_commits sound reachable.spare present (Or.inr (Or.inl status)) success unused
  | submitting =>
      exact open_commits sound reachable.spare present (Or.inr (Or.inr status)) success unused

/-- A row can still become committed exactly if it does not wait for a transaction that gets into
no block: if it does, no run helps, and otherwise no disturbance is needed. -/
theorem commits_iff_not_lost {start : Unit → Prop}
    (reachable : OutboxSystem.Reachable (settling fate) start s) (present : row ∈ s.db.outbox)
    (success : ∃ transactionId blockNumber, fate transactionId = some ⟨0, blockNumber⟩ ∧
      s.db.Unused transactionId) :
    ((∃ t, OutboxSystem.Continuation (settling fate) s t ∧ t.HasCommitted row.key) ↔
        ¬ row.Lost fate) ∧
      ((∃ t, OutboxSystem.Run (settling fate) s t ∧ t.HasCommitted row.key) ↔
        ¬ row.Lost fate) := by
  have never : row.Lost fate → ∀ t, OutboxSystem.Run (settling fate) s t →
      ¬ t.HasCommitted row.key := by
    intro lost t run
    rcases lost with ⟨flight, transactionId, has, none_⟩
    have holds : s.db.Holds row.key transactionId := ⟨row, present, rfl, flight, has⟩
    exact holds_not_committed
      (lost_run reachable.sound (reportsSettled_run reachable) none_ holds run)
  have forward := fun deliverable => deliverable_commits reachable present deliverable success
  refine ⟨⟨?_, forward⟩, ⟨?_, ?_⟩⟩
  · intro reached lost
    rcases reached with ⟨t, continuation, committed⟩
    exact never lost t continuation.run committed
  · intro reached lost
    rcases reached with ⟨t, run, committed⟩
    exact never lost t run committed
  · intro deliverable
    rcases forward deliverable with ⟨t, continuation, committed⟩
    exact ⟨t, continuation.run, committed⟩

end Progress

section Stranded

/-- The first transaction gets into no block; all others commit. -/
def firstLost (transactionId : TransactionId) : Option CommitOutcome :=
  if transactionId = ⟨1⟩ then none else some ⟨0, 0⟩

theorem firstLost_success (db : CommitmentDatabase) : ∃ transactionId blockNumber,
    firstLost transactionId = some ⟨0, blockNumber⟩ ∧ db.Unused transactionId := by
  rcases Infinite.exists_notMem_finset
    (insert ⟨1⟩ (db.attempts.rows.map (·.transactionId)).toFinset) with ⟨transactionId, fresh⟩
  rw [Finset.mem_insert, not_or] at fresh
  refine ⟨transactionId, 0, if_neg fresh.1, ?_⟩
  intro attempt member same
  apply fresh.2
  rw [← same]
  exact List.mem_toFinset.mpr (List.mem_map_of_mem member)

/-- The first submission is recorded, and its transaction never gets into a block. -/
theorem exists_lost : ∃ s row, OutboxSystem.Reachable (settling firstLost) (fun _ => True) s ∧
    row ∈ s.db.outbox ∧ row.Lost firstLost := by
  have reachable : OutboxSystem.Reachable (settling firstLost) (fun _ => True)
      (enqueuedSystem ()) := enqueuedSystem_reachable _ _ () trivial
  have present : CommitmentEnqueue.row ⟨transitionCommitment, 0⟩ ∈
      (enqueuedSystem ()).db.outbox := by
    rw [Table.mem_def, enqueuedSystem_rows]
    exact List.mem_singleton_self _
  have carrying : (CommitmentEnqueue.row ⟨transitionCommitment, 0⟩).Carrying none := Or.inl rfl
  rcases waits_later (settling firstLost) reachable.sound reachable.spare present carrying with
    ⟨waiting, first, same, _, ready, waits⟩
  rcases row_is_taken (settling firstLost) _ waiting rfl ready ⟨_, waits⟩ with
    ⟨taken, onward, worker, claim, held, submits, _⟩
  have unused : taken.db.Unused ⟨1⟩ := by
    have none_ : (enqueuedSystem ()).db.attempts.rows = [] := by decide +kernel
    rw [CommitmentDatabase.Unused, onward.attempts, same]
    intro attempt member
    rw [Table.mem_def, none_] at member
    cases member
  rcases settling_records onward.ready submits unused with
    ⟨recorded, row, second, _, _, confirms⟩
  have steps : OutboxSystem.Continuation (settling firstLost) (enqueuedSystem ()) recorded :=
    (first.trans onward.steps).trans second
  rcases reachable with ⟨clock, ledger, start, run⟩
  exact ⟨recorded, row, ⟨clock, ledger, start, run.trans steps.run⟩, confirms.present,
    Or.inl confirms.status, ⟨1⟩, confirms.transaction, rfl⟩

/-- Not every row can still be committed. -/
theorem some_row_is_stranded : ¬ ∀ (fate : TransactionId → Option CommitOutcome)
    (s : OutboxSystem Unit) (row : FabricCommitmentRow),
    OutboxSystem.Reachable (settling fate) (fun _ => True) s → row ∈ s.db.outbox →
    (∃ transactionId blockNumber, fate transactionId = some ⟨0, blockNumber⟩ ∧
      s.db.Unused transactionId) →
    ∃ t, OutboxSystem.Continuation (settling fate) s t ∧ t.HasCommitted row.key := by
  intro claim
  rcases exists_lost with ⟨s, row, reachable, present, flight, transactionId, has, lost⟩
  rcases claim firstLost s row reachable present (firstLost_success s.db) with
    ⟨t, continuation, committed⟩
  have holds : s.db.Holds row.key transactionId := ⟨row, present, rfl, flight, has⟩
  exact holds_not_committed (lost_run reachable.sound (reportsSettled_run reachable) lost holds
    continuation.run) committed

theorem commits_iff_not_lost_enqueued :
    ∃ t, OutboxSystem.Continuation (settling firstLost) (enqueuedSystem ()) t ∧
      t.HasCommitted (⟨1⟩, ⟨1⟩) := by
  have reachable : OutboxSystem.Reachable (settling firstLost) (fun _ => True)
      (enqueuedSystem ()) := enqueuedSystem_reachable _ _ () trivial
  have present : CommitmentEnqueue.row ⟨transitionCommitment, 0⟩ ∈
      (enqueuedSystem ()).db.outbox := by
    rw [Table.mem_def, enqueuedSystem_rows]
    exact List.mem_singleton_self _
  have applied := commits_iff_not_lost reachable present (firstLost_success (enqueuedSystem ()).db)
  apply applied.1.mpr
  intro lost
  rcases lost.1 with flight | flight <;> cases flight

end Stranded

end TenantTrust.Audit
