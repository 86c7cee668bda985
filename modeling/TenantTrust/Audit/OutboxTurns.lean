import TenantTrust.Audit.OutboxProtocol
import TenantTrust.Audit.OutboxCalls
import Mathlib.Data.Finset.Order
import Mathlib.Data.Fintype.EquivFin

/-! The turns in which idle workers of the outbox take one row after the other. -/

namespace TenantTrust.Audit

open Library Identity

section Workers

variable {Ledger : Type} {fabric : Fabric Ledger} {s t : OutboxSystem Ledger}

/-- A step concerns one worker at most. -/
theorem step_workers (step : OutboxSystem.Step fabric s t) :
    ∃ worker, ∀ other, other ≠ worker → t.workers other = s.workers other := by
  have set : ∀ (system : OutboxSystem Ledger) (worker : Nat) (phase : WorkerPhase),
      system.workers = s.workers → ∀ other, other ≠ worker →
      (system.setWorker worker phase).workers other = s.workers other := by
    intro system worker phase same other different
    rw [← same]
    exact Function.update_of_ne different phase system.workers
  have executed : ∀ locked call others, (s.execute locked call others).1.workers = s.workers :=
    fun locked call others => (execute_others s locked call others).2.1
  cases step with
  | advance step =>
      cases step with
      | tick clock later => exact ⟨0, fun _ _ => rfl⟩
      | send worker workerId claimToken now call awaited named fresh sends =>
          exact ⟨worker, set _ worker _ rfl⟩
      | answer worker call awaited front back awaits pending =>
          exact ⟨worker, set _ worker _ (executed [] call (front ++ back))⟩
      | submit worker claim ledger submission holds submits => exact ⟨worker, set _ worker _ rfl⟩
      | report worker claim path status asks reports => exact ⟨worker, set _ worker _ rfl⟩
  | contend worker locked call awaited front back awaits pending =>
      exact ⟨worker, set _ worker _ (executed locked call (front ++ back))⟩
  | proceed ledger moves => exact ⟨0, fun _ _ => rfl⟩
  | enqueue currentTenantId p => exact ⟨0, fun _ _ => rfl⟩
  | deliver locked call front back pending =>
      exact ⟨0, fun other _ => congrFun (executed locked call (front ++ back)) other⟩
  | lose worker call awaited reasonCode awaits => exact ⟨worker, set _ worker _ rfl⟩
  | unavailable worker claim path reasonCode asks => exact ⟨worker, set _ worker _ rfl⟩
  | submitUnheard worker claim ledger submission reasonCode holds submits =>
      exact ⟨worker, set _ worker _ rfl⟩
  | refuse worker claim reasonCode holds => exact ⟨worker, set _ worker _ rfl⟩
  | crash worker => exact ⟨worker, set _ worker _ rfl⟩

/-- From some number on, every worker is idle. -/
def OutboxSystem.Spare (s : OutboxSystem Ledger) : Prop :=
  ∃ bound, ∀ worker, bound ≤ worker → s.workers worker = .idle

theorem OutboxSystem.Spare.run (spare : s.Spare) (run : OutboxSystem.Run fabric s t) : t.Spare := by
  induction run with
  | refl => exact spare
  | tail _ step ih =>
      rcases ih with ⟨bound, idle⟩
      rcases step_workers step with ⟨worker, others⟩
      refine ⟨max bound (worker + 1), ?_⟩
      intro other above
      rw [others other (by omega)]
      exact idle other (by omega)

theorem OutboxSystem.Reachable.spare {start : Ledger → Prop}
    (reachable : OutboxSystem.Reachable fabric start s) : s.Spare := by
  rcases reachable with ⟨clock, ledger, _, run⟩
  have first : (OutboxSystem.initial clock ledger).Spare := ⟨0, fun _ _ => rfl⟩
  exact first.run run

instance (domain : Domain) : Infinite (Identifier domain) :=
  Infinite.of_injective Identifier.mk fun _ _ same => congrArg Identifier.value same

/-- There is always a token that nobody has drawn. -/
theorem exists_fresh_token (drawn : List AuditClaimToken) : ∃ claimToken, claimToken ∉ drawn := by
  rcases Infinite.exists_notMem_finset drawn.toFinset with ⟨claimToken, fresh⟩
  exact ⟨claimToken, fun member => fresh (List.mem_toFinset.mpr member)⟩

/-- What a worker has reached in a continuation. -/
structure Carries (fabric : Fabric Ledger) (s : OutboxSystem Ledger) (worker : Nat)
    (phase : WorkerPhase) (db : CommitmentDatabase) (ledger : Ledger) (t : OutboxSystem Ledger) :
    Prop where
  steps : OutboxSystem.Continuation fabric s t
  clock : t.clock = s.clock
  db : t.db = db
  ledger : t.ledger = ledger
  phase : t.workers worker = phase

theorem execute_ok {locked : List OutboxKey} {call : OutboxCall} {db : CommitmentDatabase}
    {reply : OutboxReply} (succeeds : applyCall s.clock locked call s.db = .ok (db, reply))
    (others : List OutboxCall) : s.execute locked call others =
      ({ s with
          db := db
          inFlight := others
          leases := s.leases ++ reply.lease?.toList }, .ok reply) := by
  unfold OutboxSystem.execute
  rw [succeeds]

/-- A worker sends its next call and is answered. -/
theorem carries_call (fabric : Fabric Ledger) (s : OutboxSystem Ledger) (worker : Nat)
    {claimToken : AuditClaimToken} {call : OutboxCall} {awaited : Awaited}
    {db : CommitmentDatabase} {reply : OutboxReply} (fresh : claimToken ∉ s.drawn)
    (sends : (s.workers worker).next? "worker" claimToken s.clock = some (call, awaited))
    (succeeds : applyCall s.clock [] call s.db = .ok (db, reply)) :
    ∃ t, Carries fabric s worker (WorkerPhase.resume awaited (.ok reply)) db s.ledger t := by
  have named : isWorkerId "worker" = true := by decide
  let sent : OutboxSystem Ledger := { s with
    inFlight := s.inFlight ++ [call]
    drawn := claimToken :: s.drawn }.setWorker worker (.awaiting call awaited)
  have first : OutboxSystem.Advance fabric s sent :=
    .send worker "worker" claimToken s.clock call awaited named fresh sends
  have awaits : sent.workers worker = .awaiting call awaited := Function.update_self _ _ _
  have second : OutboxSystem.Advance fabric sent _ :=
    .answer worker call awaited s.inFlight [] awaits rfl
  have succeeds : applyCall sent.clock [] call sent.db = .ok (db, reply) := succeeds
  rw [execute_ok succeeds] at second
  exact ⟨_, Relation.ReflTransGen.tail (Relation.ReflTransGen.single first) second, rfl, rfl,
    rfl, Function.update_self _ _ _⟩

/-- The answer of the network to a worker that asks for a status. -/
theorem carries_report {worker : Nat} {claim : ConfirmationClaim} {path : ConfirmationPath}
    {status : CommitStatus} (asks : (s.workers worker).asks? = some (claim, path))
    (reports : fabric.reports s.ledger claim.tenantId claim.transactionId status) :
    ∃ t, Carries fabric s worker (WorkerPhase.onStatus claim path status) s.db s.ledger t := by
  have reported := OutboxSystem.Advance.report worker claim path status asks reports
  exact ⟨_, Relation.ReflTransGen.single reported, rfl, rfl, rfl, Function.update_self _ _ _⟩

/-- The answer of the network to a worker that submits. -/
theorem carries_submit {worker : Nat} {claim : SubmissionClaim} {ledger : Ledger}
    {submission : Submission} (holds : s.workers worker = .submitting claim)
    (submits : fabric.submits s.ledger claim.commitment.tenantId claim.commitment.ledgerValue
      ledger submission) :
    ∃ t, Carries fabric s worker (WorkerPhase.onSubmission claim submission) s.db ledger t := by
  have submitted := OutboxSystem.Advance.submit worker claim ledger submission holds submits
  exact ⟨_, Relation.ReflTransGen.single submitted, rfl, rfl, rfl, Function.update_self _ _ _⟩

end Workers

section Claims

/-- The row waits for a submission, or its submission has not been recorded. -/
def FabricCommitmentRow.Open (row : FabricCommitmentRow) : Prop :=
  row.status = .pending ∨ row.status = .failed ∨ row.status = .submitting

/-- The row has the given transaction in flight, or none. -/
def FabricCommitmentRow.Carrying (row : FabricCommitmentRow) : Option TransactionId → Prop
  | some transactionId => row.InFlight ∧ row.transactionId = some transactionId
  | none => row.Open

/-- A worker that claims at the given time can take the row. -/
def FabricCommitmentRow.isClaimable (at_ : Timestamp) (row : FabricCommitmentRow) : Bool :=
  match row.status with
  | .pending | .failed => row.nextAttemptAt ≤ at_
  | .submitted => row.nextConfirmationAt.any (· ≤ at_)
  | .submitting | .confirming => row.claimedAt.any (· < at_ - minutes 5)
  | .committed => false

variable {clock : Timestamp} {p : CommitmentClaimCall} {row : FabricCommitmentRow}
  {carried : Option TransactionId}

theorem recoverSubmission_claimable (row : FabricCommitmentRow) :
    (p.recoverSubmission clock row).isClaimable p.claimedAt = row.isClaimable p.claimedAt := by
  unfold CommitmentClaimCall.recoverSubmission
  split
  · rename_i stale
    simp only [CommitmentClaimCall.isStale, Bool.and_eq_true, decide_eq_true_eq] at stale
    simp [FabricCommitmentRow.isClaimable, stale.1, stale.2]
  · rfl

theorem recoverConfirmation_claimable (row : FabricCommitmentRow) :
    (p.recoverConfirmation clock row).isClaimable p.claimedAt = row.isClaimable p.claimedAt := by
  unfold CommitmentClaimCall.recoverConfirmation
  split
  · rename_i stale
    simp only [CommitmentClaimCall.isStale, Bool.and_eq_true, decide_eq_true_eq] at stale
    simp [FabricCommitmentRow.isClaimable, stale.1, stale.2]
  · rfl

theorem claimSubmission_claimable (row : FabricCommitmentRow) :
    (p.claimSubmission clock row).isClaimable p.claimedAt = false := by
  show decide (p.claimedAt < p.claimedAt - minutes 5) = false
  apply decide_eq_false
  unfold Timestamp minutes seconds
  omega

theorem claimConfirmation_claimable (row : FabricCommitmentRow) :
    (p.claimConfirmation clock row).isClaimable p.claimedAt = false := by
  show decide (p.claimedAt < p.claimedAt - minutes 5) = false
  apply decide_eq_false
  unfold Timestamp minutes seconds
  omega

theorem submissionDue_claimable (due : p.submissionDue row = true) :
    row.Open ∧ row.isClaimable p.claimedAt = true := by
  simp only [CommitmentClaimCall.submissionDue, Bool.and_eq_true, Bool.or_eq_true,
    decide_eq_true_eq] at due
  rcases due with ⟨pending | failed, dated⟩
  · exact ⟨Or.inl pending, by simp [FabricCommitmentRow.isClaimable, pending, dated]⟩
  · exact ⟨Or.inr (Or.inl failed), by simp [FabricCommitmentRow.isClaimable, failed, dated]⟩

theorem confirmationDue_claimable (due : p.confirmationDue row = true) :
    row.status = .submitted ∧ row.isClaimable p.claimedAt = true := by
  simp only [CommitmentClaimCall.confirmationDue, Bool.and_eq_true, decide_eq_true_eq] at due
  exact ⟨due.1, by simp [FabricCommitmentRow.isClaimable, due.1, due.2]⟩

/-- Once stale claims are recovered, an open row that can be claimed is due. -/
theorem submissionDue_recovered (open_ : row.Open)
    (claimable : row.isClaimable p.claimedAt = true) :
    p.submissionDue (p.recoverSubmission clock row) = true := by
  unfold CommitmentClaimCall.recoverSubmission
  rcases open_ with pending | failed | submitting
  · simp only [FabricCommitmentRow.isClaimable, pending] at claimable
    simp [CommitmentClaimCall.isStale, CommitmentClaimCall.submissionDue, pending, claimable]
  · simp only [FabricCommitmentRow.isClaimable, failed] at claimable
    simp [CommitmentClaimCall.isStale, CommitmentClaimCall.submissionDue, failed, claimable]
  · simp only [FabricCommitmentRow.isClaimable, submitting] at claimable
    simp [CommitmentClaimCall.isStale, CommitmentClaimCall.submissionDue, submitting, claimable]

theorem confirmationDue_recovered (flight : row.InFlight)
    (claimable : row.isClaimable p.claimedAt = true) :
    p.confirmationDue (p.recoverConfirmation clock row) = true := by
  unfold CommitmentClaimCall.recoverConfirmation
  rcases flight with confirming | submitted
  · simp only [FabricCommitmentRow.isClaimable, confirming] at claimable
    simp [CommitmentClaimCall.isStale, CommitmentClaimCall.confirmationDue, confirming, claimable]
  · simp only [FabricCommitmentRow.isClaimable, submitted] at claimable
    simp [CommitmentClaimCall.isStale, CommitmentClaimCall.confirmationDue, submitted, claimable]

theorem recoverSubmission_carrying (carries : row.Carrying carried) :
    (p.recoverSubmission clock row).Carrying carried := by
  unfold CommitmentClaimCall.recoverSubmission
  split
  · rename_i stale
    simp only [CommitmentClaimCall.isStale, Bool.and_eq_true, decide_eq_true_eq] at stale
    cases carried with
    | none => exact Or.inr (Or.inl rfl)
    | some transactionId =>
        rcases carries.1 with flight | flight <;> cases flight.symm.trans stale.1
  · exact carries

theorem recoverConfirmation_carrying (carries : row.Carrying carried) :
    (p.recoverConfirmation clock row).Carrying carried := by
  unfold CommitmentClaimCall.recoverConfirmation
  split
  · rename_i stale
    simp only [CommitmentClaimCall.isStale, Bool.and_eq_true, decide_eq_true_eq] at stale
    cases carried with
    | none => rcases carries with open_ | open_ | open_ <;> cases open_.symm.trans stale.1
    | some transactionId => exact ⟨Or.inr rfl, carries.2⟩
  · exact carries

theorem open_not_flight (open_ : row.Open) : ¬ row.InFlight := by
  intro flight
  rcases flight with flight | flight <;> rcases open_ with open_ | open_ | open_ <;>
    cases open_.symm.trans flight

theorem created_update {outbox : FabricOutboxTable} {at_ : Timestamp}
    {f : FabricCommitmentRow → FabricCommitmentRow} (keeps : ∀ row, (f row).key = row.key)
    (moves : ∀ row, RowMove row (f row)) (created : ∀ row ∈ outbox, row.createdAt ≤ at_) :
    ∀ row ∈ outbox.update f keeps, row.createdAt ≤ at_ := by
  intro row member
  rcases (Table.mem_update _ _ keeps row).mp member with ⟨old, present, rfl⟩
  rw [(moves old).createdAt]
  exact created old present

theorem created_replace {outbox : FabricOutboxTable} {at_ : Timestamp}
    {next : FabricCommitmentRow} (created : ∀ row ∈ outbox, row.createdAt ≤ at_)
    (own : next.createdAt ≤ at_) : ∀ row ∈ outbox.replace next, row.createdAt ≤ at_ := by
  intro row member
  rw [Table.replace, Table.mem_update] at member
  rcases member with ⟨old, present, rfl⟩
  split
  · exact own
  · exact created old present

/-- A claim of another row leaves a waiting row behind, and one row less that can be claimed. -/
theorem claim_of_another {outbox : FabricOutboxTable} {at_ : Timestamp}
    {recover : FabricCommitmentRow → FabricCommitmentRow}
    (keeps : ∀ row, (recover row).key = row.key)
    (claimable : ∀ row, (recover row).isClaimable at_ = row.isClaimable at_)
    {held next : FabricCommitmentRow} (present : row ∈ outbox)
    (heldPresent : held ∈ outbox.update recover keeps) (nextKey : next.key = held.key)
    (before : held.isClaimable at_ = true) (after : next.isClaimable at_ = false)
    (different : held.key ≠ row.key) :
    recover row ∈ (outbox.update recover keeps).replace next ∧
      ((outbox.update recover keeps).replace next).count (·.isClaimable at_) <
        outbox.count (·.isClaimable at_) := by
  have recovered : recover row ∈ outbox.update recover keeps :=
    (Table.mem_update _ _ keeps _).mpr ⟨row, present, rfl⟩
  have apart : (recover row).key ≠ next.key := by
    rw [keeps, nextKey]
    exact different.symm
  have same : (outbox.update recover keeps).count (·.isClaimable at_) =
      outbox.count (·.isClaimable at_) :=
    Table.count_update outbox recover keeps _ fun row _ => claimable row
  refine ⟨(Table.mem_replace _ next heldPresent nextKey.symm _).mpr (Or.inr ⟨recovered, apart⟩), ?_⟩
  rw [← same]
  apply Table.count_update_lt _ _ _ _ _ heldPresent before
  · rw [if_pos nextKey.symm]
    exact after
  · intro other _ holds
    split at holds
    · rw [after] at holds
      cases holds
    · exact holds

end Claims

section Turns

variable {Ledger : Type} {fabric : Fabric Ledger} {s t : OutboxSystem Ledger}

/-- Nothing stands in the way of further turns. -/
structure OutboxSystem.Ready (s : OutboxSystem Ledger) : Prop where
  sound : s.Sound
  spare : s.Spare
  created : s.db.CreatedBy s.clock

/-- A row that the next claims can take. -/
structure OutboxSystem.Waits (s : OutboxSystem Ledger) (key : OutboxKey)
    (carried : Option TransactionId) (row : FabricCommitmentRow) : Prop where
  present : row ∈ s.db.outbox
  key : row.key = key
  carrying : row.Carrying carried
  claimable : row.isClaimable s.clock = true

/-- A worker that asks about the transaction of a row holds the row. -/
structure OutboxSystem.Confirms (s : OutboxSystem Ledger) (worker : Nat)
    (claim : ConfirmationClaim) (path : ConfirmationPath) (row : FabricCommitmentRow) : Prop where
  asks : (s.workers worker).asks? = some (claim, path)
  present : row ∈ s.db.outbox
  key : row.key = (claim.tenantId, claim.eventId)
  status : row.status = .confirming
  held : row.claimToken = some claim.claimToken
  transaction : row.transactionId = some claim.transactionId

/-- A worker that is about to submit a row holds the row. -/
structure OutboxSystem.Submits (s : OutboxSystem Ledger) (worker : Nat)
    (claim : SubmissionClaim) (row : FabricCommitmentRow) : Prop where
  holds : s.workers worker = .submitting claim
  present : row ∈ s.db.outbox
  commitment : row.commitment = claim.commitment
  status : row.status = .submitting
  held : row.claimToken = some claim.claimToken
  attempted : 0 < row.attemptCount

/-- Some worker has taken the row. -/
def OutboxSystem.Taken (s : OutboxSystem Ledger) (key : OutboxKey) :
    Option TransactionId → Prop
  | some transactionId => ∃ worker claim path row, s.Confirms worker claim path row ∧
      row.key = key ∧ claim.transactionId = transactionId
  | none => ∃ worker claim row, s.Submits worker claim row ∧ row.key = key

theorem OutboxSystem.Ready.of_carries (ready : s.Ready) {worker : Nat} {phase : WorkerPhase}
    {db : CommitmentDatabase} {ledger : Ledger}
    (carries : Carries fabric s worker phase db ledger t)
    (created : db.CreatedBy s.clock) : t.Ready where
  sound := ready.sound.run carries.steps.run
  spare := ready.spare.run carries.steps.run
  created := by
    rw [carries.db, carries.clock]
    exact created

/-- A continuation at the same time that submits nothing, after which the turns go on. -/
structure Onward (fabric : Fabric Ledger) (s t : OutboxSystem Ledger) : Prop where
  steps : OutboxSystem.Continuation fabric s t
  clock : t.clock = s.clock
  attempts : t.db.attempts = s.db.attempts
  ledger : t.ledger = s.ledger
  ready : t.Ready

theorem Onward.trans {u : OutboxSystem Ledger} (first : Onward fabric s t)
    (second : Onward fabric t u) : Onward fabric s u :=
  ⟨first.steps.trans second.steps, second.clock.trans first.clock,
    second.attempts.trans first.attempts, second.ledger.trans first.ledger, second.ready⟩

def OutboxSystem.claimableCount (s : OutboxSystem Ledger) : Nat :=
  s.db.outbox.count (·.isClaimable s.clock)

/-- An idle worker asks for a confirmation first: it takes the row or another one, or finds that
nothing is in flight. -/
theorem confirmation_turn (ready : s.Ready) {key : OutboxKey} {carried : Option TransactionId}
    {row : FabricCommitmentRow} (waits : s.Waits key carried row) :
    ∃ t, Onward fabric s t ∧ (t.Taken key carried ∨
      (∃ later, t.Waits key carried later ∧ t.claimableCount < s.claimableCount) ∨
      (carried = none ∧ t.claimableCount = s.claimableCount ∧ ∃ worker later,
        t.Waits key carried later ∧ t.workers worker = .noGap)) := by
  rcases ready.spare with ⟨worker, idle⟩
  rcases exists_fresh_token s.drawn with ⟨claimToken, fresh⟩
  have named : isWorkerId "worker" = true := by decide
  let p : CommitmentClaimCall := ⟨"worker", claimToken, s.clock⟩
  have now : row.isClaimable p.claimedAt = true := waits.claimable
  have sends : (s.workers worker).next? "worker" claimToken s.clock =
      some (.claimConfirmation p, .gap) := by
    rw [idle worker (le_refl worker)]
    rfl
  have succeeds : ∃ result, claimFabricCommitmentConfirmation s.clock [] p s.db = .ok result :=
    claimFabricCommitmentConfirmation_ok ready.sound.history p named rfl ready.created
  rcases succeeds with ⟨⟨db, claim⟩, succeeds⟩
  have called : applyCall s.clock [] (.claimConfirmation p) s.db =
      .ok (db, .confirmationClaim claim) := by
    simp only [applyCall, succeeds]
    rfl
  rcases carries_call fabric s worker fresh sends called with ⟨t, carries⟩
  have recovered := created_update (p.recoverConfirmation_key s.clock)
    (fun row => recoverConfirmation_move row) ready.created
  have target : p.recoverConfirmation s.clock row ∈ p.recoveredConfirmations s.clock s.db :=
    (Table.mem_update _ _ (p.recoverConfirmation_key s.clock) _).mpr ⟨row, waits.present, rfl⟩
  have claimable : (p.recoverConfirmation s.clock row).isClaimable s.clock = true :=
    (recoverConfirmation_claimable (p := p) row).trans waits.claimable
  have key_ : (p.recoverConfirmation s.clock row).key = key :=
    (p.recoverConfirmation_key s.clock row).trans waits.key
  rcases claimFabricCommitmentConfirmation_cases succeeds with
    ⟨valid, ⟨rfl, rfl, nothing⟩ | ⟨held, heldPresent, due, rfl, rfl⟩⟩
  · -- Nothing is due: the row is not in flight.
    have onward : Onward fabric s t := ⟨carries.steps, carries.clock,
      congrArg (·.attempts) carries.db, carries.ledger, ready.of_carries carries recovered⟩
    have still : (p.recoverConfirmation s.clock row).Carrying carried :=
      recoverConfirmation_carrying waits.carrying
    have stays : t.Waits key carried (p.recoverConfirmation s.clock row) := by
      refine ⟨?_, key_, still, ?_⟩
      · rw [carries.db]
        exact target
      · rw [carries.clock]
        exact claimable
    refine ⟨t, onward, Or.inr (Or.inr ⟨?_, ?_, worker, _, stays,
      carries.phase⟩)⟩
    · cases carried with
      | none => rfl
      | some transactionId =>
          have isDue : p.confirmationDue (p.recoverConfirmation s.clock row) = true :=
            confirmationDue_recovered waits.carrying.1 now
          cases nothing _ target isDue
    · unfold OutboxSystem.claimableCount
      rw [carries.db, carries.clock]
      exact Table.count_update _ _ (p.recoverConfirmation_key s.clock) _
        fun row _ => recoverConfirmation_claimable (p := p) row
  · -- A row in flight is due: it is this one, or another one that is taken from the queue.
    have isDue := confirmationDue_claimable due
    let next := p.claimConfirmation s.clock held
    have written : ∀ row ∈ (p.recoveredConfirmations s.clock s.db).replace next,
        row.createdAt ≤ s.clock := created_replace recovered (recovered held heldPresent)
    have onward : Onward fabric s t := ⟨carries.steps, carries.clock,
      congrArg (·.attempts) carries.db, carries.ledger, ready.of_carries carries written⟩
    have nextPresent : next ∈ t.db.outbox := by
      rw [carries.db]
      exact (Table.mem_replace _ next heldPresent rfl next).mpr (Or.inl rfl)
    have shape := FabricCommitmentRow.confirming_shape
      (valid next ((Table.mem_replace _ next heldPresent rfl next).mpr (Or.inl rfl))).shape rfl
    rcases Option.isSome_iff_exists.mp shape.1 with ⟨transactionId, has⟩
    have has : held.transactionId = some transactionId := has
    by_cases own : held.key = row.key
    · have same : held = p.recoverConfirmation s.clock row :=
        Table.unique _ heldPresent target (own.trans (p.recoverConfirmation_key s.clock row).symm)
      have still : held.Carrying carried := by
        rw [same]
        exact recoverConfirmation_carrying waits.carrying
      refine ⟨t, onward, Or.inl ?_⟩
      cases carried with
      | none => exact absurd (Or.inr isDue.1) (open_not_flight still)
      | some own =>
          have phase := carries.phase
          rw [has] at phase
          have asks : (t.workers worker).asks? = some (⟨held.commitment.tenantId,
              held.commitment.eventId, transactionId, claimToken, held.attemptCount⟩,
              .requery) := by
            rw [phase]
            rfl
          exact ⟨worker, _, .requery, next, ⟨asks, nextPresent, rfl, rfl, rfl, has⟩,
            (congrArg FabricCommitmentRow.key same).trans key_,
            Option.some.inj (has.symm.trans still.2)⟩
    · have kept : ∀ row, (p.recoverConfirmation s.clock row).isClaimable s.clock =
          row.isClaimable s.clock := recoverConfirmation_claimable
      have sameKey : next.key = held.key := rfl
      have gone : next.isClaimable s.clock = false := claimConfirmation_claimable held
      have behind := claim_of_another (p.recoverConfirmation_key s.clock) kept waits.present
        heldPresent sameKey isDue.2 gone own
      refine ⟨t, onward, Or.inr (Or.inl ⟨_, ⟨?_, key_,
        recoverConfirmation_carrying waits.carrying, ?_⟩, ?_⟩)⟩
      · rw [carries.db]
        exact behind.1
      · rw [carries.clock]
        exact claimable
      · unfold OutboxSystem.claimableCount
        rw [carries.db, carries.clock]
        exact behind.2

/-- A worker that has found nothing in flight takes the row or another one for submission. -/
theorem submission_turn (ready : s.Ready) {key : OutboxKey} {row : FabricCommitmentRow}
    (waits : s.Waits key none row) {worker : Nat} (turn : s.workers worker = .noGap) :
    ∃ t, Onward fabric s t ∧ (t.Taken key none ∨
      ∃ later, t.Waits key none later ∧ t.claimableCount < s.claimableCount) := by
  rcases exists_fresh_token s.drawn with ⟨claimToken, fresh⟩
  have named : isWorkerId "worker" = true := by decide
  let p : CommitmentClaimCall := ⟨"worker", claimToken, s.clock⟩
  have now : row.isClaimable p.claimedAt = true := waits.claimable
  have sends : (s.workers worker).next? "worker" claimToken s.clock =
      some (.claimSubmission p, .claim) := by
    rw [turn]
    rfl
  have succeeds : ∃ result, claimFabricCommitment s.clock [] p s.db = .ok result :=
    claimFabricCommitment_ok ready.sound.history p named rfl ready.created
  rcases succeeds with ⟨⟨db, claim⟩, succeeds⟩
  have called : applyCall s.clock [] (.claimSubmission p) s.db =
      .ok (db, .submissionClaim claim) := by
    simp only [applyCall, succeeds]
    rfl
  rcases carries_call fabric s worker fresh sends called with ⟨t, carries⟩
  have recovered := created_update (p.recoverSubmission_key s.clock)
    (fun row => recoverSubmission_move row) ready.created
  have target : p.recoverSubmission s.clock row ∈ p.recoveredSubmissions s.clock s.db :=
    (Table.mem_update _ _ (p.recoverSubmission_key s.clock) _).mpr ⟨row, waits.present, rfl⟩
  have key_ : (p.recoverSubmission s.clock row).key = key :=
    (p.recoverSubmission_key s.clock row).trans waits.key
  rcases claimFabricCommitment_cases succeeds with
    ⟨valid, ⟨rfl, rfl, nothing⟩ | ⟨held, heldPresent, due, rfl, rfl⟩⟩
  · -- The row itself is due, so that something is.
    have isDue : p.submissionDue (p.recoverSubmission s.clock row) = true :=
      submissionDue_recovered waits.carrying now
    cases nothing _ target isDue
  · have isDue := submissionDue_claimable due
    let next := p.claimSubmission s.clock held
    have written : ∀ row ∈ (p.recoveredSubmissions s.clock s.db).replace next,
        row.createdAt ≤ s.clock := created_replace recovered (recovered held heldPresent)
    have onward : Onward fabric s t := ⟨carries.steps, carries.clock,
      congrArg (·.attempts) carries.db, carries.ledger, ready.of_carries carries written⟩
    have inserted : next ∈ (p.recoveredSubmissions s.clock s.db).replace next :=
      (Table.mem_replace _ next heldPresent rfl next).mpr (Or.inl rfl)
    by_cases own : held.key = row.key
    · have checked := ((columnChecks_iff next).mp (valid next inserted).columns).1
      have ledgerKey : held.commitment.ledgerKey = held.commitment.ledgerValue.key := by
        simp only [FabricCommitment.checks, Bool.and_eq_true, decide_eq_true_eq] at checked
        exact checked.2.trans (congrArg AuditLedgerValue.key checked.1.2).symm
      have sound : SubmissionClaim.isSound ⟨held.commitment, claimToken, held.attemptCount + 1⟩ =
          true := by
        simp [SubmissionClaim.isSound, ledgerKey]
      have phase : t.workers worker =
          .submitting ⟨held.commitment, claimToken, held.attemptCount + 1⟩ :=
        carries.phase.trans (if_pos sound)
      refine ⟨t, onward, Or.inl ⟨worker, _, next, ⟨phase, ?_, rfl,
        rfl, rfl, Nat.succ_pos _⟩, own.trans waits.key⟩⟩
      rw [carries.db]
      exact inserted
    · have kept : ∀ row, (p.recoverSubmission s.clock row).isClaimable s.clock =
          row.isClaimable s.clock := recoverSubmission_claimable
      have sameKey : next.key = held.key := rfl
      have gone : next.isClaimable s.clock = false := claimSubmission_claimable held
      have behind := claim_of_another (p.recoverSubmission_key s.clock) kept waits.present
        heldPresent sameKey isDue.2 gone own
      refine ⟨t, onward, Or.inr ⟨_, ⟨?_, key_,
        recoverSubmission_carrying waits.carrying, ?_⟩, ?_⟩⟩
      · rw [carries.db]
        exact behind.1
      · rw [carries.clock]
        exact (recoverSubmission_claimable (p := p) row).trans waits.claimable
      · unfold OutboxSystem.claimableCount
        rw [carries.db, carries.clock]
        exact behind.2

/-- Turn by turn, the rows that can be claimed get fewer until the row is taken. -/
theorem row_is_taken (fabric : Fabric Ledger) {key : OutboxKey} {carried : Option TransactionId} :
    ∀ (count : Nat) (s : OutboxSystem Ledger), s.claimableCount = count → s.Ready →
      (∃ row, s.Waits key carried row) → ∃ t, Onward fabric s t ∧ t.Taken key carried := by
  intro count
  induction count using Nat.strong_induction_on with
  | _ count ih =>
      intro s same ready waiting
      rcases waiting with ⟨row, waits⟩
      rcases confirmation_turn ready waits with
        ⟨t, onward, taken | ⟨later, still, fewer⟩ | ⟨rfl, equal, worker, later, still, turn⟩⟩
      · exact ⟨t, onward, taken⟩
      · rcases ih _ (by omega) t rfl onward.ready ⟨later, still⟩ with ⟨u, further, taken⟩
        exact ⟨u, onward.trans further, taken⟩
      · rcases submission_turn onward.ready still turn with
          ⟨u, further, taken | ⟨last, waits, fewer⟩⟩
        · exact ⟨u, onward.trans further, taken⟩
        · rcases ih _ (by omega) u rfl further.ready ⟨last, waits⟩ with ⟨v, rest, taken⟩
          exact ⟨v, (onward.trans further).trans rest, taken⟩

end Turns

end TenantTrust.Audit
