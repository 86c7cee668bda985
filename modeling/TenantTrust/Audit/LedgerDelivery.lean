import TenantTrust.Audit.CommittedLedger

/-! The deliveries of the workers, followed from the outbox to the channels. -/

namespace TenantTrust.Audit

open Library Identity
open Trust (script)

section Effects

variable {op : OutboxOp} {before after : CommitmentDatabase}

def CommitmentDatabase.Has (db : CommitmentDatabase) (commitment : FabricCommitment) : Prop :=
  ∃ row ∈ db.outbox, row.commitment = commitment

theorem replace_has {outbox : FabricOutboxTable} {held next : FabricCommitmentRow}
    (present : held ∈ outbox) (same : next.commitment = held.commitment)
    {row : FabricCommitmentRow} (member : row ∈ outbox) :
    ∃ later ∈ outbox.replace next, later.commitment = row.commitment := by
  have key : held.key = next.key := (congrArg FabricCommitment.key same).symm
  by_cases own : row.key = next.key
  · have equal : row = held := outbox.unique member present (own.trans key.symm)
    exact ⟨next, (Table.mem_replace outbox next present key next).mpr (Or.inl rfl), by
      rw [same, equal]⟩
  · exact ⟨row, (Table.mem_replace outbox next present key row).mpr (Or.inr ⟨member, own⟩), rfl⟩

/-- The commitment of a row stays in the outbox. -/
theorem OutboxEffect.has (effect : OutboxEffect op before after) {commitment : FabricCommitment}
    (has : before.Has commitment) : after.Has commitment := by
  rcases has with ⟨row, member, rfl⟩
  cases effect with
  | unchanged same =>
      rw [same]
      exact ⟨row, member, rfl⟩
  | enqueued p inserted attempts valid =>
      exact ⟨row, (Table.mem_insertNew inserted row).mpr (Or.inl member), rfl⟩
  | moved f outbox attempts moves valid =>
      refine ⟨f row, ?_, (moves row member).commitment⟩
      rw [Table.mem_def, outbox]
      exact List.mem_map_of_mem member
  | recorded p clock locked called held present submitting key outbox unused inserted valid
      checked =>
      have same : (p.recorded clock held).commitment = held.commitment := rfl
      rw [CommitmentDatabase.Has, outbox]
      exact replace_has present same member
  | committed p clock locked called held present confirming key transaction code outbox attempts
      valid checked =>
      have same : (p.verdict.committed clock p.confirmedAt held).commitment = held.commitment := rfl
      rw [CommitmentDatabase.Has, outbox]
      exact replace_has present same member
  | commitFailed p clock locked called held present confirming transaction outbox attempts valid
      checked =>
      have same : (p.verdict.commitFailed clock p.failedAt p.retryDelaySeconds held).commitment =
          held.commitment := rfl
      rw [CommitmentDatabase.Has, outbox]
      exact replace_has present same member

/-- An attempt was there before, or a submission has been recorded for it. -/
theorem OutboxEffect.attempt_source (effect : OutboxEffect op before after)
    {attempt : FabricCommitmentAttempt} (member : attempt ∈ after.attempts) :
    (∃ old ∈ before.attempts, old.rowKey = attempt.rowKey ∧
        old.transactionId = attempt.transactionId) ∨
      ∃ clock locked p, op = .call clock locked (.recordSubmission p) ∧
        attempt.rowKey = (p.tenantId, p.eventId) ∧ attempt.transactionId = p.transactionId := by
  have resolved : ∀ (verdict : CommitVerdict) (key : OutboxKey) (state : AttemptState)
      (resolvedAt : Timestamp), after.attempts.rows = before.attempts.rows.map
        (verdict.resolve key state resolvedAt) → ∃ old ∈ before.attempts,
        old.rowKey = attempt.rowKey ∧ old.transactionId = attempt.transactionId := by
    intro verdict key state resolvedAt rows
    rw [Table.mem_def, rows] at member
    rcases List.mem_map.mp member with ⟨old, present, rfl⟩
    refine ⟨old, present, ?_⟩
    unfold CommitVerdict.resolve
    split <;> exact ⟨rfl, rfl⟩
  cases effect with
  | unchanged same =>
      rw [same] at member
      exact Or.inl ⟨attempt, member, rfl, rfl⟩
  | enqueued p inserted attempts valid =>
      rw [attempts] at member
      exact Or.inl ⟨attempt, member, rfl, rfl⟩
  | moved f outbox attempts moves valid =>
      rw [attempts] at member
      exact Or.inl ⟨attempt, member, rfl, rfl⟩
  | recorded p clock locked called held present submitting key outbox unused inserted valid
      checked =>
      rcases (Table.mem_insertNew inserted attempt).mp member with old | rfl
      · exact Or.inl ⟨attempt, old, rfl, rfl⟩
      · exact Or.inr ⟨clock, locked, p, called, key, rfl⟩
  | committed p clock locked called held present confirming key transaction code outbox attempts
      valid checked => exact Or.inl (resolved _ _ _ _ attempts)
  | commitFailed p clock locked called held present confirming transaction outbox attempts valid
      checked => exact Or.inl (resolved _ _ _ _ attempts)

/-- The claim that a call returns is for a commitment of the outbox. -/
theorem claimed_has {clock : Timestamp} {locked : List OutboxKey} {call : OutboxCall}
    {claim : SubmissionClaim}
    (succeeds : applyCall clock locked call before = .ok (after, .submissionClaim (some claim))) :
    after.Has claim.commitment := by
  cases call with
  | claimSubmission p =>
      simp only [applyCall, Checked.bind_eq_ok, Checked.pure_eq_ok, Prod.mk.injEq,
        OutboxReply.submissionClaim.injEq] at succeeds
      rcases succeeds with ⟨⟨next, result⟩, called, rfl, rfl⟩
      rcases (claimFabricCommitment_cases called).2 with ⟨none_, _⟩ | ⟨row, present, _, some_, rfl⟩
      · cases none_
      · rw [Option.some.inj some_]
        exact ⟨p.claimSubmission clock row,
          (Table.mem_replace _ (p.claimSubmission clock row) present rfl _).mpr (Or.inl rfl), rfl⟩
  | _ =>
      simp only [applyCall, Checked.bind_eq_ok, Checked.pure_eq_ok, Prod.mk.injEq] at succeeds
      rcases succeeds with ⟨_, _, _, impossible⟩
      cases impossible

end Effects

section Traces

variable {topology : TenantId → Option String} {s t : OutboxSystem Network}

/-- A transaction was endorsed for the commitment of the row. -/
def SubmittedFor (topology : TenantId → Option String) (db : CommitmentDatabase)
    (network : Network) (key : OutboxKey) (transactionId : TransactionId) : Prop :=
  ∃ commitment, db.Has commitment ∧ commitment.key = key ∧
    network.Endorsed topology commitment transactionId

/-- What a worker carries belongs to a row of the outbox. -/
def WorkerPhase.Traced (topology : TenantId → Option String) (db : CommitmentDatabase)
    (network : Network) : WorkerPhase → Prop
  | .submitting claim => db.Has claim.commitment
  | .submitted claim submission => db.Has claim.commitment ∧
      network.Endorsed topology claim.commitment submission.transactionId
  | _ => True

def OutboxCall.Traced (topology : TenantId → Option String) (db : CommitmentDatabase)
    (network : Network) : OutboxCall → Prop
  | .recordSubmission p => SubmittedFor topology db network (p.tenantId, p.eventId) p.transactionId
  | _ => True

structure OutboxSystem.Traced (topology : TenantId → Option String) (s : OutboxSystem Network) :
    Prop where
  phases : ∀ worker, (s.workers worker).Traced topology s.db s.ledger
  calls : ∀ call ∈ s.inFlight, call.Traced topology s.db s.ledger
  attempts : ∀ attempt ∈ s.db.attempts,
    SubmittedFor topology s.db s.ledger attempt.rowKey attempt.transactionId
  reports : ∀ report ∈ s.reports, ∃ name outcome, topology report.1 = some name ∧
    (s.ledger name).outcomes report.2.transactionId = some outcome ∧
    report.2.validationCode = (outcome.validationCode.val : Int)
  committed : ∀ row ∈ s.db.outbox, row.status = .committed →
    s.ledger.Stores topology row.commitment

theorem SubmittedFor.later {before after : CommitmentDatabase} {network next : Network}
    {key : OutboxKey} {transactionId : TransactionId}
    (submitted : SubmittedFor topology before network key transactionId)
    (has : ∀ commitment, before.Has commitment → after.Has commitment)
    (extends_ : network.Extends next) : SubmittedFor topology after next key transactionId := by
  rcases submitted with ⟨commitment, present, own, endorsed⟩
  exact ⟨commitment, has commitment present, own, endorsed.extends extends_⟩

theorem WorkerPhase.Traced.later {before after : CommitmentDatabase} {network next : Network}
    {phase : WorkerPhase} (traced : phase.Traced topology before network)
    (has : ∀ commitment, before.Has commitment → after.Has commitment)
    (extends_ : network.Extends next) : phase.Traced topology after next := by
  cases phase with
  | submitting claim => exact has _ traced
  | submitted claim submission => exact ⟨has _ traced.1, traced.2.extends extends_⟩
  | _ => exact trivial

theorem OutboxCall.Traced.later {before after : CommitmentDatabase} {network next : Network}
    {call : OutboxCall} (traced : call.Traced topology before network)
    (has : ∀ commitment, before.Has commitment → after.Has commitment)
    (extends_ : network.Extends next) : call.Traced topology after next := by
  cases call with
  | recordSubmission p => exact SubmittedFor.later traced has extends_
  | _ => exact trivial

theorem execute_ledger (s : OutboxSystem Network) (locked : List OutboxKey) (call : OutboxCall)
    (others : List OutboxCall) : (s.execute locked call others).1.ledger = s.ledger := by
  unfold OutboxSystem.execute
  cases applyCall s.clock locked call s.db with
  | error failure => rfl
  | ok pair => rfl

/-- No step loses a commitment of the outbox. -/
theorem step_has (step : OutboxSystem.Step (auditFabric topology) s t)
    {commitment : FabricCommitment} (has : s.db.Has commitment) : t.db.Has commitment := by
  have preserved : ∀ op next reply, applyOutbox op s.db = .ok (next, reply) →
      next.Has commitment := fun _ _ _ succeeds => (applyOutbox_effect succeeds).has has
  exact step_preserves has preserved step

theorem run_has (run : OutboxSystem.Run (auditFabric topology) s t)
    {commitment : FabricCommitment} (has : s.db.Has commitment) : t.db.Has commitment := by
  induction run with
  | refl => exact has
  | tail _ step ih => exact step_has step ih

/-- Every step extends the channels. -/
theorem step_ledger (sound : NetworkSound s.ledger)
    (step : OutboxSystem.Step (auditFabric topology) s t) :
    NetworkSound t.ledger ∧ s.ledger.Extends t.ledger := by
  have same : ∀ network : Network, network = s.ledger →
      NetworkSound network ∧ s.ledger.Extends network := by
    intro network equal
    rw [equal]
    exact ⟨sound, fun name => Channel.Extends.refl _⟩
  cases step with
  | advance step =>
      cases step with
      | submit worker claim ledger submission holds submits =>
          have submitted := sound.submits submits
          exact ⟨submitted.1, submitted.2.1⟩
      | answer worker call awaited front back awaits pending =>
          exact same _ (execute_ledger s [] call (front ++ back))
      | _ => exact same _ rfl
  | contend worker locked call awaited front back awaits pending =>
      exact same _ (execute_ledger s locked call (front ++ back))
  | proceed ledger moves => exact sound.proceeds moves
  | deliver locked call front back pending =>
      exact same _ (execute_ledger s locked call (front ++ back))
  | submitUnheard worker claim ledger submission reasonCode holds submits =>
      have submitted := sound.submits submits
      exact ⟨submitted.1, submitted.2.1⟩
  | _ => exact same _ rfl

theorem resume_submitting {awaited : Awaited} {reply : Except (Option String) OutboxReply}
    {claim : SubmissionClaim} (resumed : WorkerPhase.resume awaited reply = .submitting claim) :
    reply = .ok (.submissionClaim (some claim)) := by
  unfold WorkerPhase.resume at resumed
  split at resumed
  case h_3 =>
    split at resumed
    · cases resumed
      rfl
    · cases resumed
  all_goals cases resumed

theorem resume_not_submitted (awaited : Awaited) (reply : Except (Option String) OutboxReply)
    (claim : SubmissionClaim) (submission : Submission) :
    WorkerPhase.resume awaited reply ≠ .submitted claim submission := by
  intro resumed
  unfold WorkerPhase.resume at resumed
  split at resumed
  case h_3 => split at resumed <;> cases resumed
  all_goals cases resumed

/-- What a worker does with an answer concerns a row of the outbox. -/
theorem resume_traced {awaited : Awaited} {reply : Except (Option String) OutboxReply}
    {db : CommitmentDatabase} {network : Network}
    (claims : ∀ claim, reply = .ok (.submissionClaim (some claim)) → db.Has claim.commitment) :
    (WorkerPhase.resume awaited reply).Traced topology db network := by
  cases phase : WorkerPhase.resume awaited reply with
  | submitting claim => exact claims claim (resume_submitting phase)
  | submitted claim submission =>
      exact absurd phase (resume_not_submitted awaited reply claim submission)
  | _ => exact trivial

theorem execute_claims (s : OutboxSystem Network) (locked : List OutboxKey) (call : OutboxCall)
    (others : List OutboxCall) (claim : SubmissionClaim)
    (replies : (s.execute locked call others).2 = .ok (.submissionClaim (some claim))) :
    (s.execute locked call others).1.db.Has claim.commitment := by
  unfold OutboxSystem.execute at replies ⊢
  cases result : applyCall s.clock locked call s.db with
  | error failure =>
      rw [result] at replies
      cases replies
  | ok pair =>
      rw [result] at replies
      cases pair with
      | mk db reply =>
          cases replies
          exact claimed_has result

/-- A step gives one worker a new phase, and the others keep theirs. -/
theorem phases_of_set {system : OutboxSystem Network} (worker : Nat) {phase : WorkerPhase}
    (old : ∀ other, (system.workers other).Traced topology system.db system.ledger)
    (own : phase.Traced topology system.db system.ledger) :
    ∀ other, ((system.setWorker worker phase).workers other).Traced topology
      (system.setWorker worker phase).db (system.setWorker worker phase).ledger := by
  intro other
  by_cases same : other = worker
  · rw [same, show (system.setWorker worker phase).workers worker = phase from
      Function.update_self _ _ _]
    exact own
  · rw [show (system.setWorker worker phase).workers other = system.workers other from
      Function.update_of_ne same _ _]
    exact old other

theorem step_phases (traced : s.Traced topology) (sound : NetworkSound s.ledger)
    (step : OutboxSystem.Step (auditFabric topology) s t) :
    ∀ worker, (t.workers worker).Traced topology t.db t.ledger := by
  have keep : ∀ {system : OutboxSystem Network}, system.workers = s.workers →
      (∀ commitment, s.db.Has commitment → system.db.Has commitment) →
      s.ledger.Extends system.ledger →
      ∀ worker, (system.workers worker).Traced topology system.db system.ledger := by
    intro system same has extends_ worker
    rw [same]
    exact (traced.phases worker).later has extends_
  have has : ∀ commitment, s.db.Has commitment → t.db.Has commitment := fun _ => step_has step
  have extends_ : s.ledger.Extends t.ledger := (step_ledger sound step).2
  have executed : ∀ locked call others, (s.execute locked call others).1.workers = s.workers :=
    fun locked call others => (execute_others s locked call others).2.1
  cases step with
  | advance step =>
      cases step with
      | tick clock later => exact keep rfl has extends_
      | send worker workerId claimToken now call awaited named fresh sends =>
          exact phases_of_set worker (keep rfl has extends_) trivial
      | answer worker call awaited front back awaits pending =>
          exact phases_of_set worker (keep (executed [] call (front ++ back)) has extends_)
            (resume_traced (execute_claims s [] call (front ++ back)))
      | submit worker claim ledger submission holds submits =>
          have claimed := traced.phases worker
          rw [holds] at claimed
          have own : (WorkerPhase.onSubmission claim submission).Traced topology s.db ledger := by
            unfold WorkerPhase.onSubmission
            split
            · exact ⟨claimed, (sound.submits submits).2.2⟩
            · exact trivial
          exact phases_of_set worker (keep rfl has extends_) own
      | report worker claim path status asks reports =>
          have own : (WorkerPhase.onStatus claim path status).Traced topology s.db s.ledger := by
            unfold WorkerPhase.onStatus
            split <;> exact trivial
          exact phases_of_set worker (keep rfl has extends_) own
  | contend worker locked call awaited front back awaits pending =>
      exact phases_of_set worker (keep (executed locked call (front ++ back)) has extends_)
        (resume_traced (execute_claims s locked call (front ++ back)))
  | proceed ledger moves => exact keep rfl has extends_
  | enqueue currentTenantId p => exact keep rfl has extends_
  | deliver locked call front back pending =>
      exact keep (executed locked call (front ++ back)) has extends_
  | lose worker call awaited reasonCode awaits =>
      exact phases_of_set worker (keep rfl has extends_)
        (resume_traced fun claim impossible => by cases impossible)
  | unavailable worker claim path reasonCode asks =>
      exact phases_of_set worker (keep rfl has extends_) trivial
  | submitUnheard worker claim ledger submission reasonCode holds submits =>
      exact phases_of_set worker (keep rfl has extends_) trivial
  | refuse worker claim reasonCode holds =>
      exact phases_of_set worker (keep rfl has extends_) trivial
  | crash worker => exact phases_of_set worker (keep rfl has extends_) trivial

/-- A call that is sent carries what the worker has. -/
theorem sent_traced {phase : WorkerPhase} {workerId : String} {claimToken : AuditClaimToken}
    {now : Timestamp} {call : OutboxCall} {awaited : Awaited} {db : CommitmentDatabase}
    {network : Network} (traced : phase.Traced topology db network)
    (sends : phase.next? workerId claimToken now = some (call, awaited)) :
    call.Traced topology db network := by
  cases phase with
  | submitted claim submission =>
      cases sends
      exact ⟨claim.commitment, traced.1, rfl, traced.2⟩
  | reported claim path verdict =>
      cases sends
      unfold WorkerPhase.finish
      split <;> exact trivial
  | _ =>
      cases sends
      all_goals exact trivial

theorem step_calls (traced : s.Traced topology) (sound : NetworkSound s.ledger)
    (step : OutboxSystem.Step (auditFabric topology) s t) :
    ∀ call ∈ t.inFlight, call.Traced topology t.db t.ledger := by
  have has : ∀ commitment, s.db.Has commitment → t.db.Has commitment := fun _ => step_has step
  have extends_ : s.ledger.Extends t.ledger := (step_ledger sound step).2
  have keep : t.inFlight ⊆ s.inFlight → ∀ call ∈ t.inFlight, call.Traced topology t.db t.ledger :=
    fun within call member => (traced.calls call (within member)).later has extends_
  have executed : ∀ locked call front back, s.inFlight = front ++ call :: back →
      (s.execute locked call (front ++ back)).1.inFlight ⊆ s.inFlight := by
    intro locked call front back pending other member
    rw [(execute_others s locked call (front ++ back)).1] at member
    rw [pending]
    rcases List.mem_append.mp member with before | after
    · exact List.mem_append_left _ before
    · exact List.mem_append_right _ (List.mem_cons_of_mem _ after)
  cases step with
  | advance step =>
      cases step with
      | send worker workerId claimToken now call awaited named fresh sends =>
          intro other member
          rcases List.mem_append.mp member with old | isNew
          · exact traced.calls other old
          · rw [List.mem_singleton.mp isNew]
            exact sent_traced (traced.phases worker) sends
      | answer worker call awaited front back awaits pending =>
          exact keep (executed [] call front back pending)
      | _ => exact keep fun _ member => member
  | contend worker locked call awaited front back awaits pending =>
      exact keep (executed locked call front back pending)
  | deliver locked call front back pending => exact keep (executed locked call front back pending)
  | _ => exact keep fun _ member => member

theorem step_attempts (traced : s.Traced topology) (sound : NetworkSound s.ledger)
    (step : OutboxSystem.Step (auditFabric topology) s t) :
    ∀ attempt ∈ t.db.attempts,
      SubmittedFor topology t.db t.ledger attempt.rowKey attempt.transactionId := by
  have has : ∀ commitment, s.db.Has commitment → t.db.Has commitment := fun _ => step_has step
  have extends_ : s.ledger.Extends t.ledger := (step_ledger sound step).2
  intro attempt member
  have kept : (∃ old ∈ s.db.attempts, old.rowKey = attempt.rowKey ∧
      old.transactionId = attempt.transactionId) →
      SubmittedFor topology t.db t.ledger attempt.rowKey attempt.transactionId := by
    intro earlier
    rcases earlier with ⟨old, present, key, same⟩
    rw [← key, ← same]
    exact (traced.attempts old present).later has extends_
  rcases step_database step with same | ⟨op, same, called⟩
  · rw [same] at member
    exact kept ⟨attempt, member, rfl, rfl⟩
  · rw [same] at member
    rcases Transaction.commit_cases applyOutbox s.db op with aborted | ⟨reply, succeeds⟩
    · rw [aborted] at member
      exact kept ⟨attempt, member, rfl, rfl⟩
    · rcases (applyOutbox_effect succeeds).attempt_source member with
        earlier | ⟨clock, locked, p, isCall, key, transaction⟩
      · exact kept earlier
      · have submitted := traced.calls _ (called clock locked _ isCall)
        rw [key, transaction]
        exact SubmittedFor.later submitted has extends_

theorem step_reports (traced : s.Traced topology) (sound : NetworkSound s.ledger)
    (step : OutboxSystem.Step (auditFabric topology) s t) :
    ∀ report ∈ t.reports, ∃ name outcome, topology report.1 = some name ∧
      (t.ledger name).outcomes report.2.transactionId = some outcome ∧
      report.2.validationCode = (outcome.validationCode.val : Int) := by
  have extends_ : s.ledger.Extends t.ledger := (step_ledger sound step).2
  have keep : t.reports = s.reports → ∀ report ∈ t.reports, ∃ name outcome,
      topology report.1 = some name ∧
      (t.ledger name).outcomes report.2.transactionId = some outcome ∧
      report.2.validationCode = (outcome.validationCode.val : Int) := by
    intro same report member
    rw [same] at member
    rcases traced.reports report member with ⟨name, outcome, mapped, settled, code⟩
    exact ⟨name, outcome, mapped, (extends_ name).outcomes _ outcome settled, code⟩
  have executed : ∀ locked call others, (s.execute locked call others).1.reports = s.reports :=
    fun locked call others => (execute_others s locked call others).2.2
  cases step with
  | advance step =>
      cases step with
      | report worker claim path status asks reports =>
          intro report member
          rcases List.mem_cons.mp member with rfl | old
          · rcases reports with ⟨name, outcome, mapped, settled, same, code, _⟩
            refine ⟨name, outcome, mapped, ?_, code⟩
            show (s.ledger name).outcomes status.transactionId = some outcome
            rw [same]
            exact settled
          · exact traced.reports report old
      | answer worker call awaited front back awaits pending =>
          exact keep (executed [] call (front ++ back))
      | _ => exact keep rfl
  | contend worker locked call awaited front back awaits pending =>
      exact keep (executed locked call (front ++ back))
  | deliver locked call front back pending => exact keep (executed locked call (front ++ back))
  | _ => exact keep rfl

/-- A row becomes committed only when its value stands on the ledger. -/
theorem step_committed (traced : s.Traced topology) (network : NetworkSound s.ledger)
    (sound : s.Sound) (step : OutboxSystem.Step (auditFabric topology) s t) :
    ∀ row ∈ t.db.outbox, row.status = .committed → t.ledger.Stores topology row.commitment := by
  have extends_ : s.ledger.Extends t.ledger := (step_ledger network step).2
  intro row member committed
  by_cases old : row ∈ s.db.outbox
  · exact (traced.committed row old committed).extends extends_
  · rcases sound.committed_reported step member committed old with
      ⟨before, present, key, attempt, found, own, _, _, status, reported, same, success⟩
    rcases traced.attempts attempt found with ⟨commitment, ⟨owner, ownerPresent, rfl⟩, ownerKey,
      name, mapped, transaction, endorsed, transactionId, commitmentJson⟩
    have rowKey : attempt.rowKey = before.key := congrArg Prod.fst own
    have keys : owner.key = before.key := ownerKey.trans rowKey
    -- The row has the commitment that the transaction was endorsed for.
    rcases step_has step ⟨owner, ownerPresent, rfl⟩ with ⟨later, laterPresent, laterSame⟩
    have laterKey : later.key = row.key :=
      (congrArg FabricCommitment.key laterSame).trans (keys.trans key)
    rw [t.db.outbox.unique laterPresent member laterKey] at laterSame
    rcases traced.reports _ reported with ⟨other, outcome, otherMapped, settled, code⟩
    rw [laterSame] at otherMapped
    obtain rfl : other = name := Option.some.inj (otherMapped.symm.trans mapped)
    have valid : outcome.validationCode = 0 := by
      apply Fin.ext
      have zero : (outcome.validationCode.val : Int) = 0 := code.symm.trans success
      exact Int.natCast_eq_zero.mp zero
    have isOutcome : (s.ledger other).outcomes transaction.transactionId = some outcome := by
      rw [transactionId, ← same]
      exact settled
    rcases (network other).endorsed transaction endorsed with ⟨value, parsed, _⟩
    have stored := (network other).committed transaction endorsed value outcome parsed isOutcome
      valid
    rw [commitmentJson] at parsed
    rw [laterSame]
    exact ⟨other, value, mapped, parsed, (extends_ other).stored value stored⟩

/-- The system and the channels behind it. -/
structure OutboxSystem.Delivers (topology : TenantId → Option String) (s : OutboxSystem Network) :
    Prop where
  sound : s.Sound
  network : NetworkSound s.ledger
  traced : s.Traced topology

theorem OutboxSystem.Delivers.step (delivers : s.Delivers topology)
    (step : OutboxSystem.Step (auditFabric topology) s t) : t.Delivers topology where
  sound := delivers.sound.run (Relation.ReflTransGen.single step)
  network := (step_ledger delivers.network step).1
  traced := {
    phases := step_phases delivers.traced delivers.network step
    calls := step_calls delivers.traced delivers.network step
    attempts := step_attempts delivers.traced delivers.network step
    reports := step_reports delivers.traced delivers.network step
    committed := step_committed delivers.traced delivers.network delivers.sound step }

theorem OutboxSystem.Delivers.run (delivers : s.Delivers topology)
    (run : OutboxSystem.Run (auditFabric topology) s t) :
    t.Delivers topology ∧ s.ledger.Extends t.ledger := by
  induction run with
  | refl => exact ⟨delivers, fun name => Channel.Extends.refl _⟩
  | tail _ step ih =>
      exact ⟨ih.1.step step, fun name =>
        (ih.2 name).trans ((step_ledger ih.1.network step).2 name)⟩

/-- No transaction has been endorsed on any channel. -/
def EmptyNetwork (network : Network) : Prop := network = fun _ => Channel.empty

theorem OutboxSystem.Reachable.delivers
    (reachable : OutboxSystem.Reachable (auditFabric topology) EmptyNetwork s) :
    s.Delivers topology := by
  rcases reachable with ⟨clock, network, rfl, run⟩
  have first : (OutboxSystem.initial clock fun _ => Channel.empty).Delivers topology := {
    sound := ⟨deliveryHistory_empty, leased_initial clock _, witnessed_initial clock _⟩
    network := fun _ => channelSound_empty
    traced := {
      phases := fun _ => trivial
      calls := fun _ member => by cases member
      attempts := fun _ member => absurd member (Table.not_mem_empty _)
      reports := fun _ member => by cases member
      committed := fun _ member => absurd member (Table.not_mem_empty _) } }
  exact (first.run run).1

end Traces

end TenantTrust.Audit
