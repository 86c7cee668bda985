import TenantTrust.Audit.OutboxLeases

/-! The safety of the outbox in every run of its workers. -/

namespace TenantTrust.Audit

open Library Identity

/-- The verdict that a call brings to the database, and the tenant that it was asked for. -/
def OutboxCall.verdict? : OutboxCall → Option (TenantId × CommitVerdict)
  | .markCommitted p => some (p.tenantId, p.verdict)
  | .markCommitFailed p => some (p.tenantId, p.verdict)
  | _ => none

theorem validateStatus_eq_some {status : CommitStatus} {transactionId : TransactionId}
    {verdict : CommitVerdict} (valid : validateStatus status transactionId = some verdict) :
    status.transactionId = transactionId ∧ verdict = ⟨transactionId, status.validationCode,
      status.blockNumber, status.source⟩ := by
  unfold validateStatus at valid
  split at valid
  · rename_i checked
    exact ⟨checked.1, (Option.some.inj valid).symm⟩
  · cases valid

section Database

variable {Ledger : Type} {fabric : Fabric Ledger} {s t : OutboxSystem Ledger}

theorem execute_db (s : OutboxSystem Ledger) (locked : List OutboxKey) (call : OutboxCall)
    (others : List OutboxCall) : (s.execute locked call others).1.db =
      Transaction.commit applyOutbox s.db (.call s.clock locked call) := by
  have called : applyOutbox (.call s.clock locked call) s.db =
      applyCall s.clock locked call s.db := rfl
  unfold OutboxSystem.execute Transaction.commit
  rw [called]
  cases applyCall s.clock locked call s.db with
  | error failure => rfl
  | ok pair => rfl

theorem execute_others (s : OutboxSystem Ledger) (locked : List OutboxKey) (call : OutboxCall)
    (others : List OutboxCall) : (s.execute locked call others).1.inFlight = others ∧
      (s.execute locked call others).1.workers = s.workers ∧
      (s.execute locked call others).1.reports = s.reports := by
  unfold OutboxSystem.execute
  cases applyCall s.clock locked call s.db with
  | error failure => exact ⟨rfl, rfl, rfl⟩
  | ok pair => exact ⟨rfl, rfl, rfl⟩

/-- A step leaves the database alone, or executes an enqueue or a call in flight. -/
theorem step_database (step : OutboxSystem.Step fabric s t) : t.db = s.db ∨
    ∃ op, t.db = Transaction.commit applyOutbox s.db op ∧
      ∀ clock locked call, op = .call clock locked call → call ∈ s.inFlight := by
  cases step with
  | advance step =>
      cases step with
      | answer worker call awaited front back awaits pending =>
          right
          refine ⟨.call s.clock [] call, execute_db s [] call (front ++ back), ?_⟩
          intro _ _ _ same
          cases same
          simp [pending]
      | _ => exact Or.inl rfl
  | contend worker locked call awaited front back awaits pending =>
      right
      refine ⟨.call s.clock locked call, execute_db s locked call (front ++ back), ?_⟩
      intro _ _ _ same
      cases same
      simp [pending]
  | enqueue currentTenantId p =>
      exact Or.inr ⟨.enqueue currentTenantId s.clock p, rfl, fun _ _ _ same => by cases same⟩
  | deliver locked call front back pending =>
      right
      refine ⟨.call s.clock locked call, execute_db s locked call (front ++ back), ?_⟩
      intro _ _ _ same
      cases same
      simp [pending]
  | _ => exact Or.inl rfl

/-- What every successful operation preserves, every step preserves. -/
theorem step_preserves {Inv : CommitmentDatabase → Prop} (holds : Inv s.db)
    (preserved : ∀ op next reply, applyOutbox op s.db = .ok (next, reply) → Inv next)
    (step : OutboxSystem.Step fabric s t) : Inv t.db := by
  rcases step_database step with same | ⟨op, same, _⟩
  · rw [same]
    exact holds
  · rw [same]
    exact Transaction.commit_preserves holds (preserved op)

theorem run_preserves {Inv : CommitmentDatabase → Prop}
    (preserved : ∀ db op next reply, Inv db → applyOutbox op db = .ok (next, reply) → Inv next)
    (run : OutboxSystem.Run fabric s t) (holds : Inv s.db) : Inv t.db := by
  induction run with
  | refl => exact holds
  | tail _ step ih =>
      exact step_preserves ih (fun op next reply => preserved _ op next reply ih) step

theorem DeliveryHistory.run (history : DeliveryHistory s.db) (run : OutboxSystem.Run fabric s t) :
    DeliveryHistory t.db :=
  run_preserves (fun _ _ _ _ held succeeds => held.effect (applyOutbox_effect succeeds)) run history

theorem committed_run {row : FabricCommitmentRow} (run : OutboxSystem.Run fabric s t)
    (present : row ∈ s.db.outbox) (committed : row.status = .committed) : row ∈ t.db.outbox := by
  have step : ∀ db op next reply, row ∈ db.outbox → applyOutbox op db = .ok (next, reply) →
      row ∈ next.outbox :=
    fun _ _ _ _ member succeeds => (applyOutbox_effect succeeds).committed_persists member committed
  exact run_preserves step run present

theorem attempt_run {attempt : FabricCommitmentAttempt} (run : OutboxSystem.Run fabric s t)
    (present : attempt ∈ s.db.attempts) : ∃ later ∈ t.db.attempts, later.key = attempt.key ∧
      later.transactionId = attempt.transactionId := by
  let Kept (db : CommitmentDatabase) : Prop := ∃ later ∈ db.attempts, later.key = attempt.key ∧
    later.transactionId = attempt.transactionId
  have step : ∀ db op next reply, Kept db → applyOutbox op db = .ok (next, reply) → Kept next := by
    intro db op next reply kept succeeds
    rcases kept with ⟨later, member, key, same⟩
    rcases (applyOutbox_effect succeeds).attempt_persists member with
      ⟨next, nextMember, nextKey, nextSame⟩
    exact ⟨next, nextMember, nextKey.trans key, nextSame.trans same⟩
  exact run_preserves step run ⟨attempt, present, rfl, rfl⟩

end Database

section Reports

variable {Ledger : Type} {fabric : Fabric Ledger} {s t : OutboxSystem Ledger}

/-- The network has reported what the verdict says. -/
def OutboxSystem.Reported (s : OutboxSystem Ledger) (tenantId : TenantId)
    (verdict : CommitVerdict) : Prop :=
  ∃ status, (tenantId, status) ∈ s.reports ∧
    validateStatus status verdict.transactionId = some verdict

/-- Every verdict that a worker holds or has sent was reported. -/
structure Witnessed (s : OutboxSystem Ledger) : Prop where
  phases : ∀ worker claim path verdict, s.workers worker = .reported claim path verdict →
    s.Reported claim.tenantId verdict
  calls : ∀ call ∈ s.inFlight, ∀ tenantId verdict, call.verdict? = some (tenantId, verdict) →
    s.Reported tenantId verdict

theorem witnessed_initial (clock : Timestamp) (ledger : Ledger) :
    Witnessed (OutboxSystem.initial clock ledger) where
  phases _ _ _ _ same := by cases same
  calls _ member := by cases member

theorem Witnessed.setWorker (witnessed : Witnessed s) (worker : Nat) {phase : WorkerPhase}
    (own : ∀ claim path verdict, phase = .reported claim path verdict →
      s.Reported claim.tenantId verdict) : Witnessed (s.setWorker worker phase) where
  phases other claim path verdict same := by
    by_cases equal : other = worker
    · rw [equal] at same
      have phaseSame : phase = .reported claim path verdict := by
        rw [← same]
        exact (Function.update_self worker phase s.workers).symm
      exact own claim path verdict phaseSame
    · have old : s.workers other = .reported claim path verdict := by
        rw [← same]
        exact (Function.update_of_ne equal phase s.workers).symm
      exact witnessed.phases other claim path verdict old
  calls := witnessed.calls

theorem resume_not_reported (awaited : Awaited) (reply : Except (Option String) OutboxReply)
    (claim : ConfirmationClaim) (path : ConfirmationPath) (verdict : CommitVerdict) :
    WorkerPhase.resume awaited reply ≠ .reported claim path verdict := by
  unfold WorkerPhase.resume
  split
  · simp
  · simp
  · split <;> simp
  · simp
  · simp
  · simp
  · simp

theorem Witnessed.execute (witnessed : Witnessed s) (locked : List OutboxKey) {call : OutboxCall}
    {front back : List OutboxCall} (pending : s.inFlight = front ++ call :: back) :
    Witnessed (s.execute locked call (front ++ back)).1 := by
  have same := execute_others s locked call (front ++ back)
  have reported : ∀ tenantId verdict, s.Reported tenantId verdict →
      (s.execute locked call (front ++ back)).1.Reported tenantId verdict := by
    intro tenantId verdict known
    rcases known with ⟨status, member, valid⟩
    exact ⟨status, by rw [same.2.2]; exact member, valid⟩
  refine ⟨?_, ?_⟩
  · intro worker claim path verdict phase
    rw [same.2.1] at phase
    exact reported _ _ (witnessed.phases worker claim path verdict phase)
  · intro other member tenantId verdict brings
    rw [same.1] at member
    refine reported _ _ (witnessed.calls other ?_ tenantId verdict brings)
    rw [pending]
    rcases List.mem_append.mp member with before | after
    · exact List.mem_append_left _ before
    · exact List.mem_append_right _ (List.mem_cons_of_mem _ after)

theorem Witnessed.send (witnessed : Witnessed s) {worker : Nat} {workerId : String}
    {claimToken : AuditClaimToken} {now : Timestamp} {call : OutboxCall} {awaited : Awaited}
    (sends : (s.workers worker).next? workerId claimToken now = some (call, awaited)) :
    ∀ tenantId verdict, call.verdict? = some (tenantId, verdict) →
      s.Reported tenantId verdict := by
  intro tenantId verdict brings
  cases phase : s.workers worker with
  | reported claim path known =>
      rw [phase] at sends
      cases sends
      have same : (claim.tenantId, known) = (tenantId, verdict) := by
        unfold WorkerPhase.finish at brings
        split at brings
        · exact Option.some.inj brings
        · exact Option.some.inj brings
      cases same
      exact witnessed.phases worker claim path _ phase
  | _ =>
      rw [phase] at sends
      cases sends
      all_goals cases brings

theorem Witnessed.advance (witnessed : Witnessed s) (step : OutboxSystem.Advance fabric s t) :
    Witnessed t := by
  cases step with
  | tick clock later => exact ⟨witnessed.phases, witnessed.calls⟩
  | send worker workerId claimToken now call awaited named fresh sends =>
      have extended : Witnessed { s with
          inFlight := s.inFlight ++ [call]
          drawn := claimToken :: s.drawn } := by
        refine ⟨witnessed.phases, ?_⟩
        intro other member tenantId verdict brings
        rcases List.mem_append.mp member with old | isNew
        · exact witnessed.calls other old tenantId verdict brings
        · rw [List.mem_singleton.mp isNew] at brings
          exact witnessed.send sends tenantId verdict brings
      exact extended.setWorker worker fun _ _ _ same => by cases same
  | answer worker call awaited front back awaits pending =>
      exact (witnessed.execute [] pending).setWorker worker
        fun claim path verdict same => absurd same (resume_not_reported _ _ claim path verdict)
  | submit worker claim ledger submission holds submits =>
      have moved : Witnessed { s with ledger := ledger } := ⟨witnessed.phases, witnessed.calls⟩
      refine moved.setWorker worker ?_
      intro _ _ _ same
      unfold WorkerPhase.onSubmission at same
      split at same <;> cases same
  | report worker claim path status asks reports =>
      have extended : Witnessed { s with reports := (claim.tenantId, status) :: s.reports } := by
        have wider : ∀ tenantId verdict, s.Reported tenantId verdict → OutboxSystem.Reported
            { s with reports := (claim.tenantId, status) :: s.reports } tenantId verdict := by
          intro tenantId verdict known
          rcases known with ⟨old, member, valid⟩
          exact ⟨old, List.mem_cons_of_mem _ member, valid⟩
        exact ⟨fun worker claim path verdict phase =>
          wider _ _ (witnessed.phases worker claim path verdict phase),
          fun call member tenantId verdict brings =>
            wider _ _ (witnessed.calls call member tenantId verdict brings)⟩
      refine extended.setWorker worker ?_
      intro other otherPath verdict same
      unfold WorkerPhase.onStatus at same
      split at same
      · rename_i known valid
        cases same
        have spec := validateStatus_eq_some valid
        refine ⟨status, List.mem_cons_self, ?_⟩
        rw [show verdict.transactionId = claim.transactionId by rw [spec.2]]
        exact valid
      · cases same

theorem Witnessed.step (witnessed : Witnessed s) (step : OutboxSystem.Step fabric s t) :
    Witnessed t := by
  cases step with
  | advance step => exact witnessed.advance step
  | contend worker locked call awaited front back awaits pending =>
      exact (witnessed.execute locked pending).setWorker worker
        fun claim path verdict same => absurd same (resume_not_reported _ _ claim path verdict)
  | proceed ledger moves => exact ⟨witnessed.phases, witnessed.calls⟩
  | enqueue currentTenantId p => exact ⟨witnessed.phases, witnessed.calls⟩
  | deliver locked call front back pending => exact witnessed.execute locked pending
  | lose worker call awaited reasonCode awaits =>
      exact witnessed.setWorker worker
        fun claim path verdict same => absurd same (resume_not_reported _ _ claim path verdict)
  | unavailable worker claim path reasonCode asks =>
      exact witnessed.setWorker worker fun _ _ _ same => by cases same
  | submitUnheard worker claim ledger submission reasonCode holds submits =>
      have moved : Witnessed { s with ledger := ledger } := ⟨witnessed.phases, witnessed.calls⟩
      exact moved.setWorker worker fun _ _ _ same => by cases same
  | refuse worker claim reasonCode holds =>
      exact witnessed.setWorker worker fun _ _ _ same => by cases same
  | crash worker => exact witnessed.setWorker worker fun _ _ _ same => by cases same

end Reports

section Protocol

variable {Ledger : Type} {fabric : Fabric Ledger} {s t : OutboxSystem Ledger}

/-- The invariant of the whole system. -/
structure OutboxSystem.Sound (s : OutboxSystem Ledger) : Prop where
  history : DeliveryHistory s.db
  leased : Leased s
  witnessed : Witnessed s

theorem OutboxSystem.Sound.run (sound : s.Sound) (run : OutboxSystem.Run fabric s t) : t.Sound := by
  induction run with
  | refl => exact sound
  | tail _ step ih =>
      exact ⟨ih.history.run (Relation.ReflTransGen.single step), ih.leased.step step,
        ih.witnessed.step step⟩

theorem OutboxSystem.Reachable.sound {start : Ledger → Prop}
    (reachable : OutboxSystem.Reachable fabric start s) : s.Sound := by
  rcases reachable with ⟨clock, ledger, _, run⟩
  have first : (OutboxSystem.initial clock ledger).Sound :=
    ⟨deliveryHistory_empty, leased_initial clock ledger, witnessed_initial clock ledger⟩
  exact first.run run

/-- What the protocol promises of a state and of everything that follows it. -/
structure OutboxSystem.Safe (fabric : Fabric Ledger) (s : OutboxSystem Ledger) : Prop where
  committed_final : ∀ row ∈ s.db.outbox, row.status = .committed →
    ∀ later, OutboxSystem.Run fabric s later → row ∈ later.db.outbox
  committed_reported : ∀ next, OutboxSystem.Step fabric s next → ∀ row ∈ next.db.outbox,
    row.status = .committed → row ∉ s.db.outbox →
    ∃ before ∈ s.db.outbox, before.key = row.key ∧ ∃ attempt ∈ s.db.attempts,
      attempt.key = (before.key, before.attemptCount) ∧ attempt.state = .submitted ∧
      row.transactionId = some attempt.transactionId ∧
      ∃ status, (row.commitment.tenantId, status) ∈ s.reports ∧
        status.transactionId = attempt.transactionId ∧ status.validationCode = 0
  one_committed : ∀ left ∈ s.db.attempts, ∀ right ∈ s.db.attempts, left.rowKey = right.rowKey →
    left.state = .committed → right.state = .committed → left = right
  numbers_distinct : ∀ left ∈ s.db.attempts, ∀ right ∈ s.db.attempts,
    left.rowKey = right.rowKey → left.attemptNumber = right.attemptNumber → left = right
  numbers_bounded : ∀ attempt ∈ s.db.attempts, 0 < attempt.attemptNumber ∧
    ∃ row ∈ s.db.outbox, row.key = attempt.rowKey ∧ attempt.attemptNumber ≤ row.attemptCount
  transactions_kept : ∀ row ∈ s.db.outbox, ∀ transactionId,
    row.transactionId = some transactionId → ∀ later, OutboxSystem.Run fabric s later →
    ∃ attempt ∈ later.db.attempts, attempt.rowKey = row.key ∧
      attempt.transactionId = transactionId
  tokens_distinct : (s.leases.map Prod.snd).Nodup
  stale_tokens : ∀ call key claimToken, OutboxCall.holder? call = some (key, claimToken) →
    (lastLease s.leases key ≠ some claimToken ∨
      ∀ row ∈ s.db.outbox, row.key = key → row.claimToken ≠ some claimToken) →
    ∀ clock locked, Transaction.commit applyOutbox s.db (.call clock locked call) = s.db
  rows_valid : ∀ row ∈ s.db.outbox, row.stateShape = true ∧ row.timeOrder = true
  shape_never_refused : ∀ op, applyOutbox op s.db ≠ .error STATE_SHAPE

theorem OutboxSystem.Sound.committed_reported (sound : s.Sound) {next : OutboxSystem Ledger}
    (step : OutboxSystem.Step fabric s next) {row : FabricCommitmentRow}
    (member : row ∈ next.db.outbox) (committed : row.status = .committed)
    (isNew : row ∉ s.db.outbox) :
    ∃ before ∈ s.db.outbox, before.key = row.key ∧ ∃ attempt ∈ s.db.attempts,
      attempt.key = (before.key, before.attemptCount) ∧ attempt.state = .submitted ∧
      row.transactionId = some attempt.transactionId ∧
      ∃ status, (row.commitment.tenantId, status) ∈ s.reports ∧
        status.transactionId = attempt.transactionId ∧ status.validationCode = 0 := by
  rcases step_database step with same | ⟨op, same, called⟩
  · rw [same] at member
    exact absurd member isNew
  · rw [same] at member
    rcases Transaction.commit_cases applyOutbox s.db op with aborted | ⟨reply, succeeds⟩
    · rw [aborted] at member
      exact absurd member isNew
    · rcases (applyOutbox_effect succeeds).becomes_committed sound.history member committed isNew
        with ⟨p, held, by_⟩
      rcases by_.called with ⟨clock, locked, isCall⟩
      rcases by_.current with ⟨attempt, found, own, sameId, submitted⟩
      have reported := sound.witnessed.calls _ (called clock locked _ isCall) p.tenantId p.verdict
        rfl
      rcases reported with ⟨status, known, valid⟩
      have spec := validateStatus_eq_some valid
      have tenant : row.commitment.tenantId = p.tenantId :=
        congrArg Prod.fst (by_.same.trans by_.key : row.key = (p.tenantId, p.eventId))
      have code : status.validationCode = p.verdict.validationCode := by rw [spec.2]
      refine ⟨held, by_.present, by_.same.symm, attempt, found, own, submitted, ?_,
        status, ?_, ?_, ?_⟩
      · rw [sameId]
        exact by_.transaction
      · rw [tenant]
        exact known
      · rw [sameId]
        exact spec.1
      · exact code.trans by_.success

/-- In every state that any number of workers can bring about, with any losses and delays, the
outbox is safe, whatever the network does. -/
theorem outbox_protocol (fabric : Fabric Ledger) (start : Ledger → Prop) (s : OutboxSystem Ledger)
    (reachable : OutboxSystem.Reachable fabric start s) : s.Safe fabric := by
  have sound := reachable.sound
  exact {
    committed_final := fun row member committed later run => committed_run run member committed
    committed_reported := fun next step row member committed isNew =>
      sound.committed_reported step member committed isNew
    one_committed := fun left leftMember right rightMember =>
      sound.history.one_committed leftMember rightMember
    numbers_distinct := by
      intro left leftMember right rightMember owner number
      apply s.db.attempts.unique leftMember rightMember
      rw [FabricCommitmentAttempt.key, FabricCommitmentAttempt.key, owner, number]
    numbers_bounded := fun attempt member => sound.history.number_bounded member
    transactions_kept := by
      intro row member transactionId has later run
      rcases sound.history.recorded row member transactionId has with ⟨attempt, found, own, same⟩
      rcases attempt_run run found with ⟨last, lastFound, lastKey, lastSame⟩
      exact ⟨last, lastFound, congrArg Prod.fst (lastKey.trans own), lastSame.trans same⟩
    tokens_distinct := (List.nodup_append.mp sound.leased.distinct).1
    stale_tokens := by
      intro call key claimToken holder stale clock locked
      apply unheld_changes_nothing holder
      rcases stale with superseded | released
      · intro row member same held
        have last := sound.leased.held row member claimToken held
        rw [same] at last
        exact superseded last
      · exact released
    rows_valid := fun row member =>
      ⟨(sound.history.valid row member).shape, (sound.history.valid row member).times⟩
    shape_never_refused := fun op refused =>
      applyOutbox_avoids sound.history op STATE_SHAPE refused rfl }

end Protocol

/-- The commitment of a trust transition. -/
def transitionCommitment : FabricCommitment where
  tenantId := ⟨1⟩
  eventId := ⟨1⟩
  channelName := "tt-audit-main-v1"
  eventType := .trustUpdated
  recordType := .trustTransition
  eventDocument := {
    eventId := ⟨1⟩
    tenantId := ⟨1⟩
    subjectId := some ⟨1⟩
    aggregateId := .trustTransition ⟨1⟩
    correlationId := ⟨1⟩
    causationId := none
    idempotencyKey := .other "trust-transition:1"
    occurredAt := 0
    recordedAt := 0
    producer := ⟨"trust-service", "trust-service-1"⟩
    payload := .trust ⟨⟨1⟩, 50, [⟨1⟩]⟩ }
  canonicalPreimageJson := "{}"
  ledgerKey := ⟨.trustTransition, ⟨1⟩⟩
  eventKeyHashSha256 := ⟨1⟩
  commitmentHashSha256 := ⟨2⟩
  ledgerValue := ⟨.trustTransition, ⟨1⟩, ⟨2⟩⟩

/-- The system right after that commitment has been enqueued. -/
def enqueuedSystem {Ledger : Type} (ledger : Ledger) : OutboxSystem Ledger :=
  { OutboxSystem.initial 0 ledger with
    db := Transaction.commit applyOutbox CommitmentDatabase.empty
      (.enqueue ⟨1⟩ 0 ⟨transitionCommitment, 0⟩) }

theorem enqueuedSystem_reachable {Ledger : Type} (fabric : Fabric Ledger) (start : Ledger → Prop)
    (ledger : Ledger) (starts : start ledger) :
    OutboxSystem.Reachable fabric start (enqueuedSystem ledger) := by
  have step : OutboxSystem.Step fabric (OutboxSystem.initial 0 ledger) (enqueuedSystem ledger) :=
    .enqueue ⟨1⟩ ⟨transitionCommitment, 0⟩
  exact ⟨0, ledger, starts, Relation.ReflTransGen.single step⟩

theorem enqueuedSystem_rows {Ledger : Type} (ledger : Ledger) :
    (enqueuedSystem ledger).db.outbox.rows =
      [CommitmentEnqueue.row ⟨transitionCommitment, 0⟩] := by
  have rows : (Transaction.commit applyOutbox CommitmentDatabase.empty
      (.enqueue ⟨1⟩ 0 ⟨transitionCommitment, 0⟩)).outbox.rows =
        [CommitmentEnqueue.row ⟨transitionCommitment, 0⟩] := by decide +kernel
  exact rows

end TenantTrust.Audit
