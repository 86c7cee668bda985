import TenantTrust.Trust.FloodSafety

/-! Runs of interleaved guard calls: every call ends with a decision, no window is overfull, and
a source is suspended exactly at its threshold. -/

namespace TenantTrust.Trust

open Library Identity

variable {digests : EvidenceDigests}

theorem acceptedBy_refused {candidate : ReplayCandidate} {decision : GuardDecision}
    (refused : decision.accepted = false) (source : SourceKey) :
    acceptedBy (some ⟨candidate, .ok decision⟩) source = 0 := by
  simp [acceptedBy, CallEnd.accepted, refused]

theorem acceptedBy_failed (candidate : ReplayCandidate) (failure : SqlError)
    (source : SourceKey) : acceptedBy (some ⟨candidate, .error failure⟩) source = 0 := by
  simp [acceptedBy, CallEnd.accepted]

/-- What a change by an administrator does to the tables of the guard. -/
structure ControlEffect (db next : EvidenceDatabase) : Prop where
  receipts : next.receipts = db.receipts
  ingestion : next.ingestion = db.ingestion
  changed : ∃ old new, db.sources.get? new.key = some old ∧ new.createdAt = old.createdAt ∧
    next.sources = db.sources.upsert new ∧ next.rates = db.rates.delete new.key

theorem configure_controlEffect {session : AdminSession} {p : SafeguardsCall}
    {db next : EvidenceDatabase} {source : EvidenceSource}
    (succeeded : configureEvidenceSourceSafeguards session p db = .ok (next, source)) :
    ControlEffect db next := by
  simp only [configureEvidenceSourceSafeguards, Checked.bind_eq_ok, Checked.require_eq_ok,
    Checked.requireSome_eq_ok, Checked.pure_eq_ok, exists_const, Prod.mk.injEq] at succeeded
  obtain ⟨_, safeguards, _, old, registered, _, stored, updated, rfl, _⟩ := succeeded
  obtain ⟨_, rfl⟩ := storeSource_eq_ok updated
  have key := Table.get?_key registered
  rw [← key] at registered
  exact ⟨rfl, rfl, old, { old with
    safeguards := safeguards
    version := old.version + 1
    updatedAt := max session.clock p.occurredAt }, registered, rfl, rfl, rfl⟩

theorem setSuspension_controlEffect {session : AdminSession} {p : SuspensionCall}
    {db next : EvidenceDatabase} {source : EvidenceSource}
    (succeeded : setEvidenceSourceSuspension session p db = .ok (next, source)) :
    ControlEffect db next := by
  simp only [setEvidenceSourceSuspension, Checked.bind_eq_ok, Checked.require_eq_ok,
    Checked.requireSome_eq_ok, Checked.pure_eq_ok, exists_const, Prod.mk.injEq] at succeeded
  obtain ⟨_, old, registered, _, _, stored, updated, rfl, _⟩ := succeeded
  obtain ⟨_, rfl⟩ := storeSource_eq_ok updated
  have key := Table.get?_key registered
  rw [← key] at registered
  exact ⟨rfl, rfl, old, old.withState (if p.suspended = some true then .suspended else .active)
    (max session.clock p.occurredAt), registered, rfl, rfl, rfl⟩

namespace FloodSafe

variable {origin : Instant} {system : FloodSystem} {tally : WindowTally}

/-- A call without the lock that is refused. -/
theorem finish (safe : FloodSafe digests origin ⟨system, tally⟩) {session : GuardSession}
    {innerNow : Instant} {p : ReplayCandidate} {next : EvidenceDatabase}
    {decision : GuardDecision} (past : innerNow ≤ system.clock)
    (outcome : ReplayOutcome digests session innerNow p system.db next decision)
    (refused : decision.accepted = false) :
    FloodSafe digests origin ⟨{ system with db := next },
      tally.after system.db next (some ⟨p, .ok decision⟩)⟩ := by
  obtain ⟨sources, rates, _⟩ := outcome.surroundings
  rw [tally.after_unaccepted rates (acceptedBy_refused refused)]
  constructor
  · obtain ⟨accepted, replaySafe⟩ := safe.replaySafe
    exact ⟨accepted, replaySafe.of_refused outcome refused⟩
  · intro epoch state found
    exact outcome.createdAt past safe.opened found
  · intro key source found
    dsimp only at found
    rw [sources] at found
    exact safe.registered key source found
  · exact safe.now
  · exact safe.started
  · intro key
    dsimp only
    rw [rates]
    exact safe.counted key
  · intro key source rate found stored
    dsimp only at found stored
    rw [sources] at found
    rw [rates] at stored
    exact safe.bounded key source rate found stored

/-- A change of the safeguards or the state of a source closes its window. -/
theorem control (safe : FloodSafe digests origin ⟨system, tally⟩) {next : EvidenceDatabase}
    (effect : ControlEffect system.db next) :
    FloodSafe digests origin ⟨{ system with db := next }, tally.after system.db next none⟩ := by
  obtain ⟨old, new, before, created, sources, rates⟩ := effect.changed
  constructor
  · obtain ⟨accepted, replaySafe⟩ := safe.replaySafe
    refine ⟨accepted, replaySafe.of_opened effect.receipts fun epoch => Or.inl ?_⟩
    rw [effect.ingestion]
  · intro epoch state found
    dsimp only at found
    rw [effect.ingestion] at found
    exact safe.opened epoch state found
  · intro key source found
    dsimp only at found
    rw [sources, Table.get?_upsert] at found
    split at found
    · rw [← Option.some.inj found, created]
      exact safe.registered _ old before
    · exact safe.registered key source found
  · exact safe.now
  · exact safe.started
  · intro key
    have counted := safe.counted key
    dsimp only at counted ⊢
    rw [WindowTally.after, windowStart?, windowStart?, rates, Table.get?_delete]
    by_cases same : key = new.key
    · rw [if_pos same]
      cases present : system.db.rates.get? key with
      | none =>
          rw [present] at counted
          simpa [acceptedBy] using counted
      | some rate => simp [acceptedBy]
    · rw [if_neg same, if_pos rfl, counted]
      rfl
  · intro key source rate found stored
    dsimp only at found stored
    rw [rates, Table.get?_delete] at stored
    rw [sources, Table.get?_upsert] at found
    by_cases same : key = new.key
    · simp [same] at stored
    · rw [if_neg same] at stored
      rw [if_neg (Ne.symm same)] at found
      exact safe.bounded key source rate found stored

/-- A candidate in order takes a sequence number that no receipt of its key has. -/
theorem sequences (safe : FloodSafe digests origin ⟨system, tally⟩) {p : ReplayCandidate}
    {now : Instant}
    (order : p.InOrder digests system.db.receipts.rows (system.db.ingestionState p now)) :
    ∀ other ∈ system.db.receipts, other.epoch = p.epoch →
      other.sourceSequence ≠ p.sourceSequence := by
  intro other member epoch
  obtain ⟨history, replaySafe⟩ := safe.replaySafe
  obtain ⟨acceptance, present, influence, rfl⟩ := replaySafe.acceptance member
  have under : acceptance ∈ underEpoch p.epoch history :=
    List.mem_filter.mpr ⟨present, decide_eq_true epoch⟩
  exact (replaySafe.precedes order 0 under).sequence.ne

/-- A well-formed call that is not late ends with a decision. -/
theorem lock_succeeds (safe : FloodSafe digests origin ⟨system, tally⟩)
    {session : GuardSession} {now : Instant} {p : ReplayCandidate} {source : EvidenceSource}
    (wellFormed : p.wellFormed = true) (after : origin ≤ now)
    (context : verificationContext session p system.db = some source)
    (timely : TimelyUnderLock digests session now system.clock p source system.db) :
    ∃ next decision, applyUnderLock digests session now system.clock p source system.db =
      .ok (next, decision) := by
  have registered := (verificationContext_eq_some.mp context).1
  refine applyUnderLock_succeeds wellFormed context timely ?_ ?_ safe.sequences
  · exact le_trans (safe.registered _ source registered) after
  · unfold EvidenceDatabase.ingestionState
    cases present : system.db.ingestion.get? p.epoch with
    | none => exact le_refl _
    | some stored => exact safe.opened _ stored present

end FloodSafe

/-- An active source is suspended by a call exactly if the counter has reached the threshold. -/
def SuspendsAtThreshold (before after : EvidenceDatabase) (key : SourceKey) : Prop :=
  ∀ source, before.sources.get? key = some source → source.state = .active →
    ((∃ next, after.sources.get? key = some next ∧ next.state = .suspended) ↔
      ∃ rate, after.rates.get? key = some rate ∧
        rate.rateLimitedCount = source.safeguards.rateLimitSuspensionThreshold)

theorem FloodEffect.suspends {p : ReplayCandidate} {source : EvidenceSource}
    {window rate : SourceRateState} {db next : EvidenceDatabase} {decision : GuardDecision}
    (effect : FloodEffect p source window db next decision rate)
    (registered : db.sources.get? p.source = some source) :
    SuspendsAtThreshold db next p.source := by
  intro other found active
  obtain rfl : source = other := Option.some.inj (registered.symm.trans found)
  have key : source.key = p.source := Table.get?_key registered
  constructor
  · intro suspended
    obtain ⟨after, present, state⟩ := suspended
    refine ⟨rate, effect.stored, ?_⟩
    rcases effect.control with ⟨same, _⟩ | ⟨_, reached⟩
    · rw [same, registered] at present
      obtain rfl := Option.some.inj present
      rw [active] at state
      simp at state
    · exact reached
  · intro reached
    obtain ⟨stored, present, count⟩ := reached
    obtain rfl : rate = stored := Option.some.inj (effect.stored.symm.trans present)
    rcases effect.control with ⟨_, fewer⟩ | ⟨⟨at_, suspended⟩, _⟩
    · omega
    · refine ⟨source.withState .suspended at_, ?_, rfl⟩
      have which : (source.withState .suspended at_).key = p.source := key
      rw [suspended, Table.get?_upsert, if_pos which]

/-- A call that leaves the sources and the windows alone suspends nothing. -/
theorem FloodSafe.suspends_same {origin : Instant} {history : FloodHistory}
    (safe : FloodSafe digests origin history) {next : EvidenceDatabase}
    (sources : next.sources = history.system.db.sources)
    (rates : next.rates = history.system.db.rates) (key : SourceKey) :
    SuspendsAtThreshold history.system.db next key := by
  intro source found active
  constructor
  · intro suspended
    obtain ⟨after, present, state⟩ := suspended
    rw [sources, found] at present
    obtain rfl := Option.some.inj present
    rw [active] at state
    simp at state
  · intro reached
    obtain ⟨rate, present, count⟩ := reached
    rw [rates] at present
    have fewer := (safe.bounded key source rate found present).2 active
    omega

/-- The end of a call, as the guard means it. -/
structure CallEnd.Decides (ended : CallEnd) (before after : EvidenceDatabase) : Prop where
  decided : ∃ decision, ended.result = .ok decision
  suspends : SuspendsAtThreshold before after ended.candidate.source

theorem FloodSafe.lock_step {origin : Instant} {system : FloodSystem} {tally : WindowTally}
    (safe : FloodSafe digests origin ⟨system, tally⟩) (id : Nat) {session : GuardSession}
    {now : Instant} {p : ReplayCandidate} {source : EvidenceSource}
    (wellFormed : p.wellFormed = true) (after : origin ≤ now)
    (context : verificationContext session p system.db = some source)
    (timely : TimelyUnderLock digests session now system.clock p source system.db) :
    let outcome := system.endCall id p
      (applyUnderLock digests session now system.clock p source system.db)
    FloodSafe digests origin ⟨outcome.1, tally.after system.db outcome.1.db outcome.2⟩ ∧
      ∀ ended, outcome.2 = some ended → ended.Decides system.db outcome.1.db := by
  obtain ⟨next, decision, succeeded⟩ := safe.lock_succeeds wellFormed after context timely
  have guarded : applyEvidenceReplayGuard digests session now system.clock p system.db =
      .ok (next, decision) := by
    simp only [applyEvidenceReplayGuard, context, succeeded]
  have safe_ := safe.lock context guarded
  obtain ⟨_, below⟩ := safe.window context now
  obtain ⟨rate, effect⟩ :=
    (applyEvidenceReplayGuard_outcome guarded).floodEffect context below
  simp only [FloodSystem.endCall, succeeded]
  refine ⟨safe_.setPending id none (by simp), ?_⟩
  intro ended same
  obtain rfl := Option.some.inj same
  exact ⟨⟨decision, rfl⟩, effect.suspends (verificationContext_eq_some.mp context).1⟩

theorem FloodSafe.finish_step {origin : Instant} {system : FloodSystem} {tally : WindowTally}
    (safe : FloodSafe digests origin ⟨system, tally⟩) (id : Nat) {session : GuardSession}
    {innerNow : Instant} {p : ReplayCandidate} (wellFormed : p.wellFormed = true)
    (past : innerNow ≤ system.clock)
    (timely : ∀ source, verificationContext session p system.db = some source →
      passesReplayChecks digests innerNow p source system.db = false) :
    let outcome := system.endCall id p
      (applyReplayGuardWithoutFloodControl digests session innerNow p system.db)
    FloodSafe digests origin ⟨outcome.1, tally.after system.db outcome.1.db outcome.2⟩ ∧
      ∀ ended, outcome.2 = some ended → ended.Decides system.db outcome.1.db := by
  obtain ⟨next, decision, succeeded⟩ : ∃ next decision,
      applyReplayGuardWithoutFloodControl digests session innerNow p system.db =
        .ok (next, decision) := by
    refine applyReplayGuardWithoutFloodControl_succeeds wellFormed ?_
    intro source context passes
    simp [timely source context] at passes
  have outcome := applyReplayGuardWithoutFloodControl_outcome succeeded
  have refused : decision.accepted = false := by
    cases granted : decision.accepted with
    | false => rfl
    | true =>
        obtain ⟨source, context, passes⟩ := outcome.passes granted
        simp [timely source context] at passes
  have safe_ := safe.finish past outcome refused
  simp only [FloodSystem.endCall, succeeded]
  refine ⟨safe_.setPending id none (by simp), ?_⟩
  intro ended same
  obtain rfl := Option.some.inj same
  obtain ⟨sources, rates, _⟩ := outcome.surroundings
  exact ⟨⟨decision, rfl⟩, safe.suspends_same sources rates _⟩

theorem FloodSafe.administer_step {origin : Instant} {system : FloodSystem}
    {tally : WindowTally} (safe : FloodSafe digests origin ⟨system, tally⟩)
    {result : Except SqlError (EvidenceDatabase × EvidenceSource)}
    (effect : ∀ next source, result = .ok (next, source) → ControlEffect system.db next) :
    FloodSafe digests origin ⟨system.administer result,
      tally.after system.db (system.administer result).db none⟩ := by
  cases result with
  | error failure =>
      simp only [FloodSystem.administer, WindowTally.after_same]
      exact safe
  | ok pair => exact safe.control (effect pair.1 pair.2 rfl)

/-- One step of a run. -/
theorem FloodSafe.step {origin : Instant} {history : FloodHistory}
    (safe : FloodSafe digests origin history) {op : FloodOp}
    (timely : Timely digests history op) :
    FloodSafe digests origin (Transaction.commit (applyFlood digests) history op) ∧
      ∀ ended, (history.system.step digests op).2 = some ended →
        ended.Decides history.system.db (history.system.step digests op).1.db := by
  obtain ⟨system, tally⟩ := history
  have quiet : ∀ next : FloodSystem, next.db = system.db →
      FloodSafe digests origin ⟨next, tally⟩ → system.step digests op = (next, none) →
      FloodSafe digests origin
          (Transaction.commit (applyFlood digests) ⟨system, tally⟩ op) ∧
        ∀ ended, (system.step digests op).2 = some ended →
          ended.Decides system.db (system.step digests op).1.db := by
    intro next same safe_ stepped
    have committed : Transaction.commit (applyFlood digests) ⟨system, tally⟩ op =
        ⟨next, tally⟩ := by
      simp only [Transaction.commit, applyFlood, stepped, same, WindowTally.after_same]
    rw [committed, stepped]
    exact ⟨safe_, by simp⟩
  cases op with
  | begin elapsed id candidate =>
      have ticked := safe.tick elapsed
      cases found : (system.tick elapsed).pending id with
      | some call =>
          exact quiet (system.tick elapsed) rfl ticked (by simp [FloodSystem.step, found])
      | none =>
          let call : PendingCall := ⟨candidate, (system.tick elapsed).clock, none⟩
          have started : FloodSafe digests origin
              ⟨(system.tick elapsed).setPending id (some call), tally⟩ := by
            refine ticked.setPending id (some call) fun present same => ?_
            obtain rfl := Option.some.inj same
            exact ⟨ticked.now, timely, by simp [call]⟩
          exact quiet ((system.tick elapsed).setPending id (some call)) rfl started
            (by simp [FloodSystem.step, found, call])
  | lock elapsed id session =>
      have ticked := safe.tick elapsed
      cases found : (system.tick elapsed).pending id with
      | none => exact quiet (system.tick elapsed) rfl ticked (by simp [FloodSystem.step, found])
      | some call =>
          obtain ⟨candidate, now, unlockedAt⟩ := call
          obtain ⟨after, wellFormed, _⟩ := ticked.started id _ found
          cases unlockedAt with
          | some innerNow =>
              exact quiet (system.tick elapsed) rfl ticked (by simp [FloodSystem.step, found])
          | none =>
              cases context : verificationContext session candidate (system.tick elapsed).db with
              | none =>
                  let call : PendingCall := ⟨candidate, now, some (system.tick elapsed).clock⟩
                  have unlocked : FloodSafe digests origin
                      ⟨(system.tick elapsed).setPending id (some call), tally⟩ := by
                    refine ticked.setPending id (some call) fun present same => ?_
                    obtain rfl := Option.some.inj same
                    refine ⟨after, wellFormed, fun innerNow read => ?_⟩
                    exact (Option.some.inj read).symm.le
                  exact quiet ((system.tick elapsed).setPending id (some call)) rfl unlocked
                    (by simp [FloodSystem.step, found, context, call])
              | some source =>
                  have stepped := ticked.lock_step id wellFormed after context
                    (timely candidate now source found context)
                  have ended : system.step digests (.lock elapsed id session) =
                      (system.tick elapsed).endCall id candidate (applyUnderLock digests session
                        now (system.tick elapsed).clock candidate source
                        (system.tick elapsed).db) := by
                    simp [FloodSystem.step, found, context]
                  simp only [Transaction.commit, applyFlood, ended]
                  exact stepped
  | finish elapsed id session =>
      have ticked := safe.tick elapsed
      cases found : (system.tick elapsed).pending id with
      | none => exact quiet (system.tick elapsed) rfl ticked (by simp [FloodSystem.step, found])
      | some call =>
          obtain ⟨candidate, now, unlockedAt⟩ := call
          obtain ⟨_, wellFormed, unlocked⟩ := ticked.started id _ found
          cases unlockedAt with
          | none =>
              exact quiet (system.tick elapsed) rfl ticked (by simp [FloodSystem.step, found])
          | some innerNow =>
              have stepped := ticked.finish_step id wellFormed
                (unlocked innerNow rfl)
                (fun source context => timely candidate now innerNow source found context)
              have ended : system.step digests (.finish elapsed id session) =
                  (system.tick elapsed).endCall id candidate
                    (applyReplayGuardWithoutFloodControl digests session innerNow candidate
                      (system.tick elapsed).db) := by
                simp [FloodSystem.step, found]
              simp only [Transaction.commit, applyFlood, ended]
              exact stepped
  | configure session call =>
      refine ⟨safe.administer_step fun next source succeeded =>
        configure_controlEffect succeeded, ?_⟩
      simp [FloodSystem.step]
  | setSuspension session call =>
      refine ⟨safe.administer_step fun next source succeeded =>
        setSuspension_controlEffect succeeded, ?_⟩
      simp [FloodSystem.step]

theorem FloodSafe.run {origin : Instant} {history : FloodHistory}
    (safe : FloodSafe digests origin history) (ops : List FloodOp)
    (timely : Transaction.Guarded (applyFlood digests) (Timely digests) history ops) :
    FloodSafe digests origin (runFlood digests history ops) := by
  induction ops generalizing history with
  | nil => exact safe
  | cons op ops ih => exact ih (safe.step timely.1).1 timely.2

theorem Timely.lock_of {history : FloodHistory} {elapsed id : Nat} {session : GuardSession}
    {candidate : ReplayCandidate} {now : Instant} {source : EvidenceSource}
    (started : history.system.pending id = some ⟨candidate, now, none⟩)
    (context : verificationContext session candidate history.system.db = some source)
    (timely : TimelyUnderLock digests session now (history.system.clock + elapsed) candidate
      source history.system.db) : Timely digests history (.lock elapsed id session) := by
  intro other at_ found pending registered
  have same : PendingCall.mk other at_ none = PendingCall.mk candidate now none :=
    Option.some.inj (pending.symm.trans started)
  obtain ⟨rfl, rfl, _⟩ := PendingCall.mk.inj same
  obtain rfl := Option.some.inj (registered.symm.trans context)
  exact timely

/-- Every step of a run without late calls: a call that ends has a decision, no window has more
acceptances than its limit, and the call suspends its source exactly when the counter of refused
items reaches the threshold. -/
theorem flood_control_decides (digests : EvidenceDigests) (start : FloodHistory)
    (initial : start.Initial) (ops : List FloodOp) (op : FloodOp)
    (timely : Transaction.Guarded (applyFlood digests) (Timely digests) start (ops ++ [op])) :
    let before := runFlood digests start ops
    let after := runFlood digests start (ops ++ [op])
    (∀ ended, (before.system.step digests op).2 = some ended →
      (∃ decision, ended.result = .ok decision) ∧
      SuspendsAtThreshold before.system.db after.system.db ended.candidate.source) ∧
    (∀ key source, after.system.db.sources.get? key = some source →
      after.tally key ≤ source.safeguards.rateLimitMaxEvents) := by
  obtain ⟨earlier, last, _⟩ := (Transaction.guarded_append start ops [op]).mp timely
  have safe : FloodSafe digests start.system.clock (runFlood digests start ops) :=
    initial.safe.run ops earlier
  obtain ⟨safe_, decides⟩ := safe.step last
  dsimp only
  rw [runFlood, Transaction.run_concat]
  constructor
  · intro ended same
    obtain ⟨decided, suspends⟩ := decides ended same
    exact ⟨decided, suspends⟩
  · intro key source found
    rw [safe_.counted key]
    cases stored : (Transaction.commit (applyFlood digests) (runFlood digests start ops)
        op).system.db.rates.get? key with
    | none => exact Nat.zero_le _
    | some rate => exact (safe_.bounded key source rate found stored).1

namespace FloodScenario

def history : FloodHistory := ⟨⟨interval 1, fun _ => none, start⟩, fun _ => 0⟩

theorem history_initial : history.Initial :=
  ⟨⟨rfl, rfl, rfl⟩, by decide +kernel, fun _ => rfl, fun _ => rfl⟩

/-- Two calls, of which the second takes the lock first. -/
def overtaken : List FloodOp :=
  [.begin 0 1 (candidate 1), .begin 1000000 2 (candidate 2), .lock 0 2 session]

def lateLock : FloodOp := .lock 0 1 session

def failureOf (ended : Option CallEnd) : Option SqlError :=
  match ended with
  | some ⟨_, .error failure⟩ => some failure
  | _ => none

/-- Two calls, of which the first takes the lock first. -/
def overlapping : List FloodOp :=
  [.begin 0 1 (candidate 1), .begin 1000000 2 (candidate 2), .lock 0 1 session]

def secondLock : FloodOp := .lock 0 2 session

def reasonOf (ended : Option CallEnd) : Option GuardReason :=
  match ended with
  | some ⟨_, .ok decision⟩ => decision.reasonCode
  | _ => none

end FloodScenario

/-- The call that read the clock first and takes the lock last breaks a constraint. -/
theorem overtaken_call_fails :
    ¬ ∀ (digests : EvidenceDigests) (start : FloodHistory), start.Initial →
      ∀ ops op,
        (∀ elapsed id candidate, FloodOp.begin elapsed id candidate ∈ ops ++ [op] →
          candidate.wellFormed = true) →
        ∀ ended, ((runFlood digests start ops).system.step digests op).2 = some ended →
          ∃ decision, ended.result = .ok decision := by
  intro claim
  have fails : FloodScenario.failureOf
      ((runFlood FloodScenario.hashes FloodScenario.history FloodScenario.overtaken).system.step
        FloodScenario.hashes FloodScenario.lateLock).2 =
      some (.checkViolation "evidence_source_rate_state_time_order") := by
    decide +kernel
  have wellFormed : ∀ elapsed id candidate, FloodOp.begin elapsed id candidate ∈
      FloodScenario.overtaken ++ [FloodScenario.lateLock] → candidate.wellFormed = true := by
    intro elapsed id candidate member
    simp only [FloodScenario.overtaken, FloodScenario.lateLock, List.cons_append,
      List.nil_append, List.mem_cons, FloodOp.begin.injEq, reduceCtorEq, List.not_mem_nil,
      or_false] at member
    rcases member with ⟨_, _, rfl⟩ | ⟨_, _, rfl⟩
    · decide +kernel
    · decide +kernel
  cases result : ((runFlood FloodScenario.hashes FloodScenario.history
      FloodScenario.overtaken).system.step FloodScenario.hashes FloodScenario.lateLock).2 with
  | none => simp [FloodScenario.failureOf, result] at fails
  | some ended =>
      obtain ⟨decision, decided⟩ := claim FloodScenario.hashes FloodScenario.history
        FloodScenario.history_initial FloodScenario.overtaken FloodScenario.lateLock wellFormed
        ended result
      obtain ⟨candidate, outcome⟩ := ended
      dsimp only at decided
      simp [FloodScenario.failureOf, result, decided] at fails

/-- Two calls begin before either takes the lock. The first opens the window, the second finds it
full and its refusal reaches the threshold. -/
theorem flood_control_decides_overlapping :
    let before := runFlood FloodScenario.hashes FloodScenario.history FloodScenario.overlapping
    let after := runFlood FloodScenario.hashes FloodScenario.history
      (FloodScenario.overlapping ++ [FloodScenario.secondLock])
    before.tally FloodScenario.source.key = 1 ∧
    (∃ ended decision,
      (before.system.step FloodScenario.hashes FloodScenario.secondLock).2 = some ended ∧
      ended.result = .ok decision ∧ decision.reasonCode = some (.rejected .rateLimited) ∧
      SuspendsAtThreshold before.system.db after.system.db ended.candidate.source) ∧
    (after.system.db.sources.get? FloodScenario.source.key).map EvidenceSource.state =
      some .suspended ∧
    ∀ key source, after.system.db.sources.get? key = some source →
      after.tally key ≤ source.safeguards.rateLimitMaxEvents := by
  intro before after
  have timely : Transaction.Guarded (applyFlood FloodScenario.hashes)
      (Timely FloodScenario.hashes) FloodScenario.history
      (FloodScenario.overlapping ++ [FloodScenario.secondLock]) := by
    have first : (FloodScenario.candidate 1).wellFormed = true := by decide +kernel
    have second : (FloodScenario.candidate 2).wellFormed = true := by decide +kernel
    refine ⟨first, second, ?_, ?_, trivial⟩
    · exact Timely.lock_of rfl rfl (by decide +kernel)
    · exact Timely.lock_of rfl rfl (by decide +kernel)
  obtain ⟨decides, limited⟩ := flood_control_decides FloodScenario.hashes FloodScenario.history
    FloodScenario.history_initial FloodScenario.overlapping FloodScenario.secondLock timely
  have reason : FloodScenario.reasonOf
      (before.system.step FloodScenario.hashes FloodScenario.secondLock).2 =
      some (.rejected .rateLimited) := by
    decide +kernel
  refine ⟨by decide +kernel, ?_, by decide +kernel, limited⟩
  cases result : (before.system.step FloodScenario.hashes FloodScenario.secondLock).2 with
  | none => simp [FloodScenario.reasonOf, result] at reason
  | some ended =>
      obtain ⟨⟨decision, decided⟩, suspends⟩ := decides ended result
      refine ⟨ended, decision, rfl, decided, ?_, suspends⟩
      obtain ⟨candidate, outcome⟩ := ended
      dsimp only at decided
      rw [result, decided] at reason
      exact reason

end TenantTrust.Trust
