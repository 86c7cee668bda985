import TenantTrust.Trust.FloodInterleaving

/-! What holds after every step of the interleaved guard. -/

namespace TenantTrust.Trust

open Library Identity

variable {digests : EvidenceDigests}

/-! When no constraint stands in the way of a call. -/

section Success

variable {session : GuardSession} {now innerNow : Instant} {p : ReplayCandidate}
  {source : EvidenceSource} {db : EvidenceDatabase}

theorem passesReplayChecks_eq_true :
    passesReplayChecks digests now p source db = true ↔
      p.InWindow now source.maximumAgeSeconds ∧
        p.InOrder digests db.receipts.rows (db.ingestionState p now) := by
  rw [passesReplayChecks, Bool.and_eq_true, decide_eq_true_iff, decide_eq_true_iff,
    freshnessReason_eq_none, replayReason_eq_none]

/-- What the guard without flood control accepts has passed its checks. -/
theorem ReplayOutcome.passes {next : EvidenceDatabase} {decision : GuardDecision}
    (outcome : ReplayOutcome digests session now p db next decision)
    (accepted : decision.accepted = true) :
    ∃ source, verificationContext session p db = some source ∧
      passesReplayChecks digests now p source db = true := by
  cases outcome with
  | unresolved context => simp [GuardDecision.refused] at accepted
  | untimely source reason context freshness => simp [GuardDecision.refused] at accepted
  | replayed source reason context window replay => simp [GuardDecision.refused] at accepted
  | accepted source next context accepts =>
      exact ⟨source, context, passesReplayChecks_eq_true.mpr ⟨accepts.inWindow, accepts.inOrder⟩⟩

/-- The constraints of the receipts hold for a candidate that is in order. -/
theorem insertReceipt_succeeds {maximumAgeSeconds : Nat} {state : IngestionState}
    (influence : Influence) (window : p.InWindow now maximumAgeSeconds)
    (order : p.InOrder digests db.receipts.rows state)
    (sequences : ∀ other ∈ db.receipts, other.epoch = p.epoch →
      other.sourceSequence ≠ p.sourceSequence) :
    ∃ next, insertReceipt (p.receipt digests now influence) db = .ok next := by
  have times : receiptTimesOrdered (p.receipt digests now influence) = true := by
    have := window.ordered
    have := window.notFuture
    have := window.notExpired
    simp [receiptTimesOrdered, ReplayCandidate.receipt, *]
  have fresh : db.receipts.get? (p.receipt digests now influence).key = none :=
    (Table.get?_eq_none _ _).mpr order.newEvent
  have inserted := Table.insertNew_eq_some.mpr ⟨fresh, rfl⟩
  refine ⟨{ db with receipts := db.receipts.insert _ fresh }, ?_⟩
  simp only [insertReceipt, Checked.bind_eq_ok, Checked.require_eq_ok,
    Checked.requireSome_eq_ok, Checked.pure_eq_ok, exists_const]
  exact ⟨times, _, inserted, sequences, order.newNonce, rfl⟩

theorem acceptCandidate_succeeds {state : IngestionState} {tenantInfluence : Influence}
    (active : session.activeInfluence p.tenantId = some tenantInfluence)
    (window : p.InWindow now source.maximumAgeSeconds)
    (order : p.InOrder digests db.receipts.rows state)
    (sequences : ∀ other ∈ db.receipts, other.epoch = p.epoch →
      other.sourceSequence ≠ p.sourceSequence) (created : state.createdAt ≤ now) :
    ∃ next, acceptCandidate digests session now p source state db =
      .ok (next, .granted now p.sourceSequence) := by
  obtain ⟨stored, inserted⟩ := insertReceipt_succeeds
    (source.safeguards.maximumInfluence.least tenantInfluence) window order sequences
  refine ⟨{ stored with ingestion := stored.ingestion.upsert (state.advance p now) }, ?_⟩
  simp only [acceptCandidate, Checked.bind_eq_ok, Checked.require_eq_ok,
    Checked.requireSome_eq_ok, Checked.pure_eq_ok, exists_const]
  exact ⟨tenantInfluence, active, stored, inserted, created, rfl⟩

/-- The guard without flood control ends with a decision. -/
theorem applyReplayGuardWithoutFloodControl_succeeds (wellFormed : p.wellFormed = true)
    (clear : ∀ source, verificationContext session p db = some source →
      passesReplayChecks digests now p source db = true →
      (session.activeInfluence p.tenantId).isSome = true ∧
      (db.ingestionState p now).createdAt ≤ now ∧
      ∀ other ∈ db.receipts, other.epoch = p.epoch → other.sourceSequence ≠ p.sourceSequence) :
    ∃ next decision, applyReplayGuardWithoutFloodControl digests session now p db =
      .ok (next, decision) := by
  have input : (require (p.wellFormed = true)
      (.raised "Invalid evidence replay-guard input.") : Except SqlError Unit) = .ok () := by
    simp [require, wellFormed]
  simp only [applyReplayGuardWithoutFloodControl, input, bind, Except.bind]
  cases context : verificationContext session p db with
  | none => exact ⟨_, _, rfl⟩
  | some source =>
      dsimp only
      cases freshness : freshnessReason now source.maximumAgeSeconds p with
      | some reason => exact ⟨_, _, rfl⟩
      | none =>
          simp only [decideReplay]
          cases replay : replayReason digests db.receipts.rows (db.ingestionState p now) p with
          | some reason => exact ⟨_, _, rfl⟩
          | none =>
              have passes : passesReplayChecks digests now p source db = true := by
                simp [passesReplayChecks, freshness, replay]
              obtain ⟨configured, created, sequences⟩ := clear source context passes
              obtain ⟨window, order⟩ := passesReplayChecks_eq_true.mp passes
              obtain ⟨tenantInfluence, active⟩ := Option.isSome_iff_exists.mp configured
              let opened : EvidenceDatabase :=
                { db with ingestion := db.ingestion.insertIfAbsent (db.ingestionState p now) }
              obtain ⟨next, accepted⟩ : ∃ next, acceptCandidate digests session now p source
                  (db.ingestionState p now) opened = .ok (next, .granted now p.sourceSequence) :=
                acceptCandidate_succeeds active window order sequences created
              exact ⟨next, _, accepted⟩

theorem storeRate_succeeds {rate : SourceRateState}
    (ordered : rate.windowStartedAt ≤ rate.updatedAt) :
    storeRate rate db = .ok { db with rates := db.rates.upsert rate } := by
  simp [storeRate, rateTimesOrdered, require, ordered, bind, Except.bind, pure, Except.pure]

theorem rateLimit_succeeds {window : SourceRateState} (wellFormed : p.wellFormed = true)
    (startedAt : window.windowStartedAt ≤ now) (registered : source.createdAt ≤ now) :
    ∃ next decision, rateLimit digests now p source window db = .ok (next, decision) := by
  have sequence : isSourceSequence p.sourceSequence = true := by
    simp only [ReplayCandidate.wellFormed, Bool.and_eq_true] at wellFormed
    exact wellFormed.1
  have counted : storeRate (window.countRateLimited now) db =
      .ok { db with rates := db.rates.upsert (window.countRateLimited now) } :=
    storeRate_succeeds startedAt
  have stamped : (source.withState .suspended now).createdAt ≤
      (source.withState .suspended now).updatedAt := registered
  simp only [rateLimit, counted, sequence, require, bind, Except.bind, if_true,
    suspendAutomatically, storeSource, if_pos stamped, pure, Except.pure]
  split
  · exact ⟨_, _, rfl⟩
  · exact ⟨_, _, rfl⟩

/-- A call that is neither late nor malformed ends with a decision. -/
theorem applyUnderLock_succeeds (wellFormed : p.wellFormed = true)
    (context : verificationContext session p db = some source)
    (timely : TimelyUnderLock digests session now innerNow p source db)
    (registered : source.createdAt ≤ now)
    (created : (db.ingestionState p innerNow).createdAt ≤ innerNow)
    (sequences : p.InOrder digests db.receipts.rows (db.ingestionState p innerNow) →
      ∀ other ∈ db.receipts, other.epoch = p.epoch → other.sourceSequence ≠ p.sourceSequence) :
    ∃ next decision, applyUnderLock digests session now innerNow p source db =
      .ok (next, decision) := by
  unfold TimelyUnderLock at timely
  dsimp only [applyUnderLock] at timely ⊢
  generalize db.rateWindow source.safeguards now p = window at timely ⊢
  split
  · rename_i full
    rw [if_pos full] at timely
    exact rateLimit_succeeds wellFormed timely registered
  · rename_i room
    rw [if_neg room] at timely
    let opened : EvidenceDatabase := { db with rates := db.rates.upsert window }
    obtain ⟨admitted, decision, decided⟩ : ∃ next decision,
        applyReplayGuardWithoutFloodControl digests session innerNow p opened =
          .ok (next, decision) := by
      refine applyReplayGuardWithoutFloodControl_succeeds wellFormed ?_
      intro other resolved passes
      have same : some other = some source := resolved.symm.trans context
      obtain rfl := Option.some.inj same
      exact ⟨(timely passes).2, created, sequences (passesReplayChecks_eq_true.mp passes).2⟩
    change ∃ next decision, admitCandidate digests session now innerNow p window opened =
      .ok (next, decision)
    simp only [admitCandidate, decided, bind, Except.bind]
    split
    · rename_i accepted
      have outcome := applyReplayGuardWithoutFloodControl_outcome decided
      obtain ⟨other, resolved, passes⟩ := outcome.passes accepted
      have same : some other = some source := resolved.symm.trans context
      obtain rfl := Option.some.inj same
      have counted : storeRate (window.countAccepted now) admitted =
          .ok { admitted with rates := admitted.rates.upsert (window.countAccepted now) } :=
        storeRate_succeeds (timely passes).1
      rw [counted]
      exact ⟨_, _, rfl⟩
    · exact ⟨_, _, rfl⟩

end Success

/-! The effect of one call on the window and the state of its source. -/

section Effect

variable {session : GuardSession} {now innerNow : Instant} {p : ReplayCandidate}
  {source : EvidenceSource} {db next : EvidenceDatabase} {decision : GuardDecision}

/-- A call is counted in the stored window or in one that starts at another time. -/
theorem rateWindow_cases (db : EvidenceDatabase) (safeguards : Safeguards) (now : Instant)
    (p : ReplayCandidate) :
    db.rates.get? p.source = some (db.rateWindow safeguards now p) ∨
      db.rateWindow safeguards now p = p.newWindow now ∧
        windowStart? db p.source ≠ some now := by
  unfold EvidenceDatabase.rateWindow windowStart?
  cases present : db.rates.get? p.source with
  | none => exact Or.inr ⟨rfl, by simp⟩
  | some rate =>
      dsimp only
      split
      · rename_i expired
        right
        refine ⟨rfl, ?_⟩
        have positive := safeguards.windowInRange.1
        intro same
        have start : rate.windowStartedAt = now := Option.some.inj same
        rw [start] at expired
        unfold interval Instant at *
        omega
      · exact Or.inl rfl

/-- The window and the source after a call that held the lock. -/
structure FloodEffect (p : ReplayCandidate) (source : EvidenceSource) (window : SourceRateState)
    (db next : EvidenceDatabase) (decision : GuardDecision) (rate : SourceRateState) : Prop where
  stored : next.rates.get? p.source = some rate
  elsewhere : ∀ other, other ≠ p.source → next.rates.get? other = db.rates.get? other
  windowStartedAt : rate.windowStartedAt = window.windowStartedAt
  acceptedCount : rate.acceptedCount = window.acceptedCount + if decision.accepted then 1 else 0
  room : decision.accepted = true →
    window.acceptedCount < source.safeguards.rateLimitMaxEvents
  control :
    (next.sources = db.sources ∧
      rate.rateLimitedCount < source.safeguards.rateLimitSuspensionThreshold) ∨
    ((∃ at_, next.sources = db.sources.upsert (source.withState .suspended at_)) ∧
      rate.rateLimitedCount = source.safeguards.rateLimitSuspensionThreshold)

theorem GuardOutcome.floodEffect
    (outcome : GuardOutcome digests session now innerNow p db next decision)
    (context : verificationContext session p db = some source)
    (below : (db.rateWindow source.safeguards now p).rateLimitedCount <
      source.safeguards.rateLimitSuspensionThreshold) :
    ∃ rate, FloodEffect p source (db.rateWindow source.safeguards now p) db next decision
      rate := by
  have key := rateWindow_key db source.safeguards now p
  have opened : ∀ other, other ≠ p.source →
      (db.rates.upsert (db.rateWindow source.safeguards now p)).get? other =
        db.rates.get? other := fun other elsewhere => rates_elsewhere _ _ (key ▸ elsewhere)
  cases outcome with
  | unresolved absent => simp [context] at absent
  | rateLimited other next highest resolved limits =>
      have same : some other = some source := resolved.symm.trans context
      obtain rfl := Option.some.inj same
      generalize db.rateWindow other.safeguards now p = window at *
      have counted : (window.countRateLimited now).key = p.source := key
      refine ⟨window.countRateLimited now, ?_, ?_, rfl, ?_, ?_, ?_⟩
      · rw [limits.rates, Table.get?_upsert, if_pos counted]
      · intro other elsewhere
        rw [limits.rates, rates_elsewhere _ _ (counted ▸ elsewhere), opened other elsewhere]
      · simp [SourceRateState.countRateLimited, GuardDecision.refused]
      · simp [GuardDecision.refused]
      · rcases limits.control with ⟨fewer, sources, _⟩ | ⟨reached, _, sources, _⟩
        · exact Or.inl ⟨sources, fewer⟩
        · have count : (window.countRateLimited now).rateLimitedCount =
              window.rateLimitedCount + 1 := rfl
          exact Or.inr ⟨⟨now, sources⟩, by omega⟩
  | refused other window next decision resolved counted room outcome denied =>
      have same : some other = some source := resolved.symm.trans context
      obtain rfl := Option.some.inj same
      rw [← counted] at *
      obtain ⟨sources, rates, _⟩ := outcome.surroundings
      refine ⟨window, ?_, ?_, rfl, by simp [denied], by simp [denied], Or.inl ⟨sources, below⟩⟩
      · rw [rates]
        dsimp only
        rw [Table.get?_upsert, if_pos key]
      · intro other elsewhere
        rw [rates]
        exact opened other elsewhere
  | accepted other window admitted resolved counted room startedAt accepts =>
      have same : some other = some source := resolved.symm.trans context
      obtain rfl := Option.some.inj same
      rw [← counted] at *
      have counted : (window.countAccepted now).key = p.source := key
      refine ⟨window.countAccepted now, ?_, ?_, rfl, rfl, fun _ => room,
        Or.inl ⟨accepts.sources, below⟩⟩
      · dsimp only
        rw [Table.get?_upsert, if_pos counted]
      · intro other elsewhere
        dsimp only
        rw [rates_elsewhere _ _ (counted ▸ elsewhere), accepts.rates]
        exact opened other elsewhere

end Effect

/-- What holds between the steps of a run that began at the time `origin`. -/
structure FloodSafe (digests : EvidenceDigests) (origin : Instant)
    (history : FloodHistory) : Prop where
  replaySafe : ∃ accepted, ReplaySafe digests accepted history.system.db
  opened : ∀ epoch state, history.system.db.ingestion.get? epoch = some state →
    state.createdAt ≤ history.system.clock
  registered : ∀ key source, history.system.db.sources.get? key = some source →
    source.createdAt ≤ origin
  now : origin ≤ history.system.clock
  started : ∀ id call, history.system.pending id = some call →
    origin ≤ call.now ∧ call.candidate.wellFormed = true ∧
      ∀ innerNow, call.unlockedAt = some innerNow → innerNow ≤ history.system.clock
  counted : ∀ key, history.tally key =
    ((history.system.db.rates.get? key).map SourceRateState.acceptedCount).getD 0
  bounded : ∀ key source rate, history.system.db.sources.get? key = some source →
    history.system.db.rates.get? key = some rate →
    rate.acceptedCount ≤ source.safeguards.rateLimitMaxEvents ∧
    (source.state = .active →
      rate.rateLimitedCount < source.safeguards.rateLimitSuspensionThreshold)

theorem FloodHistory.Initial.safe {history : FloodHistory} (initial : history.Initial) :
    FloodSafe digests history.system.clock history where
  replaySafe := ⟨[], initial.fresh.replaySafe⟩
  opened := by
    intro epoch state found
    rw [initial.fresh.ingestion] at found
    exact absurd (Table.get?_mem found) (Table.not_mem_empty state)
  registered := fun key source found => initial.registered source (Table.get?_mem found)
  now := le_refl _
  started := by
    intro id call found
    rw [initial.idle] at found
    exact absurd found (by simp)
  counted := by
    intro key
    rw [initial.uncounted, initial.fresh.rates]
    rfl
  bounded := by
    intro key source rate _ found
    rw [initial.fresh.rates] at found
    exact absurd (Table.get?_mem found) (Table.not_mem_empty rate)

/-- A row of a key was there before or is opened at the time of the call. -/
theorem ReplayOutcome.createdAt {session : GuardSession} {now : Instant}
    {p : ReplayCandidate} {db next : EvidenceDatabase} {decision : GuardDecision}
    (outcome : ReplayOutcome digests session now p db next decision)
    {limit : Instant} (reached : now ≤ limit)
    (opened : ∀ epoch state, db.ingestion.get? epoch = some state → state.createdAt ≤ limit)
    {epoch : EpochKey} {state : IngestionState}
    (found : next.ingestion.get? epoch = some state) : state.createdAt ≤ limit := by
  have read : (db.ingestionState p now).createdAt ≤ limit := by
    unfold EvidenceDatabase.ingestionState
    cases present : db.ingestion.get? p.epoch with
    | none => exact reached
    | some stored => exact opened _ stored present
  have kept : ∀ row, (db.ingestion.insertIfAbsent (db.ingestionState p now)).get? epoch =
      some row → row.createdAt ≤ limit := by
    intro row present
    rw [Table.get?_insertIfAbsent] at present
    split at present
    · cases old : db.ingestion.get? epoch with
      | none =>
          simp only [old, Option.getD_none, Option.some.injEq] at present
          rw [← present]
          exact read
      | some stored =>
          simp only [old, Option.getD_some, Option.some.injEq] at present
          rw [← present]
          exact opened _ stored old
    · exact opened _ row present
  cases outcome with
  | unresolved context => exact opened _ state found
  | untimely source reason context freshness => exact opened _ state found
  | replayed source reason context window replay => exact kept state found
  | accepted source next context accepts =>
      rw [accepts.ingestion, Table.get?_upsert] at found
      split at found
      · rw [← Option.some.inj found]
        exact read
      · exact kept state found

theorem GuardOutcome.createdAt {session : GuardSession} {now innerNow : Instant}
    {p : ReplayCandidate} {db next : EvidenceDatabase} {decision : GuardDecision}
    (outcome : GuardOutcome digests session now innerNow p db next decision)
    {limit : Instant} (reached : innerNow ≤ limit)
    (opened : ∀ epoch state, db.ingestion.get? epoch = some state → state.createdAt ≤ limit)
    {epoch : EpochKey} {state : IngestionState}
    (found : next.ingestion.get? epoch = some state) : state.createdAt ≤ limit := by
  cases outcome with
  | unresolved context => exact opened _ state found
  | rateLimited source next highest context limits =>
      rw [limits.ingestion] at found
      exact opened _ state found
  | refused source window next decision context counted room outcome denied =>
      exact outcome.createdAt reached opened found
  | accepted source window admitted context counted room startedAt accepts =>
      have outcome : ReplayOutcome digests session innerNow p
          { db with rates := db.rates.upsert window } admitted _ :=
        .accepted source admitted context accepts
      exact outcome.createdAt reached opened found

theorem WindowTally.after_same (tally : WindowTally) (db : EvidenceDatabase) :
    tally.after db db none = tally := by
  funext source
  simp [after, acceptedBy]

/-- A step without an acceptance that leaves the windows alone leaves the counts alone. -/
theorem WindowTally.after_unaccepted (tally : WindowTally) {before after : EvidenceDatabase}
    {ended : Option CallEnd} (same : after.rates = before.rates)
    (refused : ∀ source, acceptedBy ended source = 0) : tally.after before after ended = tally := by
  funext source
  simp [WindowTally.after, windowStart?, same, refused]

namespace FloodSafe

variable {origin : Instant} {system : FloodSystem} {tally : WindowTally}

theorem tick (safe : FloodSafe digests origin ⟨system, tally⟩) (elapsed : Nat) :
    FloodSafe digests origin ⟨system.tick elapsed, tally⟩ where
  replaySafe := safe.replaySafe
  opened := by
    intro epoch state found
    have before := safe.opened epoch state found
    change state.createdAt ≤ system.clock + elapsed
    unfold Instant at *
    dsimp only at before
    omega
  registered := safe.registered
  now := by
    have before := safe.now
    change origin ≤ system.clock + elapsed
    unfold Instant at *
    dsimp only at before
    omega
  started := by
    intro id call found
    obtain ⟨now, wellFormed, unlocked⟩ := safe.started id call found
    refine ⟨now, wellFormed, fun innerNow read => ?_⟩
    have before := unlocked innerNow read
    change innerNow ≤ system.clock + elapsed
    unfold Instant at *
    dsimp only at before
    omega
  counted := safe.counted
  bounded := safe.bounded

theorem setPending (safe : FloodSafe digests origin ⟨system, tally⟩) (id : Nat)
    (call : Option PendingCall)
    (started : ∀ present, call = some present →
      origin ≤ present.now ∧ present.candidate.wellFormed = true ∧
        ∀ innerNow, present.unlockedAt = some innerNow → innerNow ≤ system.clock) :
    FloodSafe digests origin ⟨system.setPending id call, tally⟩ where
  replaySafe := safe.replaySafe
  opened := safe.opened
  registered := safe.registered
  now := safe.now
  started := by
    intro other present found
    change (if other = id then call else system.pending other) = some present at found
    split at found
    · exact started present found
    · exact safe.started other present found
  counted := safe.counted
  bounded := safe.bounded

/-- The window of an active source is neither overfull nor past the threshold. -/
theorem window (safe : FloodSafe digests origin ⟨system, tally⟩) {session : GuardSession}
    {p : ReplayCandidate} {source : EvidenceSource}
    (context : verificationContext session p system.db = some source) (now : Instant) :
    (system.db.rateWindow source.safeguards now p).acceptedCount ≤
        source.safeguards.rateLimitMaxEvents ∧
      (system.db.rateWindow source.safeguards now p).rateLimitedCount <
        source.safeguards.rateLimitSuspensionThreshold := by
  obtain ⟨registered, verifies⟩ := verificationContext_eq_some.mp context
  have active : source.state = .active := by
    simp only [EvidenceSource.verifies, Bool.and_eq_true, decide_eq_true_eq] at verifies
    exact verifies.1.1.1.1.1.2
  rcases rateWindow_cases system.db source.safeguards now p with stored | ⟨new, _⟩
  · obtain ⟨accepted, limited⟩ := safe.bounded p.source source _ registered stored
    exact ⟨accepted, limited active⟩
  · rw [new]
    exact ⟨Nat.zero_le _, source.safeguards.thresholdInRange.1⟩

/-- The count of a source after a call that held its lock. -/
theorem tally_after (safe : FloodSafe digests origin ⟨system, tally⟩) {p : ReplayCandidate}
    {source : EvidenceSource} {now : Instant} {next : EvidenceDatabase}
    {decision : GuardDecision} {rate : SourceRateState}
    (effect : FloodEffect p source (system.db.rateWindow source.safeguards now p) system.db next
      decision rate) :
    tally.after system.db next (some ⟨p, .ok decision⟩) p.source = rate.acceptedCount := by
  have accepted : acceptedBy (some ⟨p, .ok decision⟩) p.source =
      if decision.accepted then 1 else 0 := by
    simp [acceptedBy, CallEnd.accepted]
  have start : windowStart? next p.source =
      some (system.db.rateWindow source.safeguards now p).windowStartedAt := by
    rw [windowStart?, effect.stored, Option.map_some, effect.windowStartedAt]
  rw [WindowTally.after, start, accepted, effect.acceptedCount]
  rcases rateWindow_cases system.db source.safeguards now p with stored | ⟨new, other⟩
  · have same : windowStart? system.db p.source =
        some (system.db.rateWindow source.safeguards now p).windowStartedAt := by
      rw [windowStart?, stored, Option.map_some]
    have before := safe.counted p.source
    dsimp only at before
    rw [if_pos same, before, stored]
    rfl
  · rw [new]
    have different : ¬ windowStart? system.db p.source =
        some (p.newWindow now).windowStartedAt := other
    rw [if_neg different]
    exact (Nat.zero_add _).symm

/-- A call that held the lock of its source. -/
theorem lock (safe : FloodSafe digests origin ⟨system, tally⟩) {session : GuardSession}
    {now : Instant} {p : ReplayCandidate} {source : EvidenceSource} {next : EvidenceDatabase}
    {decision : GuardDecision}
    (context : verificationContext session p system.db = some source)
    (guarded : applyEvidenceReplayGuard digests session now system.clock p system.db =
      .ok (next, decision)) :
    FloodSafe digests origin ⟨{ system with db := next },
      tally.after system.db next (some ⟨p, .ok decision⟩)⟩ := by
  have outcome := applyEvidenceReplayGuard_outcome guarded
  obtain ⟨full, below⟩ := safe.window context now
  obtain ⟨rate, effect⟩ := outcome.floodEffect context below
  have registered := (verificationContext_eq_some.mp context).1
  have key : source.key = p.source := Table.get?_key registered
  have sources : ∀ other found, next.sources.get? other = some found →
      ∃ old, system.db.sources.get? other = some old ∧ found.createdAt = old.createdAt ∧
        found.safeguards = old.safeguards ∧ (found.state = .active → old.state = .active) := by
    intro other found present
    rcases effect.control with ⟨same, _⟩ | ⟨⟨at_, suspended⟩, _⟩
    · rw [same] at present
      exact ⟨found, present, rfl, rfl, id⟩
    · rw [suspended, Table.get?_upsert] at present
      split at present
      · rename_i match_
        have which : (source.withState .suspended at_).key = source.key := rfl
        rw [which, key] at match_
        rw [← Option.some.inj present, ← match_]
        exact ⟨source, registered, rfl, rfl, by simp [EvidenceSource.withState]⟩
      · exact ⟨found, present, rfl, rfl, id⟩
  constructor
  · obtain ⟨accepted, replaySafe⟩ := safe.replaySafe
    exact ⟨_, replaySafe.submit guarded⟩
  · intro epoch state found
    exact outcome.createdAt (le_refl _) safe.opened found
  · intro other found present
    obtain ⟨old, before, created, _⟩ := sources other found present
    rw [created]
    exact safe.registered other old before
  · exact safe.now
  · exact safe.started
  · intro other
    by_cases same : other = p.source
    · rw [same]
      dsimp only
      rw [safe.tally_after effect, effect.stored]
      rfl
    · have elsewhere := effect.elsewhere other same
      have nothing : acceptedBy (some ⟨p, .ok decision⟩) other = 0 := by
        simp [acceptedBy, Ne.symm same]
      dsimp only
      rw [WindowTally.after, windowStart?, windowStart?, elsewhere, if_pos rfl, nothing,
        Nat.add_zero]
      exact safe.counted other
  · intro other found stored present counted
    obtain ⟨old, before, _, safeguards, active⟩ := sources other found present
    by_cases same : other = p.source
    · rw [same] at before counted present
      have which : old = source := Option.some.inj (before.symm.trans registered)
      have which' : stored = rate := Option.some.inj (counted.symm.trans effect.stored)
      rw [which] at safeguards
      rw [which', safeguards]
      constructor
      · rw [effect.acceptedCount]
        split
        · rename_i accepted
          exact effect.room accepted
        · exact full
      · intro alive
        rcases effect.control with ⟨_, fewer⟩ | ⟨⟨at_, suspended⟩, _⟩
        · exact fewer
        · rw [suspended, Table.get?_upsert] at present
          have which : (source.withState .suspended at_).key = p.source := key
          rw [if_pos which] at present
          rw [← Option.some.inj present] at alive
          simp [EvidenceSource.withState] at alive
    · rw [effect.elsewhere other same] at counted
      obtain ⟨bound, limited⟩ := safe.bounded other old stored before counted
      rw [safeguards]
      exact ⟨bound, fun alive => limited (active alive)⟩

end FloodSafe

end TenantTrust.Trust
