import TenantTrust.Trust.FloodControl

/-! Every way in which a call of the guard can commit. -/

namespace TenantTrust.Trust

open Library Identity

variable {digests : EvidenceDigests} {session : GuardSession} {now innerNow : Instant}
  {p : ReplayCandidate} {db next : EvidenceDatabase} {decision : GuardDecision}

theorem verificationContext_eq_some {source : EvidenceSource} :
    verificationContext session p db = some source ↔
      db.sources.get? p.source = some source ∧ source.verifies session p = true := by
  simp [verificationContext, Option.filter_eq_some_iff]

/-- The context depends on the sources only. -/
theorem verificationContext_congr {other : EvidenceDatabase} (same : other.sources = db.sources) :
    verificationContext session p other = verificationContext session p db := by
  unfold verificationContext
  rw [same]

/-- An item that passes every freshness check is inside its window. -/
structure ReplayCandidate.InWindow (p : ReplayCandidate) (now : Instant)
    (maximumAgeSeconds : Nat) : Prop where
  ordered : p.observedAt < p.expiresAt
  notFuture : p.observedAt ≤ now + interval 30
  notStale : now - interval maximumAgeSeconds ≤ p.observedAt
  notExpired : now < p.expiresAt
  timeToLive : p.expiresAt ≤ p.observedAt + interval maximumAgeSeconds

theorem freshnessReason_eq_none {maximumAgeSeconds : Nat} :
    freshnessReason now maximumAgeSeconds p = none ↔ p.InWindow now maximumAgeSeconds := by
  unfold freshnessReason
  constructor
  · intro passed
    split_ifs at passed with disordered future stale expired long
    exact ⟨not_le.mp disordered, not_lt.mp future, not_lt.mp stale, not_le.mp expired,
      not_lt.mp long⟩
  · intro window
    rw [if_neg (not_le.mpr window.ordered), if_neg (not_lt.mpr window.notFuture),
      if_neg (not_lt.mpr window.notStale), if_neg (not_le.mpr window.notExpired),
      if_neg (not_lt.mpr window.timeToLive)]

/-- What the replay and ordering checks let pass. -/
structure ReplayCandidate.InOrder (p : ReplayCandidate) (digests : EvidenceDigests)
    (receipts : List IngestionReceipt) (state : IngestionState) : Prop where
  newEvent : ∀ receipt ∈ receipts, receipt.key ≠ p.event
  newNonce : ∀ receipt ∈ receipts, receipt.epoch = p.epoch →
    receipt.nonceSha256 ≠ digests.nonce p.nonce
  sequence : ∀ highest, state.highestSourceSequence = some highest → highest < p.sourceSequence
  observation : ∀ latest, state.latestObservedAt = some latest → latest ≤ p.observedAt

theorem replayReason_eq_none {receipts : List IngestionReceipt} {state : IngestionState} :
    replayReason digests receipts state p = none ↔ p.InOrder digests receipts state := by
  unfold replayReason
  constructor
  · intro passed
    split_ifs at passed with event nonce equal less early
    simp only [List.any_eq_true, Bool.and_eq_true, decide_eq_true_eq, not_exists, not_and,
      Option.any_eq_true] at event nonce equal less early
    refine ⟨event, nonce, fun highest found => ?_, fun latest found => ?_⟩
    · have different := equal highest found
      have notLess := less highest found
      omega
    · exact not_lt.mp (early latest found)
  · intro order
    rw [if_neg, if_neg, if_neg, if_neg, if_neg]
    · simp only [Option.any_eq_true, decide_eq_true_eq, not_exists, not_and]
      intro latest found
      exact not_lt.mpr (order.observation latest found)
    · simp only [Option.any_eq_true, decide_eq_true_eq, not_exists, not_and]
      intro highest found
      exact not_lt.mpr (order.sequence highest found).le
    · simp only [Option.any_eq_true, decide_eq_true_eq, not_exists, not_and]
      intro highest found
      exact (order.sequence highest found).ne'
    · simp only [List.any_eq_true, Bool.and_eq_true, decide_eq_true_eq, not_exists, not_and]
      exact order.newNonce
    · simp only [List.any_eq_true, decide_eq_true_eq, not_exists, not_and]
      exact order.newEvent

/-- The tables after an acceptance. -/
structure Accepts (digests : EvidenceDigests) (session : GuardSession) (now : Instant)
    (p : ReplayCandidate) (source : EvidenceSource) (db next : EvidenceDatabase) : Prop where
  inWindow : p.InWindow now source.maximumAgeSeconds
  inOrder : p.InOrder digests db.receipts.rows (db.ingestionState p now)
  createdAt : (db.ingestionState p now).createdAt ≤ now
  receipts : ∃ influence, db.receipts.insertNew (p.receipt digests now influence) =
    some next.receipts
  ingestion : next.ingestion = (db.ingestion.insertIfAbsent (db.ingestionState p now)).upsert
    ((db.ingestionState p now).advance p now)
  sources : next.sources = db.sources
  rejections : next.rejections = db.rejections
  rates : next.rates = db.rates
  controlEvents : next.controlEvents = db.controlEvents

/-- The outcomes of the guard without flood control. -/
inductive ReplayOutcome (digests : EvidenceDigests) (session : GuardSession) (now : Instant)
    (p : ReplayCandidate) (db : EvidenceDatabase) :
    EvidenceDatabase → GuardDecision → Prop where
  | unresolved : verificationContext session p db = none →
      ReplayOutcome digests session now p db db (.refused .verificationContextNotFound none)
  | untimely (source : EvidenceSource) (reason : IngestionRejectionReason) :
      verificationContext session p db = some source →
      freshnessReason now source.maximumAgeSeconds p = some reason →
      ReplayOutcome digests session now p db
        { db with rejections := db.rejections ++ [p.rejection digests reason now] }
        (.refused (.rejected reason) none)
  | replayed (source : EvidenceSource) (reason : IngestionRejectionReason) :
      verificationContext session p db = some source →
      p.InWindow now source.maximumAgeSeconds →
      replayReason digests db.receipts.rows (db.ingestionState p now) p = some reason →
      ReplayOutcome digests session now p db
        { db with
          ingestion := db.ingestion.insertIfAbsent (db.ingestionState p now)
          rejections := db.rejections ++ [p.rejection digests reason now] }
        (.refused (.rejected reason) (db.ingestionState p now).highestSourceSequence)
  | accepted (source : EvidenceSource) (next : EvidenceDatabase) :
      verificationContext session p db = some source →
      Accepts digests session now p source db next →
      ReplayOutcome digests session now p db next (.granted now p.sourceSequence)

theorem insertReceipt_eq_ok {receipt : IngestionReceipt}
    (inserted : insertReceipt receipt db = .ok next) :
    ∃ receipts, db.receipts.insertNew receipt = some receipts ∧
      next = { db with receipts := receipts } := by
  simp only [insertReceipt, Checked.bind_eq_ok, Checked.require_eq_ok,
    Checked.requireSome_eq_ok, Checked.pure_eq_ok, exists_const] at inserted
  obtain ⟨_, receipts, added, _, _, rfl⟩ := inserted
  exact ⟨receipts, added, rfl⟩

theorem acceptCandidate_eq_ok {source : EvidenceSource} {state : IngestionState}
    (succeeded : acceptCandidate digests session now p source state db = .ok (next, decision)) :
    ∃ influence receipts,
      db.receipts.insertNew (p.receipt digests now influence) = some receipts ∧
      state.createdAt ≤ now ∧ decision = .granted now p.sourceSequence ∧
      next = { db with
        receipts := receipts
        ingestion := db.ingestion.upsert (state.advance p now) } := by
  simp only [acceptCandidate, Checked.bind_eq_ok, Checked.require_eq_ok,
    Checked.requireSome_eq_ok, Checked.pure_eq_ok, exists_const, Prod.mk.injEq] at succeeded
  obtain ⟨tenantInfluence, _, stored, inserted, created, rfl, rfl⟩ := succeeded
  obtain ⟨receipts, added, rfl⟩ := insertReceipt_eq_ok inserted
  exact ⟨_, receipts, added, created, rfl, rfl⟩

theorem applyReplayGuardWithoutFloodControl_outcome
    (succeeded : applyReplayGuardWithoutFloodControl digests session now p db =
      .ok (next, decision)) :
    ReplayOutcome digests session now p db next decision := by
  simp only [applyReplayGuardWithoutFloodControl, Checked.bind_eq_ok, Checked.require_eq_ok,
    exists_const] at succeeded
  obtain ⟨_, decided⟩ := succeeded
  cases context : verificationContext session p db with
  | none =>
      simp only [context, Checked.pure_eq_ok, Prod.mk.injEq] at decided
      obtain ⟨rfl, rfl⟩ := decided
      exact .unresolved context
  | some source =>
      simp only [context] at decided
      cases freshness : freshnessReason now source.maximumAgeSeconds p with
      | some reason =>
          simp only [freshness, Checked.pure_eq_ok, rejectCandidate, Prod.mk.injEq] at decided
          obtain ⟨rfl, rfl⟩ := decided
          exact .untimely source reason context freshness
      | none =>
          simp only [freshness, decideReplay] at decided
          have window := freshnessReason_eq_none.mp freshness
          cases replay : replayReason digests db.receipts.rows (db.ingestionState p now) p with
          | some reason =>
              simp only [replay, rejectCandidate, Except.ok.injEq, Prod.mk.injEq] at decided
              obtain ⟨rfl, rfl⟩ := decided
              exact .replayed source reason context window replay
          | none =>
              simp only [replay] at decided
              obtain ⟨influence, receipts, added, created, rfl, rfl⟩ :=
                acceptCandidate_eq_ok decided
              exact .accepted source _ context
                ⟨window, replayReason_eq_none.mp replay, created, ⟨influence, added⟩,
                  rfl, rfl, rfl, rfl, rfl⟩

/-- The guard without flood control leaves the sources and the windows alone. -/
theorem ReplayOutcome.surroundings
    (outcome : ReplayOutcome digests session now p db next decision) :
    next.sources = db.sources ∧ next.rates = db.rates ∧
      next.controlEvents = db.controlEvents := by
  cases outcome with
  | unresolved context => exact ⟨rfl, rfl, rfl⟩
  | untimely source reason context freshness => exact ⟨rfl, rfl, rfl⟩
  | replayed source reason context window replay => exact ⟨rfl, rfl, rfl⟩
  | accepted source next context accepts =>
      exact ⟨accepts.sources, accepts.rates, accepts.controlEvents⟩

/-- The tables after a call that found its window full. -/
structure RateLimits (digests : EvidenceDigests) (now : Instant) (p : ReplayCandidate)
    (source : EvidenceSource) (window : SourceRateState) (db next : EvidenceDatabase) :
    Prop where
  full : source.safeguards.rateLimitMaxEvents ≤ window.acceptedCount
  startedAt : window.windowStartedAt ≤ now
  rates : next.rates = (db.rates.upsert window).upsert (window.countRateLimited now)
  rejections : next.rejections = db.rejections ++ [p.rejection digests .rateLimited now]
  receipts : next.receipts = db.receipts
  ingestion : next.ingestion = db.ingestion
  control :
    (window.rateLimitedCount + 1 < source.safeguards.rateLimitSuspensionThreshold ∧
      next.sources = db.sources ∧ next.controlEvents = db.controlEvents) ∨
    (source.safeguards.rateLimitSuspensionThreshold ≤ window.rateLimitedCount + 1 ∧
      source.createdAt ≤ now ∧
      next.sources = db.sources.upsert (source.withState .suspended now) ∧
      next.controlEvents = db.controlEvents ++
        [source.controlEvent .automaticallySuspended "RATE_LIMIT_THRESHOLD_REACHED" now])

/-- The outcomes of the guard. -/
inductive GuardOutcome (digests : EvidenceDigests) (session : GuardSession)
    (now innerNow : Instant) (p : ReplayCandidate) (db : EvidenceDatabase) :
    EvidenceDatabase → GuardDecision → Prop where
  | unresolved : verificationContext session p db = none →
      GuardOutcome digests session now innerNow p db db
        (.refused .verificationContextNotFound none)
  | rateLimited (source : EvidenceSource) (next : EvidenceDatabase) (highest : Option Int) :
      verificationContext session p db = some source →
      RateLimits digests now p source (db.rateWindow source.safeguards now p) db next →
      GuardOutcome digests session now innerNow p db next
        (.refused (.rejected .rateLimited) highest)
  | refused (source : EvidenceSource) (window : SourceRateState) (next : EvidenceDatabase)
      (decision : GuardDecision) :
      verificationContext session p db = some source →
      window = db.rateWindow source.safeguards now p →
      window.acceptedCount < source.safeguards.rateLimitMaxEvents →
      ReplayOutcome digests session innerNow p { db with rates := db.rates.upsert window }
        next decision →
      decision.accepted = false →
      GuardOutcome digests session now innerNow p db next decision
  | accepted (source : EvidenceSource) (window : SourceRateState)
      (admitted : EvidenceDatabase) :
      verificationContext session p db = some source →
      window = db.rateWindow source.safeguards now p →
      window.acceptedCount < source.safeguards.rateLimitMaxEvents →
      window.windowStartedAt ≤ now →
      Accepts digests session innerNow p source { db with rates := db.rates.upsert window }
        admitted →
      GuardOutcome digests session now innerNow p db
        { admitted with rates := admitted.rates.upsert (window.countAccepted now) }
        (.granted innerNow p.sourceSequence)

theorem storeRate_eq_ok {rate : SourceRateState} (stored : storeRate rate db = .ok next) :
    rate.windowStartedAt ≤ rate.updatedAt ∧
      next = { db with rates := db.rates.upsert rate } := by
  simp only [storeRate, rateTimesOrdered, Checked.bind_eq_ok, Checked.require_eq_ok,
    Checked.pure_eq_ok, exists_const, decide_eq_true_eq] at stored
  exact ⟨stored.1, stored.2.symm⟩

theorem storeSource_eq_ok {source : EvidenceSource} (stored : storeSource source db = .ok next) :
    source.createdAt ≤ source.updatedAt ∧
      next = { db with sources := db.sources.upsert source } := by
  simp only [storeSource, Checked.bind_eq_ok, Checked.require_eq_ok, Checked.pure_eq_ok,
    exists_const] at stored
  exact ⟨stored.1, stored.2.symm⟩

theorem suspendAutomatically_eq_ok {source : EvidenceSource}
    (suspended : suspendAutomatically source now db = .ok next) :
    source.createdAt ≤ now ∧ next = { db with
      sources := db.sources.upsert (source.withState .suspended now)
      controlEvents := db.controlEvents ++
        [source.controlEvent .automaticallySuspended "RATE_LIMIT_THRESHOLD_REACHED" now] } := by
  simp only [suspendAutomatically, Checked.bind_eq_ok, Checked.pure_eq_ok] at suspended
  obtain ⟨stored, updated, rfl⟩ := suspended
  obtain ⟨created, rfl⟩ := storeSource_eq_ok updated
  exact ⟨created, rfl⟩

theorem rateLimit_outcome {source : EvidenceSource} {window : SourceRateState}
    (full : source.safeguards.rateLimitMaxEvents ≤ window.acceptedCount)
    (limited : rateLimit digests now p source window
      { db with rates := db.rates.upsert window } = .ok (next, decision)) :
    RateLimits digests now p source window db next ∧
      ∃ highest, decision = .refused (.rejected .rateLimited) highest := by
  simp only [rateLimit, Checked.bind_eq_ok, Checked.require_eq_ok, exists_const] at limited
  obtain ⟨counted, stored, _, rest⟩ := limited
  obtain ⟨ordered, rfl⟩ := storeRate_eq_ok stored
  have startedAt : window.windowStartedAt ≤ now := ordered
  split at rest
  · rename_i reached
    simp only [Checked.bind_eq_ok, Checked.pure_eq_ok, Prod.mk.injEq] at rest
    obtain ⟨suspended, committed, rfl, rfl⟩ := rest
    obtain ⟨created, rfl⟩ := suspendAutomatically_eq_ok committed
    exact ⟨⟨full, startedAt, rfl, rfl, rfl, rfl, Or.inr ⟨reached, created, rfl, rfl⟩⟩, _, rfl⟩
  · rename_i below
    simp only [Checked.pure_eq_ok, Prod.mk.injEq] at rest
    obtain ⟨rfl, rfl⟩ := rest
    exact ⟨⟨full, startedAt, rfl, rfl, rfl, rfl, Or.inl ⟨not_le.mp below, rfl, rfl⟩⟩, _, rfl⟩

theorem applyUnderLock_outcome {source : EvidenceSource}
    (context : verificationContext session p db = some source)
    (succeeded : applyUnderLock digests session now innerNow p source db =
      .ok (next, decision)) :
    GuardOutcome digests session now innerNow p db next decision := by
  dsimp only [applyUnderLock] at succeeded
  split at succeeded
  · rename_i full
    obtain ⟨limits, highest, rfl⟩ := rateLimit_outcome full succeeded
    exact .rateLimited source next highest context limits
  · rename_i notFull
    simp only [admitCandidate, Checked.bind_eq_ok] at succeeded
    obtain ⟨⟨admitted, inner⟩, replayed, rest⟩ := succeeded
    have outcome := applyReplayGuardWithoutFloodControl_outcome replayed
    have room : (db.rateWindow source.safeguards now p).acceptedCount <
        source.safeguards.rateLimitMaxEvents := not_le.mp notFull
    split at rest
    · rename_i granted
      simp only [Checked.bind_eq_ok, Checked.pure_eq_ok, Prod.mk.injEq] at rest
      obtain ⟨stored, counted, rfl, rfl⟩ := rest
      obtain ⟨ordered, rfl⟩ := storeRate_eq_ok counted
      cases outcome with
      | unresolved unresolved => simp [GuardDecision.refused] at granted
      | untimely other reason resolved freshness => simp [GuardDecision.refused] at granted
      | replayed other reason resolved window replay => simp [GuardDecision.refused] at granted
      | accepted other admitted resolved accepts =>
          have same : some other = some source := resolved.symm.trans context
          obtain rfl := Option.some.inj same
          exact .accepted other _ admitted context rfl room ordered accepts
    · rename_i denied
      simp only [Checked.pure_eq_ok, Prod.mk.injEq] at rest
      obtain ⟨rfl, rfl⟩ := rest
      exact .refused source _ _ _ context rfl room outcome (by simpa using denied)

theorem applyEvidenceReplayGuard_outcome
    (succeeded : applyEvidenceReplayGuard digests session now innerNow p db =
      .ok (next, decision)) :
    GuardOutcome digests session now innerNow p db next decision := by
  unfold applyEvidenceReplayGuard at succeeded
  cases context : verificationContext session p db with
  | some source =>
      simp only [context] at succeeded
      exact applyUnderLock_outcome context succeeded
  | none =>
      simp only [context] at succeeded
      have outcome := applyReplayGuardWithoutFloodControl_outcome succeeded
      cases outcome with
      | unresolved unresolved => exact .unresolved context
      | untimely other reason resolved freshness => simp [context] at resolved
      | replayed other reason resolved window replay => simp [context] at resolved
      | accepted other admitted resolved accepts => simp [context] at resolved

theorem applyReplayGuardWithoutFloodControl_wellFormed
    (succeeded : applyReplayGuardWithoutFloodControl digests session now p db =
      .ok (next, decision)) : p.wellFormed = true := by
  simp only [applyReplayGuardWithoutFloodControl, Checked.bind_eq_ok, Checked.require_eq_ok,
    exists_const] at succeeded
  exact succeeded.1

/-- No malformed candidate is accepted. -/
theorem applyEvidenceReplayGuard_wellFormed
    (succeeded : applyEvidenceReplayGuard digests session now innerNow p db =
      .ok (next, decision)) (accepted : decision.accepted = true) : p.wellFormed = true := by
  unfold applyEvidenceReplayGuard at succeeded
  split at succeeded
  · exact applyReplayGuardWithoutFloodControl_wellFormed succeeded
  · dsimp only [applyUnderLock] at succeeded
    split at succeeded
    · rename_i full
      obtain ⟨_, highest, rfl⟩ := rateLimit_outcome full succeeded
      simp [GuardDecision.refused] at accepted
    · simp only [admitCandidate, Checked.bind_eq_ok] at succeeded
      obtain ⟨_, replayed, _⟩ := succeeded
      exact applyReplayGuardWithoutFloodControl_wellFormed replayed

end TenantTrust.Trust
