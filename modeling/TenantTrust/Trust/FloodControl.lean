import TenantTrust.Library.Transaction
import TenantTrust.Trust.ReplayGuard

/-! Rate limits and suspension of an evidence source around the replay guard. -/

namespace TenantTrust.Trust

open Library Identity

/-- `evidence_source_rate_state_time_order` -/
def rateTimesOrdered (rate : SourceRateState) : Bool := rate.windowStartedAt ≤ rate.updatedAt

/-- A window that starts with a call. -/
def ReplayCandidate.newWindow (p : ReplayCandidate) (now : Instant) : SourceRateState where
  tenantId := p.tenantId
  sourceId := p.sourceId
  windowStartedAt := now
  acceptedCount := 0
  rateLimitedCount := 0
  updatedAt := now

/-- The window in which a call is counted: the stored one until it has run out. -/
def EvidenceDatabase.rateWindow (db : EvidenceDatabase) (safeguards : Safeguards)
    (now : Instant) (p : ReplayCandidate) : SourceRateState :=
  match db.rates.get? p.source with
  | none => p.newWindow now
  | some rate =>
      if now ≥ rate.windowStartedAt + interval safeguards.rateLimitWindowSeconds then
        p.newWindow now
      else rate

def SourceRateState.countAccepted (rate : SourceRateState) (now : Instant) : SourceRateState :=
  { rate with acceptedCount := rate.acceptedCount + 1, updatedAt := now }

def SourceRateState.countRateLimited (rate : SourceRateState) (now : Instant) :
    SourceRateState :=
  { rate with rateLimitedCount := rate.rateLimitedCount + 1, updatedAt := now }

/-- An update of the rate state under the constraint of its table. -/
def storeRate (rate : SourceRateState) (db : EvidenceDatabase) :
    Except SqlError EvidenceDatabase := do
  require (rateTimesOrdered rate) (.checkViolation "evidence_source_rate_state_time_order")
  return { db with rates := db.rates.upsert rate }

/-- An update of a source under the constraint of its table. -/
def storeSource (source : EvidenceSource) (db : EvidenceDatabase) :
    Except SqlError EvidenceDatabase := do
  require (source.createdAt ≤ source.updatedAt)
    (.checkViolation "evidence_sources_timestamps_ordered")
  return { db with sources := db.sources.upsert source }

def EvidenceSource.withState (source : EvidenceSource) (state : EvidenceSourceState)
    (updatedAt : Instant) : EvidenceSource :=
  { source with state := state, version := source.version + 1, updatedAt := updatedAt }

def EvidenceSource.controlEvent (source : EvidenceSource) (eventType : SourceControlEventType)
    (reasonCode : String) (occurredAt : Instant) : SourceControlEvent where
  tenantId := source.tenantId
  sourceId := source.sourceId
  eventType := eventType
  reasonCode := reasonCode
  safeguards := source.safeguards
  occurredAt := occurredAt

/-- `max(receipt.source_sequence)` over the receipts of an epoch. -/
def highestReceipt (db : EvidenceDatabase) (epoch : EpochKey) : Option Int :=
  ((db.receipts.rows.filter fun receipt => receipt.epoch = epoch).map
    IngestionReceipt.sourceSequence).max?

/-- The suspension of a source whose calls kept coming after its limit. -/
def suspendAutomatically (source : EvidenceSource) (now : Instant) (db : EvidenceDatabase) :
    Except SqlError EvidenceDatabase := do
  let db ← storeSource (source.withState .suspended now) db
  return { db with controlEvents := db.controlEvents ++
    [source.controlEvent .automaticallySuspended "RATE_LIMIT_THRESHOLD_REACHED" now] }

/-- The branch of a call that finds its window full. -/
def rateLimit (digests : EvidenceDigests) (now : Instant) (p : ReplayCandidate)
    (source : EvidenceSource) (window : SourceRateState) (db : EvidenceDatabase) :
    Except SqlError (EvidenceDatabase × GuardDecision) := do
  let rate := window.countRateLimited now
  let db ← storeRate rate db
  require (isSourceSequence p.sourceSequence)
    (.checkViolation "evidence_ingestion_rejections_sequence_range")
  let (db, decision) := rejectCandidate digests now p .rateLimited
    (highestReceipt db p.epoch) db
  if rate.rateLimitedCount ≥ source.safeguards.rateLimitSuspensionThreshold then do
    let db ← suspendAutomatically source now db
    return (db, decision)
  else return (db, decision)

/-- The branch of a call that the window admits. -/
def admitCandidate (digests : EvidenceDigests) (session : GuardSession) (now innerNow : Instant)
    (p : ReplayCandidate) (window : SourceRateState) (db : EvidenceDatabase) :
    Except SqlError (EvidenceDatabase × GuardDecision) := do
  let (db, decision) ← applyReplayGuardWithoutFloodControl digests session innerNow p db
  if decision.accepted then do
    let db ← storeRate (window.countAccepted now) db
    return (db, decision)
  else return (db, decision)

/-- The call of a locked source. -/
def applyUnderLock (digests : EvidenceDigests) (session : GuardSession)
    (now innerNow : Instant) (p : ReplayCandidate) (source : EvidenceSource)
    (db : EvidenceDatabase) : Except SqlError (EvidenceDatabase × GuardDecision) :=
  let window := db.rateWindow source.safeguards now p
  let opened := { db with rates := db.rates.upsert window }
  if window.acceptedCount ≥ source.safeguards.rateLimitMaxEvents then
    rateLimit digests now p source window opened
  else admitCandidate digests session now innerNow p window opened

/-- The two procedures each read the clock when they start. -/
def applyEvidenceReplayGuard (digests : EvidenceDigests) (session : GuardSession)
    (now innerNow : Instant) (p : ReplayCandidate) (db : EvidenceDatabase) :
    Except SqlError (EvidenceDatabase × GuardDecision) :=
  match verificationContext session p db with
  | none => applyReplayGuardWithoutFloodControl digests session innerNow p db
  | some source => applyUnderLock digests session now innerNow p source db

/-- The administrator on whose behalf a safeguard is changed. -/
structure AdminSession where
  clock : Instant
  tenantId : TenantId
  subjectId : SubjectId
  isTenantAdmin : Bool
  activeKey : TenantId → SourceId → Option (EvidenceSourceKeyId × Sha256Digest)

structure SafeguardsCall where
  sourceId : SourceId
  rateLimitWindowSeconds : Int
  rateLimitMaxEvents : Int
  rateLimitSuspensionThreshold : Int
  maximumInfluence : ℚ
  occurredAt : Instant
  deriving DecidableEq, Repr

theorem roundNumeric_inRange {value : ℚ} (inRange : 1 / 10000 ≤ value ∧ value ≤ 1) :
    1 / 10000 ≤ roundNumeric 4 value ∧ roundNumeric 4 value ≤ 1 := by
  obtain ⟨low, high⟩ := inRange
  have nonneg : 0 ≤ value := le_trans (by norm_num) low
  have least : (1 : ℤ) ≤ ⌊value * 10 ^ 4 + 1 / 2⌋ := by
    rw [Int.le_floor]
    push_cast
    linarith
  have most : ⌊value * 10 ^ 4 + 1 / 2⌋ ≤ (10000 : ℤ) := by
    have below : ⌊value * 10 ^ 4 + 1 / 2⌋ < (10001 : ℤ) := by
      rw [Int.floor_lt]
      push_cast
      linarith
    omega
  have leastRat : (1 : ℚ) ≤ ⌊value * 10 ^ 4 + 1 / 2⌋ := by exact_mod_cast least
  have mostRat : (⌊value * 10 ^ 4 + 1 / 2⌋ : ℚ) ≤ 10000 := by exact_mod_cast most
  rw [roundNumeric, if_pos nonneg]
  constructor
  · rw [le_div_iff₀ (by norm_num)]
    linarith
  · rw [div_le_iff₀ (by norm_num)]
    linarith

/-- The safeguards as the columns store them, when every argument is in its range. -/
def SafeguardsCall.safeguards? (p : SafeguardsCall) : Option Safeguards :=
  if window : 1 ≤ p.rateLimitWindowSeconds ∧ p.rateLimitWindowSeconds ≤ 3600 then
    if maxEvents : 1 ≤ p.rateLimitMaxEvents ∧ p.rateLimitMaxEvents ≤ 100000 then
      if threshold : 1 ≤ p.rateLimitSuspensionThreshold ∧
          p.rateLimitSuspensionThreshold ≤ 1000 then
        if influence : 1 / 10000 ≤ p.maximumInfluence ∧ p.maximumInfluence ≤ 1 then some {
          rateLimitWindowSeconds := p.rateLimitWindowSeconds.toNat
          rateLimitMaxEvents := p.rateLimitMaxEvents.toNat
          rateLimitSuspensionThreshold := p.rateLimitSuspensionThreshold.toNat
          maximumInfluence := ⟨roundNumeric 4 p.maximumInfluence, roundNumeric_inRange influence⟩
          windowInRange := by omega
          maxEventsInRange := by omega
          thresholdInRange := by omega }
        else none
      else none
    else none
  else none

/-- Closes the window of a source. -/
def EvidenceDatabase.deleteRate (db : EvidenceDatabase) (source : SourceKey) :
    EvidenceDatabase :=
  { db with rates := db.rates.delete source }

def configureEvidenceSourceSafeguards (session : AdminSession) (p : SafeguardsCall)
    (db : EvidenceDatabase) : Except SqlError (EvidenceDatabase × EvidenceSource) := do
  let failure := SqlError.raised "Evidence source safeguard configuration denied."
  require (session.isTenantAdmin ∧ p.occurredAt ≤ session.clock + interval 2) failure
  let safeguards ← requireSome p.safeguards? failure
  let source ← requireSome (db.sources.get? (session.tenantId, p.sourceId)) failure
  require (source.state ≠ .retired) failure
  let configured := { source with
    safeguards := safeguards
    version := source.version + 1
    updatedAt := max session.clock p.occurredAt }
  let db ← storeSource configured db
  let db := db.deleteRate configured.key
  return ({ db with controlEvents := db.controlEvents ++
    [configured.controlEvent (.configured session.subjectId) "SAFEGUARDS_CONFIGURED"
      p.occurredAt] }, configured)

/-- `p_suspended` may be NULL, though the service sends a boolean. -/
structure SuspensionCall where
  sourceId : SourceId
  suspended : Option Bool
  reasonCode : String
  occurredAt : Instant
  deriving DecidableEq, Repr

/-- The source may change to the state that the call asks for. -/
def EvidenceSource.allows (source : EvidenceSource) (session : AdminSession)
    (p : SuspensionCall) : Bool :=
  match p.suspended with
  | some true => source.state = .active
  | some false => source.state = .suspended &&
      match session.activeKey source.tenantId source.sourceId with
      | some (_, publicKeySha256) => source.verificationKeySha256 = some publicKeySha256
      | none => false
  -- with NULL every comparison is unknown and refuses nothing
  | none => true

/-- `evidence_sources_active_key` -/
def EvidenceSource.isKeyed (source : EvidenceSource) : Bool :=
  source.state ≠ .active || source.verificationKeySha256.isSome

def setEvidenceSourceSuspension (session : AdminSession) (p : SuspensionCall)
    (db : EvidenceDatabase) : Except SqlError (EvidenceDatabase × EvidenceSource) := do
  let failure := SqlError.raised "Evidence source suspension change denied."
  require (session.isTenantAdmin ∧ isReasonCode p.reasonCode ∧
      p.occurredAt ≤ session.clock + interval 2) failure
  let source ← requireSome (db.sources.get? (session.tenantId, p.sourceId)) failure
  require (source.allows session p) failure
  let controlled := source.withState (if p.suspended = some true then .suspended else .active)
    (max session.clock p.occurredAt)
  -- every other update of a source keeps its state, gives it a key or does not make it active
  require controlled.isKeyed (.checkViolation "evidence_sources_active_key")
  let db ← storeSource controlled db
  let db := db.deleteRate controlled.key
  let eventType := if p.suspended = some true then
    SourceControlEventType.suspended session.subjectId else .resumed session.subjectId
  return ({ db with controlEvents := db.controlEvents ++
    [controlled.controlEvent eventType p.reasonCode p.occurredAt] }, controlled)

end TenantTrust.Trust
