import TenantTrust.Trust.ReplaySafety

/-! Concurrent calls of the guard: each reads the clock first and takes the lock of its source
later, in any order. -/

namespace TenantTrust.Trust

open Library Identity

variable {digests : EvidenceDigests}

/-- A call that has started. One that found no active source runs on without the lock, from the
reading of the clock that the inner procedure took. -/
structure PendingCall where
  candidate : ReplayCandidate
  now : Instant
  unlockedAt : Option Instant
  deriving DecidableEq, Repr

structure FloodSystem where
  clock : Instant
  pending : Nat → Option PendingCall
  db : EvidenceDatabase

/-- The clock advances by the given time before each step. -/
inductive FloodOp where
  | begin (elapsed : Nat) (id : Nat) (candidate : ReplayCandidate)
  | lock (elapsed : Nat) (id : Nat) (session : GuardSession)
  | finish (elapsed : Nat) (id : Nat) (session : GuardSession)
  | configure (session : AdminSession) (call : SafeguardsCall)
  | setSuspension (session : AdminSession) (call : SuspensionCall)

structure CallEnd where
  candidate : ReplayCandidate
  result : Except SqlError GuardDecision

def CallEnd.accepted (ended : CallEnd) : Bool :=
  match ended.result with
  | .ok decision => decision.accepted
  | .error _ => false

namespace FloodSystem

def tick (system : FloodSystem) (elapsed : Nat) : FloodSystem :=
  { system with clock := system.clock + elapsed }

def setPending (system : FloodSystem) (id : Nat) (call : Option PendingCall) : FloodSystem :=
  { system with pending := fun other => if other = id then call else system.pending other }

/-- An aborted call leaves the tables as they were. -/
def endCall (system : FloodSystem) (id : Nat) (candidate : ReplayCandidate)
    (result : Except SqlError (EvidenceDatabase × GuardDecision)) :
    FloodSystem × Option CallEnd :=
  let ended := system.setPending id none
  match result with
  | .ok (db, decision) => ({ ended with db := db }, some ⟨candidate, .ok decision⟩)
  | .error failure => (ended, some ⟨candidate, .error failure⟩)

def administer (system : FloodSystem)
    (result : Except SqlError (EvidenceDatabase × EvidenceSource)) : FloodSystem :=
  match result with
  | .ok (db, _) => { system with db := db }
  | .error _ => system

/-- The row lock is held until the call commits, so what happens under it is one step. -/
def step (digests : EvidenceDigests) (system : FloodSystem) : FloodOp →
    FloodSystem × Option CallEnd
  | .begin elapsed id candidate =>
      let system := system.tick elapsed
      match system.pending id with
      | some _ => (system, none)
      | none => (system.setPending id (some ⟨candidate, system.clock, none⟩), none)
  | .lock elapsed id session =>
      let system := system.tick elapsed
      match system.pending id with
      | some ⟨candidate, now, none⟩ =>
          match verificationContext session candidate system.db with
          | some source => system.endCall id candidate
              (applyUnderLock digests session now system.clock candidate source system.db)
          | none => (system.setPending id (some ⟨candidate, now, some system.clock⟩), none)
      | _ => (system, none)
  | .finish elapsed id session =>
      let system := system.tick elapsed
      match system.pending id with
      | some ⟨candidate, _, some innerNow⟩ => system.endCall id candidate
          (applyReplayGuardWithoutFloodControl digests session innerNow candidate system.db)
      | _ => (system, none)
  | .configure session call =>
      (system.administer (configureEvidenceSourceSafeguards session call system.db), none)
  | .setSuspension session call =>
      (system.administer (setEvidenceSourceSuspension session call system.db), none)

end FloodSystem

/-- A call that meets no other is the sequential procedure. -/
theorem FloodSystem.step_lock {system : FloodSystem} {id : Nat} {candidate : ReplayCandidate}
    {now : Instant} {session : GuardSession} {source : EvidenceSource}
    (started : system.pending id = some ⟨candidate, now, none⟩)
    (context : verificationContext session candidate system.db = some source) (elapsed : Nat) :
    system.step digests (.lock elapsed id session) =
      (system.tick elapsed).endCall id candidate
        (applyEvidenceReplayGuard digests session now (system.clock + elapsed) candidate
          system.db) := by
  have pending : (system.tick elapsed).pending id = some ⟨candidate, now, none⟩ := started
  have db : (system.tick elapsed).db = system.db := rfl
  simp only [step, pending, db, context, applyEvidenceReplayGuard]
  rfl

/-- How many items of a source were accepted since its window was opened. -/
abbrev WindowTally := SourceKey → Nat

def windowStart? (db : EvidenceDatabase) (source : SourceKey) : Option Instant :=
  (db.rates.get? source).map SourceRateState.windowStartedAt

/-- The items of a source that one step accepts. -/
def acceptedBy (ended : Option CallEnd) (source : SourceKey) : Nat :=
  match ended with
  | some ended => if ended.accepted ∧ ended.candidate.source = source then 1 else 0
  | none => 0

/-- A step that opens a window starts a new count. -/
def WindowTally.after (tally : WindowTally) (before after : EvidenceDatabase)
    (ended : Option CallEnd) : WindowTally := fun source =>
  if windowStart? before source = windowStart? after source then
    tally source + acceptedBy ended source
  else acceptedBy ended source

/-- The system with what an observer has counted so far. -/
structure FloodHistory where
  system : FloodSystem
  tally : WindowTally

def applyFlood (digests : EvidenceDigests) :
    Transaction FloodHistory FloodOp (Option CallEnd) Empty := fun op history =>
  let (next, ended) := history.system.step digests op
  .ok (⟨next, history.tally.after history.system.db next.db ended⟩, ended)

abbrev runFlood (digests : EvidenceDigests) : FloodHistory → List FloodOp → FloodHistory :=
  Transaction.run (applyFlood digests)

/-- Nothing was submitted and every source was registered in the past. -/
structure FloodHistory.Initial (history : FloodHistory) : Prop where
  fresh : history.system.db.Fresh
  registered : ∀ source ∈ history.system.db.sources, source.createdAt ≤ history.system.clock
  idle : ∀ id, history.system.pending id = none
  uncounted : ∀ source, history.tally source = 0

/-- The freshness, replay and ordering checks let the candidate pass. -/
def passesReplayChecks (digests : EvidenceDigests) (now : Instant) (p : ReplayCandidate)
    (source : EvidenceSource) (db : EvidenceDatabase) : Bool :=
  freshnessReason now source.maximumAgeSeconds p = none &&
  replayReason digests db.receipts.rows (db.ingestionState p now) p = none

/-- A call that takes the lock and will be counted has not read the clock before its window was
opened, and one that will be accepted finds an active trust configuration. -/
def TimelyUnderLock (digests : EvidenceDigests) (session : GuardSession)
    (now innerNow : Instant) (p : ReplayCandidate) (source : EvidenceSource)
    (db : EvidenceDatabase) : Prop :=
  let window := db.rateWindow source.safeguards now p
  if window.acceptedCount ≥ source.safeguards.rateLimitMaxEvents then
    window.windowStartedAt ≤ now
  else passesReplayChecks digests innerNow p source db = true →
    window.windowStartedAt ≤ now ∧ (session.activeInfluence p.tenantId).isSome = true

instance (digests : EvidenceDigests) (session : GuardSession) (now innerNow : Instant)
    (p : ReplayCandidate) (source : EvidenceSource) (db : EvidenceDatabase) :
    Decidable (TimelyUnderLock digests session now innerNow p source db) :=
  inferInstanceAs (Decidable (
    if (db.rateWindow source.safeguards now p).acceptedCount ≥
        source.safeguards.rateLimitMaxEvents then
      (db.rateWindow source.safeguards now p).windowStartedAt ≤ now
    else passesReplayChecks digests innerNow p source db = true →
      (db.rateWindow source.safeguards now p).windowStartedAt ≤ now ∧
        (session.activeInfluence p.tenantId).isSome = true))

/-- The state of a step in which the guard decides as it should. A call that runs on without the
lock does not meet a source that was activated in the meantime and lets it pass. -/
def Timely (digests : EvidenceDigests) (history : FloodHistory) : FloodOp → Prop
  | .begin _ _ candidate => candidate.wellFormed = true
  | .lock elapsed id session =>
      ∀ candidate now source, history.system.pending id = some ⟨candidate, now, none⟩ →
        verificationContext session candidate history.system.db = some source →
        TimelyUnderLock digests session now (history.system.clock + elapsed) candidate source
          history.system.db
  | .finish _ id session =>
      ∀ candidate now innerNow source,
        history.system.pending id = some ⟨candidate, now, some innerNow⟩ →
        verificationContext session candidate history.system.db = some source →
        passesReplayChecks digests innerNow candidate source history.system.db = false
  | .configure _ _ | .setSuspension _ _ => True

end TenantTrust.Trust
