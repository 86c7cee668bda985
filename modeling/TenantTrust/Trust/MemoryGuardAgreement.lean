import TenantTrust.Trust.FloodSafety
import TenantTrust.Trust.MemoryGuard

/-! The guard in memory decides like the guard of the database. -/

namespace TenantTrust.Trust

open Library Identity

variable {digests : EvidenceDigests} {session : GuardSession} {now : Instant}
  {p : ReplayCandidate} {db : EvidenceDatabase} {times : List Instant}

/-! What a guard that reads milliseconds can tell apart. -/

/-- Times in one millisecond of a second have the same microseconds; whole milliseconds do. -/
def KeptApart (times : List Instant) : Prop :=
  ∀ a ∈ times, ∀ b ∈ times, milliseconds a % 1000 = milliseconds b % 1000 → a % 1000 = b % 1000

instance KeptApart.decidable (times : List Instant) : Decidable (KeptApart times) :=
  inferInstanceAs (Decidable (∀ a ∈ times, ∀ b ∈ times,
    milliseconds a % 1000 = milliseconds b % 1000 → a % 1000 = b % 1000))

theorem KeptApart.le_add_iff (apart : KeptApart times) {a b : Instant} (first : a ∈ times)
    (second : b ∈ times) (n : Int) :
    milliseconds a ≤ milliseconds b + n * 1000 ↔ a ≤ b + interval n := by
  have same := apart a first b second
  unfold milliseconds interval Timestamp Instant at *
  omega

theorem KeptApart.add_le_iff (apart : KeptApart times) {a b : Instant} (first : a ∈ times)
    (second : b ∈ times) (n : Int) :
    milliseconds a + n * 1000 ≤ milliseconds b ↔ a + interval n ≤ b := by
  have same := apart a first b second
  unfold milliseconds interval Timestamp Instant at *
  omega

theorem KeptApart.le_iff (apart : KeptApart times) {a b : Instant} (first : a ∈ times)
    (second : b ∈ times) : milliseconds a ≤ milliseconds b ↔ a ≤ b := by
  have same := apart a first b second
  unfold milliseconds Timestamp Instant at *
  omega

/-! The relation between the two states. -/

section Relation

/-- A window in memory and its row. -/
def RateMirrors (times : List Instant) (clock : Instant) :
    Option MemoryRate → Option SourceRateState → Prop
  | none, none => True
  | some rate, some row => rate.windowStartedAt = milliseconds row.windowStartedAt ∧
      row.acceptedCount = rate.acceptedCount ∧ row.rateLimitedCount = rate.rateLimitedCount ∧
      row.windowStartedAt ≤ clock ∧ row.windowStartedAt ∈ times
  | _, _ => False

/-- A key that has accepted nothing may have a row, which is still empty. -/
structure EpochMirrors (times : List Instant) (clock : Instant) (epoch : Option MemoryEpoch)
    (row : Option IngestionState) : Prop where
  present : row = none → epoch = none
  columns : ∀ state, row = some state → state.createdAt ≤ clock ∧
    state.highestSourceSequence = epoch.map MemoryEpoch.highestSourceSequence ∧
    state.latestObservedAt.map milliseconds = epoch.map MemoryEpoch.latestObservedAt ∧
    ∀ latest, state.latestObservedAt = some latest → latest ∈ times

structure Mirrors (times : List Instant) (start : EvidenceDatabase) (clock : Instant)
    (guard : MemoryGuard) (db : EvidenceDatabase) : Prop where
  active : ∀ key source, start.sources.get? key = some source → key ∉ guard.suspendedSources →
    db.sources.get? key = some source
  suspended : ∀ key ∈ guard.suspendedSources, ∃ source, db.sources.get? key = some source ∧
    source.state = .suspended
  rates : ∀ key, key ∉ guard.suspendedSources →
    RateMirrors times clock (guard.sourceRates key) (db.rates.get? key)
  epochs : ∀ key, EpochMirrors times clock (guard.epochs key) (db.ingestion.get? key)
  events : ∀ event, event ∈ guard.acceptedEventIds ↔ ∃ receipt ∈ db.receipts, receipt.key = event
  nonces : ∀ key hash, (∃ epoch, guard.epochs key = some epoch ∧ hash ∈ epoch.nonceHashes) ↔
    ∃ receipt ∈ db.receipts, receipt.epoch = key ∧ receipt.nonceSha256 = hash
  sequences : ∀ receipt ∈ db.receipts, ∃ epoch, guard.epochs receipt.epoch = some epoch ∧
    receipt.sourceSequence ≤ epoch.highestSourceSequence

theorem EvidenceDatabase.Fresh.mirrors {start : EvidenceDatabase} (fresh : start.Fresh)
    (clock : Instant) : Mirrors times start clock MemoryGuard.empty start where
  active := fun _ _ found _ => found
  suspended := fun _ member => by simp [MemoryGuard.empty] at member
  rates := fun key _ => by
    rw [fresh.rates]
    exact trivial
  epochs := fun key => by
    rw [fresh.ingestion]
    exact ⟨fun _ => rfl, fun state found => by simp [Table.empty, Table.get?] at found⟩
  events := fun event => by
    rw [fresh.receipts]
    simp [MemoryGuard.empty, Table.empty, Table.mem_def]
  nonces := fun key hash => by
    rw [fresh.receipts]
    simp [MemoryGuard.empty, Table.empty, Table.mem_def]
  sequences := fun receipt member => by
    rw [fresh.receipts] at member
    simp [Table.empty, Table.mem_def] at member

variable {start : EvidenceDatabase} {clock : Instant} {guard : MemoryGuard}

theorem RateMirrors.later {rate : Option MemoryRate} {row : Option SourceRateState}
    (mirrors : RateMirrors times clock rate row) (later : clock ≤ now) :
    RateMirrors times now rate row := by
  cases rate with
  | none =>
      cases row with
      | none => trivial
      | some row => exact mirrors
  | some rate =>
      cases row with
      | none => exact mirrors
      | some row =>
          obtain ⟨started, accepted, limited, past⟩ := mirrors
          exact ⟨started, accepted, limited, le_trans past.1 later, past.2⟩

theorem EpochMirrors.later {epoch : Option MemoryEpoch} {row : Option IngestionState}
    (mirrors : EpochMirrors times clock epoch row) (later : clock ≤ now) :
    EpochMirrors times now epoch row :=
  ⟨mirrors.present, fun state found => by
    obtain ⟨created, columns⟩ := mirrors.columns state found
    exact ⟨le_trans created later, columns⟩⟩

theorem Mirrors.later (mirrors : Mirrors times start clock guard db) (later : clock ≤ now) :
    Mirrors times start now guard db :=
  { mirrors with
    rates := fun key listed => (mirrors.rates key listed).later later
    epochs := fun key => (mirrors.epochs key).later later }

/-- The row that a call reads has the columns of the epoch in memory. -/
theorem Mirrors.ingestionState (mirrors : Mirrors times start now guard db) (p : ReplayCandidate) :
    (db.ingestionState p now).createdAt ≤ now ∧
      (db.ingestionState p now).highestSourceSequence =
        (guard.epochs p.epoch).map MemoryEpoch.highestSourceSequence ∧
      (db.ingestionState p now).latestObservedAt.map milliseconds =
        (guard.epochs p.epoch).map MemoryEpoch.latestObservedAt ∧
      ∀ latest, (db.ingestionState p now).latestObservedAt = some latest → latest ∈ times := by
  have epoch := mirrors.epochs p.epoch
  unfold EvidenceDatabase.ingestionState
  cases present : db.ingestion.get? p.epoch with
  | none =>
      rw [epoch.present present]
      refine ⟨le_refl _, rfl, rfl, fun latest absent => ?_⟩
      cases absent
  | some state => exact epoch.columns state present

/-- No receipt of the key has the sequence number of a candidate that is in order. -/
theorem Mirrors.newSequence (mirrors : Mirrors times start now guard db)
    (order : p.InOrder digests db.receipts.rows (db.ingestionState p now)) :
    ∀ other ∈ db.receipts, other.epoch = p.epoch → other.sourceSequence ≠ p.sourceSequence := by
  intro receipt member same
  obtain ⟨epoch, found, below⟩ := mirrors.sequences receipt member
  obtain ⟨_, highest, _⟩ := mirrors.ingestionState p
  rw [same] at found
  rw [found, Option.map_some] at highest
  exact (lt_of_le_of_lt below (order.sequence _ highest)).ne

/-- Both guards count a call in the same window. -/
theorem Mirrors.rateWindow (mirrors : Mirrors times start now guard db)
    (apart : KeptApart times) (read : now ∈ times) (p : ReplayCandidate)
    (safeguards : Safeguards) (listed : p.source ∉ guard.suspendedSources) :
    RateMirrors times now (some (guard.rateState safeguards (milliseconds now) p.source))
      (some (db.rateWindow safeguards now p)) := by
  have window := mirrors.rates p.source listed
  unfold MemoryGuard.rateState EvidenceDatabase.rateWindow
  cases found : guard.sourceRates p.source with
  | none =>
      cases stored : db.rates.get? p.source with
      | none => exact ⟨rfl, rfl, rfl, le_refl _, read⟩
      | some row =>
          rw [found, stored] at window
          exact absurd window id
  | some rate =>
      cases stored : db.rates.get? p.source with
      | none =>
          rw [found, stored] at window
          exact absurd window id
      | some row =>
          rw [found, stored] at window
          obtain ⟨started, accepted, limited, past, opened⟩ := window
          have elapsed : (milliseconds now ≥ rate.windowStartedAt +
                (safeguards.rateLimitWindowSeconds : Int) * 1000) =
              (now ≥ row.windowStartedAt + interval safeguards.rateLimitWindowSeconds) := by
            rw [started]
            exact propext (apart.add_le_iff opened read _)
          dsimp only
          simp only [elapsed]
          split
          · exact ⟨rfl, rfl, rfl, le_refl _, read⟩
          · exact ⟨started, accepted, limited, past, opened⟩

/-- No constraint stands in the way of a call. -/
theorem Mirrors.succeeds (mirrors : Mirrors times start now guard db)
    (apart : KeptApart times) (read : now ∈ times) {session : GuardSession}
    (wellFormed : p.wellFormed = true)
    (influence : (session.activeInfluence p.tenantId).isSome = true)
    (registered : ∀ source, verificationContext session p db = some source →
      p.source ∉ guard.suspendedSources ∧ source.createdAt ≤ now) :
    ∃ next decision, applyEvidenceReplayGuard digests session now now p db =
      .ok (next, decision) := by
  obtain ⟨created, _⟩ := mirrors.ingestionState p
  unfold applyEvidenceReplayGuard
  cases context : verificationContext session p db with
  | none =>
      refine applyReplayGuardWithoutFloodControl_succeeds wellFormed fun source resolved _ => ?_
      simp [context] at resolved
  | some source =>
      obtain ⟨listed, existed⟩ := registered source context
      obtain ⟨_, _, _, past, _⟩ := mirrors.rateWindow apart read p source.safeguards listed
      refine applyUnderLock_succeeds wellFormed context ?_ existed created mirrors.newSequence
      dsimp only [TimelyUnderLock]
      split
      · exact past
      · exact fun _ => ⟨past, influence⟩

end Relation

/-! What each change of the two states leaves of the relation. -/

section Changes

variable {start : EvidenceDatabase} {guard : MemoryGuard}

theorem Mirrors.setRate (mirrors : Mirrors times start now guard db) {key : SourceKey}
    {rate : MemoryRate} {row : SourceRateState} (which : row.key = key)
    (same : RateMirrors times now (some rate) (some row)) :
    Mirrors times start now (guard.setRate key rate) { db with rates := db.rates.upsert row } :=
  { mirrors with
    rates := fun other listed => by
      dsimp only [MemoryGuard.setRate]
      rw [Table.get?_upsert, which, Function.update_apply]
      by_cases equal : key = other
      · rw [if_pos equal, if_pos equal.symm]
        exact same
      · rw [if_neg equal, if_neg fun h => equal h.symm]
        exact mirrors.rates other listed }

/-- The window of a suspended source is of no consequence. -/
theorem Mirrors.setRate_suspended (mirrors : Mirrors times start now guard db) {key : SourceKey}
    (member : key ∈ guard.suspendedSources) (rate : MemoryRate) :
    Mirrors times start now (guard.setRate key rate) db :=
  { mirrors with
    rates := fun other listed => by
      have apart : other ≠ key := fun equal => listed (equal ▸ member)
      dsimp only [MemoryGuard.setRate]
      rw [Function.update_of_ne apart]
      exact mirrors.rates other listed }

theorem Mirrors.suspend (mirrors : Mirrors times start now guard db) {key : SourceKey}
    {source : EvidenceSource} (found : db.sources.get? key = some source) :
    Mirrors times start now { guard with suspendedSources := key :: guard.suspendedSources }
      { db with sources := db.sources.upsert (source.withState .suspended now) } := by
  have before := Table.get?_key found
  have which : (source.withState .suspended now).key = key := before
  have sources : ∀ other, (db.sources.upsert (source.withState .suspended now)).get? other =
      if key = other then some (source.withState .suspended now) else db.sources.get? other := by
    intro other
    rw [Table.get?_upsert, which]
  refine { mirrors with active := ?_, suspended := ?_, rates := ?_ }
  · intro other registered stored listed
    obtain ⟨apart, before⟩ := List.ne_and_not_mem_of_not_mem_cons listed
    rw [sources, if_neg (Ne.symm apart)]
    exact mirrors.active other registered stored before
  · intro other member
    dsimp only
    rw [sources]
    split
    · exact ⟨_, rfl, rfl⟩
    · rename_i apart
      rcases List.mem_cons.mp member with equal | before
      · exact absurd equal.symm apart
      · exact mirrors.suspended other before
  · intro other listed
    exact mirrors.rates other (List.ne_and_not_mem_of_not_mem_cons listed).2

/-- The guard in memory never reads its log. -/
theorem Mirrors.logged (mirrors : Mirrors times start now guard db) (log : List MemoryRejection) :
    Mirrors times start now { guard with rejections := log } db :=
  { mirrors with }

/-- The relation reads four tables. -/
theorem Mirrors.of_tables (mirrors : Mirrors times start now guard db) {next : EvidenceDatabase}
    (sources : next.sources = db.sources) (ingestion : next.ingestion = db.ingestion)
    (receipts : next.receipts = db.receipts) (rates : next.rates = db.rates) :
    Mirrors times start now guard next where
  active := sources ▸ mirrors.active
  suspended := sources ▸ mirrors.suspended
  rates := rates ▸ mirrors.rates
  epochs := ingestion ▸ mirrors.epochs
  events := receipts ▸ mirrors.events
  nonces := receipts ▸ mirrors.nonces
  sequences := receipts ▸ mirrors.sequences

theorem Mirrors.openRow (mirrors : Mirrors times start now guard db) (p : ReplayCandidate) :
    Mirrors times start now guard
      { db with ingestion := db.ingestion.insertIfAbsent (db.ingestionState p now) } := by
  refine { mirrors with epochs := fun key => ?_ }
  dsimp only
  rw [Table.get?_insertIfAbsent, ingestionState_key]
  split
  · rename_i same
    rw [← same]
    refine ⟨fun absent => by simp at absent, fun state found => ?_⟩
    obtain rfl := Option.some.inj found
    have row : (db.ingestion.get? p.epoch).getD (db.ingestionState p now) =
        db.ingestionState p now := by
      unfold EvidenceDatabase.ingestionState
      cases db.ingestion.get? p.epoch <;> rfl
    rw [row]
    exact mirrors.ingestionState p
  · exact mirrors.epochs key

theorem Mirrors.accept (mirrors : Mirrors times start now guard db) {candidate : MemoryCandidate}
    {source : EvidenceSource} {next : EvidenceDatabase} {session : GuardSession}
    (accepts : Accepts digests session now candidate.toReplayCandidate source db next)
    {rate : MemoryRate} {window : SourceRateState} (which : window.key = candidate.source)
    (same : RateMirrors times now (some rate) (some window))
    (read : candidate.observedAt ∈ times) :
    Mirrors times start now (guard.accept digests (milliseconds now) candidate rate)
      { next with rates := next.rates.upsert (window.countAccepted now) } := by
  obtain ⟨influence, inserted⟩ := accepts.receipts
  have member : ∀ receipt, receipt ∈ next.receipts ↔ receipt ∈ db.receipts ∨
      receipt = candidate.toReplayCandidate.receipt digests now influence := by
    intro receipt
    rw [Table.mem_insertNew inserted]
  have covered := fun receipt found => mirrors.sequences receipt found
  obtain ⟨_, highest, _⟩ := mirrors.ingestionState candidate.toReplayCandidate
  constructor
  · intro key registered stored listed
    dsimp only
    rw [accepts.sources]
    exact mirrors.active key registered stored listed
  · intro key listed
    dsimp only
    rw [accepts.sources]
    exact mirrors.suspended key listed
  · intro key listed
    have row : (window.countAccepted now).key = candidate.source := which
    dsimp only [MemoryGuard.accept]
    rw [accepts.rates, Table.get?_upsert, row, Function.update_apply]
    by_cases equal : candidate.source = key
    · rw [if_pos equal, if_pos equal.symm]
      obtain ⟨started, accepted, limited, past⟩ := same
      exact ⟨started, congrArg (· + 1) accepted, limited, past⟩
    · rw [if_neg equal, if_neg fun h => equal h.symm]
      exact mirrors.rates key listed
  · intro key
    have row : ((db.ingestionState candidate.toReplayCandidate now).advance
        candidate.toReplayCandidate now).key = candidate.epoch :=
      ingestionState_key db candidate.toReplayCandidate now
    dsimp only [MemoryGuard.accept]
    rw [accepts.ingestion, Table.get?_upsert, row, Function.update_apply]
    by_cases equal : candidate.epoch = key
    · rw [if_pos equal, if_pos equal.symm]
      refine ⟨fun absent => by simp at absent, fun state found => ?_⟩
      obtain rfl := Option.some.inj found
      refine ⟨accepts.createdAt, rfl, rfl, fun latest named => ?_⟩
      rw [← Option.some.inj named]
      exact read
    · rw [if_neg equal, if_neg fun h => equal h.symm, Table.get?_insertIfAbsent,
        ingestionState_key, if_neg equal]
      exact mirrors.epochs key
  · intro event
    dsimp only [MemoryGuard.accept]
    rw [List.mem_cons, mirrors.events event]
    constructor
    · rintro (rfl | ⟨receipt, stored, same⟩)
      · exact ⟨_, (member _).mpr (Or.inr rfl), rfl⟩
      · exact ⟨receipt, (member _).mpr (Or.inl stored), same⟩
    · rintro ⟨receipt, stored, rfl⟩
      rcases (member _).mp stored with old | rfl
      · exact Or.inr ⟨receipt, old, rfl⟩
      · exact Or.inl rfl
  · intro key hash
    dsimp only [MemoryGuard.accept]
    have before := mirrors.nonces key hash
    constructor
    · rintro ⟨epoch, found, listed⟩
      rw [Function.update_apply] at found
      split at found
      · rename_i equal
        obtain rfl := Option.some.inj found
        rcases List.mem_cons.mp listed with rfl | old
        · exact ⟨_, (member _).mpr (Or.inr rfl), equal.symm, rfl⟩
        · cases known : guard.epochs candidate.epoch with
          | none => simp [known] at old
          | some known_ =>
              rw [known, Option.map_some, Option.getD_some] at old
              obtain ⟨receipt, stored, same⟩ := before.mp ⟨known_, equal ▸ known, old⟩
              exact ⟨receipt, (member _).mpr (Or.inl stored), same⟩
      · obtain ⟨receipt, stored, same⟩ := before.mp ⟨epoch, found, listed⟩
        exact ⟨receipt, (member _).mpr (Or.inl stored), same⟩
    · rintro ⟨receipt, stored, same, rfl⟩
      rw [Function.update_apply]
      rcases (member _).mp stored with old | rfl
      · obtain ⟨epoch, found, listed⟩ := before.mpr ⟨receipt, old, same, rfl⟩
        split
        · rename_i equal
          refine ⟨_, rfl, List.mem_cons_of_mem _ ?_⟩
          rw [← equal, found, Option.map_some, Option.getD_some]
          exact listed
        · exact ⟨epoch, found, listed⟩
      · have equal : key = candidate.epoch := same.symm
        rw [if_pos equal]
        exact ⟨_, rfl, List.mem_cons_self⟩
  · intro receipt stored
    dsimp only [MemoryGuard.accept]
    rw [Function.update_apply]
    rcases (member _).mp stored with old | rfl
    · obtain ⟨epoch, found, below⟩ := covered receipt old
      split
      · rename_i equal
        refine ⟨_, rfl, le_trans below ?_⟩
        rw [← equal, found, Option.map_some] at highest
        exact (accepts.inOrder.sequence _ highest).le
      · exact ⟨epoch, found, below⟩
    · exact ⟨_, if_pos rfl, le_refl _⟩

/-- The window of a call is opened or found by both guards. -/
theorem Mirrors.opened (mirrors : Mirrors times start now guard db) (apart : KeptApart times)
    (read : now ∈ times) (candidate : MemoryCandidate) (safeguards : Safeguards)
    (listed : candidate.source ∉ guard.suspendedSources) :
    Mirrors times start now (guard.opened safeguards (milliseconds now) candidate)
      { db with
        rates := db.rates.upsert (db.rateWindow safeguards now candidate.toReplayCandidate) } :=
  mirrors.setRate (rateWindow_key db safeguards now candidate.toReplayCandidate)
    (mirrors.rateWindow apart read candidate.toReplayCandidate safeguards listed)

theorem Mirrors.rateLimit (mirrors : Mirrors times start now guard db) (apart : KeptApart times)
    (read : now ∈ times) {candidate : MemoryCandidate}
    {source : EvidenceSource} {next : EvidenceDatabase}
    (found : db.sources.get? candidate.source = some source)
    (listed : candidate.source ∉ guard.suspendedSources)
    (limits : RateLimits digests now candidate.toReplayCandidate source
      (db.rateWindow source.safeguards now candidate.toReplayCandidate) db next) :
    Mirrors times start now
      ((guard.opened source.safeguards (milliseconds now) candidate).rateLimit source.safeguards
        candidate.source
        (guard.rateState source.safeguards (milliseconds now) candidate.source)) next := by
  obtain ⟨started, accepted, limited, past⟩ :=
    mirrors.rateWindow apart read candidate.toReplayCandidate source.safeguards listed
  have which := rateWindow_key db source.safeguards now candidate.toReplayCandidate
  have opened := mirrors.opened apart read candidate source.safeguards listed
  unfold MemoryGuard.opened at opened ⊢
  generalize db.rateWindow source.safeguards now candidate.toReplayCandidate = window at *
  generalize guard.rateState source.safeguards (milliseconds now) candidate.source = rate at *
  have row : (window.countRateLimited now).key = candidate.source := which
  have again : RateMirrors times now (some rate.countRateLimited)
      (some (window.countRateLimited now)) :=
    ⟨started, accepted, congrArg (· + 1) limited, past⟩
  have counted := opened.setRate row again
  have reached : rate.countRateLimited.rateLimitedCount = window.rateLimitedCount + 1 :=
    congrArg (· + 1) limited.symm
  unfold MemoryGuard.rateLimit
  dsimp only
  rw [reached]
  rcases limits.control with ⟨few, sources, _⟩ | ⟨many, _, sources, _⟩
  · rw [if_neg (not_le.mpr few)]
    exact counted.of_tables sources limits.ingestion limits.receipts limits.rates
  · rw [if_pos many]
    exact (counted.suspend found).of_tables sources limits.ingestion limits.receipts limits.rates

end Changes

/-! The decisions of the two guards. -/

section Decisions

variable {start : EvidenceDatabase} {guard : MemoryGuard}

theorem or_ite_some {α : Type} {condition : Prop} [Decidable condition] {value : α}
    {rest other : Option α} :
    (if condition then some value else rest).or other =
      if condition then some value else rest.or other := by
  split <;> rfl

/-- The flat order of checks is the nested one. -/
theorem Mirrors.reasonCode (mirrors : Mirrors times start now guard db) (apart : KeptApart times)
    (read : now ∈ times) (digests : EvidenceDigests) {candidate : MemoryCandidate}
    (observed : candidate.observedAt ∈ times) (expires : candidate.expiresAt ∈ times)
    {maximumAgeSeconds : Nat} (sameAge : candidate.maximumAgeSeconds = maximumAgeSeconds) :
    guard.reasonCode digests (milliseconds now) candidate =
      (freshnessReason now maximumAgeSeconds candidate.toReplayCandidate).or
        (replayReason digests db.receipts.rows
          (db.ingestionState candidate.toReplayCandidate now) candidate.toReplayCandidate) := by
  obtain ⟨_, highest, latest, read_⟩ := mirrors.ingestionState candidate.toReplayCandidate
  have disordered : (milliseconds candidate.observedAt ≥ milliseconds candidate.expiresAt) =
      (candidate.observedAt ≥ candidate.expiresAt) :=
    propext (apart.le_iff expires observed)
  have future : (milliseconds candidate.observedAt > milliseconds now + 30 * 1000) =
      (candidate.observedAt > now + interval 30) := by
    rw [gt_iff_lt, gt_iff_lt, ← not_le, ← not_le]
    exact congrArg Not (propext (apart.le_add_iff observed read 30))
  have stale : (milliseconds candidate.observedAt <
        milliseconds now - candidate.maximumAgeSeconds * 1000) =
      (candidate.observedAt < now - interval maximumAgeSeconds) := by
    rw [← not_le, ← not_le, sub_le_iff_le_add, sub_le_iff_le_add, sameAge]
    exact congrArg Not (propext (apart.le_add_iff read observed maximumAgeSeconds))
  have expired : (milliseconds candidate.expiresAt ≤ milliseconds now) =
      (candidate.expiresAt ≤ now) :=
    propext (apart.le_iff expires read)
  have long : (milliseconds candidate.expiresAt >
        milliseconds candidate.observedAt + candidate.maximumAgeSeconds * 1000) =
      (candidate.expiresAt > candidate.observedAt + interval maximumAgeSeconds) := by
    rw [gt_iff_lt, gt_iff_lt, ← not_le, ← not_le, sameAge]
    exact congrArg Not (propext (apart.le_add_iff expires observed maximumAgeSeconds))
  have earlier : ((guard.epochs candidate.epoch).any
        (fun epoch => milliseconds candidate.observedAt < epoch.latestObservedAt) = true) =
      ((db.ingestionState candidate.toReplayCandidate now).latestObservedAt.any
        (fun latest => candidate.observedAt < latest) = true) := by
    have memory : (guard.epochs candidate.epoch).any
          (fun epoch => milliseconds candidate.observedAt < epoch.latestObservedAt) =
        ((guard.epochs candidate.epoch).map MemoryEpoch.latestObservedAt).any
          fun latest => milliseconds candidate.observedAt < latest := by
      rw [Option.any_map]
    rw [memory, ← latest, Option.any_map, Option.any_eq_true, Option.any_eq_true]
    refine propext (exists_congr fun other => and_congr_right fun named => ?_)
    simp only [decide_eq_true_eq]
    rw [← not_le, ← not_le]
    exact not_congr (apart.le_iff (read_ other named) observed)
  have event : (candidate.event ∈ guard.acceptedEventIds) = (db.receipts.rows.any
      (fun receipt => receipt.key = candidate.event) = true) := by
    simp only [List.any_eq_true, decide_eq_true_eq]
    exact propext (mirrors.events candidate.event)
  have nonce : ((guard.epochs candidate.epoch).any
        (fun epoch => digests.nonce candidate.nonce ∈ epoch.nonceHashes) = true) =
      (db.receipts.rows.any (fun receipt => receipt.epoch = candidate.epoch &&
        receipt.nonceSha256 = digests.nonce candidate.nonce) = true) := by
    simp only [Option.any_eq_true, List.any_eq_true, Bool.and_eq_true, decide_eq_true_eq]
    exact propext (mirrors.nonces candidate.epoch (digests.nonce candidate.nonce))
  simp only [MemoryGuard.reasonCode, freshnessReason, replayReason, disordered, future, stale,
    expired, long, highest, earlier, event, nonce, Option.any_map, or_ite_some, Option.none_or]

/-- What the two guards have to agree on. -/
def outcomeOf {ε : Type} : Except ε GuardDecision → Option (Bool × Option GuardReason)
  | .ok decision => some (decision.accepted, decision.reasonCode)
  | .error _ => none

structure GuardCall where
  session : GuardSession
  now : Instant
  candidate : MemoryCandidate

/-- The times that the guards compare on account of a call. -/
def GuardCall.comparedTimes (call : GuardCall) : List Instant :=
  [call.now, call.candidate.observedAt, call.candidate.expiresAt]

/-- The database knows the candidate's active source, key and member; the source has the
safeguards and maximum age that the guard in memory is given. -/
def GuardCall.resolves (start : EvidenceDatabase) (safeguards : Safeguards) (call : GuardCall) :
    Bool :=
  (start.sources.get? call.candidate.source).any fun source =>
    source.verifies call.session call.candidate.toReplayCandidate &&
    source.safeguards = safeguards &&
    call.candidate.maximumAgeSeconds = source.maximumAgeSeconds &&
    source.createdAt ≤ call.now && (call.session.activeInfluence call.candidate.tenantId).isSome

def memoryDecisions (digests : EvidenceDigests) (safeguards : Safeguards) :
    MemoryGuard → List GuardCall → List (Except EvidenceIngestionUnavailable GuardDecision)
  | _, [] => []
  | guard, call :: calls =>
      let (next, decision) :=
        applyMemoryReplayGuard digests safeguards (milliseconds call.now) call.candidate guard
      decision :: memoryDecisions digests safeguards next calls

/-- One clock reading serves both procedures; a call that fails leaves nothing behind. -/
def databaseDecisions (digests : EvidenceDigests) :
    EvidenceDatabase → List GuardCall → List (Except SqlError GuardDecision)
  | _, [] => []
  | db, call :: calls =>
      match applyEvidenceReplayGuard digests call.session call.now call.now
          call.candidate.toReplayCandidate db with
      | .ok (next, decision) => .ok decision :: databaseDecisions digests next calls
      | .error failure => .error failure :: databaseDecisions digests db calls

/-- Both calls end with the same outcome, in related states. -/
def StepsAlike (times : List Instant) (digests : EvidenceDigests) (safeguards : Safeguards)
    (start : EvidenceDatabase) (call : GuardCall) (guard : MemoryGuard) (db : EvidenceDatabase) :
    Prop :=
  let memory :=
    applyMemoryReplayGuard digests safeguards (milliseconds call.now) call.candidate guard
  ∃ next decision,
    applyEvidenceReplayGuard digests call.session call.now call.now
      call.candidate.toReplayCandidate db = .ok (next, decision) ∧
    outcomeOf memory.2 = some (decision.accepted, decision.reasonCode) ∧
    Mirrors times start call.now memory.1 next

theorem Mirrors.step {safeguards : Safeguards} {clock : Instant} {call : GuardCall}
    (mirrors : Mirrors times start clock guard db) (apart : KeptApart times)
    (covered : ∀ time ∈ call.comparedTimes, time ∈ times) (digests : EvidenceDigests)
    (later : clock ≤ call.now)
    (resolves : call.resolves start safeguards = true)
    (valid : call.candidate.isValid = true) (bound : call.candidate.isBound = true) :
    StepsAlike times digests safeguards start call guard db := by
  have read : call.now ∈ times := covered _ (by simp [GuardCall.comparedTimes])
  have observed : call.candidate.observedAt ∈ times := covered _ (by simp [GuardCall.comparedTimes])
  have expires : call.candidate.expiresAt ∈ times := covered _ (by simp [GuardCall.comparedTimes])
  replace mirrors := mirrors.later later
  obtain ⟨source, registered, resolved⟩ := (Option.any_eq_true _ _).mp resolves
  simp only [Bool.and_eq_true, decide_eq_true_eq] at resolved
  obtain ⟨⟨⟨⟨verifies, rfl⟩, sameAge⟩, created⟩, influence⟩ := resolved
  have wellFormed : call.candidate.wellFormed = true := by
    simp only [MemoryCandidate.isValid, Bool.and_eq_true] at valid
    exact valid.1.1
  -- the only source that the context can be is the registered one, and it is not suspended
  have context : ∀ found, verificationContext call.session call.candidate.toReplayCandidate db =
      some found → call.candidate.source ∉ guard.suspendedSources ∧ found = source := by
    intro found resolved
    obtain ⟨stored, verified⟩ := verificationContext_eq_some.mp resolved
    have listed : call.candidate.source ∉ guard.suspendedSources := by
      intro member
      obtain ⟨other, present, state⟩ := mirrors.suspended _ member
      obtain rfl := Option.some.inj (stored.symm.trans present)
      simp [EvidenceSource.verifies, state] at verified
    exact ⟨listed, Option.some.inj
      (stored.symm.trans (mirrors.active _ source registered listed))⟩
  obtain ⟨next, decision, decided⟩ : ∃ next decision, applyEvidenceReplayGuard digests
      call.session call.now call.now call.candidate.toReplayCandidate db =
        .ok (next, decision) := by
    refine mirrors.succeeds apart read wellFormed influence fun found resolved => ?_
    obtain ⟨listed, rfl⟩ := context found resolved
    exact ⟨listed, created⟩
  refine ⟨next, decision, decided, ?_⟩
  cases applyEvidenceReplayGuard_outcome decided with
  | unresolved unknown =>
      have member : call.candidate.source ∈ guard.suspendedSources := by
        by_contra listed
        have stored := mirrors.active _ source registered listed
        have known := verificationContext_eq_some.mpr ⟨stored, verifies⟩
        simp [unknown] at known
      rw [applyMemoryReplayGuard_suspended valid member]
      exact ⟨rfl, (mirrors.setRate_suspended member _).logged _⟩
  | rateLimited found next highest known limits =>
      obtain ⟨listed, rfl⟩ := context found known
      obtain ⟨_, counted, _⟩ :=
        mirrors.rateWindow apart read call.candidate.toReplayCandidate found.safeguards listed
      rw [applyMemoryReplayGuard_rateLimited valid listed (counted ▸ limits.full)]
      have stored := mirrors.active _ found registered listed
      exact ⟨rfl, (mirrors.rateLimit apart read stored listed limits).logged _⟩
  | refused found window next decision known which room replay refused =>
      obtain ⟨listed, rfl⟩ := context found known
      subst which
      obtain ⟨_, counted, _⟩ :=
        mirrors.rateWindow apart read call.candidate.toReplayCandidate found.safeguards listed
      have room := not_le.mpr (counted ▸ room)
      have opened := mirrors.opened apart read call.candidate found.safeguards listed
      have reason := mirrors.reasonCode apart read digests observed expires sameAge
      have again : verificationContext call.session call.candidate.toReplayCandidate
          { db with
            rates := db.rates.upsert
              (db.rateWindow found.safeguards call.now call.candidate.toReplayCandidate) } =
          some found :=
        (verificationContext_congr rfl).trans known
      cases replay with
      | unresolved unknown => simp [again] at unknown
      | untimely other untimely resolved freshness =>
          obtain rfl := Option.some.inj (resolved.symm.trans again)
          rw [freshness, Option.some_or] at reason
          rw [applyMemoryReplayGuard_refused valid listed room reason]
          exact ⟨rfl, (opened.logged _).of_tables rfl rfl rfl rfl⟩
      | replayed other replayed resolved window disordered =>
          obtain rfl := Option.some.inj (resolved.symm.trans again)
          have same : replayReason digests db.receipts.rows
              (db.ingestionState call.candidate.toReplayCandidate call.now)
              call.candidate.toReplayCandidate = some replayed := disordered
          rw [freshnessReason_eq_none.mpr window, Option.none_or, same] at reason
          rw [applyMemoryReplayGuard_refused valid listed room reason]
          exact ⟨rfl, ((opened.openRow call.candidate.toReplayCandidate).logged _).of_tables
            rfl rfl rfl rfl⟩
      | accepted other next resolved accepts => simp [GuardDecision.granted] at refused
  | accepted found window admitted known which room started accepts =>
      obtain ⟨listed, rfl⟩ := context found known
      subst which
      have windows :=
        mirrors.rateWindow apart read call.candidate.toReplayCandidate found.safeguards listed
      have room := not_le.mpr (windows.2.1 ▸ room)
      have opened := mirrors.opened apart read call.candidate found.safeguards listed
      have reason := mirrors.reasonCode apart read digests observed expires sameAge
      have same : replayReason digests db.receipts.rows
          (db.ingestionState call.candidate.toReplayCandidate call.now)
          call.candidate.toReplayCandidate = none :=
        replayReason_eq_none.mpr accepts.inOrder
      rw [freshnessReason_eq_none.mpr accepts.inWindow, Option.none_or, same] at reason
      rw [applyMemoryReplayGuard_granted valid listed room reason bound]
      have key := rateWindow_key db found.safeguards call.now call.candidate.toReplayCandidate
      exact ⟨rfl, opened.accept accepts key windows observed⟩

/-- The induction is on the calls; the relation carries the clock of the last one. -/
theorem Mirrors.run {safeguards : Safeguards} {clock : Instant} (calls : List GuardCall)
    (mirrors : Mirrors times start clock guard db) (apart : KeptApart times)
    (covered : ∀ call ∈ calls, ∀ time ∈ call.comparedTimes, time ∈ times)
    (later : ∀ call ∈ calls, clock ≤ call.now)
    (ordered : (calls.map GuardCall.now).Pairwise (· ≤ ·))
    (resolves : ∀ call ∈ calls, call.resolves start safeguards = true)
    (wellFormed : ∀ call ∈ calls, call.candidate.isValid = true ∧ call.candidate.isBound = true) :
    ∃ outcomes : List (Bool × Option GuardReason),
      (memoryDecisions digests safeguards guard calls).map outcomeOf = outcomes.map some ∧
      (databaseDecisions digests db calls).map outcomeOf = outcomes.map some := by
  induction calls generalizing clock guard db with
  | nil => exact ⟨[], rfl, rfl⟩
  | cons call calls ih =>
      obtain ⟨valid, bound⟩ := wellFormed call List.mem_cons_self
      obtain ⟨next, decision, decided, replied, after⟩ := mirrors.step apart
        (covered call List.mem_cons_self) digests (later call List.mem_cons_self)
        (resolves call List.mem_cons_self) valid bound
      rw [List.map_cons, List.pairwise_cons] at ordered
      obtain ⟨outcomes, memory, database⟩ := ih after
        (fun other member => covered other (List.mem_cons_of_mem _ member))
        (fun other member => ordered.1 _ (List.mem_map_of_mem member)) ordered.2
        (fun other member => resolves other (List.mem_cons_of_mem _ member))
        (fun other member => wellFormed other (List.mem_cons_of_mem _ member))
      refine ⟨(decision.accepted, decision.reasonCode) :: outcomes, ?_, ?_⟩
      · simp only [memoryDecisions, List.map_cons, replied, memory]
      · simp only [databaseDecisions, decided, List.map_cons, database]
        rfl

end Decisions

/-- Both guards end every call, with the same flag and the same reason, as long as milliseconds
keep the times of the calls apart. -/
theorem memory_guard_decides_like_database (digests : EvidenceDigests) (safeguards : Safeguards)
    (start : EvidenceDatabase) (fresh : start.Fresh) (calls : List GuardCall)
    (apart : KeptApart (calls.flatMap GuardCall.comparedTimes))
    (ordered : (calls.map GuardCall.now).Pairwise (· ≤ ·))
    (resolves : ∀ call ∈ calls, call.resolves start safeguards = true)
    (wellFormed : ∀ call ∈ calls, call.candidate.isValid = true ∧ call.candidate.isBound = true) :
    ∃ outcomes : List (Bool × Option GuardReason),
      (memoryDecisions digests safeguards MemoryGuard.empty calls).map outcomeOf =
        outcomes.map some ∧
      (databaseDecisions digests start calls).map outcomeOf = outcomes.map some := by
  cases calls with
  | nil => exact ⟨[], rfl, rfl⟩
  | cons first calls =>
      have covered : ∀ call ∈ first :: calls, ∀ time ∈ call.comparedTimes,
          time ∈ (first :: calls).flatMap GuardCall.comparedTimes :=
        fun call member time listed => List.mem_flatMap.mpr ⟨call, member, listed⟩
      refine (fresh.mirrors first.now).run (first :: calls) apart covered ?_ ordered resolves
        wellFormed
      intro call member
      rw [List.map_cons, List.pairwise_cons] at ordered
      rcases List.mem_cons.mp member with rfl | rest
      · exact le_refl _
      · exact ordered.1 _ (List.mem_map_of_mem rest)

namespace FloodScenario

def memoryCandidate (n : Nat) : MemoryCandidate :=
  { candidate n with maximumAgeSeconds := 300, protectedEvidence := none }

/-- The key registry has no active key for the source. -/
def keyless : GuardSession := { FloodScenario.session with activeKey := fun _ _ => none }

def call (session : GuardSession) (n : Nat) (now : Instant) : GuardCall :=
  ⟨session, now, memoryCandidate n⟩

/-- An item that expires half a millisecond after it was observed, when it is submitted. -/
def briefCall : GuardCall :=
  ⟨FloodScenario.session, interval 1, { memoryCandidate 0 with expiresAt := interval 1 + 500 }⟩

end FloodScenario

/-- The guard in memory has no registry of keys, and accepts what the database does not
resolve; it refuses an item whose times only microseconds tell apart. -/
theorem keys_and_microseconds_divide_guards :
    (¬ ∀ (digests : EvidenceDigests) (safeguards : Safeguards) (start : EvidenceDatabase),
      start.Fresh → ∀ calls : List GuardCall, (calls.map GuardCall.now).Pairwise (· ≤ ·) →
      (∀ call ∈ calls, call.candidate.isValid = true ∧ call.candidate.isBound = true) →
      (∀ call ∈ calls, (start.sources.get? call.candidate.source).any (fun source =>
        source.state = .active && source.safeguards = safeguards &&
        call.candidate.maximumAgeSeconds = source.maximumAgeSeconds) = true) →
      (memoryDecisions digests safeguards MemoryGuard.empty calls).map outcomeOf =
        (databaseDecisions digests start calls).map outcomeOf) ∧
    ¬ ∀ (digests : EvidenceDigests) (safeguards : Safeguards) (start : EvidenceDatabase),
      start.Fresh → ∀ calls : List GuardCall, (calls.map GuardCall.now).Pairwise (· ≤ ·) →
      (∀ call ∈ calls, call.candidate.isValid = true ∧ call.candidate.isBound = true) →
      (∀ call ∈ calls, call.resolves start safeguards = true) →
      (memoryDecisions digests safeguards MemoryGuard.empty calls).map outcomeOf =
        (databaseDecisions digests start calls).map outcomeOf := by
  constructor
  · intro claim
    have same := claim FloodScenario.hashes FloodScenario.safeguards FloodScenario.start
      ⟨rfl, rfl, rfl⟩ [FloodScenario.call FloodScenario.keyless 0 (interval 1)] (by decide)
      (by decide +kernel) (by decide +kernel)
    have different : (memoryDecisions FloodScenario.hashes FloodScenario.safeguards
          MemoryGuard.empty [FloodScenario.call FloodScenario.keyless 0 (interval 1)]).map
          outcomeOf ≠
        (databaseDecisions FloodScenario.hashes FloodScenario.start
          [FloodScenario.call FloodScenario.keyless 0 (interval 1)]).map outcomeOf := by
      decide +kernel
    exact different same
  · intro claim
    have same := claim FloodScenario.hashes FloodScenario.safeguards FloodScenario.start
      ⟨rfl, rfl, rfl⟩ [FloodScenario.briefCall] (by decide) (by decide +kernel)
      (by decide +kernel)
    have different : (memoryDecisions FloodScenario.hashes FloodScenario.safeguards
          MemoryGuard.empty [FloodScenario.briefCall]).map outcomeOf ≠
        (databaseDecisions FloodScenario.hashes FloodScenario.start
          [FloodScenario.briefCall]).map outcomeOf := by
      decide +kernel
    exact different same

/-- Three items of a source with room for one: accepted, over the limit, suspended. -/
theorem memory_guard_decides_like_database_flooded :
    let calls := [FloodScenario.call FloodScenario.session 0 (interval 1),
      FloodScenario.call FloodScenario.session 1 (interval 2),
      FloodScenario.call FloodScenario.session 2 (interval 2)]
    (databaseDecisions FloodScenario.hashes FloodScenario.start calls).map outcomeOf =
        [some (true, none), some (false, some (.rejected .rateLimited)),
          some (false, some .verificationContextNotFound)] ∧
      ∃ outcomes : List (Bool × Option GuardReason),
        (memoryDecisions FloodScenario.hashes FloodScenario.safeguards MemoryGuard.empty
          calls).map outcomeOf = outcomes.map some ∧
        (databaseDecisions FloodScenario.hashes FloodScenario.start calls).map outcomeOf =
          outcomes.map some :=
  ⟨by decide +kernel,
    memory_guard_decides_like_database FloodScenario.hashes FloodScenario.safeguards
      FloodScenario.start ⟨rfl, rfl, rfl⟩ _ (by decide +kernel) (by decide) (by decide +kernel)
      (by decide +kernel)⟩

end TenantTrust.Trust
