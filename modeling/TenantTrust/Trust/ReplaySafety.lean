import TenantTrust.Trust.GuardOutcomes
import Mathlib.Data.List.Forall2
import Mathlib.Data.List.Pairwise

/-! Runs of the guard over any tenants, sources and keys, and what they never accept twice. -/

namespace TenantTrust.Trust

open Library Identity

variable {digests : EvidenceDigests}

/-- Enrolment, rotation and revocation of a key change the row of a source, as does every
other statement of the registry. -/
inductive EvidenceOp where
  | submit (session : GuardSession) (now innerNow : Instant) (candidate : ReplayCandidate)
  | configure (session : AdminSession) (call : SafeguardsCall)
  | setSuspension (session : AdminSession) (call : SuspensionCall)
  | register (source : EvidenceSource)

def applyEvidence (digests : EvidenceDigests) :
    Transaction EvidenceDatabase EvidenceOp (Option GuardDecision) SqlError
  | .submit session now innerNow candidate, db => do
      let (db, decision) ← applyEvidenceReplayGuard digests session now innerNow candidate db
      return (db, some decision)
  | .configure session call, db => do
      let (db, _) ← configureEvidenceSourceSafeguards session call db
      return (db, none)
  | .setSuspension session call, db => do
      let (db, _) ← setEvidenceSourceSuspension session call db
      return (db, none)
  | .register source, db => .ok ({ db with sources := db.sources.upsert source }, none)

abbrev runEvidence (digests : EvidenceDigests) : EvidenceDatabase → List EvidenceOp →
    EvidenceDatabase :=
  Transaction.run (applyEvidence digests)

/-- An accepted call, with the age limit of its source at that moment. -/
structure Acceptance where
  candidate : ReplayCandidate
  acceptedAt : Instant
  maximumAgeSeconds : Nat
  deriving DecidableEq, Repr

/-- The acceptance that an operation adds to the history. -/
def acceptance? (digests : EvidenceDigests) (db : EvidenceDatabase) : EvidenceOp →
    Option Acceptance
  | .submit session now innerNow candidate =>
      match applyEvidenceReplayGuard digests session now innerNow candidate db,
          db.sources.get? candidate.source with
      | .ok (_, decision), some source =>
          decision.acceptedAt.map fun acceptedAt =>
            ⟨candidate, acceptedAt, source.maximumAgeSeconds⟩
      | _, _ => none
  | .configure _ _ | .setSuspension _ _ | .register _ => none

/-- The accepted calls of a run, in the order in which they committed. -/
def acceptances (digests : EvidenceDigests) : EvidenceDatabase → List EvidenceOp →
    List Acceptance
  | _, [] => []
  | db, op :: ops =>
      (acceptance? digests db op).toList ++
        acceptances digests (Transaction.commit (applyEvidence digests) db op) ops

/-- The receipt of an acceptance. -/
def Acceptance.RecordedBy (digests : EvidenceDigests) (acceptance : Acceptance)
    (receipt : IngestionReceipt) : Prop :=
  ∃ influence, receipt = acceptance.candidate.receipt digests acceptance.acceptedAt influence

/-- Of two acceptances under one key, the earlier one. -/
structure Acceptance.Precedes (earlier later : Acceptance) : Prop where
  nonce : earlier.candidate.nonce ≠ later.candidate.nonce
  sequence : earlier.candidate.sourceSequence < later.candidate.sourceSequence
  observation : earlier.candidate.observedAt ≤ later.candidate.observedAt

/-- The acceptances under one key. -/
def underEpoch (epoch : EpochKey) (history : List Acceptance) : List Acceptance :=
  history.filter fun acceptance => acceptance.candidate.epoch = epoch

/-- The stored row of a key is what its acceptances make it. -/
def Summarizes (state : Option IngestionState) (history : List Acceptance) : Prop :=
  match state with
  | none => history = []
  | some state =>
      state.highestSourceSequence =
        history.getLast?.map (fun acceptance => acceptance.candidate.sourceSequence) ∧
      state.latestObservedAt =
        history.getLast?.map (fun acceptance => acceptance.candidate.observedAt) ∧
      state.acceptedCount = history.length

structure ReplaySafe (digests : EvidenceDigests) (history : List Acceptance)
    (db : EvidenceDatabase) : Prop where
  recorded : List.Forall₂ (Acceptance.RecordedBy digests) history db.receipts.rows
  ordered : history.Pairwise fun earlier later =>
    earlier.candidate.epoch = later.candidate.epoch → earlier.Precedes later
  summarized : ∀ epoch, Summarizes (db.ingestion.get? epoch) (underEpoch epoch history)
  inWindow : ∀ acceptance ∈ history,
    acceptance.candidate.InWindow acceptance.acceptedAt acceptance.maximumAgeSeconds

theorem underEpoch_append (epoch : EpochKey) (history : List Acceptance)
    (acceptance : Acceptance) :
    underEpoch epoch (history ++ [acceptance]) =
      if acceptance.candidate.epoch = epoch then underEpoch epoch history ++ [acceptance]
      else underEpoch epoch history := by
  unfold underEpoch
  rw [List.filter_append]
  split
  · rename_i same
    simp [same]
  · rename_i different
    simp [different]

/-- Every member of the history has a receipt. -/
theorem ReplaySafe.receipt {history : List Acceptance} {db : EvidenceDatabase}
    (safe : ReplaySafe digests history db) {acceptance : Acceptance}
    (member : acceptance ∈ history) :
    ∃ receipt ∈ db.receipts.rows, acceptance.RecordedBy digests receipt := by
  have recorded := safe.recorded
  clear safe
  generalize db.receipts.rows = rows at recorded ⊢
  induction recorded with
  | nil => simp at member
  | cons head tail ih =>
      rcases List.mem_cons.mp member with rfl | later
      · exact ⟨_, List.mem_cons_self, head⟩
      · obtain ⟨receipt, present, records⟩ := ih later
        exact ⟨receipt, List.mem_cons_of_mem _ present, records⟩

/-- Every receipt belongs to a member of the history. -/
theorem ReplaySafe.acceptance {history : List Acceptance} {db : EvidenceDatabase}
    (safe : ReplaySafe digests history db) {receipt : IngestionReceipt}
    (member : receipt ∈ db.receipts.rows) :
    ∃ acceptance ∈ history, acceptance.RecordedBy digests receipt := by
  have recorded := safe.recorded
  clear safe
  generalize db.receipts.rows = rows at recorded member
  induction recorded with
  | nil => simp at member
  | cons head tail ih =>
      rcases List.mem_cons.mp member with rfl | later
      · exact ⟨_, List.mem_cons_self, head⟩
      · obtain ⟨acceptance, present, records⟩ := ih later
        exact ⟨acceptance, List.mem_cons_of_mem _ present, records⟩

/-- What the receipts copy from the candidates can be read off either list. -/
theorem ReplaySafe.map_eq {α : Type} {history : List Acceptance} {db : EvidenceDatabase}
    (safe : ReplaySafe digests history db) (f : Acceptance → α) (g : IngestionReceipt → α)
    (copied : ∀ acceptance receipt, acceptance.RecordedBy digests receipt →
      f acceptance = g receipt) :
    history.map f = db.receipts.rows.map g := by
  have recorded := safe.recorded
  clear safe
  generalize db.receipts.rows = rows at recorded ⊢
  induction recorded with
  | nil => rfl
  | cons head tail ih => rw [List.map_cons, List.map_cons, ih, copied _ _ head]

theorem ReplaySafe.ordered_under {history : List Acceptance} {db : EvidenceDatabase}
    (safe : ReplaySafe digests history db) (epoch : EpochKey) :
    (underEpoch epoch history).Pairwise Acceptance.Precedes := by
  refine List.pairwise_filter.mpr (safe.ordered.imp ?_)
  intro earlier later precedes first second
  exact precedes ((of_decide_eq_true first).trans (of_decide_eq_true second).symm)

/-- A step that adds no receipt and at most opens the row of a key. -/
theorem ReplaySafe.of_opened {history : List Acceptance} {db next : EvidenceDatabase}
    (safe : ReplaySafe digests history db) (receipts : next.receipts = db.receipts)
    (ingestion : ∀ epoch, next.ingestion.get? epoch = db.ingestion.get? epoch ∨
      db.ingestion.get? epoch = none ∧ ∃ state, next.ingestion.get? epoch = some state ∧
        state.highestSourceSequence = none ∧ state.latestObservedAt = none ∧
        state.acceptedCount = 0) :
    ReplaySafe digests history next where
  recorded := receipts ▸ safe.recorded
  ordered := safe.ordered
  summarized := by
    intro epoch
    have before := safe.summarized epoch
    rcases ingestion epoch with same | ⟨absent, state, found, highest, latest, count⟩
    · rwa [same]
    · rw [absent] at before
      have none_ : underEpoch epoch history = [] := before
      rw [found, none_]
      exact ⟨highest, latest, count⟩
  inWindow := safe.inWindow

/-- Opening the row of a candidate's key changes no other row. -/
theorem ingestion_opened (db : EvidenceDatabase) (p : ReplayCandidate) (now : Instant)
    (epoch : EpochKey) :
    (db.ingestion.insertIfAbsent (db.ingestionState p now)).get? epoch =
        db.ingestion.get? epoch ∨
      db.ingestion.get? epoch = none ∧
      ∃ state, (db.ingestion.insertIfAbsent (db.ingestionState p now)).get? epoch = some state ∧
        state.highestSourceSequence = none ∧ state.latestObservedAt = none ∧
        state.acceptedCount = 0 := by
  rw [Table.get?_insertIfAbsent]
  cases present : db.ingestion.get? p.epoch with
  | some stored =>
      have state : db.ingestionState p now = stored := by
        simp [EvidenceDatabase.ingestionState, present]
      left
      rw [state]
      have key := Table.get?_key present
      split
      · rename_i same
        rw [← same, key, present, Option.getD_some]
      · rfl
  | none =>
      have state : db.ingestionState p now = p.emptyState now := by
        simp [EvidenceDatabase.ingestionState, present]
      rw [state]
      have key : (p.emptyState now).key = p.epoch := rfl
      rw [key]
      by_cases same : p.epoch = epoch
      · right
        rw [← same, present, if_pos rfl]
        exact ⟨rfl, p.emptyState now, rfl, rfl, rfl, rfl⟩
      · left
        rw [if_neg same]

theorem ingestionState_key (db : EvidenceDatabase) (p : ReplayCandidate) (now : Instant) :
    (db.ingestionState p now).key = p.epoch := by
  unfold EvidenceDatabase.ingestionState
  cases present : db.ingestion.get? p.epoch with
  | none => rfl
  | some stored => exact Table.get?_key present

/-- In an ordered history no item lies beyond the last. -/
theorem Acceptance.le_last {history : List Acceptance}
    (ordered : history.Pairwise Acceptance.Precedes) {acceptance : Acceptance}
    (member : acceptance ∈ history) :
    ∃ last, history.getLast? = some last ∧
      acceptance.candidate.sourceSequence ≤ last.candidate.sourceSequence ∧
      acceptance.candidate.observedAt ≤ last.candidate.observedAt := by
  have nonempty : history ≠ [] := List.ne_nil_of_mem member
  refine ⟨history.getLast nonempty, List.getLast?_eq_some_getLast nonempty, ?_⟩
  have split_ := List.dropLast_append_getLast nonempty
  rw [← split_, List.mem_append, List.mem_singleton] at member
  rcases member with earlier | rfl
  · have before : acceptance.Precedes (history.getLast nonempty) :=
      ordered.rel_dropLast_getLast earlier
    exact ⟨before.sequence.le, before.observation⟩
  · exact ⟨le_refl _, le_refl _⟩

/-- The row that an accepting call reads summarizes the history of its key. -/
theorem ReplaySafe.state_summarizes {history : List Acceptance} {db : EvidenceDatabase}
    (safe : ReplaySafe digests history db) (p : ReplayCandidate) (now : Instant) :
    Summarizes (some (db.ingestionState p now)) (underEpoch p.epoch history) := by
  have before := safe.summarized p.epoch
  unfold EvidenceDatabase.ingestionState
  cases present : db.ingestion.get? p.epoch with
  | some stored =>
      rw [present] at before
      exact before
  | none =>
      rw [present] at before
      have nothing : underEpoch p.epoch history = [] := before
      rw [nothing]
      exact ⟨rfl, rfl, rfl⟩

/-- What an accepting call has compared its candidate with. -/
theorem ReplaySafe.precedes {history : List Acceptance} {db : EvidenceDatabase}
    (safe : ReplaySafe digests history db) {p : ReplayCandidate} {now : Instant}
    (inOrder : p.InOrder digests db.receipts.rows (db.ingestionState p now))
    (maximumAgeSeconds : Nat) {earlier : Acceptance}
    (member : earlier ∈ underEpoch p.epoch history) :
    earlier.Precedes ⟨p, now, maximumAgeSeconds⟩ := by
  have under : earlier ∈ history ∧ earlier.candidate.epoch = p.epoch := by
    simpa [underEpoch] using member
  obtain ⟨last, found, sequence, observation⟩ :=
    Acceptance.le_last (safe.ordered_under p.epoch) member
  obtain ⟨highest, latest, _⟩ := safe.state_summarizes p now
  rw [found] at highest latest
  constructor
  · intro equal
    obtain ⟨receipt, present, influence, rfl⟩ := safe.receipt under.1
    exact inOrder.newNonce _ present under.2 (congrArg digests.nonce equal)
  · exact lt_of_le_of_lt sequence (inOrder.sequence _ highest)
  · exact le_trans observation (inOrder.observation _ latest)

theorem ReplaySafe.of_accepts {history : List Acceptance} {db next : EvidenceDatabase}
    {session : GuardSession} {now : Instant} {p : ReplayCandidate} {source : EvidenceSource}
    (safe : ReplaySafe digests history db)
    (accepts : Accepts digests session now p source db next) :
    ReplaySafe digests (history ++ [⟨p, now, source.maximumAgeSeconds⟩]) next := by
  obtain ⟨influence, inserted⟩ := accepts.receipts
  constructor
  · rw [Table.insertNew_rows inserted]
    exact List.rel_append safe.recorded (.cons ⟨influence, rfl⟩ .nil)
  · refine List.pairwise_append.mpr ⟨safe.ordered, List.pairwise_singleton _ _, ?_⟩
    intro earlier member later last same
    obtain rfl := List.mem_singleton.mp last
    have under : earlier ∈ underEpoch p.epoch history :=
      List.mem_filter.mpr ⟨member, decide_eq_true same⟩
    exact safe.precedes accepts.inOrder _ under
  · intro epoch
    have key : ((db.ingestionState p now).advance p now).key = p.epoch :=
      ingestionState_key db p now
    rw [accepts.ingestion, Table.get?_upsert, key, underEpoch_append]
    by_cases same : p.epoch = epoch
    · obtain ⟨_, _, count⟩ := safe.state_summarizes p now
      rw [if_pos same, if_pos same, ← same]
      refine ⟨?_, ?_, ?_⟩
      · simp [IngestionState.advance]
      · simp [IngestionState.advance]
      · simp [IngestionState.advance, count]
    · rw [if_neg same, if_neg same, Table.get?_insertIfAbsent, ingestionState_key, if_neg same]
      exact safe.summarized epoch
  · intro acceptance member
    rcases List.mem_append.mp member with old | new
    · exact safe.inWindow acceptance old
    · obtain rfl := List.mem_singleton.mp new
      exact accepts.inWindow

/-- An acceptance enters the history with the call that grants it. -/
theorem acceptance?_submit {session : GuardSession} {now innerNow : Instant}
    {p : ReplayCandidate} {db next : EvidenceDatabase} {decision : GuardDecision}
    (succeeded : applyEvidenceReplayGuard digests session now innerNow p db =
      .ok (next, decision)) (source : EvidenceSource)
    (registered : db.sources.get? p.source = some source) :
    acceptance? digests db (.submit session now innerNow p) =
      decision.acceptedAt.map fun acceptedAt => ⟨p, acceptedAt, source.maximumAgeSeconds⟩ := by
  simp only [acceptance?, succeeded, registered]

theorem acceptance?_refused {session : GuardSession} {now innerNow : Instant}
    {p : ReplayCandidate} {db next : EvidenceDatabase} {decision : GuardDecision}
    (succeeded : applyEvidenceReplayGuard digests session now innerNow p db =
      .ok (next, decision)) (refused : decision.acceptedAt = none) :
    acceptance? digests db (.submit session now innerNow p) = none := by
  cases registered : db.sources.get? p.source with
  | none => simp [acceptance?, succeeded, registered]
  | some source => simp [acceptance?_submit succeeded source registered, refused]

/-- The history misses no accepted call. -/
theorem acceptance?_isSome {session : GuardSession} {now innerNow : Instant}
    {p : ReplayCandidate} {db next : EvidenceDatabase} {decision : GuardDecision}
    (succeeded : applyEvidenceReplayGuard digests session now innerNow p db =
      .ok (next, decision)) (accepted : decision.accepted = true) :
    (acceptance? digests db (.submit session now innerNow p)).isSome = true := by
  have outcome := applyEvidenceReplayGuard_outcome succeeded
  cases outcome with
  | unresolved context => simp [GuardDecision.refused] at accepted
  | rateLimited source next highest context limits => simp [GuardDecision.refused] at accepted
  | refused source window next decision context counted room outcome denied =>
      simp [denied] at accepted
  | accepted source window admitted context counted room startedAt accepts =>
      have registered := (verificationContext_eq_some.mp context).1
      rw [acceptance?_submit succeeded source registered]
      rfl

/-- A call that the guard without flood control refuses accepts nothing. -/
theorem ReplayOutcome.refused_acceptedAt {session : GuardSession} {now : Instant}
    {p : ReplayCandidate} {db next : EvidenceDatabase} {decision : GuardDecision}
    (outcome : ReplayOutcome digests session now p db next decision)
    (refused : decision.accepted = false) : decision.acceptedAt = none := by
  cases outcome with
  | unresolved context => rfl
  | untimely source reason context freshness => rfl
  | replayed source reason context window replay => rfl
  | accepted source next context accepts => simp [GuardDecision.granted] at refused

/-- A refusal at most opens the row of the candidate's key. -/
theorem ReplayOutcome.refused_tables {session : GuardSession} {now : Instant}
    {p : ReplayCandidate} {db next : EvidenceDatabase} {decision : GuardDecision}
    (outcome : ReplayOutcome digests session now p db next decision)
    (refused : decision.accepted = false) :
    next.receipts = db.receipts ∧
      (next.ingestion = db.ingestion ∨
        next.ingestion = db.ingestion.insertIfAbsent (db.ingestionState p now)) := by
  cases outcome with
  | unresolved context => exact ⟨rfl, Or.inl rfl⟩
  | untimely source reason context freshness => exact ⟨rfl, Or.inl rfl⟩
  | replayed source reason context window replay => exact ⟨rfl, Or.inr rfl⟩
  | accepted source next context accepts => simp [GuardDecision.granted] at refused

theorem ReplaySafe.of_refused {history : List Acceptance} {db next : EvidenceDatabase}
    {session : GuardSession} {now : Instant} {p : ReplayCandidate} {decision : GuardDecision}
    (safe : ReplaySafe digests history db)
    (outcome : ReplayOutcome digests session now p db next decision)
    (refused : decision.accepted = false) : ReplaySafe digests history next := by
  obtain ⟨receipts, same | opened⟩ := outcome.refused_tables refused
  · exact safe.of_opened receipts fun epoch => Or.inl (by rw [same])
  · refine safe.of_opened receipts fun epoch => ?_
    rw [opened]
    exact ingestion_opened db p now epoch

/-- One call of the guard. -/
theorem ReplaySafe.submit {history : List Acceptance} {db next : EvidenceDatabase}
    (safe : ReplaySafe digests history db) {session : GuardSession}
    {now innerNow : Instant} {p : ReplayCandidate} {decision : GuardDecision}
    (succeeded : applyEvidenceReplayGuard digests session now innerNow p db =
      .ok (next, decision)) :
    ReplaySafe digests
      (history ++ (acceptance? digests db (.submit session now innerNow p)).toList) next := by
  have outcome := applyEvidenceReplayGuard_outcome succeeded
  cases outcome with
  | unresolved context =>
      rw [acceptance?_refused succeeded rfl, Option.toList_none, List.append_nil]
      exact safe
  | rateLimited source next highest context limits =>
      rw [acceptance?_refused succeeded rfl, Option.toList_none, List.append_nil]
      exact safe.of_opened limits.receipts fun epoch => Or.inl (by rw [limits.ingestion])
  | refused source window next decision context counted room outcome denied =>
      rw [acceptance?_refused succeeded (outcome.refused_acceptedAt denied), Option.toList_none,
        List.append_nil]
      have opened : ReplaySafe digests history { db with rates := db.rates.upsert window } :=
        ⟨safe.recorded, safe.ordered, safe.summarized, safe.inWindow⟩
      exact opened.of_refused outcome denied
  | accepted source window admitted context counted room startedAt accepts =>
      have registered := (verificationContext_eq_some.mp context).1
      rw [acceptance?_submit succeeded source registered]
      have opened : ReplaySafe digests history
          { db with rates := db.rates.upsert window } :=
        ⟨safe.recorded, safe.ordered, safe.summarized, safe.inWindow⟩
      have grown := opened.of_accepts accepts
      exact ⟨grown.recorded, grown.ordered, grown.summarized, grown.inWindow⟩

theorem configure_tables {session : AdminSession} {p : SafeguardsCall}
    {db next : EvidenceDatabase} {source : EvidenceSource}
    (succeeded : configureEvidenceSourceSafeguards session p db = .ok (next, source)) :
    next.receipts = db.receipts ∧ next.ingestion = db.ingestion := by
  simp only [configureEvidenceSourceSafeguards, Checked.bind_eq_ok, Checked.require_eq_ok,
    Checked.requireSome_eq_ok, Checked.pure_eq_ok, exists_const, Prod.mk.injEq] at succeeded
  obtain ⟨_, _, _, _, _, _, stored, updated, rfl, _⟩ := succeeded
  obtain ⟨_, rfl⟩ := storeSource_eq_ok updated
  exact ⟨rfl, rfl⟩

theorem setSuspension_tables {session : AdminSession} {p : SuspensionCall}
    {db next : EvidenceDatabase} {source : EvidenceSource}
    (succeeded : setEvidenceSourceSuspension session p db = .ok (next, source)) :
    next.receipts = db.receipts ∧ next.ingestion = db.ingestion := by
  simp only [setEvidenceSourceSuspension, Checked.bind_eq_ok, Checked.require_eq_ok,
    Checked.requireSome_eq_ok, Checked.pure_eq_ok, exists_const, Prod.mk.injEq] at succeeded
  obtain ⟨_, _, _, _, _, stored, updated, rfl, _⟩ := succeeded
  obtain ⟨_, rfl⟩ := storeSource_eq_ok updated
  exact ⟨rfl, rfl⟩

/-- What leaves the receipts and the rows of the keys alone keeps the history. -/
theorem ReplaySafe.of_untouched {history : List Acceptance} {db next : EvidenceDatabase}
    (safe : ReplaySafe digests history db)
    (same : next.receipts = db.receipts ∧ next.ingestion = db.ingestion) :
    ReplaySafe digests (history ++ (none : Option Acceptance).toList) next := by
  rw [Option.toList_none, List.append_nil]
  exact safe.of_opened same.1 fun epoch => Or.inl (by rw [same.2])

/-- One operation of a run. -/
theorem ReplaySafe.step {history : List Acceptance} {db : EvidenceDatabase}
    (safe : ReplaySafe digests history db) (op : EvidenceOp) :
    ReplaySafe digests (history ++ (acceptance? digests db op).toList)
      (Transaction.commit (applyEvidence digests) db op) := by
  have untouched : (∀ next reply, applyEvidence digests op db = .ok (next, reply) →
      next.receipts = db.receipts ∧ next.ingestion = db.ingestion) →
      ReplaySafe digests (history ++ (none : Option Acceptance).toList)
        (Transaction.commit (applyEvidence digests) db op) := by
    intro kept
    refine Transaction.commit_preserves (safe.of_untouched ⟨rfl, rfl⟩) ?_
    intro next reply succeeded
    exact safe.of_untouched (kept next reply succeeded)
  cases op with
  | submit session now innerNow p =>
      cases result : applyEvidenceReplayGuard digests session now innerNow p db with
      | error failure =>
          have nothing : acceptance? digests db (.submit session now innerNow p) = none := by
            simp [acceptance?, result]
          rw [nothing]
          refine untouched fun next reply succeeded => ?_
          simp [applyEvidence, result, bind, Except.bind] at succeeded
      | ok pair =>
          have committed : applyEvidence digests (.submit session now innerNow p) db =
              .ok (pair.1, some pair.2) := by
            simp [applyEvidence, result, bind, Except.bind, pure, Except.pure]
          rw [Transaction.commit_ok committed]
          exact safe.submit result
  | configure session call =>
      refine untouched fun next reply succeeded => ?_
      simp only [applyEvidence, Checked.bind_eq_ok, Checked.pure_eq_ok, Prod.mk.injEq]
        at succeeded
      obtain ⟨pair, configured, rfl, _⟩ := succeeded
      exact configure_tables configured
  | setSuspension session call =>
      refine untouched fun next reply succeeded => ?_
      simp only [applyEvidence, Checked.bind_eq_ok, Checked.pure_eq_ok, Prod.mk.injEq]
        at succeeded
      obtain ⟨pair, changed, rfl, _⟩ := succeeded
      exact setSuspension_tables changed
  | register source =>
      refine untouched fun next reply succeeded => ?_
      simp only [applyEvidence, Except.ok.injEq, Prod.mk.injEq] at succeeded
      obtain ⟨rfl, _⟩ := succeeded
      exact ⟨rfl, rfl⟩

theorem ReplaySafe.run {history : List Acceptance} {db : EvidenceDatabase}
    (safe : ReplaySafe digests history db) (ops : List EvidenceOp) :
    ReplaySafe digests (history ++ acceptances digests db ops) (runEvidence digests db ops) := by
  induction ops generalizing history db with
  | nil =>
      rw [acceptances, List.append_nil]
      exact safe
  | cons op ops ih =>
      rw [acceptances, ← List.append_assoc]
      exact ih (safe.step op)

theorem EvidenceDatabase.Fresh.replaySafe {db : EvidenceDatabase} (fresh : db.Fresh) :
    ReplaySafe digests [] db where
  recorded := by
    rw [fresh.receipts]
    exact .nil
  ordered := .nil
  summarized := by
    intro epoch
    rw [fresh.ingestion]
    rfl
  inWindow := by
    intro acceptance member
    exact absurd member List.not_mem_nil

/-- What a call that is not accepted leaves behind. -/
structure RefusalEffects (digests : EvidenceDigests) (p : ReplayCandidate)
    (db next : EvidenceDatabase) (decision : GuardDecision) : Prop where
  receipts : next.receipts = db.receipts
  ingestion : next.ingestion = db.ingestion ∨ db.ingestion.get? p.epoch = none ∧
    ∃ now, next.ingestion = db.ingestion.insertIfAbsent (p.emptyState now)
  rejections : next.rejections = db.rejections ∨
    ∃ reason now, next.rejections = db.rejections ++ [p.rejection digests reason now]
  rates : ∀ source, source ≠ p.source → next.rates.get? source = db.rates.get? source
  control : next.sources = db.sources ∧ next.controlEvents = db.controlEvents ∨
    decision.reasonCode = some (.rejected .rateLimited) ∧
    ∃ source rate now, db.sources.get? p.source = some source ∧
      next.rates.get? p.source = some rate ∧
      source.safeguards.rateLimitSuspensionThreshold ≤ rate.rateLimitedCount ∧
      next.sources = db.sources.upsert (source.withState .suspended now) ∧
      next.controlEvents = db.controlEvents ++
        [source.controlEvent .automaticallySuspended "RATE_LIMIT_THRESHOLD_REACHED" now]

/-- A row that was opened is the empty one, or the table is as before. -/
theorem opened_or_same (db : EvidenceDatabase) (p : ReplayCandidate) (now : Instant) :
    db.ingestion.insertIfAbsent (db.ingestionState p now) = db.ingestion ∨
      db.ingestion.get? p.epoch = none ∧
      ∃ at_, db.ingestion.insertIfAbsent (db.ingestionState p now) =
        db.ingestion.insertIfAbsent (p.emptyState at_) := by
  cases present : db.ingestion.get? p.epoch with
  | none =>
      right
      refine ⟨rfl, now, ?_⟩
      simp [EvidenceDatabase.ingestionState, present]
  | some stored =>
      left
      have key := ingestionState_key db p now
      exact Table.insertIfAbsent_of_present _ (by rw [key, present])

theorem rateWindow_key (db : EvidenceDatabase) (safeguards : Safeguards) (now : Instant)
    (p : ReplayCandidate) : (db.rateWindow safeguards now p).key = p.source := by
  unfold EvidenceDatabase.rateWindow
  cases present : db.rates.get? p.source with
  | none => rfl
  | some rate =>
      dsimp only
      split
      · rfl
      · exact Table.get?_key present

/-- A window that is opened or counted concerns one source. -/
theorem rates_elsewhere (rates : Table SourceRateState SourceRateState.key)
    (window : SourceRateState) {source : SourceKey} (elsewhere : source ≠ window.key) :
    (rates.upsert window).get? source = rates.get? source := by
  rw [Table.get?_upsert, if_neg (Ne.symm elsewhere)]

theorem refusalEffects {session : GuardSession} {now innerNow : Instant} {p : ReplayCandidate}
    {db next : EvidenceDatabase} {decision : GuardDecision}
    (succeeded : applyEvidenceReplayGuard digests session now innerNow p db =
      .ok (next, decision)) (refused : decision.accepted = false) :
    RefusalEffects digests p db next decision := by
  have outcome := applyEvidenceReplayGuard_outcome succeeded
  cases outcome with
  | unresolved context =>
      exact ⟨rfl, Or.inl rfl, Or.inl rfl, fun _ _ => rfl, Or.inl ⟨rfl, rfl⟩⟩
  | rateLimited source next highest context limits =>
      have key := rateWindow_key db source.safeguards now p
      generalize db.rateWindow source.safeguards now p = window at key limits
      have counted : (window.countRateLimited now).key = p.source := key
      refine ⟨limits.receipts, Or.inl limits.ingestion, Or.inr ⟨_, _, limits.rejections⟩, ?_, ?_⟩
      · intro other elsewhere
        rw [limits.rates, rates_elsewhere _ _ (counted ▸ elsewhere),
          rates_elsewhere _ _ (key ▸ elsewhere)]
      · rcases limits.control with ⟨_, sources, events⟩ | ⟨reached, _, sources, events⟩
        · exact Or.inl ⟨sources, events⟩
        · right
          refine ⟨rfl, source, window.countRateLimited now, now,
            (verificationContext_eq_some.mp context).1, ?_, reached, sources, events⟩
          rw [limits.rates, Table.get?_upsert, if_pos counted]
  | refused source window next decision context counted room outcome denied =>
      have key : window.key = p.source := by
        rw [counted]
        exact rateWindow_key db source.safeguards now p
      obtain ⟨sources, rates, events⟩ := outcome.surroundings
      have elsewhere : ∀ other, other ≠ p.source → next.rates.get? other = db.rates.get? other := by
        intro other different
        rw [rates]
        exact rates_elsewhere _ _ (key ▸ different)
      cases outcome with
      | unresolved context =>
          exact ⟨rfl, Or.inl rfl, Or.inl rfl, elsewhere, Or.inl ⟨rfl, rfl⟩⟩
      | untimely source reason context freshness =>
          exact ⟨rfl, Or.inl rfl, Or.inr ⟨_, _, rfl⟩, elsewhere, Or.inl ⟨rfl, rfl⟩⟩
      | replayed source reason context window replay =>
          exact ⟨rfl, opened_or_same db p innerNow, Or.inr ⟨_, _, rfl⟩, elsewhere,
            Or.inl ⟨rfl, rfl⟩⟩
      | accepted source next context accepts => simp [GuardDecision.granted] at denied
  | accepted source window admitted context counted room startedAt accepts =>
      simp [GuardDecision.granted] at refused

/-- In every run, the accepted calls never repeat an event of a tenant or a nonce of a key; under
each key their sequence numbers grow and their observation times do not fall; the row of a key
and the receipts count them; each was inside its window; and a refusal has its listed effects. -/
theorem evidence_is_accepted_once (digests : EvidenceDigests) (start : EvidenceDatabase)
    (fresh : start.Fresh) (ops : List EvidenceOp) :
    let history := acceptances digests start ops
    let db := runEvidence digests start ops
    (history.map fun acceptance => acceptance.candidate.event).Nodup ∧
    (history.map fun acceptance =>
      (acceptance.candidate.epoch, acceptance.candidate.nonce)).Nodup ∧
    (∀ epoch, (underEpoch epoch history).Pairwise fun earlier later =>
      earlier.candidate.sourceSequence < later.candidate.sourceSequence ∧
      earlier.candidate.observedAt ≤ later.candidate.observedAt) ∧
    (∀ epoch, Summarizes (db.ingestion.get? epoch) (underEpoch epoch history) ∧
      (underEpoch epoch history).length = db.receipts.count fun receipt => receipt.epoch = epoch) ∧
    (∀ acceptance ∈ history,
      acceptance.candidate.InWindow acceptance.acceptedAt acceptance.maximumAgeSeconds) ∧
    (∀ session now innerNow p next decision,
      applyEvidenceReplayGuard digests session now innerNow p db = .ok (next, decision) →
      decision.accepted = false → RefusalEffects digests p db next decision) := by
  have safe : ReplaySafe digests (acceptances digests start ops)
      (runEvidence digests start ops) := fresh.replaySafe.run ops
  dsimp only
  refine ⟨?_, ?_, ?_, ?_, safe.inWindow, ?_⟩
  · rw [safe.map_eq _ IngestionReceipt.key]
    · exact (runEvidence digests start ops).receipts.distinct
    · intro acceptance receipt recorded
      obtain ⟨influence, rfl⟩ := recorded
      rfl
  · refine List.pairwise_map.mpr (safe.ordered.imp ?_)
    intro earlier later precedes same
    obtain ⟨epoch, nonce⟩ := Prod.mk.inj same
    exact (precedes epoch).nonce nonce
  · intro epoch
    exact (safe.ordered_under epoch).imp fun precedes =>
      ⟨precedes.sequence, precedes.observation⟩
  · intro epoch
    refine ⟨safe.summarized epoch, ?_⟩
    have epochs := safe.map_eq (fun acceptance => acceptance.candidate.epoch)
      IngestionReceipt.epoch (by
        intro acceptance receipt recorded
        obtain ⟨influence, rfl⟩ := recorded
        rfl)
    have counts := congrArg (List.countP fun found => decide (found = epoch)) epochs
    rw [List.countP_map, List.countP_map] at counts
    rw [underEpoch, ← List.countP_eq_length_filter]
    exact counts
  · intro session now innerNow p next decision succeeded refused
    exact refusalEffects succeeded refused

namespace FloodScenario

def influence : Influence := ⟨1 / 4, by norm_num, by norm_num⟩

/-- One item in a minute, and the first one over the limit suspends. -/
def safeguards : Safeguards where
  rateLimitWindowSeconds := 60
  rateLimitMaxEvents := 1
  rateLimitSuspensionThreshold := 1
  maximumInfluence := influence
  windowInRange := by decide
  maxEventsInRange := by decide
  thresholdInRange := by decide

def source : EvidenceSource where
  tenantId := ⟨1⟩
  sourceId := ⟨2⟩
  evidenceType := .device
  state := .active
  verificationAlgorithm := .ed25519
  verificationKeySha256 := some ⟨3⟩
  maximumAgeSeconds := 300
  maximumAgeInRange := by decide
  synthetic := false
  safeguards := safeguards
  version := 1
  createdAt := 0
  updatedAt := 0

def session : GuardSession where
  activeMember := fun _ _ => true
  activeKey := fun _ _ => some (⟨4⟩, ⟨3⟩)
  activeInfluence := fun _ => some influence

def hashes : EvidenceDigests where
  event := fun eventId => ⟨eventId.value⟩
  nonce := fun nonce => ⟨nonce.length⟩

def start : EvidenceDatabase where
  sources := ⟨[source], by decide⟩
  ingestion := Table.empty
  receipts := Table.empty
  rejections := []
  rates := Table.empty
  controlEvents := []

def candidate (n : Nat) : ReplayCandidate where
  tenantId := ⟨1⟩
  subjectId := ⟨5⟩
  sourceId := ⟨2⟩
  keyId := ⟨4⟩
  evidenceType := .device
  eventId := ⟨n⟩
  sourceSequence := n
  nonce := "".pushn 'n' (22 + n)
  observedAt := interval 1
  expiresAt := interval 60
  contentHashSha256 := ⟨6⟩
  synthetic := false

def first : EvidenceOp := .submit session (interval 1) (interval 1) (candidate 0)

def second : Except SqlError (EvidenceDatabase × GuardDecision) :=
  applyEvidenceReplayGuard hashes session (interval 2) (interval 2) (candidate 1)
    (runEvidence hashes start [first])

def stateAfter : Except SqlError (EvidenceDatabase × GuardDecision) → Option EvidenceSourceState
  | .ok (next, ⟨false, _, _, _⟩) => (next.sources.get? source.key).map EvidenceSource.state
  | _ => none

end FloodScenario

/-- The refusal of a flooding item suspends the source. -/
theorem refusal_changes_source :
    ¬ ∀ (digests : EvidenceDigests) (start : EvidenceDatabase), start.Fresh →
      ∀ ops session now innerNow p next decision,
        applyEvidenceReplayGuard digests session now innerNow p (runEvidence digests start ops) =
          .ok (next, decision) →
        decision.accepted = false →
        next.receipts = (runEvidence digests start ops).receipts ∧
        next.ingestion = (runEvidence digests start ops).ingestion ∧
        next.sources = (runEvidence digests start ops).sources ∧
        next.controlEvents = (runEvidence digests start ops).controlEvents := by
  intro claim
  have suspended : FloodScenario.stateAfter FloodScenario.second = some .suspended := by
    decide +kernel
  have active : ((runEvidence FloodScenario.hashes FloodScenario.start
      [FloodScenario.first]).sources.get? FloodScenario.source.key).map EvidenceSource.state =
      some .active := by
    decide +kernel
  cases result : FloodScenario.second with
  | error failure => simp [FloodScenario.stateAfter, result] at suspended
  | ok pair =>
      obtain ⟨next, accepted, reason, acceptedAt, highest⟩ := pair
      cases accepted with
      | true => simp [FloodScenario.stateAfter, result] at suspended
      | false =>
          obtain ⟨_, _, same, _⟩ := claim FloodScenario.hashes FloodScenario.start
            ⟨rfl, rfl, rfl⟩ [FloodScenario.first] FloodScenario.session (interval 2)
            (interval 2)
            (FloodScenario.candidate 1) next _ result rfl
          rw [result] at suspended
          simp only [FloodScenario.stateAfter, same, active] at suspended
          simp at suspended

/-- Two submissions of the same source, of which the first is accepted. -/
theorem evidence_is_accepted_once_flooded :
    let history := acceptances FloodScenario.hashes FloodScenario.start
      [FloodScenario.first, FloodScenario.first]
    history.length = 1 ∧ (history.map fun acceptance => acceptance.candidate.event).Nodup :=
  ⟨by decide +kernel,
    (evidence_is_accepted_once FloodScenario.hashes FloodScenario.start ⟨rfl, rfl, rfl⟩
      [FloodScenario.first, FloodScenario.first]).1⟩

end TenantTrust.Trust
