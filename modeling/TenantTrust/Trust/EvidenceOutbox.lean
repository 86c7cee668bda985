import TenantTrust.Library.MessageStream
import TenantTrust.Orchestration.Tables
import TenantTrust.Trust.EvidencePipeline
import Mathlib.Data.List.MinMax

/-! The outbox of accepted evidence, with the claims and confirmations of the workers that
publish it. -/

namespace TenantTrust.Trust

open Library Identity

abbrev EvidenceEventClaimToken := Identifier .claimToken

structure EvidenceEventClaim where
  claimToken : EvidenceEventClaimToken
  claimedBy : String
  claimedAt : Instant
  deriving DecidableEq, Repr

structure EvidencePublication where
  streamSequence : Nat
  signedEventSha256 : Sha256Digest
  deriving DecidableEq, Repr

inductive EvidenceEventDeliveryState where
  | pending
  | publishing (claim : EvidenceEventClaim)
  | published (publication : EvidencePublication) (publishedAt : Instant)
  deriving DecidableEq, Repr

def EvidenceEventDeliveryState.publication? : EvidenceEventDeliveryState →
    Option EvidencePublication
  | .published publication _ => some publication
  | .pending | .publishing _ => none

/-- The columns of an outbox row that no worker changes. -/
structure EvidenceEventSource where
  tenantId : TenantId
  sourceEventId : EvidenceEventId
  deliveryEventId : EventId
  evidenceId : EvidenceId
  correlationId : CorrelationId
  createdAt : Instant
  deriving DecidableEq, Repr

structure EvidenceOutboxEntry where
  source : EvidenceEventSource
  status : EvidenceEventDeliveryState
  attemptCount : Nat
  nextAttemptAt : Instant
  lastFailureCode : Option String
  updatedAt : Instant
  deriving DecidableEq, Repr

namespace EvidenceOutboxEntry

def key (entry : EvidenceOutboxEntry) : TenantId × EventId :=
  (entry.source.tenantId, entry.source.deliveryEventId)

/-- The columns that the consuming procedures read. -/
def consumed (entry : EvidenceOutboxEntry) : EvidenceOutboxRow where
  tenantId := entry.source.tenantId
  sourceEventId := entry.source.sourceEventId
  deliveryEventId := entry.source.deliveryEventId
  evidenceId := entry.source.evidenceId
  delivery := match entry.status with
    | .pending => .pending
    | .publishing _ => .publishing
    | .published publication _ =>
        .published publication.streamSequence publication.signedEventSha256

/-- `evidence_event_outbox_time_order` -/
def timesOrdered (entry : EvidenceOutboxEntry) : Bool :=
  entry.source.createdAt ≤ entry.updatedAt &&
  match entry.status with
  | .pending => true
  | .publishing claim => entry.source.createdAt ≤ claim.claimedAt
  | .published _ publishedAt => entry.source.createdAt ≤ publishedAt

end EvidenceOutboxEntry

structure OutboxDatabase where
  outbox : Table EvidenceOutboxEntry EvidenceOutboxEntry.key
  receipts : Table IngestionReceipt IngestionReceipt.key
  encryptedEvidence : List (TenantId × EvidenceEventId)

namespace OutboxDatabase

def empty : OutboxDatabase := ⟨Table.empty, Table.empty, []⟩

/-- What the consuming procedures find of the outbox. -/
def consumed (db : OutboxDatabase) : TrustDatabase :=
  { TrustDatabase.empty with
    outbox := db.outbox.view EvidenceOutboxEntry.consumed fun _ => rfl
    receipts := db.receipts.view IngestionReceipt.consumed fun _ => rfl }

theorem consumed_outbox (db : OutboxDatabase) (key : TenantId × EventId) :
    db.consumed.outbox.get? key = (db.outbox.get? key).map EvidenceOutboxEntry.consumed :=
  Table.get?_view db.outbox EvidenceOutboxEntry.consumed (fun _ => rfl) key

theorem consumed_receipts (db : OutboxDatabase) (key : TenantId × EvidenceEventId) :
    db.consumed.receipts.get? key = (db.receipts.get? key).map IngestionReceipt.consumed :=
  Table.get?_view db.receipts IngestionReceipt.consumed (fun _ => rfl) key

/-- The record of an entry that has a receipt. -/
def record? (db : OutboxDatabase) (source : EvidenceEventSource) : Option AcceptedRecord :=
  (db.receipts.get? (source.tenantId, source.sourceEventId)).map fun receipt =>
    claimedRecord ⟨source.tenantId, source.sourceEventId, source.deliveryEventId,
      source.evidenceId, .publishing⟩ receipt source.correlationId

end OutboxDatabase

/-- The trigger on a new receipt. -/
def enqueueAcceptedEvidence (receipt : IngestionReceipt) (ids : DrawnIds) (db : OutboxDatabase) :
    Except SqlError OutboxDatabase := do
  let receipts ← requireSome (db.receipts.insertNew receipt)
    (.uniqueViolation "evidence_ingestion_receipts_pk")
  require (∀ other ∈ db.outbox, ¬ (other.source.tenantId = receipt.tenantId ∧
      other.source.evidenceId = ids.evidenceId))
    (.uniqueViolation "evidence_event_outbox_evidence_unique")
  let outbox ← requireSome (db.outbox.insertNew {
      source := {
        tenantId := receipt.tenantId
        sourceEventId := receipt.eventId
        deliveryEventId := ids.deliveryEventId
        evidenceId := ids.evidenceId
        correlationId := ids.correlationId
        createdAt := receipt.acceptedAt }
      status := .pending
      attemptCount := 0
      nextAttemptAt := receipt.acceptedAt
      lastFailureCode := none
      updatedAt := receipt.acceptedAt })
    (.uniqueViolation "evidence_event_outbox_delivery_unique")
  return { db with outbox := outbox, receipts := receipts }

structure OutboxClaimCall where
  tenantId : TenantId
  workerId : String
  claimToken : EvidenceEventClaimToken
  claimedAt : Instant
  deriving DecidableEq, Repr

namespace OutboxClaimCall

variable (p : OutboxClaimCall)

/-- A claim that is older than five minutes. -/
def isStale (entry : EvidenceOutboxEntry) : Bool :=
  entry.source.tenantId = p.tenantId &&
  match entry.status with
  | .publishing claim => claim.claimedAt < p.claimedAt - interval 300
  | .pending | .published _ _ => false

def recover (clock : Instant) (entry : EvidenceOutboxEntry) : EvidenceOutboxEntry :=
  if p.isStale entry then
    { entry with
      status := .pending
      nextAttemptAt := p.claimedAt
      lastFailureCode := some "STALE_CLAIM_RECOVERED"
      updatedAt := max clock p.claimedAt }
  else entry

theorem recover_source (clock : Instant) (entry : EvidenceOutboxEntry) :
    (p.recover clock entry).source = entry.source := by
  unfold recover
  split <;> rfl

theorem recover_key (clock : Instant) (entry : EvidenceOutboxEntry) :
    (p.recover clock entry).key = entry.key :=
  congrArg (fun source => (source.tenantId, source.deliveryEventId)) (p.recover_source clock entry)

def isDue (entry : EvidenceOutboxEntry) : Bool :=
  entry.source.tenantId = p.tenantId && entry.status = .pending &&
  entry.nextAttemptAt ≤ p.claimedAt

def claim (clock : Instant) (entry : EvidenceOutboxEntry) : EvidenceOutboxEntry where
  source := entry.source
  status := .publishing ⟨p.claimToken, p.workerId, p.claimedAt⟩
  attemptCount := entry.attemptCount + 1
  nextAttemptAt := entry.nextAttemptAt
  lastFailureCode := none
  updatedAt := max clock p.claimedAt

end OutboxClaimCall

/-- Rows that other transactions hold locked are skipped. -/
def nextDue? (p : OutboxClaimCall) (locked : List (TenantId × EventId))
    (outbox : Table EvidenceOutboxEntry EvidenceOutboxEntry.key) : Option EvidenceOutboxEntry :=
  (outbox.rows.filter fun entry => p.isDue entry && entry.key ∉ locked).argmin fun entry =>
    toLex (entry.source.createdAt, entry.source.deliveryEventId)

/-- A row that has no receipt or no stored evidence is claimed and not returned. -/
def claimEvidenceEventOutbox (clock : Instant) (locked : List (TenantId × EventId))
    (p : OutboxClaimCall) (db : OutboxDatabase) :
    Except SqlError (OutboxDatabase × Option AcceptedRecord) := do
  require (isWorkerId p.workerId ∧ p.claimedAt ≤ clock + interval 2)
    (.raised "Evidence event outbox claim denied.")
  let recovered := db.outbox.update (p.recover clock) (p.recover_key clock)
  require (∀ entry ∈ recovered, entry.timesOrdered = true)
    (.checkViolation "evidence_event_outbox_time_order")
  match nextDue? p locked recovered with
  | none => return ({ db with outbox := recovered }, none)
  | some entry => do
      require ((p.claim clock entry).timesOrdered)
        (.checkViolation "evidence_event_outbox_time_order")
      let record :=
        if (entry.source.tenantId, entry.source.sourceEventId) ∈ db.encryptedEvidence then
          db.record? entry.source
        else none
      return ({ db with outbox := recovered.replace (p.claim clock entry) }, record)

/-- The row that a worker still holds under its claim token. -/
def heldRow? (tenantId : TenantId) (eventId : EventId) (claimToken : EvidenceEventClaimToken)
    (db : OutboxDatabase) : Option EvidenceOutboxEntry :=
  (db.outbox.get? (tenantId, eventId)).filter fun entry =>
    match entry.status with
    | .publishing claim => claim.claimToken = claimToken
    | .pending | .published _ _ => false

structure PublishConfirmation where
  tenantId : TenantId
  eventId : EventId
  claimToken : EvidenceEventClaimToken
  publication : EvidencePublication
  publishedAt : Instant
  deriving DecidableEq, Repr

def markEvidenceEventPublished (clock : Instant) (p : PublishConfirmation)
    (db : OutboxDatabase) : Except SqlError OutboxDatabase := do
  require (1 ≤ p.publication.streamSequence ∧ p.publishedAt ≤ clock + interval 2)
    (.raised "Evidence event publish confirmation denied.")
  let entry ← requireSome (heldRow? p.tenantId p.eventId p.claimToken db)
    (.raised "Evidence event publish confirmation denied.")
  let published := { entry with
    status := .published p.publication p.publishedAt
    lastFailureCode := none
    updatedAt := max clock p.publishedAt }
  require (published.timesOrdered) (.checkViolation "evidence_event_outbox_time_order")
  return { db with outbox := db.outbox.replace published }

structure PublishFailure where
  tenantId : TenantId
  eventId : EventId
  claimToken : EvidenceEventClaimToken
  failureCode : String
  failedAt : Instant
  retryDelaySeconds : Int
  deriving DecidableEq, Repr

def markEvidenceEventPublishFailed (clock : Instant) (p : PublishFailure)
    (db : OutboxDatabase) : Except SqlError OutboxDatabase := do
  require (isReasonCode p.failureCode ∧ 1 ≤ p.retryDelaySeconds ∧ p.retryDelaySeconds ≤ 600 ∧
      p.failedAt ≤ clock + interval 2)
    (.raised "Evidence event publish failure update denied.")
  let entry ← requireSome (heldRow? p.tenantId p.eventId p.claimToken db)
    (.raised "Evidence event publish failure update denied.")
  let failed := { entry with
    status := .pending
    nextAttemptAt := p.failedAt + interval p.retryDelaySeconds
    lastFailureCode := some p.failureCode
    updatedAt := max clock p.failedAt }
  require (failed.timesOrdered) (.checkViolation "evidence_event_outbox_time_order")
  return { db with outbox := db.outbox.replace failed }

/-! What each procedure does to the rows, up to the bookkeeping of claims and attempts. -/

section Outlines

abbrev EntryOutline := EvidenceEventSource × Option EvidencePublication

def EvidenceOutboxEntry.outline (entry : EvidenceOutboxEntry) : EntryOutline :=
  (entry.source, entry.status.publication?)

def OutboxDatabase.outline? (db : OutboxDatabase) (key : TenantId × EventId) :
    Option EntryOutline :=
  (db.outbox.get? key).map EvidenceOutboxEntry.outline

variable {clock : Instant} {db next : OutboxDatabase}

theorem OutboxClaimCall.recover_outline (p : OutboxClaimCall) (clock : Instant)
    (entry : EvidenceOutboxEntry) : (p.recover clock entry).outline = entry.outline := by
  unfold recover
  split
  · rename_i stale
    unfold isStale at stale
    cases status : entry.status with
    | pending => simp [status] at stale
    | published publication publishedAt => simp [status] at stale
    | publishing claim =>
        simp [EvidenceOutboxEntry.outline, EvidenceEventDeliveryState.publication?, status]
  · rfl

theorem OutboxClaimCall.recovered_outline (p : OutboxClaimCall) (clock : Instant)
    (outbox : Table EvidenceOutboxEntry EvidenceOutboxEntry.key) (key : TenantId × EventId) :
    ((outbox.update (p.recover clock) (p.recover_key clock)).get? key).map
        EvidenceOutboxEntry.outline =
      (outbox.get? key).map EvidenceOutboxEntry.outline := by
  rw [Table.get?_update, Option.map_map]
  refine congrArg (fun f => (outbox.get? key).map f) (funext fun entry => ?_)
  exact p.recover_outline clock entry

/-- The rewriting of one row. -/
theorem outline_replace {outbox : Table EvidenceOutboxEntry EvidenceOutboxEntry.key}
    {old : EvidenceOutboxEntry} (entry : EvidenceOutboxEntry)
    (present : outbox.get? old.key = some old)
    (same : entry.source = old.source) (key : TenantId × EventId) :
    ((outbox.replace entry).get? key).map EvidenceOutboxEntry.outline =
      if old.key = key then some entry.outline
      else (outbox.get? key).map EvidenceOutboxEntry.outline := by
  have which : entry.key = old.key :=
    congrArg (fun source => (source.tenantId, source.deliveryEventId)) same
  rw [Table.get?_replace _ (by rw [which]; exact present), which]
  split <;> rfl

theorem nextDue?_spec {p : OutboxClaimCall} {locked : List (TenantId × EventId)}
    {outbox : Table EvidenceOutboxEntry EvidenceOutboxEntry.key} {entry : EvidenceOutboxEntry}
    (chosen : nextDue? p locked outbox = some entry) :
    outbox.get? entry.key = some entry ∧ entry.status = .pending := by
  have member := List.argmin_mem (Option.mem_def.mpr chosen)
  obtain ⟨stored, due⟩ := List.mem_filter.mp member
  simp only [OutboxClaimCall.isDue, Bool.and_eq_true, decide_eq_true_eq] at due
  exact ⟨Table.get?_of_mem stored, due.1.1.2⟩

/-- A claim changes neither the source nor the publication of a row, and the record it returns
is that of a row that is not published. -/
theorem claimEvidenceEventOutbox_cases {locked : List (TenantId × EventId)} {p : OutboxClaimCall}
    {record : Option AcceptedRecord}
    (succeeded : claimEvidenceEventOutbox clock locked p db = .ok (next, record)) :
    next.receipts = db.receipts ∧ (∀ key, next.outline? key = db.outline? key) ∧
      ∀ claimed, record = some claimed → ∃ key source, db.outline? key = some (source, none) ∧
        db.record? source = some claimed := by
  simp only [claimEvidenceEventOutbox, Checked.bind_eq_ok, Checked.require_eq_ok,
    exists_const] at succeeded
  obtain ⟨_, _, succeeded⟩ := succeeded
  cases chosen : nextDue? p locked
      (db.outbox.update (p.recover clock) (p.recover_key clock)) with
  | none =>
      simp only [chosen, Checked.pure_eq_ok, Prod.mk.injEq] at succeeded
      obtain ⟨rfl, rfl⟩ := succeeded
      exact ⟨rfl, p.recovered_outline clock db.outbox, fun _ absent => by simp at absent⟩
  | some entry =>
      simp only [chosen, Checked.bind_eq_ok, Checked.require_eq_ok, exists_const,
        Checked.pure_eq_ok, Prod.mk.injEq] at succeeded
      obtain ⟨_, rfl, rfl⟩ := succeeded
      obtain ⟨present, pending⟩ := nextDue?_spec chosen
      have before : db.outline? entry.key = some (entry.source, none) := by
        unfold OutboxDatabase.outline?
        rw [← p.recovered_outline clock, present]
        simp [EvidenceOutboxEntry.outline, pending, EvidenceEventDeliveryState.publication?]
      refine ⟨rfl, ?_, ?_⟩
      · intro key
        have rewritten := outline_replace (p.claim clock entry) present rfl key
        dsimp only [OutboxDatabase.outline?]
        rw [rewritten, p.recovered_outline clock]
        split
        · rename_i same
          rw [← same]
          exact before.symm
        · rfl
      · intro claimed returned
        split at returned
        · exact ⟨entry.key, entry.source, before, returned⟩
        · simp at returned

theorem heldRow?_spec {tenantId : TenantId} {eventId : EventId}
    {claimToken : EvidenceEventClaimToken} {entry : EvidenceOutboxEntry}
    (held : heldRow? tenantId eventId claimToken db = some entry) :
    entry.key = (tenantId, eventId) ∧ db.outbox.get? entry.key = some entry ∧
      entry.status.publication? = none := by
  obtain ⟨present, token⟩ := Option.filter_eq_some_iff.mp held
  have which := Table.get?_key present
  refine ⟨which, by rw [which]; exact present, ?_⟩
  cases status : entry.status with
  | pending => rfl
  | publishing claim => rfl
  | published publication publishedAt => simp [status] at token

/-- A confirmation publishes one row, under the sequence number and digest of the call. -/
theorem markEvidenceEventPublished_cases {p : PublishConfirmation}
    (succeeded : markEvidenceEventPublished clock p db = .ok next) :
    next.receipts = db.receipts ∧ ∃ source,
      db.outline? (p.tenantId, p.eventId) = some (source, none) ∧
      ∀ key, next.outline? key =
        if (p.tenantId, p.eventId) = key then some (source, some p.publication)
        else db.outline? key := by
  simp only [markEvidenceEventPublished, Checked.bind_eq_ok, Checked.require_eq_ok,
    Checked.requireSome_eq_ok, exists_const, Checked.pure_eq_ok] at succeeded
  obtain ⟨_, entry, held, _, rfl⟩ := succeeded
  obtain ⟨which, present, unpublished⟩ := heldRow?_spec held
  refine ⟨rfl, entry.source, ?_, ?_⟩
  · rw [← which]
    simp [OutboxDatabase.outline?, present, EvidenceOutboxEntry.outline, unpublished]
  · intro key
    have rewritten := outline_replace { entry with
      status := .published p.publication p.publishedAt
      lastFailureCode := none
      updatedAt := max clock p.publishedAt } present rfl key
    rw [which] at rewritten
    exact rewritten

theorem markEvidenceEventPublishFailed_cases {p : PublishFailure}
    (succeeded : markEvidenceEventPublishFailed clock p db = .ok next) :
    next.receipts = db.receipts ∧ ∀ key, next.outline? key = db.outline? key := by
  simp only [markEvidenceEventPublishFailed, Checked.bind_eq_ok, Checked.require_eq_ok,
    Checked.requireSome_eq_ok, exists_const, Checked.pure_eq_ok] at succeeded
  obtain ⟨_, entry, held, _, rfl⟩ := succeeded
  obtain ⟨_, present, unpublished⟩ := heldRow?_spec held
  refine ⟨rfl, fun key => ?_⟩
  have rewritten := outline_replace { entry with
    status := .pending
    nextAttemptAt := p.failedAt + interval p.retryDelaySeconds
    lastFailureCode := some p.failureCode
    updatedAt := max clock p.failedAt } present rfl key
  dsimp only [OutboxDatabase.outline?]
  rw [rewritten]
  split
  · rename_i same
    rw [← same, present]
    exact congrArg (fun publication => some (entry.source, publication)) unpublished.symm
  · rfl

/-- A new row takes a delivery ID that its tenant has not used. -/
theorem enqueueAcceptedEvidence_cases {receipt : IngestionReceipt} {ids : DrawnIds}
    (succeeded : enqueueAcceptedEvidence receipt ids db = .ok next) :
    db.receipts.insertNew receipt = some next.receipts ∧ ∃ source,
      db.outline? (receipt.tenantId, ids.deliveryEventId) = none ∧
      ∀ key, next.outline? key =
        if (receipt.tenantId, ids.deliveryEventId) = key then some (source, none)
        else db.outline? key := by
  simp only [enqueueAcceptedEvidence, Checked.bind_eq_ok, Checked.require_eq_ok,
    Checked.requireSome_eq_ok, exists_const, Checked.pure_eq_ok] at succeeded
  obtain ⟨receipts, receiptInserted, _, outbox, entryInserted, rfl⟩ := succeeded
  let source : EvidenceEventSource := ⟨receipt.tenantId, receipt.eventId, ids.deliveryEventId,
    ids.evidenceId, ids.correlationId, receipt.acceptedAt⟩
  refine ⟨receiptInserted, source, ?_, fun key => ?_⟩
  · obtain ⟨fresh, _⟩ := Table.insertNew_eq_some.mp entryInserted
    exact congrArg (Option.map EvidenceOutboxEntry.outline) fresh
  · have inserted := congrArg (Option.map EvidenceOutboxEntry.outline)
      (Table.get?_insertNew entryInserted key)
    dsimp only [OutboxDatabase.outline?]
    rw [inserted, apply_ite (Option.map EvidenceOutboxEntry.outline)]
    rfl

end Outlines

end TenantTrust.Trust
