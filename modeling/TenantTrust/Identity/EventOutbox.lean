import TenantTrust.Identity.InventorySteps
import Mathlib.Data.List.Induction

/-! The outbox that a trigger fills with every certificate event that is recorded. -/

namespace TenantTrust.Identity

open Library

inductive CertificateEventDeliveryState where
  | pending | publishing | published
  deriving DecidableEq, Repr

structure CertificateEventOutbox where
  tenantId : TenantId
  eventId : EventId
  status : CertificateEventDeliveryState
  claimToken : Option (Identifier .claimToken)
  claimedBy : Option String
  claimedAt : Option Timestamp
  attemptCount : Nat
  nextAttemptAt : Timestamp
  lastFailureCode : Option String
  streamSequence : Option Nat
  signedEventSha256 : Option Sha256Digest
  publishedAt : Option Timestamp
  createdAt : Timestamp
  updatedAt : Timestamp
  deriving DecidableEq, Repr

def CertificateEventOutbox.key (row : CertificateEventOutbox) : TenantId × EventId :=
  (row.tenantId, row.eventId)

/-- The check constraints of `identity.certificate_event_outbox`. -/
def certificateEventOutboxChecks (row : CertificateEventOutbox) : Bool :=
  row.claimedBy.all isWorkerId && row.lastFailureCode.all isReasonCode &&
  row.streamSequence.all (0 < ·) &&
  (match row.status with
    | .pending => row.claimToken.isNone && row.claimedBy.isNone && row.claimedAt.isNone &&
        row.streamSequence.isNone && row.signedEventSha256.isNone && row.publishedAt.isNone
    | .publishing => row.claimToken.isSome && row.claimedBy.isSome && row.claimedAt.isSome &&
        row.streamSequence.isNone && row.signedEventSha256.isNone && row.publishedAt.isNone
    | .published => row.claimToken.isNone && row.claimedBy.isNone && row.claimedAt.isNone &&
        row.streamSequence.isSome && row.signedEventSha256.isSome && row.publishedAt.isSome) &&
  (row.createdAt ≤ row.updatedAt && row.claimedAt.all (row.createdAt ≤ ·) &&
    row.publishedAt.all (row.createdAt ≤ ·))

/-- The row that the trigger inserts; `next_attempt_at` defaults to the clock of the call,
which is also when the event was recorded. -/
def LifecycleEvent.outboxRow (event : LifecycleEvent) : CertificateEventOutbox where
  tenantId := event.tenantId
  eventId := event.eventId
  status := .pending
  claimToken := none
  claimedBy := none
  claimedAt := none
  attemptCount := 0
  nextAttemptAt := event.recordedAt
  lastFailureCode := none
  streamSequence := none
  signedEventSha256 := none
  publishedAt := none
  createdAt := event.recordedAt
  updatedAt := event.recordedAt

abbrev EventOutbox := Table CertificateEventOutbox CertificateEventOutbox.key

def enqueueCertificateLifecycleEvent (outbox : EventOutbox) (event : LifecycleEvent) :
    Except SqlError EventOutbox := do
  require (certificateEventOutboxChecks event.outboxRow)
    (.checkViolation "identity.certificate_event_outbox")
  return outbox.insertIfAbsent event.outboxRow

structure CertificateDatabase where
  inventory : Inventory
  outbox : EventOutbox

def CertificateDatabase.empty : CertificateDatabase := ⟨Inventory.empty, Table.empty⟩

/-- A call of the inventory together with the trigger, which fires for each event that the
call has appended to the log, in the order of their insertion. -/
def applyCertificates :
    Transaction CertificateDatabase InventoryOp RecordedCertificate SqlError :=
  fun op database => do
    let (inventory, reply) ← applyInventory op database.inventory
    let appended := inventory.events.rows.drop database.inventory.events.rows.length
    let outbox ← appended.foldlM enqueueCertificateLifecycleEvent database.outbox
    return (⟨inventory, outbox⟩, reply)

/-- A row that is enqueued passes the checks of its table. -/
theorem outboxRow_checks (event : LifecycleEvent) :
    certificateEventOutboxChecks event.outboxRow = true := by
  simp [certificateEventOutboxChecks, LifecycleEvent.outboxRow]

theorem enqueueCertificateLifecycleEvent_eq (outbox : EventOutbox) (event : LifecycleEvent) :
    enqueueCertificateLifecycleEvent outbox event =
      .ok (outbox.insertIfAbsent event.outboxRow) := by
  simp [enqueueCertificateLifecycleEvent, require, outboxRow_checks]

/-- The outbox lists the events of the log, each of them once. -/
def EventsEnqueued (outbox : EventOutbox) (events : List LifecycleEvent) : Prop :=
  outbox.rows.map CertificateEventOutbox.key = events.map fun event => event.outboxRow.key

theorem EventsEnqueued.enqueue {outbox : EventOutbox} {events : List LifecycleEvent}
    (matched : EventsEnqueued outbox events) {event : LifecycleEvent}
    (fresh : ∀ old ∈ events, old.eventId ≠ event.eventId) :
    EventsEnqueued (outbox.insertIfAbsent event.outboxRow) (events ++ [event]) := by
  have free : outbox.get? event.outboxRow.key = none := by
    rw [Table.get?_eq_none]
    intro row member same
    have listed : row.key ∈ outbox.rows.map CertificateEventOutbox.key :=
      List.mem_map_of_mem member
    rw [matched] at listed
    rcases List.mem_map.mp listed with ⟨old, present, known⟩
    exact fresh old present (congrArg Prod.snd (known.trans same))
  have inserted : outbox.insertNew event.outboxRow = some (outbox.insert event.outboxRow free) :=
    Table.insertNew_eq_some.mpr ⟨free, rfl⟩
  rw [EventsEnqueued, Table.insertIfAbsent, inserted, Option.getD_some, Table.insert_rows,
    List.map_append, List.map_append, matched]
  rfl

/-- The trigger accepts every event of a log whose identifiers are distinct. -/
theorem EventsEnqueued.enqueueAll {outbox : EventOutbox} {events : List LifecycleEvent}
    (matched : EventsEnqueued outbox events) (appended : List LifecycleEvent)
    (distinct : ((events ++ appended).map LifecycleEvent.eventId).Nodup) :
    ∃ next, appended.foldlM enqueueCertificateLifecycleEvent outbox = Except.ok next ∧
      EventsEnqueued next (events ++ appended) := by
  induction appended generalizing outbox events with
  | nil =>
      rw [List.append_nil]
      exact ⟨outbox, rfl, matched⟩
  | cons event appended ih =>
      have fresh : ∀ old ∈ events, old.eventId ≠ event.eventId := by
        rw [List.map_append, List.nodup_append] at distinct
        intro old member
        exact distinct.2.2 _ (List.mem_map_of_mem member) _ (by simp)
      have grouped : events ++ event :: appended = (events ++ [event]) ++ appended := by simp
      rw [grouped] at distinct ⊢
      rcases ih (matched.enqueue fresh) distinct with ⟨next, enqueued, final⟩
      refine ⟨next, ?_, final⟩
      rw [List.foldlM_cons, enqueueCertificateLifecycleEvent_eq]
      exact enqueued

theorem Inventory.Step.log {before after : Inventory} (step : before.Step after) :
    ∃ appended, after.events.rows = before.events.rows ++ appended := by
  cases step with
  | issued _ _ _ _ _ logged => exact ⟨_, Table.insertNew_rows logged⟩
  | ended _ _ _ _ _ logged => exact ⟨_, Table.insertNew_rows logged⟩
  | renewed _ _ _ _ _ _ _ _ _ _ _ _ _ first second =>
      have rows := Table.insertNew_rows second
      rw [Table.insertNew_rows first, List.append_assoc] at rows
      exact ⟨_, rows⟩

theorem applyInventory_log {op : InventoryOp} {before after : Inventory}
    {reply : RecordedCertificate} (succeeds : applyInventory op before = .ok (after, reply)) :
    after.events.rows = before.events.rows ++
      after.events.rows.drop before.events.rows.length := by
  have prefix_ : ∃ appended, after.events.rows = before.events.rows ++ appended := by
    rcases applyInventory_step succeeds with rfl | step
    · exact ⟨[], by simp⟩
    · exact step.log
  rcases prefix_ with ⟨appended, rows⟩
  rw [rows, List.drop_left]

/-- The trigger never stands in the way of a call, and keeps the outbox in step with the log. -/
theorem applyCertificates_commit {database : CertificateDatabase}
    (matched : EventsEnqueued database.outbox database.inventory.events.rows) (op : InventoryOp) :
    (Transaction.commit applyCertificates database op).inventory =
        Transaction.commit applyInventory database.inventory op ∧
      EventsEnqueued (Transaction.commit applyCertificates database op).outbox
        (Transaction.commit applyCertificates database op).inventory.events.rows := by
  cases result : applyInventory op database.inventory with
  | error failure =>
      have refused : applyCertificates op database = .error failure := by
        simp only [applyCertificates, result]
        rfl
      rw [Transaction.commit_error refused, Transaction.commit_error result]
      exact ⟨rfl, matched⟩
  | ok pair =>
      have log := applyInventory_log result
      have distinct := pair.1.events.distinct
      rw [log] at distinct
      rcases matched.enqueueAll _ distinct with ⟨outbox, enqueued, final⟩
      have answered : applyCertificates op database = .ok (⟨pair.1, outbox⟩, pair.2) := by
        simp only [applyCertificates, result, Checked.bind_eq_ok, Checked.pure_eq_ok]
        exact ⟨pair, rfl, outbox, enqueued, rfl⟩
      rw [Transaction.commit_ok answered, Transaction.commit_ok result]
      rw [← log] at final
      exact ⟨rfl, final⟩

/-- What a run leaves in the certificate tables is what the inventory alone would hold. -/
theorem applyCertificates_run (ops : List InventoryOp) :
    (Transaction.run applyCertificates .empty ops).inventory =
        Transaction.run applyInventory .empty ops ∧
      EventsEnqueued (Transaction.run applyCertificates .empty ops).outbox
        (Transaction.run applyCertificates .empty ops).inventory.events.rows := by
  induction ops using List.reverseRecOn with
  | nil => exact ⟨rfl, rfl⟩
  | append_singleton ops op ih =>
      have next := applyCertificates_commit ih.2 op
      rw [Transaction.run_concat, Transaction.run_concat]
      rw [ih.1] at next
      exact next

theorem EventsEnqueued.outbox {outbox : EventOutbox} {events : List LifecycleEvent}
    (matched : EventsEnqueued outbox events) {event : LifecycleEvent} (member : event ∈ events) :
    ∃ row ∈ outbox, row.key = event.outboxRow.key := by
  have listed : event.outboxRow.key ∈ outbox.rows.map CertificateEventOutbox.key := by
    rw [matched]
    exact List.mem_map_of_mem member
  exact List.mem_map.mp listed

end TenantTrust.Identity
