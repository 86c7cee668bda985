import TenantTrust.Trust.ConsumptionStep
import TenantTrust.Trust.EvidenceEvents
import TenantTrust.Trust.ReplaySafety

/-! The path of an item of evidence from the replay guard over the outbox to the trust state. -/

namespace TenantTrust.Trust

open Library Identity

/-- The columns of a receipt that the consuming procedures read. -/
def IngestionReceipt.consumed (receipt : IngestionReceipt) : EvidenceReceipt where
  tenantId := receipt.tenantId
  eventId := receipt.eventId
  subjectId := receipt.subjectId
  sourceId := receipt.sourceId
  evidenceType := receipt.evidenceType
  sourceSequence := receipt.sourceSequence.toNat
  observedAt := receipt.observedAt
  acceptedAt := receipt.acceptedAt

/-- The select list of a claim, an outbox row joined with its receipt, as `rowToClaim` turns it
into a record: its times become those of a `Date`. -/
def claimedRecord (row : EvidenceOutboxRow) (receipt : IngestionReceipt)
    (correlationId : CorrelationId) : AcceptedRecord where
  tenantId := row.tenantId
  subjectId := receipt.subjectId
  sourceId := receipt.sourceId
  evidenceId := row.evidenceId
  eventId := row.deliveryEventId
  sourceEventId := row.sourceEventId
  correlationId := correlationId
  evidenceType := receipt.evidenceType
  sourceSequence := receipt.sourceSequence
  contentHashSha256 := receipt.contentHashSha256
  synthetic := receipt.synthetic
  observedAt := milliseconds receipt.observedAt
  expiresAt := milliseconds receipt.expiresAt
  acceptedAt := milliseconds receipt.acceptedAt

/-- The clock is that of the last call that has committed. -/
structure EvidencePipeline where
  clock : Instant
  guard : EvidenceDatabase
  trust : TrustDatabase

/-- The identifiers that the outbox trigger draws for a new receipt. -/
structure DrawnIds where
  deliveryEventId : EventId
  evidenceId : EvidenceId
  correlationId : CorrelationId
  deriving DecidableEq, Repr

inductive PipelineOp where
  | submit (session : GuardSession) (now innerNow : Instant) (candidate : ReplayCandidate)
      (ids : DrawnIds)
  | publish (tenantId : TenantId) (ids : DrawnIds) (streamSequence : Nat)
      (signedEventSha256 : Sha256Digest)
  | consume (session : TrustSession) (call : ConsumptionCall)
  | register (source : EvidenceSource)

inductive PipelineFailure where
  | database (failure : SqlError)
  | event (failure : EvidenceEventError)
  deriving DecidableEq, Repr

def liftDatabase {α : Type} : Except SqlError α → Except PipelineFailure α :=
  Except.mapError .database

/-- The trigger on a new receipt. -/
def enqueueAcceptedEvidenceEvent (receipt : IngestionReceipt) (ids : DrawnIds)
    (db : TrustDatabase) : Except SqlError TrustDatabase := do
  let receipts ← requireSome (db.receipts.insertNew receipt.consumed)
    (.uniqueViolation "evidence_ingestion_receipts_pk")
  require (∀ other ∈ db.outbox, ¬ (other.tenantId = receipt.tenantId ∧
      other.evidenceId = ids.evidenceId))
    (.uniqueViolation "evidence_event_outbox_evidence_unique")
  let outbox ← requireSome (db.outbox.insertNew
      ⟨receipt.tenantId, receipt.eventId, ids.deliveryEventId, ids.evidenceId, .pending⟩)
    (.uniqueViolation "evidence_event_outbox_delivery_unique")
  return { db with receipts := receipts, outbox := outbox }

def submitEvidence (digests : EvidenceDigests) (session : GuardSession)
    (now innerNow : Instant) (candidate : ReplayCandidate) (ids : DrawnIds)
    (pipeline : EvidencePipeline) : Except PipelineFailure EvidencePipeline := do
  let (guard, decision) ← liftDatabase
    (applyEvidenceReplayGuard digests session now innerNow candidate pipeline.guard)
  if decision.accepted then do
    let receipt ← liftDatabase (requireSome (guard.receipts.get? candidate.event)
      (.raised "query returned no rows"))
    let trust ← liftDatabase (enqueueAcceptedEvidenceEvent receipt ids pipeline.trust)
    return { clock := max pipeline.clock innerNow, guard := guard, trust := trust }
  else return { pipeline with clock := max pipeline.clock innerNow, guard := guard }

/-- The record of a delivery that a worker can claim. -/
def claimedRecord? (pipeline : EvidencePipeline) (tenantId : TenantId)
    (deliveryEventId : EventId) (correlationId : CorrelationId) : Option AcceptedRecord := do
  let row ← pipeline.trust.outbox.get? (tenantId, deliveryEventId)
  let receipt ← pipeline.guard.receipts.get? (tenantId, row.sourceEventId)
  return claimedRecord row receipt correlationId

/-- Claim, signature, publication and confirmation of one row. -/
def publishEvidence (tenantId : TenantId) (ids : DrawnIds) (streamSequence : Nat)
    (signedEventSha256 : Sha256Digest) (pipeline : EvidencePipeline) :
    Except PipelineFailure EvidencePipeline := do
  let row ← liftDatabase (requireSome (pipeline.trust.outbox.get? (tenantId, ids.deliveryEventId))
    (.raised "query returned no rows"))
  let record ← liftDatabase (requireSome
    (claimedRecord? pipeline tenantId ids.deliveryEventId ids.correlationId)
    (.raised "query returned no rows"))
  let _ ← Except.mapError .event (validateAcceptedRecord record)
  require (row.delivery = .pending ∧ 1 ≤ streamSequence)
    (.database (.raised "Evidence event publish confirmation denied."))
  let published := { row with delivery := .published streamSequence signedEventSha256 }
  return { pipeline with
    trust := { pipeline.trust with outbox := pipeline.trust.outbox.replace published } }

def applyPipeline (digests : EvidenceDigests) :
    Transaction EvidencePipeline PipelineOp Unit PipelineFailure
  | .submit session now innerNow candidate ids, pipeline => do
      let next ← submitEvidence digests session now innerNow candidate ids pipeline
      return (next, ())
  | .publish tenantId ids streamSequence signedEventSha256, pipeline => do
      let next ← publishEvidence tenantId ids streamSequence signedEventSha256 pipeline
      return (next, ())
  | .consume session call, pipeline => do
      let (trust, _) ← liftDatabase
        (consumeValidatedEvidenceComponent session call pipeline.trust)
      return ({ pipeline with clock := max pipeline.clock session.clock, trust := trust }, ())
  | .register source, pipeline =>
      .ok ({ pipeline with guard := { pipeline.guard with
        sources := pipeline.guard.sources.upsert source } }, ())

abbrev runPipeline (digests : EvidenceDigests) : EvidencePipeline → List PipelineOp →
    EvidencePipeline :=
  Transaction.run (applyPipeline digests)

/-- A call reads the clock no earlier than the calls before it. -/
def InTime (pipeline : EvidencePipeline) : PipelineOp → Prop
  | .submit _ _ innerNow _ _ => pipeline.clock ≤ innerNow
  | .publish _ _ _ _ => True
  | .consume session _ => pipeline.clock ≤ session.clock
  | .register _ => True

structure EvidencePipeline.Fresh (pipeline : EvidencePipeline) : Prop where
  guard : pipeline.guard.Fresh
  outbox : pipeline.trust.outbox = Table.empty
  receipts : pipeline.trust.receipts = Table.empty
  consumed : pipeline.trust.Fresh

/-- The states of runs whose calls are in time. -/
def ReachableInTime (digests : EvidenceDigests) (pipeline : EvidencePipeline) : Prop :=
  ∃ start ops, start.Fresh ∧ Transaction.Guarded (applyPipeline digests) InTime start ops ∧
    runPipeline digests start ops = pipeline

/-- The failures of a consumption that stem from the order of its times. -/
def isTimeOrder : SqlError → Bool
  | .checkViolation constraint => constraint = "subject_component_observations" ||
      constraint = "subject_trust_state_versions_time_order"
  | .raised message => message = "Subject trust-state input is invalid." ||
      message = "Validated evidence component input is invalid."
  | _ => false

end TenantTrust.Trust
