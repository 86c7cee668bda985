import TenantTrust.Identity.Certificates
import TenantTrust.Trust.Vocabulary
import Mathlib.Algebra.Order.Floor.Ring
import Mathlib.Data.Prod.Lex
import Mathlib.Data.Rat.Floor

/-! The tables between an accepted evidence event and the trust state of a subject. -/

namespace TenantTrust.Trust

open Library Identity

abbrev EvidenceId := Identifier .evidence
abbrev EvidenceEventId := Identifier .evidenceEvent
abbrev SourceId := Identifier .evidenceSource

/-- A value stored in a column of type `numeric(_, places)`: halves round away from zero. -/
def roundNumeric (places : Nat) (value : ℚ) : ℚ :=
  if 0 ≤ value then ⌊value * 10 ^ places + 1 / 2⌋ / 10 ^ places
  else ⌈value * 10 ^ places - 1 / 2⌉ / 10 ^ places

/-- A stored value is not rounded a second time. -/
theorem roundNumeric_idem (places : Nat) (value : ℚ) :
    roundNumeric places (roundNumeric places value) = roundNumeric places value := by
  have scale : (0 : ℚ) < 10 ^ places := by positivity
  have stored : ∀ n : ℤ, roundNumeric places (n / 10 ^ places) = n / 10 ^ places := by
    intro n
    have whole : (n : ℚ) / 10 ^ places * 10 ^ places = n := div_mul_cancel₀ _ scale.ne'
    unfold roundNumeric
    rw [whole]
    have down : ⌊(n : ℚ) + 1 / 2⌋ = n := by
      rw [Int.floor_eq_iff]
      constructor <;> linarith
    have up : ⌈(n : ℚ) - 1 / 2⌉ = n := by
      rw [Int.ceil_eq_iff]
      constructor <;> linarith
    rw [down, up, ite_self]
  have shape : ∃ n : ℤ, roundNumeric places value = n / 10 ^ places := by
    unfold roundNumeric
    split
    · exact ⟨_, rfl⟩
    · exact ⟨_, rfl⟩
  obtain ⟨n, same⟩ := shape
  rw [same]
  exact stored n

/-- Status and its columns together, as `evidence_event_outbox_state_shape` requires them. -/
inductive EvidenceDelivery where
  | pending
  | publishing
  | published (streamSequence : Nat) (signedEventSha256 : Sha256Digest)
  deriving DecidableEq, Repr

structure EvidenceOutboxRow where
  tenantId : TenantId
  sourceEventId : EvidenceEventId
  deliveryEventId : EventId
  evidenceId : EvidenceId
  delivery : EvidenceDelivery
  deriving DecidableEq, Repr

/-- Unique by `evidence_event_outbox_delivery_unique`. -/
def EvidenceOutboxRow.key (row : EvidenceOutboxRow) : TenantId × EventId :=
  (row.tenantId, row.deliveryEventId)

structure EvidenceReceipt where
  tenantId : TenantId
  eventId : EvidenceEventId
  subjectId : SubjectId
  sourceId : SourceId
  evidenceType : TrustComponentId
  sourceSequence : Nat
  observedAt : Instant
  acceptedAt : Instant
  deriving DecidableEq, Repr

def EvidenceReceipt.key (receipt : EvidenceReceipt) : TenantId × EvidenceEventId :=
  (receipt.tenantId, receipt.eventId)

structure EvidenceEffect where
  consumerName : String
  tenantId : TenantId
  deliveryEventId : EventId
  evidenceId : EvidenceId
  streamSequence : Nat
  signedEventSha256 : Sha256Digest
  processedAt : Instant
  deriving DecidableEq, Repr

def EvidenceEffect.key (effect : EvidenceEffect) : String × TenantId × EventId :=
  (effect.consumerName, effect.tenantId, effect.deliveryEventId)

/-- The tuple by which deliveries of one component supersede each other. -/
abbrev ObservationStamp := Instant ×ₗ ℕ ×ₗ EventId

structure ComponentObservation where
  tenantId : TenantId
  subjectId : SubjectId
  evidenceType : TrustComponentId
  componentScore : ℚ
  deliveryEventId : EventId
  evidenceId : EvidenceId
  sourceEventId : EvidenceEventId
  sourceId : SourceId
  sourceSequence : Nat
  streamSequence : Nat
  observedAt : Instant
  acceptedAt : Instant
  processedAt : Instant
  deriving DecidableEq, Repr

abbrev ComponentKey := TenantId × SubjectId × TrustComponentId

def ComponentObservation.key (row : ComponentObservation) : ComponentKey :=
  (row.tenantId, row.subjectId, row.evidenceType)

def ComponentObservation.stamp (row : ComponentObservation) : ObservationStamp :=
  toLex (row.observedAt, toLex (row.streamSequence, row.deliveryEventId))

structure EvidenceReference where
  evidenceId : EvidenceId
  sourceEventId : EvidenceEventId
  evidenceType : TrustComponentId
  deriving DecidableEq, Repr

def ComponentObservation.reference (row : ComponentObservation) : EvidenceReference :=
  ⟨row.evidenceId, row.sourceEventId, row.evidenceType⟩

/-- A snapshot row together with its rows in `subject_trust_state_evidence`. -/
structure TrustStateVersion where
  tenantId : TenantId
  subjectId : SubjectId
  updateVersion : Nat
  modelVersion : String
  configurationVersion : Nat
  components : Components ℚ
  observedAt : Instant
  recordedAt : Instant
  evidenceReferences : List EvidenceReference
  deriving DecidableEq

def TrustStateVersion.key (version : TrustStateVersion) : TenantId × SubjectId × Nat :=
  (version.tenantId, version.subjectId, version.updateVersion)

structure CurrentTrustState where
  tenantId : TenantId
  subjectId : SubjectId
  updateVersion : Nat
  deriving DecidableEq, Repr

def CurrentTrustState.key (current : CurrentTrustState) : TenantId × SubjectId :=
  (current.tenantId, current.subjectId)

structure TrustDatabase where
  outbox : Table EvidenceOutboxRow EvidenceOutboxRow.key
  receipts : Table EvidenceReceipt EvidenceReceipt.key
  effects : Table EvidenceEffect EvidenceEffect.key
  observations : Table ComponentObservation ComponentObservation.key
  versions : Table TrustStateVersion TrustStateVersion.key
  current : Table CurrentTrustState CurrentTrustState.key

def TrustDatabase.empty : TrustDatabase where
  outbox := Table.empty
  receipts := Table.empty
  effects := Table.empty
  observations := Table.empty
  versions := Table.empty
  current := Table.empty

/-- An outbox row that is published, joined with its ingestion receipt. -/
structure PublishedDelivery where
  tenantId : TenantId
  subjectId : SubjectId
  evidenceType : TrustComponentId
  deliveryEventId : EventId
  evidenceId : EvidenceId
  sourceEventId : EvidenceEventId
  sourceId : SourceId
  sourceSequence : Nat
  streamSequence : Nat
  signedEventSha256 : Sha256Digest
  observedAt : Instant
  acceptedAt : Instant
  deriving DecidableEq, Repr

namespace PublishedDelivery

def componentKey (delivery : PublishedDelivery) : ComponentKey :=
  (delivery.tenantId, delivery.subjectId, delivery.evidenceType)

def stamp (delivery : PublishedDelivery) : ObservationStamp :=
  toLex (delivery.observedAt, toLex (delivery.streamSequence, delivery.deliveryEventId))

/-- The row that a delivery stages. -/
def observation (delivery : PublishedDelivery) (componentScore : ℚ) (processedAt : Instant) :
    ComponentObservation where
  tenantId := delivery.tenantId
  subjectId := delivery.subjectId
  evidenceType := delivery.evidenceType
  componentScore := roundNumeric 2 componentScore
  deliveryEventId := delivery.deliveryEventId
  evidenceId := delivery.evidenceId
  sourceEventId := delivery.sourceEventId
  sourceId := delivery.sourceId
  sourceSequence := delivery.sourceSequence
  streamSequence := delivery.streamSequence
  observedAt := delivery.observedAt
  acceptedAt := delivery.acceptedAt
  processedAt := processedAt

@[simp] theorem observation_key (delivery : PublishedDelivery) (componentScore : ℚ)
    (processedAt : Instant) :
    (delivery.observation componentScore processedAt).key = delivery.componentKey := rfl

@[simp] theorem observation_stamp (delivery : PublishedDelivery) (componentScore : ℚ)
    (processedAt : Instant) :
    (delivery.observation componentScore processedAt).stamp = delivery.stamp := rfl

end PublishedDelivery

def publishedDelivery (row : EvidenceOutboxRow) (receipt : EvidenceReceipt) :
    Option PublishedDelivery :=
  match row.delivery with
  | .published streamSequence signedEventSha256 => some {
      tenantId := row.tenantId
      subjectId := receipt.subjectId
      evidenceType := receipt.evidenceType
      deliveryEventId := row.deliveryEventId
      evidenceId := row.evidenceId
      sourceEventId := row.sourceEventId
      sourceId := receipt.sourceId
      sourceSequence := receipt.sourceSequence
      streamSequence := streamSequence
      signedEventSha256 := signedEventSha256
      observedAt := receipt.observedAt
      acceptedAt := receipt.acceptedAt }
  | .pending | .publishing => none

def TrustDatabase.delivery? (db : TrustDatabase) (tenantId : TenantId)
    (deliveryEventId : EventId) : Option PublishedDelivery := do
  let row ← db.outbox.get? (tenantId, deliveryEventId)
  let receipt ← db.receipts.get? (tenantId, row.sourceEventId)
  publishedDelivery row receipt

/-- A delivery is found under its own identifiers. -/
theorem TrustDatabase.delivery?_key {db : TrustDatabase} {tenantId : TenantId}
    {deliveryEventId : EventId} {delivery : PublishedDelivery}
    (found : db.delivery? tenantId deliveryEventId = some delivery) :
    delivery.tenantId = tenantId ∧ delivery.deliveryEventId = deliveryEventId := by
  unfold delivery? at found
  obtain ⟨row, present, rest⟩ := Option.bind_eq_some_iff.mp found
  obtain ⟨receipt, _, joined⟩ := Option.bind_eq_some_iff.mp rest
  have same := Table.get?_key present
  unfold publishedDelivery at joined
  cases status : row.delivery with
  | pending => simp [status] at joined
  | publishing => simp [status] at joined
  | published streamSequence signedEventSha256 =>
      simp only [status, Option.some.injEq] at joined
      rw [← joined]
      exact ⟨congrArg Prod.fst same, congrArg Prod.snd same⟩

end TenantTrust.Trust
