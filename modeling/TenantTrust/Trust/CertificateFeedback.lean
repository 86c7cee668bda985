import TenantTrust.Orchestration.SourceActions
import TenantTrust.Orchestration.Surroundings
import TenantTrust.Trust.EvidenceTables

/-! Published certificate lifecycle events as trust evidence, beside the action queue that may
be the cause of a revocation. -/

namespace TenantTrust.Trust

open Library Identity Orchestration

/-- An outbox row whose delivery is confirmed; the row is final from then on. -/
structure PublishedCertificateEvent where
  tenantId : TenantId
  eventId : EventId
  streamSequence : Nat
  signedEventSha256 : Sha256Digest
  publishedAt : Timestamp
  deriving DecidableEq, Repr

abbrev LifecycleKey := TenantId × EventId

def PublishedCertificateEvent.key (row : PublishedCertificateEvent) : LifecycleKey :=
  (row.tenantId, row.eventId)

structure CertificateEvidence where
  tenantId : TenantId
  evidenceId : EvidenceId
  lifecycleEventId : EventId
  causalParentEventId : Option EventId
  correlationId : CorrelationId
  subjectId : SubjectId
  certificateId : CertificateId
  eventType : LifecycleEventType
  certificateState : CertificateState
  evidenceKind : String
  componentScore : ℚ
  terminal : Bool
  securityActionEligible : Bool
  sourceActionId : Option ActionId
  consumerName : String
  streamSequence : Nat
  signedEventSha256 : Sha256Digest
  observedAt : Timestamp
  processedAt : Timestamp
  recordedAt : Timestamp
  deriving DecidableEq

/-- Unique by `certificate_lifecycle_evidence_event_unique`; the evidence id is made of the
digits of the event id. -/
def CertificateEvidence.key (row : CertificateEvidence) : LifecycleKey :=
  (row.tenantId, row.lifecycleEventId)

structure FeedbackEffect where
  kind : String
  score : ℚ
  terminal : Bool
  deriving DecidableEq

def feedbackEffect : LifecycleEventType → FeedbackEffect
  | .issued => ⟨"certificate-issued", 100, false⟩
  | .renewed => ⟨"certificate-renewed", 100, false⟩
  | .superseded => ⟨"certificate-superseded", 100, true⟩
  | .revoked => ⟨"certificate-revoked", 0, true⟩
  | .expired => ⟨"certificate-expired", 0, true⟩

/-- The check constraints of `certificate_lifecycle_evidence`. -/
def evidenceChecks (row : CertificateEvidence) : Bool :=
  let effect := feedbackEffect row.eventType
  (0 ≤ row.componentScore && row.componentScore ≤ 100) && 0 < row.streamSequence &&
  isWorkerId row.consumerName && !row.securityActionEligible &&
  (row.certificateState = row.eventType.state && row.evidenceKind = effect.kind &&
    row.componentScore = effect.score && row.terminal = effect.terminal) &&
  (row.causalParentEventId = none ↔ row.eventType = .issued) &&
  (row.sourceActionId = none || row.eventType = .revoked) &&
  (row.observedAt ≤ row.processedAt && row.processedAt ≤ row.recordedAt + seconds 2)

/-- The trust effects are the calls of the consumer's callback that were committed. -/
structure FeedbackSystem where
  database : Database
  published : Table PublishedCertificateEvent PublishedCertificateEvent.key
  evidence : Table CertificateEvidence CertificateEvidence.key
  trustEffects : List LifecycleKey

structure FeedbackDelivery where
  consumerName : String
  tenantId : TenantId
  lifecycleEventId : EventId
  streamSequence : Nat
  signedEventSha256 : Sha256Digest
  processedAt : Timestamp
  deriving DecidableEq, Repr

def FeedbackDelivery.key (p : FeedbackDelivery) : LifecycleKey := (p.tenantId, p.lifecycleEventId)

def FeedbackDelivery.confirms (p : FeedbackDelivery) (row : PublishedCertificateEvent) : Bool :=
  row.streamSequence = p.streamSequence && row.signedEventSha256 = p.signedEventSha256 &&
  row.publishedAt ≤ p.processedAt + seconds 2

/-- The lifecycle event of a published row that the delivery names exactly. -/
def authoritativeEvent? (p : FeedbackDelivery) (system : FeedbackSystem) : Option LifecycleEvent :=
  match (system.published.get? p.key).filter p.confirms with
  | some _ => (system.database.inventory.events.get? p.lifecycleEventId).filter fun event =>
      event.tenantId = p.tenantId
  | none => none

def isSourceAction (event : LifecycleEvent) (action : SecurityAction) : Bool :=
  action.target = ⟨event.tenantId, event.subjectId, event.certificateId⟩ &&
  action.actionType = .revokeCertificate && action.execution.status = .succeeded &&
  action.externalReference = some (.lifecycleEvent event.eventId)

/-- `v_source_action_id`; the unique result index leaves at most one row. -/
def sourceAction? (event : LifecycleEvent) (db : Database) : Option ActionId :=
  if event.eventType = .revoked then
    (db.actions.rows.find? (isSourceAction event)).map SecurityAction.actionId
  else none

/-- The row that a delivery inserts. -/
def FeedbackDelivery.row (p : FeedbackDelivery) (clock : Timestamp) (event : LifecycleEvent)
    (sourceActionId : Option ActionId) : CertificateEvidence :=
  let effect := feedbackEffect event.eventType
  { tenantId := event.tenantId
    evidenceId := ⟨event.eventId.value⟩
    lifecycleEventId := event.eventId
    causalParentEventId := event.causationEventId
    correlationId := event.correlationId
    subjectId := event.subjectId
    certificateId := event.certificateId
    eventType := event.eventType
    certificateState := event.certificateState
    evidenceKind := effect.kind
    componentScore := effect.score
    terminal := effect.terminal
    securityActionEligible := false
    sourceActionId := sourceActionId
    consumerName := p.consumerName
    streamSequence := p.streamSequence
    signedEventSha256 := p.signedEventSha256
    observedAt := event.occurredAt
    processedAt := p.processedAt
    recordedAt := clock }

/-- The comparison of a stored row with what the delivery would insert. -/
def CertificateEvidence.repeats (stored new : CertificateEvidence) : Bool :=
  stored.evidenceId = new.evidenceId && stored.causalParentEventId = new.causalParentEventId &&
  stored.correlationId = new.correlationId && stored.subjectId = new.subjectId &&
  stored.certificateId = new.certificateId && stored.eventType = new.eventType &&
  stored.certificateState = new.certificateState && stored.evidenceKind = new.evidenceKind &&
  stored.componentScore = new.componentScore && stored.terminal = new.terminal &&
  stored.securityActionEligible = new.securityActionEligible &&
  stored.sourceActionId = new.sourceActionId && stored.streamSequence = new.streamSequence &&
  stored.signedEventSha256 = new.signedEventSha256

inductive FeedbackOutcome where
  | recorded | duplicate
  deriving DecidableEq, Repr

def FeedbackOutcome.text : FeedbackOutcome → String
  | .recorded => "recorded"
  | .duplicate => "duplicate"

def recordCertificateLifecycleEvidence (clock : Timestamp) (p : FeedbackDelivery)
    (system : FeedbackSystem) :
    Except SqlError (FeedbackSystem × FeedbackOutcome × CertificateEvidence) := do
  require (isWorkerId p.consumerName ∧ 1 ≤ p.streamSequence ∧ p.processedAt ≤ clock + seconds 2)
    (.raised "CERTIFICATE_FEEDBACK_REQUEST_INVALID")
  let event ← requireSome (authoritativeEvent? p system)
    (.raised "CERTIFICATE_FEEDBACK_NOT_AUTHORITATIVE")
  let row := p.row clock event (sourceAction? event system.database)
  -- The checks of a row are made before its conflict is noticed.
  require (evidenceChecks row) (.checkViolation "certificate_lifecycle_evidence")
  match system.evidence.get? row.key with
  | none =>
      let evidence ← requireSome (system.evidence.insertNew row)
        (.uniqueViolation "certificate_lifecycle_evidence_pk")
      return ({ system with evidence := evidence }, .recorded, row)
  | some stored => do
      require (stored.repeats row) (.raised "CERTIFICATE_FEEDBACK_IDEMPOTENCY_CONFLICT")
      return (system, .duplicate, stored)

inductive FeedbackFailure where
  | database (failure : SqlError)
  | trustEffect

/-- One transaction of the consumer: the row, and the trust effect if the row is new. -/
def consumeFeedback (clock : Timestamp) (p : FeedbackDelivery) (effectAccepted : Bool)
    (system : FeedbackSystem) :
    Except FeedbackFailure (FeedbackSystem × FeedbackOutcome × CertificateEvidence) :=
  match recordCertificateLifecycleEvidence clock p system with
  | .error failure => .error (.database failure)
  | .ok (recorded, .recorded, row) =>
      if effectAccepted then
        .ok ({ recorded with trustEffects := recorded.trustEffects ++ [p.key] }, .recorded, row)
      else .error .trustEffect
  | .ok (recorded, .duplicate, row) => .ok (recorded, .duplicate, row)

/-- `mark_certificate_event_published` on the outbox row that the insertion of the event
created at its recording time. -/
def markCertificateEventPublished (clock : Timestamp) (row : PublishedCertificateEvent)
    (system : FeedbackSystem) : Except SqlError FeedbackSystem := do
  require (1 ≤ row.streamSequence ∧ row.publishedAt ≤ clock + seconds 2)
    (.raised "Certificate event publish confirmation denied.")
  let event ← requireSome ((system.database.inventory.events.get? row.eventId).filter
      fun event => event.tenantId = row.tenantId)
    (.raised "Certificate event publish confirmation denied.")
  let published ← requireSome (system.published.insertNew row)
    (.raised "Certificate event publish confirmation denied.")
  require (event.recordedAt ≤ row.publishedAt)
    (.checkViolation "certificate_event_outbox_time_order")
  return { system with published := published }

inductive FeedbackOp where
  | queue (op : QueueOp)
  | publish (clock : Timestamp) (row : PublishedCertificateEvent)
  | deliver (clock : Timestamp) (p : FeedbackDelivery) (effectAccepted : Bool)

inductive FeedbackReply where
  | queue (reply : QueueReply)
  | published
  | consumed (outcome : FeedbackOutcome) (row : CertificateEvidence)

def applyFeedback : Transaction FeedbackSystem FeedbackOp FeedbackReply FeedbackFailure
  | .queue op, system =>
      match applyQueue op system.database with
      | .error failure => .error (.database failure)
      | .ok (database, reply) => .ok ({ system with database := database }, .queue reply)
  | .publish clock row, system =>
      match markCertificateEventPublished clock row system with
      | .error failure => .error (.database failure)
      | .ok next => .ok (next, .published)
  | .deliver clock p effectAccepted, system =>
      match consumeFeedback clock p effectAccepted system with
      | .error failure => .error failure
      | .ok (next, outcome, row) => .ok (next, .consumed outcome row)

abbrev runFeedback : FeedbackSystem → List FeedbackOp → FeedbackSystem :=
  Transaction.run applyFeedback

/-- Nothing has happened yet; the surroundings of the queue may hold any rows, but no event. -/
structure FeedbackSystem.Fresh (system : FeedbackSystem) : Prop where
  database : system.database.Fresh
  events : system.database.inventory.events = Table.empty
  published : system.published = Table.empty
  evidence : system.evidence = Table.empty
  trustEffects : system.trustEffects = []

end TenantTrust.Trust
