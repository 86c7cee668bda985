import TenantTrust.Trust.EvidenceOutbox

/-! Workers that publish claimed rows and confirm them, in any order and with any losses. -/

namespace TenantTrust.Trust

open Library Identity

def EVENT_STREAM : String := "TENANT_TRUST_EVENTS"

abbrev EventStream := MessageStream EventId SignedEvidenceEvent

/-- Where a call of `publishClaim` stands between two of its awaits. -/
inductive PublishPhase where
  | claimed
  | acknowledged (event : SignedEvidenceEvent) (acknowledgement : PublishAck)
  | failing (failureCode : String)
  deriving DecidableEq, Repr

structure PublishCall where
  callId : Nat
  contextTenantId : TenantId
  signer : EvidenceSigner
  claim : AcceptedRecord
  claimToken : EvidenceEventClaimToken
  phase : PublishPhase

structure PublisherSystem where
  db : OutboxDatabase
  stream : EventStream
  calls : Table PublishCall PublishCall.callId

/-- Nothing has been accepted or published, and no worker has a claim. -/
def PublisherSystem.empty : PublisherSystem :=
  ⟨OutboxDatabase.empty, MessageStream.empty, Table.empty⟩

/-- What a worker sees of its publication: the connection fails before or after the message is
stored, or a stream answers. -/
inductive PublishOutcome where
  | raised (stored : Bool)
  | answered (streamName : String)
  deriving DecidableEq, Repr

/-- A worker that crashes takes no further step. -/
inductive PublisherOp where
  | accept (receipt : IngestionReceipt) (ids : DrawnIds)
  | store (tenantId : TenantId) (eventId : EvidenceEventId)
  | publishOther (count : Nat)
  | claim (callId : Nat) (contextTenantId : TenantId) (signer : EvidenceSigner)
      (clock : Instant) (locked : List (TenantId × EventId)) (call : OutboxClaimCall)
  | send (callId : Nat) (outcome : PublishOutcome)
  | confirm (callId : Nat) (clock publishedAt : Instant) (answered : Bool)
  | recordFailure (callId : Nat) (clock failedAt : Instant)

namespace PublisherSystem

def update (system : PublisherSystem) (call : PublishCall) (phase : PublishPhase) :
    PublisherSystem :=
  { system with calls := system.calls.upsert { call with phase := phase } }

/-- Signs the claimed record and publishes it. -/
def send (digests : EventDigests) (call : PublishCall) (outcome : PublishOutcome)
    (system : PublisherSystem) : PublisherSystem :=
  match signEvidenceAcceptedEvent digests call.signer call.claim with
  | .error failure => system.update call (.failing failure.reasonCode)
  | .ok event =>
      if call.contextTenantId ≠ event.unsigned.tenantId then
        system.update call (.failing "EVIDENCE_EVENT_PUBLISH_FAILED")
      else
        let (stream, acknowledgement) := system.stream.publish event.unsigned.eventId event
        match outcome with
        | .raised false => system.update call (.failing "EVIDENCE_EVENT_PUBLISH_FAILED")
        | .raised true =>
            { system with stream := stream }.update call
              (.failing "EVIDENCE_EVENT_PUBLISH_FAILED")
        | .answered streamName =>
            if streamName = EVENT_STREAM ∧ 1 ≤ acknowledgement.sequence then
              { system with stream := stream }.update call (.acknowledged event acknowledgement)
            else { system with stream := stream }.update call (.failing "JETSTREAM_ACK_INVALID")

def confirmation (digests : EventDigests) (call : PublishCall) (event : SignedEvidenceEvent)
    (acknowledgement : PublishAck) (publishedAt : Instant) : PublishConfirmation where
  tenantId := event.unsigned.tenantId
  eventId := event.unsigned.eventId
  claimToken := call.claimToken
  publication := ⟨acknowledgement.sequence, digests.payload event⟩
  publishedAt := publishedAt

/-- The digest is that of the payload that the worker has built itself. -/
def confirm (digests : EventDigests) (call : PublishCall) (event : SignedEvidenceEvent)
    (acknowledgement : PublishAck) (clock publishedAt : Instant) (answered : Bool)
    (system : PublisherSystem) : PublisherSystem :=
  match markEvidenceEventPublished clock
      (confirmation digests call event acknowledgement publishedAt) system.db with
  | .error _ => system.update call (.failing "EVIDENCE_EVENT_PUBLISH_FAILED")
  | .ok db =>
      if answered then { system with db := db, calls := system.calls.delete call.callId }
      else { system with db := db }.update call (.failing "EVIDENCE_EVENT_PUBLISH_FAILED")

def recordFailure (call : PublishCall) (failureCode : String) (clock failedAt : Instant)
    (system : PublisherSystem) : PublisherSystem :=
  let calls := system.calls.delete call.callId
  match markEvidenceEventPublishFailed clock ⟨call.claim.tenantId, call.claim.eventId,
      call.claimToken, failureCode, failedAt, 5⟩ system.db with
  | .error _ => { system with calls := calls }
  | .ok db => { system with db := db, calls := calls }

end PublisherSystem

def applyPublisher (digests : EventDigests) : Transaction PublisherSystem PublisherOp Unit SqlError
  | .accept receipt ids, system => do
      let db ← enqueueAcceptedEvidence receipt ids system.db
      return ({ system with db := db }, ())
  | .store tenantId eventId, system =>
      .ok ({ system with db := { system.db with
        encryptedEvidence := (tenantId, eventId) :: system.db.encryptedEvidence } }, ())
  | .publishOther count, system =>
      .ok ({ system with stream := system.stream.advance count }, ())
  | .claim callId contextTenantId signer clock locked call, system => do
      let (db, record) ← claimEvidenceEventOutbox clock locked call system.db
      match record with
      | none => return ({ system with db := db }, ())
      | some claimed => return ({ system with
          db := db
          calls := system.calls.upsert
            ⟨callId, contextTenantId, signer, claimed, call.claimToken, .claimed⟩ }, ())
  | .send callId outcome, system =>
      match system.calls.get? callId with
      | some call =>
          match call.phase with
          | .claimed => .ok (system.send digests call outcome, ())
          | .acknowledged _ _ | .failing _ => .ok (system, ())
      | none => .ok (system, ())
  | .confirm callId clock publishedAt answered, system =>
      match system.calls.get? callId with
      | some call =>
          match call.phase with
          | .acknowledged event acknowledgement =>
              .ok (system.confirm digests call event acknowledgement clock publishedAt answered, ())
          | .claimed | .failing _ => .ok (system, ())
      | none => .ok (system, ())
  | .recordFailure callId clock failedAt, system =>
      match system.calls.get? callId with
      | some call =>
          match call.phase with
          | .failing failureCode =>
              .ok (system.recordFailure call failureCode clock failedAt, ())
          | .claimed | .acknowledged _ _ => .ok (system, ())
      | none => .ok (system, ())

abbrev runPublisher (digests : EventDigests) : PublisherSystem → List PublisherOp →
    PublisherSystem :=
  Transaction.run (applyPublisher digests)

/-- The message that a worker confirms was signed by one configured like itself: a repeated
publication was answered for a message with the worker's own producer, key and signature. -/
def SameSigner (system : PublisherSystem) : PublisherOp → Prop
  | .confirm callId _ _ _ => ∀ call, system.calls.get? callId = some call →
      ∀ event acknowledgement, call.phase = .acknowledged event acknowledgement →
      acknowledgement.duplicate = true →
      ∀ message, system.stream.find? call.claim.eventId = some message →
      message.payload.unsigned.tenantId = call.claim.tenantId ∧
      message.payload.unsigned.producer = call.signer.producer ∧
      message.payload.sourceAuthentication.keyId = call.signer.keyId ∧
      message.payload.sourceAuthentication.signature = call.signer.sign message.payload.unsigned
  | _ => True

def signsLike (call : PublishCall) (stored : SignedEvidenceEvent) : Bool :=
  stored.unsigned.tenantId = call.claim.tenantId &&
  stored.unsigned.producer = call.signer.producer &&
  stored.sourceAuthentication.keyId = call.signer.keyId &&
  stored.sourceAuthentication.signature = call.signer.sign stored.unsigned

/-- Whether a worker may confirm its claim. -/
def confirmsOwn (system : PublisherSystem) (callId : Nat) : Bool :=
  match system.calls.get? callId with
  | some call =>
      match call.phase with
      | .acknowledged _ acknowledgement => !acknowledgement.duplicate ||
          (system.stream.find? call.claim.eventId).all fun message =>
            signsLike call message.payload
      | .claimed | .failing _ => true
  | none => true

theorem confirmsOwn_iff (system : PublisherSystem) (callId : Nat) (clock publishedAt : Instant)
    (answered : Bool) : confirmsOwn system callId = true ↔
      SameSigner system (.confirm callId clock publishedAt answered) := by
  unfold confirmsOwn SameSigner
  cases found : system.calls.get? callId with
  | none => simp [found]
  | some call =>
      cases phase : call.phase with
      | claimed => simp [found, phase]
      | failing failureCode => simp [found, phase]
      | acknowledged event acknowledgement =>
          cases repeated : acknowledgement.duplicate with
          | false => simp [found, phase, repeated]
          | true =>
              cases stored : system.stream.find? call.claim.eventId with
              | none => simp [found, phase, stored]
              | some message => simp [found, phase, stored, signsLike, repeated, and_assoc]

instance decidableSameSigner (system : PublisherSystem) :
    ∀ op, Decidable (SameSigner system op)
  | .confirm callId clock publishedAt answered =>
      decidable_of_iff _ (confirmsOwn_iff system callId clock publishedAt answered)
  | .accept _ _ | .store _ _ | .publishOther _ | .claim _ _ _ _ _ _ | .send _ _
  | .recordFailure _ _ _ => inferInstanceAs (Decidable True)

/-- The call that a consumer makes for a message that the stream delivers. -/
def deliveredCall (digests : EventDigests) (consumerName : String) (componentScore : ℚ)
    (processedAt : Instant) (message : StreamMessage EventId SignedEvidenceEvent) :
    ConsumptionCall where
  consumerName := consumerName
  tenantId := message.payload.unsigned.tenantId
  deliveryEventId := message.payload.unsigned.eventId
  evidenceId := message.payload.unsigned.aggregateId
  streamSequence := message.sequence
  signedEventSha256 := digests.payload message.payload
  componentScore := componentScore
  processedAt := processedAt

end TenantTrust.Trust
