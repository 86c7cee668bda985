import TenantTrust.Trust.EvidencePublisher
import TenantTrust.Trust.EvidenceTravel

/-! When the outbox confirms the message that the stream has stored. -/

namespace TenantTrust.Trust

open Library Identity

variable {digests : EventDigests}

/-! The event that a worker signs for a record. -/

theorem signEvidenceAcceptedEvent_cases {signer : EvidenceSigner} {record : AcceptedRecord}
    {event : SignedEvidenceEvent}
    (signed : signEvidenceAcceptedEvent digests signer record = .ok event) :
    buildUnsignedEvidenceAcceptedEvent signer.producer record = .ok event.unsigned ∧
      event.sourceAuthentication =
        ⟨signer.keyId, digests.content event.unsigned, signer.sign event.unsigned⟩ := by
  simp only [signEvidenceAcceptedEvent, Checked.bind_eq_ok, Checked.require_eq_ok, exists_const,
    Checked.pure_eq_ok] at signed
  obtain ⟨_, unsigned, built, _, _, rfl⟩ := signed
  exact ⟨built, rfl⟩

theorem buildUnsignedEvidenceAcceptedEvent_fields {producer : EvidenceProducer}
    {record : AcceptedRecord} {unsigned : UnsignedEvidenceEvent}
    (built : buildUnsignedEvidenceAcceptedEvent producer record = .ok unsigned) :
    unsigned.tenantId = record.tenantId ∧ unsigned.eventId = record.eventId ∧
      unsigned.aggregateId = record.evidenceId ∧ unsigned.producer = producer := by
  simp only [buildUnsignedEvidenceAcceptedEvent, validateAcceptedRecord, Checked.bind_eq_ok,
    Checked.require_eq_ok, exists_const, Checked.pure_eq_ok] at built
  obtain ⟨source, ⟨_, _, rfl⟩, _, rfl⟩ := built
  exact ⟨rfl, rfl, rfl, rfl⟩

/-- Two workers sign the same event for a record if they agree on producer, key and signature. -/
theorem signEvidenceAcceptedEvent_same {first second : EvidenceSigner} {record : AcceptedRecord}
    {stored event : SignedEvidenceEvent}
    (earlier : signEvidenceAcceptedEvent digests first record = .ok stored)
    (later : signEvidenceAcceptedEvent digests second record = .ok event)
    (producer : stored.unsigned.producer = second.producer)
    (keyId : stored.sourceAuthentication.keyId = second.keyId)
    (signature : stored.sourceAuthentication.signature = second.sign stored.unsigned) :
    stored = event := by
  obtain ⟨builtFirst, authFirst⟩ := signEvidenceAcceptedEvent_cases earlier
  obtain ⟨builtSecond, authSecond⟩ := signEvidenceAcceptedEvent_cases later
  obtain ⟨_, _, _, ownProducer⟩ := buildUnsignedEvidenceAcceptedEvent_fields builtFirst
  have producers : first.producer = second.producer := ownProducer.symm.trans producer
  rw [producers] at builtFirst
  have unsigned : stored.unsigned = event.unsigned :=
    Except.ok.inj (builtFirst.symm.trans builtSecond)
  obtain ⟨storedUnsigned, storedAuth⟩ := stored
  obtain ⟨eventUnsigned, eventAuth⟩ := event
  dsimp only at *
  subst unsigned authFirst authSecond
  dsimp only at keyId signature
  rw [keyId, signature]

/-! The records of rows, and what every procedure leaves of them. -/

section Sources

variable {db next : OutboxDatabase}

theorem OutboxDatabase.outline?_key {key : TenantId × EventId} {source : EvidenceEventSource}
    {publication : Option EvidencePublication}
    (found : db.outline? key = some (source, publication)) :
    key = (source.tenantId, source.deliveryEventId) := by
  obtain ⟨entry, present, same⟩ := Option.map_eq_some_iff.mp found
  have which := Table.get?_key present
  obtain rfl : entry.source = source := congrArg Prod.fst same
  exact which.symm

theorem OutboxDatabase.record?_fields {source : EvidenceEventSource} {record : AcceptedRecord}
    (found : db.record? source = some record) :
    record.tenantId = source.tenantId ∧ record.eventId = source.deliveryEventId ∧
      record.evidenceId = source.evidenceId := by
  obtain ⟨receipt, _, rfl⟩ := Option.map_eq_some_iff.mp found
  exact ⟨rfl, rfl, rfl⟩

/-- The record is that of the row whose identifiers it has. -/
def IsRecord (db : OutboxDatabase) (record : AcceptedRecord) : Prop :=
  ∃ source publication,
    db.outline? (record.tenantId, record.eventId) = some (source, publication) ∧
      db.record? source = some record

theorem IsRecord.unique {first second : AcceptedRecord} (one : IsRecord db first)
    (other : IsRecord db second) (tenant : first.tenantId = second.tenantId)
    (event : first.eventId = second.eventId) : first = second := by
  obtain ⟨source, publication, outlined, joined⟩ := one
  obtain ⟨otherSource, otherPublication, otherOutlined, otherJoined⟩ := other
  rw [tenant, event, otherOutlined] at outlined
  obtain ⟨rfl, _⟩ := Prod.mk.inj (Option.some.inj outlined)
  exact Option.some.inj (joined.symm.trans otherJoined)

/-- Rows keep their sources, and receipts stay. -/
structure OutboxDatabase.Extends (db next : OutboxDatabase) : Prop where
  outlines : ∀ key source publication, db.outline? key = some (source, publication) →
    ∃ later, next.outline? key = some (source, later)
  receipts : ∀ key receipt, db.receipts.get? key = some receipt →
    next.receipts.get? key = some receipt

theorem OutboxDatabase.extends_of_same (receipts : next.receipts = db.receipts)
    (outlines : ∀ key, next.outline? key = db.outline? key) : db.Extends next where
  outlines := fun key _ publication found => ⟨publication, (outlines key).trans found⟩
  receipts := fun _ _ found => receipts ▸ found

theorem IsRecord.extends {record : AcceptedRecord} (isRecord : IsRecord db record)
    (extended : db.Extends next) : IsRecord next record := by
  obtain ⟨source, publication, outlined, joined⟩ := isRecord
  obtain ⟨later, found⟩ := extended.outlines _ _ _ outlined
  obtain ⟨receipt, stored, rfl⟩ := Option.map_eq_some_iff.mp joined
  exact ⟨source, later, found,
    Option.map_eq_some_iff.mpr ⟨receipt, extended.receipts _ _ stored, rfl⟩⟩

theorem markEvidenceEventPublished_extends {clock : Instant} {p : PublishConfirmation}
    (succeeded : markEvidenceEventPublished clock p db = .ok next) : db.Extends next := by
  obtain ⟨receipts, source, before, after⟩ := markEvidenceEventPublished_cases succeeded
  constructor
  · intro key other publication found
    rw [after]
    split
    · rename_i same
      rw [same, found] at before
      obtain ⟨rfl, _⟩ := Prod.mk.inj (Option.some.inj before)
      exact ⟨_, rfl⟩
    · exact ⟨publication, found⟩
  · intro key receipt found
    rw [receipts]
    exact found

theorem enqueueAcceptedEvidence_extends {receipt : IngestionReceipt} {ids : DrawnIds}
    (succeeded : enqueueAcceptedEvidence receipt ids db = .ok next) : db.Extends next := by
  obtain ⟨inserted, source, fresh, after⟩ := enqueueAcceptedEvidence_cases succeeded
  constructor
  · intro key other publication found
    rw [after, if_neg]
    · exact ⟨publication, found⟩
    · intro same
      rw [same, found] at fresh
      simp at fresh
  · intro key old found
    exact Table.get?_of_insertNew inserted found

end Sources

/-! The invariant of the workers. -/

section Invariant

/-- The message was signed from the record of the row that its ID names. -/
def FromRecord (digests : EventDigests) (db : OutboxDatabase)
    (message : StreamMessage EventId SignedEvidenceEvent) : Prop :=
  ∃ signer record, IsRecord db record ∧
    signEvidenceAcceptedEvent digests signer record = .ok message.payload ∧
    record.eventId = message.id

/-- The worker has signed its own record, and the stream answered with the stored message. -/
structure Acknowledged (digests : EventDigests) (stream : EventStream) (call : PublishCall)
    (event : SignedEvidenceEvent) (acknowledgement : PublishAck) : Prop where
  signed : signEvidenceAcceptedEvent digests call.signer call.claim = .ok event
  stored : ∃ message, stream.find? call.claim.eventId = some message ∧
    message.sequence = acknowledgement.sequence ∧
    (acknowledgement.duplicate = false → message.payload = event)

structure CallInvariant (digests : EventDigests) (db : OutboxDatabase) (stream : EventStream)
    (call : PublishCall) : Prop where
  claimed : IsRecord db call.claim
  acknowledged : ∀ event acknowledgement, call.phase = .acknowledged event acknowledgement →
    Acknowledged digests stream call event acknowledgement

/-- The stream stores, under the ID of a row, the message that its publication describes. -/
def Confirms (digests : EventDigests) (stream : EventStream) (key : TenantId × EventId)
    (publication : EvidencePublication) : Prop :=
  ∃ message, stream.find? key.2 = some message ∧ message.payload.unsigned.tenantId = key.1 ∧
    message.sequence = publication.streamSequence ∧
    digests.payload message.payload = publication.signedEventSha256

structure PublisherInvariant (digests : EventDigests) (system : PublisherSystem) : Prop where
  messages : ∀ id message, system.stream.find? id = some message →
    FromRecord digests system.db message
  calls : ∀ callId call, system.calls.get? callId = some call →
    CallInvariant digests system.db system.stream call
  published : ∀ key source publication,
    system.db.outline? key = some (source, some publication) →
    Confirms digests system.stream key publication

theorem PublisherInvariant.initial : PublisherInvariant digests PublisherSystem.empty where
  messages := fun id message found => by
    simp [PublisherSystem.empty, MessageStream.empty, MessageStream.find?] at found
  calls := fun callId call found => by
    simp [PublisherSystem.empty, Table.empty, Table.get?] at found
  published := fun key source publication found => by
    simp [PublisherSystem.empty, OutboxDatabase.empty, OutboxDatabase.outline?, Table.empty,
      Table.get?] at found

variable {system : PublisherSystem}

/-- A change of the database that extends it and confirms what it publishes. -/
theorem PublisherInvariant.withDatabase (invariant : PublisherInvariant digests system)
    {db : OutboxDatabase} (extended : system.db.Extends db)
    (published : ∀ key source publication, db.outline? key = some (source, some publication) →
      Confirms digests system.stream key publication) :
    PublisherInvariant digests { system with db := db } where
  messages := fun id message found => by
    obtain ⟨signer, record, isRecord, rest⟩ := invariant.messages id message found
    exact ⟨signer, record, isRecord.extends extended, rest⟩
  calls := fun callId call found => by
    have before := invariant.calls callId call found
    exact ⟨before.claimed.extends extended, before.acknowledged⟩
  published := published

/-- A change of the database that publishes nothing. -/
theorem PublisherInvariant.withSameOutlines (invariant : PublisherInvariant digests system)
    {db : OutboxDatabase} (receipts : db.receipts = system.db.receipts)
    (outlines : ∀ key, db.outline? key = system.db.outline? key) :
    PublisherInvariant digests { system with db := db } :=
  invariant.withDatabase (OutboxDatabase.extends_of_same receipts outlines)
    fun key source publication found =>
      invariant.published key source publication ((outlines key).symm.trans found)

theorem PublisherInvariant.withCall (invariant : PublisherInvariant digests system)
    {call : PublishCall} (kept : CallInvariant digests system.db system.stream call) :
    PublisherInvariant digests { system with calls := system.calls.upsert call } where
  messages := invariant.messages
  calls := fun callId other found => by
    dsimp only at found
    rw [Table.get?_upsert] at found
    split at found
    · obtain rfl := Option.some.inj found
      exact kept
    · exact invariant.calls callId other found
  published := invariant.published

theorem PublisherInvariant.withoutCall (invariant : PublisherInvariant digests system)
    (callId : Nat) :
    PublisherInvariant digests { system with calls := system.calls.delete callId } where
  messages := invariant.messages
  calls := fun other call found => by
    dsimp only at found
    rw [Table.get?_delete] at found
    split at found
    · simp at found
    · exact invariant.calls other call found
  published := invariant.published

/-- Every message that is stored stays, so an extension of the stream breaks nothing. -/
theorem PublisherInvariant.withStream (invariant : PublisherInvariant digests system)
    {stream : EventStream}
    (kept : ∀ id message, system.stream.find? id = some message →
      stream.find? id = some message)
    (messages : ∀ id message, stream.find? id = some message →
      FromRecord digests system.db message) :
    PublisherInvariant digests { system with stream := stream } where
  messages := messages
  calls := fun callId call found => by
    have before := invariant.calls callId call found
    refine ⟨before.claimed, fun event acknowledgement phase => ?_⟩
    obtain ⟨signed, message, stored, rest⟩ := before.acknowledged event acknowledgement phase
    exact ⟨signed, message, kept _ _ stored, rest⟩
  published := fun key source publication found => by
    obtain ⟨message, stored, rest⟩ := invariant.published key source publication found
    exact ⟨message, kept _ _ stored, rest⟩

theorem PublisherInvariant.publish (invariant : PublisherInvariant digests system)
    {signer : EvidenceSigner} {record : AcceptedRecord} {event : SignedEvidenceEvent}
    (isRecord : IsRecord system.db record)
    (signed : signEvidenceAcceptedEvent digests signer record = .ok event) :
    PublisherInvariant digests
      { system with stream := (system.stream.publish event.unsigned.eventId event).1 } := by
  obtain ⟨built, _⟩ := signEvidenceAcceptedEvent_cases signed
  obtain ⟨_, eventId, _⟩ := buildUnsignedEvidenceAcceptedEvent_fields built
  refine invariant.withStream (fun id message found =>
    MessageStream.find?_publish_of_found found) fun id message found => ?_
  rw [MessageStream.find?_publish] at found
  split at found
  · cases stored : system.stream.find? event.unsigned.eventId with
    | some old =>
        rw [stored, Option.getD_some] at found
        exact invariant.messages _ message (stored.trans found)
    | none =>
        rw [stored, Option.getD_none] at found
        obtain rfl := Option.some.inj found
        exact ⟨signer, record, isRecord, signed, eventId.symm⟩
  · exact invariant.messages id message found

/-- A phase that is not an acknowledgement. -/
theorem CallInvariant.withPhase {db : OutboxDatabase} {stream : EventStream} {call : PublishCall}
    {phase : PublishPhase} (claimed : IsRecord db call.claim)
    (silent : ∀ event acknowledgement, phase ≠ .acknowledged event acknowledgement) :
    CallInvariant digests db stream { call with phase := phase } :=
  ⟨claimed, fun event acknowledgement same => absurd same (silent event acknowledgement)⟩

theorem PublisherInvariant.failing (invariant : PublisherInvariant digests system)
    {call : PublishCall} (claimed : IsRecord system.db call.claim) (failureCode : String) :
    PublisherInvariant digests (system.update call (.failing failureCode)) :=
  invariant.withCall (CallInvariant.withPhase claimed (by simp))

/-! One lemma for each step of a worker. -/

theorem PublisherInvariant.send (invariant : PublisherInvariant digests system)
    {call : PublishCall} (claimed : IsRecord system.db call.claim) (outcome : PublishOutcome) :
    PublisherInvariant digests (system.send digests call outcome) := by
  unfold PublisherSystem.send
  cases signed : signEvidenceAcceptedEvent digests call.signer call.claim with
  | error failure => exact invariant.failing claimed _
  | ok event =>
      obtain ⟨built, _⟩ := signEvidenceAcceptedEvent_cases signed
      obtain ⟨_, eventId, _⟩ := buildUnsignedEvidenceAcceptedEvent_fields built
      have stored := invariant.publish claimed signed
      dsimp only
      split
      · exact invariant.failing claimed _
      · cases outcome with
        | raised reached =>
            cases reached with
            | false => exact invariant.failing claimed _
            | true => exact stored.failing claimed _
        | answered streamName =>
            dsimp only
            split
            · refine stored.withCall ⟨claimed, fun other acknowledgement same => ?_⟩
              obtain ⟨rfl, rfl⟩ := PublishPhase.acknowledged.inj same
              refine ⟨signed, ?_⟩
              dsimp only
              rw [← eventId]
              exact MessageStream.publish_acknowledges
            · exact stored.failing claimed _

/-- The confirmation of a worker whose condition is met. -/
theorem PublisherInvariant.confirm (invariant : PublisherInvariant digests system)
    {call : PublishCall} {event : SignedEvidenceEvent} {acknowledgement : PublishAck}
    (kept : CallInvariant digests system.db system.stream call)
    (acknowledged : Acknowledged digests system.stream call event acknowledgement)
    (same : acknowledgement.duplicate = true → ∀ message,
      system.stream.find? call.claim.eventId = some message →
      message.payload.unsigned.tenantId = call.claim.tenantId ∧
      message.payload.unsigned.producer = call.signer.producer ∧
      message.payload.sourceAuthentication.keyId = call.signer.keyId ∧
      message.payload.sourceAuthentication.signature = call.signer.sign message.payload.unsigned)
    (clock publishedAt : Instant) (answered : Bool) :
    PublisherInvariant digests
      (system.confirm digests call event acknowledgement clock publishedAt answered) := by
  obtain ⟨signed, message, stored, sequence, first⟩ := acknowledged
  obtain ⟨built, _⟩ := signEvidenceAcceptedEvent_cases signed
  obtain ⟨tenantId, eventId, _⟩ := buildUnsignedEvidenceAcceptedEvent_fields built
  -- the stored message is the worker's own, whoever has published it
  have own : message.payload = event := by
    cases repeated : acknowledgement.duplicate with
    | false => exact first repeated
    | true =>
        obtain ⟨signer, record, isRecord, signedBefore, which⟩ :=
          invariant.messages _ message stored
        obtain ⟨builtBefore, _⟩ := signEvidenceAcceptedEvent_cases signedBefore
        obtain ⟨tenantBefore, _⟩ := buildUnsignedEvidenceAcceptedEvent_fields builtBefore
        obtain ⟨tenant, producer, keyId, signature⟩ := same repeated message stored
        have records : record = call.claim :=
          isRecord.unique kept.claimed (tenantBefore.symm.trans tenant)
            (which.trans (MessageStream.find?_id stored))
        rw [records] at signedBefore
        exact signEvidenceAcceptedEvent_same signedBefore signed producer keyId signature
  unfold PublisherSystem.confirm
  cases marked : markEvidenceEventPublished clock
      (PublisherSystem.confirmation digests call event acknowledgement publishedAt) system.db with
  | error failure => exact invariant.failing kept.claimed _
  | ok db =>
      have extended := markEvidenceEventPublished_extends marked
      obtain ⟨_, source, _, after⟩ := markEvidenceEventPublished_cases marked
      have confirmed : PublisherInvariant digests { system with db := db } := by
        refine invariant.withDatabase extended fun key other publication found => ?_
        rw [after] at found
        split at found
        · rename_i which
          obtain ⟨_, published⟩ := Prod.mk.inj (Option.some.inj found)
          obtain rfl := Option.some.inj published
          rw [← which]
          dsimp only [PublisherSystem.confirmation]
          exact ⟨message, by rw [eventId]; exact stored, by rw [own], sequence, by rw [own]⟩
        · exact invariant.published key other publication found
      dsimp only
      split
      · exact confirmed.withoutCall call.callId
      · exact confirmed.failing (kept.claimed.extends extended) _

theorem PublisherInvariant.recordFailure (invariant : PublisherInvariant digests system)
    (call : PublishCall) (failureCode : String) (clock failedAt : Instant) :
    PublisherInvariant digests (system.recordFailure call failureCode clock failedAt) := by
  unfold PublisherSystem.recordFailure
  cases marked : markEvidenceEventPublishFailed clock ⟨call.claim.tenantId, call.claim.eventId,
      call.claimToken, failureCode, failedAt, 5⟩ system.db with
  | error failure => exact invariant.withoutCall call.callId
  | ok db =>
      obtain ⟨receipts, outlines⟩ := markEvidenceEventPublishFailed_cases marked
      exact (invariant.withSameOutlines receipts outlines).withoutCall call.callId

end Invariant

theorem PublisherInvariant.step {system next : PublisherSystem} {op : PublisherOp} {reply : Unit}
    (invariant : PublisherInvariant digests system) (sameSigner : SameSigner system op)
    (succeeded : applyPublisher digests op system = .ok (next, reply)) :
    PublisherInvariant digests next := by
  cases op with
  | accept receipt ids =>
      simp only [applyPublisher, Checked.bind_eq_ok, Checked.pure_eq_ok, Prod.mk.injEq,
        and_true] at succeeded
      obtain ⟨db, enqueued, rfl⟩ := succeeded
      obtain ⟨_, source, _, after⟩ := enqueueAcceptedEvidence_cases enqueued
      refine invariant.withDatabase (enqueueAcceptedEvidence_extends enqueued)
        fun key other publication found => ?_
      rw [after] at found
      split at found
      · simp at found
      · exact invariant.published key other publication found
  | store tenantId eventId =>
      simp only [applyPublisher, Except.ok.injEq, Prod.mk.injEq, and_true] at succeeded
      obtain rfl := succeeded
      exact invariant.withSameOutlines rfl fun _ => rfl
  | publishOther count =>
      simp only [applyPublisher, Except.ok.injEq, Prod.mk.injEq, and_true] at succeeded
      obtain rfl := succeeded
      exact invariant.withStream (fun _ _ found => found) invariant.messages
  | claim callId contextTenantId signer clock locked call =>
      simp only [applyPublisher, Checked.bind_eq_ok] at succeeded
      obtain ⟨⟨db, record⟩, claimed, succeeded⟩ := succeeded
      obtain ⟨receipts, outlines, returned⟩ := claimEvidenceEventOutbox_cases claimed
      have kept := invariant.withSameOutlines receipts outlines
      cases record with
      | none =>
          simp only [Checked.pure_eq_ok, Prod.mk.injEq, and_true] at succeeded
          obtain rfl := succeeded
          exact kept
      | some record =>
          simp only [Checked.pure_eq_ok, Prod.mk.injEq, and_true] at succeeded
          obtain rfl := succeeded
          refine kept.withCall ⟨?_, fun _ _ phase => by simp at phase⟩
          obtain ⟨key, source, outlined, joined⟩ := returned record rfl
          have isRecord : IsRecord system.db record := by
            obtain ⟨tenantId, eventId, _⟩ := OutboxDatabase.record?_fields joined
            refine ⟨source, none, ?_, joined⟩
            rw [tenantId, eventId, ← OutboxDatabase.outline?_key outlined]
            exact outlined
          exact isRecord.extends (OutboxDatabase.extends_of_same receipts outlines)
  | send callId outcome =>
      simp only [applyPublisher] at succeeded
      split at succeeded
      · rename_i call found
        split at succeeded
        · simp only [Except.ok.injEq, Prod.mk.injEq, and_true] at succeeded
          obtain rfl := succeeded
          exact invariant.send (invariant.calls callId call found).claimed outcome
        all_goals
          simp only [Except.ok.injEq, Prod.mk.injEq, and_true] at succeeded
          exact succeeded ▸ invariant
      · simp only [Except.ok.injEq, Prod.mk.injEq, and_true] at succeeded
        exact succeeded ▸ invariant
  | confirm callId clock publishedAt answered =>
      simp only [applyPublisher] at succeeded
      split at succeeded
      · rename_i call found
        split at succeeded
        · rename_i event acknowledgement phase
          simp only [Except.ok.injEq, Prod.mk.injEq, and_true] at succeeded
          obtain rfl := succeeded
          have kept := invariant.calls callId call found
          refine invariant.confirm kept (kept.acknowledged event acknowledgement phase) ?_
            clock publishedAt answered
          exact sameSigner call found event acknowledgement phase
        all_goals
          simp only [Except.ok.injEq, Prod.mk.injEq, and_true] at succeeded
          exact succeeded ▸ invariant
      · simp only [Except.ok.injEq, Prod.mk.injEq, and_true] at succeeded
        exact succeeded ▸ invariant
  | recordFailure callId clock failedAt =>
      simp only [applyPublisher] at succeeded
      split at succeeded
      · rename_i call found
        split at succeeded
        · simp only [Except.ok.injEq, Prod.mk.injEq, and_true] at succeeded
          obtain rfl := succeeded
          exact invariant.recordFailure call _ clock failedAt
        all_goals
          simp only [Except.ok.injEq, Prod.mk.injEq, and_true] at succeeded
          exact succeeded ▸ invariant
      · simp only [Except.ok.injEq, Prod.mk.injEq, and_true] at succeeded
        exact succeeded ▸ invariant

/-- Consumers accept the message that confirms a row. -/
theorem PublisherInvariant.authoritative {system : PublisherSystem}
    (invariant : PublisherInvariant digests system) {entry : EvidenceOutboxEntry}
    (present : system.db.outbox.get? entry.key = some entry)
    {publication : EvidencePublication} {publishedAt : Instant}
    (status : entry.status = .published publication publishedAt) {message :
      StreamMessage EventId SignedEvidenceEvent}
    (stored : system.stream.find? entry.source.deliveryEventId = some message)
    (tenant : message.payload.unsigned.tenantId = entry.source.tenantId)
    (sequence : message.sequence = publication.streamSequence)
    (digest : digests.payload message.payload = publication.signedEventSha256)
    (consumerName : String) (componentScore : ℚ) (processedAt : Instant) :
    (authoritativeDelivery? (deliveredCall digests consumerName componentScore processedAt message)
      system.db.consumed).isSome = true := by
  obtain ⟨signer, record, ⟨source, published, outlined, joined⟩, signed, which⟩ :=
    invariant.messages _ message stored
  obtain ⟨built, _⟩ := signEvidenceAcceptedEvent_cases signed
  obtain ⟨tenantId, eventId, aggregateId, _⟩ := buildUnsignedEvidenceAcceptedEvent_fields built
  have identifier : record.eventId = entry.source.deliveryEventId :=
    which.trans (MessageStream.find?_id stored)
  have found : system.db.outline? entry.key = some entry.outline := by
    rw [OutboxDatabase.outline?, present]
    rfl
  have source_eq : source = entry.source := by
    rw [← tenantId, tenant, identifier] at outlined
    exact congrArg Prod.fst (Option.some.inj (outlined.symm.trans found))
  obtain ⟨_, _, evidenceId⟩ := OutboxDatabase.record?_fields joined
  rw [source_eq] at joined evidenceId
  obtain ⟨receipt, received, _⟩ := Option.map_eq_some_iff.mp joined
  have row : system.db.consumed.outbox.get? (entry.source.tenantId, entry.source.deliveryEventId) =
      some entry.consumed :=
    (system.db.consumed_outbox _).trans (congrArg (Option.map _) present)
  have joinedReceipt : system.db.consumed.receipts.get?
      (entry.source.tenantId, entry.source.sourceEventId) = some receipt.consumed :=
    (system.db.consumed_receipts _).trans (congrArg (Option.map _) received)
  have key : entry.consumed.sourceEventId = entry.source.sourceEventId := rfl
  simp only [authoritativeDelivery?, TrustDatabase.delivery?, deliveredCall, tenant, eventId,
    identifier, row, Option.bind_eq_bind, Option.bind_some, key, joinedReceipt]
  simp [publishedDelivery, EvidenceOutboxEntry.consumed, status, ConsumptionCall.names, aggregateId,
    evidenceId, sequence, digest]

/-- In every run in which each repeated publication is confirmed by a worker configured like the
one whose message is stored, a published row names the stored message, and consumers accept the
delivery of that message. -/
theorem published_rows_match_stream (digests : EventDigests) (ops : List PublisherOp)
    (sameSigner : Transaction.Guarded (applyPublisher digests) SameSigner PublisherSystem.empty ops)
    (entry : EvidenceOutboxEntry)
    (present : entry ∈ (runPublisher digests PublisherSystem.empty ops).db.outbox)
    (publication : EvidencePublication) (publishedAt : Instant)
    (status : entry.status = .published publication publishedAt) :
    ∃ message,
      (runPublisher digests PublisherSystem.empty ops).stream.find? entry.source.deliveryEventId =
        some message ∧
      publication.streamSequence = message.sequence ∧
      publication.signedEventSha256 = digests.payload message.payload ∧
      ∀ consumerName componentScore processedAt,
        (authoritativeDelivery?
          (deliveredCall digests consumerName componentScore processedAt message)
          (runPublisher digests PublisherSystem.empty ops).db.consumed).isSome = true := by
  have invariant : PublisherInvariant digests (runPublisher digests PublisherSystem.empty ops) :=
    Transaction.run_preserves_guarded (PublisherInvariant digests)
      (fun _ _ _ _ held guard succeeded => held.step guard succeeded)
      PublisherSystem.empty ops sameSigner PublisherInvariant.initial
  have stored := Table.get?_of_mem present
  have outlined : (runPublisher digests PublisherSystem.empty ops).db.outline? entry.key =
      some (entry.source, some publication) := by
    rw [OutboxDatabase.outline?, stored]
    simp [EvidenceOutboxEntry.outline, status, EvidenceEventDeliveryState.publication?]
  obtain ⟨message, found, tenant, sequence, digest⟩ := invariant.published _ _ _ outlined
  exact ⟨message, found, sequence.symm, digest.symm,
    invariant.authoritative stored status found tenant sequence digest⟩

namespace PublicationScenario

/-- Payloads of producers with instance IDs of different lengths have different digests. -/
def hashes : EventDigests where
  content := fun _ => ⟨0⟩
  payload := fun event => ⟨event.unsigned.producer.instanceId.length⟩

def signer (instanceId : String) : EvidenceSigner where
  producer := ⟨"evidence-service", instanceId⟩
  keyId := "evidence-key-1"
  sign := fun _ => List.replicate 64 0
  validateEvent := fun _ => true

def receipt : IngestionReceipt where
  tenantId := ⟨1⟩
  eventId := ⟨2⟩
  subjectId := ⟨3⟩
  sourceId := ⟨4⟩
  keyId := ⟨5⟩
  evidenceType := .device
  sourceSequence := 0
  nonceSha256 := ⟨6⟩
  contentHashSha256 := ⟨7⟩
  synthetic := false
  observedAt := interval 1
  expiresAt := interval 60
  acceptedAt := interval 1
  maximumSourceInfluence := FloodScenario.influence

/-- The first worker loses the answer to its publication, and a second one takes over. -/
def handOver (first second : String) : List PublisherOp := [
  .accept receipt TravelScenario.ids,
  .store ⟨1⟩ ⟨2⟩,
  .claim 0 ⟨1⟩ (signer first) (interval 1) [] ⟨⟨1⟩, "worker-a", ⟨10⟩, interval 1⟩,
  .send 0 (.raised true),
  .recordFailure 0 (interval 1) (interval 1),
  .claim 1 ⟨1⟩ (signer second) (interval 6) [] ⟨⟨1⟩, "worker-b", ⟨11⟩, interval 6⟩,
  .send 1 (.answered EVENT_STREAM),
  .confirm 1 (interval 6) (interval 6) true]

def after (first second : String) : PublisherSystem :=
  runPublisher hashes PublisherSystem.empty (handOver first second)

def status (system : PublisherSystem) : Option EvidenceEventDeliveryState :=
  system.db.outbox.rows.head?.map EvidenceOutboxEntry.status

def storedDigest (system : PublisherSystem) : Option Sha256Digest :=
  (system.stream.find? TravelScenario.ids.deliveryEventId).map fun message =>
    hashes.payload message.payload

end PublicationScenario

/-- A worker of another instance confirms its own digest for the message of the first one. -/
theorem hand_over_confirms_another_payload :
    ¬ ∀ (digests : EventDigests) (ops : List PublisherOp) (entry : EvidenceOutboxEntry),
      entry ∈ (runPublisher digests PublisherSystem.empty ops).db.outbox →
      ∀ publication publishedAt, entry.status = .published publication publishedAt →
      ∃ message, (runPublisher digests PublisherSystem.empty ops).stream.find?
          entry.source.deliveryEventId = some message ∧
        publication.streamSequence = message.sequence ∧
        publication.signedEventSha256 = digests.payload message.payload ∧
        ∀ consumerName componentScore processedAt,
          (authoritativeDelivery?
            (deliveredCall digests consumerName componentScore processedAt message)
            (runPublisher digests PublisherSystem.empty ops).db.consumed).isSome = true := by
  intro claim
  have published : PublicationScenario.status (PublicationScenario.after "a" "bb") =
      some (.published ⟨1, ⟨2⟩⟩ (interval 6)) := by
    decide +kernel
  have which : (PublicationScenario.after "a" "bb").db.outbox.rows.head?.map
      (fun entry => entry.source.deliveryEventId) = some TravelScenario.ids.deliveryEventId := by
    decide +kernel
  have stored : PublicationScenario.storedDigest (PublicationScenario.after "a" "bb") =
      some ⟨1⟩ := by
    decide +kernel
  obtain ⟨entry, head, status⟩ := Option.map_eq_some_iff.mp published
  obtain ⟨message, found, _, digest, _⟩ := claim PublicationScenario.hashes
    (PublicationScenario.handOver "a" "bb") entry (List.mem_of_head? head) _ _ status
  rw [head] at which
  have id : entry.source.deliveryEventId = TravelScenario.ids.deliveryEventId :=
    Option.some.inj which
  rw [id] at found
  rw [PublicationScenario.storedDigest, PublicationScenario.after, found, Option.map_some,
    ← digest] at stored
  simp at stored

/-- The same hand-over between two workers of one configuration. -/
theorem published_rows_match_stream_retried :
    PublicationScenario.status (PublicationScenario.after "a" "a") =
        some (.published ⟨1, ⟨1⟩⟩ (interval 6)) ∧
      ∀ entry ∈ (PublicationScenario.after "a" "a").db.outbox, ∀ publication publishedAt,
        entry.status = .published publication publishedAt →
        ∃ message, (PublicationScenario.after "a" "a").stream.find?
            entry.source.deliveryEventId = some message ∧
          publication.streamSequence = message.sequence ∧
          publication.signedEventSha256 = PublicationScenario.hashes.payload message.payload := by
  have sameSigner : Transaction.Guarded (applyPublisher PublicationScenario.hashes) SameSigner
      PublisherSystem.empty (PublicationScenario.handOver "a" "a") := by
    decide +kernel
  refine ⟨by decide +kernel, fun entry present publication publishedAt status => ?_⟩
  obtain ⟨message, found, sequence, digest, _⟩ := published_rows_match_stream
    PublicationScenario.hashes (PublicationScenario.handOver "a" "a") sameSigner entry present
    publication publishedAt status
  exact ⟨message, found, sequence, digest⟩

end TenantTrust.Trust
