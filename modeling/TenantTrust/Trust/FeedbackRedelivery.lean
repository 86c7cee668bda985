import TenantTrust.Trust.CertificateFeedback

/-! Redeliveries of a published event among completions of the actions that may have caused it. -/

namespace TenantTrust.Trust

open Library Identity Orchestration

/-- One system at two times: nothing that a delivery reads is taken back. -/
structure FeedbackSystem.Extends (before after : FeedbackSystem) : Prop where
  events : before.database.inventory.Appends after.database.inventory
  published : ∀ key row, before.published.get? key = some row →
    after.published.get? key = some row
  evidence : ∀ key row, before.evidence.get? key = some row → after.evidence.get? key = some row
  successes : ∀ action ∈ before.database.actions, action.execution.status = .succeeded →
    action ∈ after.database.actions

theorem FeedbackSystem.Extends.refl (system : FeedbackSystem) : system.Extends system where
  events := .refl _
  published _ _ found := found
  evidence _ _ found := found
  successes _ member _ := member

theorem FeedbackSystem.Extends.trans {first second third : FeedbackSystem}
    (earlier : first.Extends second) (later : second.Extends third) : first.Extends third where
  events := earlier.events.trans later.events
  published key row found := later.published key row (earlier.published key row found)
  evidence key row found := later.evidence key row (earlier.evidence key row found)
  successes action member done :=
    later.successes action (earlier.successes action member done) done

structure FeedbackInvariant (system : FeedbackSystem) : Prop where
  shaped : ∀ event ∈ system.database.inventory.events, event.Shaped
  unique : UniqueResults system.database.actions
  effects : ∀ key, system.trustEffects.count key =
    if (system.evidence.get? key).isSome then 1 else 0

theorem feedbackInvariant_fresh {system : FeedbackSystem} (fresh : system.Fresh) :
    FeedbackInvariant system where
  shaped event member := by
    rw [fresh.events] at member
    exact absurd member (Table.not_mem_empty event)
  unique := uniqueResults_run fresh.database []
  effects key := by
    rw [fresh.trustEffects, fresh.evidence]
    rfl

/-- What one operation does: a queue operation, a publication, or a recorded delivery. -/
inductive FeedbackStep (before : FeedbackSystem) : FeedbackSystem → Prop where
  | queue {op : QueueOp} {database : Database} {reply : QueueReply}
      (applied : applyQueue op before.database = .ok (database, reply)) :
      FeedbackStep before { before with database := database }
  | publish {row : PublishedCertificateEvent}
      {published : Table PublishedCertificateEvent PublishedCertificateEvent.key}
      (inserted : before.published.insertNew row = some published) :
      FeedbackStep before { before with published := published }
  | record {row : CertificateEvidence}
      {evidence : Table CertificateEvidence CertificateEvidence.key}
      (inserted : before.evidence.insertNew row = some evidence) :
      FeedbackStep before { before with
        evidence := evidence, trustEffects := before.trustEffects ++ [row.key] }
  | repeat : FeedbackStep before before

theorem authoritativeEvent?_spec {p : FeedbackDelivery} {system : FeedbackSystem}
    {event : LifecycleEvent} (found : authoritativeEvent? p system = some event) :
    (∃ row, system.published.get? p.key = some row ∧ p.confirms row) ∧
      system.database.inventory.events.get? p.lifecycleEventId = some event ∧
      (event.tenantId, event.eventId) = p.key := by
  unfold authoritativeEvent? at found
  split at found
  · rename_i row published
    rw [Option.filter_eq_some_iff] at published found
    have eventId : event.eventId = p.lifecycleEventId := Table.get?_key found.1
    have tenantId : event.tenantId = p.tenantId := by simpa using found.2
    exact ⟨⟨row, published⟩, found.1, by rw [eventId, tenantId]; rfl⟩
  · simp at found

theorem row_key {p : FeedbackDelivery} {system : FeedbackSystem} {event : LifecycleEvent}
    (found : authoritativeEvent? p system = some event) (clock : Timestamp)
    (source : Option ActionId) : (p.row clock event source).key = p.key :=
  (authoritativeEvent?_spec found).2.2

theorem applyFeedback_step {op : FeedbackOp} {before after : FeedbackSystem}
    {reply : FeedbackReply} (succeeds : applyFeedback op before = .ok (after, reply)) :
    FeedbackStep before after := by
  cases op with
  | queue op =>
      simp only [applyFeedback] at succeeds
      split at succeeds
      · simp at succeeds
      · rename_i database queueReply applied
        simp only [Except.ok.injEq, Prod.mk.injEq] at succeeds
        rw [← succeeds.1]
        exact .queue applied
  | publish clock row =>
      simp only [applyFeedback] at succeeds
      split at succeeds
      · simp at succeeds
      · rename_i next called
        simp only [markCertificateEventPublished, Checked.bind_eq_ok, Checked.require_eq_ok,
          Checked.requireSome_eq_ok, Checked.pure_eq_ok, exists_const] at called
        rcases called with ⟨_, event, _, published, inserted, _, rfl⟩
        simp only [Except.ok.injEq, Prod.mk.injEq] at succeeds
        rw [← succeeds.1]
        exact .publish inserted
  | deliver clock p effectAccepted =>
      simp only [applyFeedback, consumeFeedback] at succeeds
      cases called : recordCertificateLifecycleEvidence clock p before with
      | error failure => simp [called] at succeeds
      | ok recorded =>
          rcases recorded with ⟨next, outcome, row⟩
          rw [called] at succeeds
          simp only [recordCertificateLifecycleEvidence, Checked.bind_eq_ok,
            Checked.require_eq_ok, Checked.requireSome_eq_ok, exists_const] at called
          rcases called with ⟨_, event, found, _, called⟩
          split at called
          · simp only [Checked.bind_eq_ok, Checked.requireSome_eq_ok, Checked.pure_eq_ok,
              Prod.mk.injEq] at called
            rcases called with ⟨evidence, inserted, rfl, rfl, rfl⟩
            cases effectAccepted with
            | false => simp at succeeds
            | true =>
                simp only [if_true, Except.ok.injEq, Prod.mk.injEq] at succeeds
                rw [← succeeds.1, ← row_key found clock (sourceAction? event before.database)]
                exact .record inserted
          · simp only [Checked.bind_eq_ok, Checked.require_eq_ok, Checked.pure_eq_ok,
              exists_const, Prod.mk.injEq] at called
            rcases called with ⟨_, rfl, rfl, _⟩
            simp only [Except.ok.injEq, Prod.mk.injEq] at succeeds
            rw [← succeeds.1]
            exact .repeat

theorem FeedbackStep.extends {before after : FeedbackSystem} (step : FeedbackStep before after) :
    before.Extends after := by
  cases step with
  | queue applied =>
      rename_i op database reply
      have committed : runQueue before.database [op] = database := Transaction.commit_ok applied
      exact {
        events := (applyQueue_grows applied).events
        published := fun _ _ found => found
        evidence := fun _ _ found => found
        successes := fun action member done =>
          committed ▸ succeeded_persists before.database [op] member done }
  | publish inserted =>
      exact { FeedbackSystem.Extends.refl before with
        published := fun _ _ found => Table.get?_of_insertNew inserted found }
  | record inserted =>
      exact { FeedbackSystem.Extends.refl before with
        evidence := fun _ _ found => Table.get?_of_insertNew inserted found }
  | «repeat» => exact .refl before

theorem FeedbackStep.invariant {before after : FeedbackSystem} (step : FeedbackStep before after)
    (holds : FeedbackInvariant before) : FeedbackInvariant after := by
  cases step with
  | queue applied =>
      refine ⟨?_, applyQueue_uniqueResults holds.unique applied, holds.effects⟩
      intro event member
      rcases (applyQueue_grows applied).events.origin event member with old | shaped
      · exact holds.shaped event old
      · exact shaped
  | publish inserted => exact ⟨holds.shaped, holds.unique, holds.effects⟩
  | record inserted =>
      rename_i row evidence
      refine ⟨holds.shaped, holds.unique, fun key => ?_⟩
      rw [List.count_append, holds.effects, Table.get?_insertNew inserted, List.count_singleton]
      by_cases same : row.key = key
      · have free : before.evidence.get? key = none := by
          rw [Table.get?_eq_none]
          exact same ▸ Table.insertNew_fresh inserted
        simp [same, free]
      · simp [same]
  | «repeat» => exact holds

theorem runFeedback_extends (system : FeedbackSystem) (ops : List FeedbackOp) :
    system.Extends (runFeedback system ops) := by
  have step : ∀ state op next reply, system.Extends state →
      applyFeedback op state = .ok (next, reply) → system.Extends next :=
    fun _ _ _ _ earlier succeeds => earlier.trans (applyFeedback_step succeeds).extends
  exact Transaction.run_preserves step system ops (.refl system)

theorem runFeedback_invariant {start : FeedbackSystem} (fresh : start.Fresh)
    (ops : List FeedbackOp) : FeedbackInvariant (runFeedback start ops) := by
  have step : ∀ state op next reply, FeedbackInvariant state →
      applyFeedback op state = .ok (next, reply) → FeedbackInvariant next :=
    fun _ _ _ _ holds succeeds => (applyFeedback_step succeeds).invariant holds
  exact Transaction.run_preserves step start ops (feedbackInvariant_fresh fresh)

/-- A valid request that names the published row of the event. -/
structure Delivers (system : FeedbackSystem) (clock : Timestamp) (p : FeedbackDelivery)
    (event : LifecycleEvent) : Prop where
  consumer : isWorkerId p.consumerName
  sequence : 1 ≤ p.streamSequence
  processed : p.processedAt ≤ clock + seconds 2
  published : authoritativeEvent? p system = some event

/-- Of all the checks of a row only the order of its times depends on the delivery. -/
theorem evidenceChecks_iff {system : FeedbackSystem} {clock : Timestamp} {p : FeedbackDelivery}
    {event : LifecycleEvent} (holds : FeedbackInvariant system)
    (delivers : Delivers system clock p event) :
    evidenceChecks (p.row clock event (sourceAction? event system.database)) ↔
      event.occurredAt ≤ p.processedAt := by
  have found := (authoritativeEvent?_spec delivers.published).2.1
  have shaped := holds.shaped event (Table.get?_mem found)
  have consumer := delivers.consumer
  have sequence := delivers.sequence
  have processed := delivers.processed
  have source : sourceAction? event system.database = none ∨ event.eventType = .revoked := by
    unfold sourceAction?
    split
    · rename_i revoked
      exact Or.inr revoked
    · exact Or.inl rfl
  have score : 0 ≤ (feedbackEffect event.eventType).score ∧
      (feedbackEffect event.eventType).score ≤ 100 := by
    cases event.eventType <;> decide
  simp only [evidenceChecks, FeedbackDelivery.row, Bool.and_eq_true, decide_eq_true_eq,
    Bool.or_eq_true, Bool.not_false, shaped.state, shaped.cause, consumer, processed, source,
    score, true_and, and_true]
  exact ⟨fun checks => checks.2, fun ordered => ⟨sequence, ordered⟩⟩

/-- Every answered delivery has passed the checks of the row that it would insert. -/
theorem deliver_ordered {system next : FeedbackSystem} {clock : Timestamp} {p : FeedbackDelivery}
    {event : LifecycleEvent} {accepted : Bool} {reply : FeedbackReply}
    (holds : FeedbackInvariant system) (delivers : Delivers system clock p event)
    (applied : applyFeedback (.deliver clock p accepted) system = .ok (next, reply)) :
    event.occurredAt ≤ p.processedAt := by
  simp only [applyFeedback, consumeFeedback] at applied
  cases called : recordCertificateLifecycleEvidence clock p system with
  | error failure => simp [called] at applied
  | ok recorded =>
      simp only [recordCertificateLifecycleEvidence, Checked.bind_eq_ok, Checked.require_eq_ok,
        Checked.requireSome_eq_ok, exists_const] at called
      rcases called with ⟨_, found, named, checks, _⟩
      rw [delivers.published, Option.some.injEq] at named
      rw [← named] at checks
      exact (evidenceChecks_iff holds delivers).mp checks

/-- The answer to a delivery whose event has evidence already. -/
theorem deliver_recorded {system : FeedbackSystem} {clock : Timestamp} {p : FeedbackDelivery}
    {event : LifecycleEvent} {stored : CertificateEvidence} (holds : FeedbackInvariant system)
    (delivers : Delivers system clock p event) (recorded : system.evidence.get? p.key = some stored)
    (accepted : Bool) :
    (∃ row, applyFeedback (.deliver clock p accepted) system =
        .ok (system, .consumed .duplicate row)) ↔
      event.occurredAt ≤ p.processedAt ∧
        stored.repeats (p.row clock event (sourceAction? event system.database)) := by
  have checks := evidenceChecks_iff holds delivers
  have key := row_key delivers.published clock (sourceAction? event system.database)
  have request : isWorkerId p.consumerName ∧ 1 ≤ p.streamSequence ∧
      p.processedAt ≤ clock + seconds 2 :=
    ⟨delivers.consumer, delivers.sequence, delivers.processed⟩
  by_cases ordered : event.occurredAt ≤ p.processedAt
  · by_cases repeats : stored.repeats (p.row clock event (sourceAction? event system.database))
    · simp [applyFeedback, consumeFeedback, recordCertificateLifecycleEvidence, require,
        requireSome, bind, Except.bind, pure, Except.pure, request, delivers.published,
        checks.mpr ordered, key, recorded, repeats, ordered]
    · simp [applyFeedback, consumeFeedback, recordCertificateLifecycleEvidence, require,
        requireSome, bind, Except.bind, request, delivers.published, checks.mpr ordered, key,
        recorded, repeats]
  · constructor
    · intro answered
      rcases answered with ⟨row, applied⟩
      exact absurd (deliver_ordered holds delivers applied) ordered
    · intro conditions
      exact absurd conditions.1 ordered

/-- The answer to the first delivery of an event. -/
theorem deliver_first {system : FeedbackSystem} {clock : Timestamp} {p : FeedbackDelivery}
    {event : LifecycleEvent} (holds : FeedbackInvariant system)
    (delivers : Delivers system clock p event) (unrecorded : system.evidence.get? p.key = none)
    (ordered : event.occurredAt ≤ p.processedAt) :
    ∃ next, applyFeedback (.deliver clock p true) system = .ok (next, .consumed .recorded
        (p.row clock event (sourceAction? event system.database))) ∧
      next.evidence.rows = system.evidence.rows ++
        [p.row clock event (sourceAction? event system.database)] ∧
      next.evidence.get? p.key =
        some (p.row clock event (sourceAction? event system.database)) ∧
      next.trustEffects = system.trustEffects ++ [p.key] := by
  have checks := (evidenceChecks_iff holds delivers).mpr ordered
  have key := row_key delivers.published clock (sourceAction? event system.database)
  have request : isWorkerId p.consumerName ∧ 1 ≤ p.streamSequence ∧
      p.processedAt ≤ clock + seconds 2 :=
    ⟨delivers.consumer, delivers.sequence, delivers.processed⟩
  have inserted : system.evidence.insertNew
      (p.row clock event (sourceAction? event system.database)) =
        some (system.evidence.insert _ (key.symm ▸ unrecorded)) :=
    Table.insertNew_eq_some.mpr ⟨_, rfl⟩
  have found := Table.get?_insertNew inserted p.key
  rw [if_pos key] at found
  simp [applyFeedback, consumeFeedback, recordCertificateLifecycleEvidence, require,
    requireSome, bind, Except.bind, pure, Except.pure, request, delivers.published, checks, key,
    unrecorded, inserted, Table.insert_rows, found]

theorem isSourceAction_spec {event : LifecycleEvent} {action : SecurityAction}
    (source : isSourceAction event action) :
    action.target.tenantId = event.tenantId ∧ action.execution.status = .succeeded ∧
      action.externalReference = some (.lifecycleEvent event.eventId) := by
  simp only [isSourceAction, Bool.and_eq_true, decide_eq_true_eq] at source
  rcases source with ⟨⟨⟨target, _⟩, done⟩, reference⟩
  exact ⟨by rw [target], done, reference⟩

theorem source_unique {actions : ActionTable} (unique : UniqueResults actions)
    {event : LifecycleEvent} {left right : SecurityAction} (leftMember : left ∈ actions)
    (rightMember : right ∈ actions) (leftSource : isSourceAction event left)
    (rightSource : isSourceAction event right) : left = right := by
  rcases isSourceAction_spec leftSource with ⟨leftTenant, leftDone, leftReference⟩
  rcases isSourceAction_spec rightSource with ⟨rightTenant, rightDone, rightReference⟩
  exact unique left leftMember right rightMember leftDone rightDone
    (leftTenant.trans rightTenant.symm) (by rw [leftReference]; rfl)
    (leftReference.trans rightReference.symm)

/-- The lookup finds the same action twice unless the action succeeded in between. -/
theorem sourceAction?_eq_iff {before after : FeedbackSystem} (extends_ : before.Extends after)
    (unique : UniqueResults after.database.actions) (event : LifecycleEvent) :
    sourceAction? event before.database = sourceAction? event after.database ↔
      (event.eventType = .revoked → ∀ action ∈ after.database.actions,
        isSourceAction event action → action ∈ before.database.actions) := by
  unfold sourceAction?
  by_cases revoked : event.eventType = .revoked
  · simp only [revoked, if_true, true_implies]
    cases early : before.database.actions.rows.find? (isSourceAction event) with
    | none =>
        have none_ := List.find?_eq_none.mp early
        rw [Option.map_none, eq_comm, Option.map_eq_none_iff, List.find?_eq_none]
        constructor
        · intro absent action member source
          exact absurd source (absent action member)
        · intro old action member source
          exact none_ action (old action member source) source
    | some action =>
        have source := List.find?_some early
        have member : action ∈ before.database.actions := List.mem_of_find?_eq_some early
        have kept := extends_.successes action member (isSourceAction_spec source).2.1
        have all : ∀ other ∈ after.database.actions, isSourceAction event other →
            other = action := fun other otherMember otherSource =>
          source_unique unique otherMember kept otherSource source
        have late : after.database.actions.rows.find? (isSourceAction event) = some action := by
          cases found : after.database.actions.rows.find? (isSourceAction event) with
          | none => exact absurd source (List.find?_eq_none.mp found action kept)
          | some other =>
              rw [all other (List.mem_of_find?_eq_some found) (List.find?_some found)]
        rw [late]
        refine ⟨fun _ other otherMember otherSource => ?_, fun _ => rfl⟩
        rw [all other otherMember otherSource]
        exact member
  · simp [revoked]

/-- A later delivery of the event names the sequence and the digest of the first one. -/
theorem delivers_same {before after : FeedbackSystem} (extends_ : before.Extends after)
    {clock later : Timestamp} {first again : FeedbackDelivery} {event : LifecycleEvent}
    (delivered : Delivers before clock first event)
    (redelivered : Delivers after later again event) :
    again.key = first.key ∧ again.streamSequence = first.streamSequence ∧
      again.signedEventSha256 = first.signedEventSha256 := by
  rcases authoritativeEvent?_spec delivered.published with ⟨⟨row, found, confirms⟩, _, key⟩
  rcases authoritativeEvent?_spec redelivered.published with
    ⟨⟨other, laterFound, laterConfirms⟩, _, laterKey⟩
  have same : again.key = first.key := laterKey.symm.trans key
  rw [same, extends_.published _ _ found, Option.some.injEq] at laterFound
  rw [← laterFound] at laterConfirms
  simp only [FeedbackDelivery.confirms, Bool.and_eq_true,
    decide_eq_true_eq] at confirms laterConfirms
  rcases confirms with ⟨⟨sequence, digest⟩, _⟩
  rcases laterConfirms with ⟨⟨laterSequence, laterDigest⟩, _⟩
  exact ⟨same, laterSequence.symm.trans sequence, laterDigest.symm.trans digest⟩

/-- Two deliveries of one event would insert rows that differ in the source action at most. -/
theorem row_repeats_iff {first again : FeedbackDelivery}
    (sequence : again.streamSequence = first.streamSequence)
    (digest : again.signedEventSha256 = first.signedEventSha256) (clock later : Timestamp)
    (event : LifecycleEvent) (source laterSource : Option ActionId) :
    (first.row clock event source).repeats (again.row later event laterSource) ↔
      source = laterSource := by
  simp [CertificateEvidence.repeats, FeedbackDelivery.row, sequence, digest]

/-- The first delivery records one row and one effect; the later one repeats the row. -/
structure Idempotent (start : FeedbackSystem) (front middle : List FeedbackOp)
    (clock later : Timestamp) (first again : FeedbackDelivery) : Prop where
  recorded : ∃ next row, applyFeedback (.deliver clock first true) (runFeedback start front) =
      .ok (next, .consumed .recorded row) ∧
    next.evidence.rows = (runFeedback start front).evidence.rows ++ [row] ∧
    next.trustEffects = (runFeedback start front).trustEffects ++ [first.key]
  repeated : ∀ accepted, ∃ row, applyFeedback (.deliver later again accepted)
      (runFeedback start (front ++ .deliver clock first true :: middle)) =
    .ok (runFeedback start (front ++ .deliver clock first true :: middle),
      .consumed .duplicate row)
  once : (runFeedback start (front ++ .deliver clock first true :: middle)).trustEffects.count
    first.key = 1

theorem redelivery_is_idempotent_iff {start : FeedbackSystem} (fresh : start.Fresh)
    (front middle : List FeedbackOp) (clock later : Timestamp) (first again : FeedbackDelivery)
    (event : LifecycleEvent) (delivered : Delivers (runFeedback start front) clock first event)
    (unrecorded : (runFeedback start front).evidence.get? first.key = none)
    (redelivered : Delivers (runFeedback start (front ++ .deliver clock first true :: middle))
      later again event) :
    Idempotent start front middle clock later first again ↔
      event.occurredAt ≤ first.processedAt ∧ event.occurredAt ≤ again.processedAt ∧
      (event.eventType = .revoked →
        ∀ action ∈ (runFeedback start
            (front ++ .deliver clock first true :: middle)).database.actions,
          isSourceAction event action → action ∈ (runFeedback start front).database.actions) := by
  have invariant := runFeedback_invariant fresh front
  have laterInvariant := runFeedback_invariant fresh (front ++ .deliver clock first true :: middle)
  have split_ : runFeedback start (front ++ .deliver clock first true :: middle) =
      runFeedback (runFeedback start front) (.deliver clock first true :: middle) :=
    Transaction.run_append start front _
  have extends_ := runFeedback_extends (runFeedback start front)
    (.deliver clock first true :: middle)
  rw [← split_] at extends_
  rcases delivers_same extends_ delivered redelivered with ⟨sameKey, sequence, digest⟩
  by_cases ordered : event.occurredAt ≤ first.processedAt
  · rcases deliver_first invariant delivered unrecorded ordered with
      ⟨next, applied, rows, stored, effects⟩
    have reached : runFeedback start (front ++ .deliver clock first true :: middle) =
        runFeedback next middle := by
      rw [split_]
      exact congrArg (fun system => runFeedback system middle) (Transaction.commit_ok applied)
    have kept : (runFeedback start (front ++ .deliver clock first true :: middle)).evidence.get?
        again.key = some (first.row clock event
          (sourceAction? event (runFeedback start front).database)) := by
      rw [reached, sameKey]
      exact (runFeedback_extends next middle).evidence _ _ stored
    have once := laterInvariant.effects first.key
    rw [← sameKey, kept, sameKey] at once
    have answer := deliver_recorded laterInvariant redelivered kept
    simp only [row_repeats_iff sequence digest,
      sourceAction?_eq_iff extends_ laterInvariant.unique] at answer
    constructor
    · intro idempotent
      exact ⟨ordered, (answer true).mp (idempotent.repeated true)⟩
    · intro conditions
      exact ⟨⟨next, _, applied, rows, effects⟩, fun accepted => (answer accepted).mpr conditions.2,
        once⟩
  · constructor
    · intro idempotent
      rcases idempotent.recorded with ⟨next, row, applied, _⟩
      exact absurd (deliver_ordered invariant delivered applied) ordered
    · intro conditions
      exact absurd conditions.1 ordered

namespace FeedbackScenario

/-! A revocation that its action reports late: the event is out before the success is. -/

open Scenario

def system : FeedbackSystem := ⟨deployment, Table.empty, Table.empty, []⟩

def publication : FeedbackOp := .publish 0 {
  tenantId := target.tenantId
  eventId := ⟨2⟩
  streamSequence := 7
  signedEventSha256 := ⟨7⟩
  publishedAt := 0 }

def delivery : FeedbackDelivery where
  consumerName := "trust-feedback"
  tenantId := target.tenantId
  lifecycleEventId := ⟨2⟩
  streamSequence := 7
  signedEventSha256 := ⟨7⟩
  processedAt := 1000

def front : List FeedbackOp :=
  [.queue (severity .revokeCertificate), .queue (claim 1), .queue revocation, publication]

def completion : FeedbackOp := .queue (.succeed {
  tenantId := target.tenantId
  actionId := ⟨2⟩
  claimToken := some ⟨1⟩
  resultState := ⟨.suspended, .blocked, .revoked, .required⟩
  externalReference := some (.lifecycleEvent ⟨2⟩)
  succeededAt := 0 })

def event : LifecycleEvent where
  tenantId := target.tenantId
  eventId := ⟨2⟩
  certificateId := target.certificateId
  eventType := .revoked
  certificateState := .revoked
  subjectId := target.subjectId
  issuerId := ⟨1⟩
  serialNumber := ⟨1⟩
  fingerprintSha256 := ⟨1⟩
  notAfter := 1000000
  requestId := ⟨2⟩
  correlationId := ⟨2⟩
  causationEventId := some ⟨1⟩
  idempotencyKey := .requested 2
  actorSubjectId := some ⟨2⟩
  reasonCode := some "KEY_COMPROMISE"
  issuerConfirmationId := some "confirmation-2"
  occurredAt := 0
  recordedAt := 0

theorem system_fresh : system.Fresh := ⟨deployment_fresh, rfl, rfl, rfl, rfl⟩

def refusal (result : Except FeedbackFailure (FeedbackSystem × FeedbackReply)) :
    Option SqlError :=
  match result with
  | .error (.database reason) => some reason
  | _ => none

end FeedbackScenario

open FeedbackScenario in
/-- The action succeeds between two deliveries of the event that it names as its result. -/
theorem completion_breaks_redelivery :
    ¬ ∀ (start : FeedbackSystem) (front middle : List FeedbackOp) (clock later : Timestamp)
        (first again : FeedbackDelivery) (event : LifecycleEvent), start.Fresh →
      Delivers (runFeedback start front) clock first event →
      (runFeedback start front).evidence.get? first.key = none →
      Delivers (runFeedback start (front ++ .deliver clock first true :: middle))
        later again event →
      Idempotent start front middle clock later first again := by
  intro always
  have delivered : Delivers (runFeedback system front) 1000 delivery event :=
    ⟨by decide +kernel, by decide +kernel, by decide +kernel, by decide +kernel⟩
  have redelivered : Delivers (runFeedback system
      (front ++ .deliver 1000 delivery true :: [completion])) 1000 delivery event :=
    ⟨by decide +kernel, by decide +kernel, by decide +kernel, by decide +kernel⟩
  have idempotent := always system front [completion] 1000 1000 delivery delivery event
    system_fresh delivered (by decide +kernel) redelivered
  rcases idempotent.repeated true with ⟨row, repeated⟩
  have refused : refusal (applyFeedback (.deliver 1000 delivery true) (runFeedback system
      (front ++ .deliver 1000 delivery true :: [completion]))) =
    some (.raised "CERTIFICATE_FEEDBACK_IDEMPOTENCY_CONFLICT") := by decide +kernel
  rw [repeated] at refused
  cases refused

open FeedbackScenario in
theorem early_completion_keeps_redelivery :
    Idempotent system (front ++ [completion]) [] 1000 2000 delivery
      { delivery with processedAt := 2000 } := by
  have delivered : Delivers (runFeedback system (front ++ [completion])) 1000 delivery event :=
    ⟨by decide +kernel, by decide +kernel, by decide +kernel, by decide +kernel⟩
  have redelivered : Delivers (runFeedback system
      (front ++ [completion] ++ .deliver 1000 delivery true :: [])) 2000
      { delivery with processedAt := 2000 } event :=
    ⟨by decide +kernel, by decide +kernel, by decide +kernel, by decide +kernel⟩
  refine (redelivery_is_idempotent_iff system_fresh (front ++ [completion]) [] 1000 2000 delivery
    { delivery with processedAt := 2000 } event delivered (by decide +kernel) redelivered).mpr ?_
  refine ⟨by decide +kernel, by decide +kernel, fun _ action member source => ?_⟩
  have same : (runFeedback system (front ++ [completion] ++
      .deliver 1000 delivery true :: [])).database.actions.rows =
    (runFeedback system (front ++ [completion])).database.actions.rows := by decide +kernel
  rw [Table.mem_def, same] at member
  exact member

end TenantTrust.Trust
