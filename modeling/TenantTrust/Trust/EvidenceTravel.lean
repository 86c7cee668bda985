import TenantTrust.Trust.EvidencePipeline

/-! Which accepted items of evidence pass every later stage. -/

namespace TenantTrust.Trust

open Library Identity

variable {digests : EvidenceDigests}

theorem roundNumeric_score {score : ℚ} (ranged : inRange score = true) :
    inRange (roundNumeric 2 score) = true := by
  simp only [inRange, Bool.and_eq_true, decide_eq_true_eq] at ranged ⊢
  obtain ⟨low, high⟩ := ranged
  have least : (0 : ℤ) ≤ ⌊score * 10 ^ 2 + 1 / 2⌋ := Int.floor_nonneg.mpr (by positivity)
  have most : ⌊score * 10 ^ 2 + 1 / 2⌋ ≤ (10000 : ℤ) := by
    have below : ⌊score * 10 ^ 2 + 1 / 2⌋ < (10001 : ℤ) := by
      rw [Int.floor_lt]
      push_cast
      linarith
    omega
  have leastRat : (0 : ℚ) ≤ ⌊score * 10 ^ 2 + 1 / 2⌋ := by exact_mod_cast least
  have mostRat : (⌊score * 10 ^ 2 + 1 / 2⌋ : ℚ) ≤ 10000 := by exact_mod_cast most
  rw [roundNumeric, if_pos low]
  constructor
  · positivity
  · rw [div_le_iff₀ (by norm_num)]
    linarith

/-! Consumption of a delivery whose times are in order. -/

section Consumption

/-- The consumer's clock is within the two seconds that the schema tolerates, the active
configuration is one that the schema admits. -/
structure InTolerance (session : TrustSession) (p : ConsumptionCall) : Prop where
  score : inRange p.componentScore = true
  notAhead : p.processedAt ≤ session.clock + interval 2
  notBehind : session.clock ≤ p.processedAt + interval 2
  configuration : ∀ configuration, session.activeConfiguration p.tenantId = some configuration →
    1 ≤ configuration.configurationVersion ∧ isModelVersion configuration.modelVersion = true

/-- The staged rows were observed in the past and have a score. -/
def StagedInTime (db : TrustDatabase) (clock : Instant) : Prop :=
  ∀ key row, db.observations.get? key = some row →
    row.observedAt ≤ clock ∧ inRange row.componentScore = true

variable {session : TrustSession} {p : ConsumptionCall}

theorem recordEvidenceEventEffect_avoids (db : TrustDatabase) :
    Checked.Avoids (fun failure => isTimeOrder failure = true)
      (recordEvidenceEventEffect session p db) := by
  unfold recordEvidenceEventEffect
  refine Checked.avoids_bind (Checked.avoids_require (by decide)) fun _ _ => ?_
  refine Checked.avoids_bind (Checked.avoids_require (by decide)) fun _ _ => ?_
  cases db.effects.get? p.effect.key with
  | none =>
      refine Checked.avoids_bind (Checked.avoids_requireSome (by decide)) fun effects _ => ?_
      exact Checked.avoids_ok _
  | some existing =>
      refine Checked.avoids_bind (Checked.avoids_require (by decide)) fun _ _ => ?_
      exact Checked.avoids_ok _

theorem upsertObservation_avoids {row : ComponentObservation} (db : TrustDatabase)
    (checks : observationChecks row = true) :
    Checked.Avoids (fun failure => isTimeOrder failure = true) (upsertObservation row db) := by
  unfold upsertObservation
  refine Checked.avoids_bind (Checked.avoids_require_of checks) fun _ _ => ?_
  cases db.observations.get? row.key with
  | none =>
      refine Checked.avoids_bind (Checked.avoids_require (by decide)) fun _ _ => ?_
      refine Checked.avoids_bind (Checked.avoids_requireSome (by decide)) fun observations _ => ?_
      exact Checked.avoids_ok _
  | some existing =>
      dsimp only
      split
      · refine Checked.avoids_bind (Checked.avoids_require (by decide)) fun _ _ => ?_
        exact Checked.avoids_ok _
      · exact Checked.avoids_ok _

theorem storeSubjectTrustState_avoids {call : StoreCall} (db : TrustDatabase)
    (configuration : 1 ≤ call.configurationVersion ∧ isModelVersion call.modelVersion = true)
    (scores : ∀ score ∈ call.components.toList, inRange score = true)
    (observed : call.observedAt ≤ session.clock) :
    Checked.Avoids (fun failure => isTimeOrder failure = true)
      (storeSubjectTrustState session call db) := by
  have tolerated : call.observedAt ≤ session.clock + interval 2 := by
    unfold interval Instant at *
    omega
  unfold storeSubjectTrustState
  refine Checked.avoids_bind (Checked.avoids_require_of
    ⟨configuration.1, configuration.2, scores, tolerated⟩) fun _ _ => ?_
  refine Checked.avoids_bind (Checked.avoids_require (by decide)) fun _ _ => ?_
  refine Checked.avoids_bind (Checked.avoids_require (by decide)) fun _ _ => ?_
  refine Checked.avoids_bind (Checked.avoids_require (by decide)) fun _ _ => ?_
  refine Checked.avoids_bind (Checked.avoids_require (by decide)) fun _ _ => ?_
  refine Checked.avoids_bind (Checked.avoids_require (by decide)) fun _ _ => ?_
  refine Checked.avoids_bind (Checked.avoids_require_of observed) fun _ _ => ?_
  refine Checked.avoids_bind (Checked.avoids_requireSome (by decide)) fun versions _ => ?_
  exact Checked.avoids_ok _

/-- The observation time of a snapshot is that of one of its rows. -/
theorem snapshotObservedAt_le {staged : Components ComponentObservation} {clock : Instant}
    (rows : ∀ evidenceType, (staged.get evidenceType).observedAt ≤ clock) :
    snapshotObservedAt staged ≤ clock := by
  have identity := rows .identity
  have device := rows .device
  have behaviour := rows .behaviour
  have certificate := rows .certificate
  have compliance := rows .compliance
  exact max_le (max_le (max_le (max_le identity device) behaviour) certificate) compliance

theorem storeSnapshot_avoids {delivery : PublishedDelivery} (db : TrustDatabase)
    (configuration : ∀ configuration,
      session.activeConfiguration delivery.tenantId = some configuration →
      1 ≤ configuration.configurationVersion ∧ isModelVersion configuration.modelVersion = true)
    (staged : StagedInTime db session.clock) :
    Checked.Avoids (fun failure => isTimeOrder failure = true)
      (storeSnapshot session delivery db) := by
  unfold storeSnapshot
  cases complete : stagedComponents db delivery.tenantId delivery.subjectId with
  | none => exact Checked.avoids_ok _
  | some rows =>
      have each := stagedComponents_eq_some.mp complete
      refine Checked.avoids_bind (Checked.avoids_requireSome (by decide))
        fun active found => ?_
      refine Checked.avoids_bind (storeSubjectTrustState_avoids db
        (configuration active (Checked.requireSome_eq_ok.mp found)) ?_ ?_) fun stored _ => ?_
      · intro score member
        obtain ⟨evidenceType, _, rfl⟩ := List.mem_map.mp member
        have same : ((rows.map ComponentObservation.componentScore).get evidenceType) =
            (rows.get evidenceType).componentScore := Components.get_tabulate _ _
        simp only [snapshotCall]
        rw [same]
        exact (staged _ _ (each evidenceType)).2
      · exact snapshotObservedAt_le fun evidenceType => (staged _ _ (each evidenceType)).1
      · exact Checked.avoids_ok _

/-- A delivery that was observed before it was accepted, and accepted before it is consumed. -/
theorem consume_avoids {db : TrustDatabase} (tolerance : InTolerance session p)
    (staged : StagedInTime db session.clock)
    (ordered : ∀ delivery, db.delivery? p.tenantId p.deliveryEventId = some delivery →
      delivery.observedAt ≤ delivery.acceptedAt ∧ delivery.acceptedAt ≤ session.clock) :
    Checked.Avoids (fun failure => isTimeOrder failure = true)
      (consumeValidatedEvidenceComponent session p db) := by
  unfold consumeValidatedEvidenceComponent
  refine Checked.avoids_bind (Checked.avoids_require_of
    ⟨tolerance.score, tolerance.notAhead⟩) fun _ _ => ?_
  refine Checked.avoids_bind (Checked.avoids_requireSome (by decide)) fun delivery found => ?_
  obtain ⟨present, named⟩ :=
    authoritativeDelivery?_eq_some (Checked.requireSome_eq_ok.mp found)
  obtain ⟨observed, accepted⟩ := ordered delivery present
  have tenant := (TrustDatabase.delivery?_key present).1
  refine Checked.avoids_bind (recordEvidenceEventEffect_avoids db) fun recorded effect => ?_
  obtain ⟨recordedDb, isNew⟩ := recorded
  have positive : 1 ≤ p.streamSequence := by
    simp only [recordEvidenceEventEffect, Checked.bind_eq_ok, Checked.require_eq_ok,
      exists_const] at effect
    exact effect.1.2.1
  have rows : recordedDb.observations = db.observations := by
    rcases recordEvidenceEventEffect_cases effect with ⟨_, rfl, _⟩ | ⟨_, effects, _, rfl⟩
    · rfl
    · rfl
  dsimp only
  split
  · have checks : observationChecks
        (delivery.observation p.componentScore p.processedAt) = true := by
      have score := roundNumeric_score tolerance.score
      have sequence : delivery.streamSequence = p.streamSequence := by
        simp only [ConsumptionCall.names, Bool.and_eq_true, decide_eq_true_eq] at named
        exact named.1.2
      have processed : delivery.acceptedAt ≤ p.processedAt + interval 2 :=
        le_trans accepted tolerance.notBehind
      have streamed : 0 < delivery.streamSequence := by omega
      simp only [observationChecks, Bool.and_eq_true]
      exact ⟨⟨Bool.and_eq_true_iff.mp score, decide_eq_true streamed⟩, decide_eq_true observed,
        decide_eq_true processed⟩
    refine Checked.avoids_bind (upsertObservation_avoids recordedDb checks)
      fun upserted staging => ?_
    obtain ⟨stagedDb, changed⟩ := upserted
    dsimp only
    split
    · refine storeSnapshot_avoids stagedDb ?_ ?_
      · rw [tenant]
        exact tolerance.configuration
      · rcases upsertObservation_cases staging with
          ⟨_, rfl, _⟩ | ⟨_, observations, rfl, restaged⟩
        · intro key row stored
          rw [rows] at stored
          exact staged key row stored
        · intro key row stored
          dsimp only at stored
          rw [restaged.rows] at stored
          split at stored
          · rw [← Option.some.inj stored]
            exact ⟨le_trans observed accepted, roundNumeric_score tolerance.score⟩
          · rw [rows] at stored
            exact staged key row stored
    · exact Checked.avoids_ok _
  · exact Checked.avoids_ok _

/-- A delivery that was observed after it was accepted is staged by no consumer. -/
theorem consume_refuses {db : TrustDatabase} {delivery : PublishedDelivery}
    (input : inRange p.componentScore = true ∧ p.processedAt ≤ session.clock + interval 2)
    (worker : isWorkerId p.consumerName = true ∧ 1 ≤ p.streamSequence)
    (found : authoritativeDelivery? p db = some delivery)
    (unconsumed : db.effects.get? p.effect.key = none)
    (early : delivery.acceptedAt < delivery.observedAt) :
    consumeValidatedEvidenceComponent session p db =
      .error (.checkViolation "subject_component_observations") := by
  obtain ⟨effects, inserted⟩ : ∃ effects, db.effects.insertNew p.effect = some effects :=
    ⟨_, Table.insertNew_eq_some.mpr ⟨unconsumed, rfl⟩⟩
  have effect : recordEvidenceEventEffect session p db =
      .ok ({ db with effects := effects }, true) := by
    unfold recordEvidenceEventEffect
    rw [Checked.require_ok ⟨worker.1, worker.2, input.2⟩,
      Checked.require_ok (by rw [found]; rfl), unconsumed, inserted]
    rfl
  have refused : ¬ observationChecks
      (delivery.observation p.componentScore p.processedAt) = true := by
    simp only [observationChecks, Bool.and_eq_true, decide_eq_true_eq]
    rintro ⟨_, observed, _⟩
    exact absurd observed (not_le.mpr early)
  have upserted : ∀ other, upsertObservation (delivery.observation p.componentScore p.processedAt)
      other = .error (.checkViolation "subject_component_observations") := by
    intro other
    unfold upsertObservation
    rw [require, if_neg refused]
    rfl
  unfold consumeValidatedEvidenceComponent
  rw [Checked.require_ok input, found, effect]
  simp only [requireSome, bind, Except.bind, if_true, upserted]

end Consumption

/-! The pipeline between its calls. -/

/-- A call of the guard adds the receipt of its candidate or none. -/
theorem GuardOutcome.receipts {session : GuardSession} {now innerNow : Instant}
    {p : ReplayCandidate} {db next : EvidenceDatabase} {decision : GuardDecision}
    (outcome : GuardOutcome digests session now innerNow p db next decision) :
    decision.accepted = false ∧ next.receipts = db.receipts ∨
      decision.accepted = true ∧
        (∃ maximumAgeSeconds, p.InWindow innerNow maximumAgeSeconds) ∧
        ∃ influence, db.receipts.insertNew (p.receipt digests innerNow influence) =
          some next.receipts := by
  cases outcome with
  | unresolved context => exact Or.inl ⟨rfl, rfl⟩
  | rateLimited source next highest context limits => exact Or.inl ⟨rfl, limits.receipts⟩
  | refused source window next decision context counted room outcome denied =>
      exact Or.inl ⟨denied, (outcome.refused_tables denied).1⟩
  | accepted source window admitted context counted room startedAt accepts =>
      exact Or.inr ⟨rfl, ⟨_, accepts.inWindow⟩, accepts.receipts⟩

/-- What a committed consumption leaves of the tables before it. -/
structure TablesAfter (p : ConsumptionCall) (delivery : PublishedDelivery)
    (before after : TrustDatabase) : Prop where
  outbox : after.outbox = before.outbox
  receipts : after.receipts = before.receipts
  observations : ∀ key row, after.observations.get? key = some row →
    before.observations.get? key = some row ∨
      row = delivery.observation p.componentScore p.processedAt ∧
        delivery.observedAt ≤ delivery.acceptedAt
  effects : ∀ key effect, after.effects.get? key = some effect →
    before.effects.get? key = some effect ∨ key = p.effect.key

theorem Restaged.observations {delivery : PublishedDelivery} {componentScore : ℚ}
    {processedAt : Instant} {before after : Table ComponentObservation ComponentObservation.key}
    (restaged : Restaged (delivery.observation componentScore processedAt) before after)
    (key : ComponentKey) (row : ComponentObservation) (found : after.get? key = some row) :
    before.get? key = some row ∨
      row = delivery.observation componentScore processedAt ∧
        delivery.observedAt ≤ delivery.acceptedAt := by
  rw [restaged.rows] at found
  split at found
  · have checked := restaged.checked
    simp only [observationChecks, Bool.and_eq_true, decide_eq_true_eq] at checked
    exact Or.inr ⟨(Option.some.inj found).symm, checked.2.1⟩
  · exact Or.inl found

theorem ConsumptionStep.tables {p : ConsumptionCall} {delivery : PublishedDelivery}
    {before after : TrustDatabase} {outcome : ConsumptionOutcome}
    (step : ConsumptionStep p delivery before after outcome) :
    TablesAfter p delivery before after := by
  have record : ∀ {effects : Table EvidenceEffect EvidenceEffect.key},
      before.effects.insertNew p.effect = some effects →
      ∀ key effect, effects.get? key = some effect →
        before.effects.get? key = some effect ∨ key = p.effect.key := by
    intro effects recorded key effect found
    rw [Table.get?_insertNew recorded] at found
    split at found
    · rename_i same
      exact Or.inr same.symm
    · exact Or.inl found
  cases step with
  | duplicate existing present =>
      exact ⟨rfl, rfl, fun _ _ found => Or.inl found, fun _ _ found => Or.inl found⟩
  | superseded effects existing recorded present older =>
      exact ⟨rfl, rfl, fun _ _ found => Or.inl found, record recorded⟩
  | staged effects observations recorded restaged incomplete =>
      exact ⟨rfl, rfl, restaged.observations, record recorded⟩
  | stateUpdated effects observations rows configuration version after recorded restaged complete
      stored =>
      rw [stored.kept]
      exact ⟨rfl, rfl, restaged.observations, record recorded⟩

theorem delivery?_rows {db : TrustDatabase} {tenantId : TenantId} {deliveryEventId : EventId}
    {delivery : PublishedDelivery}
    (found : db.delivery? tenantId deliveryEventId = some delivery) :
    ∃ row receipt, db.outbox.get? (tenantId, deliveryEventId) = some row ∧
      db.receipts.get? (tenantId, row.sourceEventId) = some receipt ∧
      delivery.observedAt = receipt.observedAt ∧ delivery.acceptedAt = receipt.acceptedAt := by
  unfold TrustDatabase.delivery? at found
  obtain ⟨row, present, rest⟩ := Option.bind_eq_some_iff.mp found
  obtain ⟨receipt, recorded, joined⟩ := Option.bind_eq_some_iff.mp rest
  refine ⟨row, receipt, present, recorded, ?_⟩
  unfold publishedDelivery at joined
  cases status : row.delivery with
  | pending => simp [status] at joined
  | publishing => simp [status] at joined
  | published streamSequence signedEventSha256 =>
      simp only [status, Option.some.injEq] at joined
      rw [← joined]
      exact ⟨rfl, rfl⟩

structure PipelineTimely (pipeline : EvidencePipeline) : Prop where
  receipts : ∀ key receipt, pipeline.trust.receipts.get? key = some receipt →
    receipt.acceptedAt ≤ pipeline.clock ∧
    ∃ full, pipeline.guard.receipts.get? key = some full ∧ full.consumed = receipt
  outbox : ∀ key row, pipeline.trust.outbox.get? key = some row →
    ∃ receipt, pipeline.trust.receipts.get? (key.1, row.sourceEventId) = some receipt
  observations : StagedInTime pipeline.trust pipeline.clock
  effects : ∀ key effect, pipeline.trust.effects.get? key = some effect →
    ∃ row, pipeline.trust.outbox.get? key.2 = some row

theorem EvidencePipeline.Fresh.timely {pipeline : EvidencePipeline} (fresh : pipeline.Fresh) :
    PipelineTimely pipeline where
  receipts := by
    intro key receipt found
    rw [fresh.receipts] at found
    exact absurd (Table.get?_mem found) (Table.not_mem_empty receipt)
  outbox := by
    intro key row found
    rw [fresh.outbox] at found
    exact absurd (Table.get?_mem found) (Table.not_mem_empty row)
  observations := by
    intro key row found
    rw [fresh.consumed.observations] at found
    exact absurd (Table.get?_mem found) (Table.not_mem_empty row)
  effects := by
    intro key effect found
    rw [fresh.consumed.effects] at found
    exact absurd (Table.get?_mem found) (Table.not_mem_empty effect)

theorem PipelineTimely.delivery {pipeline : EvidencePipeline} (timely : PipelineTimely pipeline)
    {tenantId : TenantId} {deliveryEventId : EventId} {delivery : PublishedDelivery}
    (found : pipeline.trust.delivery? tenantId deliveryEventId = some delivery) :
    delivery.acceptedAt ≤ pipeline.clock := by
  obtain ⟨row, receipt, _, recorded, _, accepted⟩ := delivery?_rows found
  rw [accepted]
  exact (timely.receipts _ receipt recorded).1

/-- The tables after an accepted submission. -/
structure Enqueued (digests : EvidenceDigests) (innerNow : Instant) (p : ReplayCandidate)
    (ids : DrawnIds) (pipeline next : EvidencePipeline) : Prop where
  inWindow : ∃ maximumAgeSeconds, p.InWindow innerNow maximumAgeSeconds
  clock : next.clock = max pipeline.clock innerNow
  guard : ∃ influence, pipeline.guard.receipts.insertNew (p.receipt digests innerNow influence) =
      some next.guard.receipts ∧
    pipeline.trust.receipts.insertNew (p.receipt digests innerNow influence).consumed =
      some next.trust.receipts
  outbox : pipeline.trust.outbox.insertNew
    ⟨p.tenantId, p.eventId, ids.deliveryEventId, ids.evidenceId, .pending⟩ =
      some next.trust.outbox
  observations : next.trust.observations = pipeline.trust.observations
  effects : next.trust.effects = pipeline.trust.effects

theorem liftDatabase_eq_ok {α : Type} {step : Except SqlError α} {value : α} :
    liftDatabase step = .ok value ↔ step = .ok value := by
  cases step with
  | error failure => simp [liftDatabase]
  | ok result => simp [liftDatabase]

theorem submitEvidence_cases {session : GuardSession} {now innerNow : Instant}
    {p : ReplayCandidate} {ids : DrawnIds} {pipeline next : EvidencePipeline}
    (succeeded : submitEvidence digests session now innerNow p ids pipeline = .ok next) :
    ∃ guard decision,
      applyEvidenceReplayGuard digests session now innerNow p pipeline.guard =
        .ok (guard, decision) ∧
      (decision.accepted = false ∧ next.guard.receipts = pipeline.guard.receipts ∧
          next.trust = pipeline.trust ∧ next.clock = max pipeline.clock innerNow ∨
        decision.accepted = true ∧ Enqueued digests innerNow p ids pipeline next) := by
  simp only [submitEvidence, Checked.bind_eq_ok, liftDatabase_eq_ok] at succeeded
  obtain ⟨⟨guard, decision⟩, guarded, rest⟩ := succeeded
  refine ⟨guard, decision, guarded, ?_⟩
  have outcome := applyEvidenceReplayGuard_outcome guarded
  rcases outcome.receipts with ⟨refused, same⟩ | ⟨granted, window, influence, inserted⟩
  · rw [if_neg (by simp [refused]), Checked.pure_eq_ok] at rest
    rw [← rest]
    exact Or.inl ⟨refused, same, rfl, rfl⟩
  · rw [if_pos granted] at rest
    simp only [Checked.bind_eq_ok, liftDatabase_eq_ok, Checked.requireSome_eq_ok,
      enqueueAcceptedEvidenceEvent, Checked.require_eq_ok, Checked.pure_eq_ok,
      exists_const] at rest
    obtain ⟨receipt, found, trust, ⟨receipts, recorded, _, outbox, enqueued, rfl⟩, rfl⟩ := rest
    have key : (p.receipt digests innerNow influence).key = p.event := rfl
    have present := Table.get?_insertNew inserted p.event
    rw [if_pos key] at present
    obtain rfl : receipt = p.receipt digests innerNow influence :=
      Option.some.inj (found.symm.trans present)
    exact Or.inr ⟨granted, window, rfl, ⟨influence, inserted, recorded⟩, enqueued,
      rfl, rfl⟩

theorem publishEvidence_cases {tenantId : TenantId} {ids : DrawnIds} {streamSequence : Nat}
    {signedEventSha256 : Sha256Digest} {pipeline next : EvidencePipeline}
    (succeeded : publishEvidence tenantId ids streamSequence signedEventSha256 pipeline =
      .ok next) :
    ∃ row, pipeline.trust.outbox.get? (tenantId, ids.deliveryEventId) = some row ∧
      next = { pipeline with trust := { pipeline.trust with
        outbox := pipeline.trust.outbox.replace
          { row with delivery := .published streamSequence signedEventSha256 } } } := by
  simp only [publishEvidence, Checked.bind_eq_ok, liftDatabase_eq_ok,
    Checked.requireSome_eq_ok, Checked.require_eq_ok, Checked.pure_eq_ok, exists_const]
    at succeeded
  obtain ⟨row, present, _, _, _, _, _, rfl⟩ := succeeded
  exact ⟨row, present, rfl⟩

theorem StagedInTime.later {db : TrustDatabase} {clock later : Instant}
    (staged : StagedInTime db clock) (reached : clock ≤ later) : StagedInTime db later :=
  fun key row found => ⟨le_trans (staged key row found).1 reached, (staged key row found).2⟩

/-- An accepted item is entered with a row that is not yet published. -/
theorem PipelineTimely.of_enqueued {innerNow : Instant} {p : ReplayCandidate} {ids : DrawnIds}
    {pipeline next : EvidencePipeline} (timely : PipelineTimely pipeline)
    (enqueued : Enqueued digests innerNow p ids pipeline next) : PipelineTimely next := by
  obtain ⟨influence, inserted, recorded⟩ := enqueued.guard
  have reached : pipeline.clock ≤ next.clock := by
    rw [enqueued.clock]
    exact le_max_left _ _
  constructor
  · intro key receipt found
    rw [Table.get?_insertNew recorded] at found
    split at found
    · rename_i same
      rw [← Option.some.inj found]
      refine ⟨by rw [enqueued.clock]; exact le_max_right _ _, _, ?_, rfl⟩
      have which : (p.receipt digests innerNow influence).key = key := same
      rw [Table.get?_insertNew inserted, if_pos which]
    · obtain ⟨past, full, present, same⟩ := timely.receipts key receipt found
      exact ⟨le_trans past reached, full, Table.get?_of_insertNew inserted present, same⟩
  · intro key row found
    rw [Table.get?_insertNew enqueued.outbox] at found
    split at found
    · rename_i same
      rw [← Option.some.inj found]
      refine ⟨(p.receipt digests innerNow influence).consumed, ?_⟩
      have which : (p.receipt digests innerNow influence).consumed.key =
          (key.1, p.eventId) := by
        rw [← same]
        rfl
      rw [Table.get?_insertNew recorded, if_pos which]
    · obtain ⟨receipt, present⟩ := timely.outbox key row found
      exact ⟨receipt, Table.get?_of_insertNew recorded present⟩
  · intro key row found
    rw [enqueued.observations] at found
    exact timely.observations.later reached key row found
  · intro key effect found
    rw [enqueued.effects] at found
    obtain ⟨row, present⟩ := timely.effects key effect found
    exact ⟨row, Table.get?_of_insertNew enqueued.outbox present⟩

theorem PipelineTimely.of_published {tenantId : TenantId} {ids : DrawnIds}
    {streamSequence : Nat} {signedEventSha256 : Sha256Digest} {pipeline next : EvidencePipeline}
    (timely : PipelineTimely pipeline)
    (succeeded : publishEvidence tenantId ids streamSequence signedEventSha256 pipeline =
      .ok next) : PipelineTimely next := by
  obtain ⟨row, present, rfl⟩ := publishEvidence_cases succeeded
  have before := Table.get?_key present
  have which : ({ row with delivery := .published streamSequence signedEventSha256 } :
      EvidenceOutboxRow).key = (tenantId, ids.deliveryEventId) := before
  constructor
  · exact timely.receipts
  · intro key other found
    dsimp only at found
    rw [Table.get?_replace _ (by rw [which]; exact present), which] at found
    split at found
    · rename_i same
      rw [← Option.some.inj found, ← same]
      exact timely.outbox _ row present
    · exact timely.outbox key other found
  · exact timely.observations
  · intro key effect found
    obtain ⟨other, stored⟩ := timely.effects key effect found
    dsimp only
    rw [Table.get?_replace _ (by rw [which]; exact present), which]
    split
    · exact ⟨_, rfl⟩
    · exact ⟨other, stored⟩

theorem PipelineTimely.step {pipeline : EvidencePipeline} (timely : PipelineTimely pipeline)
    {op : PipelineOp} (inTime : InTime pipeline op) {next : EvidencePipeline} {reply : Unit}
    (succeeded : applyPipeline digests op pipeline = .ok (next, reply)) :
    PipelineTimely next := by
  cases op with
  | submit session now innerNow p ids =>
      simp only [applyPipeline, Checked.bind_eq_ok, Checked.pure_eq_ok, Prod.mk.injEq,
        and_true] at succeeded
      obtain ⟨submitted, accepted, rfl⟩ := succeeded
      obtain ⟨guard, decision, _, ⟨_, receipts, trust, clock⟩ | ⟨_, enqueued⟩⟩ :=
        submitEvidence_cases accepted
      · have reached : pipeline.clock ≤ submitted.clock := by
          rw [clock]
          exact le_max_left _ _
        constructor
        · intro key receipt found
          rw [trust] at found
          obtain ⟨past, joined⟩ := timely.receipts key receipt found
          rw [receipts]
          exact ⟨le_trans past reached, joined⟩
        · rw [trust]
          exact timely.outbox
        · rw [trust]
          exact timely.observations.later reached
        · rw [trust]
          exact timely.effects
      · exact timely.of_enqueued enqueued
  | publish tenantId ids streamSequence signedEventSha256 =>
      simp only [applyPipeline, Checked.bind_eq_ok, Checked.pure_eq_ok, Prod.mk.injEq,
        and_true] at succeeded
      obtain ⟨published, confirmed, rfl⟩ := succeeded
      exact timely.of_published confirmed
  | consume session call =>
      simp only [applyPipeline, Checked.bind_eq_ok, liftDatabase_eq_ok, Checked.pure_eq_ok,
        Prod.mk.injEq, and_true] at succeeded
      obtain ⟨⟨trust, outcome⟩, consumed, rfl⟩ := succeeded
      have reached : pipeline.clock ≤ max pipeline.clock session.clock := le_max_left _ _
      obtain ⟨delivery, found, _, ranged, stepped⟩ := consume_cases consumed
      have tables := stepped.tables
      constructor
      · intro key receipt stored
        dsimp only at stored
        rw [tables.receipts] at stored
        obtain ⟨past, joined⟩ := timely.receipts key receipt stored
        exact ⟨le_trans past reached, joined⟩
      · dsimp only
        rw [tables.outbox, tables.receipts]
        exact timely.outbox
      · intro key row stored
        rcases tables.observations key row stored with old | ⟨rfl, observed⟩
        · exact timely.observations.later reached key row old
        · exact ⟨le_trans (le_trans observed (timely.delivery found)) reached,
            roundNumeric_score ranged⟩
      · intro key effect stored
        dsimp only
        rw [tables.outbox]
        rcases tables.effects key effect stored with old | rfl
        · exact timely.effects key effect old
        · obtain ⟨row, _, present, _⟩ := delivery?_rows found
          exact ⟨row, present⟩
  | register source =>
      simp only [applyPipeline, Except.ok.injEq, Prod.mk.injEq, and_true] at succeeded
      obtain rfl := succeeded
      exact ⟨timely.receipts, timely.outbox, timely.observations, timely.effects⟩

/-- The outbox row and the receipt of an accepted item stay what they are. -/
structure Carries (p : ReplayCandidate) (ids : DrawnIds) (receipt : IngestionReceipt)
    (pipeline : EvidencePipeline) : Prop where
  receipt : pipeline.guard.receipts.get? p.event = some receipt
  outbox : ∃ row, pipeline.trust.outbox.get? (p.tenantId, ids.deliveryEventId) = some row ∧
    row.sourceEventId = p.eventId

theorem Carries.step {p : ReplayCandidate} {ids : DrawnIds} {receipt : IngestionReceipt}
    {pipeline : EvidencePipeline} (carries : Carries p ids receipt pipeline) {op : PipelineOp}
    {next : EvidencePipeline} {reply : Unit}
    (succeeded : applyPipeline digests op pipeline = .ok (next, reply)) :
    Carries p ids receipt next := by
  obtain ⟨row, present, event⟩ := carries.outbox
  cases op with
  | submit session now innerNow other otherIds =>
      simp only [applyPipeline, Checked.bind_eq_ok, Checked.pure_eq_ok, Prod.mk.injEq,
        and_true] at succeeded
      obtain ⟨submitted, accepted, rfl⟩ := succeeded
      obtain ⟨guard, decision, _, ⟨_, receipts, trust, _⟩ | ⟨_, enqueued⟩⟩ :=
        submitEvidence_cases accepted
      · exact ⟨receipts ▸ carries.receipt, row, trust ▸ present, event⟩
      · obtain ⟨influence, inserted, _⟩ := enqueued.guard
        exact ⟨Table.get?_of_insertNew inserted carries.receipt, row,
          Table.get?_of_insertNew enqueued.outbox present, event⟩
  | publish tenantId otherIds streamSequence signedEventSha256 =>
      simp only [applyPipeline, Checked.bind_eq_ok, Checked.pure_eq_ok, Prod.mk.injEq,
        and_true] at succeeded
      obtain ⟨published, confirmed, rfl⟩ := succeeded
      obtain ⟨old, found, rfl⟩ := publishEvidence_cases confirmed
      refine ⟨carries.receipt, ?_⟩
      have before := Table.get?_key found
      have which : ({ old with delivery := .published streamSequence signedEventSha256 } :
          EvidenceOutboxRow).key = (tenantId, otherIds.deliveryEventId) := before
      dsimp only
      rw [Table.get?_replace _ (by rw [which]; exact found), which]
      split
      · rename_i same
        rw [same] at found
        obtain rfl : old = row := Option.some.inj (found.symm.trans present)
        exact ⟨_, rfl, event⟩
      · exact ⟨row, present, event⟩
  | consume session call =>
      simp only [applyPipeline, Checked.bind_eq_ok, liftDatabase_eq_ok, Checked.pure_eq_ok,
        Prod.mk.injEq, and_true] at succeeded
      obtain ⟨⟨trust, outcome⟩, consumed, rfl⟩ := succeeded
      obtain ⟨delivery, _, _, _, stepped⟩ := consume_cases consumed
      exact ⟨carries.receipt, row, stepped.tables.outbox ▸ present, event⟩
  | register source =>
      simp only [applyPipeline, Except.ok.injEq, Prod.mk.injEq, and_true] at succeeded
      obtain rfl := succeeded
      exact ⟨carries.receipt, row, present, event⟩

/-- A worker can sign the record of an item, and no constraint on its times ever stops a
consumer. -/
structure Travels (p : ReplayCandidate) (ids : DrawnIds) (pipeline : EvidencePipeline) :
    Prop where
  signed : ∃ record,
    claimedRecord? pipeline p.tenantId ids.deliveryEventId ids.correlationId = some record ∧
      (validateAcceptedRecord record).isOk = true
  consumed : ∀ session call, call.tenantId = p.tenantId →
    call.deliveryEventId = ids.deliveryEventId → pipeline.clock ≤ session.clock →
    InTolerance session call →
    Checked.Avoids (fun failure => isTimeOrder failure = true)
      (consumeValidatedEvidenceComponent session call pipeline.trust)

theorem Carries.claimedRecord? {p : ReplayCandidate} {ids : DrawnIds}
    {receipt : IngestionReceipt} {pipeline : EvidencePipeline}
    (carries : Carries p ids receipt pipeline) :
    ∃ row, Trust.claimedRecord? pipeline p.tenantId ids.deliveryEventId ids.correlationId =
      some (claimedRecord row receipt ids.correlationId) := by
  obtain ⟨row, present, event⟩ := carries.outbox
  refine ⟨row, ?_⟩
  have recorded : pipeline.guard.receipts.get? (p.tenantId, row.sourceEventId) = some receipt := by
    rw [event]
    exact carries.receipt
  simp [Trust.claimedRecord?, present, recorded]

theorem Enqueued.carries {innerNow : Instant} {p : ReplayCandidate} {ids : DrawnIds}
    {pipeline next : EvidencePipeline}
    (enqueued : Enqueued digests innerNow p ids pipeline next) :
    ∃ influence, Carries p ids (p.receipt digests innerNow influence) next := by
  obtain ⟨influence, inserted, _⟩ := enqueued.guard
  have event : (p.receipt digests innerNow influence).key = p.event := rfl
  let row : EvidenceOutboxRow :=
    ⟨p.tenantId, p.eventId, ids.deliveryEventId, ids.evidenceId, .pending⟩
  have delivery : row.key = (p.tenantId, ids.deliveryEventId) := rfl
  refine ⟨influence, ?_, row, ?_, rfl⟩
  · rw [Table.get?_insertNew inserted, if_pos event]
  · rw [Table.get?_insertNew enqueued.outbox, if_pos delivery]

theorem ReachableInTime.timely {pipeline : EvidencePipeline}
    (reachable : ReachableInTime digests pipeline) : PipelineTimely pipeline := by
  obtain ⟨start, ops, fresh, inTime, rfl⟩ := reachable
  have step : ∀ state op next reply, PipelineTimely state → InTime state op →
      applyPipeline digests op state = .ok (next, reply) → PipelineTimely next :=
    fun _ _ _ _ timely inTime succeeded => timely.step inTime succeeded
  exact Transaction.run_preserves_guarded PipelineTimely step start ops inTime fresh.timely

/-- The delivery of an item has the times of its receipt. -/
theorem Carries.delivery {p : ReplayCandidate} {ids : DrawnIds} {receipt : IngestionReceipt}
    {pipeline : EvidencePipeline} (carries : Carries p ids receipt pipeline)
    (timely : PipelineTimely pipeline) {delivery : PublishedDelivery}
    (found : pipeline.trust.delivery? p.tenantId ids.deliveryEventId = some delivery) :
    delivery.observedAt = receipt.observedAt ∧ delivery.acceptedAt = receipt.acceptedAt := by
  obtain ⟨row, other, present, recorded, observed, accepted⟩ := delivery?_rows found
  obtain ⟨same, stored, event⟩ := carries.outbox
  obtain rfl : row = same := Option.some.inj (present.symm.trans stored)
  obtain ⟨_, full, again, rfl⟩ := timely.receipts _ other recorded
  rw [event] at again
  obtain rfl : full = receipt := Option.some.inj (again.symm.trans carries.receipt)
  exact ⟨observed, accepted⟩

/-- A worker can sign a record whose times are in order to the millisecond. -/
theorem signable_iff {row : EvidenceOutboxRow} {receipt : IngestionReceipt}
    {correlationId : CorrelationId} (sequence : isSourceSequence receipt.sourceSequence = true) :
    (validateAcceptedRecord (claimedRecord row receipt correlationId)).isOk = true ↔
      milliseconds receipt.observedAt ≤ milliseconds receipt.acceptedAt ∧
        milliseconds receipt.acceptedAt < milliseconds receipt.expiresAt := by
  rw [validateAcceptedRecord_isOk]
  constructor
  · rintro ⟨_, _, observed, current⟩
    exact ⟨observed, current⟩
  · rintro ⟨observed, current⟩
    exact ⟨sequence, lt_of_le_of_lt observed current, observed, current⟩

/-- The first publication of an item that has just been accepted. -/
theorem Enqueued.publishes {innerNow : Instant} {p : ReplayCandidate} {ids : DrawnIds}
    {pipeline next : EvidencePipeline} (timely : PipelineTimely pipeline)
    (enqueued : Enqueued digests innerNow p ids pipeline next)
    (sequence : isSourceSequence p.sourceSequence = true)
    (observed : milliseconds p.observedAt ≤ milliseconds innerNow)
    (current : milliseconds innerNow < milliseconds p.expiresAt) :
    ∃ published, applyPipeline digests (.publish p.tenantId ids 1 ⟨0⟩) next = .ok (published, ()) ∧
      (∀ consumerName, published.trust.effects.get?
        (consumerName, p.tenantId, ids.deliveryEventId) = none) ∧
      ∃ delivery, published.trust.delivery? p.tenantId ids.deliveryEventId = some delivery ∧
        delivery.evidenceId = ids.evidenceId ∧ delivery.streamSequence = 1 ∧
        delivery.signedEventSha256 = ⟨0⟩ ∧ delivery.observedAt = p.observedAt ∧
        delivery.acceptedAt = innerNow := by
  obtain ⟨influence, inserted, recorded⟩ := enqueued.guard
  let receipt := p.receipt digests innerNow influence
  let row : EvidenceOutboxRow :=
    ⟨p.tenantId, p.eventId, ids.deliveryEventId, ids.evidenceId, .pending⟩
  let sent : EvidenceOutboxRow := { row with delivery := .published 1 ⟨0⟩ }
  have event : receipt.key = p.event := rfl
  have consumedEvent : receipt.consumed.key = (p.tenantId, p.eventId) := rfl
  have key : row.key = (p.tenantId, ids.deliveryEventId) := rfl
  have sentKey : sent.key = (p.tenantId, ids.deliveryEventId) := rfl
  have present : next.trust.outbox.get? (p.tenantId, ids.deliveryEventId) = some row := by
    rw [Table.get?_insertNew enqueued.outbox, if_pos key]
  have full : next.guard.receipts.get? (p.tenantId, p.eventId) = some receipt := by
    rw [Table.get?_insertNew inserted]
    exact if_pos event
  have record : claimedRecord? next p.tenantId ids.deliveryEventId ids.correlationId =
      some (claimedRecord row receipt ids.correlationId) := by
    simp only [claimedRecord?, present, Option.bind_eq_bind, Option.bind_some]
    rw [show row.sourceEventId = p.eventId from rfl, full]
    rfl
  obtain ⟨value, validated⟩ : ∃ value,
      validateAcceptedRecord (claimedRecord row receipt ids.correlationId) = .ok value := by
    have signs : (validateAcceptedRecord (claimedRecord row receipt ids.correlationId)).isOk =
        true :=
      (signable_iff sequence).mpr ⟨observed, current⟩
    cases validated : validateAcceptedRecord (claimedRecord row receipt ids.correlationId) with
    | error failure => simp [validated, Except.isOk, Except.toBool] at signs
    | ok value => exact ⟨value, rfl⟩
  refine ⟨{ next with trust := { next.trust with outbox := next.trust.outbox.replace sent } },
    ?_, ?_, ?_⟩
  · simp only [applyPipeline, Checked.bind_eq_ok, publishEvidence, liftDatabase_eq_ok,
      Checked.requireSome_eq_ok, Checked.pure_eq_ok, Checked.require_eq_ok,
      Checked.mapError_eq_ok, exists_const]
    exact ⟨_, ⟨row, present, _, record, value, validated, ⟨rfl, le_refl 1⟩, rfl⟩, rfl⟩
  · intro consumerName
    dsimp only
    rw [enqueued.effects]
    cases found : pipeline.trust.effects.get?
        (consumerName, p.tenantId, ids.deliveryEventId) with
    | none => rfl
    | some effect =>
        obtain ⟨old, stored⟩ := timely.effects _ effect found
        obtain ⟨fresh, _⟩ := Table.insertNew_eq_some.mp enqueued.outbox
        exact absurd (stored.symm.trans fresh) (by simp)
  · have joined : next.trust.receipts.get? (p.tenantId, p.eventId) = some receipt.consumed := by
      rw [Table.get?_insertNew recorded]
      exact if_pos consumedEvent
    have stored : (next.trust.outbox.replace sent).get? (p.tenantId, ids.deliveryEventId) =
        some sent := by
      rw [Table.get?_replace _ (by rw [sentKey]; exact present), if_pos sentKey]
    have found : ({ next.trust with outbox := next.trust.outbox.replace sent } :
        TrustDatabase).delivery? p.tenantId ids.deliveryEventId =
          publishedDelivery sent receipt.consumed := by
      simp only [TrustDatabase.delivery?, stored, Option.bind_eq_bind, Option.bind_some]
      rw [show sent.sourceEventId = p.eventId from rfl, joined]
      rfl
    exact ⟨_, found, rfl, rfl, rfl, rfl, rfl⟩

/-- A first consumer, whose clock is that of the pipeline. -/
def firstSession (clock : Instant) : TrustSession := ⟨clock, fun _ _ => true, fun _ => none⟩

def firstConsumption (tenantId : TenantId) (ids : DrawnIds) (clock : Instant) :
    ConsumptionCall where
  consumerName := "trust-engine"
  tenantId := tenantId
  deliveryEventId := ids.deliveryEventId
  evidenceId := ids.evidenceId
  streamSequence := 1
  signedEventSha256 := ⟨0⟩
  componentScore := 0
  processedAt := clock

theorem firstConsumption_isWorkerId : isWorkerId "trust-engine" = true := by decide

theorem firstConsumption_inTolerance (tenantId : TenantId) (ids : DrawnIds) (clock : Instant) :
    InTolerance (firstSession clock) (firstConsumption tenantId ids clock) where
  score := show inRange 0 = true by decide
  notAhead := le_add_of_nonneg_right (by decide)
  notBehind := le_add_of_nonneg_right (by decide)
  configuration := by
    intro configuration active
    cases active

/-- A published item that was observed after it was accepted stops its first consumer. -/
theorem early_not_travels {pipeline : EvidencePipeline} {p : ReplayCandidate} {ids : DrawnIds}
    {delivery : PublishedDelivery}
    (unconsumed : ∀ consumerName, pipeline.trust.effects.get?
      (consumerName, p.tenantId, ids.deliveryEventId) = none)
    (found : pipeline.trust.delivery? p.tenantId ids.deliveryEventId = some delivery)
    (evidenceId : delivery.evidenceId = ids.evidenceId)
    (streamSequence : delivery.streamSequence = 1)
    (signedEventSha256 : delivery.signedEventSha256 = ⟨0⟩)
    (early : delivery.acceptedAt < delivery.observedAt) : ¬ Travels p ids pipeline := by
  intro travels
  let call := firstConsumption p.tenantId ids pipeline.clock
  have tolerance := firstConsumption_inTolerance p.tenantId ids pipeline.clock
  have named : call.names delivery = true := by
    simp only [ConsumptionCall.names, evidenceId, streamSequence, signedEventSha256]
    simp [call, firstConsumption]
  have authoritative : authoritativeDelivery? call pipeline.trust = some delivery :=
    Option.filter_eq_some_iff.mpr ⟨found, named⟩
  have refused : consumeValidatedEvidenceComponent (firstSession pipeline.clock) call
      pipeline.trust = .error (.checkViolation "subject_component_observations") :=
    consume_refuses ⟨tolerance.score, tolerance.notAhead⟩
      ⟨firstConsumption_isWorkerId, le_refl 1⟩ authoritative (unconsumed _) early
  exact travels.consumed (firstSession pipeline.clock) call rfl rfl (le_refl _) tolerance _
    refused (by decide)

/-- An accepted item passes every later stage, in every run that follows, exactly if it was
observed no later than it was accepted and expires in a later millisecond. -/
theorem accepted_evidence_travels_iff (digests : EvidenceDigests)
    {pipeline next : EvidencePipeline} (reachable : ReachableInTime digests pipeline)
    {session : GuardSession} {now innerNow : Instant} {p : ReplayCandidate} {ids : DrawnIds}
    {guard : EvidenceDatabase} {decision : GuardDecision}
    (guarded : applyEvidenceReplayGuard digests session now innerNow p pipeline.guard =
      .ok (guard, decision)) (accepted : decision.accepted = true)
    (submitted : submitEvidence digests session now innerNow p ids pipeline = .ok next) :
    (∀ ops, Transaction.Guarded (applyPipeline digests) InTime next ops →
      Travels p ids (runPipeline digests next ops)) ↔
      p.observedAt ≤ innerNow ∧ milliseconds innerNow < milliseconds p.expiresAt := by
  have sequence : isSourceSequence p.sourceSequence = true := by
    have wellFormed := applyEvidenceReplayGuard_wellFormed guarded accepted
    simp only [ReplayCandidate.wellFormed, Bool.and_eq_true] at wellFormed
    exact wellFormed.1
  have enqueued : Enqueued digests innerNow p ids pipeline next := by
    obtain ⟨_, again, same, ⟨refused, _⟩ | ⟨_, enqueued⟩⟩ := submitEvidence_cases submitted
    · rw [guarded] at same
      obtain ⟨_, rfl⟩ := Prod.mk.inj (Except.ok.inj same)
      simp [accepted] at refused
    · exact enqueued
  obtain ⟨influence, carries⟩ := enqueued.carries
  constructor
  · intro travels
    obtain ⟨record, claimed, passes⟩ := (travels [] trivial).signed
    obtain ⟨row, which⟩ := carries.claimedRecord?
    obtain rfl := Option.some.inj (which.symm.trans claimed)
    obtain ⟨observed, current⟩ := (signable_iff sequence).mp passes
    refine ⟨not_lt.mp fun early => ?_, current⟩
    obtain ⟨published, publication, unconsumed, delivery, found, evidenceId, streamSequence,
      signedEventSha256, observedAt, acceptedAt⟩ :=
      enqueued.publishes reachable.timely sequence observed current
    have after := travels [.publish p.tenantId ids 1 ⟨0⟩] ⟨trivial, trivial⟩
    rw [runPipeline, Transaction.run_cons, Transaction.commit_ok publication,
      Transaction.run_nil] at after
    rw [← observedAt, ← acceptedAt] at early
    exact early_not_travels unconsumed found evidenceId streamSequence signedEventSha256 early
      after
  · rintro ⟨observed, current⟩ ops inTime
    have timely : PipelineTimely (runPipeline digests next ops) := by
      have step : ∀ state op after reply, PipelineTimely state → InTime state op →
          applyPipeline digests op state = .ok (after, reply) → PipelineTimely after :=
        fun _ _ _ _ timely inTime succeeded => timely.step inTime succeeded
      exact Transaction.run_preserves_guarded PipelineTimely step next ops inTime
        (reachable.timely.of_enqueued enqueued)
    have carried : Carries p ids (p.receipt digests innerNow influence)
        (runPipeline digests next ops) := by
      have step : ∀ state op after reply,
          Carries p ids (p.receipt digests innerNow influence) state →
          applyPipeline digests op state = .ok (after, reply) →
          Carries p ids (p.receipt digests innerNow influence) after :=
        fun _ _ _ _ carried succeeded => carried.step succeeded
      exact Transaction.run_preserves step next ops carries
    constructor
    · obtain ⟨row, which⟩ := carried.claimedRecord?
      exact ⟨_, which, (signable_iff sequence).mpr
        ⟨Int.ediv_le_ediv (by norm_num) observed, current⟩⟩
    · intro session call tenant deliveryEvent reached tolerance
      refine consume_avoids tolerance (timely.observations.later reached) ?_
      intro delivery found
      have past := timely.delivery found
      rw [tenant, deliveryEvent] at found
      obtain ⟨observedAt, acceptedAt⟩ := carried.delivery timely found
      refine ⟨?_, le_trans past reached⟩
      rw [observedAt, acceptedAt]
      exact observed

namespace TravelScenario

def start : EvidencePipeline where
  clock := 0
  guard := FloodScenario.start
  trust := TrustDatabase.empty

theorem start_fresh : start.Fresh := ⟨⟨rfl, rfl, rfl⟩, rfl, rfl, ⟨rfl, rfl, rfl, rfl⟩⟩

theorem start_reachable : ReachableInTime FloodScenario.hashes start :=
  ⟨start, [], start_fresh, trivial, rfl⟩

def ids : DrawnIds := ⟨⟨7⟩, ⟨8⟩, ⟨9⟩⟩

/-- The item is observed when the clock reads one second. -/
def guarded (innerNow : Instant) : Except SqlError (EvidenceDatabase × GuardDecision) :=
  applyEvidenceReplayGuard FloodScenario.hashes FloodScenario.session innerNow innerNow
    (FloodScenario.candidate 0) FloodScenario.start

def submitted (innerNow : Instant) : Except PipelineFailure EvidencePipeline :=
  submitEvidence FloodScenario.hashes FloodScenario.session innerNow innerNow
    (FloodScenario.candidate 0) ids start

def isAccepted : Except SqlError (EvidenceDatabase × GuardDecision) → Bool
  | .ok (_, decision) => decision.accepted
  | .error _ => false

def signature : Except PipelineFailure EvidencePipeline → Option Bool
  | .ok next =>
      (claimedRecord? next (FloodScenario.candidate 0).tenantId ids.deliveryEventId
        ids.correlationId).map fun record => (validateAcceptedRecord record).isOk
  | .error _ => none

end TravelScenario

/-- An item that the source's clock dates half a second ahead is accepted and is never signed. -/
theorem early_evidence_is_never_signed :
    ¬ ∀ (digests : EvidenceDigests) (pipeline next : EvidencePipeline),
      ReachableInTime digests pipeline →
      ∀ session now innerNow p ids guard decision,
        applyEvidenceReplayGuard digests session now innerNow p pipeline.guard =
          .ok (guard, decision) → decision.accepted = true →
        submitEvidence digests session now innerNow p ids pipeline = .ok next →
        ∀ ops, Transaction.Guarded (applyPipeline digests) InTime next ops →
          Travels p ids (runPipeline digests next ops) := by
  intro claim
  have accepted : TravelScenario.isAccepted (TravelScenario.guarded 500000) = true := by
    decide +kernel
  have refused : TravelScenario.signature (TravelScenario.submitted 500000) = some false := by
    decide +kernel
  cases guarded : TravelScenario.guarded 500000 with
  | error failure => simp [guarded, TravelScenario.isAccepted] at accepted
  | ok pair =>
      obtain ⟨guard, decision⟩ := pair
      cases submitted : TravelScenario.submitted 500000 with
      | error failure => simp [submitted, TravelScenario.signature] at refused
      | ok next =>
          obtain ⟨record, claimed, passes⟩ := (claim FloodScenario.hashes TravelScenario.start next
            TravelScenario.start_reachable FloodScenario.session 500000 500000
            (FloodScenario.candidate 0) TravelScenario.ids guard decision guarded
            (by simpa [guarded, TravelScenario.isAccepted] using accepted) submitted []
            trivial).signed
          dsimp only [runPipeline, Transaction.run, List.foldl] at claimed
          simp [submitted, TravelScenario.signature, claimed, passes] at refused

/-- An item that is accepted when it is observed. -/
theorem accepted_evidence_travels_promptly :
    ∃ guard decision next, TravelScenario.guarded (interval 1) = .ok (guard, decision) ∧
      decision.accepted = true ∧ TravelScenario.submitted (interval 1) = .ok next ∧
      ∀ ops, Transaction.Guarded (applyPipeline FloodScenario.hashes) InTime next ops →
        Travels (FloodScenario.candidate 0) TravelScenario.ids
          (runPipeline FloodScenario.hashes next ops) := by
  have accepted : TravelScenario.isAccepted (TravelScenario.guarded (interval 1)) = true := by
    decide +kernel
  have signed : TravelScenario.signature (TravelScenario.submitted (interval 1)) = some true := by
    decide +kernel
  cases guarded : TravelScenario.guarded (interval 1) with
  | error failure => simp [guarded, TravelScenario.isAccepted] at accepted
  | ok pair =>
      obtain ⟨guard, decision⟩ := pair
      have isAccepted : decision.accepted = true := by
        simpa [guarded, TravelScenario.isAccepted] using accepted
      cases submitted : TravelScenario.submitted (interval 1) with
      | error failure => simp [submitted, TravelScenario.signature] at signed
      | ok next =>
          exact ⟨guard, decision, next, rfl, isAccepted, rfl,
            (accepted_evidence_travels_iff FloodScenario.hashes TravelScenario.start_reachable
              guarded isAccepted submitted).mpr (by decide)⟩

end TenantTrust.Trust
