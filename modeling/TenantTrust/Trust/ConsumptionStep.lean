import TenantTrust.Trust.EvidenceConsumption

/-! What one consumption call does to the trust tables when it commits. -/

namespace TenantTrust.Trust

open Library Identity

theorem authoritativeDelivery?_eq_some {p : ConsumptionCall} {db : TrustDatabase}
    {delivery : PublishedDelivery} (found : authoritativeDelivery? p db = some delivery) :
    db.delivery? p.tenantId p.deliveryEventId = some delivery ∧ p.names delivery := by
  exact Option.filter_eq_some_iff.mp found

/-- Five rows are staged exactly when every component has one. -/
theorem stagedComponents_eq_some {db : TrustDatabase} {tenantId : TenantId}
    {subjectId : SubjectId} {staged : Components ComponentObservation} :
    stagedComponents db tenantId subjectId = some staged ↔
      ∀ evidenceType, db.observations.get? (tenantId, subjectId, evidenceType) =
        some (staged.get evidenceType) := by
  constructor
  · intro complete
    simp only [stagedComponents, Option.bind_eq_bind, Option.bind_eq_some_iff,
      Option.pure_def, Option.some.injEq] at complete
    obtain ⟨_, identity, _, device, _, behaviour, _, certificate, _, compliance, rfl⟩ := complete
    intro evidenceType
    cases evidenceType with
    | identity => exact identity
    | device => exact device
    | behaviour => exact behaviour
    | certificate => exact certificate
    | compliance => exact compliance
  · intro rows
    have identity := rows .identity
    have device := rows .device
    have behaviour := rows .behaviour
    have certificate := rows .certificate
    have compliance := rows .compliance
    simp only [Components.get] at identity device behaviour certificate compliance
    simp [stagedComponents, identity, device, behaviour, certificate, compliance]

/-- The staging table after one component row passed its checks and was inserted or replaced. -/
structure Restaged (row : ComponentObservation)
    (before after : Table ComponentObservation ComponentObservation.key) : Prop where
  rows : ∀ key, after.get? key = if row.key = key then some row else before.get? key
  newer : ∀ existing, before.get? row.key = some existing → existing.stamp < row.stamp
  checked : observationChecks row = true

theorem upsertObservation_cases {row : ComponentObservation} {before after : TrustDatabase}
    {changed : Bool} (succeeds : upsertObservation row before = .ok (after, changed)) :
    (changed = false ∧ after = before ∧
      ∃ existing, before.observations.get? row.key = some existing ∧ row.stamp ≤ existing.stamp) ∨
    (changed = true ∧ ∃ observations, after = { before with observations := observations } ∧
      Restaged row before.observations observations) := by
  simp only [upsertObservation, Checked.bind_eq_ok, Checked.require_eq_ok,
    exists_const] at succeeds
  obtain ⟨checked, succeeds⟩ := succeeds
  cases present : before.observations.get? row.key with
  | none =>
      simp only [present, Checked.bind_eq_ok, Checked.require_eq_ok, Checked.requireSome_eq_ok,
        Checked.pure_eq_ok, exists_const, Prod.mk.injEq] at succeeds
      obtain ⟨_, observations, inserted, rfl, rfl⟩ := succeeds
      right
      refine ⟨rfl, observations, rfl, Table.get?_insertNew inserted, ?_, checked⟩
      intro existing found
      rw [present] at found
      cases found
  | some existing =>
      simp only [present] at succeeds
      by_cases newer : existing.stamp < row.stamp
      · simp only [newer, if_true, Checked.bind_eq_ok, Checked.require_eq_ok,
          Checked.pure_eq_ok, exists_const, Prod.mk.injEq] at succeeds
        obtain ⟨_, rfl, rfl⟩ := succeeds
        right
        refine ⟨rfl, _, rfl, Table.get?_replace _ present, ?_, checked⟩
        intro other found
        rw [present, Option.some.injEq] at found
        rwa [← found]
      · simp only [newer, if_false, Checked.pure_eq_ok, Prod.mk.injEq] at succeeds
        obtain ⟨rfl, rfl⟩ := succeeds
        left
        exact ⟨rfl, rfl, existing, rfl, not_lt.mp newer⟩

theorem recordEvidenceEventEffect_cases {session : TrustSession} {p : ConsumptionCall}
    {before after : TrustDatabase} {recorded : Bool}
    (succeeds : recordEvidenceEventEffect session p before = .ok (after, recorded)) :
    (recorded = false ∧ after = before ∧
      ∃ existing, before.effects.get? p.effect.key = some existing)
    ∨ (recorded = true ∧ ∃ effects, before.effects.insertNew p.effect = some effects ∧
      after = { before with effects := effects }) := by
  simp only [recordEvidenceEventEffect, Checked.bind_eq_ok, Checked.require_eq_ok,
    exists_const] at succeeds
  obtain ⟨_, _, succeeds⟩ := succeeds
  cases present : before.effects.get? p.effect.key with
  | none =>
      simp only [present, Checked.bind_eq_ok, Checked.requireSome_eq_ok, Checked.pure_eq_ok,
        Prod.mk.injEq] at succeeds
      obtain ⟨effects, inserted, rfl, rfl⟩ := succeeds
      exact Or.inr ⟨rfl, effects, inserted, rfl⟩
  | some existing =>
      simp only [present, Checked.bind_eq_ok, Checked.require_eq_ok, Checked.pure_eq_ok,
        exists_const, Prod.mk.injEq] at succeeds
      obtain ⟨_, rfl, rfl⟩ := succeeds
      exact Or.inl ⟨rfl, rfl, existing, rfl⟩

/-- The version table and the pointer after one new version of a subject was stored. -/
structure VersionStored (p : StoreCall) (version : TrustStateVersion)
    (before after : TrustDatabase) : Prop where
  shape : ∃ recordedAt,
    version = p.version ((currentVersion? before p.tenantId p.subjectId).getD 0 + 1) recordedAt
  inserted : before.versions.insertNew version = some after.versions
  pointed : after.current =
    before.current.upsert ⟨p.tenantId, p.subjectId, version.updateVersion⟩
  kept : after = { before with versions := after.versions, current := after.current }

theorem storeSubjectTrustState_cases {session : TrustSession} {p : StoreCall}
    {before after : TrustDatabase} {version : TrustStateVersion}
    (succeeds : storeSubjectTrustState session p before = .ok (after, version)) :
    VersionStored p version before after := by
  simp only [storeSubjectTrustState, Checked.bind_eq_ok, Checked.require_eq_ok,
    Checked.requireSome_eq_ok, Checked.pure_eq_ok, exists_const, Prod.mk.injEq] at succeeds
  obtain ⟨_, _, _, _, _, _, _, versions, inserted, rfl, rfl⟩ := succeeds
  exact ⟨⟨session.clock, rfl⟩, inserted, rfl, rfl⟩

/-- The ways in which a call for a delivery commits, one for each return of the procedure. -/
inductive ConsumptionStep (p : ConsumptionCall) (delivery : PublishedDelivery)
    (before : TrustDatabase) : TrustDatabase → ConsumptionOutcome → Prop where
  | duplicate (existing : EvidenceEffect)
      (present : before.effects.get? p.effect.key = some existing) :
      ConsumptionStep p delivery before before .duplicate
  | superseded (effects : Table EvidenceEffect EvidenceEffect.key)
      (existing : ComponentObservation)
      (recorded : before.effects.insertNew p.effect = some effects)
      (present : before.observations.get? delivery.componentKey = some existing)
      (older : delivery.stamp ≤ existing.stamp) :
      ConsumptionStep p delivery before { before with effects := effects } .superseded
  | staged (effects : Table EvidenceEffect EvidenceEffect.key)
      (observations : Table ComponentObservation ComponentObservation.key)
      (recorded : before.effects.insertNew p.effect = some effects)
      (restaged : Restaged (delivery.observation p.componentScore p.processedAt)
        before.observations observations)
      (incomplete : stagedComponents
        { before with effects := effects, observations := observations }
        delivery.tenantId delivery.subjectId = none) :
      ConsumptionStep p delivery before
        { before with effects := effects, observations := observations } .staged
  | stateUpdated (effects : Table EvidenceEffect EvidenceEffect.key)
      (observations : Table ComponentObservation ComponentObservation.key)
      (rows : Components ComponentObservation) (configuration : ActiveConfiguration)
      (version : TrustStateVersion) (after : TrustDatabase)
      (recorded : before.effects.insertNew p.effect = some effects)
      (restaged : Restaged (delivery.observation p.componentScore p.processedAt)
        before.observations observations)
      (complete : stagedComponents
        { before with effects := effects, observations := observations }
        delivery.tenantId delivery.subjectId = some rows)
      (stored : VersionStored
        (snapshotCall { before with effects := effects, observations := observations }
          delivery.tenantId delivery.subjectId configuration rows) version
        { before with effects := effects, observations := observations } after) :
      ConsumptionStep p delivery before after .stateUpdated

/-- A committed call names a published delivery and takes one of those ways. -/
theorem consume_cases {session : TrustSession} {p : ConsumptionCall}
    {before after : TrustDatabase} {reply : ConsumptionReply}
    (succeeds : consumeValidatedEvidenceComponent session p before = .ok (after, reply)) :
    ∃ delivery, before.delivery? p.tenantId p.deliveryEventId = some delivery ∧
      p.names delivery ∧ inRange p.componentScore ∧
      ConsumptionStep p delivery before after reply.outcome := by
  simp only [consumeValidatedEvidenceComponent, Checked.bind_eq_ok, Checked.require_eq_ok,
    Checked.requireSome_eq_ok, exists_const] at succeeds
  obtain
    ⟨⟨ranged, _⟩, delivery, authoritative, ⟨recordedDb, recorded⟩, effect, succeeds⟩ := succeeds
  obtain ⟨found, named⟩ := authoritativeDelivery?_eq_some authoritative
  refine ⟨delivery, found, named, ranged, ?_⟩
  rcases recordEvidenceEventEffect_cases effect with
    ⟨rfl, rfl, existing, present⟩ | ⟨rfl, effects, inserted, rfl⟩
  · simp only [Bool.false_eq_true, if_false, Checked.pure_eq_ok, Prod.mk.injEq] at succeeds
    obtain ⟨rfl, rfl⟩ := succeeds
    exact .duplicate existing present
  · simp only [if_true, Checked.bind_eq_ok] at succeeds
    obtain ⟨⟨stagedDb, changed⟩, staging, succeeds⟩ := succeeds
    rcases upsertObservation_cases staging with
      ⟨rfl, rfl, existing, present, older⟩ | ⟨rfl, observations, rfl, restaged⟩
    · simp only [Bool.false_eq_true, if_false, Checked.pure_eq_ok, Prod.mk.injEq] at succeeds
      obtain ⟨rfl, rfl⟩ := succeeds
      exact .superseded effects existing inserted present older
    · simp only [if_true, storeSnapshot] at succeeds
      split at succeeds
      · rename_i incomplete
        simp only [Checked.pure_eq_ok, Prod.mk.injEq] at succeeds
        obtain ⟨rfl, rfl⟩ := succeeds
        exact .staged effects observations inserted restaged incomplete
      · rename_i rows complete
        simp only [Checked.bind_eq_ok, Checked.requireSome_eq_ok, Checked.pure_eq_ok,
          Prod.mk.injEq] at succeeds
        obtain ⟨configuration, _, ⟨next, version⟩, stored, rfl, rfl⟩ := succeeds
        exact .stateUpdated effects observations rows configuration version next inserted
          restaged complete (storeSubjectTrustState_cases stored)

end TenantTrust.Trust
