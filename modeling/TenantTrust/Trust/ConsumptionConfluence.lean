import TenantTrust.Trust.ConsumptionStep

/-! Every order and multiplicity in which deliveries are consumed leads to the same
observations, with one effect for each delivery and contiguous versions. -/

namespace TenantTrust.Trust

open Library Identity

/-- The consumption of a delivery is on record. -/
def Consumed (db : TrustDatabase) (tenantId : TenantId) (deliveryEventId : EventId) : Prop :=
  ∃ effect ∈ db.effects, effect.tenantId = tenantId ∧ effect.deliveryEventId = deliveryEventId

/-- The stamps of the consumed deliveries of one component of a subject. -/
def offeredStamps (db : TrustDatabase) (key : ComponentKey) : Set ObservationStamp :=
  {stamp | ∃ delivery, db.delivery? key.1 delivery.deliveryEventId = some delivery ∧
    delivery.componentKey = key ∧ Consumed db key.1 delivery.deliveryEventId ∧
    delivery.stamp = stamp}

/-- The stored version has the scores and the references of the staged rows. -/
def TrustStateVersion.Carries (version : TrustStateVersion)
    (staged : Components ComponentObservation) : Prop :=
  version.components = staged.map ComponentObservation.componentScore ∧
  version.evidenceReferences = staged.toList.map ComponentObservation.reference

/-- What every run of consumption calls keeps, when each delivery has one score. -/
structure Settled (score : TenantId → EventId → ℚ) (db : TrustDatabase) : Prop where
  greatest : ∀ key row, db.observations.get? key = some row →
    IsGreatest (offeredStamps db key) row.stamp
  unstaged : ∀ key, db.observations.get? key = none → offeredStamps db key = ∅
  origin : ∀ key row, db.observations.get? key = some row → ∃ delivery processedAt,
    db.delivery? key.1 delivery.deliveryEventId = some delivery ∧
    row = delivery.observation (score key.1 delivery.deliveryEventId) processedAt
  snapshot : ∀ tenantId subjectId staged, stagedComponents db tenantId subjectId = some staged →
    ∃ n version, currentVersion? db tenantId subjectId = some n ∧
      db.versions.get? (tenantId, subjectId, n) = some version ∧ version.Carries staged
  contiguous : ∀ tenantId subjectId n,
    (db.versions.get? (tenantId, subjectId, n)).isSome ↔
      1 ≤ n ∧ n ≤ (currentVersion? db tenantId subjectId).getD 0

variable {score : TenantId → EventId → ℚ}

theorem Settled.fresh {db : TrustDatabase} (fresh : db.Fresh) : Settled score db := by
  have noRow : ∀ key, db.observations.get? key = none := by
    intro key
    rw [fresh.observations]
    rfl
  refine ⟨?_, ?_, ?_, ?_, ?_⟩
  · intro key row found
    rw [noRow] at found
    cases found
  · intro key _
    apply Set.eq_empty_of_forall_notMem
    intro stamp offered
    obtain ⟨_, _, _, ⟨effect, member, _⟩, _⟩ := offered
    rw [fresh.effects] at member
    exact Table.not_mem_empty effect member
  · intro key row found
    rw [noRow] at found
    cases found
  · intro tenantId subjectId staged complete
    have identity := stagedComponents_eq_some.mp complete .identity
    rw [noRow] at identity
    cases identity
  · intro tenantId subjectId n
    have noVersion : db.versions.get? (tenantId, subjectId, n) = none := by
      rw [fresh.versions]
      rfl
    have noCurrent : currentVersion? db tenantId subjectId = none := by
      rw [currentVersion?, fresh.current]
      rfl
    rw [noVersion, noCurrent]
    simp
    omega

section Recording

variable {p : ConsumptionCall} {before : TrustDatabase} (after : TrustDatabase)
  {delivery : PublishedDelivery}

theorem consumed_of_recorded (recorded : before.effects.insertNew p.effect = some after.effects)
    (tenantId : TenantId) (deliveryEventId : EventId) :
    Consumed after tenantId deliveryEventId ↔ Consumed before tenantId deliveryEventId ∨
      (p.tenantId = tenantId ∧ p.deliveryEventId = deliveryEventId) := by
  constructor
  · intro consumed
    obtain ⟨effect, member, same⟩ := consumed
    rcases (Table.mem_insertNew recorded effect).mp member with old | rfl
    · exact Or.inl ⟨effect, old, same⟩
    · exact Or.inr same
  · intro consumed
    rcases consumed with ⟨effect, member, same⟩ | same
    · exact ⟨effect, (Table.mem_insertNew recorded effect).mpr (Or.inl member), same⟩
    · exact ⟨p.effect, (Table.mem_insertNew recorded _).mpr (Or.inr rfl), same⟩

/-- Recording the effect of a delivery offers its stamp to its own component only. -/
theorem offeredStamps_of_recorded
    (recorded : before.effects.insertNew p.effect = some after.effects)
    (same : ∀ tenantId d, after.delivery? tenantId d = before.delivery? tenantId d)
    (found : before.delivery? p.tenantId p.deliveryEventId = some delivery)
    (key : ComponentKey) :
    offeredStamps after key =
      if delivery.componentKey = key then insert delivery.stamp (offeredStamps before key)
      else offeredStamps before key := by
  obtain ⟨tenant, event⟩ := TrustDatabase.delivery?_key found
  have offered : ∀ stamp, stamp ∈ offeredStamps after key ↔
      stamp ∈ offeredStamps before key ∨
        (delivery.componentKey = key ∧ stamp = delivery.stamp) := by
    intro stamp
    constructor
    · intro member
      obtain ⟨other, otherFound, otherKey, consumed, rfl⟩ := member
      rw [same] at otherFound
      rcases (consumed_of_recorded after recorded _ _).mp consumed with old | ⟨atTenant, atEvent⟩
      · exact Or.inl ⟨other, otherFound, otherKey, old, rfl⟩
      · rw [← atTenant, ← atEvent, found, Option.some.injEq] at otherFound
        rw [otherFound]
        exact Or.inr ⟨otherKey, rfl⟩
    · intro member
      rcases member with ⟨other, otherFound, otherKey, consumed, rfl⟩ | ⟨rfl, rfl⟩
      · exact ⟨other, (same _ _).trans otherFound, otherKey,
          (consumed_of_recorded after recorded _ _).mpr (Or.inl consumed), rfl⟩
      · refine ⟨delivery, ?_, rfl, ?_, rfl⟩
        · change after.delivery? delivery.tenantId delivery.deliveryEventId = some delivery
          rw [same, tenant, event, found]
        · exact (consumed_of_recorded after recorded _ _).mpr (Or.inr ⟨tenant.symm, event.symm⟩)
  ext stamp
  rw [offered]
  split
  · rename_i atKey
    simp [atKey, or_comm]
  · rename_i elsewhere
    simp [elsewhere]

end Recording

/-- The staging tables of an after-state hold the greatest consumed delivery again. -/
theorem Settled.restage {p : ConsumptionCall} {before : TrustDatabase}
    {delivery : PublishedDelivery} (settled : Settled score before) (after : TrustDatabase)
    (recorded : before.effects.insertNew p.effect = some after.effects)
    (same : ∀ tenantId d, after.delivery? tenantId d = before.delivery? tenantId d)
    (found : before.delivery? p.tenantId p.deliveryEventId = some delivery)
    (restaged : Restaged (delivery.observation p.componentScore p.processedAt)
      before.observations after.observations) :
    (∀ key row, after.observations.get? key = some row →
      IsGreatest (offeredStamps after key) row.stamp) ∧
    (∀ key, after.observations.get? key = none → offeredStamps after key = ∅) := by
  have offered := offeredStamps_of_recorded after recorded same found
  constructor
  · intro key row present
    rw [restaged.rows, PublishedDelivery.observation_key] at present
    rw [offered]
    by_cases atKey : delivery.componentKey = key
    · simp only [atKey, if_true, Option.some.injEq] at present ⊢
      rw [← present, PublishedDelivery.observation_stamp]
      cases old : before.observations.get? key with
      | none =>
          rw [settled.unstaged key old]
          simp
      | some existing =>
          have greatest := (settled.greatest key existing old).insert delivery.stamp
          have newer : existing.stamp < delivery.stamp := by
            refine restaged.newer existing ?_
            rw [PublishedDelivery.observation_key, atKey, old]
          rwa [max_eq_left newer.le] at greatest
    · simp only [atKey, if_false] at present ⊢
      exact settled.greatest key row present
  · intro key absent
    rw [restaged.rows, PublishedDelivery.observation_key] at absent
    rw [offered]
    by_cases atKey : delivery.componentKey = key
    · simp [atKey] at absent
    · simp only [atKey, if_false] at absent ⊢
      exact settled.unstaged key absent

theorem Settled.restageOrigin {p : ConsumptionCall} {before : TrustDatabase}
    {delivery : PublishedDelivery} (settled : Settled score before) (after : TrustDatabase)
    (scored : p.componentScore = score p.tenantId p.deliveryEventId)
    (same : ∀ tenantId d, after.delivery? tenantId d = before.delivery? tenantId d)
    (found : before.delivery? p.tenantId p.deliveryEventId = some delivery)
    (restaged : Restaged (delivery.observation p.componentScore p.processedAt)
      before.observations after.observations)
    (key : ComponentKey) (row : ComponentObservation)
    (present : after.observations.get? key = some row) :
    ∃ source processedAt, after.delivery? key.1 source.deliveryEventId = some source ∧
      row = source.observation (score key.1 source.deliveryEventId) processedAt := by
  obtain ⟨tenant, event⟩ := TrustDatabase.delivery?_key found
  rw [restaged.rows, PublishedDelivery.observation_key] at present
  by_cases atKey : delivery.componentKey = key
  · simp only [atKey, if_true, Option.some.injEq] at present
    refine ⟨delivery, p.processedAt, ?_, ?_⟩
    · rw [← atKey, same]
      change before.delivery? delivery.tenantId delivery.deliveryEventId = some delivery
      rw [tenant, event, found]
    · rw [← present, scored, ← atKey]
      change _ = delivery.observation (score delivery.tenantId delivery.deliveryEventId) _
      rw [tenant, event]
  · simp only [atKey, if_false] at present
    obtain ⟨source, processedAt, sourceFound, shape⟩ := settled.origin key row present
    exact ⟨source, processedAt, (same _ _).trans sourceFound, shape⟩

section Versions

variable {p : StoreCall} {version : TrustStateVersion} {before after : TrustDatabase}

theorem VersionStored.currentVersion? (stored : VersionStored p version before after)
    (tenantId : TenantId) (subjectId : SubjectId) :
    currentVersion? after tenantId subjectId =
      if (p.tenantId, p.subjectId) = (tenantId, subjectId) then some version.updateVersion
      else Trust.currentVersion? before tenantId subjectId := by
  unfold Trust.currentVersion?
  rw [stored.pointed, Table.get?_upsert]
  change Option.map _ (if (p.tenantId, p.subjectId) = (tenantId, subjectId) then _ else _) = _
  split
  · rfl
  · rfl

theorem VersionStored.get? (stored : VersionStored p version before after)
    (key : TenantId × SubjectId × Nat) :
    after.versions.get? key =
      if (p.tenantId, p.subjectId, version.updateVersion) = key then some version
      else before.versions.get? key := by
  obtain ⟨recordedAt, shape⟩ := stored.shape
  have same : version.key = (p.tenantId, p.subjectId, version.updateVersion) := by
    rw [shape]
    rfl
  rw [Table.get?_insertNew stored.inserted, same]

/-- A stored version continues the numbering of its subject and of no other. -/
theorem VersionStored.contiguous (stored : VersionStored p version before after)
    (contiguous : ∀ tenantId subjectId n,
      (before.versions.get? (tenantId, subjectId, n)).isSome ↔
        1 ≤ n ∧ n ≤ (Trust.currentVersion? before tenantId subjectId).getD 0)
    (tenantId : TenantId) (subjectId : SubjectId) (n : Nat) :
    (after.versions.get? (tenantId, subjectId, n)).isSome ↔
      1 ≤ n ∧ n ≤ (Trust.currentVersion? after tenantId subjectId).getD 0 := by
  obtain ⟨recordedAt, shape⟩ := stored.shape
  have next : version.updateVersion =
      (Trust.currentVersion? before p.tenantId p.subjectId).getD 0 + 1 := by
    rw [shape]
    rfl
  rw [stored.get?, stored.currentVersion?]
  by_cases here : (p.tenantId, p.subjectId) = (tenantId, subjectId)
  · obtain ⟨rfl, rfl⟩ := Prod.mk.injEq .. ▸ here
    have old := contiguous p.tenantId p.subjectId n
    by_cases isNew : version.updateVersion = n
    · simp only [isNew, if_true, Option.isSome_some, Option.getD_some, true_iff]
      omega
    · have other : (p.tenantId, p.subjectId, version.updateVersion) ≠
          (p.tenantId, p.subjectId, n) := by
        simp [isNew]
      rw [if_neg other, if_pos rfl, Option.getD_some, old]
      omega
  · have other : (p.tenantId, p.subjectId, version.updateVersion) ≠ (tenantId, subjectId, n) := by
      intro same
      simp only [Prod.mk.injEq] at same here
      exact here ⟨same.1, same.2.1⟩
    rw [if_neg other, if_neg here]
    exact contiguous tenantId subjectId n

end Versions

theorem stagedComponents_congr (left right : TrustDatabase) {tenantId : TenantId}
    {subjectId : SubjectId} (same : ∀ evidenceType,
      left.observations.get? (tenantId, subjectId, evidenceType) =
        right.observations.get? (tenantId, subjectId, evidenceType)) :
    stagedComponents left tenantId subjectId = stagedComponents right tenantId subjectId := by
  simp only [stagedComponents, same]

/-- A delivery restages no component of another subject. -/
theorem Restaged.elsewhere {delivery : PublishedDelivery} {componentScore : ℚ}
    {processedAt : Instant} (before after : TrustDatabase)
    (restaged : Restaged (delivery.observation componentScore processedAt)
      before.observations after.observations)
    {tenantId : TenantId} {subjectId : SubjectId}
    (other : (delivery.tenantId, delivery.subjectId) ≠ (tenantId, subjectId)) :
    stagedComponents after tenantId subjectId = stagedComponents before tenantId subjectId := by
  apply stagedComponents_congr
  intro evidenceType
  rw [restaged.rows, if_neg]
  intro same
  apply other
  have keys : (delivery.tenantId, delivery.subjectId, delivery.evidenceType) =
      (tenantId, subjectId, evidenceType) := same
  simp only [Prod.mk.injEq] at keys ⊢
  exact ⟨keys.1, keys.2.1⟩

/-- Storing the staged rows of a subject makes its current version carry them. -/
theorem VersionStored.carries {mid after : TrustDatabase} {tenantId : TenantId}
    {subjectId : SubjectId} {configuration : ActiveConfiguration}
    {rows : Components ComponentObservation} {version : TrustStateVersion}
    (stored : VersionStored (snapshotCall mid tenantId subjectId configuration rows) version
      mid after)
    (rounded : ∀ evidenceType, roundNumeric 2 (rows.get evidenceType).componentScore =
      (rows.get evidenceType).componentScore) : version.Carries rows := by
  obtain ⟨recordedAt, shape⟩ := stored.shape
  rw [shape]
  constructor
  · have entry := fun evidenceType => rounded evidenceType
    ext
    · exact entry .identity
    · exact entry .device
    · exact entry .behaviour
    · exact entry .certificate
    · exact entry .compliance
  · rfl

/-- One committed call keeps everything settled. -/
theorem Settled.step {p : ConsumptionCall} {before after : TrustDatabase}
    {delivery : PublishedDelivery} {outcome : ConsumptionOutcome}
    (settled : Settled score before)
    (scored : p.componentScore = score p.tenantId p.deliveryEventId)
    (found : before.delivery? p.tenantId p.deliveryEventId = some delivery)
    (step : ConsumptionStep p delivery before after outcome) : Settled score after := by
  cases step with
  | duplicate => exact settled
  | superseded effects existing recorded present older =>
      have offered := offeredStamps_of_recorded { before with effects := effects } recorded
        (fun _ _ => rfl) found
      have held : ∀ key row, before.observations.get? key = some row →
          delivery.componentKey = key → delivery.stamp ≤ row.stamp := by
        intro key row rowPresent atKey
        rw [← atKey, present, Option.some.injEq] at rowPresent
        rwa [← rowPresent]
      refine ⟨?_, ?_, settled.origin, settled.snapshot, settled.contiguous⟩
      · intro key row rowPresent
        rw [offered]
        split
        · rename_i atKey
          have greatest := (settled.greatest key row rowPresent).insert delivery.stamp
          rwa [max_eq_right (held key row rowPresent atKey)] at greatest
        · exact settled.greatest key row rowPresent
      · intro key absent
        rw [offered, if_neg]
        · exact settled.unstaged key absent
        · intro atKey
          rw [← atKey] at absent
          rw [absent] at present
          cases present
  | staged effects observations recorded restaged incomplete =>
      have rows := settled.restage
        { before with effects := effects, observations := observations }
        recorded (fun _ _ => rfl) found restaged
      have origin := settled.restageOrigin
        { before with effects := effects, observations := observations }
        scored (fun _ _ => rfl) found restaged
      refine ⟨rows.1, rows.2, origin, ?_, settled.contiguous⟩
      intro tenantId subjectId staged complete
      by_cases here : (delivery.tenantId, delivery.subjectId) = (tenantId, subjectId)
      · obtain ⟨rfl, rfl⟩ := Prod.mk.injEq .. ▸ here
        rw [incomplete] at complete
        cases complete
      · have kept := Restaged.elsewhere before
          { before with effects := effects, observations := observations }
          restaged here
        rw [kept] at complete
        exact settled.snapshot tenantId subjectId staged complete
  | stateUpdated effects observations rows configuration version after recorded restaged
      complete stored =>
      have sameObservations : after.observations = observations := by
        rw [stored.kept]
      have sameEffects : after.effects = effects := by
        rw [stored.kept]
      have sameDelivery : ∀ tenantId d,
          after.delivery? tenantId d = before.delivery? tenantId d := by
        intro tenantId d
        rw [stored.kept]
        rfl
      rw [← sameEffects] at recorded
      rw [← sameObservations] at restaged
      have restagedRows := settled.restage after recorded sameDelivery found restaged
      have origin := settled.restageOrigin after scored sameDelivery found restaged
      refine ⟨restagedRows.1, restagedRows.2, origin, ?_, ?_⟩
      · intro tenantId subjectId staged afterComplete
        by_cases here : (delivery.tenantId, delivery.subjectId) = (tenantId, subjectId)
        · have rowsAt := stagedComponents_eq_some.mp complete
          obtain ⟨rfl, rfl⟩ := Prod.mk.injEq .. ▸ here
          have sameRows : staged = rows := by
            rw [stagedComponents_congr after
              { before with effects := effects, observations := observations }
              (fun evidenceType => by rw [sameObservations]), complete,
              Option.some.injEq] at afterComplete
            exact afterComplete.symm
          refine ⟨version.updateVersion, version, ?_, ?_, ?_⟩
          · rw [stored.currentVersion?]
            exact if_pos rfl
          · rw [stored.get?]
            exact if_pos rfl
          · rw [sameRows]
            apply stored.carries
            intro evidenceType
            have present := rowsAt evidenceType
            rw [← sameObservations] at present
            obtain ⟨source, processedAt, _, shape⟩ := origin _ _ present
            rw [shape]
            exact roundNumeric_idem 2 _
        · rw [Restaged.elsewhere before after restaged here] at afterComplete
          obtain ⟨n, old, current, present, carries⟩ :=
            settled.snapshot tenantId subjectId staged afterComplete
          refine ⟨n, old, ?_, ?_, carries⟩
          · rw [stored.currentVersion?]
            exact (if_neg here).trans current
          · rw [stored.get?, if_neg]
            · exact present
            · intro same
              apply here
              have keys : (delivery.tenantId, delivery.subjectId, version.updateVersion) =
                  (tenantId, subjectId, n) := same
              simp only [Prod.mk.injEq] at keys ⊢
              exact ⟨keys.1, keys.2.1⟩
      · exact stored.contiguous settled.contiguous

end TenantTrust.Trust
