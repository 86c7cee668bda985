import Mathlib.Data.List.Induction
import TenantTrust.Trust.ConsumptionConfluence

/-! Runs of one consumer over the published deliveries, in any order and multiplicity. -/

namespace TenantTrust.Trust

open Library Identity

/-- Some call of the run for this delivery committed. -/
def Processed (db : TrustDatabase) (ops : List ConsumptionOp) (tenantId : TenantId)
    (deliveryEventId : EventId) : Prop :=
  ∃ front op back next reply, ops = front ++ op :: back ∧ op.call.tenantId = tenantId ∧
    op.call.deliveryEventId = deliveryEventId ∧
    applyConsumption op (runConsumption db front) = .ok (next, reply)

/-- A published delivery of the component that the run has processed. -/
def Offered (db : TrustDatabase) (ops : List ConsumptionOp) (key : ComponentKey)
    (delivery : PublishedDelivery) : Prop :=
  db.delivery? key.1 delivery.deliveryEventId = some delivery ∧ delivery.componentKey = key ∧
  Processed db ops key.1 delivery.deliveryEventId

theorem ConsumptionStep.delivery? {p : ConsumptionCall} {delivery : PublishedDelivery}
    {before after : TrustDatabase} {outcome : ConsumptionOutcome}
    (step : ConsumptionStep p delivery before after outcome) (tenantId : TenantId)
    (deliveryEventId : EventId) :
    after.delivery? tenantId deliveryEventId = before.delivery? tenantId deliveryEventId := by
  cases step with
  | duplicate => rfl
  | superseded => rfl
  | staged => rfl
  | stateUpdated _ _ _ _ _ _ _ _ _ stored =>
      rw [stored.kept]
      rfl

/-- After a committed call the effect of its delivery is on record, and no other is new. -/
theorem ConsumptionStep.consumed {p : ConsumptionCall} {delivery : PublishedDelivery}
    {before after : TrustDatabase} {outcome : ConsumptionOutcome}
    (step : ConsumptionStep p delivery before after outcome) (tenantId : TenantId)
    (deliveryEventId : EventId) :
    Consumed after tenantId deliveryEventId ↔ Consumed before tenantId deliveryEventId ∨
      (p.tenantId = tenantId ∧ p.deliveryEventId = deliveryEventId) := by
  cases step with
  | duplicate existing present =>
      have same := Table.get?_key present
      constructor
      · exact Or.inl
      · intro consumed
        rcases consumed with consumed | ⟨rfl, rfl⟩
        · exact consumed
        · refine ⟨existing, Table.get?_mem present, ?_⟩
          exact ⟨congrArg (fun k => k.2.1) same, congrArg (fun k => k.2.2) same⟩
  | superseded effects _ recorded =>
      exact consumed_of_recorded { before with effects := effects } recorded _ _
  | staged effects observations recorded =>
      exact consumed_of_recorded
        { before with effects := effects, observations := observations } recorded _ _
  | stateUpdated effects observations _ _ _ _ recorded _ _ stored =>
      have sameEffects : after.effects = effects := by
        rw [stored.kept]
      rw [← sameEffects] at recorded
      exact consumed_of_recorded after recorded _ _

/-- Effects are written under the consumer of the call. -/
theorem ConsumptionStep.consumer {p : ConsumptionCall} {delivery : PublishedDelivery}
    {before after : TrustDatabase} {outcome : ConsumptionOutcome}
    (step : ConsumptionStep p delivery before after outcome) :
    ∀ effect ∈ after.effects, effect ∈ before.effects ∨ effect.consumerName = p.consumerName := by
  have recordedOnly : ∀ effects, before.effects.insertNew p.effect = some effects →
      ∀ effect ∈ effects, effect ∈ before.effects ∨ effect.consumerName = p.consumerName := by
    intro effects recorded effect member
    rcases (Table.mem_insertNew recorded effect).mp member with old | rfl
    · exact Or.inl old
    · exact Or.inr rfl
  cases step with
  | duplicate => exact fun effect member => Or.inl member
  | superseded effects _ recorded => exact recordedOnly effects recorded
  | staged effects _ recorded => exact recordedOnly effects recorded
  | stateUpdated effects observations _ _ _ _ recorded _ _ stored =>
      have sameEffects : after.effects = effects := by
        rw [stored.kept]
      rw [sameEffects]
      exact recordedOnly effects recorded

section Run

variable {db : TrustDatabase} {score : TenantId → EventId → ℚ}

theorem settled_run (fresh : db.Fresh) (ops : List ConsumptionOp)
    (scored : ∀ op ∈ ops,
      op.call.componentScore = score op.call.tenantId op.call.deliveryEventId) :
    Settled score (runConsumption db ops) := by
  induction ops using List.reverseRecOn with
  | nil => exact .fresh fresh
  | append_singleton ops op ih =>
      have before := ih fun other member => scored other (List.mem_append_left _ member)
      rw [runConsumption, Transaction.run_concat]
      apply Transaction.commit_preserves before
      intro next reply committed
      obtain ⟨delivery, found, _, _, step⟩ := consume_cases committed
      exact before.step (scored op (by simp)) found step

theorem delivery?_run (ops : List ConsumptionOp) (tenantId : TenantId)
    (deliveryEventId : EventId) :
    (runConsumption db ops).delivery? tenantId deliveryEventId =
      db.delivery? tenantId deliveryEventId := by
  induction ops using List.reverseRecOn with
  | nil => rfl
  | append_singleton ops op ih =>
      rw [runConsumption, Transaction.run_concat]
      rcases Transaction.commit_cases applyConsumption (runConsumption db ops) op with
        aborted | ⟨reply, committed⟩
      · rw [aborted]
        exact ih
      · obtain ⟨delivery, _, _, _, step⟩ := consume_cases committed
        rw [step.delivery?]
        exact ih

theorem processed_concat (ops : List ConsumptionOp) (op : ConsumptionOp) (tenantId : TenantId)
    (deliveryEventId : EventId) :
    Processed db (ops ++ [op]) tenantId deliveryEventId ↔
      Processed db ops tenantId deliveryEventId ∨
      (op.call.tenantId = tenantId ∧ op.call.deliveryEventId = deliveryEventId ∧
        ∃ next reply, applyConsumption op (runConsumption db ops) = .ok (next, reply)) := by
  constructor
  · intro processed
    obtain ⟨front, found, back, next, reply, split_, tenant, event, committed⟩ := processed
    cases back using List.reverseRecOn with
    | nil =>
        obtain ⟨sameFront, sameOp⟩ := List.append_inj' split_ rfl
        obtain rfl := sameFront
        obtain rfl := List.singleton_injective sameOp
        exact Or.inr ⟨tenant, event, next, reply, committed⟩
    | append_singleton back last =>
        have shape : ops ++ [op] = (front ++ found :: back) ++ [last] := by
          simpa using split_
        obtain ⟨same, _⟩ := List.append_inj' shape rfl
        exact Or.inl ⟨front, found, back, next, reply, same, tenant, event, committed⟩
  · intro processed
    rcases processed with ⟨front, found, back, next, reply, rfl, rest⟩ |
      ⟨tenant, event, next, reply, committed⟩
    · exact ⟨front, found, back ++ [op], next, reply, by simp, rest⟩
    · exact ⟨ops, op, [], next, reply, rfl, tenant, event, committed⟩

/-- A delivery has an effect on record exactly when one of its calls committed. -/
theorem consumed_iff_processed (fresh : db.Fresh) (ops : List ConsumptionOp)
    (tenantId : TenantId) (deliveryEventId : EventId) :
    Consumed (runConsumption db ops) tenantId deliveryEventId ↔
      Processed db ops tenantId deliveryEventId := by
  induction ops using List.reverseRecOn with
  | nil =>
      constructor
      · intro consumed
        obtain ⟨effect, member, _⟩ := consumed
        rw [runConsumption, Transaction.run_nil, fresh.effects] at member
        exact absurd member (Table.not_mem_empty effect)
      · intro processed
        obtain ⟨front, op, back, _, _, split_, _⟩ := processed
        simp at split_
  | append_singleton ops op ih =>
      rw [processed_concat, ← ih, runConsumption, Transaction.run_concat]
      cases result : applyConsumption op (runConsumption db ops) with
      | error failure =>
          rw [Transaction.commit_error result]
          simp
      | ok pair =>
          obtain ⟨next, reply⟩ := pair
          obtain ⟨delivery, _, _, _, step⟩ := consume_cases result
          rw [Transaction.commit_ok result, step.consumed]
          simp

theorem consumer_run (fresh : db.Fresh) (consumer : String) (ops : List ConsumptionOp)
    (single : ∀ op ∈ ops, op.call.consumerName = consumer) :
    ∀ effect ∈ (runConsumption db ops).effects, effect.consumerName = consumer := by
  induction ops using List.reverseRecOn with
  | nil =>
      intro effect member
      rw [runConsumption, Transaction.run_nil, fresh.effects] at member
      exact absurd member (Table.not_mem_empty effect)
  | append_singleton ops op ih =>
      have before := ih fun other member => single other (List.mem_append_left _ member)
      rw [runConsumption, Transaction.run_concat]
      rcases Transaction.commit_cases applyConsumption (runConsumption db ops) op with
        aborted | ⟨reply, committed⟩
      · rw [aborted]
        exact before
      · intro effect member
        obtain ⟨delivery, _, _, _, step⟩ := consume_cases committed
        rcases step.consumer effect member with old | new
        · exact before effect old
        · exact new.trans (single op (by simp))

/-- The stamps on offer are those of the deliveries that the run has processed. -/
theorem mem_offeredStamps_run (fresh : db.Fresh) (ops : List ConsumptionOp) (key : ComponentKey)
    (stamp : ObservationStamp) :
    stamp ∈ offeredStamps (runConsumption db ops) key ↔
      ∃ delivery, Offered db ops key delivery ∧ delivery.stamp = stamp := by
  constructor
  · intro offered
    obtain ⟨delivery, found, atKey, consumed, same⟩ := offered
    rw [delivery?_run] at found
    exact ⟨delivery, ⟨found, atKey, (consumed_iff_processed fresh ops _ _).mp consumed⟩, same⟩
  · intro offered
    obtain ⟨delivery, ⟨found, atKey, processed⟩, same⟩ := offered
    refine ⟨delivery, ?_, atKey, (consumed_iff_processed fresh ops _ _).mpr processed, same⟩
    rw [delivery?_run]
    exact found

/-- The observation of a component is that of the greatest delivery processed for it. -/
theorem observation_run (fresh : db.Fresh) (ops : List ConsumptionOp)
    (scored : ∀ op ∈ ops,
      op.call.componentScore = score op.call.tenantId op.call.deliveryEventId)
    (key : ComponentKey) (row : ComponentObservation)
    (present : (runConsumption db ops).observations.get? key = some row) :
    ∃ delivery processedAt, Offered db ops key delivery ∧
      row = delivery.observation (score key.1 delivery.deliveryEventId) processedAt ∧
      ∀ other, Offered db ops key other → other.stamp ≤ delivery.stamp := by
  have settled := settled_run fresh ops scored
  obtain ⟨delivery, processedAt, found, shape⟩ := settled.origin key row present
  have greatest := settled.greatest key row present
  rw [shape, PublishedDelivery.observation_stamp] at greatest
  obtain ⟨offered, upper⟩ := greatest
  obtain ⟨source, sourceOffered, sameStamp⟩ := (mem_offeredStamps_run fresh ops key _).mp offered
  -- the stamp ends with the delivery id, which names one published delivery of the tenant
  have sameEvent : source.deliveryEventId = delivery.deliveryEventId :=
    congrArg (fun stamp => (ofLex (ofLex stamp).2).2) sameStamp
  have sameDelivery : source = delivery := by
    have sourceFound := sourceOffered.1
    rw [sameEvent, ← delivery?_run ops, found, Option.some.injEq] at sourceFound
    exact sourceFound.symm
  rw [sameDelivery] at sourceOffered
  refine ⟨delivery, processedAt, sourceOffered, shape, fun other otherOffered => ?_⟩
  exact upper ((mem_offeredStamps_run fresh ops key _).mpr ⟨other, otherOffered, rfl⟩)

theorem observation_run_none (fresh : db.Fresh) (ops : List ConsumptionOp)
    (scored : ∀ op ∈ ops,
      op.call.componentScore = score op.call.tenantId op.call.deliveryEventId)
    (key : ComponentKey) (absent : (runConsumption db ops).observations.get? key = none)
    (delivery : PublishedDelivery) : ¬ Offered db ops key delivery := by
  intro offered
  have member := (mem_offeredStamps_run fresh ops key _).mpr ⟨delivery, offered, rfl⟩
  rw [(settled_run fresh ops scored).unstaged key absent] at member
  exact member

end Run

/-- The component rows of two runs that processed the same deliveries agree, except for the
time at which the surviving delivery was processed. -/
theorem observations_confluent {db : TrustDatabase} {score : TenantId → EventId → ℚ}
    (fresh : db.Fresh) (left right : List ConsumptionOp)
    (leftScored : ∀ op ∈ left,
      op.call.componentScore = score op.call.tenantId op.call.deliveryEventId)
    (rightScored : ∀ op ∈ right,
      op.call.componentScore = score op.call.tenantId op.call.deliveryEventId)
    (same : ∀ tenantId d, Processed db left tenantId d ↔ Processed db right tenantId d)
    (key : ComponentKey) :
    ((runConsumption db left).observations.get? key).map
        (fun row => { row with processedAt := 0 }) =
      ((runConsumption db right).observations.get? key).map
        (fun row => { row with processedAt := 0 }) := by
  have sameOffered : ∀ delivery, Offered db left key delivery ↔ Offered db right key delivery := by
    intro delivery
    unfold Offered
    rw [same]
  cases leftRow : (runConsumption db left).observations.get? key with
  | none =>
      have noLeft := observation_run_none fresh left leftScored key leftRow
      cases rightRow : (runConsumption db right).observations.get? key with
      | none => rfl
      | some row =>
          obtain ⟨delivery, _, offered, _⟩ :=
            observation_run fresh right rightScored key row rightRow
          exact absurd ((sameOffered delivery).mpr offered) (noLeft delivery)
  | some row =>
      obtain ⟨delivery, _, offered, rfl, upper⟩ :=
        observation_run fresh left leftScored key row leftRow
      cases rightRow : (runConsumption db right).observations.get? key with
      | none =>
          have noRight := observation_run_none fresh right rightScored key rightRow
          exact absurd ((sameOffered delivery).mp offered) (noRight delivery)
      | some other =>
          obtain ⟨source, _, sourceOffered, rfl, sourceUpper⟩ :=
            observation_run fresh right rightScored key other rightRow
          have stamps : source.stamp = delivery.stamp :=
            le_antisymm (upper source ((sameOffered source).mpr sourceOffered))
              (sourceUpper delivery ((sameOffered delivery).mp offered))
          have events : source.deliveryEventId = delivery.deliveryEventId :=
            congrArg (fun stamp => (ofLex (ofLex stamp).2).2) stamps
          have found := sourceOffered.1
          rw [events, offered.1, Option.some.injEq] at found
          rw [found]
          rfl

/-- For one consumer and one score for each delivery, in every run: the observation of each
component is that of the greatest processed delivery, each processed delivery has exactly one
effect, a complete set of components is carried by the current version, and the versions are
numbered from 1 without gaps. -/
theorem consumption_is_confluent (consumer : String) (score : TenantId → EventId → ℚ)
    (db : TrustDatabase) (fresh : db.Fresh) (ops : List ConsumptionOp)
    (single : ∀ op ∈ ops, op.call.consumerName = consumer)
    (scored : ∀ op ∈ ops,
      op.call.componentScore = score op.call.tenantId op.call.deliveryEventId)
    (tenantId : TenantId) (subjectId : SubjectId) :
    (∀ evidenceType,
      ((runConsumption db ops).observations.get? (tenantId, subjectId, evidenceType) = none ∧
        ∀ delivery, ¬ Offered db ops (tenantId, subjectId, evidenceType) delivery) ∨
      ∃ delivery processedAt, Offered db ops (tenantId, subjectId, evidenceType) delivery ∧
        (runConsumption db ops).observations.get? (tenantId, subjectId, evidenceType) =
          some (delivery.observation (score tenantId delivery.deliveryEventId) processedAt) ∧
        ∀ other, Offered db ops (tenantId, subjectId, evidenceType) other →
          other.stamp ≤ delivery.stamp) ∧
    (∀ deliveryEventId, Processed db ops tenantId deliveryEventId →
      ∃! effect, effect ∈ (runConsumption db ops).effects ∧ effect.tenantId = tenantId ∧
        effect.deliveryEventId = deliveryEventId) ∧
    ((∀ evidenceType, ∃ delivery, Offered db ops (tenantId, subjectId, evidenceType) delivery) →
      ∃ (rows : Components ComponentObservation) (n : Nat) (version : TrustStateVersion),
        (∀ evidenceType,
          (runConsumption db ops).observations.get? (tenantId, subjectId, evidenceType) =
            some (rows.get evidenceType)) ∧
        currentVersion? (runConsumption db ops) tenantId subjectId = some n ∧
        (runConsumption db ops).versions.get? (tenantId, subjectId, n) = some version ∧
        version.components = rows.map ComponentObservation.componentScore ∧
        version.evidenceReferences = rows.toList.map ComponentObservation.reference) ∧
    (∀ n, ((runConsumption db ops).versions.get? (tenantId, subjectId, n)).isSome ↔
      1 ≤ n ∧ n ≤ (currentVersion? (runConsumption db ops) tenantId subjectId).getD 0) := by
  have settled := settled_run fresh ops scored
  refine ⟨?_, ?_, ?_, settled.contiguous tenantId subjectId⟩
  · intro evidenceType
    cases present : (runConsumption db ops).observations.get?
        (tenantId, subjectId, evidenceType) with
    | none => exact Or.inl ⟨rfl, observation_run_none fresh ops scored _ present⟩
    | some row =>
        obtain ⟨delivery, processedAt, offered, shape, upper⟩ :=
          observation_run fresh ops scored _ row present
        exact Or.inr ⟨delivery, processedAt, offered, congrArg some shape, upper⟩
  · intro deliveryEventId processed
    obtain ⟨effect, member, tenant, event⟩ :=
      (consumed_iff_processed fresh ops tenantId deliveryEventId).mpr processed
    refine ⟨effect, ⟨member, tenant, event⟩, fun other otherHolds => ?_⟩
    obtain ⟨otherMember, otherTenant, otherEvent⟩ := otherHolds
    apply Table.unique _ otherMember member
    have consumers := consumer_run fresh consumer ops single
    simp only [EvidenceEffect.key, consumers other otherMember, consumers effect member,
      otherTenant, otherEvent, tenant, event]
  · intro complete
    have rowAt : ∀ evidenceType, ∃ row,
        (runConsumption db ops).observations.get? (tenantId, subjectId, evidenceType) =
          some row := by
      intro evidenceType
      cases present : (runConsumption db ops).observations.get?
          (tenantId, subjectId, evidenceType) with
      | none =>
          obtain ⟨delivery, offered⟩ := complete evidenceType
          exact absurd offered (observation_run_none fresh ops scored _ present delivery)
      | some row => exact ⟨row, rfl⟩
    choose row found using rowAt
    have staged : stagedComponents (runConsumption db ops) tenantId subjectId =
        some (Components.tabulate row) := by
      rw [stagedComponents_eq_some]
      intro evidenceType
      rw [found, Components.get_tabulate]
    obtain ⟨n, version, current, present, scores, references⟩ :=
      settled.snapshot tenantId subjectId _ staged
    exact ⟨_, n, version, stagedComponents_eq_some.mp staged, current, present, scores, references⟩

namespace Consumption

/-! One subject with two deliveries for its identity and one for each other component. -/

def tenant : TenantId := ⟨1⟩
def subject : SubjectId := ⟨1⟩

def receipt (n : Nat) (evidenceType : TrustComponentId) (observedAt : Instant) :
    EvidenceReceipt where
  tenantId := tenant
  eventId := ⟨n⟩
  subjectId := subject
  sourceId := ⟨1⟩
  evidenceType := evidenceType
  sourceSequence := n
  observedAt := observedAt
  acceptedAt := observedAt

def outboxRow (n : Nat) : EvidenceOutboxRow where
  tenantId := tenant
  sourceEventId := ⟨n⟩
  deliveryEventId := ⟨n⟩
  evidenceId := ⟨n⟩
  delivery := .published (n + 1) ⟨n⟩

def published : TrustDatabase :=
  { TrustDatabase.empty with
    outbox := ⟨[outboxRow 0, outboxRow 1, outboxRow 2, outboxRow 3, outboxRow 4, outboxRow 5],
      by decide⟩
    receipts := ⟨[receipt 0 .identity (interval 1), receipt 1 .device (interval 2),
      receipt 2 .behaviour (interval 3), receipt 3 .certificate (interval 4),
      receipt 4 .compliance (interval 5), receipt 5 .identity (interval 6)],
      by decide⟩ }

theorem published_fresh : published.Fresh := ⟨rfl, rfl, rfl, rfl⟩

def session : TrustSession where
  clock := interval 10
  activeMember := fun _ _ => true
  activeConfiguration := fun _ => some ⟨1, "1.0.0"⟩

def score (_ : TenantId) (deliveryEventId : EventId) : ℚ := 10 * deliveryEventId.value

def consume (n : Nat) : ConsumptionOp where
  session := session
  call := {
    consumerName := "trust-engine"
    tenantId := tenant
    deliveryEventId := ⟨n⟩
    evidenceId := ⟨n⟩
    streamSequence := n + 1
    signedEventSha256 := ⟨n⟩
    componentScore := score tenant ⟨n⟩
    processedAt := interval 9 }

/-- Two deliveries come twice and the identity deliveries come in the wrong order. -/
def shuffled : List ConsumptionOp :=
  [consume 5, consume 1, consume 0, consume 1, consume 2, consume 3, consume 4, consume 4]

end Consumption

open Consumption in
theorem shuffled_run_is_confluent :
    ∃! effect, effect ∈ (runConsumption published shuffled).effects ∧
      effect.tenantId = tenant ∧ effect.deliveryEventId = ⟨1⟩ := by
  have recorded : Consumed (runConsumption published shuffled) tenant ⟨1⟩ := by
    change ∃ effect ∈ (runConsumption published shuffled).effects, _
    decide +kernel
  have processed := (consumed_iff_processed published_fresh shuffled tenant ⟨1⟩).mp recorded
  have confluent := consumption_is_confluent "trust-engine" score published published_fresh
    shuffled (by decide) (by decide +kernel) tenant subject
  exact confluent.2.1 ⟨1⟩ processed

open Consumption in
example : (runConsumption published shuffled).versions.rows.map
    (fun version => (version.updateVersion, version.components.identity)) = [(1, 50)] := by
  decide +kernel

end TenantTrust.Trust
