import TenantTrust.Library.Transaction
import TenantTrust.Trust.EvidenceTables

/-! The procedure that turns a published evidence delivery into component observations and
trust-state versions. -/

namespace TenantTrust.Trust

open Library Identity

structure ActiveConfiguration where
  configurationVersion : Nat
  modelVersion : String
  deriving DecidableEq, Repr

/-- What the identity schema and the configuration table answer during one call. The index
`trust_configurations_one_active_per_tenant` leaves at most one active configuration. -/
structure TrustSession where
  clock : Instant
  activeMember : TenantId → SubjectId → Bool
  activeConfiguration : TenantId → Option ActiveConfiguration

structure ConsumptionCall where
  consumerName : String
  tenantId : TenantId
  deliveryEventId : EventId
  evidenceId : EvidenceId
  streamSequence : Nat
  signedEventSha256 : Sha256Digest
  componentScore : ℚ
  processedAt : Instant
  deriving DecidableEq, Repr

def ConsumptionCall.names (p : ConsumptionCall) (delivery : PublishedDelivery) : Bool :=
  delivery.evidenceId = p.evidenceId && delivery.streamSequence = p.streamSequence &&
  delivery.signedEventSha256 = p.signedEventSha256

/-- The published row that a call names exactly. -/
def authoritativeDelivery? (p : ConsumptionCall) (db : TrustDatabase) :
    Option PublishedDelivery :=
  (db.delivery? p.tenantId p.deliveryEventId).filter p.names

def ConsumptionCall.effect (p : ConsumptionCall) : EvidenceEffect where
  consumerName := p.consumerName
  tenantId := p.tenantId
  deliveryEventId := p.deliveryEventId
  evidenceId := p.evidenceId
  streamSequence := p.streamSequence
  signedEventSha256 := p.signedEventSha256
  processedAt := p.processedAt

def ConsumptionCall.repeats (p : ConsumptionCall) (existing : EvidenceEffect) : Bool :=
  existing.evidenceId = p.evidenceId && existing.streamSequence = p.streamSequence &&
  existing.signedEventSha256 = p.signedEventSha256

/-- Whether the effect was new is the second component. -/
def recordEvidenceEventEffect (session : TrustSession) (p : ConsumptionCall)
    (db : TrustDatabase) : Except SqlError (TrustDatabase × Bool) := do
  require (isWorkerId p.consumerName ∧ 1 ≤ p.streamSequence ∧
      p.processedAt ≤ session.clock + interval 2)
    (.raised "Evidence event effect denied.")
  require ((authoritativeDelivery? p db).isSome) (.raised "Evidence event effect denied.")
  match db.effects.get? p.effect.key with
  | none =>
      let effects ← requireSome (db.effects.insertNew p.effect)
        (.uniqueViolation "evidence_event_effects_pk")
      return ({ db with effects := effects }, true)
  | some existing => do
      require (p.repeats existing) (.raised "Evidence event effect conflict.")
      return (db, false)

/-- The check constraints of `subject_component_observations`. -/
def observationChecks (row : ComponentObservation) : Bool :=
  (0 ≤ row.componentScore && row.componentScore ≤ 100) && 0 < row.streamSequence &&
  (row.observedAt ≤ row.acceptedAt && row.acceptedAt ≤ row.processedAt + interval 2)

/-- Inserts the first observation of a component, or replaces one with a smaller stamp.
Whether a row changed is the second component. -/
def upsertObservation (row : ComponentObservation) (db : TrustDatabase) :
    Except SqlError (TrustDatabase × Bool) := do
  require (observationChecks row) (.checkViolation "subject_component_observations")
  match db.observations.get? row.key with
  | none =>
      require (∀ other ∈ db.observations.rows, ¬ (other.tenantId = row.tenantId ∧
          other.deliveryEventId = row.deliveryEventId))
        (.uniqueViolation "subject_component_observations_delivery_unique")
      let observations ← requireSome (db.observations.insertNew row)
        (.uniqueViolation "subject_component_observations_pk")
      return ({ db with observations := observations }, true)
  | some existing =>
      if existing.stamp < row.stamp then do
        require (∀ other ∈ db.observations.rows, other.tenantId = row.tenantId →
            other.deliveryEventId = row.deliveryEventId → other.key = row.key)
          (.uniqueViolation "subject_component_observations_delivery_unique")
        return ({ db with observations := db.observations.replace row }, true)
      else return (db, false)

/-- The staged rows of a subject; `none` while `v_staged_count < 5`, because the primary key
leaves one row for each component. -/
def stagedComponents (db : TrustDatabase) (tenantId : TenantId) (subjectId : SubjectId) :
    Option (Components ComponentObservation) := do
  let row := fun evidenceType => db.observations.get? (tenantId, subjectId, evidenceType)
  return {
    identity := ← row .identity
    device := ← row .device
    behaviour := ← row .behaviour
    certificate := ← row .certificate
    compliance := ← row .compliance }

/-- `max(observation.observed_at)` -/
def snapshotObservedAt (staged : Components ComponentObservation) : Instant :=
  max (max (max (max staged.identity.observedAt staged.device.observedAt)
    staged.behaviour.observedAt) staged.certificate.observedAt) staged.compliance.observedAt

def currentVersion? (db : TrustDatabase) (tenantId : TenantId) (subjectId : SubjectId) :
    Option Nat :=
  (db.current.get? (tenantId, subjectId)).map CurrentTrustState.updateVersion

/-- `0|[1-9][0-9]*` -/
def isVersionNumber : List Char → Bool
  | [] => false
  | ['0'] => true
  | first :: rest => first ≠ '0' && (first :: rest).all Char.isDigit

/-- The parts of a text between its dots. -/
def dottedParts : List Char → List (List Char)
  | [] => [[]]
  | '.' :: rest => [] :: dottedParts rest
  | c :: rest =>
      match dottedParts rest with
      | [] => [[c]]
      | part :: parts => (c :: part) :: parts

/-- `^(0|[1-9][0-9]*)\.(0|[1-9][0-9]*)\.(0|[1-9][0-9]*)$` -/
def isModelVersion (text : String) : Bool :=
  let parts := dottedParts text.toList
  parts.length = 3 && parts.all isVersionNumber

structure StoreCall where
  tenantId : TenantId
  subjectId : SubjectId
  expectedPreviousVersion : Nat
  modelVersion : String
  configurationVersion : Nat
  components : Components ℚ
  observedAt : Instant
  evidenceReferences : List EvidenceReference

def inRange (score : ℚ) : Bool := 0 ≤ score && score ≤ 100

/-- The receipt behind a reference belongs to the subject and to the component. -/
def bindsReference (db : TrustDatabase) (tenantId : TenantId) (subjectId : SubjectId)
    (reference : EvidenceReference) : Bool :=
  db.outbox.rows.any fun row =>
    row.tenantId = tenantId && row.evidenceId = reference.evidenceId &&
    row.sourceEventId = reference.sourceEventId &&
    match db.receipts.get? (tenantId, row.sourceEventId) with
    | some receipt =>
        receipt.subjectId = subjectId && receipt.evidenceType = reference.evidenceType
    | none => false

def StoreCall.version (p : StoreCall) (updateVersion : Nat) (recordedAt : Instant) :
    TrustStateVersion where
  tenantId := p.tenantId
  subjectId := p.subjectId
  updateVersion := updateVersion
  modelVersion := p.modelVersion
  configurationVersion := p.configurationVersion
  components := p.components.map (roundNumeric 2)
  observedAt := p.observedAt
  recordedAt := recordedAt
  evidenceReferences := p.evidenceReferences

def storeSubjectTrustState (session : TrustSession) (p : StoreCall) (db : TrustDatabase) :
    Except SqlError (TrustDatabase × TrustStateVersion) := do
  require (1 ≤ p.configurationVersion ∧ isModelVersion p.modelVersion ∧
      (∀ score ∈ p.components.toList, inRange score) ∧
      p.observedAt ≤ session.clock + interval 2)
    (.raised "Subject trust-state input is invalid.")
  require (p.evidenceReferences.length = 5)
    (.raised "Subject trust-state evidence references are incomplete.")
  require ((p.evidenceReferences.map EvidenceReference.evidenceType).Nodup ∧
      (p.evidenceReferences.map EvidenceReference.evidenceId).Nodup ∧
      (p.evidenceReferences.map EvidenceReference.sourceEventId).Nodup)
    (.raised "Subject trust-state evidence references must be unique by component.")
  require (session.activeMember p.tenantId p.subjectId ∧
      session.activeConfiguration p.tenantId =
        some ⟨p.configurationVersion, p.modelVersion⟩)
    (.raised "Subject trust-state authority is unavailable.")
  require (∀ reference ∈ p.evidenceReferences, bindsReference db p.tenantId p.subjectId reference)
    (.raised "Subject trust-state evidence is not tenant and subject bound.")
  let current := (currentVersion? db p.tenantId p.subjectId).getD 0
  require (current = p.expectedPreviousVersion)
    (.raised "Subject trust-state version conflict.")
  let version := p.version (current + 1) session.clock
  require (version.observedAt ≤ version.recordedAt)
    (.checkViolation "subject_trust_state_versions_time_order")
  let versions ← requireSome (db.versions.insertNew version)
    (.uniqueViolation "subject_trust_state_versions_pk")
  return ({ db with
    versions := versions
    current := db.current.upsert ⟨p.tenantId, p.subjectId, version.updateVersion⟩ }, version)

inductive ConsumptionOutcome where
  | duplicate
  | superseded
  | staged
  | stateUpdated
  deriving DecidableEq, Repr

def ConsumptionOutcome.text : ConsumptionOutcome → String
  | .duplicate => "duplicate"
  | .superseded => "superseded"
  | .staged => "staged"
  | .stateUpdated => "state_updated"

structure ConsumptionReply where
  applied : Bool
  outcome : ConsumptionOutcome
  tenantId : TenantId
  subjectId : SubjectId
  evidenceType : TrustComponentId
  updateVersion : Option Nat
  deriving DecidableEq, Repr

/-- The arguments with which five staged rows are stored as a new version. -/
def snapshotCall (db : TrustDatabase) (tenantId : TenantId) (subjectId : SubjectId)
    (configuration : ActiveConfiguration) (staged : Components ComponentObservation) :
    StoreCall where
  tenantId := tenantId
  subjectId := subjectId
  expectedPreviousVersion := (currentVersion? db tenantId subjectId).getD 0
  modelVersion := configuration.modelVersion
  configurationVersion := configuration.configurationVersion
  components := staged.map ComponentObservation.componentScore
  observedAt := snapshotObservedAt staged
  evidenceReferences := staged.toList.map ComponentObservation.reference

/-- The part of the procedure after a component row has changed. -/
def storeSnapshot (session : TrustSession) (delivery : PublishedDelivery) (db : TrustDatabase) :
    Except SqlError (TrustDatabase × ConsumptionReply) := do
  let reply := fun outcome updateVersion => ConsumptionReply.mk true outcome delivery.tenantId
    delivery.subjectId delivery.evidenceType updateVersion
  match stagedComponents db delivery.tenantId delivery.subjectId with
  | none => return (db, reply .staged none)
  | some staged => do
      let configuration ← requireSome (session.activeConfiguration delivery.tenantId)
        (.raised "Active trust configuration is unavailable.")
      let (db, version) ← storeSubjectTrustState session
        (snapshotCall db delivery.tenantId delivery.subjectId configuration staged) db
      return (db, reply .stateUpdated (some version.updateVersion))

def consumeValidatedEvidenceComponent (session : TrustSession) (p : ConsumptionCall)
    (db : TrustDatabase) : Except SqlError (TrustDatabase × ConsumptionReply) := do
  require (inRange p.componentScore ∧ p.processedAt ≤ session.clock + interval 2)
    (.raised "Validated evidence component input is invalid.")
  let delivery ← requireSome (authoritativeDelivery? p db)
    (.raised "Validated evidence delivery is not authoritative.")
  let reply := fun applied outcome => ConsumptionReply.mk applied outcome p.tenantId
    delivery.subjectId delivery.evidenceType (currentVersion? db p.tenantId delivery.subjectId)
  let (recordedDb, recorded) ← recordEvidenceEventEffect session p db
  if recorded then do
    let (stagedDb, changed) ←
      upsertObservation (delivery.observation p.componentScore p.processedAt) recordedDb
    if changed then storeSnapshot session delivery stagedDb
    else return (stagedDb, reply true .superseded)
  else return (recordedDb, reply false .duplicate)

structure ConsumptionOp where
  session : TrustSession
  call : ConsumptionCall

def applyConsumption : Transaction TrustDatabase ConsumptionOp ConsumptionReply SqlError :=
  fun op db => consumeValidatedEvidenceComponent op.session op.call db

abbrev runConsumption : TrustDatabase → List ConsumptionOp → TrustDatabase :=
  Transaction.run applyConsumption

/-- No delivery has been consumed; the outbox and the receipts may hold any rows. -/
structure TrustDatabase.Fresh (db : TrustDatabase) : Prop where
  effects : db.effects = Table.empty
  observations : db.observations = Table.empty
  versions : db.versions = Table.empty
  current : db.current = Table.empty

end TenantTrust.Trust
