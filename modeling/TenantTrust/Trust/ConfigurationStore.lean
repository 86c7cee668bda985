import TenantTrust.Identity.Certificates
import TenantTrust.Library.Transaction
import TenantTrust.Trust.EvidenceConsumption

/-! The trust configurations of one tenant and the three procedures that write them. -/

namespace TenantTrust.Trust

open Library Identity

/-- The columns that a version fixes once and for all. -/
structure ConfigurationParameters where
  modelVersion : String
  initialScore : ℚ
  smoothingAlpha : ℚ
  maximumSourceInfluence : ℚ
  staleAfterSeconds : ℤ
  weights : Components ℚ
  deriving DecidableEq, Repr

inductive ConfigurationState where
  | draft | active | superseded
  deriving DecidableEq, Repr

/-- A row of `trust.trust_configurations`. -/
structure TrustConfigurationRow where
  configurationVersion : Nat
  parameters : ConfigurationParameters
  state : ConfigurationState
  createdBySubjectId : SubjectId
  activatedAt : Option Instant
  supersededAt : Option Instant
  createdAt : Instant
  updatedAt : Instant
  deriving DecidableEq, Repr

inductive ConfigurationEventType where
  | draftCreated | activated | rollbackActivated
  deriving DecidableEq, Repr

/-- A row of `trust.trust_configuration_events`. -/
structure ConfigurationEvent where
  eventType : ConfigurationEventType
  configurationVersion : Nat
  previousActiveConfigurationVersion : Option Nat
  rollbackTargetConfigurationVersion : Option Nat
  actorSubjectId : SubjectId
  reasonCode : String
  occurredAt : Instant
  deriving DecidableEq, Repr

abbrev ConfigurationTable := Table TrustConfigurationRow TrustConfigurationRow.configurationVersion

/-- The rows of one tenant; its events are listed newest first. -/
structure ConfigurationStore where
  configurations : ConfigurationTable
  events : List ConfigurationEvent

def ConfigurationStore.empty : ConfigurationStore := ⟨Table.empty, []⟩

/-- The largest `integer`. -/
def MAX_INTEGER : Nat := 2 ^ 31 - 1

/-- `BETWEEN 0 AND 1` for each weight. -/
def weightsInRange (weights : Components ℚ) : Prop :=
  ∀ componentId ∈ trustComponentIds,
    0 ≤ weights.get componentId ∧ weights.get componentId ≤ 1

instance (weights : Components ℚ) : Decidable (weightsInRange weights) :=
  inferInstanceAs (Decidable (∀ componentId ∈ trustComponentIds, _ ∧ _))

def totalWeight (weights : Components ℚ) : ℚ :=
  weights.identity + weights.device + weights.behaviour + weights.certificate +
    weights.compliance

/-- `trust_configurations_lifecycle` -/
def TrustConfigurationRow.LifecycleCheck (row : TrustConfigurationRow) : Prop :=
  match row.state, row.activatedAt, row.supersededAt with
  | .draft, none, none => True
  | .active, some _, none => True
  | .superseded, some activated, some superseded => activated ≤ superseded
  | _, _, _ => False

instance (row : TrustConfigurationRow) : Decidable row.LifecycleCheck := by
  unfold TrustConfigurationRow.LifecycleCheck
  split <;> infer_instance

/-- The checks of the table on one row. -/
def TrustConfigurationRow.check (row : TrustConfigurationRow) : Except SqlError Unit := do
  let parameters := row.parameters
  require (0 < row.configurationVersion) (.checkViolation "trust_configurations_version_positive")
  require (isModelVersion parameters.modelVersion)
    (.checkViolation "trust_configurations_model_version_format")
  require (0 ≤ parameters.initialScore ∧ parameters.initialScore ≤ 100)
    (.checkViolation "trust_configurations_initial_score_range")
  require (0 < parameters.smoothingAlpha ∧ parameters.smoothingAlpha ≤ 1)
    (.checkViolation "trust_configurations_smoothing_range")
  require (0 < parameters.maximumSourceInfluence ∧ parameters.maximumSourceInfluence ≤ 1)
    (.checkViolation "trust_configurations_source_influence_range")
  require (1 ≤ parameters.staleAfterSeconds ∧ parameters.staleAfterSeconds ≤ 2592000)
    (.checkViolation "trust_configurations_stale_after_range")
  require (weightsInRange parameters.weights)
    (.checkViolation "trust_configurations_weight_ranges")
  require (totalWeight parameters.weights = 1)
    (.checkViolation "trust_configurations_weight_total")
  require row.LifecycleCheck (.checkViolation "trust_configurations_lifecycle")
  require (row.createdAt ≤ row.updatedAt)
    (.checkViolation "trust_configurations_timestamps_ordered")

/-- The unique index over the active rows, for a row about to be written. -/
def oneActive (configurations : ConfigurationTable) (row : TrustConfigurationRow) : Prop :=
  row.state = .active → ∀ other ∈ configurations,
    other.state = .active → other.configurationVersion = row.configurationVersion

instance (configurations : ConfigurationTable) (row : TrustConfigurationRow) :
    Decidable (oneActive configurations row) :=
  inferInstanceAs (Decidable (_ → ∀ other ∈ configurations, _))

def insertConfiguration (row : TrustConfigurationRow) (configurations : ConfigurationTable) :
    Except SqlError ConfigurationTable := do
  row.check
  let inserted ← requireSome (configurations.insertNew row)
    (.uniqueViolation "trust_configurations_pk")
  require (oneActive configurations row)
    (.uniqueViolation "trust_configurations_one_active_per_tenant")
  return inserted

/-- An update of the columns of one row other than its parameters. -/
def updateConfiguration (row : TrustConfigurationRow) (configurations : ConfigurationTable) :
    Except SqlError ConfigurationTable := do
  row.check
  require (oneActive configurations row)
    (.uniqueViolation "trust_configurations_one_active_per_tenant")
  return configurations.replace row

/-- `COALESCE(MAX(configuration_version), 0) + 1` -/
def nextConfigurationVersion (configurations : ConfigurationTable) : Except SqlError Nat := do
  let next :=
    (configurations.rows.map TrustConfigurationRow.configurationVersion).foldr max 0 + 1
  require (next ≤ MAX_INTEGER) (.raised "integer out of range")
  return next

def activeConfiguration? (configurations : ConfigurationTable) : Option TrustConfigurationRow :=
  configurations.rows.find? fun row => row.state = .active

/-- The window around the database clock in which an administrator dates a change. -/
def withinChangeWindow (clock occurredAt : Instant) : Bool :=
  occurredAt ≤ clock + interval 2 && clock - interval 300 ≤ occurredAt

/-- The values as the columns store them. -/
def ConfigurationParameters.stored (parameters : ConfigurationParameters) :
    ConfigurationParameters where
  modelVersion := parameters.modelVersion
  initialScore := roundNumeric 2 parameters.initialScore
  smoothingAlpha := roundNumeric 4 parameters.smoothingAlpha
  maximumSourceInfluence := roundNumeric 4 parameters.maximumSourceInfluence
  staleAfterSeconds := parameters.staleAfterSeconds
  weights := parameters.weights.map (roundNumeric 4)

/-- The input checks of `create_trust_configuration_draft`. -/
def ConfigurationParameters.Valid (parameters : ConfigurationParameters) : Prop :=
  isModelVersion parameters.modelVersion ∧
  (0 ≤ parameters.initialScore ∧ parameters.initialScore ≤ 100) ∧
  (0 < parameters.smoothingAlpha ∧ parameters.smoothingAlpha ≤ 1) ∧
  (0 < parameters.maximumSourceInfluence ∧ parameters.maximumSourceInfluence ≤ 1) ∧
  (1 ≤ parameters.staleAfterSeconds ∧ parameters.staleAfterSeconds ≤ 2592000) ∧
  weightsInRange parameters.weights ∧ totalWeight parameters.weights = 1

instance (parameters : ConfigurationParameters) : Decidable parameters.Valid :=
  inferInstanceAs (Decidable (_ ∧ (_ ∧ _) ∧ (_ ∧ _) ∧ (_ ∧ _) ∧ (_ ∧ _) ∧ _ ∧ _))

structure DraftCall where
  session : Session
  tenantActive : Bool
  parameters : ConfigurationParameters
  reasonCode : String
  occurredAt : Instant

/-- The row that a draft inserts. -/
def draftRow (call : DraftCall) (version : Nat) : TrustConfigurationRow where
  configurationVersion := version
  parameters := call.parameters.stored
  state := .draft
  createdBySubjectId := call.session.subjectId
  activatedAt := none
  supersededAt := none
  createdAt := call.occurredAt
  updatedAt := max call.session.clock call.occurredAt

def draftEvent (call : DraftCall) (previous : Option TrustConfigurationRow) (version : Nat) :
    ConfigurationEvent where
  eventType := .draftCreated
  configurationVersion := version
  previousActiveConfigurationVersion := previous.map (·.configurationVersion)
  rollbackTargetConfigurationVersion := none
  actorSubjectId := call.session.subjectId
  reasonCode := call.reasonCode
  occurredAt := call.occurredAt

/-- `trust.create_trust_configuration_draft` -/
def createTrustConfigurationDraft (call : DraftCall) (store : ConfigurationStore) :
    Except SqlError (ConfigurationStore × TrustConfigurationRow) := do
  require call.session.actorIsTenantAdmin (.raised "Trust configuration change denied.")
  require (withinChangeWindow call.session.clock call.occurredAt ∧
      isReasonCode call.reasonCode ∧ call.parameters.Valid)
    (.raised "Trust configuration input is invalid.")
  require call.tenantActive (.raised "Trust configuration change denied.")
  let previous := activeConfiguration? store.configurations
  let version ← nextConfigurationVersion store.configurations
  let row := draftRow call version
  let configurations ← insertConfiguration row store.configurations
  return (⟨configurations, draftEvent call previous version :: store.events⟩, row)

structure LifecycleCall where
  session : Session
  configurationVersion : Nat
  reasonCode : String
  occurredAt : Instant

def supersededRow (call : LifecycleCall) (row : TrustConfigurationRow) :
    TrustConfigurationRow := { row with
  state := .superseded
  supersededAt := some call.occurredAt
  updatedAt := max call.session.clock call.occurredAt }

def activatedRow (call : LifecycleCall) (row : TrustConfigurationRow) : TrustConfigurationRow :=
  { row with
    state := .active
    activatedAt := some call.occurredAt
    supersededAt := none
    updatedAt := max call.session.clock call.occurredAt }

/-- The previous active version gives way, unless it was activated only later. -/
def supersedePrevious (call : LifecycleCall) (previous : Option TrustConfigurationRow)
    (configurations : ConfigurationTable) : Except SqlError ConfigurationTable :=
  match previous with
  | some row => do
      require (∀ activated ∈ row.activatedAt, activated ≤ call.occurredAt)
        (.raised "Trust configuration activation time is invalid.")
      updateConfiguration (supersededRow call row) configurations
  | none => .ok configurations

/-- `trust.activate_trust_configuration` -/
def activateTrustConfiguration (call : LifecycleCall) (store : ConfigurationStore) :
    Except SqlError (ConfigurationStore × TrustConfigurationRow) := do
  require call.session.actorIsTenantAdmin (.raised "Trust configuration activation denied.")
  require (1 ≤ call.configurationVersion ∧
      withinChangeWindow call.session.clock call.occurredAt ∧ isReasonCode call.reasonCode)
    (.raised "Trust configuration activation input is invalid.")
  let target ← requireSome (store.configurations.get? call.configurationVersion)
    (.raised "Trust configuration activation denied.")
  require (target.state = .draft ∧ target.createdAt ≤ call.occurredAt)
    (.raised "Trust configuration activation denied.")
  let previous := activeConfiguration? store.configurations
  let superseded ← supersedePrevious call previous store.configurations
  let configurations ← updateConfiguration (activatedRow call target) superseded
  let event : ConfigurationEvent := {
    eventType := .activated
    configurationVersion := call.configurationVersion
    previousActiveConfigurationVersion := previous.map (·.configurationVersion)
    rollbackTargetConfigurationVersion := none
    actorSubjectId := call.session.subjectId
    reasonCode := call.reasonCode
    occurredAt := call.occurredAt }
  return (⟨configurations, event :: store.events⟩, activatedRow call target)

/-- The version that a rollback inserts. -/
def restoredRow (call : LifecycleCall) (version : Nat) (target : TrustConfigurationRow) :
    TrustConfigurationRow where
  configurationVersion := version
  parameters := target.parameters.stored
  state := .active
  createdBySubjectId := call.session.subjectId
  activatedAt := some call.occurredAt
  supersededAt := none
  createdAt := call.occurredAt
  updatedAt := max call.session.clock call.occurredAt

/-- `trust.rollback_trust_configuration` -/
def rollbackTrustConfiguration (call : LifecycleCall) (store : ConfigurationStore) :
    Except SqlError (ConfigurationStore × TrustConfigurationRow) := do
  require call.session.actorIsTenantAdmin (.raised "Trust configuration rollback denied.")
  require (1 ≤ call.configurationVersion ∧
      withinChangeWindow call.session.clock call.occurredAt ∧ isReasonCode call.reasonCode)
    (.raised "Trust configuration rollback input is invalid.")
  let target ← requireSome (store.configurations.get? call.configurationVersion)
    (.raised "Trust configuration rollback denied.")
  let previous ← requireSome (activeConfiguration? store.configurations)
    (.raised "Trust configuration rollback denied.")
  require (target.state = .superseded ∧
      ∀ activated ∈ previous.activatedAt, activated ≤ call.occurredAt)
    (.raised "Trust configuration rollback denied.")
  let version ← nextConfigurationVersion store.configurations
  let superseded ← updateConfiguration (supersededRow call previous) store.configurations
  let configurations ← insertConfiguration (restoredRow call version target) superseded
  let event : ConfigurationEvent := {
    eventType := .rollbackActivated
    configurationVersion := version
    previousActiveConfigurationVersion := some previous.configurationVersion
    rollbackTargetConfigurationVersion := some call.configurationVersion
    actorSubjectId := call.session.subjectId
    reasonCode := call.reasonCode
    occurredAt := call.occurredAt }
  return (⟨configurations, event :: store.events⟩, restoredRow call version target)

inductive ConfigurationCall where
  | createDraft (call : DraftCall)
  | activate (call : LifecycleCall)
  | rollback (call : LifecycleCall)

def applyConfiguration :
    Transaction ConfigurationStore ConfigurationCall TrustConfigurationRow SqlError
  | .createDraft call => createTrustConfigurationDraft call
  | .activate call => activateTrustConfiguration call
  | .rollback call => rollbackTrustConfiguration call

abbrev runConfigurations : ConfigurationStore → List ConfigurationCall → ConfigurationStore :=
  Transaction.run applyConfiguration

end TenantTrust.Trust
