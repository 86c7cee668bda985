import Mathlib.Data.Rat.Defs

/-! Components, bands and transition kinds shared by the trust engine and its readers. -/

namespace TenantTrust.Trust

inductive TrustComponentId where
  | identity | device | behaviour | certificate | compliance
  deriving DecidableEq, Repr

def trustComponentIds : List TrustComponentId :=
  [.identity, .device, .behaviour, .certificate, .compliance]

theorem mem_trustComponentIds (componentId : TrustComponentId) :
    componentId ∈ trustComponentIds := by
  cases componentId <;> decide

def TrustComponentId.text : TrustComponentId → String
  | .identity => "identity"
  | .device => "device"
  | .behaviour => "behaviour"
  | .certificate => "certificate"
  | .compliance => "compliance"

/-- One value for each component. -/
@[ext]
structure Components (α : Type) where
  identity : α
  device : α
  behaviour : α
  certificate : α
  compliance : α
  deriving DecidableEq, Repr

namespace Components

variable {α β : Type}

def get (components : Components α) : TrustComponentId → α
  | .identity => components.identity
  | .device => components.device
  | .behaviour => components.behaviour
  | .certificate => components.certificate
  | .compliance => components.compliance

/-- `Object.fromEntries(TRUST_COMPONENT_IDS.map(...))` -/
def tabulate (f : TrustComponentId → α) : Components α where
  identity := f .identity
  device := f .device
  behaviour := f .behaviour
  certificate := f .certificate
  compliance := f .compliance

def map (f : α → β) (components : Components α) : Components β :=
  tabulate fun componentId => f (components.get componentId)

/-- The values in the order of `TRUST_COMPONENT_IDS`. -/
def toList (components : Components α) : List α := trustComponentIds.map components.get

@[simp] theorem get_tabulate (f : TrustComponentId → α) (componentId : TrustComponentId) :
    (tabulate f).get componentId = f componentId := by
  cases componentId <;> rfl

@[simp] theorem get_map (f : α → β) (components : Components α)
    (componentId : TrustComponentId) :
    (components.map f).get componentId = f (components.get componentId) :=
  get_tabulate _ componentId

theorem mem_toList (components : Components α) (value : α) :
    value ∈ components.toList ↔ ∃ componentId, components.get componentId = value := by
  constructor
  · intro member
    obtain ⟨componentId, _, same⟩ := List.mem_map.mp member
    exact ⟨componentId, same⟩
  · intro found
    obtain ⟨componentId, same⟩ := found
    exact List.mem_map.mpr ⟨componentId, mem_trustComponentIds componentId, same⟩

end Components

inductive TrustBand where
  | low | medium | high
  deriving DecidableEq, Repr

def TrustBand.text : TrustBand → String
  | .low => "low"
  | .medium => "medium"
  | .high => "high"

/-- The position of a band in `BAND_IDS`. -/
def TrustBand.rank : TrustBand → Nat
  | .low => 0
  | .medium => 1
  | .high => 2

inductive TransitionKind where
  | held | deteriorated | recovered | criticalOverride
  deriving DecidableEq, Repr

def TransitionKind.text : TransitionKind → String
  | .held => "held"
  | .deteriorated => "deteriorated"
  | .recovered => "recovered"
  | .criticalOverride => "critical-override"

namespace Bands

/-! `DEFAULT_TRUST_TRANSITION_CONFIGURATION` -/

def lowBaseMaximumExclusive : ℚ := 40
def lowRecoveryThreshold : ℚ := 45
def mediumBaseMaximumExclusive : ℚ := 70
def mediumDeteriorationThreshold : ℚ := 35
def mediumRecoveryThreshold : ℚ := 75
def highDeteriorationThreshold : ℚ := 65
def consecutiveQualifyingEvaluations : Nat := 2
def distinctSourceCount : Nat := 2
def scoreRange : ℚ := 100

end Bands

end TenantTrust.Trust
