import TenantTrust.Library.Checked
import TenantTrust.Library.Decimal
import TenantTrust.Library.NumberText
import TenantTrust.Trust.EvidenceConsumption

/-! The weighted score of five components, which is computed on the decimals that their numbers are
written as, and the check of its contributions by the database. -/

namespace TenantTrust.Trust

open Library Identity

/-- A number of a caller; `none` is one that is not finite. -/
abbrev ScriptFloat := Option Binary64

structure NormalizedComponents where
  values : Components Binary64
  valid : ∀ componentId, 0 ≤ (values.get componentId).value ∧
    (values.get componentId).value ≤ 100

def defineNormalizedComponents (values : Components ScriptFloat) :
    Except String NormalizedComponents :=
  match values with
  | ⟨some identity, some device, some behaviour, some certificate, some compliance⟩ =>
      let values : Components Binary64 := ⟨identity, device, behaviour, certificate, compliance⟩
      if valid : ∀ componentId ∈ trustComponentIds, 0 ≤ (values.get componentId).value ∧
          (values.get componentId).value ≤ 100 then
        .ok ⟨values, fun componentId => valid componentId (mem_trustComponentIds componentId)⟩
      else .error "NORMALIZED_COMPONENT_VALUE_INVALID"
  | _ => .error "NORMALIZED_COMPONENT_VALUE_INVALID"

/-- The loop that adds the weights. -/
def weightTotal (weights : Components Binary64) : Binary64 :=
  trustComponentIds.foldl (fun total componentId => total + weights.get componentId) (.ofRat 0)

def weightTotalTolerance : Binary64 := .ofRat (1 / 1000000000000)

structure TrustModelConfigurationValue where
  modelVersion : String
  weights : Components ScriptFloat
  deriving DecidableEq

structure TrustModelConfiguration where
  modelVersion : String
  weights : Components Binary64
  version_valid : isModelVersion modelVersion = true
  weights_valid : ∀ componentId, 0 ≤ (weights.get componentId).value ∧
    (weights.get componentId).value ≤ 1
  total_valid : |(weightTotal weights - .ofRat 1).value| ≤ weightTotalTolerance.value

def defineTrustModelConfiguration (configuration : TrustModelConfigurationValue) :
    Except String TrustModelConfiguration :=
  if version : isModelVersion configuration.modelVersion = true then
    match configuration.weights with
    | ⟨some identity, some device, some behaviour, some certificate, some compliance⟩ =>
        let weights : Components Binary64 :=
          ⟨identity, device, behaviour, certificate, compliance⟩
        if valid : ∀ componentId ∈ trustComponentIds, 0 ≤ (weights.get componentId).value ∧
            (weights.get componentId).value ≤ 1 then
          if total : |(weightTotal weights - .ofRat 1).value| ≤ weightTotalTolerance.value then
            .ok ⟨configuration.modelVersion, weights, version,
              fun componentId => valid componentId (mem_trustComponentIds componentId), total⟩
          else .error "TRUST_WEIGHT_TOTAL_INVALID"
        else .error "TRUST_WEIGHT_INVALID"
    | _ => .error "TRUST_WEIGHT_INVALID"
  else .error "MODEL_VERSION_INVALID"

/-- The digits and the scale of the text of a number; the pattern admits no sign. -/
def decimalParts (value : Binary64) : Except String Decimal :=
  let numeral := value.numeral
  if numeral.negative then .error "A finite non-negative decimal value is required."
  else
    let integer := Nat.ofDigitChars 10 (numeral.whole ++ numeral.fraction) 0
    let scale := numeral.fraction.length - numeral.exponent
    .ok (if scale < 0 then ⟨integer * 10 ^ (-scale).toNat, 0⟩ else ⟨integer, scale.toNat⟩)

def multiplyDecimal (left right : Binary64) : Except String Decimal := do
  let leftParts ← decimalParts left
  let rightParts ← decimalParts right
  return leftParts.mul rightParts

def exactContributions (components weights : Components Binary64) :
    Except String (Components Decimal) := do
  let identity ← multiplyDecimal components.identity weights.identity
  let device ← multiplyDecimal components.device weights.device
  let behaviour ← multiplyDecimal components.behaviour weights.behaviour
  let certificate ← multiplyDecimal components.certificate weights.certificate
  let compliance ← multiplyDecimal components.compliance weights.compliance
  return ⟨identity, device, behaviour, certificate, compliance⟩

def scoreDecimalPlaces : Nat := 2

def contributionDecimalPlaces : Nat := 6

structure WeightedContribution where
  normalizedValue : Binary64
  weight : Binary64
  weightedContribution : Binary64
  deriving DecidableEq

structure WeightedTrustScore where
  modelVersion : String
  score : Binary64
  components : Components Binary64
  weights : Components Binary64
  contributions : Components WeightedContribution
  deriving DecidableEq

def weightedTrustScore (components : NormalizedComponents) (model : TrustModelConfiguration)
    (exact : Components Decimal) : WeightedTrustScore where
  modelVersion := model.modelVersion
  score := (Decimal.sum exact.toList).rounded scoreDecimalPlaces
  components := components.values
  weights := model.weights
  contributions := Components.tabulate fun componentId => {
    normalizedValue := components.values.get componentId
    weight := model.weights.get componentId
    weightedContribution := (exact.get componentId).rounded contributionDecimalPlaces }

def calculateWeightedTrustScore (componentValues : Components ScriptFloat)
    (configuration : TrustModelConfigurationValue) : Except String WeightedTrustScore := do
  let components ← defineNormalizedComponents componentValues
  let model ← defineTrustModelConfiguration configuration
  let exact ← exactContributions components.values model.weights
  let result := weightedTrustScore components model exact
  require (0 ≤ result.score.value ∧ result.score.value ≤ 100)
    "The weighted trust score is outside the normalized range."
  return result

/-- The decimal that a number is written as, in a text and in a column that it is stored in. -/
def written (x : Binary64) : ℚ := x.numeral.value

/-- An element of `p_contributions`. -/
structure ContributionRecord where
  componentId : TrustComponentId
  normalizedValue : ℚ
  weight : ℚ
  weightedContribution : ℚ
  evidenceId : EvidenceId
  sourceEventId : EvidenceEventId
  deriving DecidableEq, Repr

/-- The last of the references to evidence of a type, as `new Map` keeps it. -/
def referenceByType (references : List EvidenceReference) (componentId : TrustComponentId) :
    Option EvidenceReference :=
  references.reverse.find? fun reference => reference.evidenceType = componentId

def contributionRecords (weighted : WeightedTrustScore) (references : List EvidenceReference) :
    Except String (List ContributionRecord) :=
  trustComponentIds.mapM fun componentId => do
    let reference ← requireSome (referenceByType references componentId) "TypeError"
    let contribution := weighted.contributions.get componentId
    return ⟨componentId, written contribution.normalizedValue, written contribution.weight,
      written contribution.weightedContribution, reference.evidenceId, reference.sourceEventId⟩

/-- The supplied contributions, once for each row of evidence that they join with, that agree with
the state and with the configuration. -/
def matchedContributions (state : TrustStateVersion) (weights : Components ℚ)
    (supplied : List ContributionRecord) : List ContributionRecord :=
  let joined := supplied.flatMap fun record =>
    (state.evidenceReferences.filter fun evidence =>
      evidence.evidenceType = record.componentId && evidence.evidenceId = record.evidenceId &&
        evidence.sourceEventId = record.sourceEventId).map fun _ => record
  joined.filter fun record =>
    record.normalizedValue = state.components.get record.componentId &&
    record.weight = weights.get record.componentId &&
    record.weightedContribution = roundNumeric 6 (record.normalizedValue * record.weight)

/-- The checks of `record_subject_trust_transition` on contributions and on their total. -/
def contributionsMatch (state : TrustStateVersion) (weights : Components ℚ)
    (supplied : List ContributionRecord) (weightedScore : ℚ) : Bool :=
  let matched_ := matchedContributions state weights supplied
  matched_.length = 5 &&
    roundNumeric 2 (matched_.map ContributionRecord.weightedContribution).sum = weightedScore

end TenantTrust.Trust
