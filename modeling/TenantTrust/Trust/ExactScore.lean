import TenantTrust.Trust.WeightedScore

/-! The weighted score is the exact decimal sum, rounded once; it is in range, it grows with each
component, and the database accepts the contributions of short decimals. -/

namespace TenantTrust.Trust

open Library Identity

section Decimals

variable {x y : Binary64}

theorem written_nonneg (nonneg : 0 ≤ x.value) : 0 ≤ written x :=
  Binary64.numeral_value_nonneg nonneg

theorem written_mono (ordered : x ≤ y) : written x ≤ written y :=
  Binary64.numeral_value_mono ordered

/-- A decimal of few places is written as itself when it was read from its text. -/
theorem written_ofRat {places n : ℕ} (few : places ≤ 6)
    (small : (n : ℚ) / 10 ^ places ≤ 1000000) :
    written (.ofRat (n / 10 ^ places)) = n / 10 ^ places := by
  have grid : (n : ℚ) / 10 ^ places = (n * 10 ^ (6 - places) : ℕ) / 1000000 := by
    have million : (1000000 : ℚ) = 10 ^ places * 10 ^ (6 - places) := by
      rw [← pow_add, Nat.add_sub_cancel' few]
      norm_num
    rw [million]
    push_cast
    rw [mul_div_mul_right _ _ (by positivity)]
  exact Binary64.numeral_of_millionths grid small

/-- A number of at most a whole bound is written as a decimal of at most that bound. -/
theorem written_le (bound : ℕ) (small : bound ≤ 1000000) (below : x.value ≤ bound) :
    written x ≤ bound := by
  have whole : Binary64.nearest (bound : ℚ) = bound := by
    have fixed := Binary64.nearest_intCast (n := bound) (by
      rw [abs_of_nonneg (Int.natCast_nonneg bound)]
      omega)
    exact_mod_cast fixed
  have ordered : x ≤ .ofRat bound := by
    change x.value ≤ Binary64.nearest bound
    rw [whole]
    exact below
  have same := written_ofRat (n := bound) (Nat.zero_le 6) (by
    rw [pow_zero, div_one]
    exact_mod_cast small)
  rw [pow_zero, div_one] at same
  exact (written_mono ordered).trans_eq same

/-- What a number is written as is within a rounding of the number. -/
theorem written_near (nonneg : 0 ≤ x.value) (below : x.value ≤ 100) :
    |written x - x.value| ≤ 1 / 1000000000 := by
  have bounded := written_le 100 (by decide) (by exact_mod_cast below)
  have small : |written x| ≤ 4000000 := by
    rw [abs_of_nonneg (written_nonneg nonneg)]
    norm_num at bounded
    linarith
  have reads : Binary64.nearest (written x) = x.value :=
    congrArg Binary64.value (Binary64.numeral_rounds x)
  have error := Binary64.abs_nearest_sub_le_of_le small
  rwa [reads, abs_sub_comm] at error

theorem decimalParts_value (nonneg : 0 ≤ x.value) :
    ∃ parts, decimalParts x = .ok parts ∧ parts.value = written x := by
  have positive := Binary64.numeral_of_nonneg nonneg
  unfold decimalParts
  rw [if_neg (by rw [positive]; exact Bool.false_ne_true)]
  refine ⟨_, rfl, ?_⟩
  rw [written, Numeral.value, positive, if_neg Bool.false_ne_true, Numeral.magnitude,
    Scientific.value]
  have ten : (10 : ℚ) ≠ 0 := by norm_num
  generalize Nat.ofDigitChars 10 (x.numeral.whole ++ x.numeral.fraction) 0 = integer
  split
  case isTrue large =>
    have place : x.numeral.exponent - x.numeral.fraction.length
        = ((-(x.numeral.fraction.length - x.numeral.exponent)).toNat : ℤ) := by omega
    rw [place, zpow_natCast, Decimal.value]
    push_cast
    rw [pow_zero, div_one]
  case isFalse small =>
    have place : x.numeral.exponent - x.numeral.fraction.length
        = -((x.numeral.fraction.length - x.numeral.exponent).toNat : ℤ) := by omega
    rw [place, zpow_neg, zpow_natCast, Decimal.value, div_eq_mul_inv]

theorem multiplyDecimal_value (first : 0 ≤ x.value) (second : 0 ≤ y.value) :
    ∃ product, multiplyDecimal x y = .ok product ∧ product.value = written x * written y := by
  obtain ⟨left, leftParts, leftValue⟩ := decimalParts_value first
  obtain ⟨right, rightParts, rightValue⟩ := decimalParts_value second
  refine ⟨left.mul right, ?_, by rw [Decimal.value_mul, leftValue, rightValue]⟩
  rw [multiplyDecimal, leftParts, rightParts]
  rfl

theorem exactContributions_value {components weights : Components Binary64}
    (valid : ∀ componentId, 0 ≤ (components.get componentId).value)
    (weighed : ∀ componentId, 0 ≤ (weights.get componentId).value) :
    ∃ exact, exactContributions components weights = .ok exact ∧ ∀ componentId,
      (exact.get componentId).value
        = written (components.get componentId) * written (weights.get componentId) := by
  have product : ∀ componentId, ∃ product : Decimal,
      multiplyDecimal (components.get componentId) (weights.get componentId) = .ok product ∧
      product.value
        = written (components.get componentId) * written (weights.get componentId) :=
    fun componentId => multiplyDecimal_value (valid componentId) (weighed componentId)
  choose products multiplied value using product
  refine ⟨.tabulate products, ?_, fun componentId => ?_⟩
  · simp only [exactContributions, Checked.bind_eq_ok]
    exact ⟨_, multiplied .identity, _, multiplied .device, _, multiplied .behaviour, _,
      multiplied .certificate, _, multiplied .compliance, rfl⟩
  · rw [Components.get_tabulate]
    exact value componentId

end Decimals

section Rounding

variable {d e : Decimal} {places : ℕ}

theorem roundNumeric_of_nonneg {q : ℚ} (nonneg : 0 ≤ q) :
    roundNumeric places q = ⌊q * 10 ^ places + 1 / 2⌋ / 10 ^ places := if_pos nonneg

theorem roundNumeric_value (d : Decimal) (places : ℕ) :
    roundNumeric places d.value = d.roundHalfUp places / 10 ^ places := by
  rw [roundNumeric_of_nonneg d.value_nonneg, Decimal.roundHalfUp_eq, Int.cast_natCast]

theorem rounded_value (d : Decimal) (places : ℕ) :
    (d.rounded places).value = Binary64.nearest (roundNumeric places d.value) := by
  rw [roundNumeric_value]
  rfl

theorem roundNumeric_mono (places : ℕ) {q r : ℚ} (nonneg : 0 ≤ q) (ordered : q ≤ r) :
    roundNumeric places q ≤ roundNumeric places r := by
  have scale : (0 : ℚ) < 10 ^ places := by positivity
  rw [roundNumeric_of_nonneg nonneg, roundNumeric_of_nonneg (nonneg.trans ordered)]
  have grown : ⌊q * 10 ^ places + 1 / 2⌋ ≤ ⌊r * 10 ^ places + 1 / 2⌋ := by
    apply Int.floor_mono
    have scaled := mul_le_mul_of_nonneg_right ordered scale.le
    linarith
  apply div_le_div_of_nonneg_right _ scale.le
  exact_mod_cast grown

/-- A rounded decimal is written with the places that it was rounded to. -/
theorem written_rounded (d : Decimal) (few : places ≤ 6)
    (small : roundNumeric places d.value ≤ 1000000) :
    written (d.rounded places) = roundNumeric places d.value := by
  rw [roundNumeric_value] at small ⊢
  exact written_ofRat few small

/-- A decimal of at most so many places is not rounded. -/
theorem roundNumeric_of_grid {q : ℚ} {n : ℕ} (grid : q = n / 10 ^ places) :
    roundNumeric places q = q := by
  have nonneg : 0 ≤ q := by
    rw [grid]
    positivity
  have whole : q * 10 ^ places = n := by
    rw [grid, div_mul_cancel₀ _ (by positivity)]
  have floor : ⌊(n : ℚ) + 1 / 2⌋ = n := by
    rw [Int.floor_eq_iff]
    constructor
    · exact_mod_cast (by linarith : (n : ℚ) ≤ n + 1 / 2)
    · push_cast
      linarith
  rw [roundNumeric_of_nonneg nonneg, whole, floor, Int.cast_natCast]
  exact grid.symm

end Rounding

/-- The sum of the products of the decimals that components and weights are written as. -/
def exactSum (components weights : Components Binary64) : ℚ :=
  (trustComponentIds.map fun componentId =>
    written (components.get componentId) * written (weights.get componentId)).sum

section Sums

theorem sum_value (exact : Components Decimal) :
    (Decimal.sum exact.toList).value
      = (trustComponentIds.map fun componentId => (exact.get componentId).value).sum := by
  rw [Decimal.value_sum, Components.toList, List.map_map]
  rfl

/-- Adding up the weights with roundings leaves their sum by less than a hundred millionth. -/
theorem weightTotal_near (weights : Components Binary64)
    (valid : ∀ componentId, 0 ≤ (weights.get componentId).value ∧
      (weights.get componentId).value ≤ 1) :
    |(weightTotal weights).value
        - (trustComponentIds.map fun componentId => (weights.get componentId).value).sum|
      ≤ 1 / 100000000 := by
  have step : ∀ (ids : List TrustComponentId) (total : Binary64), ids.length ≤ 5 →
      0 ≤ total.value → total.value ≤ 6 - ids.length →
      |(ids.foldl (fun sum componentId => sum + weights.get componentId) total).value
          - (total.value + (ids.map fun componentId => (weights.get componentId).value).sum)|
        ≤ ids.length / 1000000000 := by
    intro ids
    induction ids with
    | nil =>
        intro total _ _ _
        simp
    | cons componentId rest ih =>
        intro total few least most
        obtain ⟨weightLeast, weightMost⟩ := valid componentId
        rw [List.length_cons] at few most ⊢
        push_cast at most ⊢
        have restNonneg : (0 : ℚ) ≤ rest.length := Nat.cast_nonneg _
        have restFew : (rest.length : ℚ) ≤ 4 := by exact_mod_cast Nat.le_of_succ_le_succ few
        have error := Binary64.abs_nearest_sub_le_of_le
          (q := total.value + (weights.get componentId).value) (by
            rw [abs_of_nonneg (by linarith)]
            linarith)
        have sumLeast : 0 ≤ (total + weights.get componentId).value :=
          Binary64.nearest_nonneg (by linarith)
        have sumMost : (total + weights.get componentId).value ≤ 6 - rest.length := by
          have whole : Binary64.nearest ((6 - rest.length : ℤ) : ℚ) = ((6 - rest.length : ℤ) : ℚ) :=
            Binary64.nearest_intCast (by
              rw [abs_lt]
              constructor <;> omega)
          have grown := Binary64.nearest_mono
            (show total.value + (weights.get componentId).value ≤ ((6 - rest.length : ℤ) : ℚ) by
              push_cast
              linarith)
          rw [whole] at grown
          push_cast at grown
          exact grown
        have later := ih (total + weights.get componentId) (by omega) sumLeast sumMost
        change |Binary64.nearest _ - _| ≤ _ at error
        change |(rest.foldl _ (total + weights.get componentId)).value - _| ≤ _
        have value : (total + weights.get componentId).value
            = Binary64.nearest (total.value + (weights.get componentId).value) := rfl
        rw [value] at later
        rw [List.map_cons, List.sum_cons]
        rw [abs_le] at error later ⊢
        constructor <;> linarith
  have whole := step trustComponentIds (.ofRat 0) (by decide) (by
    change 0 ≤ Binary64.nearest 0
    rw [Binary64.nearest_zero]) (by
    change Binary64.nearest 0 ≤ _
    rw [Binary64.nearest_zero]
    norm_num [trustComponentIds])
  have zero : (Binary64.ofRat 0).value = 0 := Binary64.nearest_zero
  rw [zero, zero_add] at whole
  refine whole.trans ?_
  norm_num [trustComponentIds]

/-- The weights of a model are written as decimals that add up to one, but for the tolerance. -/
theorem sum_written_weights_near (model : TrustModelConfiguration) :
    |(trustComponentIds.map fun componentId => written (model.weights.get componentId)).sum - 1|
      ≤ 1 / 10000000 := by
  have near := weightTotal_near model.weights model.weights_valid
  have tolerance : weightTotalTolerance.value ≤ 2 / 1000000000 := by
    have error := (abs_le.mp (Binary64.abs_nearest_sub_le_of_le
      (q := 1 / 1000000000000) (by norm_num [abs_of_pos]))).2
    change Binary64.nearest (1 / 1000000000000) ≤ _
    linarith
  have checked : |Binary64.nearest ((weightTotal model.weights).value - (Binary64.ofRat 1).value)|
      ≤ 2 / 1000000000 := model.total_valid.trans tolerance
  have one : (Binary64.ofRat 1).value = 1 := by
    exact_mod_cast Binary64.nearest_intCast (n := 1) (by decide)
  have each : ∀ componentId, |written (model.weights.get componentId)
      - (model.weights.get componentId).value| ≤ 1 / 1000000000 := by
    intro componentId
    obtain ⟨least, most⟩ := model.weights_valid componentId
    exact written_near least (by linarith)
  have bounds := model.weights_valid
  simp only [trustComponentIds, List.map_cons, List.map_nil, List.sum_cons, List.sum_nil]
    at near ⊢
  generalize (weightTotal model.weights).value = total at *
  rw [one] at checked
  obtain ⟨low, high⟩ := abs_le.mp near
  have error := abs_le.mp (Binary64.abs_nearest_sub_le_of_le (q := total - 1) (by
    rw [abs_le]
    constructor <;> linarith [bounds .identity, bounds .device, bounds .behaviour,
      bounds .certificate, bounds .compliance]))
  obtain ⟨below, above⟩ := abs_le.mp checked
  have identity := abs_le.mp (each .identity)
  have device := abs_le.mp (each .device)
  have behaviour := abs_le.mp (each .behaviour)
  have certificate := abs_le.mp (each .certificate)
  have compliance := abs_le.mp (each .compliance)
  rw [abs_le]
  constructor <;> linarith

/-- The weights of a model are written as decimals that add up to hardly more than one. -/
theorem sum_written_weights (model : TrustModelConfiguration) :
    (trustComponentIds.map fun componentId => written (model.weights.get componentId)).sum
      ≤ 1 + 1 / 10000000 := by
  have near := abs_le.mp (sum_written_weights_near model)
  linarith

/-- The exact sum hardly exceeds a hundred. -/
theorem exactSum_le (components : NormalizedComponents) (model : TrustModelConfiguration) :
    exactSum components.values model.weights ≤ 100 + 1 / 100000 := by
  have weights := sum_written_weights model
  have each : ∀ componentId,
      written (components.values.get componentId) * written (model.weights.get componentId)
        ≤ 100 * written (model.weights.get componentId) := by
    intro componentId
    have below := written_le 100 (by decide)
      (by exact_mod_cast (components.valid componentId).2)
    rw [Nat.cast_ofNat] at below
    exact mul_le_mul_of_nonneg_right below (written_nonneg (model.weights_valid componentId).1)
  simp only [exactSum, trustComponentIds, List.map_cons, List.map_nil, List.sum_cons,
    List.sum_nil] at weights ⊢
  linarith [each .identity, each .device, each .behaviour, each .certificate, each .compliance]

theorem exactSum_nonneg (components : NormalizedComponents) (model : TrustModelConfiguration) :
    0 ≤ exactSum components.values model.weights := by
  apply List.sum_nonneg
  intro product member
  obtain ⟨componentId, _, rfl⟩ := List.mem_map.mp member
  exact mul_nonneg (written_nonneg (components.valid componentId).1)
    (written_nonneg (model.weights_valid componentId).1)

/-- More trust in any component gives no smaller sum. -/
theorem exactSum_mono {components others : NormalizedComponents}
    (model : TrustModelConfiguration)
    (more : ∀ componentId, components.values.get componentId ≤ others.values.get componentId) :
    exactSum components.values model.weights ≤ exactSum others.values model.weights := by
  apply List.sum_le_sum
  intro componentId _
  exact mul_le_mul_of_nonneg_right (written_mono (more componentId))
    (written_nonneg (model.weights_valid componentId).1)

/-- The sum rounds into the range of a score, although the weights may exceed one. -/
theorem roundNumeric_exactSum_le (components : NormalizedComponents)
    (model : TrustModelConfiguration) :
    roundNumeric 2 (exactSum components.values model.weights) ≤ 100 := by
  rw [roundNumeric_of_nonneg (exactSum_nonneg components model), div_le_iff₀ (by norm_num)]
  have below : ⌊exactSum components.values model.weights * 10 ^ 2 + 1 / 2⌋ ≤ 10000 := by
    rw [← Int.lt_add_one_iff, Int.floor_lt]
    have sum := exactSum_le components model
    push_cast
    linarith
  have cast : (⌊exactSum components.values model.weights * 10 ^ 2 + 1 / 2⌋ : ℚ) ≤ 10000 := by
    exact_mod_cast below
  linarith

end Sums

section Score

variable {componentValues : Components ScriptFloat} {configuration : TrustModelConfigurationValue}
  {components : NormalizedComponents} {model : TrustModelConfiguration}

/-- What the calculation returns for inputs that are accepted. -/
theorem calculateWeightedTrustScore_eq
    (defined : defineNormalizedComponents componentValues = .ok components)
    (configured : defineTrustModelConfiguration configuration = .ok model) :
    ∃ exact : Components Decimal,
      calculateWeightedTrustScore componentValues configuration
        = .ok (weightedTrustScore components model exact) ∧
      (∀ componentId, (exact.get componentId).value = written
          (components.values.get componentId) * written (model.weights.get componentId)) ∧
      (Decimal.sum exact.toList).value = exactSum components.values model.weights := by
  obtain ⟨exact, multiplied, value⟩ := exactContributions_value
    (fun componentId => (components.valid componentId).1)
    (fun componentId => (model.weights_valid componentId).1)
  have sum : (Decimal.sum exact.toList).value = exactSum components.values model.weights := by
    rw [sum_value, exactSum]
    simp only [value]
  have range : 0 ≤ ((Decimal.sum exact.toList).rounded 2).value ∧
      ((Decimal.sum exact.toList).rounded 2).value ≤ 100 := by
    have most := roundNumeric_exactSum_le components model
    rw [rounded_value, sum]
    constructor
    · apply Binary64.nearest_nonneg
      have least := roundNumeric_mono 2 le_rfl (exactSum_nonneg components model)
      rwa [roundNumeric_of_grid (n := 0) (by norm_num)] at least
    · have grown := Binary64.nearest_mono most
      have whole : Binary64.nearest (100 : ℚ) = 100 := by
        exact_mod_cast Binary64.nearest_intCast (n := 100) (by decide)
      rwa [whole] at grown
  refine ⟨exact, ?_, value, sum⟩
  rw [calculateWeightedTrustScore, defined, configured]
  simp only [Checked.bind_eq_ok, Except.ok.injEq, exists_eq_left', multiplied,
    Checked.require_eq_ok, exists_const]
  exact ⟨range, rfl⟩

theorem written_score {exact : Components Decimal}
    (sum : (Decimal.sum exact.toList).value = exactSum components.values model.weights) :
    written (weightedTrustScore components model exact).score
      = roundNumeric 2 (exactSum components.values model.weights) := by
  have small := roundNumeric_exactSum_le components model
  have score := written_rounded (Decimal.sum exact.toList) (show 2 ≤ 6 by decide) (by
    rw [sum]
    linarith)
  rwa [sum] at score

/-- Rounding keeps the order of decimals. -/
theorem rounded_mono {d e : Decimal} (places : ℕ) (ordered : d.value ≤ e.value) :
    d.rounded places ≤ e.rounded places := by
  change (d.rounded places).value ≤ (e.rounded places).value
  rw [rounded_value, rounded_value]
  exact Binary64.nearest_mono (roundNumeric_mono places d.value_nonneg ordered)

end Score

/-- The number is written with at most so many decimal places. -/
def HasPlaces (places : ℕ) (x : Binary64) : Prop :=
  ∃ n : ℕ, written x = n / 10 ^ places

/-- One reference to evidence of each component. -/
def Covers (references : List EvidenceReference) : Prop :=
  (references.map EvidenceReference.evidenceType).Perm trustComponentIds

section Contributions

variable {components : NormalizedComponents} {model : TrustModelConfiguration}
  {exact : Components Decimal} {references : List EvidenceReference}

/-- The product of two short decimals is not rounded. -/
theorem written_contribution
    (value : ∀ componentId, (exact.get componentId).value = written
      (components.values.get componentId) * written (model.weights.get componentId))
    (componentId : TrustComponentId) (short : HasPlaces 2 (components.values.get componentId))
    (shorter : HasPlaces 4 (model.weights.get componentId)) :
    written ((exact.get componentId).rounded 6)
        = written (components.values.get componentId) * written (model.weights.get componentId) ∧
      roundNumeric 6
          (written (components.values.get componentId) * written (model.weights.get componentId))
        = written (components.values.get componentId) *
          written (model.weights.get componentId) := by
  obtain ⟨n, first⟩ := short
  obtain ⟨m, second⟩ := shorter
  have exactly : roundNumeric 6
      (written (components.values.get componentId) * written (model.weights.get componentId))
        = written (components.values.get componentId) *
          written (model.weights.get componentId) := by
    apply roundNumeric_of_grid (n := n * m)
    rw [first, second]
    push_cast
    rw [div_mul_div_comm, ← pow_add]
  have small : written (components.values.get componentId) *
      written (model.weights.get componentId) ≤ 100 * 1 := by
    apply mul_le_mul _ _ (written_nonneg (model.weights_valid componentId).1) (by norm_num)
    · exact_mod_cast written_le 100 (by decide)
        (by exact_mod_cast (components.valid componentId).2)
    · exact_mod_cast written_le 1 (by decide)
        (by exact_mod_cast (model.weights_valid componentId).2)
  refine ⟨?_, exactly⟩
  have rounds := written_rounded (exact.get componentId) (show 6 ≤ 6 by decide) (by
    rw [value, exactly]
    linarith)
  rwa [value, exactly] at rounds

theorem Covers.nodup (covers : Covers references) :
    (references.map EvidenceReference.evidenceType).Nodup :=
  covers.nodup_iff.mpr (by decide)

/-- Each component has its reference. -/
theorem Covers.reference (covers : Covers references) (componentId : TrustComponentId) :
    ∃ reference ∈ references, reference.evidenceType = componentId ∧
      referenceByType references componentId = some reference := by
  have listed : componentId ∈ references.map EvidenceReference.evidenceType :=
    covers.mem_iff.mpr (mem_trustComponentIds componentId)
  have searched : (referenceByType references componentId).isSome := by
    rw [referenceByType, List.find?_isSome]
    obtain ⟨reference, member, same⟩ := List.mem_map.mp listed
    exact ⟨reference, List.mem_reverse.mpr member, decide_eq_true same⟩
  obtain ⟨reference, found⟩ := Option.isSome_iff_exists.mp searched
  have same := List.find?_some found
  rw [decide_eq_true_eq] at same
  exact ⟨reference, List.mem_reverse.mp (List.mem_of_find?_eq_some found), same, found⟩

/-- A record joins with the one row of evidence that it refers to. -/
theorem join_eq {evidence : List EvidenceReference}
    (distinct : (evidence.map EvidenceReference.evidenceType).Nodup)
    {reference : EvidenceReference} (member : reference ∈ evidence) :
    (evidence.filter fun row => row.evidenceType = reference.evidenceType &&
      row.evidenceId = reference.evidenceId && row.sourceEventId = reference.sourceEventId)
        = [reference] := by
  have same : ∀ row : EvidenceReference, (decide (row.evidenceType = reference.evidenceType) &&
      decide (row.evidenceId = reference.evidenceId) &&
      decide (row.sourceEventId = reference.sourceEventId)) = (row == reference) := by
    intro row
    rw [Bool.eq_iff_iff]
    simp only [Bool.and_eq_true, decide_eq_true_eq, beq_iff_eq]
    constructor
    · rintro ⟨⟨type, id⟩, source⟩
      cases row
      cases reference
      cases type
      cases id
      cases source
      rfl
    · rintro rfl
      exact ⟨⟨rfl, rfl⟩, rfl⟩
  simp only [same]
  rw [List.filter_beq, List.count_eq_one_of_mem (List.Nodup.of_map _ distinct) member]
  rfl

/-- The database accepts the contributions and their total. -/
theorem contributions_accepted {state : TrustStateVersion}
    (value : ∀ componentId, (exact.get componentId).value = written
      (components.values.get componentId) * written (model.weights.get componentId))
    (sum : (Decimal.sum exact.toList).value = exactSum components.values model.weights)
    (short : ∀ componentId, HasPlaces 2 (components.values.get componentId))
    (shorter : ∀ componentId, HasPlaces 4 (model.weights.get componentId))
    (covers : Covers references) (stored : state.evidenceReferences.Perm references)
    (same : state.components = components.values.map written) :
    ∃ records, contributionRecords (weightedTrustScore components model exact) references
        = .ok records ∧
      contributionsMatch state (model.weights.map written) records
        (written (weightedTrustScore components model exact).score) = true := by
  have reference := covers.reference
  choose referenceOf member type found using reference
  let record : TrustComponentId → ContributionRecord := fun componentId =>
    ⟨componentId, written (components.values.get componentId),
      written (model.weights.get componentId), written ((exact.get componentId).rounded 6),
      (referenceOf componentId).evidenceId, (referenceOf componentId).sourceEventId⟩
  have supplied : contributionRecords (weightedTrustScore components model exact) references
      = .ok (trustComponentIds.map record) := by
    apply Checked.mapM_ok
    intro componentId _
    rw [found componentId]
    simp only [weightedTrustScore, Components.get_tabulate]
    rfl
  have distinct : (state.evidenceReferences.map EvidenceReference.evidenceType).Nodup :=
    (stored.map _).nodup_iff.mpr covers.nodup
  have joined : ∀ componentId, (state.evidenceReferences.filter fun row =>
      row.evidenceType = (record componentId).componentId &&
        row.evidenceId = (record componentId).evidenceId &&
        row.sourceEventId = (record componentId).sourceEventId)
      = [referenceOf componentId] := by
    intro componentId
    rw [show (record componentId).componentId = (referenceOf componentId).evidenceType from
      (type componentId).symm]
    exact join_eq distinct (stored.mem_iff.mpr (member componentId))
  have products := fun componentId =>
    written_contribution value componentId (short componentId) (shorter componentId)
  have kept : matchedContributions state (model.weights.map written)
      (trustComponentIds.map record) = trustComponentIds.map record := by
    have once : (trustComponentIds.map record).flatMap (fun supplied =>
        (state.evidenceReferences.filter fun row => row.evidenceType = supplied.componentId &&
          row.evidenceId = supplied.evidenceId &&
          row.sourceEventId = supplied.sourceEventId).map fun _ => supplied)
        = trustComponentIds.map record := by
      rw [List.flatMap_map]
      simp only [joined, List.map_cons, List.map_nil]
      exact List.map_eq_flatMap.symm
    rw [matchedContributions, once, List.filter_eq_self]
    intro supplied listed
    obtain ⟨componentId, _, rfl⟩ := List.mem_map.mp listed
    simp only [record, same, Components.get_map, decide_true, Bool.true_and]
    apply decide_eq_true
    exact (products componentId).1.trans (products componentId).2.symm
  refine ⟨_, supplied, ?_⟩
  have total : ((trustComponentIds.map record).map
      ContributionRecord.weightedContribution).sum
        = exactSum components.values model.weights := by
    rw [List.map_map, exactSum]
    apply congrArg
    apply List.map_congr_left
    intro componentId _
    exact (products componentId).1
  rw [contributionsMatch, kept, total, written_score sum]
  simp [trustComponentIds]

end Contributions

section Law

variable {componentValues : Components ScriptFloat} {configuration : TrustModelConfigurationValue}
  {components : NormalizedComponents} {model : TrustModelConfiguration}

structure WeightedScoreLaw (configuration : TrustModelConfigurationValue)
    (components : NormalizedComponents) (model : TrustModelConfiguration)
    (result : WeightedTrustScore) : Prop where
  /-- The exact sum, rounded half-up to two decimals. -/
  score : written result.score
    = ⌊exactSum components.values model.weights * 10 ^ 2 + 1 / 2⌋ / 10 ^ 2
  grows : ∀ otherValues others other, defineNormalizedComponents otherValues = .ok others →
    (∀ componentId, components.values.get componentId ≤ others.values.get componentId) →
    calculateWeightedTrustScore otherValues configuration = .ok other →
    result.score ≤ other.score
  contributions : (∀ componentId, HasPlaces 2 (components.values.get componentId)) →
    (∀ componentId, HasPlaces 4 (model.weights.get componentId)) → ∀ componentId,
      written (result.contributions.get componentId).weightedContribution
        = written (components.values.get componentId) * written (model.weights.get componentId)
  accepted : (∀ componentId, HasPlaces 2 (components.values.get componentId)) →
    (∀ componentId, HasPlaces 4 (model.weights.get componentId)) →
    ∀ (state : TrustStateVersion) (references : List EvidenceReference), Covers references →
      state.evidenceReferences.Perm references →
      state.components = components.values.map written →
      ∃ records, contributionRecords result references = .ok records ∧
        contributionsMatch state (model.weights.map written) records (written result.score)
          = true

/-- Every accepted input has a score, which is the exact sum rounded once. -/
theorem weighted_score_exact
    (defined : defineNormalizedComponents componentValues = .ok components)
    (configured : defineTrustModelConfiguration configuration = .ok model) :
    ∃ result, calculateWeightedTrustScore componentValues configuration = .ok result ∧
      WeightedScoreLaw configuration components model result := by
  obtain ⟨exact, calculated, value, sum⟩ := calculateWeightedTrustScore_eq defined configured
  refine ⟨_, calculated, ?_, ?_, ?_, ?_⟩
  · rw [written_score sum, roundNumeric_of_nonneg (exactSum_nonneg components model)]
  · intro otherValues others other otherDefined more otherCalculated
    obtain ⟨otherExact, again, _, otherSum⟩ :=
      calculateWeightedTrustScore_eq otherDefined configured
    rw [otherCalculated] at again
    cases again
    apply rounded_mono
    rw [sum, otherSum]
    exact exactSum_mono model more
  · intro short shorter componentId
    simp only [weightedTrustScore, Components.get_tabulate]
    exact (written_contribution value componentId (short componentId) (shorter componentId)).1
  · intro short shorter state references covers stored same
    exact contributions_accepted value sum short shorter covers stored same

end Law

namespace ScoreScenario

def componentHundredths : Components ℕ := ⟨8025, 7000, 6550, 10000, 9000⟩

def weightTenThousandths : Components ℕ := ⟨2000, 2500, 2500, 1500, 1500⟩

def values : Components ScriptFloat :=
  componentHundredths.map fun n : ℕ => some (.ofRat (n / 10 ^ 2))

def configuration : TrustModelConfigurationValue where
  modelVersion := "1.0.0"
  weights := weightTenThousandths.map fun n : ℕ => some (.ofRat (n / 10 ^ 4))

theorem accepted :
    (defineNormalizedComponents values).map (fun components => components.values.map some)
        = .ok values ∧
      (defineTrustModelConfiguration configuration).map (fun model => model.weights.map some)
        = .ok configuration.weights := by
  decide +kernel

theorem hasPlaces {places : ℕ} {numbers : Components Binary64} {decimals : Components ℕ}
    (few : places ≤ 6) (small : ∀ componentId, (decimals.get componentId : ℚ) / 10 ^ places ≤ 100)
    (read : numbers.map some = decimals.map fun n => some (.ofRat (n / 10 ^ places)))
    (componentId : TrustComponentId) : HasPlaces places (numbers.get componentId) := by
  have same := congrArg (fun all => all.get componentId) read
  simp only [Components.get_map, Option.some_inj] at same
  rw [same]
  exact ⟨decimals.get componentId, written_ofRat few ((small componentId).trans (by norm_num))⟩

end ScoreScenario

theorem weighted_score_exact_initial : ∃ components model result,
    defineNormalizedComponents ScoreScenario.values = .ok components ∧
    defineTrustModelConfiguration ScoreScenario.configuration = .ok model ∧
    calculateWeightedTrustScore ScoreScenario.values ScoreScenario.configuration = .ok result ∧
    WeightedScoreLaw ScoreScenario.configuration components model result ∧
    (∀ componentId, HasPlaces 2 (components.values.get componentId)) ∧
    ∀ componentId, HasPlaces 4 (model.weights.get componentId) := by
  obtain ⟨components, defined, values⟩ := Checked.map_eq_ok.mp ScoreScenario.accepted.1
  obtain ⟨model, configured, weights⟩ := Checked.map_eq_ok.mp ScoreScenario.accepted.2
  obtain ⟨result, calculated, law⟩ := weighted_score_exact defined configured
  refine ⟨components, model, result, defined, configured, calculated, law, ?_, ?_⟩
  · apply ScoreScenario.hasPlaces (by decide) _ values
    intro componentId
    cases componentId <;> norm_num [Components.get, ScoreScenario.componentHundredths]
  · apply ScoreScenario.hasPlaces (by decide) _ weights
    intro componentId
    cases componentId <;> norm_num [Components.get, ScoreScenario.weightTenThousandths]

end TenantTrust.Trust
