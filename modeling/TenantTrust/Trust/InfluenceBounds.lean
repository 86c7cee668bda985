import TenantTrust.Trust.CorroboratedRecovery

/-! How far one evaluation moves the score, beside the rounding to two decimal places. -/

namespace TenantTrust.Trust

open Library

variable {arith : Arithmetic}

/-- The score of an evaluation without critical evidence. -/
structure InfluenceBounded (arith : Arithmetic) (previous candidate influence score : ℚ) :
    Prop where
  least : min previous candidate - rounding arith ≤ score
  most : score ≤ max previous candidate + rounding arith
  moved : |score - previous| ≤ influence * 100 + 2 * rounding arith
  /-- Between scores of two decimal places nothing is left to rounding but the cap. -/
  hundredths : IsRounded arith previous → IsRounded arith candidate →
    min previous candidate ≤ score ∧ score ≤ max previous candidate ∧
      |scoreHundredths arith score - scoreHundredths arith previous|
        ≤ scoreHundredths arith (arith.mul influence 100)

/-- The score of an evaluation with critical evidence. -/
structure OverrideBounded (arith : Arithmetic) (previous candidate ceiling score : ℚ) :
    Prop where
  most : score ≤ min (min previous candidate) ceiling + rounding arith
  hundredths : IsRounded arith previous → IsRounded arith candidate →
    score ≤ previous ∧ score ≤ candidate ∧ score ≤ ceiling

theorem ceiling_isRounded {kind : String} {rule : CriticalEvidenceRule}
    (listed : (kind, rule) ∈ criticalEvidenceOverrideRules) :
    IsRounded arith rule.scoreCeiling := by
  have twenty : IsRounded arith 20 := by
    exact_mod_cast isRounded_natCast arith (n := 20) (by decide)
  have zero : IsRounded arith 0 := by
    exact_mod_cast isRounded_natCast arith (n := 0) (by decide)
  simp only [criticalEvidenceOverrideRules, List.mem_cons, Prod.mk.injEq, List.not_mem_nil,
    or_false] at listed
  rcases listed with ⟨_, rfl⟩ | ⟨_, rfl⟩ | ⟨_, rfl⟩ | ⟨_, rfl⟩ | ⟨_, rfl⟩
  · exact twenty
  · exact twenty
  · exact twenty
  · exact zero
  · exact twenty

section Ordinary

variable {previousState : ControlState} {source : Source} {candidateScore : ℚ}

/-- The sum before its rounding, and the step that it takes. -/
theorem bounded_sum_near (arith : Arithmetic) (previousState : ControlState) (source : Source)
    (valid : 0 ≤ candidateScore ∧ candidateScore ≤ 100) :
    |arith.add previousState.score (boundedDelta (source.maximumDeltaPoints arith)
        (arith.sub candidateScore previousState.score)) - previousState.score|
      ≤ source.maximumDeltaPoints arith + arith.slack := by
  obtain ⟨candidateLeast, candidateMost⟩ := valid
  obtain ⟨previousLeast, previousMost⟩ := previousState.score_valid
  have nonneg := maximumDeltaPoints_nonneg arith source
  have small := arith.slack_le
  have low := le_boundedDelta (arith.sub candidateScore previousState.score) nonneg
  have high := boundedDelta_le (arith.sub candidateScore previousState.score) nonneg
  have capped := abs_boundedDelta_le (arith.sub candidateScore previousState.score) nonneg
  obtain ⟨deltaLeast, deltaMost⟩ := abs_le.mp (arith.near (candidateScore - previousState.score)
    (by rw [abs_le]; constructor <;> linarith))
  change -arith.slack ≤ arith.sub candidateScore previousState.score - _ at deltaLeast
  change arith.sub candidateScore previousState.score - _ ≤ arith.slack at deltaMost
  generalize boundedDelta (source.maximumDeltaPoints arith)
    (arith.sub candidateScore previousState.score) = delta at low high capped ⊢
  generalize arith.sub candidateScore previousState.score = requested at *
  have bottom : -101 ≤ delta := le_trans (le_min (by linarith) (by linarith)) low
  have top : delta ≤ 101 := high.trans (max_le (by linarith) (by linarith))
  obtain ⟨stepLeast, stepMost⟩ := abs_le.mp capped
  obtain ⟨sumLeast, sumMost⟩ := abs_le.mp (arith.near (previousState.score + delta)
    (by rw [abs_le]; constructor <;> linarith))
  unfold Arithmetic.add
  rw [abs_le]
  constructor <;> linarith

theorem maximumDeltaPoints_le (arith : Arithmetic) (source : Source) :
    source.maximumDeltaPoints arith ≤ source.maximumInfluence * 100 + rounding arith := by
  obtain ⟨positive, atMost⟩ := source.influence_valid
  have small := arith.slack_le
  have nonneg := arith.slack_nonneg
  obtain ⟨errorLeast, errorMost⟩ := abs_le.mp (arith.near (source.maximumInfluence * 100)
    (by rw [abs_le]; constructor <;> linarith))
  obtain ⟨_, roundMost⟩ := abs_le.mp (abs_roundScore_sub_le arith
    (show -1000 ≤ arith.round (source.maximumInfluence * 100) by linarith)
    (show arith.round (source.maximumInfluence * 100) ≤ 1000 by linarith))
  change source.maximumDeltaPoints arith - _ ≤ _ at roundMost
  unfold rounding
  linarith

theorem hundredths_of_bounded_sum (arith : Arithmetic) (previousState : ControlState)
    (source : Source) (valid : 0 ≤ candidateScore ∧ candidateScore ≤ 100)
    (rounded : IsRounded arith previousState.score) :
    |scoreHundredths arith (boundedScore arith previousState candidateScore source)
        - scoreHundredths arith previousState.score|
      ≤ scoreHundredths arith (arith.mul source.maximumInfluence 100) := by
  obtain ⟨previousLeast, previousMost⟩ := previousState.score_valid
  have small := arith.slack_le
  obtain ⟨sumLow, sumHigh⟩ := bounded_sum_range arith previousState source valid
  have bottom : 0 ≤ min previousState.score candidateScore := le_min previousLeast valid.1
  have top : max previousState.score candidateScore ≤ 100 := max_le previousMost valid.2
  obtain ⟨stepLeast, stepMost⟩ := abs_le.mp (bounded_sum_near arith previousState source valid)
  unfold boundedScore
  generalize arith.add previousState.score (boundedDelta (source.maximumDeltaPoints arith)
    (arith.sub candidateScore previousState.score)) = sum at *
  have influence : 0 ≤ arith.mul source.maximumInfluence 100 ∧
      arith.mul source.maximumInfluence 100 ≤ 100 := by
    have bounded := arith.round_le_natCast (n := 100) (q := source.maximumInfluence * 100)
      (by decide) (by push_cast; linarith [source.influence_valid.2])
    rw [Nat.cast_ofNat] at bounded
    exact ⟨arith.round_nonneg (by linarith [source.influence_valid.1]), bounded⟩
  obtain ⟨capLeast, capMost⟩ := scoreHundredths_range arith
    (show -1 / 1000 ≤ arith.mul source.maximumInfluence 100 by linarith [influence.1])
    (show _ ≤ 100 + 1 / 1000 by linarith [influence.2])
  have capNear := abs_le.mp (round_hundredth_near arith capLeast capMost)
  change -arith.slack ≤ source.maximumDeltaPoints arith - _ ∧
    source.maximumDeltaPoints arith - _ ≤ arith.slack at capNear
  obtain ⟨capLow, capHigh⟩ := capNear
  obtain ⟨previousLow, previousHigh⟩ := abs_le.mp (rounded_near rounded previousLeast previousMost)
  obtain ⟨countLeast, countMost⟩ := scoreHundredths_range arith (x := previousState.score)
    (by linarith) (by linarith)
  obtain ⟨sumLeast, sumMost⟩ := scoreHundredths_range arith (x := sum) (by linarith) (by linarith)
  have kept : scoreHundredths arith (roundScore arith sum) = scoreHundredths arith sum := by
    rw [roundScore_eq, scoreHundredths_hundredth arith sumLeast sumMost]
  rw [kept]
  generalize scoreHundredths arith (arith.mul source.maximumInfluence 100) = cap at *
  generalize scoreHundredths arith previousState.score = count at *
  have capCast : (0 : ℚ) ≤ cap ∧ (cap : ℚ) ≤ 10000 := by
    constructor
    · exact_mod_cast capLeast
    · exact_mod_cast capMost
  have countCast : (0 : ℚ) ≤ count ∧ (count : ℚ) ≤ 10000 := by
    constructor
    · exact_mod_cast countLeast
    · exact_mod_cast countMost
  have above : scoreHundredths arith (((count + cap : ℤ) : ℚ) / 100 + 3 * arith.slack)
      = count + cap :=
    scoreHundredths_of_near arith (by push_cast; linarith [arith.slack_nonneg])
      (by push_cast; linarith) (by
        rw [add_sub_cancel_left, abs_of_nonneg (by linarith [arith.slack_nonneg])]
        linarith)
  have below : scoreHundredths arith (((count - cap : ℤ) : ℚ) / 100 - 3 * arith.slack)
      = count - cap :=
    scoreHundredths_of_near arith (by push_cast; linarith)
      (by push_cast; linarith [arith.slack_nonneg])
      (by
        rw [sub_sub_cancel_left, abs_neg, abs_of_nonneg (by linarith [arith.slack_nonneg])]
        linarith)
  have upper := scoreHundredths_mono arith
    (show sum ≤ ((count + cap : ℤ) : ℚ) / 100 + 3 * arith.slack by push_cast; linarith)
  have lower := scoreHundredths_mono arith
    (show ((count - cap : ℤ) : ℚ) / 100 - 3 * arith.slack ≤ sum by push_cast; linarith)
  rw [above] at upper
  rw [below] at lower
  rw [abs_le]
  constructor <;> omega

theorem boundedScore_bounded (arith : Arithmetic) (previousState : ControlState)
    (source : Source) (valid : 0 ≤ candidateScore ∧ candidateScore ≤ 100) :
    InfluenceBounded arith previousState.score candidateScore source.maximumInfluence
      (boundedScore arith previousState candidateScore source) := by
  have small := arith.slack_le
  have nonneg := arith.slack_nonneg
  have bottom : 0 ≤ min previousState.score candidateScore :=
    le_min previousState.score_valid.1 valid.1
  have top : max previousState.score candidateScore ≤ 100 :=
    max_le previousState.score_valid.2 valid.2
  have counted := hundredths_of_bounded_sum arith previousState source valid
  obtain ⟨sumLow, sumHigh⟩ := bounded_sum_range arith previousState source valid
  obtain ⟨stepLeast, stepMost⟩ := abs_le.mp (bounded_sum_near arith previousState source valid)
  have cap := maximumDeltaPoints_le arith source
  unfold boundedScore at counted ⊢
  generalize arith.add previousState.score (boundedDelta (source.maximumDeltaPoints arith)
    (arith.sub candidateScore previousState.score)) = sum at *
  obtain ⟨roundLeast, roundMost⟩ := abs_le.mp (abs_roundScore_sub_le arith (x := sum)
    (by linarith) (by linarith))
  have share : rounding arith = 1 / 200 + numberEpsilon + 5 * arith.slack := rfl
  constructor
  · linarith
  · linarith
  · rw [abs_le]
    constructor <;> linarith
  · intro previousRounded candidateRounded
    refine ⟨?_, ?_, counted previousRounded⟩
    · have fixed := roundScore_of_near (previousRounded.min candidateRounded) bottom
        (min_le_max.trans top) (x := min previousState.score candidateScore - 2 * arith.slack) (by
          rw [sub_sub_cancel_left, abs_neg, abs_of_nonneg (by linarith)]
          linarith)
      calc min previousState.score candidateScore
          = roundScore arith (min previousState.score candidateScore - 2 * arith.slack) :=
            fixed.symm
        _ ≤ roundScore arith sum := roundScore_mono arith sumLow
    · have fixed := roundScore_of_near (previousRounded.max candidateRounded)
        (bottom.trans min_le_max) top
        (x := max previousState.score candidateScore + 2 * arith.slack) (by
          rw [add_sub_cancel_left, abs_of_nonneg (by linarith)]
          linarith)
      calc roundScore arith sum
          ≤ roundScore arith (max previousState.score candidateScore + 2 * arith.slack) :=
            roundScore_mono arith sumHigh
        _ = max previousState.score candidateScore := fixed

theorem overrideScore_bounded (arith : Arithmetic) (previousState : ControlState)
    (valid : 0 ≤ candidateScore ∧ candidateScore ≤ 100) {kind : String}
    {rule : CriticalEvidenceRule} (listed : (kind, rule) ∈ criticalEvidenceOverrideRules) :
    OverrideBounded arith previousState.score candidateScore rule.scoreCeiling
      (roundScore arith (min (min previousState.score candidateScore) rule.scoreCeiling)) := by
  obtain ⟨ceilingLeast, ceilingMost, _⟩ := rule_bounds listed
  have least : 0 ≤ min (min previousState.score candidateScore) rule.scoreCeiling :=
    le_min (le_min previousState.score_valid.1 valid.1) ceilingLeast
  have most : min (min previousState.score candidateScore) rule.scoreCeiling ≤ 100 :=
    (min_le_right _ _).trans ceilingMost
  have nonneg := arith.slack_nonneg
  obtain ⟨_, roundMost⟩ := abs_le.mp (abs_roundScore_sub_le arith
    (x := min (min previousState.score candidateScore) rule.scoreCeiling)
    (by linarith) (by linarith))
  have share : rounding arith = 1 / 200 + numberEpsilon + 5 * arith.slack := rfl
  constructor
  · linarith
  · intro previousRounded candidateRounded
    have fixed := (previousRounded.min candidateRounded).min (ceiling_isRounded listed)
    rw [IsRounded] at fixed
    rw [fixed]
    exact ⟨(min_le_left _ _).trans (min_le_left _ _), (min_le_left _ _).trans (min_le_right _ _),
      min_le_right _ _⟩

end Ordinary

/-- An accepted call whose critical evidence is listed returns a score in range. Without critical
evidence the cap bounds its move, with it the score is not raised, and the kind is one of the five
with its own component. -/
theorem influence_bounded (arith : Arithmetic) (previous : ControlStateValue)
    (evaluation : ControlEvaluation) (result : TransitionControlResult)
    (applied : applyTrustTransitionControls arith previous evaluation = .ok result)
    (listed : evaluation.Listed) :
    ∃ previousScore candidateScore influence score, previous.score = some previousScore ∧
      evaluation.candidateScore = some candidateScore ∧
      evaluation.source.maximumInfluence = some influence ∧
      result.score = some score ∧ (0 ≤ score ∧ score ≤ 100) ∧
      (evaluation.criticalEvidence = none →
        InfluenceBounded arith previousScore candidateScore influence score) ∧
      ∀ value ∈ evaluation.criticalEvidence, ∃ rule,
        (value.kind, rule) ∈ criticalEvidenceOverrideRules ∧
          value.componentId = some rule.componentId ∧
          OverrideBounded arith previousScore candidateScore rule.scoreCeiling score := by
  obtain ⟨previousState, candidateScore, source, rfl, candidate, valid, bounded, branch⟩ :=
    applyTrustTransitionControls_cases applied
  have influence : evaluation.source.maximumInfluence = some source.maximumInfluence := by
    unfold normalizeSource at bounded
    split at bounded
    · rename_i given
      split at bounded
      · cases bounded
        exact given
      · cases bounded
    · cases bounded
  rcases branch with ⟨none, rfl⟩ | ⟨value, critical, supplied, normalized, rfl⟩
  · obtain ⟨next, reaches, same, _⟩ := ordinaryResult_moves arith previousState source valid
    refine ⟨_, _, _, next.score, rfl, candidate, influence, reaches.score, next.score_valid, ?_, ?_⟩
    · intro _
      rw [same]
      exact boundedScore_bounded arith previousState source valid
    · intro value member
      rw [none] at member
      cases member
  · rcases normalizeCriticalEvidence_cases normalized with
      ⟨rule, member, named, same⟩ | ⟨unlisted, _⟩
    · cases same
      obtain ⟨next, reaches, lowered, _⟩ :=
        overrideResult_reaches arith previousState source valid member
      refine ⟨_, _, _, next.score, rfl, candidate, influence, reaches.score, next.score_valid,
        ?_, ?_⟩
      · intro none
        rw [none] at supplied
        cases supplied
      · intro other found
        rw [supplied] at found
        cases found
        refine ⟨rule, member, named, ?_⟩
        rw [lowered]
        exact overrideScore_bounded arith previousState valid member
    · exact absurd (listed value supplied) unlisted

namespace InfluenceScenario

/-- A cap of half a hundredth, which is rounded up to a hundredth. -/
def faint : ControlEvaluation where
  candidateScore := some 60
  source := ⟨.plain ⟨1⟩, some (1 / 20000), []⟩
  criticalEvidence := none

def compromised : ControlEvaluation where
  candidateScore := some 60
  source := ⟨.plain ⟨1⟩, some (1 / 2), []⟩
  criticalEvidence := some ⟨"device-compromised", some "device"⟩

def previous (score : ℚ) : ControlStateValue := ⟨some score, some .low, 0⟩

theorem evaluated :
    (applyTrustTransitionControls .exact (previous 30) faint).map (·.score) =
        .ok (some (3001 / 100)) ∧
      (applyTrustTransitionControls .exact (previous (10006 / 1000)) compromised).map (·.score) =
        .ok (some (1001 / 100)) := by
  decide +kernel

end InfluenceScenario

open InfluenceScenario in
theorem influence_bounded_faint : ∃ result score,
    applyTrustTransitionControls .exact (previous 30) faint = .ok result ∧
      result.score = some score ∧ InfluenceBounded .exact 30 60 (1 / 20000) score := by
  obtain ⟨result, called, _⟩ := Checked.map_eq_ok.mp evaluated.1
  obtain ⟨_, _, _, score, same, candidate, influence, reached, _, bounded, _⟩ :=
    influence_bounded .exact (previous 30) faint result called
      (fun value member => by cases member)
  cases same
  cases candidate
  cases influence
  exact ⟨result, score, called, reached, bounded rfl⟩

open InfluenceScenario in
/-- The cap is rounded up, and so is a previous score of three decimal places. -/
theorem influence_exceeds_cap :
    (¬ ∀ previous evaluation result previousScore influence score,
      applyTrustTransitionControls .exact previous evaluation = .ok result →
      evaluation.criticalEvidence = none → previous.score = some previousScore →
      evaluation.source.maximumInfluence = some influence → result.score = some score →
        |score - previousScore| ≤ influence * 100) ∧
    ¬ ∀ previous evaluation result previousScore score,
      applyTrustTransitionControls .exact previous evaluation = .ok result →
      evaluation.criticalEvidence ≠ none → previous.score = some previousScore →
      result.score = some score → score ≤ previousScore := by
  constructor
  · intro always
    obtain ⟨result, called, reached⟩ := Checked.map_eq_ok.mp evaluated.1
    have bound := always _ _ _ _ _ _ called rfl rfl rfl reached
    norm_num at bound
  · intro always
    obtain ⟨result, called, reached⟩ := Checked.map_eq_ok.mp evaluated.2
    have bound := always _ _ _ _ _ called (by decide) rfl reached
    norm_num at bound

end TenantTrust.Trust
