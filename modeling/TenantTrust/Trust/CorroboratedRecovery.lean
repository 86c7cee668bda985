import TenantTrust.Trust.TransitionControls

/-! Over any run of the transition controls trust moves up one band at a time, after two
evaluations in a row that several sources bore out. -/

namespace TenantTrust.Trust

open Library

theorem validScore_iff {value : ScriptNumber} :
    validScore value = true ↔ ∃ score, value = some score ∧ 0 ≤ score ∧ score ≤ 100 := by
  cases value with
  | none => simp [validScore]
  | some score => simp [validScore]

section Rules

variable {value : CriticalEvidenceValue} {critical : Option CriticalEvidence}

/-- The kind is not the name of an inherited property, or a component comes with it. -/
def CriticalEvidenceValue.Listed (value : CriticalEvidenceValue) : Prop :=
  value.kind ∉ objectPrototypeProperties ∨ value.componentId ≠ none

def ControlEvaluation.Listed (evaluation : ControlEvaluation) : Prop :=
  ∀ value ∈ evaluation.criticalEvidence, value.Listed

/-- Accepted critical evidence has an own entry of the rule table, unless its kind is inherited
and it names no component. -/
theorem normalizeCriticalEvidence_cases
    (accepted : normalizeCriticalEvidence (some value) = .ok critical) :
    (∃ rule, (value.kind, rule) ∈ criticalEvidenceOverrideRules ∧
        value.componentId = some rule.componentId ∧
        critical = some ⟨value.kind, value.componentId, .own rule⟩) ∨
      (¬ value.Listed ∧ critical = some ⟨value.kind, value.componentId, .inherited⟩) := by
  simp only [normalizeCriticalEvidence, Checked.bind_eq_ok, Checked.requireSome_eq_ok,
    Checked.require_eq_ok, exists_const, Checked.pure_eq_ok] at accepted
  obtain ⟨read, found, same, rfl⟩ := accepted
  unfold criticalEvidenceRule readRule at found
  split at found
  · rename_i rule known
    cases found
    exact Or.inl ⟨rule, mem_of_lookup known, same.symm, rfl⟩
  · split at found
    · rename_i inherited
      cases found
      refine Or.inr ⟨fun listed => ?_, rfl⟩
      exact listed.elim (fun own => own inherited) (fun named => named same.symm)
    · cases found

end Rules

variable {arith : Arithmetic} {previous : ControlStateValue} {evaluation : ControlEvaluation}
  {result : TransitionControlResult}

/-- What a call that succeeds was given, and which branch it took. -/
theorem applyTrustTransitionControls_cases
    (applied : applyTrustTransitionControls arith previous evaluation = .ok result) :
    ∃ previousState candidateScore source, previous = previousState.value ∧
      evaluation.candidateScore = some candidateScore ∧
      (0 ≤ candidateScore ∧ candidateScore ≤ 100) ∧
      normalizeSource evaluation.source = .ok source ∧
      ((evaluation.criticalEvidence = none ∧
          result = ordinaryResult arith previousState source candidateScore) ∨
        ∃ value critical, evaluation.criticalEvidence = some value ∧
          normalizeCriticalEvidence (some value) = .ok (some critical) ∧
          result = overrideResult arith previousState source candidateScore critical) := by
  simp only [applyTrustTransitionControls, Checked.bind_eq_ok, Checked.requireSome_eq_ok,
    Checked.require_eq_ok, exists_const] at applied
  obtain ⟨previousState, accepted, candidateScore, given, valid, source, bounded, critical,
    normalized, branch⟩ := applied
  obtain ⟨score, sameScore, range⟩ := validScore_iff.mp valid
  rw [given] at sameScore
  cases sameScore
  refine ⟨previousState, candidateScore, source, normalizePreviousState_eq_ok accepted, given,
    range, bounded, ?_⟩
  cases supplied : evaluation.criticalEvidence with
  | none =>
      rw [supplied] at normalized
      cases normalized
      exact Or.inl ⟨rfl, (Checked.pure_eq_ok.mp branch).symm⟩
  | some value =>
      rw [supplied] at normalized
      rcases normalizeCriticalEvidence_cases normalized with ⟨_, _, _, rfl⟩ | ⟨_, rfl⟩
      · exact Or.inr ⟨value, _, rfl, normalized, (Checked.pure_eq_ok.mp branch).symm⟩
      · exact Or.inr ⟨value, _, rfl, normalized, (Checked.pure_eq_ok.mp branch).symm⟩

section Scores

variable {candidateScore : ℚ}

theorem maximumDeltaPoints_nonneg (arith : Arithmetic) (source : Source) :
    0 ≤ source.maximumDeltaPoints arith := by
  have least : 0 ≤ arith.mul source.maximumInfluence Bands.scoreRange :=
    arith.round_nonneg (mul_nonneg source.influence_valid.1.le (by norm_num [Bands.scoreRange]))
  have most : arith.mul source.maximumInfluence Bands.scoreRange ≤ 100 := by
    have bounded := arith.round_le_natCast (n := 100)
      (q := source.maximumInfluence * Bands.scoreRange) (by decide) (by
        have whole := source.influence_valid.2
        norm_num [Bands.scoreRange]
        linarith)
    rwa [Nat.cast_ofNat] at bounded
  exact roundScore_nonneg arith (by linarith) (by linarith)

theorem le_boundedDelta {cap : ℚ} (requested : ℚ) (nonneg : 0 ≤ cap) :
    min 0 requested ≤ boundedDelta cap requested := by
  rcases le_total requested 0 with down | up
  · have clipped : requested ≤ cap := down.trans nonneg
    rw [boundedDelta, min_eq_right down, min_eq_right clipped]
    exact le_max_right _ _
  · rw [boundedDelta, min_eq_left up]
    exact (le_min nonneg up).trans (le_max_right _ _)

theorem boundedDelta_le {cap : ℚ} (requested : ℚ) (nonneg : 0 ≤ cap) :
    boundedDelta cap requested ≤ max 0 requested :=
  max_le ((neg_nonpos.mpr nonneg).trans (le_max_left _ _))
    ((min_le_right _ _).trans (le_max_right _ _))

theorem abs_boundedDelta_le {cap : ℚ} (requested : ℚ) (nonneg : 0 ≤ cap) :
    |boundedDelta cap requested| ≤ cap := by
  rw [abs_le]
  exact ⟨le_max_left _ _, max_le ((neg_nonpos.mpr nonneg).trans nonneg) (min_le_left _ _)⟩

/-- The sum that is rounded leaves the two scores by two roundings at most. -/
theorem bounded_sum_range (arith : Arithmetic) (previousState : ControlState) (source : Source)
    (valid : 0 ≤ candidateScore ∧ candidateScore ≤ 100) :
    min previousState.score candidateScore - 2 * arith.slack
        ≤ arith.add previousState.score (boundedDelta (source.maximumDeltaPoints arith)
            (arith.sub candidateScore previousState.score)) ∧
      arith.add previousState.score (boundedDelta (source.maximumDeltaPoints arith)
            (arith.sub candidateScore previousState.score))
        ≤ max previousState.score candidateScore + 2 * arith.slack := by
  obtain ⟨candidateLeast, candidateMost⟩ := valid
  obtain ⟨previousLeast, previousMost⟩ := previousState.score_valid
  have nonneg := maximumDeltaPoints_nonneg arith source
  have low := le_boundedDelta (arith.sub candidateScore previousState.score) nonneg
  have high := boundedDelta_le (arith.sub candidateScore previousState.score) nonneg
  have small := arith.slack_le
  have positive := arith.slack_nonneg
  obtain ⟨deltaLeast, deltaMost⟩ := abs_le.mp (arith.near (candidateScore - previousState.score)
    (by rw [abs_le]; constructor <;> linarith))
  change -arith.slack ≤ arith.sub candidateScore previousState.score - _ at deltaLeast
  change arith.sub candidateScore previousState.score - _ ≤ arith.slack at deltaMost
  generalize boundedDelta (source.maximumDeltaPoints arith)
    (arith.sub candidateScore previousState.score) = delta at low high ⊢
  generalize arith.sub candidateScore previousState.score = requested at *
  have exactLow : min previousState.score candidateScore - arith.slack
      ≤ previousState.score + delta := by
    rcases min_choice 0 requested with same | same <;> rw [same] at low
    · linarith [min_le_left previousState.score candidateScore]
    · linarith [min_le_right previousState.score candidateScore]
  have exactHigh : previousState.score + delta
      ≤ max previousState.score candidateScore + arith.slack := by
    rcases max_choice 0 requested with same | same <;> rw [same] at high
    · linarith [le_max_left previousState.score candidateScore]
    · linarith [le_max_right previousState.score candidateScore]
  have bottom : 0 ≤ min previousState.score candidateScore := le_min previousLeast candidateLeast
  have top : max previousState.score candidateScore ≤ 100 := max_le previousMost candidateMost
  obtain ⟨sumLeast, sumMost⟩ := abs_le.mp (arith.near (previousState.score + delta)
    (by rw [abs_le]; constructor <;> linarith))
  unfold Arithmetic.add
  constructor <;> linarith

theorem boundedScore_valid (arith : Arithmetic) (previousState : ControlState) (source : Source)
    (valid : 0 ≤ candidateScore ∧ candidateScore ≤ 100) :
    0 ≤ boundedScore arith previousState candidateScore source ∧
      boundedScore arith previousState candidateScore source ≤ 100 := by
  obtain ⟨low, high⟩ := bounded_sum_range arith previousState source valid
  have small := arith.slack_le
  have bottom : 0 ≤ min previousState.score candidateScore :=
    le_min previousState.score_valid.1 valid.1
  have top : max previousState.score candidateScore ≤ 100 :=
    max_le previousState.score_valid.2 valid.2
  exact ⟨roundScore_nonneg arith (by linarith) (by linarith),
    roundScore_le_hundred arith (by linarith) (by linarith)⟩

end Scores

section Bands

variable {band : TrustBand} {score : ℚ} {source : Source}

theorem not_deteriorated_of_kept (kept : ¬ (deteriorationBand band score).rank < band.rank) :
    ∀ threshold ∈ deteriorationThreshold band, threshold ≤ score := by
  intro threshold member
  unfold deteriorationBand at kept
  cases band with
  | low => cases member
  | medium =>
      cases member
      by_contra below
      rw [if_pos (not_le.mp below)] at kept
      exact kept (by decide)
  | high =>
      cases member
      by_contra below
      split at kept
      · exact kept (by decide)
      · rw [if_pos ⟨rfl, not_le.mp below⟩] at kept
        exact kept (by decide)

theorem not_deteriorated_of_lower (lower : (deteriorationBand band score).rank < band.rank) :
    ∀ threshold ∈ deteriorationThreshold (deteriorationBand band score), threshold ≤ score := by
  intro threshold member
  unfold deteriorationBand at lower member
  split at member
  · cases member
  · rename_i least
    split at member
    · cases member
      exact not_lt.mp least
    · rename_i high
      rw [if_neg least, if_neg high] at lower
      exact absurd lower (lt_irrefl _)

theorem recoveryEligible_iff : recoveryEligible band score source = true ↔
    (∃ threshold ∈ recoveryThreshold band, threshold ≤ score) ∧
      Bands.distinctSourceCount ≤ source.distinctSourceIds.length := by
  simp [recoveryEligible, Option.any_eq_true]

theorem not_deteriorated_of_recovered
    (reached : ∃ threshold ∈ recoveryThreshold band, threshold ≤ score) :
    ∀ threshold ∈ deteriorationThreshold (nextRecoveryBand band), threshold ≤ score := by
  obtain ⟨recovery, known, reached⟩ := reached
  intro threshold member
  cases band with
  | low =>
      cases known
      cases member
      norm_num [Bands.lowRecoveryThreshold, Bands.mediumDeteriorationThreshold] at reached ⊢
      linarith
  | medium =>
      cases known
      cases member
      norm_num [Bands.mediumRecoveryThreshold, Bands.highDeteriorationThreshold] at reached ⊢
      linarith
  | high => cases known

end Bands

/-- The result is that state. -/
structure TransitionControlResult.Reaches (result : TransitionControlResult)
    (next : ControlState) : Prop where
  score : result.score = some next.score
  band : result.band = some next.band
  state : result.state = next.value

/-- How the ordinary branch moves the band and the streak. -/
inductive OrdinaryMove (previousState next : ControlState) (source : Source) :
    TransitionKind → Prop where
  | deteriorated (lower : next.band.rank < previousState.band.rank)
      (reset : next.recoveryStreak = 0) : OrdinaryMove previousState next source .deteriorated
  | held (same : next.band = previousState.band)
      (earned : 0 < next.recoveryStreak →
        recoveryEligible previousState.band next.score source = true) :
      OrdinaryMove previousState next source .held
  | recovered (above : next.band = nextRecoveryBand previousState.band)
      (eligible : recoveryEligible previousState.band next.score source = true)
      (earned : 0 < previousState.recoveryStreak) (reset : next.recoveryStreak = 0) :
      OrdinaryMove previousState next source .recovered

theorem ordinaryResult_moves (arith : Arithmetic) (previousState : ControlState) (source : Source)
    {candidateScore : ℚ} (valid : 0 ≤ candidateScore ∧ candidateScore ≤ 100) :
    ∃ next, (ordinaryResult arith previousState source candidateScore).Reaches next ∧
      next.score = boundedScore arith previousState candidateScore source ∧
      OrdinaryMove previousState next source
        (ordinaryResult arith previousState source candidateScore).transition := by
  have range := boundedScore_valid arith previousState source valid
  unfold ordinaryResult
  generalize boundedScore arith previousState candidateScore source = score at range ⊢
  dsimp only
  split
  case isTrue lower =>
    exact ⟨⟨score, _, 0, range, by decide, not_deteriorated_of_lower lower,
      fun none => absurd none (lt_irrefl 0)⟩, ⟨rfl, rfl, rfl⟩, rfl, .deteriorated lower rfl⟩
  case isFalse kept =>
    cases eligible : recoveryEligible previousState.band score source with
    | false =>
        rw [if_neg Bool.false_ne_true, if_neg (by decide)]
        exact ⟨⟨score, _, 0, range, by decide, not_deteriorated_of_kept kept,
          fun none => absurd none (lt_irrefl 0)⟩, ⟨rfl, rfl, rfl⟩, rfl,
          .held rfl fun none => absurd none (lt_irrefl 0)⟩
    | true =>
        have reached := (recoveryEligible_iff.mp eligible).1
        rw [if_pos rfl]
        split
        case isTrue twice =>
          have earned : 0 < previousState.recoveryStreak := by
            unfold Bands.consecutiveQualifyingEvaluations at twice
            omega
          exact ⟨⟨score, _, 0, range, by decide, not_deteriorated_of_recovered reached,
            fun none => absurd none (lt_irrefl 0)⟩, ⟨rfl, rfl, rfl⟩, rfl,
            .recovered rfl eligible earned rfl⟩
        case isFalse once =>
          exact ⟨⟨score, _, _, range, not_le.mp once, not_deteriorated_of_kept kept,
            fun _ => reached⟩, ⟨rfl, rfl, rfl⟩, rfl, .held rfl fun _ => eligible⟩

theorem overrideResult_reaches (arith : Arithmetic) (previousState : ControlState)
    (source : Source) {candidateScore : ℚ} (valid : 0 ≤ candidateScore ∧ candidateScore ≤ 100)
    {kind : String} {componentId : Option String} {rule : CriticalEvidenceRule}
    (listed : (kind, rule) ∈ criticalEvidenceOverrideRules) :
    ∃ next, (overrideResult arith previousState source candidateScore
        ⟨kind, componentId, .own rule⟩).Reaches next ∧
      next.score = roundScore arith
        (min (min previousState.score candidateScore) rule.scoreCeiling) ∧
      next.band = .low ∧ next.recoveryStreak = 0 := by
  obtain ⟨ceilingLeast, ceilingMost, forced⟩ := rule_bounds listed
  have least : 0 ≤ min (min previousState.score candidateScore) rule.scoreCeiling :=
    le_min (le_min previousState.score_valid.1 valid.1) ceilingLeast
  have most : min (min previousState.score candidateScore) rule.scoreCeiling ≤ 100 :=
    (min_le_right _ _).trans ceilingMost
  refine ⟨⟨roundScore arith (min (min previousState.score candidateScore) rule.scoreCeiling),
    .low, 0, ⟨roundScore_nonneg arith (by linarith) (by linarith),
      roundScore_le_hundred arith (by linarith) (by linarith)⟩, by decide,
    fun _ none => (by cases none), fun none => absurd none (lt_irrefl 0)⟩, ?_, rfl, rfl, rfl⟩
  constructor
  · rfl
  · exact congrArg some forced
  · simp only [overrideResult, RuleValue.scoreCeiling, RuleValue.forcedBand, forced,
      Option.map_some, ControlState.value, Nat.cast_zero]

section Runs

/-- One call of a run. -/
structure ControlStep where
  before : ControlStateValue
  evaluation : ControlEvaluation
  result : TransitionControlResult

/-- Evaluations that start from an initial score, each from the state that the last one returned;
the latest step comes first. -/
inductive ControlRun (arith : Arithmetic) (initialScore : ScriptNumber) :
    List ControlStep → ControlStateValue → Prop where
  | start {state : ControlStateValue}
      (initialized : initializeTrustControlState initialScore = .ok state) :
      ControlRun arith initialScore [] state
  | step {history : List ControlStep} {state : ControlStateValue} {evaluation : ControlEvaluation}
      {result : TransitionControlResult} (run : ControlRun arith initialScore history state)
      (applied : applyTrustTransitionControls arith state evaluation = .ok result) :
      ControlRun arith initialScore (⟨state, evaluation, result⟩ :: history) result.state

def SourceValue.sourceIds (source : SourceValue) : List (Passed SourceId) :=
  source.sourceId :: source.corroboratingSourceIds

/-- The number of sources that the identifiers name, however they are passed. -/
def SourceValue.distinctSourceCount (source : SourceValue) : ℕ :=
  (distinctValues (source.sourceIds.map Passed.read)).length

/-- Where the source's identifiers are several values they name several sources. -/
def SourceValue.Told (source : SourceValue) : Prop :=
  Bands.distinctSourceCount ≤ (distinctValues source.sourceIds).length →
    Bands.distinctSourceCount ≤ source.distinctSourceCount

theorem SourceValue.told_of_plain {source : SourceValue}
    (isPlain : ∀ sourceId ∈ source.sourceIds, sourceId.isPlain = true) : source.Told := by
  intro several
  have varied : Varied id source.sourceIds :=
    two_le_distinctValues_iff.mp (by rwa [List.map_id])
  exact two_le_distinctValues_iff.mpr (varied.read isPlain)

/-- The step had several sources and a score at which the band may be left upwards, and was no
critical override or deterioration. -/
structure ControlStep.Corroborates (step : ControlStep) (band : TrustBand) : Prop where
  sources : Bands.distinctSourceCount ≤ step.evaluation.source.distinctSourceCount
  reached : ∃ score threshold, step.result.score = some score ∧
    recoveryThreshold band = some threshold ∧ threshold ≤ score
  ordinary : step.evaluation.criticalEvidence = none
  notOverride : step.result.transition ≠ .criticalOverride
  notDeteriorated : step.result.transition ≠ .deteriorated

/-- The band of a state is one that its score may have. -/
def ControlStateValue.Classified (state : ControlStateValue) : Prop :=
  ∀ band threshold, state.band = some band → deteriorationThreshold band = some threshold →
    ∃ score, state.score = some score ∧ threshold ≤ score

structure CorroboratedRun (history : List ControlStep) (state : ControlStateValue) : Prop where
  accepted : ∀ value ∈ state :: history.map ControlStep.before,
    ∃ previousState, normalizePreviousState value = .ok previousState
  classified : ∀ value ∈ state :: history.map ControlStep.before, value.Classified
  oneBand : ∀ step ∈ history, ∀ before after, step.before.band = some before →
    step.result.band = some after → after.rank ≤ before.rank + 1
  corroborated : ∀ later step earlier, history = later ++ step :: earlier →
    ∀ before after, step.before.band = some before → step.result.band = some after →
      before.rank < after.rank → step.Corroborates before ∧
        ∃ preceding rest, earlier = preceding :: rest ∧ preceding.Corroborates before

variable {initialScore : ScriptNumber} {history : List ControlStep} {state : ControlStateValue}

theorem ControlState.classified (state : ControlState) : state.value.Classified := by
  intro band threshold same known
  cases same
  exact ⟨state.score, rfl, state.not_deteriorated threshold known⟩

theorem initializeTrustControlState_reaches
    (initialized : initializeTrustControlState initialScore = .ok state) :
    ∃ next : ControlState, state = next.value ∧ next.recoveryStreak = 0 := by
  simp only [initializeTrustControlState, Checked.bind_eq_ok, Checked.requireSome_eq_ok,
    Checked.require_eq_ok, exists_const, Checked.pure_eq_ok] at initialized
  obtain ⟨score, rfl, valid, rfl⟩ := initialized
  obtain ⟨_, same, range⟩ := validScore_iff.mp valid
  cases same
  refine ⟨⟨score, classifyBaseBand score, 0, range, by decide, ?_,
    fun none => absurd none (lt_irrefl 0)⟩, rfl, rfl⟩
  intro threshold known
  unfold classifyBaseBand at known
  split at known
  · cases known
  · rename_i medium
    split at known
    · cases known
      norm_num [Bands.lowBaseMaximumExclusive, Bands.mediumDeteriorationThreshold] at medium ⊢
      linarith
    · rename_i high
      cases known
      norm_num [Bands.mediumBaseMaximumExclusive, Bands.highDeteriorationThreshold] at high ⊢
      linarith

theorem normalizeSource_distinct {value : SourceValue} {source : Source}
    (bounded : normalizeSource value = .ok source) :
    source.distinctSourceIds.length = (distinctValues value.sourceIds).length := by
  unfold normalizeSource at bounded
  split at bounded
  · split at bounded
    · cases bounded
      exact length_sortPassed
    · cases bounded
  · cases bounded

theorem corroborates_of_eligible {previousState next : ControlState} {source : Source}
    (bounded : normalizeSource evaluation.source = .ok source)
    (none : evaluation.criticalEvidence = none) (reaches : result.Reaches next)
    (eligible : recoveryEligible previousState.band next.score source = true)
    (told : evaluation.source.Told) (notOverride : result.transition ≠ .criticalOverride)
    (notDeteriorated : result.transition ≠ .deteriorated) :
    ControlStep.Corroborates ⟨previous, evaluation, result⟩ previousState.band := by
  obtain ⟨⟨threshold, known, reached⟩, sources⟩ := recoveryEligible_iff.mp eligible
  rw [normalizeSource_distinct bounded] at sources
  exact ⟨told sources, ⟨next.score, threshold, reaches.score, known, reached⟩, none, notOverride,
    notDeteriorated⟩

/-- What one step preserves: the new state is accepted, a positive streak was earned by this step,
and a rise was earned by this step and by the streak before it. -/
theorem step_corroborated {previousState : ControlState}
    (applied : applyTrustTransitionControls arith previousState.value evaluation = .ok result)
    (listed : evaluation.Listed) (told : evaluation.source.Told) :
    ∃ next, result.Reaches next ∧
      (0 < next.recoveryStreak → next.band = previousState.band ∧
        ControlStep.Corroborates ⟨previousState.value, evaluation, result⟩ next.band) ∧
      (previousState.band.rank < next.band.rank → next.band.rank ≤ previousState.band.rank + 1 ∧
        0 < previousState.recoveryStreak ∧
        ControlStep.Corroborates ⟨previousState.value, evaluation, result⟩ previousState.band) := by
  obtain ⟨taken, candidateScore, source, same, _, valid, bounded, branch⟩ :=
    applyTrustTransitionControls_cases applied
  have taken_eq : taken = previousState := by
    have first := normalizePreviousState_value previousState
    rw [same, normalizePreviousState_value] at first
    exact Except.ok.inj first
  subst taken_eq
  rcases branch with ⟨none, rfl⟩ | ⟨value, critical, supplied, normalized, rfl⟩
  · obtain ⟨next, reaches, _, move⟩ := ordinaryResult_moves arith taken source valid
    refine ⟨next, reaches, ?_⟩
    generalize ordinaryResult arith taken source candidateScore = result at *
    generalize moved : result.transition = kind at move
    cases move with
    | deteriorated lower reset => exact ⟨fun earned => by omega, fun rise => by omega⟩
    | held kept earned =>
        refine ⟨fun positive => ⟨kept, ?_⟩, fun rise => ?_⟩
        · rw [kept]
          exact corroborates_of_eligible bounded none reaches (earned positive) told
            (by rw [moved]; decide) (by rw [moved]; decide)
        · rw [kept] at rise
          exact absurd rise (lt_irrefl _)
    | recovered above eligible earned reset =>
        refine ⟨fun positive => by omega, fun _ => ⟨?_, earned, ?_⟩⟩
        · rw [above]
          cases taken.band <;> decide
        · exact corroborates_of_eligible bounded none reaches eligible told
            (by rw [moved]; decide) (by rw [moved]; decide)
  · rcases normalizeCriticalEvidence_cases normalized with ⟨rule, member, _, same⟩ | ⟨unlisted, _⟩
    · cases same
      obtain ⟨next, reaches, _, lowest, reset⟩ :=
        overrideResult_reaches arith taken source valid member
      refine ⟨next, reaches, fun earned => by omega, fun rise => ?_⟩
      rw [lowest] at rise
      exact absurd rise (Nat.not_lt_zero _)
    · exact absurd (listed value supplied) unlisted

/-- A positive streak was earned by the latest step. -/
theorem run_reaches (run : ControlRun arith initialScore history state)
    (listed : ∀ step ∈ history, step.evaluation.Listed)
    (told : ∀ step ∈ history, step.evaluation.source.Told) :
    ∃ next : ControlState, state = next.value ∧ (0 < next.recoveryStreak →
      ∃ preceding rest, history = preceding :: rest ∧ preceding.Corroborates next.band) := by
  cases run with
  | start initialized =>
      obtain ⟨next, same, reset⟩ := initializeTrustControlState_reaches initialized
      exact ⟨next, same, fun earned => by omega⟩
  | @step earlier before evaluation result run applied =>
      have stepListed := listed _ List.mem_cons_self
      have stepTold := told _ List.mem_cons_self
      obtain ⟨previousState, accepted, _⟩ : ∃ s : ControlState, before = s.value ∧ True := by
        obtain ⟨taken, _, _, same, _⟩ := applyTrustTransitionControls_cases applied
        exact ⟨taken, same, trivial⟩
      subst accepted
      obtain ⟨next, reaches, streak, _⟩ := step_corroborated applied stepListed stepTold
      exact ⟨next, reaches.state, fun earned => ⟨_, _, rfl, (streak earned).2⟩⟩

theorem run_corroborated (run : ControlRun arith initialScore history state)
    (listed : ∀ step ∈ history, step.evaluation.Listed)
    (told : ∀ step ∈ history, step.evaluation.source.Told) : CorroboratedRun history state := by
  induction run with
  | start initialized =>
      obtain ⟨next, rfl, _⟩ := initializeTrustControlState_reaches initialized
      constructor
      · intro value member
        rw [List.mem_singleton.mp member]
        exact ⟨next, normalizePreviousState_value next⟩
      · intro value member
        rw [List.mem_singleton.mp member]
        exact next.classified
      · intro step member
        cases member
      · intro later step earlier split
        exact absurd split (by simp)
  | @step earlier before evaluation result run applied ih =>
      have earlierListed : ∀ step ∈ earlier, step.evaluation.Listed :=
        fun step member => listed step (List.mem_cons_of_mem _ member)
      have earlierTold : ∀ step ∈ earlier, step.evaluation.source.Told :=
        fun step member => told step (List.mem_cons_of_mem _ member)
      have stepListed := listed _ List.mem_cons_self
      have stepTold := told _ List.mem_cons_self
      have invariant := ih earlierListed earlierTold
      obtain ⟨previousState, rfl, streakBefore⟩ := run_reaches run earlierListed earlierTold
      obtain ⟨next, reaches, _, rise⟩ := step_corroborated applied stepListed stepTold
      constructor
      · intro value member
        rcases List.mem_cons.mp member with rfl | older
        · rw [reaches.state]
          exact ⟨next, normalizePreviousState_value next⟩
        · exact invariant.accepted value older
      · intro value member
        rcases List.mem_cons.mp member with rfl | older
        · rw [reaches.state]
          exact next.classified
        · exact invariant.classified value older
      · intro step member start finish startBand finishBand
        rcases List.mem_cons.mp member with rfl | older
        · cases startBand
          rw [reaches.band] at finishBand
          cases finishBand
          by_cases rises : previousState.band.rank < next.band.rank
          · exact (rise rises).1
          · omega
        · exact invariant.oneBand step older start finish startBand finishBand
      · intro later step rest split start finish startBand finishBand rises
        cases later with
        | nil =>
            cases split
            cases startBand
            rw [reaches.band] at finishBand
            cases finishBand
            obtain ⟨_, earned, corroborates⟩ := rise rises
            exact ⟨corroborates, streakBefore earned⟩
        | cons newest others =>
            cases split
            exact invariant.corroborated others step rest rfl start finish startBand finishBand
              rises

theorem applied_of_mem (run : ControlRun arith initialScore history state) {step : ControlStep}
    (member : step ∈ history) :
    applyTrustTransitionControls arith step.before step.evaluation = .ok step.result ∧
      step.result.state ∈ state :: history.map ControlStep.before := by
  induction run with
  | start => cases member
  | @step earlier before evaluation result run applied ih =>
      rcases List.mem_cons.mp member with rfl | older
      · exact ⟨applied, List.mem_cons_self⟩
      · obtain ⟨called, visited⟩ := ih older
        exact ⟨called, List.mem_cons_of_mem _ visited⟩

/-- A call with an inherited rule returns a state that no later call accepts. -/
theorem unlisted_not_accepted
    (applied : applyTrustTransitionControls arith previous evaluation = .ok result)
    (unlisted : ¬ evaluation.Listed) {next : ControlState}
    (accepted : normalizePreviousState result.state = .ok next) : False := by
  obtain ⟨_, _, _, _, _, _, _, branch⟩ := applyTrustTransitionControls_cases applied
  have same := normalizePreviousState_eq_ok accepted
  rcases branch with ⟨none, _⟩ | ⟨value, critical, supplied, normalized, rfl⟩
  · refine unlisted fun value member => ?_
    rw [none] at member
    cases member
  · rcases normalizeCriticalEvidence_cases normalized with ⟨rule, member, named, _⟩ | ⟨_, inherited⟩
    · refine unlisted fun other found => Or.inr ?_
      rw [supplied] at found
      cases found
      rw [named]
      exact Option.some_ne_none _
    · cases inherited
      cases same

/-- Where every source is told by its identifiers, a run has these properties exactly if no
evaluation brings critical evidence of an inherited kind. -/
theorem trust_rises_by_corroboration (run : ControlRun arith initialScore history state)
    (told : ∀ step ∈ history, step.evaluation.source.Told) :
    CorroboratedRun history state ↔ ∀ step ∈ history, step.evaluation.Listed := by
  constructor
  · intro corroborated step member
    by_contra unlisted
    obtain ⟨applied, visited⟩ := applied_of_mem run member
    obtain ⟨next, accepted⟩ := corroborated.accepted _ visited
    exact unlisted_not_accepted applied unlisted accepted
  · intro listed
    exact run_corroborated run listed told

namespace RecoveryScenario

def evaluationOf (corroboratingSourceIds : List (Passed SourceId)) : ControlEvaluation where
  candidateScore := some 80
  source := ⟨.plain ⟨1⟩, some (1 / 2), corroboratingSourceIds⟩
  criticalEvidence := none

def corroborated : ControlEvaluation := evaluationOf [.plain ⟨2⟩]

/-- The corroborating source is an array of the source itself. -/
def selfCorroborated : ControlEvaluation := evaluationOf [.object 1 ⟨1⟩]

/-- Critical evidence of a kind that the rule table inherits, without a component. -/
def inherited : ControlEvaluation :=
  { evaluationOf [] with criticalEvidence := some ⟨"constructor", none⟩ }

def initial : ControlStateValue := ⟨some 60, some .medium, 0⟩

def qualified : ControlStateValue := ⟨some 80, some .medium, 1⟩

theorem initialized : initializeTrustControlState (some 60) = .ok initial := by rfl

theorem evaluated :
    (∀ evaluation ∈ [corroborated, selfCorroborated],
      (applyTrustTransitionControls .binary64 initial evaluation).map (·.state) =
          .ok qualified ∧
        (applyTrustTransitionControls .binary64 qualified evaluation).map
          (fun result => (result.state, result.band)) =
            .ok (⟨some 80, some .high, 0⟩, some .high)) ∧
      (applyTrustTransitionControls .binary64 initial inherited).map (·.state) =
        .ok ⟨none, none, 0⟩ := by
  decide +kernel

/-- The history of two steps with the same evaluation, newest first. -/
def rising (evaluation : ControlEvaluation) (first second : TransitionControlResult) :
    List ControlStep :=
  [⟨qualified, evaluation, second⟩, ⟨initial, evaluation, first⟩]

theorem rising_evaluation {evaluation : ControlEvaluation}
    {first second : TransitionControlResult} {step : ControlStep}
    (member : step ∈ rising evaluation first second) : step.evaluation = evaluation := by
  rcases List.mem_cons.mp member with rfl | older
  · rfl
  · rw [List.mem_singleton.mp older]

/-- Two evaluations in a row take the band up. -/
theorem raises {evaluation : ControlEvaluation}
    (member : evaluation ∈ [corroborated, selfCorroborated]) : ∃ first second,
    ControlRun .binary64 (some 60) (rising evaluation first second)
      ⟨some 80, some .high, 0⟩ ∧ second.band = some .high := by
  obtain ⟨starts, rises⟩ := evaluated.1 evaluation member
  obtain ⟨first, firstApplied, firstState⟩ := Checked.map_eq_ok.mp starts
  obtain ⟨second, secondApplied, reached⟩ := Checked.map_eq_ok.mp rises
  obtain ⟨secondState, band⟩ := Prod.mk.inj reached
  have start := ControlRun.step (.start initialized) firstApplied
  rw [firstState] at start
  have run := start.step secondApplied
  rw [secondState] at run
  exact ⟨first, second, run, band⟩

end RecoveryScenario

open RecoveryScenario in
theorem trust_rises_by_corroboration_twice : ∃ history,
    ControlRun .binary64 (some 60) history ⟨some 80, some .high, 0⟩ ∧ history.length = 2 ∧
      CorroboratedRun history ⟨some 80, some .high, 0⟩ := by
  obtain ⟨first, second, run, _⟩ := raises (List.mem_cons_self : corroborated ∈ _)
  refine ⟨_, run, rfl, (trust_rises_by_corroboration run ?_).mpr ?_⟩
  · intro step member
    rw [rising_evaluation member]
    exact SourceValue.told_of_plain (by decide)
  · intro step member value supplied
    rw [rising_evaluation member] at supplied
    cases supplied

open RecoveryScenario in
/-- The kind `constructor` without a component is accepted, and the state that follows is not. An
array of the source's own identifier corroborates it. -/
theorem values_break_run :
    (¬ ∀ (initialScore : ScriptNumber) (history : List ControlStep) (state : ControlStateValue),
      ControlRun .binary64 initialScore history state → CorroboratedRun history state) ∧
    ¬ ∀ (initialScore : ScriptNumber) (history : List ControlStep) (state : ControlStateValue),
      ControlRun .binary64 initialScore history state →
      (∀ step ∈ history, step.evaluation.Listed) → CorroboratedRun history state := by
  constructor
  · intro always
    obtain ⟨result, called, reached⟩ := Checked.map_eq_ok.mp evaluated.2
    have run := ControlRun.step (.start initialized) called
    obtain ⟨next, accepted⟩ := (always _ _ _ run).accepted result.state List.mem_cons_self
    rw [reached] at accepted
    cases accepted
  · intro always
    obtain ⟨first, second, run, band⟩ := raises (List.mem_cons_of_mem _ List.mem_cons_self :
      selfCorroborated ∈ [corroborated, selfCorroborated])
    have listed : ∀ step ∈ rising selfCorroborated first second, step.evaluation.Listed := by
      intro step member value supplied
      rw [rising_evaluation member] at supplied
      cases supplied
    obtain ⟨⟨sources, _⟩, _⟩ := (always _ _ _ run listed).corroborated [] _ _ rfl .medium .high
      rfl band (by decide)
    have single : selfCorroborated.source.distinctSourceCount < Bands.distinctSourceCount := by
      decide
    exact absurd sources (Nat.not_le.mpr single)

end Runs

end TenantTrust.Trust
