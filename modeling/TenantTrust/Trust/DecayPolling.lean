import Mathlib.Data.List.Chain
import TenantTrust.Trust.TemporalSmoothing

/-! Evaluations without a fresh observation do not depend on how often they are made. -/

namespace TenantTrust.Trust

open Library Identity

variable (arith : Arithmetic) (two : PowerOfTwo) (configuration : TemporalTrustConfiguration)

/-- An evaluation, with the observation that it is given. -/
structure Poll where
  observation : Option TrustObservation
  evaluatedAt : Timestamp
  deriving DecidableEq, Repr

/-- The observation is missing, or it is well formed and stale. -/
def Poll.Unfed (poll : Poll) : Prop :=
  (∀ observation ∈ poll.observation,
    inScoreRange observation.score ∧ observation.observedAt ≤ poll.evaluatedAt) ∧
    observationStatus arith configuration poll.evaluatedAt poll.observation ≠ .fresh

/-- Evaluations in turn, each from the state that the last one returned. -/
def pollAll (previous : Option TemporalState) : List Poll → Except String (List SmoothingResult)
  | [] => .ok []
  | poll :: rest => do
      let result ← advanceSmoothedTrustScore arith two configuration previous poll.observation
        poll.evaluatedAt
      let later ← pollAll (some result.temporalState) rest
      return result :: later

/-- The state after an evaluation without a fresh observation. -/
def unfedState (previous : Option TemporalState) (evaluatedAt : Timestamp) : TemporalState :=
  (unfedResult arith two configuration previous none evaluatedAt).temporalState

variable {arith two configuration} {previous : Option TemporalState} {poll : Poll}
  {observation : Option TrustObservation} {earlier later : Timestamp}

section Elapsed

variable (arith configuration) {since : Timestamp}

theorem secondsBetween_mono (since : Timestamp) (ordered : earlier ≤ later) :
    secondsBetween arith earlier since ≤ secondsBetween arith later since := by
  have cast : (earlier : ℚ) ≤ later := by exact_mod_cast ordered
  have difference : arith.sub earlier since ≤ arith.sub later since :=
    arith.mono (by linarith)
  exact arith.mono (by linarith)

theorem elapsed_nonneg (evaluatedAt since : Timestamp) :
    0 ≤ elapsedBeyondStaleSeconds arith configuration evaluatedAt since := le_max_left _ _

theorem elapsed_mono (since : Timestamp) (ordered : earlier ≤ later) :
    elapsedBeyondStaleSeconds arith configuration earlier since
      ≤ elapsedBeyondStaleSeconds arith configuration later since := by
  have age := secondsBetween_mono arith since ordered
  exact max_le_max le_rfl (arith.mono (by linarith))

/-- While a later evaluation holds, an earlier one does. -/
theorem elapsed_zero_of_later (ordered : earlier ≤ later)
    (held : elapsedBeyondStaleSeconds arith configuration later since = 0) :
    elapsedBeyondStaleSeconds arith configuration earlier since = 0 := by
  have below := elapsed_mono arith configuration since ordered
  rw [held] at below
  exact le_antisymm below (elapsed_nonneg arith configuration earlier since)

/-- Nothing has elapsed while the last observation is still fresh. -/
theorem elapsed_zero_of_fresh
    (fresh : secondsBetween arith later since ≤ configuration.staleAfterSeconds) :
    elapsedBeyondStaleSeconds arith configuration later since = 0 :=
  max_eq_left (arith.round_nonpos (by linarith))

end Elapsed

section Decay

variable (arith two configuration) {anchorScore elapsed : ℚ}

theorem retentionFactor_range (nonneg : 0 ≤ elapsed) :
    0 ≤ retentionFactor arith two configuration elapsed ∧
      retentionFactor arith two configuration elapsed ≤ 1 := by
  refine ⟨two.nonneg _, two.le_one _ (arith.round_nonpos ?_)⟩
  exact div_nonpos_of_nonpos_of_nonneg (neg_nonpos.mpr nonneg) (Nat.cast_nonneg _)

theorem retentionFactor_antitone : Antitone (retentionFactor arith two configuration) := by
  intro less more ordered
  apply two.mono
  apply arith.mono
  exact div_le_div_of_nonneg_right (neg_le_neg ordered) (Nat.cast_nonneg _)

/-- The sum before its rounding. -/
theorem decay_sum_range (valid : inScoreRange anchorScore) (nonneg : 0 ≤ elapsed) :
    min configuration.initialScore anchorScore - arith.slack
        ≤ arith.add (min configuration.initialScore anchorScore)
          (arith.mul (arith.sub anchorScore (min configuration.initialScore anchorScore))
            (retentionFactor arith two configuration elapsed)) ∧
      arith.add (min configuration.initialScore anchorScore)
          (arith.mul (arith.sub anchorScore (min configuration.initialScore anchorScore))
            (retentionFactor arith two configuration elapsed))
        ≤ anchorScore + 3 * arith.slack := by
  obtain ⟨factorLeast, factorMost⟩ :=
    retentionFactor_range arith two configuration nonneg
  obtain ⟨anchorLeast, anchorMost⟩ := valid
  obtain ⟨initialLeast, initialMost⟩ := configuration.initialScore_valid
  have below : min configuration.initialScore anchorScore ≤ anchorScore := min_le_right _ _
  have least : 0 ≤ min configuration.initialScore anchorScore := le_min initialLeast anchorLeast
  have small := arith.slack_le
  have positive := arith.slack_nonneg
  generalize min configuration.initialScore anchorScore = baseline at *
  generalize retentionFactor arith two configuration elapsed = factor at *
  have gapLeast : 0 ≤ arith.sub anchorScore baseline := arith.round_nonneg (by linarith)
  have gapMost : arith.sub anchorScore baseline ≤ anchorScore - baseline + arith.slack :=
    arith.round_le_add (by rw [abs_le]; constructor <;> linarith)
  generalize arith.sub anchorScore baseline = gap at *
  have kept : gap * factor ≤ gap := mul_le_of_le_one_right gapLeast factorMost
  have keptLeast : 0 ≤ gap * factor := mul_nonneg gapLeast factorLeast
  have partLeast : 0 ≤ arith.mul gap factor := arith.round_nonneg keptLeast
  have partMost : arith.mul gap factor ≤ gap * factor + arith.slack :=
    arith.round_le_add (by rw [abs_le]; constructor <;> linarith)
  obtain ⟨sumLeast, sumMost⟩ := abs_le.mp (arith.near (baseline + arith.mul gap factor)
    (by rw [abs_le]; constructor <;> linarith))
  unfold Arithmetic.add
  constructor <;> linarith

theorem decayedScore_antitone {less more : ℚ} (ordered : less ≤ more) :
    decayedScore arith two configuration anchorScore more
      ≤ decayedScore arith two configuration anchorScore less := by
  have factors := retentionFactor_antitone arith two configuration ordered
  have gap : 0 ≤ arith.sub anchorScore (min configuration.initialScore anchorScore) :=
    arith.round_nonneg (sub_nonneg.mpr (min_le_right _ _))
  have product := arith.mono (mul_le_mul_of_nonneg_left factors gap)
  exact roundScore_mono arith (arith.mono (by
    unfold Arithmetic.mul
    linarith))

theorem decayedScore_valid (valid : inScoreRange anchorScore) (nonneg : 0 ≤ elapsed) :
    inScoreRange (decayedScore arith two configuration anchorScore elapsed) := by
  obtain ⟨low, high⟩ := decay_sum_range arith two configuration valid nonneg
  have least : 0 ≤ min configuration.initialScore anchorScore :=
    le_min configuration.initialScore_valid.1 valid.1
  have small := arith.slack_le
  exact ⟨roundScore_nonneg arith (by linarith) (by linarith [valid.2]),
    roundScore_le_hundred arith (by linarith) (by linarith [valid.2])⟩

theorem decayedScore_bounds (valid : inScoreRange anchorScore) (nonneg : 0 ≤ elapsed) :
    min configuration.initialScore anchorScore - rounding arith
        ≤ decayedScore arith two configuration anchorScore elapsed ∧
      decayedScore arith two configuration anchorScore elapsed
        ≤ anchorScore + rounding arith + arith.slack := by
  obtain ⟨low, high⟩ := decay_sum_range arith two configuration valid nonneg
  have least : 0 ≤ min configuration.initialScore anchorScore :=
    le_min configuration.initialScore_valid.1 valid.1
  have small := arith.slack_le
  have positive := arith.slack_nonneg
  have share : rounding arith = 1 / 200 + numberEpsilon + 5 * arith.slack := rfl
  unfold decayedScore
  dsimp only
  generalize arith.add (min configuration.initialScore anchorScore)
    (arith.mul (arith.sub anchorScore (min configuration.initialScore anchorScore))
      (retentionFactor arith two configuration elapsed)) = sum at *
  obtain ⟨roundLeast, roundMost⟩ := abs_le.mp (abs_roundScore_sub_le arith (x := sum)
    (by linarith) (by linarith [valid.2]))
  constructor <;> linarith

/-- A decayed score is not above an anchor of two decimal places. -/
theorem decayedScore_le_anchor (valid : inScoreRange anchorScore)
    (rounded : IsRounded arith anchorScore) (nonneg : 0 ≤ elapsed) :
    decayedScore arith two configuration anchorScore elapsed ≤ anchorScore := by
  have high := (decay_sum_range arith two configuration valid nonneg).2
  have small := arith.slack_le
  have positive := arith.slack_nonneg
  have fixed := roundScore_of_near rounded valid.1 valid.2
    (x := anchorScore + 3 * arith.slack) (by
      rw [add_sub_cancel_left, abs_of_nonneg (by linarith)]
      linarith)
  calc decayedScore arith two configuration anchorScore elapsed
      ≤ roundScore arith (anchorScore + 3 * arith.slack) := roundScore_mono arith high
    _ = anchorScore := fixed

end Decay

section Polls

variable (arith two configuration)

/-- What an evaluation shows beside its explanation. -/
def SmoothingResult.outcome (result : SmoothingResult) : ℚ × SmoothingPhase × TemporalState :=
  (result.score, result.phase, result.temporalState)

/-- The observation only shows in the explanation of the result. -/
theorem unfedResult_outcome (previous : Option TemporalState)
    (observation : Option TrustObservation) (evaluatedAt : Timestamp) :
    (unfedResult arith two configuration previous observation evaluatedAt).outcome =
      (unfedResult arith two configuration previous none evaluatedAt).outcome := by
  cases previous with
  | none => rfl
  | some state =>
      obtain ⟨score, anchorScore, lastFresh, lastEvaluatedAt⟩ := state
      cases lastFresh with
      | none => rfl
      | some since =>
          by_cases held : elapsedBeyondStaleSeconds arith configuration evaluatedAt since = 0
          · simp only [SmoothingResult.outcome, unfedResult, if_pos held]
          · simp only [SmoothingResult.outcome, unfedResult, if_neg held]

theorem unfedResult_score (previous : Option TemporalState) (evaluatedAt : Timestamp) :
    (unfedResult arith two configuration previous none evaluatedAt).score =
      (unfedState arith two configuration previous evaluatedAt).score := by
  cases previous with
  | none => rfl
  | some state =>
      obtain ⟨score, anchorScore, lastFresh, lastEvaluatedAt⟩ := state
      cases lastFresh with
      | none => rfl
      | some since =>
          by_cases held : elapsedBeyondStaleSeconds arith configuration evaluatedAt since = 0
          · simp only [unfedState, unfedResult, if_pos held]
          · simp only [unfedState, unfedResult, if_neg held]

theorem unfedState_held {score anchorScore : ℚ} {since lastEvaluatedAt evaluatedAt : Timestamp}
    (held : elapsedBeyondStaleSeconds arith configuration evaluatedAt since = 0) :
    unfedState arith two configuration (some ⟨score, anchorScore, some since, lastEvaluatedAt⟩)
      evaluatedAt = ⟨score, anchorScore, some since, evaluatedAt⟩ := by
  simp only [unfedState, unfedResult, if_pos held]

theorem unfedState_decayed {score anchorScore : ℚ} {since lastEvaluatedAt evaluatedAt : Timestamp}
    (decayed : elapsedBeyondStaleSeconds arith configuration evaluatedAt since ≠ 0) :
    unfedState arith two configuration (some ⟨score, anchorScore, some since, lastEvaluatedAt⟩)
      evaluatedAt = ⟨decayedScore arith two configuration anchorScore
        (elapsedBeyondStaleSeconds arith configuration evaluatedAt since), anchorScore, some since,
        evaluatedAt⟩ := by
  simp only [unfedState, unfedResult, if_neg decayed]

variable {arith configuration}

theorem advance_unfed
    (valid : ∀ state ∈ previous, state.ValidAt configuration poll.evaluatedAt)
    (unfed : poll.Unfed arith configuration) :
    advanceSmoothedTrustScore arith two configuration previous poll.observation poll.evaluatedAt =
      .ok (unfedResult arith two configuration previous poll.observation poll.evaluatedAt) := by
  obtain ⟨wellFormed, notFresh⟩ := unfed
  unfold advanceSmoothedTrustScore normalizePreviousTemporalState normalizeObservation
  rw [require, if_pos valid, require, if_pos wellFormed]
  cases observed : poll.observation with
  | none => rfl
  | some observation =>
      rw [observed] at notFresh
      exact if_neg notFresh

variable (arith configuration)

/-- An evaluation in between changes nothing. -/
theorem unfedState_unfedState (previous : Option TemporalState) (ordered : earlier ≤ later) :
    unfedState arith two configuration (some (unfedState arith two configuration previous earlier))
        later =
      unfedState arith two configuration previous later ∧
    (unfedResult arith two configuration
        (some (unfedState arith two configuration previous earlier)) none later).phase =
      (unfedResult arith two configuration previous none later).phase := by
  cases previous with
  | none => exact ⟨rfl, rfl⟩
  | some state =>
      obtain ⟨score, anchorScore, lastFresh, lastEvaluatedAt⟩ := state
      cases lastFresh with
      | none => exact ⟨rfl, rfl⟩
      | some since =>
          by_cases before : elapsedBeyondStaleSeconds arith configuration earlier since = 0
          · rw [unfedState_held arith two configuration before]
            by_cases after : elapsedBeyondStaleSeconds arith configuration later since = 0
            · rw [unfedState_held arith two configuration after,
                unfedState_held arith two configuration after]
              simp only [unfedResult, if_pos after, and_self]
            · rw [unfedState_decayed arith two configuration after,
                unfedState_decayed arith two configuration after]
              simp only [unfedResult, if_neg after, and_self]
          · have after : elapsedBeyondStaleSeconds arith configuration later since ≠ 0 :=
              fun zero => before (elapsed_zero_of_later arith configuration ordered zero)
            rw [unfedState_decayed arith two configuration before,
              unfedState_decayed arith two configuration after,
              unfedState_decayed arith two configuration after]
            simp only [unfedResult, if_neg after, and_self]

variable {arith two configuration}

theorem unfedState_valid (two : PowerOfTwo) {state : TemporalState} (next : earlier ≤ later)
    (valid : state.ValidAt configuration earlier) :
    (unfedState arith two configuration (some state) earlier).ValidAt configuration later := by
  obtain ⟨score, anchorScore, lastFresh, lastEvaluatedAt⟩ := state
  obtain ⟨scoreValid, anchorValid, fresh, ordered⟩ := valid
  cases lastFresh with
  | none =>
      exact ⟨configuration.initialScore_valid, configuration.initialScore_valid, ⟨rfl, rfl⟩, next⟩
  | some since =>
      by_cases held : elapsedBeyondStaleSeconds arith configuration earlier since = 0
      · rw [unfedState_held arith two configuration held]
        exact ⟨scoreValid, anchorValid, fresh.trans ordered, next⟩
      · rw [unfedState_decayed arith two configuration held]
        have valid := decayedScore_valid arith two configuration anchorValid
          (elapsed_nonneg arith configuration earlier since)
        exact ⟨valid, anchorValid, fresh.trans ordered, next⟩

theorem unfedState_valid_of {previous : Option TemporalState} (next : earlier ≤ later)
    (valid : ∀ state ∈ previous, state.ValidAt configuration earlier) :
    (unfedState arith two configuration previous earlier).ValidAt configuration later := by
  cases previous with
  | none =>
      exact ⟨configuration.initialScore_valid, configuration.initialScore_valid, ⟨rfl, rfl⟩, next⟩
  | some state => exact unfedState_valid two next (valid state rfl)

/-- Evaluations one after the other, none of them with a fresh observation, from a state that the
first one accepts. -/
structure Polls (arith : Arithmetic) (configuration : TemporalTrustConfiguration)
    (previous : Option TemporalState) (polls : List Poll) : Prop where
  increasing : (polls.map Poll.evaluatedAt).Pairwise (· < ·)
  unfed : ∀ poll ∈ polls, poll.Unfed arith configuration
  valid : ∀ poll ∈ polls, ∀ state ∈ previous, state.ValidAt configuration poll.evaluatedAt

theorem outcome_unfedState (previous : Option TemporalState) (ordered : earlier ≤ later) :
    (unfedResult arith two configuration
        (some (unfedState arith two configuration previous earlier)) none later).outcome =
      (unfedResult arith two configuration previous none later).outcome := by
  obtain ⟨same, phase⟩ := unfedState_unfedState arith two configuration previous ordered
  unfold SmoothingResult.outcome
  rw [unfedResult_score, unfedResult_score, phase, same]
  exact congrArg (fun state => (_, _, state)) same

/-- The results of evaluations in turn are those of single evaluations. -/
theorem pollAll_eq (two : PowerOfTwo) {polls : List Poll}
    (evaluated : Polls arith configuration previous polls) :
    ∃ results, pollAll arith two configuration previous polls = .ok results ∧
      results.map SmoothingResult.outcome = polls.map fun poll =>
        (unfedResult arith two configuration previous none poll.evaluatedAt).outcome := by
  induction polls generalizing previous with
  | nil => exact ⟨[], rfl, rfl⟩
  | cons poll rest ih =>
      obtain ⟨increasing, unfed, valid⟩ := evaluated
      rw [List.map_cons, List.pairwise_cons] at increasing
      obtain ⟨after, increasing⟩ := increasing
      have first := advance_unfed two (valid poll List.mem_cons_self)
        (unfed poll List.mem_cons_self)
      have outcome := unfedResult_outcome arith two configuration previous poll.observation
        poll.evaluatedAt
      have reached : (unfedResult arith two configuration previous poll.observation
          poll.evaluatedAt).temporalState =
            unfedState arith two configuration previous poll.evaluatedAt :=
        congrArg (fun shown => shown.2.2) outcome
      have next : Polls arith configuration
          (some (unfedState arith two configuration previous poll.evaluatedAt)) rest := by
        refine ⟨increasing, fun later member => unfed later (List.mem_cons_of_mem _ member), ?_⟩
        intro later member state same
        cases same
        exact unfedState_valid_of (after _ (List.mem_map_of_mem member)).le
          (valid poll List.mem_cons_self)
      obtain ⟨results, polled, agree⟩ := ih next
      refine ⟨unfedResult arith two configuration previous poll.observation poll.evaluatedAt
        :: results, ?_, ?_⟩
      · rw [pollAll, Checked.bind_eq_ok]
        refine ⟨_, first, ?_⟩
        rw [reached, polled]
        rfl
      · rw [List.map_cons, List.map_cons, agree, outcome]
        refine congrArg _ (List.map_congr_left fun later member => ?_)
        exact outcome_unfedState previous (after _ (List.mem_map_of_mem member)).le

end Polls

end TenantTrust.Trust
