import TenantTrust.Trust.DecayPolling

/-! Polling leaves the decay as it is; what a later fresh observation is blended with is the score
that was evaluated last. -/

namespace TenantTrust.Trust

open Library Identity

/-- The score that is held or has decayed since the last fresh observation. -/
def anchoredScore (arith : Arithmetic) (two : PowerOfTwo)
    (configuration : TemporalTrustConfiguration) (anchorScore : ℚ)
    (lastFreshObservedAt evaluatedAt : Timestamp) : ℚ :=
  let elapsed := elapsedBeyondStaleSeconds arith configuration evaluatedAt lastFreshObservedAt
  if elapsed = 0 then anchorScore else decayedScore arith two configuration anchorScore elapsed

variable {arith : Arithmetic} {two : PowerOfTwo} {configuration : TemporalTrustConfiguration}
  {previous : Option TemporalState} {observation : Option TrustObservation}
  {earlier later evaluatedAt : Timestamp} {result : SmoothingResult} {state : TemporalState}

/-- The states that evaluations return, from the first one on. -/
inductive Produced (arith : Arithmetic) (two : PowerOfTwo)
    (configuration : TemporalTrustConfiguration) : TemporalState → Prop where
  | first {observation : Option TrustObservation} {evaluatedAt : Timestamp}
      {result : SmoothingResult}
      (advanced : advanceSmoothedTrustScore arith two configuration none observation evaluatedAt =
        .ok result) : Produced arith two configuration result.temporalState
  | next {state : TemporalState} {observation : Option TrustObservation} {evaluatedAt : Timestamp}
      {result : SmoothingResult} (produced : Produced arith two configuration state)
      (advanced : advanceSmoothedTrustScore arith two configuration (some state) observation
        evaluatedAt = .ok result) : Produced arith two configuration result.temporalState

/-- The score is what the anchor has become by the last evaluation. -/
def Anchored (arith : Arithmetic) (two : PowerOfTwo) (configuration : TemporalTrustConfiguration)
    (state : TemporalState) : Prop :=
  match state.lastFreshObservedAt with
  | none => state.score = configuration.initialScore ∧
      state.anchorScore = configuration.initialScore
  | some since => inScoreRange state.anchorScore ∧ IsRounded arith state.anchorScore ∧
      state.score =
        anchoredScore arith two configuration state.anchorScore since state.lastEvaluatedAt

theorem advance_cases (advanced : advanceSmoothedTrustScore arith two configuration previous
      observation evaluatedAt = .ok result) :
    (∀ state ∈ previous, state.ValidAt configuration evaluatedAt) ∧
      ((∃ fresh, observation = some fresh ∧ inScoreRange fresh.score ∧
          observationStatus arith configuration evaluatedAt (some fresh) = .fresh ∧
          (∀ since ∈ previous.bind (·.lastFreshObservedAt), since < fresh.observedAt) ∧
          fresh.observedAt ≤ evaluatedAt ∧
          result = freshResult arith configuration previous fresh evaluatedAt) ∨
        (Poll.Unfed arith configuration ⟨observation, evaluatedAt⟩ ∧
          result = unfedResult arith two configuration previous observation evaluatedAt)) := by
  simp only [advanceSmoothedTrustScore, normalizePreviousTemporalState, normalizeObservation,
    Checked.bind_eq_ok, Checked.require_eq_ok, exists_const, Checked.pure_eq_ok] at advanced
  obtain ⟨_, ⟨valid, rfl⟩, _, ⟨wellFormed, rfl⟩, branch⟩ := advanced
  refine ⟨valid, ?_⟩
  cases observation with
  | none => exact Or.inr ⟨⟨wellFormed, by simp [observationStatus]⟩, (Except.ok.inj branch).symm⟩
  | some fresh =>
      dsimp only at branch
      split at branch
      · rename_i isFresh
        simp only [Checked.bind_eq_ok, Checked.require_eq_ok, exists_const,
          Checked.pure_eq_ok] at branch
        obtain ⟨newer, rfl⟩ := branch
        exact Or.inl ⟨fresh, rfl, (wellFormed fresh rfl).1, isFresh, newer,
          (wellFormed fresh rfl).2, rfl⟩
      · rename_i notFresh
        exact Or.inr ⟨⟨wellFormed, notFresh⟩, (Except.ok.inj branch).symm⟩

section Blend

variable (arith configuration) {observed prior : ℚ}

theorem blendedScore_valid (observedValid : inScoreRange observed)
    (priorValid : inScoreRange prior) :
    inScoreRange (blendedScore arith configuration observed prior) ∧
      IsRounded arith (blendedScore arith configuration observed prior) := by
  obtain ⟨observedLeast, observedMost⟩ := observedValid
  obtain ⟨priorLeast, priorMost⟩ := priorValid
  obtain ⟨alphaPositive, alphaMost⟩ := configuration.smoothingAlpha_valid
  have small := arith.slack_le
  have positive := arith.slack_nonneg
  unfold blendedScore
  generalize configuration.smoothingAlpha = alpha at *
  have newLeast : 0 ≤ alpha * observed := mul_nonneg alphaPositive.le observedLeast
  have newMost : alpha * observed ≤ alpha * 100 :=
    mul_le_mul_of_nonneg_left observedMost alphaPositive.le
  have newRounded := arith.round_le_add (q := alpha * observed)
    (by rw [abs_le]; constructor <;> linarith)
  have weightLeast : 0 ≤ arith.sub 1 alpha := arith.round_nonneg (by linarith)
  have weightMost : arith.sub 1 alpha ≤ 1 - alpha + arith.slack :=
    arith.round_le_add (by rw [abs_le]; constructor <;> linarith)
  have oldLeast : 0 ≤ arith.sub 1 alpha * prior := mul_nonneg weightLeast priorLeast
  have oldMost : arith.sub 1 alpha * prior ≤ arith.sub 1 alpha * 100 :=
    mul_le_mul_of_nonneg_left priorMost weightLeast
  have oldRounded := arith.round_le_add (q := arith.sub 1 alpha * prior)
    (by rw [abs_le]; constructor <;> linarith)
  have newNonneg := arith.round_nonneg newLeast
  have oldNonneg := arith.round_nonneg oldLeast
  change 0 ≤ arith.mul alpha observed at newNonneg
  change 0 ≤ arith.mul (arith.sub 1 alpha) prior at oldNonneg
  change arith.mul alpha observed ≤ _ at newRounded
  change arith.mul (arith.sub 1 alpha) prior ≤ _ at oldRounded
  have sumLeast : 0 ≤ arith.add (arith.mul alpha observed) (arith.mul (arith.sub 1 alpha) prior) :=
    arith.round_nonneg (by linarith)
  have sumMost : arith.add (arith.mul alpha observed) (arith.mul (arith.sub 1 alpha) prior)
      ≤ arith.mul alpha observed + arith.mul (arith.sub 1 alpha) prior + arith.slack :=
    arith.round_le_add (by rw [abs_le]; constructor <;> linarith)
  exact ⟨⟨roundScore_nonneg arith (by linarith) (by linarith),
    roundScore_le_hundred arith (by linarith) (by linarith)⟩,
    roundScore_idem arith (by linarith) (by linarith)⟩

theorem blendedScore_mono : Monotone (blendedScore arith configuration observed) := by
  intro less more ordered
  have weight : 0 ≤ arith.sub 1 configuration.smoothingAlpha :=
    arith.round_nonneg (by linarith [configuration.smoothingAlpha_valid.2])
  have product := arith.mono (mul_le_mul_of_nonneg_left ordered weight)
  exact roundScore_mono arith (arith.mono (by
    unfold Arithmetic.mul
    linarith))

end Blend

/-- What an anchored state has become by an evaluation without a fresh observation. -/
theorem anchored_unfed (anchored : Anchored arith two configuration state)
    (valid : state.ValidAt configuration evaluatedAt) :
    Anchored arith two configuration (unfedState arith two configuration (some state) evaluatedAt) ∧
      (∀ since, state.lastFreshObservedAt = some since →
        (unfedState arith two configuration (some state) evaluatedAt).score =
          anchoredScore arith two configuration state.anchorScore since evaluatedAt) := by
  obtain ⟨score, anchorScore, lastFresh, lastEvaluatedAt⟩ := state
  cases lastFresh with
  | none =>
      refine ⟨⟨rfl, rfl⟩, ?_⟩
      intro since none
      cases none
  | some since =>
      obtain ⟨range, rounded, same⟩ := anchored
      have key : (unfedState arith two configuration
          (some ⟨score, anchorScore, some since, lastEvaluatedAt⟩) evaluatedAt) =
            ⟨anchoredScore arith two configuration anchorScore since evaluatedAt, anchorScore,
              some since, evaluatedAt⟩ := by
        by_cases held : elapsedBeyondStaleSeconds arith configuration evaluatedAt since = 0
        · have earlier := elapsed_zero_of_later arith configuration valid.2.2.2 held
          rw [unfedState_held arith two configuration held]
          simp only [anchoredScore] at same ⊢
          rw [if_pos held]
          rw [if_pos earlier] at same
          rw [same]
        · rw [unfedState_decayed arith two configuration held]
          simp only [anchoredScore, if_neg held]
      rw [key]
      refine ⟨⟨range, rounded, rfl⟩, ?_⟩
      intro other found
      cases found
      rfl

theorem anchored_of_produced (produced : Produced arith two configuration state) :
    Anchored arith two configuration state := by
  have fresh_anchored : ∀ {previous : Option TemporalState} {fresh : TrustObservation}
      {evaluatedAt : Timestamp},
      (∀ state ∈ previous, state.ValidAt configuration evaluatedAt) → inScoreRange fresh.score →
      observationStatus arith configuration evaluatedAt (some fresh) = .fresh →
      Anchored arith two configuration
        (freshResult arith configuration previous fresh evaluatedAt).temporalState := by
    intro previous fresh evaluatedAt valid observed isFresh
    have prior : inScoreRange ((previous.map (·.score)).getD configuration.initialScore) := by
      cases previous with
      | none => exact configuration.initialScore_valid
      | some state => exact (valid state rfl).1
    obtain ⟨range, rounded⟩ := blendedScore_valid arith configuration observed prior
    refine ⟨range, rounded, ?_⟩
    have notStale : secondsBetween arith evaluatedAt fresh.observedAt
        ≤ configuration.staleAfterSeconds := by
      simp only [observationStatus] at isFresh
      split at isFresh
      · cases isFresh
      · rename_i atMost
        exact not_lt.mp atMost
    exact (if_pos (elapsed_zero_of_fresh arith configuration notStale)).symm
  induction produced with
  | first advanced =>
      obtain ⟨valid, ⟨fresh, _, observed, isFresh, _, _, rfl⟩ | ⟨_, rfl⟩⟩ := advance_cases advanced
      · exact fresh_anchored valid observed isFresh
      · exact ⟨rfl, rfl⟩
  | @next state observation evaluatedAt result produced advanced ih =>
      obtain ⟨valid, ⟨fresh, _, observed, isFresh, _, _, rfl⟩ | ⟨_, rfl⟩⟩ := advance_cases advanced
      · exact fresh_anchored valid observed isFresh
      · have outcome := unfedResult_outcome arith two configuration (some state) observation
          evaluatedAt
        have reached : (unfedResult arith two configuration (some state) observation
            evaluatedAt).temporalState =
              unfedState arith two configuration (some state) evaluatedAt :=
          congrArg (fun shown => shown.2.2) outcome
        rw [reached]
        exact (anchored_unfed ih (valid state rfl)).1

theorem anchoredScore_antitone {anchorScore : ℚ} {since : Timestamp}
    (valid : inScoreRange anchorScore)
    (rounded : IsRounded arith anchorScore) (ordered : earlier ≤ later) :
    anchoredScore arith two configuration anchorScore since later
      ≤ anchoredScore arith two configuration anchorScore since earlier := by
  unfold anchoredScore
  dsimp only
  by_cases before : elapsedBeyondStaleSeconds arith configuration earlier since = 0
  · rw [if_pos before]
    split
    · exact le_rfl
    · exact decayedScore_le_anchor arith two configuration valid rounded
        (elapsed_nonneg arith configuration later since)
  · have after : elapsedBeyondStaleSeconds arith configuration later since ≠ 0 :=
      fun zero => before (elapsed_zero_of_later arith configuration ordered zero)
    rw [if_neg before, if_neg after]
    exact decayedScore_antitone arith two configuration
      (elapsed_mono arith configuration since ordered)

theorem anchoredScore_bounds {anchorScore : ℚ} {since : Timestamp}
    (valid : inScoreRange anchorScore) (rounded : IsRounded arith anchorScore) :
    min configuration.initialScore anchorScore - rounding arith
        ≤ anchoredScore arith two configuration anchorScore since evaluatedAt ∧
      anchoredScore arith two configuration anchorScore since evaluatedAt ≤ anchorScore := by
  have nonneg := elapsed_nonneg arith configuration evaluatedAt since
  unfold anchoredScore
  dsimp only
  split
  · have positive := arith.slack_nonneg
    have share : rounding arith = 1 / 200 + numberEpsilon + 5 * arith.slack := rfl
    have epsilon : 0 ≤ numberEpsilon := by norm_num [numberEpsilon]
    have least := min_le_right configuration.initialScore anchorScore
    exact ⟨by linarith, le_rfl⟩
  · exact ⟨(decayedScore_bounds arith two configuration valid nonneg).1,
      decayedScore_le_anchor arith two configuration valid rounded nonneg⟩

/-- A fresh observation after an evaluation without one. -/
theorem fresh_after_unfed {fresh : TrustObservation} {direct : SmoothingResult}
    (ordered : earlier ≤ later)
    (valid : ∀ state ∈ previous, state.ValidAt configuration earlier)
    (advanced : advanceSmoothedTrustScore arith two configuration previous (some fresh) later =
      .ok direct) (isFresh : direct.observationStatus = .fresh) :
    ∃ fed, advanceSmoothedTrustScore arith two configuration
        (some (unfedState arith two configuration previous earlier)) (some fresh) later = .ok fed ∧
      fed.score = blendedScore arith configuration fresh.score
        (unfedState arith two configuration previous earlier).score ∧
      direct.score = blendedScore arith configuration fresh.score
        ((previous.map (·.score)).getD configuration.initialScore) := by
  obtain ⟨_, ⟨_, same, observed, status, newer, past, rfl⟩ | ⟨unfed, rfl⟩⟩ := advance_cases advanced
  · cases same
    refine ⟨freshResult arith configuration
      (some (unfedState arith two configuration previous earlier)) fresh later, ?_, rfl, rfl⟩
    have next : ∀ state ∈ some (unfedState arith two configuration previous earlier),
        state.ValidAt configuration later := by
      intro state same
      cases same
      exact unfedState_valid_of ordered valid
    have kept : (unfedState arith two configuration previous earlier).lastFreshObservedAt =
        previous.bind (·.lastFreshObservedAt) := by
      cases previous with
      | none => rfl
      | some state =>
          obtain ⟨score, anchorScore, lastFresh, lastEvaluatedAt⟩ := state
          cases lastFresh with
          | none => rfl
          | some since =>
              by_cases held : elapsedBeyondStaleSeconds arith configuration earlier since = 0
              · rw [unfedState_held arith two configuration held]
                rfl
              · rw [unfedState_decayed arith two configuration held]
                rfl
    unfold advanceSmoothedTrustScore normalizePreviousTemporalState normalizeObservation
    rw [require, if_pos next, require, if_pos (by
      intro other found
      cases found
      exact ⟨observed, past⟩)]
    refine (if_pos status).trans ?_
    rw [require, if_pos (by
      intro since found
      rw [Option.bind_some, kept] at found
      exact newer since found)]
    rfl
  · refine absurd isFresh ?_
    have outcome : (unfedResult arith two configuration previous (some fresh)
        later).observationStatus = observationStatus arith configuration later (some fresh) := by
      unfold unfedResult
      split
      · dsimp only
        split <;> rfl
      · rfl
    rw [outcome]
    exact unfed.2

/-- Without a decay the last evaluated score is the one before. -/
theorem unfed_score_of_not_decayed
    (valid : ∀ state ∈ previous, state.ValidAt configuration evaluatedAt)
    (notDecayed : (unfedResult arith two configuration previous none evaluatedAt).phase
      ≠ .decayed) :
    (unfedState arith two configuration previous evaluatedAt).score =
      (previous.map (·.score)).getD configuration.initialScore := by
  cases previous with
  | none => rfl
  | some state =>
      obtain ⟨score, anchorScore, lastFresh, lastEvaluatedAt⟩ := state
      obtain ⟨_, _, fresh, _⟩ := valid _ rfl
      cases lastFresh with
      | none => exact fresh.1.symm
      | some since =>
          by_cases held : elapsedBeyondStaleSeconds arith configuration evaluatedAt since = 0
          · rw [unfedState_held arith two configuration held]
            rfl
          · simp only [unfedResult, if_neg held, ne_eq, not_true_eq_false] at notDecayed

theorem anchored_score_le (anchored : Anchored arith two configuration state)
    (valid : state.ValidAt configuration evaluatedAt) :
    (unfedState arith two configuration (some state) evaluatedAt).score ≤ state.score := by
  obtain ⟨_, became⟩ := anchored_unfed anchored valid
  obtain ⟨score, anchorScore, lastFresh, lastEvaluatedAt⟩ := state
  cases lastFresh with
  | none => exact anchored.1.symm.le
  | some since =>
      obtain ⟨range, rounded, same⟩ := anchored
      rw [became since rfl]
      simp only at same
      rw [same]
      exact anchoredScore_antitone range rounded valid.2.2.2

/-- The scores of evaluations in turn from a produced state. -/
structure Declines (arith : Arithmetic) (configuration : TemporalTrustConfiguration)
    (state : TemporalState) (scores : List ℚ) : Prop where
  decreasing : (state.score :: scores).Pairwise (· ≥ ·)
  bounded : ∀ score ∈ scores,
    min configuration.initialScore state.anchorScore - rounding arith ≤ score ∧
      score ≤ state.anchorScore

theorem declines_of_anchored {polls : List Poll} (anchored : Anchored arith two configuration state)
    (evaluated : Polls arith configuration (some state) polls) :
    Declines arith configuration state (polls.map fun poll =>
      (unfedState arith two configuration (some state) poll.evaluatedAt).score) := by
  obtain ⟨increasing, _, valid⟩ := evaluated
  have reached : ∀ poll ∈ polls, state.ValidAt configuration poll.evaluatedAt :=
    fun poll member => valid poll member state rfl
  constructor
  · rw [List.pairwise_cons]
    constructor
    · intro score member
      obtain ⟨poll, inside, rfl⟩ := List.mem_map.mp member
      exact anchored_score_le anchored (reached poll inside)
    · rw [List.pairwise_map] at increasing ⊢
      refine increasing.imp_of_mem ?_
      intro first second firstMember secondMember ordered
      have again := anchored_score_le (anchored_unfed anchored (reached first firstMember)).1
        (unfedState_valid two ordered.le (reached first firstMember))
      rwa [(unfedState_unfedState arith two configuration (some state) ordered.le).1] at again
  · intro score member
    obtain ⟨poll, inside, rfl⟩ := List.mem_map.mp member
    obtain ⟨_, became⟩ := anchored_unfed anchored (reached poll inside)
    obtain ⟨before, anchorScore, lastFresh, lastEvaluatedAt⟩ := state
    cases lastFresh with
    | none =>
        obtain ⟨_, anchored⟩ := anchored
        change anchorScore = _ at anchored
        have positive := arith.slack_nonneg
        have share : rounding arith = 1 / 200 + numberEpsilon + 5 * arith.slack := rfl
        have epsilon : 0 ≤ numberEpsilon := by norm_num [numberEpsilon]
        change min _ anchorScore - _ ≤ configuration.initialScore ∧
          configuration.initialScore ≤ anchorScore
        rw [anchored, min_self]
        exact ⟨by linarith, le_rfl⟩
    | some since =>
        obtain ⟨range, rounded, _⟩ := anchored
        rw [became since rfl]
        exact anchoredScore_bounds range rounded

/-- Evaluations without a fresh observation end as one evaluation at the last time does, from every
accepted state. From a state that evaluations produced, their scores decline between the anchor
and its baseline. A fresh observation after them is blended with the score that was evaluated
last: that is the same score unless it had decayed, and a lower one if it had. -/
theorem decay_independent_of_polling (arith : Arithmetic) (two : PowerOfTwo)
    (configuration : TemporalTrustConfiguration) (previous : Option TemporalState)
    (polls : List Poll) (last : Poll)
    (evaluated : Polls arith configuration previous (polls ++ [last])) :
    ∃ results final single,
      pollAll arith two configuration previous (polls ++ [last]) = .ok (results ++ [final]) ∧
      advanceSmoothedTrustScore arith two configuration previous last.observation
        last.evaluatedAt = .ok single ∧
      final.score = single.score ∧ final.temporalState = single.temporalState ∧
      (∀ state ∈ previous, Produced arith two configuration state →
        Declines arith configuration state ((results ++ [final]).map (·.score))) ∧
      ∀ fresh evaluatedAt direct, last.evaluatedAt ≤ evaluatedAt →
        advanceSmoothedTrustScore arith two configuration previous (some fresh) evaluatedAt =
          .ok direct → direct.observationStatus = .fresh →
        ∃ fed, advanceSmoothedTrustScore arith two configuration (some final.temporalState)
            (some fresh) evaluatedAt = .ok fed ∧
          (final.phase ≠ .decayed → fed.score = direct.score) ∧
          ∀ state ∈ previous, Produced arith two configuration state →
            fed.score ≤ direct.score := by
  obtain ⟨all, polled, outcomes⟩ := pollAll_eq two evaluated
  have split := outcomes
  rw [List.map_append, List.map_singleton] at split
  obtain ⟨results, ends, rfl, _, ended⟩ := List.map_eq_append_iff.mp split
  obtain ⟨final, rfl, finalOutcome⟩ := List.map_eq_singleton_iff.mp ended
  have member : last ∈ polls ++ [last] := List.mem_append_right _ List.mem_cons_self
  have lastValid := evaluated.valid last member
  have single := advance_unfed two lastValid (evaluated.unfed last member)
  have same := unfedResult_outcome arith two configuration previous last.observation
    last.evaluatedAt
  have finalState : final.temporalState =
      unfedState arith two configuration previous last.evaluatedAt :=
    congrArg (fun shown => shown.2.2) finalOutcome
  have finalPhase : final.phase =
      (unfedResult arith two configuration previous none last.evaluatedAt).phase :=
    congrArg (fun shown => shown.2.1) finalOutcome
  have agrees := finalOutcome.trans same.symm
  refine ⟨results, final, _, polled, single, congrArg Prod.fst agrees,
    congrArg (fun shown => shown.2.2) agrees, ?_, ?_⟩
  · intro state given produced
    cases given
    have scores : (results ++ [final]).map (·.score) = (polls ++ [last]).map fun poll =>
        (unfedState arith two configuration (some state) poll.evaluatedAt).score := by
      have firsts := congrArg (List.map Prod.fst) outcomes
      rw [List.map_map, List.map_map] at firsts
      rw [show (fun result : SmoothingResult => result.score)
        = Prod.fst ∘ SmoothingResult.outcome from rfl, firsts]
      exact List.map_congr_left fun poll _ =>
        unfedResult_score arith two configuration (some state) poll.evaluatedAt
    rw [scores]
    exact declines_of_anchored (anchored_of_produced produced) evaluated
  · intro fresh evaluatedAt direct ordered advanced isFresh
    obtain ⟨fed, fedAdvanced, fedScore, directScore⟩ :=
      fresh_after_unfed ordered lastValid advanced isFresh
    rw [finalState]
    refine ⟨fed, fedAdvanced, ?_, ?_⟩
    · intro notDecayed
      rw [finalPhase] at notDecayed
      rw [fedScore, directScore, unfed_score_of_not_decayed lastValid notDecayed]
    · intro state given produced
      cases given
      rw [fedScore, directScore]
      exact blendedScore_mono arith configuration
        (anchored_score_le (anchored_of_produced produced) (lastValid state rfl))

namespace PollingScenario

/-- Powers at the whole exponents, and steps between them. -/
def wholePowers : PowerOfTwo where
  power exponent := 2 ^ ⌊exponent⌋
  mono _ _ ordered := zpow_le_zpow_right₀ one_le_two (Int.floor_mono ordered)
  nonneg _ := (zpow_pos two_pos _).le
  le_one exponent nonpos := zpow_le_one_of_nonpos₀ one_le_two (by
    have whole := Int.floor_mono nonpos
    rwa [Int.floor_zero] at whole)

def settings : TemporalTrustConfiguration where
  initialScore := 50
  smoothingAlpha := 1 / 2
  staleAfterSeconds := 60
  initialScore_valid := by norm_num
  smoothingAlpha_valid := by norm_num
  staleAfterSeconds_valid := by decide

def trusted : TemporalState := ⟨90, 90, some 0, 0⟩

/-- The state after a first observation. -/
def risen : TemporalState := ⟨75, 75, some 0, 0⟩

def latePolls : List Poll := [⟨none, 120000⟩, ⟨some ⟨20, 60000⟩, 180000⟩]

/-- An accepted state that no evaluation returns: it holds a score below its anchor. -/
def lowered : TemporalState := ⟨10, 90, some 0, 0⟩

def halved : TemporalState := ⟨70, 90, some 0, 120000⟩

def poll : Poll := ⟨none, 120000⟩

def fresh : TrustObservation := ⟨90, 130000⟩

theorem evaluated :
    (pollAll .binary64 wholePowers settings (some trusted) [poll]).map
        (·.map (·.temporalState)) = .ok [halved] ∧
      (advanceSmoothedTrustScore .binary64 wholePowers settings (some trusted) (some fresh)
        130000).map (fun result => (result.score, result.observationStatus)) = .ok (90, .fresh) ∧
      (advanceSmoothedTrustScore .binary64 wholePowers settings (some halved) (some fresh)
        130000).map (·.score) = .ok 80 ∧
      (pollAll .binary64 wholePowers settings (some lowered) [poll]).map (·.map (·.score)) =
        .ok [70] := by
  decide +kernel

theorem polls_from {state : TemporalState}
    (valid : state.ValidAt settings poll.evaluatedAt) :
    Polls .binary64 settings (some state) [poll] where
  increasing := List.pairwise_singleton _ _
  unfed := by
    intro other member
    rw [List.mem_singleton.mp member]
    exact ⟨fun observation none => (by cases none), by decide⟩
  valid := by
    intro other member before same
    cases same
    rw [List.mem_singleton.mp member]
    exact valid

theorem risen_evaluated :
    (advanceSmoothedTrustScore .binary64 wholePowers settings none (some ⟨100, 0⟩) 0).map
        (·.temporalState) = .ok risen ∧
      (pollAll .binary64 wholePowers settings (some risen) latePolls).map
        (·.map fun result => (result.score, result.phase)) =
          .ok [(125 / 2, .decayed), (225 / 4, .decayed)] ∧
      (advanceSmoothedTrustScore .binary64 wholePowers settings (some risen)
        (some ⟨90, 190000⟩) 190000).map (·.observationStatus) = .ok .fresh := by
  decide +kernel

theorem latePolls_from : Polls .binary64 settings (some risen) latePolls where
  increasing := by decide
  unfed := by
    intro poll member
    rcases List.mem_cons.mp member with rfl | second
    · exact ⟨fun observation none => (by cases none), by decide⟩
    · rw [List.mem_singleton.mp second]
      refine ⟨?_, by decide +kernel⟩
      intro observation stale
      cases stale
      decide +kernel
  valid := by
    intro poll member before same
    cases same
    rcases List.mem_cons.mp member with rfl | second
    · decide
    · rw [List.mem_singleton.mp second]
      decide

theorem results_shown {results : List SmoothingResult} {final : SmoothingResult}
    {first last : ℚ × SmoothingPhase}
    (shown : (results ++ [final]).map (fun result => (result.score, result.phase)) =
      [first, last]) :
    results.map (·.score) = [first.1] ∧ (final.score, final.phase) = last := by
  rw [List.map_append, List.map_singleton] at shown
  obtain ⟨earlier, ended⟩ := List.append_inj' (show _ = [first] ++ [last] from shown) rfl
  refine ⟨?_, List.singleton_injective ended⟩
  have scores := congrArg (List.map Prod.fst) earlier
  rwa [List.map_map] at scores

end PollingScenario

open PollingScenario in
/-- Two evaluations of a state that an evaluation returned, the second with a stale observation,
and a fresh observation after them. -/
theorem decay_independent_of_polling_twice : ∃ results final single direct fed,
    pollAll .binary64 wholePowers settings (some risen) latePolls = .ok (results ++ [final]) ∧
    advanceSmoothedTrustScore .binary64 wholePowers settings (some risen)
      (some ⟨20, 60000⟩) 180000 = .ok single ∧
    results.map (·.score) = [125 / 2] ∧ final.score = 225 / 4 ∧
    final.score = single.score ∧ final.temporalState = single.temporalState ∧
    Declines .binary64 settings risen ((results ++ [final]).map (·.score)) ∧
    advanceSmoothedTrustScore .binary64 wholePowers settings (some risen)
      (some ⟨90, 190000⟩) 190000 = .ok direct ∧
    advanceSmoothedTrustScore .binary64 wholePowers settings (some final.temporalState)
      (some ⟨90, 190000⟩) 190000 = .ok fed ∧
    final.phase = .decayed ∧ fed.score ≤ direct.score := by
  obtain ⟨started, polledScores, observed⟩ := risen_evaluated
  obtain ⟨first, firstAdvanced, reached⟩ := Checked.map_eq_ok.mp started
  have produced : Produced .binary64 wholePowers settings risen := by
    rw [← reached]
    exact .first firstAdvanced
  obtain ⟨results, final, single, polled, advanced, score, same, declines, feeds⟩ :=
    decay_independent_of_polling .binary64 wholePowers settings (some risen) [⟨none, 120000⟩]
      ⟨some ⟨20, 60000⟩, 180000⟩ latePolls_from
  obtain ⟨direct, directly, isFresh⟩ := Checked.map_eq_ok.mp observed
  obtain ⟨fed, afterwards, _, lower⟩ := feeds ⟨90, 190000⟩ 190000 direct (by decide) directly
    isFresh
  obtain ⟨all, returned, shown⟩ := Checked.map_eq_ok.mp polledScores
  obtain rfl := Except.ok.inj (returned.symm.trans polled)
  obtain ⟨earlier, ended⟩ := results_shown shown
  exact ⟨results, final, single, direct, fed, polled, advanced, earlier, congrArg Prod.fst ended,
    score, same, declines risen rfl produced, directly, afterwards, congrArg Prod.snd ended,
    lower risen rfl produced⟩

open PollingScenario in
/-- A fresh observation is blended with the score that was evaluated last, and an accepted state
may hold a score below what its anchor decays to. -/
theorem polling_changes_fresh_score :
    (¬ ∀ previous polls results final fresh evaluatedAt direct fed,
      Polls .binary64 settings previous polls →
      pollAll .binary64 wholePowers settings previous polls = .ok (results ++ [final]) →
      advanceSmoothedTrustScore .binary64 wholePowers settings previous (some fresh) evaluatedAt =
        .ok direct → direct.observationStatus = .fresh →
      advanceSmoothedTrustScore .binary64 wholePowers settings (some final.temporalState)
        (some fresh) evaluatedAt = .ok fed → fed.score = direct.score) ∧
    ¬ ∀ state polls results, Polls .binary64 settings (some state) polls →
      pollAll .binary64 wholePowers settings (some state) polls = .ok results →
        (state.score :: results.map (·.score)).Pairwise (· ≥ ·) := by
  obtain ⟨polled, directly, afterwards, raised⟩ := evaluated
  constructor
  · intro always
    obtain ⟨results, returned, states⟩ := Checked.map_eq_ok.mp polled
    obtain ⟨final, rfl, reached⟩ := List.map_eq_singleton_iff.mp states
    obtain ⟨direct, advanced, shown⟩ := Checked.map_eq_ok.mp directly
    obtain ⟨directScore, isFresh⟩ := Prod.mk.inj shown
    obtain ⟨fed, fedAdvanced, fedScore⟩ := Checked.map_eq_ok.mp afterwards
    rw [← reached] at fedAdvanced
    have same := always _ _ [] final fresh 130000 direct fed (polls_from (by decide)) returned
      advanced isFresh fedAdvanced
    rw [fedScore, directScore] at same
    norm_num at same
  · intro always
    obtain ⟨results, returned, scores⟩ := Checked.map_eq_ok.mp raised
    have declines := always lowered [poll] results (polls_from (by decide)) returned
    rw [scores, List.pairwise_cons] at declines
    have below := declines.1 70 List.mem_cons_self
    norm_num [lowered] at below

end TenantTrust.Trust
