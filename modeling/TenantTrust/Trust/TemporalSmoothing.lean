import TenantTrust.Identity.Identifiers
import TenantTrust.Library.Checked
import TenantTrust.Trust.ScoreRounding

/-! Smoothing of a subject's score over time: a weighted average while observations are fresh, a
hold after the last of them, and then an exponential decay. -/

namespace TenantTrust.Trust

open Library Identity

/-- `2 ** exponent` -/
structure PowerOfTwo where
  power : ℚ → ℚ
  mono : Monotone power
  nonneg : ∀ exponent, 0 ≤ power exponent
  le_one : ∀ exponent ≤ 0, power exponent ≤ 1

structure TemporalTrustConfiguration where
  initialScore : ℚ
  smoothingAlpha : ℚ
  staleAfterSeconds : ℕ
  initialScore_valid : 0 ≤ initialScore ∧ initialScore ≤ 100
  smoothingAlpha_valid : 0 < smoothingAlpha ∧ smoothingAlpha ≤ 1
  staleAfterSeconds_valid : 1 ≤ staleAfterSeconds ∧ staleAfterSeconds ≤ 2592000

structure TemporalState where
  score : ℚ
  anchorScore : ℚ
  lastFreshObservedAt : Option Timestamp
  lastEvaluatedAt : Timestamp
  deriving DecidableEq, Repr

structure TrustObservation where
  score : ℚ
  observedAt : Timestamp
  deriving DecidableEq, Repr

inductive SmoothingPhase where
  | initialized | updated | coldStart | held | decayed
  deriving DecidableEq, Repr

inductive ObservationStatus where
  | missing | stale | fresh
  deriving DecidableEq, Repr

/-- The terms of a calculation, by its kind. -/
inductive SmoothingCalculation where
  | ewa (priorScore observationScore alpha retainedWeight observationAgeSeconds : ℚ)
  | initialScore (initialScore : ℚ) (observationAgeSeconds : Option ℚ)
  | hold (ageSinceFreshSeconds : ℚ) (staleAfterSeconds : ℕ) (observationAgeSeconds : Option ℚ)
  | exponentialDecay (baselineScore anchorScore ageSinceFreshSeconds elapsedBeyondStaleSeconds : ℚ)
      (halfLifeSeconds : ℕ) (retentionFactor : ℚ) (observationAgeSeconds : Option ℚ)
  deriving DecidableEq, Repr

structure SmoothingResult where
  score : ℚ
  phase : SmoothingPhase
  observationStatus : ObservationStatus
  evaluatedAt : Timestamp
  previousScore : Option ℚ
  observationScore : Option ℚ
  temporalState : TemporalState
  calculation : SmoothingCalculation
  deriving DecidableEq, Repr

def inScoreRange (score : ℚ) : Prop := 0 ≤ score ∧ score ≤ 100

instance : DecidablePred inScoreRange := fun _ => inferInstanceAs (Decidable (_ ∧ _))

def defineTemporalTrustConfiguration (initialScore smoothingAlpha : ℚ) (staleAfterSeconds : ℕ) :
    Except String TemporalTrustConfiguration :=
  if valid : (0 ≤ initialScore ∧ initialScore ≤ 100) ∧
      (0 < smoothingAlpha ∧ smoothingAlpha ≤ 1) ∧
      (1 ≤ staleAfterSeconds ∧ staleAfterSeconds ≤ 2592000) then
    .ok ⟨initialScore, smoothingAlpha, staleAfterSeconds, valid.1, valid.2.1, valid.2.2⟩
  else .error "TEMPORAL_CONFIGURATION_INVALID"

/-- The conditions on a previous state beside its formats. -/
def TemporalState.ValidAt (state : TemporalState) (configuration : TemporalTrustConfiguration)
    (evaluatedAt : Timestamp) : Prop :=
  inScoreRange state.score ∧ inScoreRange state.anchorScore ∧
    (match state.lastFreshObservedAt with
      | none => state.score = configuration.initialScore ∧
          state.anchorScore = configuration.initialScore
      | some observedAt => observedAt ≤ state.lastEvaluatedAt) ∧
    state.lastEvaluatedAt ≤ evaluatedAt

instance (state : TemporalState) (configuration : TemporalTrustConfiguration)
    (evaluatedAt : Timestamp) : Decidable (state.ValidAt configuration evaluatedAt) := by
  unfold TemporalState.ValidAt
  cases state.lastFreshObservedAt <;> exact inferInstance

def normalizePreviousTemporalState (configuration : TemporalTrustConfiguration)
    (evaluatedAt : Timestamp) (value : Option TemporalState) :
    Except String (Option TemporalState) := do
  require (∀ state ∈ value, state.ValidAt configuration evaluatedAt)
    "PREVIOUS_TEMPORAL_STATE_INVALID"
  return value

def normalizeObservation (evaluatedAt : Timestamp) (value : Option TrustObservation) :
    Except String (Option TrustObservation) := do
  require (∀ observation ∈ value,
    inScoreRange observation.score ∧ observation.observedAt ≤ evaluatedAt)
    "TRUST_OBSERVATION_INVALID"
  return value

section Calculation

variable (arith : Arithmetic) (two : PowerOfTwo) (configuration : TemporalTrustConfiguration)

/-- The seconds between two times, as a number. -/
def secondsBetween (later earlier : Timestamp) : ℚ :=
  arith.div (arith.sub later earlier) 1000

def observationStatus (evaluatedAt : Timestamp) : Option TrustObservation → ObservationStatus
  | none => .missing
  | some observation =>
      if configuration.staleAfterSeconds < secondsBetween arith evaluatedAt observation.observedAt
      then .stale
      else .fresh

def elapsedBeyondStaleSeconds (evaluatedAt lastFreshObservedAt : Timestamp) : ℚ :=
  max 0 (arith.sub (secondsBetween arith evaluatedAt lastFreshObservedAt)
    configuration.staleAfterSeconds)

def retentionFactor (elapsed : ℚ) : ℚ :=
  two.power (arith.div (-elapsed) configuration.staleAfterSeconds)

/-- `Number(value.toFixed(12))` -/
def toTwelvePlaces (value : ℚ) : ℚ :=
  arith.div ⌊value * 1000000000000 + 1 / 2⌋ 1000000000000

def blendedScore (observationScore priorScore : ℚ) : ℚ :=
  roundScore arith (arith.add (arith.mul configuration.smoothingAlpha observationScore)
    (arith.mul (arith.sub 1 configuration.smoothingAlpha) priorScore))

def decayedScore (anchorScore elapsed : ℚ) : ℚ :=
  let baselineScore := min configuration.initialScore anchorScore
  roundScore arith (arith.add baselineScore
    (arith.mul (arith.sub anchorScore baselineScore)
      (retentionFactor arith two configuration elapsed)))

/-- The branch for a fresh observation. -/
def freshResult (previousState : Option TemporalState) (observation : TrustObservation)
    (evaluatedAt : Timestamp) : SmoothingResult :=
  let priorScore := (previousState.map (·.score)).getD configuration.initialScore
  let score := blendedScore arith configuration observation.score priorScore
  { score := score
    phase := if (previousState.bind (·.lastFreshObservedAt)).isNone then .initialized else .updated
    observationStatus := .fresh
    evaluatedAt := evaluatedAt
    previousScore := previousState.map (·.score)
    observationScore := some observation.score
    temporalState := ⟨score, score, some observation.observedAt, evaluatedAt⟩
    calculation := .ewa priorScore observation.score configuration.smoothingAlpha
      (arith.sub 1 configuration.smoothingAlpha)
      (secondsBetween arith evaluatedAt observation.observedAt) }

/-- The branches without a fresh observation: cold start, hold and decay. -/
def unfedResult (previousState : Option TemporalState) (observation : Option TrustObservation)
    (evaluatedAt : Timestamp) : SmoothingResult :=
  let status := observationStatus arith configuration evaluatedAt observation
  let observationAgeSeconds := observation.map fun observed =>
    secondsBetween arith evaluatedAt observed.observedAt
  match previousState with
  | some ⟨previousScore, anchorScore, some lastFreshObservedAt, _⟩ =>
      let elapsed := elapsedBeyondStaleSeconds arith configuration evaluatedAt lastFreshObservedAt
      let ageSinceFreshSeconds := secondsBetween arith evaluatedAt lastFreshObservedAt
      if elapsed = 0 then
        { score := previousScore
          phase := .held
          observationStatus := status
          evaluatedAt := evaluatedAt
          previousScore := some previousScore
          observationScore := observation.map (·.score)
          temporalState := ⟨previousScore, anchorScore, some lastFreshObservedAt, evaluatedAt⟩
          calculation := .hold ageSinceFreshSeconds configuration.staleAfterSeconds
            observationAgeSeconds }
      else
        let score := decayedScore arith two configuration anchorScore elapsed
        { score := score
          phase := .decayed
          observationStatus := status
          evaluatedAt := evaluatedAt
          previousScore := some previousScore
          observationScore := observation.map (·.score)
          temporalState := ⟨score, anchorScore, some lastFreshObservedAt, evaluatedAt⟩
          calculation := .exponentialDecay (min configuration.initialScore anchorScore) anchorScore
            ageSinceFreshSeconds elapsed configuration.staleAfterSeconds
            (toTwelvePlaces arith (retentionFactor arith two configuration elapsed))
            observationAgeSeconds }
  | _ =>
      { score := configuration.initialScore
        phase := .coldStart
        observationStatus := status
        evaluatedAt := evaluatedAt
        previousScore := previousState.map (·.score)
        observationScore := observation.map (·.score)
        temporalState := ⟨configuration.initialScore, configuration.initialScore, none, evaluatedAt⟩
        calculation := .initialScore configuration.initialScore observationAgeSeconds }

def advanceSmoothedTrustScore (previous : Option TemporalState)
    (observed : Option TrustObservation) (evaluatedAt : Timestamp) :
    Except String SmoothingResult := do
  let previousState ← normalizePreviousTemporalState configuration evaluatedAt previous
  let observation ← normalizeObservation evaluatedAt observed
  match observation with
  | some fresh =>
      if observationStatus arith configuration evaluatedAt (some fresh) = .fresh then
        require (∀ lastFreshObservedAt ∈ previousState.bind (·.lastFreshObservedAt),
          lastFreshObservedAt < fresh.observedAt) "TRUST_OBSERVATION_NOT_NEWER"
        return freshResult arith configuration previousState fresh evaluatedAt
      else return unfedResult arith two configuration previousState observation evaluatedAt
  | none => return unfedResult arith two configuration previousState observation evaluatedAt

end Calculation

end TenantTrust.Trust
