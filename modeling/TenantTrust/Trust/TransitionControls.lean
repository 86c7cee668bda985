import TenantTrust.Trust.EvidenceTables
import TenantTrust.Library.Checked
import TenantTrust.Library.ScriptValues
import TenantTrust.Trust.ScoreRounding

/-! Controls on the transition of a subject's trust: bands with hysteresis, a cap on the influence
of one source, and overrides for critical evidence. -/

namespace TenantTrust.Trust

open Library Identity

/-- A number of a caller; `none` is one that is not finite. -/
abbrev ScriptNumber := Option ℚ

def validScore (value : ScriptNumber) : Bool :=
  value.any fun score => 0 ≤ score && score ≤ 100

/-- A state as a caller passes it, or as a call returns it; the band may be undefined. -/
structure ControlStateValue where
  score : ScriptNumber
  band : Option TrustBand
  recoveryStreak : ℤ
  deriving DecidableEq, Repr

/-- The score below which a band is left downwards. -/
def deteriorationThreshold : TrustBand → Option ℚ
  | .low => none
  | .medium => some Bands.mediumDeteriorationThreshold
  | .high => some Bands.highDeteriorationThreshold

def recoveryThreshold : TrustBand → Option ℚ
  | .low => some Bands.lowRecoveryThreshold
  | .medium => some Bands.mediumRecoveryThreshold
  | .high => none

/-- A state that passed its checks. -/
structure ControlState where
  score : ℚ
  band : TrustBand
  recoveryStreak : ℕ
  score_valid : 0 ≤ score ∧ score ≤ 100
  streak_below : recoveryStreak < Bands.consecutiveQualifyingEvaluations
  not_deteriorated : ∀ threshold ∈ deteriorationThreshold band, threshold ≤ score
  streak_earned : 0 < recoveryStreak → ∃ threshold ∈ recoveryThreshold band, threshold ≤ score

def ControlState.value (state : ControlState) : ControlStateValue :=
  ⟨some state.score, some state.band, state.recoveryStreak⟩

def normalizePreviousState (value : ControlStateValue) : Except String ControlState :=
  match value with
  | ⟨some score, some band, recoveryStreak⟩ =>
      if accepted : (0 ≤ score ∧ score ≤ 100) ∧ 0 ≤ recoveryStreak ∧
          recoveryStreak.toNat < Bands.consecutiveQualifyingEvaluations ∧
          (∀ threshold ∈ deteriorationThreshold band, threshold ≤ score) ∧
          (0 < recoveryStreak.toNat → ∃ threshold ∈ recoveryThreshold band, threshold ≤ score) then
        .ok ⟨score, band, recoveryStreak.toNat, accepted.1, accepted.2.2.1, accepted.2.2.2.1,
          accepted.2.2.2.2⟩
      else .error "PREVIOUS_CONTROL_STATE_INVALID"
  | _ => .error "PREVIOUS_CONTROL_STATE_INVALID"

theorem normalizePreviousState_value (state : ControlState) :
    normalizePreviousState state.value = .ok state := by
  simp only [normalizePreviousState, ControlState.value, Int.toNat_natCast]
  exact dif_pos ⟨state.score_valid, Int.natCast_nonneg _, state.streak_below,
    state.not_deteriorated, state.streak_earned⟩

theorem normalizePreviousState_eq_ok {value : ControlStateValue} {state : ControlState}
    (accepted : normalizePreviousState value = .ok state) : value = state.value := by
  unfold normalizePreviousState at accepted
  split at accepted
  · split at accepted
    · rename_i checked
      cases accepted
      rw [ControlState.value, Int.toNat_of_nonneg checked.2.1]
    · cases accepted
  · cases accepted

/-- The identifiers are tested as texts. -/
structure SourceValue where
  sourceId : Passed SourceId
  maximumInfluence : ScriptNumber
  corroboratingSourceIds : List (Passed SourceId)
  deriving DecidableEq, Repr

structure Source where
  sourceId : Passed SourceId
  maximumInfluence : ℚ
  corroboratingSourceIds : List (Passed SourceId)
  distinctSourceIds : List (Passed SourceId)
  influence_valid : 0 < maximumInfluence ∧ maximumInfluence ≤ 1
  distinct : distinctSourceIds.Nodup

def normalizeSource (value : SourceValue) : Except String Source :=
  match value.maximumInfluence with
  | some maximumInfluence =>
      if valid : 0 < maximumInfluence ∧ maximumInfluence ≤ 1 then
        .ok {
          sourceId := value.sourceId
          maximumInfluence := maximumInfluence
          corroboratingSourceIds := value.corroboratingSourceIds
          distinctSourceIds :=
            sortPassed (distinctValues (value.sourceId :: value.corroboratingSourceIds))
          influence_valid := valid
          distinct := nodup_sortPassed.mpr (distinctValues_nodup _) }
      else .error "SOURCE_INFLUENCE_INVALID"
  | none => .error "SOURCE_INFLUENCE_INVALID"

structure CriticalEvidenceRule where
  componentId : String
  scoreCeiling : ℚ
  forcedBand : TrustBand
  deriving DecidableEq, Repr

/-- The own entries of `CRITICAL_EVIDENCE_OVERRIDE_RULES`. -/
def criticalEvidenceOverrideRules : List (String × CriticalEvidenceRule) := [
  ("identity-compromised", ⟨TrustComponentId.identity.text, 20, .low⟩),
  ("device-compromised", ⟨TrustComponentId.device.text, 20, .low⟩),
  ("account-takeover-pattern", ⟨TrustComponentId.behaviour.text, 20, .low⟩),
  ("certificate-revoked", ⟨TrustComponentId.certificate.text, 0, .low⟩),
  ("blocking-compliance-breach", ⟨TrustComponentId.compliance.text, 20, .low⟩)]

theorem mem_of_lookup {kind : String} {rule : CriticalEvidenceRule}
    (found : criticalEvidenceOverrideRules.lookup kind = some rule) :
    (kind, rule) ∈ criticalEvidenceOverrideRules := by
  have searched : ∀ entries : List (String × CriticalEvidenceRule),
      entries.lookup kind = some rule → (kind, rule) ∈ entries := by
    intro entries
    induction entries with
    | nil => intro none; cases none
    | cons entry rest ih =>
        intro found
        obtain ⟨name, first⟩ := entry
        rw [List.lookup_cons] at found
        by_cases same : kind = name
        · rw [beq_iff_eq.mpr same] at found
          cases found
          rw [same]
          exact List.mem_cons_self
        · rw [beq_false_of_ne same] at found
          exact List.mem_cons_of_mem _ (ih found)
  exact searched _ found

theorem rule_bounds {kind : String} {rule : CriticalEvidenceRule}
    (listed : (kind, rule) ∈ criticalEvidenceOverrideRules) :
    0 ≤ rule.scoreCeiling ∧ rule.scoreCeiling ≤ 100 ∧ rule.forcedBand = .low := by
  simp only [criticalEvidenceOverrideRules, List.mem_cons, Prod.mk.injEq, List.not_mem_nil,
    or_false] at listed
  rcases listed with ⟨_, rfl⟩ | ⟨_, rfl⟩ | ⟨_, rfl⟩ | ⟨_, rfl⟩ | ⟨_, rfl⟩ <;>
    norm_num

/-- The properties that every ordinary object inherits. -/
def objectPrototypeProperties : List String := [
  "constructor", "hasOwnProperty", "isPrototypeOf", "propertyIsEnumerable", "toLocaleString",
  "toString", "valueOf", "__proto__", "__defineGetter__", "__defineSetter__", "__lookupGetter__",
  "__lookupSetter__"]

/-- What reading a property of the rule table gives: an own entry, or an inherited value, which
has none of an entry's fields. -/
inductive RuleValue where
  | own (rule : CriticalEvidenceRule)
  | inherited
  deriving DecidableEq, Repr

def readRule (rules : List (String × CriticalEvidenceRule)) (key : String) : Option RuleValue :=
  match rules.lookup key with
  | some rule => some (.own rule)
  | none => if key ∈ objectPrototypeProperties then some .inherited else none

def criticalEvidenceRule (kind : String) : Option RuleValue :=
  readRule criticalEvidenceOverrideRules kind

namespace RuleValue

def componentId : RuleValue → Option String
  | own rule => some rule.componentId
  | inherited => none

def scoreCeiling : RuleValue → ScriptNumber
  | own rule => some rule.scoreCeiling
  | inherited => none

def forcedBand : RuleValue → Option TrustBand
  | own rule => some rule.forcedBand
  | inherited => none

end RuleValue

structure CriticalEvidenceValue where
  kind : String
  componentId : Option String
  deriving DecidableEq, Repr

structure CriticalEvidence where
  kind : String
  componentId : Option String
  rule : RuleValue
  deriving DecidableEq, Repr

def normalizeCriticalEvidence :
    Option CriticalEvidenceValue → Except String (Option CriticalEvidence)
  | none => .ok none
  | some value => do
      let rule ← requireSome (criticalEvidenceRule value.kind) "CRITICAL_EVIDENCE_INVALID"
      require (rule.componentId = value.componentId) "CRITICAL_EVIDENCE_INVALID"
      return some ⟨value.kind, value.componentId, rule⟩

def classifyBaseBand (score : ℚ) : TrustBand :=
  if score < Bands.lowBaseMaximumExclusive then .low
  else if score < Bands.mediumBaseMaximumExclusive then .medium
  else .high

def deteriorationBand (previousBand : TrustBand) (score : ℚ) : TrustBand :=
  if score < Bands.mediumDeteriorationThreshold then .low
  else if previousBand = .high ∧ score < Bands.highDeteriorationThreshold then .medium
  else previousBand

def nextRecoveryBand : TrustBand → TrustBand
  | .low => .medium
  | .medium => .high
  | .high => .high

def initializeTrustControlState (score : ScriptNumber) : Except String ControlStateValue := do
  let initial ← requireSome score "INITIAL_CONTROL_SCORE_INVALID"
  require (validScore score) "INITIAL_CONTROL_SCORE_INVALID"
  return ⟨some initial, some (classifyBaseBand initial), 0⟩

structure SourceInfluence where
  sourceId : Passed SourceId
  maximumInfluence : ℚ
  maximumDeltaPoints : ℚ
  requestedDelta : ℚ
  appliedDelta : ScriptNumber
  capped : Bool
  bypassedForCriticalDeterioration : Bool
  deriving DecidableEq, Repr

structure RecoveryStatus where
  eligible : Bool
  distinctSourceCount : ℕ
  requiredDistinctSourceCount : ℕ
  qualifyingStreak : ℕ
  requiredQualifyingStreak : ℕ
  deriving DecidableEq, Repr

structure CriticalOverride where
  kind : String
  componentId : Option String
  scoreCeiling : ScriptNumber
  forcedBand : Option TrustBand
  deriving DecidableEq, Repr

structure TransitionControlResult where
  score : ScriptNumber
  band : Option TrustBand
  transition : TransitionKind
  recoveryStreak : ℕ
  state : ControlStateValue
  sourceInfluence : SourceInfluence
  recovery : RecoveryStatus
  criticalOverride : Option CriticalOverride
  deriving DecidableEq, Repr

/-- What one evaluation brings beside the previous state. -/
structure ControlEvaluation where
  candidateScore : ScriptNumber
  source : SourceValue
  criticalEvidence : Option CriticalEvidenceValue
  deriving DecidableEq, Repr

variable (arith : Arithmetic)

def Source.maximumDeltaPoints (source : Source) : ℚ :=
  roundScore arith (arith.mul source.maximumInfluence Bands.scoreRange)

/-- `Math.max(-maximumDeltaPoints, Math.min(maximumDeltaPoints, requestedDelta))` -/
def boundedDelta (maximumDeltaPoints requestedDelta : ℚ) : ℚ :=
  max (-maximumDeltaPoints) (min maximumDeltaPoints requestedDelta)

def boundedScore (previousState : ControlState) (candidateScore : ℚ) (source : Source) : ℚ :=
  roundScore arith (arith.add previousState.score
    (boundedDelta (source.maximumDeltaPoints arith)
      (arith.sub candidateScore previousState.score)))

def buildResult (previousState : ControlState) (source : Source) (candidateScore score : ℚ)
    (band : TrustBand) (transition : TransitionKind) (recoveryStreak : ℕ)
    (recoveryEligible : Bool) : TransitionControlResult :=
  let requestedDelta := arith.sub candidateScore previousState.score
  let maximumDeltaPoints := source.maximumDeltaPoints arith
  { score := some score
    band := some band
    transition := transition
    recoveryStreak := recoveryStreak
    state := ⟨some score, some band, recoveryStreak⟩
    sourceInfluence := {
      sourceId := source.sourceId
      maximumInfluence := source.maximumInfluence
      maximumDeltaPoints := maximumDeltaPoints
      requestedDelta := roundScore arith requestedDelta
      appliedDelta := some (roundScore arith (arith.sub score previousState.score))
      capped := maximumDeltaPoints < |requestedDelta|
      bypassedForCriticalDeterioration := false }
    recovery := {
      eligible := recoveryEligible
      distinctSourceCount := source.distinctSourceIds.length
      requiredDistinctSourceCount := Bands.distinctSourceCount
      qualifyingStreak := recoveryStreak
      requiredQualifyingStreak := Bands.consecutiveQualifyingEvaluations }
    criticalOverride := none }

/-- The branch for critical evidence. A ceiling that is undefined makes the score one that is
not a number. -/
def overrideResult (previousState : ControlState) (source : Source) (candidateScore : ℚ)
    (criticalEvidence : CriticalEvidence) : TransitionControlResult :=
  let requestedDelta := arith.sub candidateScore previousState.score
  let score := criticalEvidence.rule.scoreCeiling.map fun ceiling =>
    roundScore arith (min (min previousState.score candidateScore) ceiling)
  { score := score
    band := criticalEvidence.rule.forcedBand
    transition := .criticalOverride
    recoveryStreak := 0
    state := ⟨score, criticalEvidence.rule.forcedBand, 0⟩
    sourceInfluence := {
      sourceId := source.sourceId
      maximumInfluence := source.maximumInfluence
      maximumDeltaPoints := source.maximumDeltaPoints arith
      requestedDelta := roundScore arith requestedDelta
      appliedDelta := score.map fun new => roundScore arith (arith.sub new previousState.score)
      capped := false
      bypassedForCriticalDeterioration := true }
    recovery := {
      eligible := false
      distinctSourceCount := source.distinctSourceIds.length
      requiredDistinctSourceCount := Bands.distinctSourceCount
      qualifyingStreak := 0
      requiredQualifyingStreak := Bands.consecutiveQualifyingEvaluations }
    criticalOverride := some ⟨criticalEvidence.kind, criticalEvidence.componentId,
      criticalEvidence.rule.scoreCeiling, criticalEvidence.rule.forcedBand⟩ }

/-- Whether an evaluation counts towards the recovery of a band. -/
def recoveryEligible (previousBand : TrustBand) (score : ℚ) (source : Source) : Bool :=
  (recoveryThreshold previousBand).any (fun threshold => threshold ≤ score) &&
    Bands.distinctSourceCount ≤ source.distinctSourceIds.length

/-- The branches without critical evidence. -/
def ordinaryResult (previousState : ControlState) (source : Source) (candidateScore : ℚ) :
    TransitionControlResult :=
  let score := boundedScore arith previousState candidateScore source
  let lowerBand := deteriorationBand previousState.band score
  if lowerBand.rank < previousState.band.rank then
    buildResult arith previousState source candidateScore score lowerBand .deteriorated 0 false
  else
    let eligible := recoveryEligible previousState.band score source
    let recoveryStreak := if eligible then previousState.recoveryStreak + 1 else 0
    if Bands.consecutiveQualifyingEvaluations ≤ recoveryStreak then
      buildResult arith previousState source candidateScore score
        (nextRecoveryBand previousState.band) .recovered 0 eligible
    else
      buildResult arith previousState source candidateScore score previousState.band .held
        recoveryStreak eligible

def applyTrustTransitionControls (previous : ControlStateValue) (evaluation : ControlEvaluation) :
    Except String TransitionControlResult := do
  let previousState ← normalizePreviousState previous
  let candidateScore ← requireSome evaluation.candidateScore "CANDIDATE_SCORE_INVALID"
  require (validScore evaluation.candidateScore) "CANDIDATE_SCORE_INVALID"
  let source ← normalizeSource evaluation.source
  let criticalEvidence ← normalizeCriticalEvidence evaluation.criticalEvidence
  match criticalEvidence with
  | some critical => return overrideResult arith previousState source candidateScore critical
  | none => return ordinaryResult arith previousState source candidateScore

end TenantTrust.Trust
