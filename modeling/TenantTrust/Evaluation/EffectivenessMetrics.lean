import TenantTrust.Evaluation.WorkloadRunner
import TenantTrust.Library.Grouping

/-! The effectiveness report: trials, their success and the published rates. -/

namespace TenantTrust.Evaluation

open Library

/-- `trialKey` -/
abbrev TrialKey := ModeId × RunId × Nat

def trialKey (observation : Observation) : TrialKey :=
  (observation.modeId, observation.runId, observation.laneIndex)

structure Trial where
  modeId : ModeId
  runId : RunId
  scenarioId : ScenarioId
  trafficClass : TrafficClass
  accessTruth : AccessTruth
  observations : List Observation
  controlsSatisfied : Bool
  outcomeSatisfied : Bool
  successful : Bool

def controlsSatisfied (scenario : Scenario) (observations : List Observation) : Bool :=
  scenario.groundTruth.requiredControls.all fun control =>
    (observations.flatMap Observation.controlsObserved).contains control

def outcomeSatisfied (scenario : Scenario) (observations : List Observation) : Bool :=
  scenario.groundTruth.accessTruth ≠ .unauthorizedRestrict ||
    observations.any fun observation => observation.operation = .authorize &&
      scenario.groundTruth.expectedAuthorizationOutcomes.contains observation.observedOutcome

/-- The trial of a group of observations; no group is empty. -/
def trialOf (group : List Observation) : Option Trial :=
  match group.mergeSort fun left right => left.stepIndex ≤ right.stepIndex with
  | [] => none
  | first :: rest =>
      let items := first :: rest
      let scenario := scenarioOf first.scenarioId
      some {
        modeId := first.modeId
        runId := first.runId
        scenarioId := first.scenarioId
        trafficClass := first.trafficClass
        accessTruth := first.accessTruth
        observations := items
        controlsSatisfied := controlsSatisfied scenario items
        outcomeSatisfied := outcomeSatisfied scenario items
        successful := controlsSatisfied scenario items && outcomeSatisfied scenario items }

def groupTrials (observations : List Observation) : List Trial :=
  (Grouping.groupRows trialKey observations).filterMap fun group => trialOf group.2

def expectedPerScenarioMode : Nat :=
  samplePlan.measuredRepetitions * samplePlan.concurrencyLevels.foldl (· + ·) 0

def assertCompleteProtocolCoverage (trials : List Trial) : Except String Unit := do
  let actualModes := (trials.map Trial.modeId).dedup
  require (actualModes.length = modeIds.length ∧ ∀ modeId ∈ modeIds, modeId ∈ actualModes)
    "Effectiveness report requires every registered comparison mode."
  modeIds.forM fun modeId => evaluationScenarios.forM fun scenario =>
    require ((trials.filter fun trial =>
        trial.modeId = modeId && trial.scenarioId = scenario.scenarioId).length =
      expectedPerScenarioMode) "Incomplete measured trial coverage."

structure RateMetric where
  numerator : Nat
  denominator : Nat
  deriving DecidableEq, Repr

/-- `rateMetric` without its estimate and its interval. -/
def rateMetric (trials : List Trial) (success : Trial → Bool) : RateMetric where
  numerator := trials.countP success
  denominator := trials.length

structure DelayMetric where
  values : List Binary64
  successfulObservations : Nat
  denominator : Nat
  unboundedFailures : Nat

def Observation.enforcementDelay? (observation : Observation) : Option Binary64 :=
  (observation.measurements.find? fun entry => entry.1 = "revocationEnforcementDelayMs").map
    Prod.snd

/-- The delay of the first observation that measured one. -/
def Trial.delay? (trial : Trial) : Option Binary64 :=
  trial.observations.findSome? Observation.enforcementDelay?

/-- The sample that a trial adds to the delays. -/
def Trial.delaySample? (trial : Trial) : Option Binary64 :=
  if trial.successful then trial.delay? else none

/-- `delayMetric` without its percentiles and its interval. -/
def delayMetric (trials : List Trial) : DelayMetric :=
  let values := trials.filterMap Trial.delaySample?
  { values := values
    successfulObservations := values.length
    denominator := trials.length
    unboundedFailures := trials.length - values.length }

def falselyRestricted (trial : Trial) : Bool :=
  trial.observations.any fun observation =>
    observation.operation = .authorize && observation.observedOutcome ≠ .allow

inductive RateId where
  | attackDetection | falseRestriction | tenantIsolation | replayRejection
  | auditModificationDetection | ledgerVerification
  deriving DecidableEq, Repr

/-- The trials of one mode that a rate is over. -/
def RateId.selects : RateId → Trial → Bool
  | attackDetection, trial => trial.trafficClass = .attack
  | falseRestriction, trial => trial.accessTruth = .legitimateAllow
  | tenantIsolation, trial =>
      trial.scenarioId = .crossTenantAccess || trial.scenarioId = .evidenceFlooding
  | replayRejection, trial => trial.scenarioId = .certificateAndEvidenceReplay
  | auditModificationDetection, trial => trial.scenarioId = .offChainAuditRecordModification
  | ledgerVerification, trial => trial.scenarioId = .fabricOutageAndRecovery

def RateId.success : RateId → Trial → Bool
  | falseRestriction => falselyRestricted
  | _ => Trial.successful

structure ModeReport where
  modeId : ModeId
  measuredTrials : Nat
  rates : RateId → RateMetric
  revocationEnforcementDelay : DelayMetric

def modeReport (trials : List Trial) (modeId : ModeId) : ModeReport :=
  let modeTrials := trials.filter fun trial => trial.modeId = modeId
  { modeId := modeId
    measuredTrials := modeTrials.length
    rates := fun rate => rateMetric (modeTrials.filter rate.selects) rate.success
    revocationEnforcementDelay := delayMetric (modeTrials.filter fun trial =>
      trial.scenarioId = .corroboratedRevocationEnforcement) }

structure EffectivenessReport where
  configurationHash : String
  rawObservationCount : Nat
  measuredObservationCount : Nat
  modes : List ModeReport

def measureEffectivenessAndIsolation (result : WorkloadResult) :
    Except String EffectivenessReport := do
  require (result.resultEligibility = .protocolEvaluation)
    "A full protocol-evaluation workload result is required."
  let measured := result.observations.filter fun observation => observation.sampleKind = .measured
  let trials := groupTrials measured
  assertCompleteProtocolCoverage trials
  let reportedModes := (trials.map Trial.modeId).dedup.mergeSort fun left right =>
    left.text ≤ right.text
  return {
    configurationHash := result.configurationHash
    rawObservationCount := result.observationCount
    measuredObservationCount := measured.length
    modes := reportedModes.map (modeReport trials) }

end TenantTrust.Evaluation
