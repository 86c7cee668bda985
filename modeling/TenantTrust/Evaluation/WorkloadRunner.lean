import TenantTrust.Evaluation.Protocol
import TenantTrust.Library.Binary64
import TenantTrust.Library.Checked
import TenantTrust.Library.ScriptValues

/-! The workload runner: the plan of runs, and what it records of the adapters' answers. -/

namespace TenantTrust.Evaluation

open Library Identity

inductive Profile where
  | full | verification
  deriving DecidableEq, Repr

inductive SampleKind where
  | verification | warmup | measured
  deriving DecidableEq, Repr

/-- The parts that the text of the identifier is joined from. -/
structure RunId where
  profile : Profile
  concurrency : Nat
  repetitionIndex : Nat
  modeId : ModeId
  scenarioId : ScenarioId
  deriving DecidableEq, Repr

structure EvaluationRun where
  runId : RunId
  profile : Profile
  sampleKind : SampleKind
  measuredRepetitionIndex : Option Nat
  repetitionIndex : Nat
  loadIndex : Nat
  concurrency : Nat
  modeOrderIndex : Nat
  modeId : ModeId
  scenarioId : ScenarioId
  seed : Nat
  deriving DecidableEq, Repr

inductive ResultEligibility where
  | protocolEvaluation | runnerVerificationOnly
  deriving DecidableEq, Repr

structure WorkloadPlan where
  configurationHash : String
  profile : Profile
  resultEligibility : ResultEligibility
  runs : List EvaluationRun

def concurrencyLevels : Profile → List Nat
  | .full => samplePlan.concurrencyLevels
  | .verification => [1]

def warmupRepetitions : Profile → Nat
  | .full => samplePlan.warmupRepetitions
  | .verification => 0

def measuredRepetitions : Profile → Nat
  | .full => samplePlan.measuredRepetitions
  | .verification => 1

def sampleKindAt (profile : Profile) (repetitionIndex : Nat) : SampleKind :=
  match profile with
  | .verification => .verification
  | .full => if repetitionIndex < warmupRepetitions .full then .warmup else .measured

def modeOrder (repetitionIndex : Nat) : List ModeId :=
  samplePlan.modeOrderRotation.getD (repetitionIndex % samplePlan.modeOrderRotation.length) []

def plannedRun (profile : Profile) (load : Nat × Nat) (repetitionIndex : Nat)
    (mode : ModeId × Nat) (scenario : Scenario × Nat) : EvaluationRun where
  runId := ⟨profile, load.1, repetitionIndex, mode.1, scenario.1.scenarioId⟩
  profile := profile
  sampleKind := sampleKindAt profile repetitionIndex
  measuredRepetitionIndex := if sampleKindAt profile repetitionIndex = .measured then
    some (repetitionIndex - warmupRepetitions profile) else none
  repetitionIndex := repetitionIndex
  loadIndex := load.2
  concurrency := load.1
  modeOrderIndex := mode.2
  modeId := mode.1
  scenarioId := scenario.1.scenarioId
  seed := samplePlan.seedBase + scenario.2 * 10000 + load.2 * 1000 + repetitionIndex

def plannedRuns (profile : Profile) : List EvaluationRun :=
  (concurrencyLevels profile).zipIdx.flatMap fun load =>
    (List.range (warmupRepetitions profile + measuredRepetitions profile)).flatMap
      fun repetitionIndex =>
        (modeOrder repetitionIndex).zipIdx.flatMap fun mode =>
          evaluationScenarios.zipIdx.map fun scenario =>
            plannedRun profile load repetitionIndex mode scenario

/-- `^[a-f0-9]{64}$` -/
def isConfigurationHash (text : String) : Bool :=
  text.toList.length = 64 && text.toList.all fun c => c.isDigit || ('a' ≤ c && c ≤ 'f')

def createEvaluationWorkloadPlan (configurationHash : String) (profile : Profile) :
    Except String WorkloadPlan := do
  require (isConfigurationHash configurationHash)
    "configurationHash must be a lowercase SHA-256 digest."
  let runs := plannedRuns profile
  require (profile = .full →
      (runs.filter fun run => run.sampleKind = .measured).length =
        samplePlan.totalMeasuredScenarioRuns)
    "Generated plan does not match the pre-registered measured scenario count."
  return {
    configurationHash := configurationHash
    profile := profile
    resultEligibility := if profile = .full then .protocolEvaluation else .runnerVerificationOnly
    runs := runs }

inductive StepStatus where
  | completed | unsupported | timeout | error
  deriving DecidableEq, Repr

/-- The measurements of an answer; a value that is not a finite number is missing. -/
inductive AdapterMeasurements where
  | undefined
  | malformed
  | entries (values : List (String × Option Binary64))

/-- An object that an adapter answers with; controls that are no list of texts are missing, and the
reason code is what converts to a text. -/
structure AdapterAnswer where
  status : String
  observedOutcome : String
  reasonCode : Passed String
  controlsObserved : Option (List String)
  measurements : AdapterMeasurements

structure StepResult where
  status : StepStatus
  observedOutcome : ObservedOutcome
  reasonCode : Passed String
  controlsObserved : List String
  measurements : List (String × Binary64)

/-- `ADAPTER_STATUSES` -/
def adapterStatus? : String → Option StepStatus
  | "completed" => some .completed
  | "unsupported" => some .unsupported
  | _ => none

/-- `^[a-z][a-zA-Z0-9]*Ms$` -/
def isMeasurementId (text : String) : Bool :=
  match text.toList with
  | [] => false
  | head :: tail => head.isLower && tail.all Char.isAlphanum && ['M', 's'].isSuffixOf tail

def validateMeasurement (entry : String × Option Binary64) : Except String (String × Binary64) := do
  let failure := "Adapter measurements must be non-negative millisecond values."
  require (isMeasurementId entry.1) failure
  let value ← requireSome entry.2 failure
  require (0 ≤ value.value) failure
  return (entry.1, value)

def validateMeasurements : AdapterMeasurements → Except String (List (String × Binary64))
  | .undefined => .ok []
  | .malformed => .error "Adapter result measurements must be an object."
  | .entries values => values.mapM validateMeasurement

/-- An answer that is no object is missing. -/
def validateAdapterResult (answer : Option AdapterAnswer) : Except String StepResult := do
  let result ← requireSome answer "Adapter result status must be completed or unsupported."
  let status ← requireSome (adapterStatus? result.status)
    "Adapter result status must be completed or unsupported."
  let observedOutcome ← requireSome (observedOutcome? result.observedOutcome)
    "Adapter result has an unknown observed outcome."
  require (isReasonCode result.reasonCode.read)
    "Adapter result reasonCode must be a stable uppercase code."
  let controlsObserved ← requireSome result.controlsObserved
    "Adapter result controlsObserved must be an array of strings."
  require (status = .unsupported → observedOutcome = .unsupported)
    "Unsupported adapter results must use the unsupported outcome."
  let measurements ← validateMeasurements result.measurements
  return ⟨status, observedOutcome, result.reasonCode, controlsObserved, measurements⟩

/-- How one call of an adapter goes on, after how many milliseconds. A rejection may have a falsy
reason. -/
inductive AdapterExecution where
  | resolves (afterMs : Nat) (answer : Option AdapterAnswer)
  | rejects (afterMs : Nat) (falsy : Bool)
  | never

inductive AdapterResponse where
  | value (answer : Option AdapterAnswer)
  | error
  | timeout

/-- `Promise.race` of the call and the timer. -/
def executeWithTimeout (timeoutMs : Nat) : AdapterExecution → AdapterResponse
  | .resolves afterMs answer => if afterMs < timeoutMs then .value answer else .timeout
  -- a falsy reason is taken for an answer that is missing
  | .rejects afterMs falsy =>
      if afterMs < timeoutMs then if falsy then .value none else .error else .timeout
  | .never => .timeout

def failureResult (status : StepStatus) (outcome : ObservedOutcome) (reasonCode : String) :
    StepResult := ⟨status, outcome, .plain reasonCode, [], []⟩

/-- The result that is recorded for a response. -/
def stepResult : AdapterResponse → StepResult
  | .timeout => failureResult .timeout .timeout "ADAPTER_TIMEOUT"
  | .error => failureResult .error .error "ADAPTER_ERROR"
  | .value answer =>
      match validateAdapterResult answer with
      | .ok result => result
      | .error _ => failureResult .error .error "INVALID_ADAPTER_RESULT"

/-- `[...new Set(controls)].sort()` -/
def sortedControls (controls : List String) : List String :=
  controls.dedup.mergeSort fun left right => left ≤ right

structure Observation where
  runId : RunId
  profile : Profile
  sampleKind : SampleKind
  modeId : ModeId
  scenarioId : ScenarioId
  trafficClass : TrafficClass
  accessTruth : AccessTruth
  concurrency : Nat
  repetitionIndex : Nat
  measuredRepetitionIndex : Option Nat
  seed : Nat
  laneIndex : Nat
  stepIndex : Nat
  stepId : String
  operation : Operation
  fixture : String
  status : StepStatus
  observedOutcome : ObservedOutcome
  accessClassification : AccessClassification
  reasonCode : Passed String
  controlsExpected : List String
  controlsObserved : List String
  controlsMissing : List String
  measurements : List (String × Binary64)

def observe (run : EvaluationRun) (scenario : Scenario) (laneIndex stepIndex : Nat)
    (step : WorkloadStep) (result : StepResult) : Observation where
  runId := run.runId
  profile := run.profile
  sampleKind := run.sampleKind
  modeId := run.modeId
  scenarioId := run.scenarioId
  trafficClass := scenario.trafficClass
  accessTruth := scenario.groundTruth.accessTruth
  concurrency := run.concurrency
  repetitionIndex := run.repetitionIndex
  measuredRepetitionIndex := run.measuredRepetitionIndex
  seed := run.seed
  laneIndex := laneIndex
  stepIndex := stepIndex
  stepId := step.stepId
  operation := step.operation
  fixture := step.fixture
  status := result.status
  observedOutcome := result.observedOutcome
  accessClassification :=
    classifyAccessObservation scenario.groundTruth.accessTruth result.observedOutcome
  reasonCode := result.reasonCode
  controlsExpected := step.expectedControls
  controlsObserved := sortedControls result.controlsObserved
  controlsMissing := step.expectedControls.filter fun control =>
    control ∉ sortedControls result.controlsObserved
  measurements := result.measurements

/-- How the calls of one mode's adapter go on, by run, lane and step. -/
abbrev Adapter := EvaluationRun → Nat → Nat → AdapterExecution

def executeLane (run : EvaluationRun) (scenario : Scenario) (steps : List WorkloadStep)
    (adapter : Adapter) (laneIndex timeoutMs : Nat) : List Observation :=
  steps.zipIdx.map fun (step, stepIndex) =>
    observe run scenario laneIndex stepIndex step
      (stepResult (executeWithTimeout timeoutMs (adapter run laneIndex stepIndex)))

def scenarioById (scenarioId : ScenarioId) : Option Scenario :=
  evaluationScenarios.find? fun scenario => scenario.scenarioId = scenarioId

theorem scenarioById_isSome (scenarioId : ScenarioId) : (scenarioById scenarioId).isSome := by
  cases scenarioId <;> rfl

def scenarioOf (scenarioId : ScenarioId) : Scenario :=
  (scenarioById scenarioId).get (scenarioById_isSome scenarioId)

def executeRun (adapters : ModeId → Adapter) (timeoutMs : Nat) (run : EvaluationRun) :
    List Observation :=
  (List.range run.concurrency).flatMap fun laneIndex =>
    executeLane run (scenarioOf run.scenarioId) (scenarioSteps run.scenarioId)
      (adapters run.modeId) laneIndex timeoutMs

structure WorkloadResult where
  configurationHash : String
  profile : Profile
  resultEligibility : ResultEligibility
  plannedRuns : Nat
  completedRuns : Nat
  observationCount : Nat
  observations : List Observation

def runEvaluationWorkload (plan : WorkloadPlan) (adapters : ModeId → Adapter)
    (timeoutMs : Nat) : Except String WorkloadResult := do
  require (1 ≤ timeoutMs) "timeoutMs must be a positive integer."
  let observations := plan.runs.flatMap (executeRun adapters timeoutMs)
  return {
    configurationHash := plan.configurationHash
    profile := plan.profile
    resultEligibility := plan.resultEligibility
    plannedRuns := plan.runs.length
    completedRuns := plan.runs.length
    observationCount := observations.length
    observations := observations }

end TenantTrust.Evaluation
