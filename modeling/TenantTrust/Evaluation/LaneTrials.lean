import TenantTrust.Evaluation.EffectivenessMetrics

/-! Each measured lane of a plan becomes one trial of the report. -/

namespace TenantTrust.Evaluation

open Library

theorem nodup_flatMap_tagged {α β τ : Type} {l : List α} {f : α → List β} {mark : α → τ}
    (tag : β → τ) (distinct : (l.map mark).Nodup) (each : ∀ x ∈ l, (f x).Nodup)
    (tagged : ∀ x ∈ l, ∀ y ∈ f x, tag y = mark x) : (l.flatMap f).Nodup := by
  apply List.nodup_flatMap.mpr
  refine ⟨each, ?_⟩
  have apart := List.pairwise_map.mp distinct
  refine apart.imp_of_mem fun left right different => ?_
  intro y inLeft inRight
  exact different ((tagged _ left y inLeft).symm.trans (tagged _ right y inRight))

theorem filter_flatMap_constant {α β : Type} {f : α → List β} {p : β → Bool} {q : α → Bool}
    (l : List α) (constant : ∀ x ∈ l, ∀ y ∈ f x, p y = q x) :
    (l.flatMap f).filter p = (l.filter q).flatMap f := by
  induction l with
  | nil => rfl
  | cons x rest ih =>
      have same := constant x (List.mem_cons_self ..)
      rw [List.flatMap_cons, List.filter_append, List.filter_cons,
        ih fun other member => constant other (List.mem_cons_of_mem _ member)]
      split
      · rename_i chosen
        rw [List.flatMap_cons, List.filter_eq_self.mpr]
        intro y member
        rw [same y member]
        exact chosen
      · rename_i skipped
        rw [List.filter_eq_nil_iff.mpr, List.nil_append]
        intro y member
        rw [same y member]
        exact skipped

/-- A run and the index of one of its concurrent lanes. -/
abbrev Lane := EvaluationRun × Nat

def plannedLanes (runs : List EvaluationRun) : List Lane :=
  runs.flatMap fun run => (List.range run.concurrency).map fun laneIndex => (run, laneIndex)

def Lane.measured (lane : Lane) : Bool := lane.1.sampleKind = .measured

def measuredLanes (plan : WorkloadPlan) : List Lane :=
  (plannedLanes plan.runs).filter Lane.measured

section Lanes

variable (adapters : ModeId → Adapter) (timeoutMs : Nat)

def laneResults (lane : Lane) : List Observation :=
  executeLane lane.1 (scenarioOf lane.1.scenarioId) (scenarioSteps lane.1.scenarioId)
    (adapters lane.1.modeId) lane.2 timeoutMs

/-- The trial that a report makes of a lane. -/
def laneTrial (lane : Lane) : Trial :=
  let items := laneResults adapters timeoutMs lane
  let scenario := scenarioOf lane.1.scenarioId
  { modeId := lane.1.modeId
    runId := lane.1.runId
    scenarioId := lane.1.scenarioId
    trafficClass := scenario.trafficClass
    accessTruth := scenario.groundTruth.accessTruth
    observations := items
    controlsSatisfied := controlsSatisfied scenario items
    outcomeSatisfied := outcomeSatisfied scenario items
    successful := controlsSatisfied scenario items && outcomeSatisfied scenario items }

def Lane.key (lane : Lane) : TrialKey := (lane.1.modeId, lane.1.runId, lane.2)

variable {adapters timeoutMs}

theorem mem_laneResults {lane : Lane} {observation : Observation} :
    observation ∈ laneResults adapters timeoutMs lane ↔
      ∃ step stepIndex, (scenarioSteps lane.1.scenarioId)[stepIndex]? = some step ∧
        observation = observe lane.1 (scenarioOf lane.1.scenarioId) lane.2 stepIndex step
          (stepResult (executeWithTimeout timeoutMs
            (adapters lane.1.modeId lane.1 lane.2 stepIndex))) := by
  simp only [laneResults, executeLane, List.mem_map, Prod.exists, List.mem_zipIdx_iff_getElem?]
  constructor
  · intro found
    obtain ⟨step, stepIndex, present, same⟩ := found
    exact ⟨step, stepIndex, present, same.symm⟩
  · intro found
    obtain ⟨step, stepIndex, present, same⟩ := found
    exact ⟨step, stepIndex, present, same.symm⟩

theorem laneResults_ne_nil (lane : Lane) : laneResults adapters timeoutMs lane ≠ [] := by
  obtain ⟨run, laneIndex⟩ := lane
  unfold laneResults executeLane
  cases run.scenarioId <;> exact List.cons_ne_nil _ _

theorem laneResults_key {lane : Lane} {observation : Observation}
    (member : observation ∈ laneResults adapters timeoutMs lane) :
    trialKey observation = lane.key := by
  obtain ⟨step, stepIndex, _, rfl⟩ := mem_laneResults.mp member
  rfl

theorem laneResults_sorted (lane : Lane) :
    (laneResults adapters timeoutMs lane).mergeSort
      (fun left right => left.stepIndex ≤ right.stepIndex) =
      laneResults adapters timeoutMs lane := by
  apply List.mergeSort_of_pairwise
  apply List.Pairwise.imp (R := fun left right => left.stepIndex < right.stepIndex)
  · intro left right before
    exact decide_eq_true before.le
  · apply List.pairwise_map.mpr
    have indices : ((scenarioSteps lane.1.scenarioId).zipIdx.map Prod.snd).Pairwise (· < ·) := by
      rw [List.zipIdx_map_snd]
      exact List.pairwise_lt_range'
    exact List.pairwise_map.mp indices

theorem trialOf_laneResults (lane : Lane) :
    trialOf (laneResults adapters timeoutMs lane) = some (laneTrial adapters timeoutMs lane) := by
  unfold trialOf
  rw [laneResults_sorted]
  cases items : laneResults adapters timeoutMs lane with
  | nil => exact absurd items (laneResults_ne_nil lane)
  | cons first rest =>
      have member : first ∈ laneResults adapters timeoutMs lane := by
        rw [items]
        exact List.mem_cons_self ..
      obtain ⟨step, stepIndex, _, same⟩ := mem_laneResults.mp member
      simp only [laneTrial, items]
      rw [same]
      rfl

theorem observations_eq (runs : List EvaluationRun) :
    runs.flatMap (executeRun adapters timeoutMs) =
      (plannedLanes runs).flatMap (laneResults adapters timeoutMs) := by
  rw [plannedLanes, List.flatMap_assoc]
  congr 1
  funext run
  rw [List.flatMap_map]
  rfl

theorem measured_observations (runs : List EvaluationRun) :
    (runs.flatMap (executeRun adapters timeoutMs)).filter
      (fun observation => observation.sampleKind = .measured) =
      ((plannedLanes runs).filter Lane.measured).flatMap (laneResults adapters timeoutMs) := by
  rw [observations_eq]
  apply filter_flatMap_constant
  intro lane _ observation member
  obtain ⟨step, stepIndex, _, rfl⟩ := mem_laneResults.mp member
  rfl

/-- Lanes under different keys are grouped one by one. -/
theorem groupTrials_lanes {lanes : List Lane} (distinct : (lanes.map Lane.key).Nodup) :
    groupTrials (lanes.flatMap (laneResults adapters timeoutMs)) =
      lanes.map (laneTrial adapters timeoutMs) := by
  let blocks := lanes.map fun lane => (lane.key, laneResults adapters timeoutMs lane)
  have keys : (blocks.map Prod.fst).Nodup := by
    rw [List.map_map]
    exact distinct
  have filled : ∀ block ∈ blocks,
      block.2 ≠ [] ∧ ∀ observation ∈ block.2, trialKey observation = block.1 := by
    intro block member
    obtain ⟨lane, _, rfl⟩ := List.mem_map.mp member
    exact ⟨laneResults_ne_nil lane, fun observation present => laneResults_key present⟩
  have flat : blocks.flatMap Prod.snd = lanes.flatMap (laneResults adapters timeoutMs) := by
    rw [List.flatMap_map]
  rw [groupTrials, ← flat, Grouping.groupRows_blocks keys filled, List.filterMap_map]
  have each : (fun group => trialOf group.2) ∘
      (fun lane : Lane => (lane.key, laneResults adapters timeoutMs lane)) =
        fun lane => some (laneTrial adapters timeoutMs lane) :=
    funext trialOf_laneResults
  rw [each, List.filterMap_eq_map']

end Lanes

theorem modeOrder_nodup (repetitionIndex : Nat) :
    ((modeOrder repetitionIndex).zipIdx.map Prod.fst).Nodup := by
  have small : repetitionIndex % 3 < 3 := Nat.mod_lt _ (by decide)
  have each : ∀ index < 3,
      ((samplePlan.modeOrderRotation.getD index []).zipIdx.map Prod.fst).Nodup := by decide
  exact each _ small

theorem plannedRuns_nodup : ((plannedRuns .full).map EvaluationRun.runId).Nodup := by
  have levels : ((concurrencyLevels .full).zipIdx.map Prod.fst).Nodup := by decide
  have scenarios : (evaluationScenarios.zipIdx.map
      fun scenario => scenario.1.scenarioId).Nodup := by decide
  unfold plannedRuns
  rw [List.map_flatMap]
  apply nodup_flatMap_tagged RunId.concurrency levels
  · intro load _
    rw [List.map_flatMap]
    have repetitions : ((List.range (warmupRepetitions .full + measuredRepetitions .full)).map
        fun repetitionIndex => repetitionIndex).Nodup := by
      rw [List.map_id']
      exact List.nodup_range
    apply nodup_flatMap_tagged RunId.repetitionIndex repetitions
    · intro repetitionIndex _
      rw [List.map_flatMap]
      apply nodup_flatMap_tagged RunId.modeId (modeOrder_nodup repetitionIndex)
      · intro mode _
        rw [List.map_map]
        apply List.Nodup.of_map RunId.scenarioId
        rw [List.map_map]
        exact scenarios
      · intro mode _ runId member
        rw [List.map_map] at member
        obtain ⟨scenario, _, rfl⟩ := List.mem_map.mp member
        rfl
    · intro repetitionIndex _ runId member
      obtain ⟨run, present, rfl⟩ := List.mem_map.mp member
      obtain ⟨mode, _, inner⟩ := List.mem_flatMap.mp present
      obtain ⟨scenario, _, rfl⟩ := List.mem_map.mp inner
      rfl
  · intro load _ runId member
    obtain ⟨run, present, rfl⟩ := List.mem_map.mp member
    obtain ⟨repetitionIndex, _, middle⟩ := List.mem_flatMap.mp present
    obtain ⟨mode, _, inner⟩ := List.mem_flatMap.mp middle
    obtain ⟨scenario, _, rfl⟩ := List.mem_map.mp inner
    rfl

theorem plannedLanes_nodup {runs : List EvaluationRun}
    (distinct : (runs.map EvaluationRun.runId).Nodup) :
    ((plannedLanes runs).map Lane.key).Nodup := by
  rw [plannedLanes, List.map_flatMap]
  apply nodup_flatMap_tagged (fun key : TrialKey => key.2.1) distinct
  · intro run _
    rw [List.map_map]
    apply List.Nodup.of_map fun key : TrialKey => key.2.2
    rw [List.map_map]
    have same : ((fun key : TrialKey => key.2.2) ∘ Lane.key ∘ fun laneIndex => (run, laneIndex)) =
        id := rfl
    rw [same, List.map_id]
    exact List.nodup_range
  · intro run _ key member
    rw [List.map_map] at member
    obtain ⟨laneIndex, _, rfl⟩ := List.mem_map.mp member
    rfl

/-- The number of lanes of some of the measured runs of a plan. -/
def plannedTrials (plan : WorkloadPlan) (chosen : EvaluationRun → Bool) : Nat :=
  ((plan.runs.filter fun run => run.sampleKind = .measured && chosen run).map
    EvaluationRun.concurrency).sum

theorem length_measuredLanes (plan : WorkloadPlan) (chosen : EvaluationRun → Bool) :
    ((measuredLanes plan).filter fun lane => chosen lane.1).length = plannedTrials plan chosen := by
  rw [measuredLanes, List.filter_filter, plannedLanes, filter_flatMap_constant
    (q := fun run => run.sampleKind = .measured && chosen run)]
  · rw [List.length_flatMap, plannedTrials]
    congr 1
    apply List.map_congr_left
    intro run _
    rw [List.length_map, List.length_range]
  · intro run _ lane member
    obtain ⟨laneIndex, _, rfl⟩ := List.mem_map.mp member
    exact Bool.and_comm _ _

/-- What the plan counts: its measured runs, and the trials of every scenario in every mode. -/
theorem plannedRuns_counts :
    ((plannedRuns .full).filter fun run => run.sampleKind = .measured).length =
        samplePlan.totalMeasuredScenarioRuns ∧
      ∀ modeId ∈ modeIds, ∀ scenario ∈ evaluationScenarios,
        (((plannedRuns .full).filter fun run => run.sampleKind = .measured &&
          (run.modeId = modeId && run.scenarioId = scenario.scenarioId)).map
            EvaluationRun.concurrency).sum = expectedPerScenarioMode := by
  decide +kernel

end TenantTrust.Evaluation
