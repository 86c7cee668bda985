import TenantTrust.Evaluation.LaneTrials

/-! What the published rates count, for any behaviour of the adapters. -/

namespace TenantTrust.Evaluation

open Library

/-- The scenarios whose trials `EVALUATION_METRICS` puts in the denominator of a rate. -/
def RateId.registered (rate : RateId) (scenario : Scenario) : Bool :=
  match rate with
  | .attackDetection =>
      scenario.trafficClass = .attack && scenario.groundTruth.requiredControls ≠ []
  | .falseRestriction =>
      scenario.trafficClass = .benign && scenario.groundTruth.accessTruth = .legitimateAllow
  | .tenantIsolation =>
      scenario.scenarioId = .crossTenantAccess || scenario.scenarioId = .evidenceFlooding
  | .replayRejection => scenario.scenarioId = .certificateAndEvidenceReplay
  | .auditModificationDetection => scenario.scenarioId = .offChainAuditRecordModification
  | .ledgerVerification => scenario.scenarioId = .fabricOutageAndRecovery

section Answers

variable (adapters : ModeId → Adapter) (timeoutMs : Nat)

/-- The valid answer to a step that came in time. -/
def acceptedResult (lane : Lane) (stepIndex : Nat) : Option StepResult :=
  match executeWithTimeout timeoutMs (adapters lane.1.modeId lane.1 lane.2 stepIndex) with
  | .value answer => (validateAdapterResult answer).toOption
  | _ => none

/-- Some step of the lane was answered under this status with this control. -/
def Reports (lane : Lane) (status : StepStatus) (control : String) : Prop :=
  ∃ stepIndex < (scenarioSteps lane.1.scenarioId).length, ∃ result,
    acceptedResult adapters timeoutMs lane stepIndex = some result ∧ result.status = status ∧
    control ∈ result.controlsObserved

/-- Some authorization of the lane was answered with one of the restricting outcomes. -/
def Restricts (lane : Lane) : Prop :=
  ∃ stepIndex step result, (scenarioSteps lane.1.scenarioId)[stepIndex]? = some step ∧
    step.operation = .authorize ∧ acceptedResult adapters timeoutMs lane stepIndex = some result ∧
    result.observedOutcome ∈
      (scenarioOf lane.1.scenarioId).groundTruth.expectedAuthorizationOutcomes

/-- The adapter declares a required control only in answers that say that it does not support
the step, and it does everything else that the scenario demands. -/
structure OwedToUnsupported (lane : Lane) : Prop where
  restricts : (scenarioOf lane.1.scenarioId).groundTruth.accessTruth = .unauthorizedRestrict →
    Restricts adapters timeoutMs lane
  declared : ∀ control ∈ (scenarioOf lane.1.scenarioId).groundTruth.requiredControls,
    Reports adapters timeoutMs lane .completed control ∨
      Reports adapters timeoutMs lane .unsupported control
  owed : ∃ control ∈ (scenarioOf lane.1.scenarioId).groundTruth.requiredControls,
    ¬ Reports adapters timeoutMs lane .completed control

/-- A required control was observed in a completed step. -/
def Supported (lane : Lane) (control : String) : Prop :=
  ∃ observation ∈ laneResults adapters timeoutMs lane,
    observation.status = .completed ∧ control ∈ observation.controlsObserved

end Answers

section Steps

variable {adapters : ModeId → Adapter} {timeoutMs : Nat}

theorem adapterStatus?_spec {text : String} {status : StepStatus}
    (known : adapterStatus? text = some status) : status = .completed ∨ status = .unsupported := by
  unfold adapterStatus? at known
  split at known
  · cases known
    exact .inl rfl
  · cases known
    exact .inr rfl
  · cases known

theorem validateAdapterResult_spec {answer : Option AdapterAnswer} {result : StepResult}
    (valid : validateAdapterResult answer = .ok result) :
    (result.status = .completed ∨ result.status = .unsupported) ∧
      (result.status = .unsupported → result.observedOutcome = .unsupported) := by
  simp only [validateAdapterResult, Checked.bind_eq_ok, Checked.requireSome_eq_ok,
    Checked.require_eq_ok, Checked.pure_eq_ok, exists_const] at valid
  obtain ⟨_, _, status, known, outcome, _, _, _, _, consistent, _, _, rfl⟩ := valid
  exact ⟨adapterStatus?_spec known, consistent⟩

variable (adapters timeoutMs) in
/-- A step without an accepted answer is recorded as a failure without controls. -/
theorem stepResult_cases (lane : Lane) (stepIndex : Nat) :
    (∃ result, acceptedResult adapters timeoutMs lane stepIndex = some result ∧
      stepResult (executeWithTimeout timeoutMs
        (adapters lane.1.modeId lane.1 lane.2 stepIndex)) = result ∧
      (result.status = .completed ∨ result.status = .unsupported) ∧
      (result.status = .unsupported → result.observedOutcome = .unsupported)) ∨
    (acceptedResult adapters timeoutMs lane stepIndex = none ∧ ∃ result,
      stepResult (executeWithTimeout timeoutMs
        (adapters lane.1.modeId lane.1 lane.2 stepIndex)) = result ∧
      (result.status = .timeout ∨ result.status = .error) ∧
      (result.observedOutcome = .timeout ∨ result.observedOutcome = .error) ∧
      result.controlsObserved = []) := by
  unfold acceptedResult
  cases executeWithTimeout timeoutMs (adapters lane.1.modeId lane.1 lane.2 stepIndex) with
  | timeout => exact .inr ⟨rfl, _, rfl, .inl rfl, .inl rfl, rfl⟩
  | error => exact .inr ⟨rfl, _, rfl, .inr rfl, .inr rfl, rfl⟩
  | value answer =>
      cases valid : validateAdapterResult answer with
      | ok result =>
          obtain ⟨status, outcome⟩ := validateAdapterResult_spec valid
          refine .inl ⟨result, ?_, ?_, status, outcome⟩
          · simp only [valid, Except.toOption]
          · simp only [stepResult, valid]
      | error failure =>
          refine .inr ⟨?_, failureResult .error .error "INVALID_ADAPTER_RESULT", ?_, .inr rfl,
            .inr rfl, rfl⟩
          · simp only [valid, Except.toOption]
          · simp only [stepResult, valid]

theorem mem_sortedControls {control : String} {controls : List String} :
    control ∈ sortedControls controls ↔ control ∈ controls := by
  rw [sortedControls, List.mem_mergeSort, List.mem_dedup]

/-- A control that was observed was declared by an accepted answer under the same status. -/
theorem observed_iff_reports {lane : Lane} {status : StepStatus} {control : String} :
    (∃ observation ∈ laneResults adapters timeoutMs lane, observation.status = status ∧
      control ∈ observation.controlsObserved) ↔ Reports adapters timeoutMs lane status control := by
  constructor
  · intro observed
    obtain ⟨observation, member, same, declared⟩ := observed
    obtain ⟨step, stepIndex, present, rfl⟩ := mem_laneResults.mp member
    have declared := mem_sortedControls.mp declared
    have small := (List.getElem?_eq_some_iff.mp present).1
    obtain ⟨result, accepted, recorded, _⟩ | ⟨_, result, recorded, _, _, empty⟩ :=
      stepResult_cases adapters timeoutMs lane stepIndex
    · change (stepResult _).status = status at same
      rw [recorded] at same declared
      exact ⟨stepIndex, small, result, accepted, same, declared⟩
    · rw [recorded, empty] at declared
      cases declared
  · intro reports
    obtain ⟨stepIndex, small, result, accepted, same, declared⟩ := reports
    obtain ⟨other, otherAccepted, recorded, _⟩ | ⟨missing, _⟩ :=
      stepResult_cases adapters timeoutMs lane stepIndex
    · rw [accepted, Option.some.injEq] at otherAccepted
      refine ⟨_, mem_laneResults.mpr ⟨_, stepIndex, List.getElem?_eq_getElem small, rfl⟩, ?_, ?_⟩
      · change (stepResult _).status = status
        rw [recorded, ← otherAccepted, same]
      · apply mem_sortedControls.mpr
        rw [recorded, ← otherAccepted]
        exact declared
    · rw [accepted] at missing
      cases missing

theorem observation_status {lane : Lane} {observation : Observation}
    (member : observation ∈ laneResults adapters timeoutMs lane) {control : String}
    (declared : control ∈ observation.controlsObserved) :
    observation.status = .completed ∨ observation.status = .unsupported := by
  obtain ⟨step, stepIndex, _, rfl⟩ := mem_laneResults.mp member
  have declared := mem_sortedControls.mp declared
  obtain ⟨result, _, recorded, status, _⟩ | ⟨_, result, recorded, _, _, empty⟩ :=
    stepResult_cases adapters timeoutMs lane stepIndex
  · change (stepResult _).status = _ ∨ (stepResult _).status = _
    rw [recorded]
    exact status
  · rw [recorded, empty] at declared
    cases declared

theorem controlsSatisfied_iff (lane : Lane) :
    controlsSatisfied (scenarioOf lane.1.scenarioId) (laneResults adapters timeoutMs lane) = true ↔
      ∀ control ∈ (scenarioOf lane.1.scenarioId).groundTruth.requiredControls,
        Reports adapters timeoutMs lane .completed control ∨
          Reports adapters timeoutMs lane .unsupported control := by
  simp only [controlsSatisfied, List.all_eq_true, List.contains_iff_mem, List.mem_flatMap]
  apply forall₂_congr
  intro control _
  constructor
  · intro observed
    obtain ⟨observation, member, declared⟩ := observed
    obtain completed | unsupported := observation_status member declared
    · exact .inl (observed_iff_reports.mp ⟨observation, member, completed, declared⟩)
    · exact .inr (observed_iff_reports.mp ⟨observation, member, unsupported, declared⟩)
  · intro reports
    obtain completed | unsupported := reports
    · obtain ⟨observation, member, _, declared⟩ := observed_iff_reports.mpr completed
      exact ⟨observation, member, declared⟩
    · obtain ⟨observation, member, _, declared⟩ := observed_iff_reports.mpr unsupported
      exact ⟨observation, member, declared⟩

/-- No scenario expects its authorization to fail. -/
theorem expectedOutcomes_closed (scenarioId : ScenarioId) :
    ObservedOutcome.timeout ∉
        (scenarioOf scenarioId).groundTruth.expectedAuthorizationOutcomes ∧
      ObservedOutcome.error ∉
        (scenarioOf scenarioId).groundTruth.expectedAuthorizationOutcomes := by
  cases scenarioId <;> decide

theorem outcomeSatisfied_iff (lane : Lane) :
    outcomeSatisfied (scenarioOf lane.1.scenarioId) (laneResults adapters timeoutMs lane) = true ↔
      ((scenarioOf lane.1.scenarioId).groundTruth.accessTruth = .unauthorizedRestrict →
        Restricts adapters timeoutMs lane) := by
  simp only [outcomeSatisfied, Bool.or_eq_true, decide_eq_true_eq, List.any_eq_true,
    Bool.and_eq_true, List.contains_iff_mem, imp_iff_not_or, ne_eq]
  apply or_congr_right
  constructor
  · intro restricted
    obtain ⟨observation, member, authorize, expected⟩ := restricted
    obtain ⟨step, stepIndex, present, rfl⟩ := mem_laneResults.mp member
    obtain ⟨result, accepted, recorded, _⟩ | ⟨_, result, recorded, _, failed, _⟩ :=
      stepResult_cases adapters timeoutMs lane stepIndex
    · change (stepResult _).observedOutcome ∈ _ at expected
      rw [recorded] at expected
      exact ⟨stepIndex, step, result, present, authorize, accepted, expected⟩
    · change (stepResult _).observedOutcome ∈ _ at expected
      rw [recorded] at expected
      have closed := expectedOutcomes_closed lane.1.scenarioId
      obtain timeout | error := failed
      · rw [timeout] at expected
        exact absurd expected closed.1
      · rw [error] at expected
        exact absurd expected closed.2
  · intro restricts
    obtain ⟨stepIndex, step, result, present, authorize, accepted, expected⟩ := restricts
    obtain ⟨other, otherAccepted, recorded, _⟩ | ⟨missing, _⟩ :=
      stepResult_cases adapters timeoutMs lane stepIndex
    · rw [accepted, Option.some.injEq] at otherAccepted
      refine ⟨_, mem_laneResults.mpr ⟨step, stepIndex, present, rfl⟩, authorize, ?_⟩
      change (stepResult _).observedOutcome ∈ _
      rw [recorded, ← otherAccepted]
      exact expected
    · rw [accepted] at missing
      cases missing

/-- A successful trial rests on completed steps unless it is owed to an unsupported one. -/
theorem successful_supported_iff (lane : Lane) :
    ((laneTrial adapters timeoutMs lane).successful = true →
      ∀ control ∈ (scenarioOf lane.1.scenarioId).groundTruth.requiredControls,
        Supported adapters timeoutMs lane control) ↔
      ¬ OwedToUnsupported adapters timeoutMs lane := by
  have successful : (laneTrial adapters timeoutMs lane).successful = true ↔
      (∀ control ∈ (scenarioOf lane.1.scenarioId).groundTruth.requiredControls,
        Reports adapters timeoutMs lane .completed control ∨
          Reports adapters timeoutMs lane .unsupported control) ∧
      ((scenarioOf lane.1.scenarioId).groundTruth.accessTruth = .unauthorizedRestrict →
        Restricts adapters timeoutMs lane) := by
    rw [← controlsSatisfied_iff, ← outcomeSatisfied_iff]
    exact Bool.and_eq_true _ _ ▸ Iff.rfl
  constructor
  · intro sound owed
    obtain ⟨control, required, missing⟩ := owed.owed
    have supported := sound (successful.mpr ⟨owed.declared, owed.restricts⟩) control required
    exact missing (observed_iff_reports.mp supported)
  · intro owes passed control required
    obtain ⟨declared, restricts⟩ := successful.mp passed
    by_contra unsupported
    apply owes
    refine ⟨restricts, declared, control, required, ?_⟩
    intro reported
    exact unsupported (observed_iff_reports.mpr reported)

/-- An authorization that did not complete with an allowance was recorded with another
outcome. -/
theorem falselyRestricted_iff (lane : Lane) :
    falselyRestricted (laneTrial adapters timeoutMs lane) = true ↔
      ∃ observation ∈ laneResults adapters timeoutMs lane, observation.operation = .authorize ∧
        ¬ (observation.status = .completed ∧ observation.observedOutcome = .allow) := by
  simp only [falselyRestricted, List.any_eq_true, Bool.and_eq_true, decide_eq_true_eq, ne_eq]
  constructor
  · intro restricted
    obtain ⟨observation, member, authorize, other⟩ := restricted
    exact ⟨observation, member, authorize, fun allowed => other allowed.2⟩
  · intro restricted
    obtain ⟨observation, member, authorize, other⟩ := restricted
    refine ⟨observation, member, authorize, ?_⟩
    intro allowed
    apply other
    refine ⟨?_, allowed⟩
    obtain ⟨step, stepIndex, _, rfl⟩ := mem_laneResults.mp member
    change (stepResult _).observedOutcome = _ at allowed
    change (stepResult _).status = _
    obtain ⟨result, _, recorded, status, consistent⟩ | ⟨_, result, recorded, _, failed, _⟩ :=
      stepResult_cases adapters timeoutMs lane stepIndex
    · rw [recorded] at allowed ⊢
      obtain completed | unsupported := status
      · exact completed
      · rw [consistent unsupported] at allowed
        cases allowed
    · rw [recorded] at allowed
      rw [allowed] at failed
      obtain timeout | error := failed
      · cases timeout
      · cases error

end Steps

section Reports

variable {plan : WorkloadPlan} {adapters : ModeId → Adapter} {timeoutMs : Nat}

/-- The measured lanes of one mode that a rate is over. -/
def rateLanes (plan : WorkloadPlan) (modeId : ModeId) (rate : RateId) : List Lane :=
  (measuredLanes plan).filter fun lane =>
    lane.1.modeId = modeId && rate.registered (scenarioOf lane.1.scenarioId)

def revocationLanes (plan : WorkloadPlan) (modeId : ModeId) : List Lane :=
  (measuredLanes plan).filter fun lane =>
    lane.1.modeId = modeId && lane.1.scenarioId = .corroboratedRevocationEnforcement

/-- A full plan, as the report expects it. -/
structure FullPlan (plan : WorkloadPlan) : Prop where
  eligible : plan.resultEligibility = .protocolEvaluation
  runs : plan.runs = plannedRuns .full

theorem createEvaluationWorkloadPlan_full {configurationHash : String}
    (planned : createEvaluationWorkloadPlan configurationHash .full = .ok plan) :
    FullPlan plan := by
  simp only [createEvaluationWorkloadPlan, Checked.bind_eq_ok, Checked.require_eq_ok,
    Checked.pure_eq_ok, exists_const] at planned
  obtain ⟨_, _, rfl⟩ := planned
  exact ⟨rfl, rfl⟩

theorem selects_laneTrial (rate : RateId) (lane : Lane) :
    rate.selects (laneTrial adapters timeoutMs lane) =
      rate.registered (scenarioOf lane.1.scenarioId) := by
  obtain ⟨run, laneIndex⟩ := lane
  unfold laneTrial
  cases rate <;> cases run.scenarioId <;> rfl

theorem length_modeLanes (full : FullPlan plan) {modeId : ModeId} {scenario : Scenario}
    (registered : scenario ∈ evaluationScenarios) :
    ((measuredLanes plan).filter fun lane =>
      lane.1.modeId = modeId && lane.1.scenarioId = scenario.scenarioId).length =
        expectedPerScenarioMode := by
  have known : modeId ∈ modeIds := by cases modeId <;> decide
  have counted := plannedRuns_counts.2 modeId known scenario registered
  rw [← full.runs] at counted
  rw [← counted]
  exact length_measuredLanes plan fun run =>
    run.modeId = modeId && run.scenarioId = scenario.scenarioId

theorem length_modeTrials (full : FullPlan plan) (modeId : ModeId) {scenario : Scenario}
    (registered : scenario ∈ evaluationScenarios) :
    (((measuredLanes plan).map (laneTrial adapters timeoutMs)).filter fun trial =>
      trial.modeId = modeId && trial.scenarioId = scenario.scenarioId).length =
        expectedPerScenarioMode := by
  rw [List.filter_map, List.length_map]
  exact length_modeLanes full registered

theorem mem_trialModes (full : FullPlan plan) (modeId : ModeId) : modeId ∈
    (((measuredLanes plan).map (laneTrial adapters timeoutMs)).map Trial.modeId).dedup := by
  have first : scenarioOf .normalLegitimateAccess ∈ evaluationScenarios := by decide
  have positive : 0 < (((measuredLanes plan).map (laneTrial adapters timeoutMs)).filter fun trial =>
      trial.modeId = modeId &&
        trial.scenarioId = (scenarioOf .normalLegitimateAccess).scenarioId).length := by
    rw [length_modeTrials full modeId first]
    decide
  obtain ⟨trial, member⟩ := List.exists_mem_of_length_pos positive
  obtain ⟨trialMember, same⟩ := List.mem_filter.mp member
  rw [Bool.and_eq_true, decide_eq_true_eq] at same
  exact List.mem_dedup.mpr (List.mem_map.mpr ⟨trial, trialMember, same.1⟩)

/-- The lanes of a full plan cover every scenario in every mode. -/
theorem assertCompleteProtocolCoverage_lanes (full : FullPlan plan) :
    assertCompleteProtocolCoverage ((measuredLanes plan).map (laneTrial adapters timeoutMs)) =
      .ok () := by
  have all : ∀ modeId : ModeId, modeId ∈ modeIds := by
    intro modeId
    cases modeId <;> decide
  simp only [assertCompleteProtocolCoverage, Checked.bind_eq_ok, Checked.require_eq_ok,
    exists_const, Checked.forM_eq_ok]
  refine ⟨⟨?_, fun modeId _ => mem_trialModes full modeId⟩, fun modeId _ scenario member =>
    length_modeTrials full modeId member⟩
  apply List.Perm.length_eq
  apply (List.perm_ext_iff_of_nodup (List.nodup_dedup _) (by decide)).mpr
  intro modeId
  exact ⟨fun _ => all modeId, fun _ => mem_trialModes full modeId⟩

/-- What the report of a mode counts, in terms of the planned lanes. -/
structure ModeLaw (plan : WorkloadPlan) (adapters : ModeId → Adapter) (timeoutMs : Nat)
    (report : ModeReport) : Prop where
  denominator : ∀ rate, (report.rates rate).denominator = plannedTrials plan fun run =>
    run.modeId = report.modeId && rate.registered (scenarioOf run.scenarioId)
  numerator : ∀ rate, (report.rates rate).numerator =
    (rateLanes plan report.modeId rate).countP fun lane =>
      rate.success (laneTrial adapters timeoutMs lane)
  restricted : ∀ lane ∈ rateLanes plan report.modeId .falseRestriction,
    (∃ observation ∈ laneResults adapters timeoutMs lane, observation.operation = .authorize ∧
      ¬ (observation.status = .completed ∧ observation.observedOutcome = .allow)) →
    RateId.falseRestriction.success (laneTrial adapters timeoutMs lane) = true
  revocations : report.revocationEnforcementDelay.denominator = plannedTrials plan fun run =>
    run.modeId = report.modeId && run.scenarioId = .corroboratedRevocationEnforcement
  samples : report.revocationEnforcementDelay.successfulObservations =
    (revocationLanes plan report.modeId).countP fun lane =>
      (laneTrial adapters timeoutMs lane).delaySample?.isSome
  failures : report.revocationEnforcementDelay.unboundedFailures =
    (revocationLanes plan report.modeId).countP fun lane =>
      !(laneTrial adapters timeoutMs lane).delaySample?.isSome

theorem length_filterMap_countP {α β : Type} (f : α → Option β) (l : List α) :
    (l.filterMap f).length = l.countP fun x => (f x).isSome := by
  induction l with
  | nil => rfl
  | cons x rest ih =>
      rw [List.filterMap_cons, List.countP_cons]
      cases f x with
      | none => simpa using ih
      | some y => simpa using ih

theorem modeReport_law (plan : WorkloadPlan) (modeId : ModeId) :
    ModeLaw plan adapters timeoutMs
      (modeReport ((measuredLanes plan).map (laneTrial adapters timeoutMs)) modeId) := by
  have selected : ∀ rate : RateId,
      (((measuredLanes plan).map (laneTrial adapters timeoutMs)).filter
        fun trial => trial.modeId = modeId).filter rate.selects =
      (rateLanes plan modeId rate).map (laneTrial adapters timeoutMs) := by
    intro rate
    rw [List.filter_filter, List.filter_map, rateLanes]
    congr 2
    funext lane
    rw [Function.comp_apply, selects_laneTrial]
    exact Bool.and_comm _ _
  have revoked : (((measuredLanes plan).map (laneTrial adapters timeoutMs)).filter
        fun trial => trial.modeId = modeId).filter
          (fun trial => trial.scenarioId = .corroboratedRevocationEnforcement) =
      (revocationLanes plan modeId).map (laneTrial adapters timeoutMs) := by
    rw [List.filter_filter, List.filter_map, revocationLanes]
    congr 2
    funext lane
    exact Bool.and_comm _ _
  have delays : (delayMetric ((revocationLanes plan modeId).map
      (laneTrial adapters timeoutMs))).successfulObservations =
      (revocationLanes plan modeId).countP fun lane =>
        (laneTrial adapters timeoutMs lane).delaySample?.isSome := by
    change (((revocationLanes plan modeId).map (laneTrial adapters timeoutMs)).filterMap
      Trial.delaySample?).length = _
    rw [List.filterMap_map, length_filterMap_countP]
    rfl
  constructor
  · intro rate
    change ((((measuredLanes plan).map (laneTrial adapters timeoutMs)).filter
      fun trial => trial.modeId = modeId).filter rate.selects).length = _
    rw [selected, List.length_map]
    exact length_measuredLanes plan fun run =>
      run.modeId = modeId && rate.registered (scenarioOf run.scenarioId)
  · intro rate
    change ((((measuredLanes plan).map (laneTrial adapters timeoutMs)).filter
      fun trial => trial.modeId = modeId).filter rate.selects).countP rate.success = _
    rw [selected, List.countP_map]
    rfl
  · intro lane _ restricted
    exact (falselyRestricted_iff lane).mpr restricted
  · change (delayMetric _).denominator = _
    rw [revoked]
    change ((revocationLanes plan modeId).map (laneTrial adapters timeoutMs)).length = _
    rw [List.length_map]
    exact length_measuredLanes plan fun run =>
      run.modeId = modeId && run.scenarioId = .corroboratedRevocationEnforcement
  · change (delayMetric _).successfulObservations = _
    rw [revoked]
    exact delays
  · change (delayMetric _).unboundedFailures = _
    rw [revoked]
    have total := List.length_eq_countP_add_countP (fun lane =>
      (laneTrial adapters timeoutMs lane).delaySample?.isSome) (l := revocationLanes plan modeId)
    change ((revocationLanes plan modeId).map (laneTrial adapters timeoutMs)).length -
      (delayMetric ((revocationLanes plan modeId).map
        (laneTrial adapters timeoutMs))).successfulObservations = _
    rw [delays, List.length_map, total]
    rw [Nat.add_sub_cancel_left]
    apply List.countP_congr
    intro lane _
    simp only [decide_eq_true_eq, Bool.not_eq_true, Bool.not_eq_true']

/-- A rate other than that of false restrictions counts the successful trials. -/
theorem success_of_ne {rate : RateId} (other : rate ≠ .falseRestriction) :
    rate.success = Trial.successful := by
  cases rate <;> first | rfl | exact absurd rfl other

/-- The report of a full plan is made of the trials of its measured lanes. -/
theorem measureEffectivenessAndIsolation_lanes {result : WorkloadResult} (full : FullPlan plan)
    (ran : runEvaluationWorkload plan adapters timeoutMs = .ok result) :
    ∃ report, measureEffectivenessAndIsolation result = .ok report ∧
      ∃ reported : List ModeId, (∀ modeId, modeId ∈ reported) ∧ report.modes =
        reported.map (modeReport ((measuredLanes plan).map (laneTrial adapters timeoutMs))) := by
  simp only [runEvaluationWorkload, Checked.bind_eq_ok, Checked.require_eq_ok,
    Checked.pure_eq_ok, exists_const] at ran
  obtain ⟨_, rfl⟩ := ran
  have distinct : ((measuredLanes plan).map Lane.key).Nodup := by
    have lanes := plannedLanes_nodup plannedRuns_nodup
    rw [← full.runs] at lanes
    exact lanes.sublist (List.filter_sublist.map _)
  have trials : groupTrials ((plan.runs.flatMap (executeRun adapters timeoutMs)).filter
      fun observation => observation.sampleKind = .measured) =
        (measuredLanes plan).map (laneTrial adapters timeoutMs) := by
    rw [measured_observations]
    exact groupTrials_lanes distinct
  unfold measureEffectivenessAndIsolation
  rw [Checked.require_ok full.eligible]
  change ∃ report, (assertCompleteProtocolCoverage (groupTrials _) >>= _) = _ ∧ _
  rw [trials, assertCompleteProtocolCoverage_lanes full]
  refine ⟨_, rfl, _, ?_, rfl⟩
  intro modeId
  exact List.mem_mergeSort.mpr (mem_trialModes full modeId)

/-- For any behaviour of the adapters the report of a full plan succeeds and counts the planned
trials; its rates rest on completed steps exactly when no trial owes a required control to an
answer that declared the step unsupported. -/
theorem report_sound_iff {configurationHash : String} {result : WorkloadResult}
    (planned : createEvaluationWorkloadPlan configurationHash .full = .ok plan)
    (ran : runEvaluationWorkload plan adapters timeoutMs = .ok result) :
    (∃ report, measureEffectivenessAndIsolation result = .ok report ∧
      (∀ modeId, ∃ entry ∈ report.modes, entry.modeId = modeId) ∧
      ∀ entry ∈ report.modes, ModeLaw plan adapters timeoutMs entry) ∧
    ((∀ rate : RateId, rate ≠ .falseRestriction → ∀ lane ∈ measuredLanes plan,
        rate.registered (scenarioOf lane.1.scenarioId) = true →
        rate.success (laneTrial adapters timeoutMs lane) = true →
        ∀ control ∈ (scenarioOf lane.1.scenarioId).groundTruth.requiredControls,
          Supported adapters timeoutMs lane control) ↔
      ∀ rate : RateId, rate ≠ .falseRestriction → ∀ lane ∈ measuredLanes plan,
        rate.registered (scenarioOf lane.1.scenarioId) = true →
        ¬ OwedToUnsupported adapters timeoutMs lane) := by
  have full := createEvaluationWorkloadPlan_full planned
  constructor
  · obtain ⟨report, measured, reported, all, modes⟩ :=
      measureEffectivenessAndIsolation_lanes full ran
    refine ⟨report, measured, ?_, ?_⟩
    · intro modeId
      rw [modes]
      exact ⟨_, List.mem_map.mpr ⟨modeId, all modeId, rfl⟩, rfl⟩
    · intro entry member
      rw [modes] at member
      obtain ⟨modeId, _, rfl⟩ := List.mem_map.mp member
      exact modeReport_law plan modeId
  · apply forall_congr'
    intro rate
    apply forall_congr'
    intro other
    apply forall₂_congr
    intro lane _
    apply forall_congr'
    intro _
    rw [success_of_ne other]
    exact successful_supported_iff lane

end Reports

namespace EvaluationScenario

def hash : String := "".pushn 'a' 64

def plan : WorkloadPlan := ⟨hash, .full, .protocolEvaluation, plannedRuns .full⟩

theorem planned : createEvaluationWorkloadPlan hash .full = .ok plan := by
  simp only [createEvaluationWorkloadPlan, Checked.bind_eq_ok, Checked.require_eq_ok,
    Checked.pure_eq_ok, exists_const]
  exact ⟨by decide +kernel, fun _ => plannedRuns_counts.1, rfl⟩

def resultOf (adapters : ModeId → Adapter) : WorkloadResult :=
  let observations := plan.runs.flatMap (executeRun adapters 1)
  ⟨hash, .full, .protocolEvaluation, plan.runs.length, plan.runs.length, observations.length,
    observations⟩

theorem ran (adapters : ModeId → Adapter) :
    runEvaluationWorkload plan adapters 1 = .ok (resultOf adapters) := rfl

/-- Adapters that never answer. -/
def silent (_ : ModeId) : Adapter := fun _ _ _ => .never

/-- An answer that declares both controls of the audit scenario and supports neither. -/
def boast : AdapterAnswer where
  status := "unsupported"
  observedOutcome := "unsupported"
  reasonCode := .plain "CONTROL_ABSENT"
  controlsObserved := some ["detect-audit-modification", "identify-causal-break"]
  measurements := .undefined

def boastful (_ : ModeId) : Adapter := fun _ _ _ => .resolves 0 (some boast)

def auditRun : EvaluationRun :=
  plannedRun .full (1, 0) 5 (.adaptiveTrustOpa, 0) (scenarioOf .offChainAuditRecordModification, 7)

theorem auditRun_planned : (auditRun, 0) ∈ measuredLanes plan := by
  apply List.mem_filter.mpr
  refine ⟨List.mem_flatMap.mpr ⟨auditRun, ?_, by decide⟩, by decide⟩
  refine List.mem_flatMap.mpr ⟨(1, 0), by decide, ?_⟩
  refine List.mem_flatMap.mpr ⟨5, by decide, ?_⟩
  refine List.mem_flatMap.mpr ⟨(.adaptiveTrustOpa, 0), by decide, ?_⟩
  exact List.mem_map.mpr
    ⟨(scenarioOf .offChainAuditRecordModification, 7), by decide, rfl⟩

theorem boast_accepted (stepIndex : Nat) :
    acceptedResult boastful 1 (auditRun, 0) stepIndex =
      some ⟨.unsupported, .unsupported, .plain "CONTROL_ABSENT",
        ["detect-audit-modification", "identify-causal-break"], []⟩ := by
  rfl

theorem boast_owed : OwedToUnsupported boastful 1 (auditRun, 0) where
  restricts := by
    intro unauthorized
    cases unauthorized
  declared := by
    intro control required
    exact .inr ⟨0, by decide, _, boast_accepted 0, rfl, required⟩
  owed := by
    refine ⟨"detect-audit-modification", List.mem_cons_self .., ?_⟩
    intro reported
    obtain ⟨stepIndex, _, result, accepted, completed, _⟩ := reported
    rw [boast_accepted stepIndex, Option.some.injEq] at accepted
    rw [← accepted] at completed
    cases completed

end EvaluationScenario

open EvaluationScenario in
/-- An adapter without support for the audit controls is credited with both of them. -/
theorem unsupported_credited :
    ¬ ∀ (configurationHash : String) (plan : WorkloadPlan) (adapters : ModeId → Adapter)
        (timeoutMs : Nat) (result : WorkloadResult),
      createEvaluationWorkloadPlan configurationHash .full = .ok plan →
      runEvaluationWorkload plan adapters timeoutMs = .ok result →
      ∀ rate : RateId, rate ≠ .falseRestriction → ∀ lane ∈ measuredLanes plan,
        rate.registered (scenarioOf lane.1.scenarioId) = true →
        rate.success (laneTrial adapters timeoutMs lane) = true →
        ∀ control ∈ (scenarioOf lane.1.scenarioId).groundTruth.requiredControls,
          Supported adapters timeoutMs lane control := by
  intro claim
  have sound := claim hash plan boastful 1 (resultOf boastful) planned (ran boastful)
    .auditModificationDetection (by decide) (auditRun, 0) auditRun_planned rfl
  exact (successful_supported_iff _).mp sound boast_owed

open EvaluationScenario in
/-- Adapters that never answer are credited with nothing. -/
theorem report_sound_silent :
    (∃ report, measureEffectivenessAndIsolation (resultOf silent) = .ok report ∧
      (∀ modeId, ∃ entry ∈ report.modes, entry.modeId = modeId) ∧
      ∀ entry ∈ report.modes, ModeLaw plan silent 1 entry) ∧
    ∀ rate : RateId, rate ≠ .falseRestriction → ∀ lane ∈ measuredLanes plan,
      rate.registered (scenarioOf lane.1.scenarioId) = true →
      rate.success (laneTrial silent 1 lane) = true →
      ∀ control ∈ (scenarioOf lane.1.scenarioId).groundTruth.requiredControls,
        Supported silent 1 lane control := by
  have report := report_sound_iff planned (ran silent)
  refine ⟨report.1, report.2.mpr ?_⟩
  intro rate _ lane _ _ owed
  obtain ⟨control, required, _⟩ := owed.owed
  obtain completed | unsupported := owed.declared control required
  · obtain ⟨_, _, _, accepted, _⟩ := completed
    cases accepted
  · obtain ⟨_, _, _, accepted, _⟩ := unsupported
    cases accepted

end TenantTrust.Evaluation
