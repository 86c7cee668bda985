import TenantTrust.Orchestration.ActionTriggers

/-! A revocation is authorized by two pieces of evidence that differ in source and in kind. -/

namespace TenantTrust.Orchestration

open Library Identity Trust

section Varied

variable {α β γ : Type} {entries : List α} {f : α → β} {g : α → γ}

/-- Entries that vary in two respects have a pair that differs in both. -/
theorem exists_pair_of_varied (sources : Varied f entries) (kinds : Varied g entries) :
    ∃ first ∈ entries, ∃ second ∈ entries, f first ≠ f second ∧ g first ≠ g second := by
  obtain ⟨first, member, second, other, sourcesDiffer⟩ := sources
  by_cases same : g first = g second
  · -- an entry of another kind than these two differs from one of them in source
    have stranger : ∃ third ∈ entries, g third ≠ g first := by
      obtain ⟨third, known, fourth, present, kindsDiffer⟩ := kinds
      by_cases alike : g third = g first
      · exact ⟨fourth, present, fun again => kindsDiffer (alike.trans again.symm)⟩
      · exact ⟨third, known, alike⟩
    obtain ⟨third, known, kindsDiffer⟩ := stranger
    by_cases shared : f third = f first
    · exact ⟨third, known, second, other, fun again => sourcesDiffer (shared.symm.trans again),
        fun again => kindsDiffer (again.trans same.symm)⟩
    · exact ⟨third, known, first, member, shared, kindsDiffer⟩
  · exact ⟨first, member, second, other, sourcesDiffer, same⟩

end Varied

/-- The source that an entry names, however it is passed. -/
def SevereEvidence.source (entry : SevereEvidence) : SourceId := entry.sourceId.read

/-- The kind is a string with an own entry in the table of actionable kinds. -/
def kindListed : Passed String → Bool
  | .plain text => text ∈ actionableSevereEvidence.map Prod.fst
  | .object _ _ => false

/-- The entry passes the checks of a single entry. -/
def TriggerInput.Accepts (input : TriggerInput) (entry : SevereEvidence) : Prop :=
  requireSevereEvidence input.target input.evaluatedAt entry = .ok ()

structure TriggerInput.Fresh (input : TriggerInput) (entry : SevereEvidence) : Prop where
  tenant : entry.tenantId = input.target.tenantId
  subject : entry.subjectId = input.target.subjectId
  past : entry.observedAt ≤ input.evaluatedAt
  recent : input.evaluatedAt ≤ entry.observedAt + seconds maximumAgeSeconds

theorem TriggerInput.Accepts.spec {input : TriggerInput} {entry : SevereEvidence}
    (accepted : input.Accepts entry) :
    input.Fresh entry ∧
      ∃ rule, readRule actionableSevereEvidence entry.kind.read = some rule := by
  simp only [TriggerInput.Accepts, requireSevereEvidence, Checked.bind_eq_ok,
    Checked.require_eq_ok, Checked.requireSome_eq_ok, exists_const] at accepted
  obtain ⟨⟨tenant, subject⟩, rule, found, _, past, recent⟩ := accepted
  exact ⟨⟨tenant, subject, past, recent⟩, rule, found⟩

theorem normalizeSevereEvidence_eq_ok {target : EvidenceTarget} {evaluatedAt : Timestamp}
    {evidence normalized : List SevereEvidence} :
    normalizeSevereEvidence target evaluatedAt evidence = .ok normalized ↔
      (∀ entry ∈ evidence, requireSevereEvidence target evaluatedAt entry = .ok ()) ∧
        (evidence.map SevereEvidence.evidenceId).Nodup ∧ evidence = normalized := by
  simp only [normalizeSevereEvidence, Checked.bind_eq_ok, Checked.require_eq_ok,
    Checked.pure_eq_ok, exists_const, Checked.forM_eq_ok]

/-- What an accepted input gave, and how its decision comes about. -/
theorem evaluateSecurityActionTriggers_eq_ok {input : TriggerInput} {result : TriggerResult} :
    evaluateSecurityActionTriggers input = .ok result ↔
      ∃ policyAction trustTransition,
        mapPolicyOutcomeToSecurityAction input.policyDecision = .ok policyAction ∧
        normalizeTrustTransition input.trustTransition = .ok trustTransition ∧
        (∀ entry ∈ input.severeEvidence, input.Accepts entry) ∧
        (input.severeEvidence.map SevereEvidence.evidenceId).Nodup ∧
        result = ⟨input.target,
          triggerDecision policyAction input.severeEvidence
            (corroborate trustTransition input.severeEvidence),
          corroborate trustTransition input.severeEvidence⟩ := by
  simp only [evaluateSecurityActionTriggers, Checked.bind_eq_ok, Checked.pure_eq_ok,
    normalizeSevereEvidence_eq_ok]
  constructor
  · rintro ⟨policyAction, mapped, trustTransition, normalized, _, ⟨passed, unique, rfl⟩, rfl⟩
    exact ⟨policyAction, trustTransition, mapped, normalized, passed, unique, rfl⟩
  · rintro ⟨policyAction, trustTransition, mapped, normalized, passed, unique, rfl⟩
    exact ⟨policyAction, mapped, trustTransition, normalized, _, ⟨passed, unique, rfl⟩, rfl⟩

theorem enoughSources_iff {evidence : List SevereEvidence} {trustTransition : TriggerTransition} :
    (corroborate trustTransition evidence).enoughSources = true ↔
      Varied SevereEvidence.sourceId evidence := by
  rw [← two_le_distinctValues_iff]
  simp only [corroborate, summarizeSevereEvidence, requiredDistinctSourcesForRevocation,
    length_sortPassed, decide_eq_true_eq]

theorem enoughKinds_iff {evidence : List SevereEvidence} {trustTransition : TriggerTransition} :
    (corroborate trustTransition evidence).enoughKinds = true ↔
      Varied SevereEvidence.kind evidence := by
  rw [← two_le_distinctValues_iff]
  simp only [corroborate, summarizeSevereEvidence, requiredDistinctKindsForRevocation,
    length_sortPassed, decide_eq_true_eq]

theorem mem_kinds {evidence : List SevereEvidence} {kind : Passed String} :
    kind ∈ (summarizeSevereEvidence evidence).kinds ↔ ∃ entry ∈ evidence, entry.kind = kind := by
  rw [summarizeSevereEvidence, mem_sortPassed, mem_distinctValues, List.mem_map]

theorem revocationAuthorized_iff {policyAction : Option SecurityActionType}
    {evidence : List SevereEvidence} {trustTransition : TriggerTransition} :
    (triggerDecision policyAction evidence
        (corroborate trustTransition evidence)).revocationAuthorized = true ↔
      Varied SevereEvidence.sourceId evidence ∧ Varied SevereEvidence.kind evidence ∧
        trustConfirmsSevereEvidence trustTransition (summarizeSevereEvidence evidence).kinds
          = true := by
  rw [← enoughSources_iff, ← enoughKinds_iff, ← and_assoc]
  unfold triggerDecision
  split
  case isTrue enough =>
    simp only [Bool.and_eq_true] at enough
    exact iff_of_true rfl enough
  case isFalse short =>
    simp only [Bool.and_eq_true] at short
    refine iff_of_false ?_ short
    split
    · exact Bool.false_ne_true
    · split <;> exact Bool.false_ne_true

section Confirmation

variable {value : TriggerTransitionValue} {transition : TriggerTransition}
  {kinds : List (Passed String)}

/-- The actionable table gives what the whole table gives. -/
theorem readRule_actionable {key : String} {rule : RuleValue}
    (found : readRule actionableSevereEvidence key = some rule) :
    criticalEvidenceRule key = some rule := by
  have filtered : ∀ entries : List (String × CriticalEvidenceRule),
      (entries.filter fun entry => entry.1 ≠ "certificate-revoked").lookup key =
        if key = "certificate-revoked" then none else entries.lookup key := by
    intro entries
    induction entries with
    | nil => exact (ite_self none).symm
    | cons entry rest ih =>
        obtain ⟨kind, first⟩ := entry
        rw [List.lookup_cons, List.filter_cons]
        by_cases terminal : kind = "certificate-revoked"
        · rw [if_neg (by simpa using terminal), ih, terminal]
          by_cases same : key = "certificate-revoked"
          · rw [if_pos same, if_pos same]
          · rw [if_neg same, if_neg same, beq_false_of_ne same]
        · rw [if_pos (by simpa using terminal), List.lookup_cons, ih]
          by_cases same : key = kind
          · have other : key ≠ "certificate-revoked" := same ▸ terminal
            rw [if_neg other, if_neg other]
          · rw [beq_false_of_ne same]
  unfold criticalEvidenceRule
  unfold readRule actionableSevereEvidence at found
  rw [filtered] at found
  by_cases terminal : key = "certificate-revoked"
  · rw [if_pos terminal, terminal] at found
    dsimp only at found
    rw [if_neg (by decide)] at found
    cases found
  · rwa [if_neg terminal] at found

/-- A kind that is not the name of an inherited property is listed. -/
theorem readRule_own {rules : List (String × CriticalEvidenceRule)} {key : String}
    {rule : CriticalEvidenceRule} (found : readRule rules key = some (.own rule)) :
    rules.lookup key = some rule := by
  unfold readRule at found
  split at found
  · rename_i known
    cases found
    exact known
  · split at found <;> cases found

/-- The override of an accepted transition has an own rule, which forces the low band. -/
theorem normalizeTrustTransition_override {override : CriticalOverrideValue}
    (normalized : normalizeTrustTransition value = .ok transition)
    (given : value.criticalOverride = some override) :
    ∃ rule, criticalEvidenceRule override.kind.read = some (.own rule) ∧
      transition.band = .low ∧ transition.transition = .criticalOverride ∧
      transition.score ≤ rule.scoreCeiling ∧
      transition.criticalOverride = some ⟨override.kind, override.componentId, .own rule⟩ := by
  simp only [normalizeTrustTransition, given, normalizeCriticalOverride, Checked.bind_eq_ok,
    Checked.requireSome_eq_ok, Checked.require_eq_ok, Checked.pure_eq_ok, exists_const]
    at normalized
  obtain ⟨score, _, _, _, ⟨read, found, _, rfl⟩, critical, consistent, rfl⟩ := normalized
  simp only [contradictoryBand, Bool.or_eq_false_iff, Option.any_some, decide_eq_false_iff_not,
    not_not] at consistent
  obtain ⟨_, forced, below⟩ := consistent
  cases read with
  | inherited => cases forced
  | own rule =>
      have low := (rule_bounds (mem_of_lookup (readRule_own found))).2.2
      rw [RuleValue.forcedBand, low, Option.some_inj] at forced
      refine ⟨rule, found, forced, critical.mpr rfl, ?_, rfl⟩
      simpa [exceeds, RuleValue.scoreCeiling] using below

theorem normalizeTrustTransition_absent
    (normalized : normalizeTrustTransition value = .ok transition)
    (absent : value.criticalOverride = none) : transition.criticalOverride = none := by
  simp only [normalizeTrustTransition, absent, normalizeCriticalOverride, Checked.bind_eq_ok,
    Checked.requireSome_eq_ok, Checked.require_eq_ok, Checked.pure_eq_ok, exists_const,
    Except.ok.injEq] at normalized
  obtain ⟨_, _, _, _, rfl, _, _, rfl⟩ := normalized
  rfl

/-- Trust confirms reported kinds exactly when its override is of one of them. -/
theorem trustConfirms_iff (normalized : normalizeTrustTransition value = .ok transition)
    (known : ∀ kind ∈ kinds, ∃ rule,
      readRule actionableSevereEvidence kind.read = some rule) :
    trustConfirmsSevereEvidence transition kinds = true ↔
      ∃ override, value.criticalOverride = some override ∧ override.kind ∈ kinds := by
  cases given : value.criticalOverride with
  | none =>
      rw [trustConfirmsSevereEvidence, normalizeTrustTransition_absent normalized given]
      simp
  | some override =>
      obtain ⟨rule, found, low, critical, below, same⟩ :=
        normalizeTrustTransition_override normalized given
      simp only [trustConfirmsSevereEvidence, low, critical, same, decide_true, Bool.true_and,
        Option.any_some, Bool.and_eq_true, decide_eq_true_eq, Option.some_inj, exists_eq_left']
      refine ⟨And.left, fun reported => ⟨reported, ?_⟩⟩
      obtain ⟨read, actionable⟩ := known override.kind reported
      have whole := readRule_actionable actionable
      rw [found, Option.some_inj] at whole
      rw [actionable, ← whole]
      simpa [RuleValue.scoreCeiling] using below

end Confirmation

/-- The kind of the override is among the reported kinds. -/
def TriggerInput.OverrideReported (input : TriggerInput) : Prop :=
  ∃ override, input.trustTransition.criticalOverride = some override ∧
    ∃ entry ∈ input.severeEvidence, entry.kind = override.kind

/-- The entries whose kind is listed. -/
def listedEvidence (evidence : List SevereEvidence) : List SevereEvidence :=
  evidence.filter fun entry => kindListed entry.kind

/-- Where all entries together pass two values as sources and two as kinds, the entries of a listed
kind name two sources and two kinds by themselves. -/
def TriggerInput.ListedSuffice (input : TriggerInput) : Prop :=
  input.OverrideReported →
  Varied SevereEvidence.sourceId input.severeEvidence →
  Varied SevereEvidence.kind input.severeEvidence →
    Varied SevereEvidence.source (listedEvidence input.severeEvidence) ∧
      Varied SevereEvidence.kind (listedEvidence input.severeEvidence)

/-- Two fresh entries of listed kinds bear each other out. -/
structure TriggerInput.Independent (input : TriggerInput) (first second : SevereEvidence) :
    Prop where
  reported : first ∈ input.severeEvidence ∧ second ∈ input.severeEvidence
  fresh : input.Fresh first ∧ input.Fresh second
  listed : kindListed first.kind = true ∧ kindListed second.kind = true
  sources : first.source ≠ second.source
  kinds : first.kind ≠ second.kind

/-- The transition is a low-band critical override of a reported kind. -/
structure TriggerInput.TrustConfirmed (input : TriggerInput) : Prop where
  low : input.trustTransition.band = .low
  critical : input.trustTransition.transition = .criticalOverride
  reported : input.OverrideReported

def TriggerInput.withEvidence (input : TriggerInput) (evidence : List SevereEvidence) :
    TriggerInput :=
  { input with severeEvidence := evidence }

structure CorroborationLaw (input : TriggerInput) (result : TriggerResult) : Prop where
  pair : result.decision.revocationAuthorized = true →
    ∃ first second, input.Independent first second
  confirmed : result.decision.revocationAuthorized = true → input.TrustConfirmed
  order : ∀ evidence, evidence.Perm input.severeEvidence →
    ∃ other, evaluateSecurityActionTriggers (input.withEvidence evidence) = .ok other ∧
      other.decision = result.decision
  kept : ∀ evidence other, input.severeEvidence ⊆ evidence →
    evaluateSecurityActionTriggers (input.withEvidence evidence) = .ok other →
    result.decision.revocationAuthorized = true → other.decision.revocationAuthorized = true
  silent : input.severeEvidence = [] → result.decision.revocationAuthorized = false

section Law

variable {input : TriggerInput} {result : TriggerResult}

/-- A revocation is authorized exactly when two sources, two kinds and the transition say so. -/
theorem authorized_iff (accepted : evaluateSecurityActionTriggers input = .ok result) :
    result.decision.revocationAuthorized = true ↔
      Varied SevereEvidence.sourceId input.severeEvidence ∧
        Varied SevereEvidence.kind input.severeEvidence ∧ input.OverrideReported := by
  obtain ⟨policyAction, transition, _, normalized, passed, _, rfl⟩ :=
    evaluateSecurityActionTriggers_eq_ok.mp accepted
  rw [revocationAuthorized_iff, trustConfirms_iff normalized]
  · simp only [mem_kinds, TriggerInput.OverrideReported]
  · intro kind reported
    obtain ⟨entry, member, rfl⟩ := mem_kinds.mp reported
    exact (passed entry member).spec.2

theorem trust_of_authorized (accepted : evaluateSecurityActionTriggers input = .ok result)
    (reported : input.OverrideReported) : input.TrustConfirmed := by
  obtain ⟨policyAction, transition, _, normalized, _, _, rfl⟩ :=
    evaluateSecurityActionTriggers_eq_ok.mp accepted
  obtain ⟨override, given, _⟩ := id reported
  obtain ⟨_, _, low, critical, _, _⟩ := normalizeTrustTransition_override normalized given
  simp only [normalizeTrustTransition, Checked.bind_eq_ok, Checked.pure_eq_ok] at normalized
  obtain ⟨_, _, _, _, _, _, _, _, _, _, rfl⟩ := normalized
  exact ⟨low, critical, reported⟩

/-- Whether evidence corroborates does not depend on its order. -/
theorem corroborate_of_perm {evidence again : List SevereEvidence} (same : again.Perm evidence)
    (transition : TriggerTransition) :
    (corroborate transition again).enoughSources
        = (corroborate transition evidence).enoughSources ∧
      (corroborate transition again).enoughKinds
        = (corroborate transition evidence).enoughKinds ∧
      (corroborate transition again).trustConfirmed
        = (corroborate transition evidence).trustConfirmed := by
  refine ⟨?_, ?_, ?_⟩
  · rw [Bool.eq_iff_iff, enoughSources_iff, enoughSources_iff]
    exact ⟨fun varied => varied.mono same.subset, fun varied => varied.mono same.symm.subset⟩
  · rw [Bool.eq_iff_iff, enoughKinds_iff, enoughKinds_iff]
    exact ⟨fun varied => varied.mono same.subset, fun varied => varied.mono same.symm.subset⟩
  · simp only [corroborate, trustConfirmsSevereEvidence, mem_kinds, same.mem_iff]

theorem decision_of_perm (accepted : evaluateSecurityActionTriggers input = .ok result)
    {evidence : List SevereEvidence} (same : evidence.Perm input.severeEvidence) :
    ∃ other, evaluateSecurityActionTriggers (input.withEvidence evidence) = .ok other ∧
      other.decision = result.decision := by
  obtain ⟨policyAction, transition, mapped, normalized, passed, unique, rfl⟩ :=
    evaluateSecurityActionTriggers_eq_ok.mp accepted
  obtain ⟨sources, kinds, trust⟩ := corroborate_of_perm same transition
  refine ⟨_, evaluateSecurityActionTriggers_eq_ok.mpr ⟨policyAction, transition, mapped,
    normalized, fun entry member => passed entry (same.mem_iff.mp member),
    (same.map _).nodup_iff.mpr unique, rfl⟩, ?_⟩
  simp only [triggerDecision, TriggerInput.withEvidence, sources, kinds, trust, same.length_eq]

theorem authorized_of_subset (accepted : evaluateSecurityActionTriggers input = .ok result)
    {evidence : List SevereEvidence} {other : TriggerResult}
    (more : input.severeEvidence ⊆ evidence)
    (again : evaluateSecurityActionTriggers (input.withEvidence evidence) = .ok other)
    (authorized : result.decision.revocationAuthorized = true) :
    other.decision.revocationAuthorized = true := by
  obtain ⟨sources, kinds, override, given, entry, member, same⟩ :=
    (authorized_iff accepted).mp authorized
  exact (authorized_iff again).mpr ⟨sources.mono more, kinds.mono more, override, given, entry,
    more member, same⟩

/-- A pair of listed kinds exists exactly when the listed entries vary in both respects. -/
theorem exists_independent_iff (accepted : evaluateSecurityActionTriggers input = .ok result) :
    (∃ first second, input.Independent first second) ↔
      Varied SevereEvidence.source (listedEvidence input.severeEvidence) ∧
        Varied SevereEvidence.kind (listedEvidence input.severeEvidence) := by
  obtain ⟨_, _, _, _, passed, _, _⟩ := evaluateSecurityActionTriggers_eq_ok.mp accepted
  constructor
  · rintro ⟨first, second, independent⟩
    have firstListed : first ∈ listedEvidence input.severeEvidence :=
      List.mem_filter.mpr ⟨independent.reported.1, independent.listed.1⟩
    have secondListed : second ∈ listedEvidence input.severeEvidence :=
      List.mem_filter.mpr ⟨independent.reported.2, independent.listed.2⟩
    exact ⟨⟨first, firstListed, second, secondListed, independent.sources⟩,
      ⟨first, firstListed, second, secondListed, independent.kinds⟩⟩
  · rintro ⟨sources, kinds⟩
    obtain ⟨first, member, second, other, sourcesDiffer, kindsDiffer⟩ :=
      exists_pair_of_varied sources kinds
    obtain ⟨firstReported, firstListed⟩ := List.mem_filter.mp member
    obtain ⟨secondReported, secondListed⟩ := List.mem_filter.mp other
    exact ⟨first, second, ⟨firstReported, secondReported⟩,
      ⟨(passed first firstReported).spec.1, (passed second secondReported).spec.1⟩,
      ⟨firstListed, secondListed⟩, sourcesDiffer, kindsDiffer⟩

/-- A revocation has two independent pieces of evidence exactly when entries of unlisted kinds
are not needed to reach two sources and two kinds. -/
theorem revocation_corroborated (accepted : evaluateSecurityActionTriggers input = .ok result) :
    CorroborationLaw input result ↔ input.ListedSuffice := by
  constructor
  · intro law reported sources kinds
    have authorized := (authorized_iff accepted).mpr ⟨sources, kinds, reported⟩
    exact (exists_independent_iff accepted).mp (law.pair authorized)
  · intro enough
    refine ⟨?_, ?_, fun _ same => decision_of_perm accepted same,
      fun _ _ more again => authorized_of_subset accepted more again, ?_⟩
    · intro authorized
      obtain ⟨sources, kinds, reported⟩ := (authorized_iff accepted).mp authorized
      exact (exists_independent_iff accepted).mpr (enough reported sources kinds)
    · intro authorized
      exact trust_of_authorized accepted ((authorized_iff accepted).mp authorized).2.2
    · intro silent
      rw [Bool.eq_false_iff]
      intro authorized
      obtain ⟨⟨_, member, _⟩, _⟩ := (authorized_iff accepted).mp authorized
      rw [silent] at member
      exact absurd member List.not_mem_nil

end Law

namespace TriggerScenario

def finding (n : Nat) (sourceId : Passed SourceId) (kind : Passed String) (componentId : String) :
    SevereEvidence where
  evidenceId := .plain ⟨n⟩
  sourceId := sourceId
  tenantId := ⟨1⟩
  subjectId := ⟨1⟩
  kind := kind
  componentId := some componentId
  observedAt := seconds 100

def input (evidence : List SevereEvidence) : TriggerInput where
  target := ⟨⟨1⟩, ⟨1⟩⟩
  policyDecision := ⟨.deny, none⟩
  trustTransition :=
    ⟨some 12, .low, .criticalOverride, some ⟨.plain "device-compromised", some "device"⟩⟩
  severeEvidence := evidence
  evaluatedAt := seconds 160

def twoFindings : List SevereEvidence :=
  [finding 1 (.plain ⟨1⟩) (.plain "device-compromised") "device",
    finding 2 (.plain ⟨2⟩) (.plain "identity-compromised") "identity"]

/-- The same finding twice, once as a string and once as an array of that string. -/
def oneFinding : List SevereEvidence :=
  [finding 1 (.plain ⟨1⟩) (.plain "device-compromised") "device",
    finding 2 (.plain ⟨2⟩) (.object 1 "device-compromised") "device"]

/-- Two findings of one source, which the second passes as an array. -/
def oneSource : List SevereEvidence :=
  [finding 1 (.plain ⟨1⟩) (.plain "device-compromised") "device",
    finding 2 (.object 1 ⟨1⟩) (.plain "identity-compromised") "identity"]

def authorizes (evidence : List SevereEvidence) : Except String Bool :=
  (evaluateSecurityActionTriggers (input evidence)).map fun result =>
    result.decision.revocationAuthorized

theorem evaluated : authorizes twoFindings = .ok true ∧ authorizes oneFinding = .ok true ∧
    authorizes oneSource = .ok true ∧
    (∀ entry ∈ oneFinding, kindListed entry.kind = true →
      entry.kind = .plain "device-compromised") ∧
    ∀ entry ∈ oneSource, entry.source = ⟨1⟩ := by
  decide +kernel

end TriggerScenario

theorem revocation_corroborated_by_two : ∃ result,
    evaluateSecurityActionTriggers (TriggerScenario.input TriggerScenario.twoFindings)
      = .ok result ∧
    result.decision.revocationAuthorized = true ∧
    CorroborationLaw (TriggerScenario.input TriggerScenario.twoFindings) result := by
  obtain ⟨result, accepted, authorized⟩ := Checked.map_eq_ok.mp TriggerScenario.evaluated.1
  refine ⟨result, accepted, authorized, (revocation_corroborated accepted).mpr ?_⟩
  intro _ sources kinds
  exact ⟨sources.read (by decide), kinds⟩

/-- One finding of two sources authorizes a revocation, and so do two findings of one source. -/
theorem passed_object_authorizes : ¬ (∀ (input : TriggerInput) (result : TriggerResult),
      evaluateSecurityActionTriggers input = .ok result → CorroborationLaw input result) ∧
    ¬ ∀ (input : TriggerInput) (result : TriggerResult),
      (∀ entry ∈ input.severeEvidence, kindListed entry.kind = true) →
      evaluateSecurityActionTriggers input = .ok result → CorroborationLaw input result := by
  obtain ⟨_, finding, source, onlyKind, onlySource⟩ := TriggerScenario.evaluated
  constructor
  · intro law
    obtain ⟨result, accepted, authorized⟩ := Checked.map_eq_ok.mp finding
    obtain ⟨first, second, independent⟩ := (law _ result accepted).pair authorized
    exact independent.kinds
      ((onlyKind first independent.reported.1 independent.listed.1).trans
        (onlyKind second independent.reported.2 independent.listed.2).symm)
  · intro law
    obtain ⟨result, accepted, authorized⟩ := Checked.map_eq_ok.mp source
    obtain ⟨first, second, independent⟩ := (law _ result (by decide) accepted).pair authorized
    exact independent.sources ((onlySource first independent.reported.1).trans
      (onlySource second independent.reported.2).symm)

end TenantTrust.Orchestration
