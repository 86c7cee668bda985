import TenantTrust.Api.StepUpDemands
import TenantTrust.Policy.DecisionContract

/-! `decision.rego` on a configuration that the service accepts: the outcome is the one that the
configuration asks for. -/

namespace TenantTrust.Policy

open Library Identity Api Trust Orchestration

namespace ContractInput

structure Bound (input : ContractInput) : Prop where
  identityTenant : input.identity.tenantId = input.tenantContext.tenantId
  identitySubject : input.identity.subjectId = input.tenantContext.subjectId
  resourceTenant : input.resource.tenantId = input.tenantContext.tenantId
  trustTenant : input.trust.tenantId = input.tenantContext.tenantId
  trustSubject : input.trust.subjectId = input.tenantContext.subjectId

structure Authorized (context : TenantContextInput) : Prop where
  tenant : context.tenantState = .active
  subject : context.subjectState = .active
  membership : context.membershipState = .active

/-- A fresh and usable score that agrees with the rest of its record. -/
structure Trusted (trust : TrustInput) : Prop where
  fresh : trust.state = .fresh
  usable : trust.usableForPolicy = true
  unrestricted : trust.requiredOutcome = none
  score : trust.policyScore = trust.lastKnownScore
  band : trust.policyBand = trust.lastKnownBand
  recent : ∃ age limit, trust.ageSeconds = some age ∧ trust.staleAfterSeconds = some limit ∧
    age ≤ limit

/-- The binding, identity, authority and trust conditions, with the certificate judged by its
state and the source of its status. -/
structure Standing (input : ContractInput) : Prop where
  bound : input.Bound
  active : input.identity.certificateState = .active
  authoritative : input.identity.statusSource = .authoritative
  authorized : Authorized input.tenantContext
  trusted : Trusted input.trust

/-- A proof of the requested action by the actor, verified recently enough. -/
structure Proven (parse : String → Option ℤ) (maximumAgeSeconds : ℚ)
    (input : ContractInput) : Prop where
  status : input.requestContext.stepUp.status = .valid
  tenant : input.requestContext.stepUp.tenantId = some input.tenantContext.tenantId
  subject : input.requestContext.stepUp.subjectId = some input.tenantContext.subjectId
  action : input.requestContext.stepUp.action = some input.action
  proofId : input.requestContext.stepUp.proofIdHashSha256.isSome
  session : input.requestContext.stepUp.sessionIdHashSha256.isSome
  recent : ∃ verifiedAt expiresAt requestedAt : ℤ,
    input.requestContext.stepUp.verifiedAt.bind parse = some verifiedAt ∧
    input.requestContext.stepUp.expiresAt.bind parse = some expiresAt ∧
    parse input.requestContext.requestedAt = some requestedAt ∧
    verifiedAt ≤ requestedAt ∧ requestedAt ≤ expiresAt ∧
    (requestedAt - verifiedAt : ℚ) ≤ maximumAgeSeconds * 1000000000

structure Grants (parse : String → Option ℤ) (configuration : PolicyConfiguration)
    (rule : ActionRule) (input : ContractInput) : Prop where
  sensitivity : rule.sensitivity = input.resource.sensitivity
  role : ∃ role ∈ input.tenantContext.roles, role ∈ rule.roles
  score : ∃ score, input.trust.policyScore = some score ∧ rule.minimumScore ≤ score
  stepUp : rule.stepUpRequired = true →
    input.Proven parse configuration.stepUpMaximumAgeSeconds

/-- The score is no cause for quarantine, and the rule of the action grants it. -/
structure Ruled (parse : String → Option ℤ) (configuration : PolicyConfiguration)
    (input : ContractInput) : Prop where
  score : ∃ score, input.trust.policyScore = some score ∧
    configuration.scoreBands.quarantineBelow ≤ score
  rule : ∃ rule ∈ configuration.actionRules, rule.action = input.action ∧
    input.Grants parse configuration rule

def Quarantined (configuration : PolicyConfiguration) (input : ContractInput) : Prop :=
  ∃ score, input.trust.policyScore = some score ∧ score < configuration.scoreBands.quarantineBelow

theorem bindingValid_iff (input : ContractInput) : input.bindingValid = true ↔ input.Bound := by
  simp only [bindingValid, Bool.and_eq_true, decide_eq_true_eq]
  constructor
  · intro ⟨⟨⟨⟨tenant, subject⟩, resource⟩, trustTenant⟩, trustSubject⟩
    exact ⟨tenant, subject, resource, trustTenant, trustSubject⟩
  · intro bound
    exact ⟨⟨⟨⟨bound.identityTenant, bound.identitySubject⟩, bound.resourceTenant⟩,
      bound.trustTenant⟩, bound.trustSubject⟩

theorem identityValid_iff (input : ContractInput) : input.identityValid = true ↔
    input.identity.valid = true ∧ input.identity.certificateState = .active ∧
      input.identity.statusSource = .authoritative := by
  simp only [identityValid, Bool.and_eq_true, decide_eq_true_eq, and_assoc]

theorem authorityActive_iff (input : ContractInput) :
    input.authorityActive = true ↔ Authorized input.tenantContext := by
  simp only [authorityActive, Bool.and_eq_true, decide_eq_true_eq]
  constructor
  · intro ⟨⟨tenant, subject⟩, membership⟩
    exact ⟨tenant, subject, membership⟩
  · intro authorized
    exact ⟨⟨authorized.tenant, authorized.subject⟩, authorized.membership⟩

/-- The trust states of the schema that are fresh have the numbers that the policy compares. -/
theorem TrustSchema.of_fresh {trust : TrustInput} (schema : TrustSchema trust)
    (fresh : trust.state = .fresh) :
    (∃ score, trust.policyScore = some score ∧ isScore score) ∧
      ∃ age limit, trust.ageSeconds = some age ∧ trust.staleAfterSeconds = some limit := by
  cases schema with
  | fresh _ _ _ _ policyScore _ _ _ age staleAfter _ =>
      have ⟨age, known, _⟩ := age
      have ⟨limit, bounded, _⟩ := staleAfter
      exact ⟨policyScore, age, limit, known, bounded⟩
  | stale state | missing state =>
      rw [state] at fresh
      cases fresh

theorem trustUsable_iff {input : ContractInput} (schema : TrustSchema input.trust) :
    input.trustUsable = true ↔ Trusted input.trust := by
  simp only [trustUsable, Bool.and_eq_true, decide_eq_true_eq, Bool.not_eq_true']
  constructor
  · intro ⟨⟨⟨⟨⟨fresh, usable⟩, unrestricted⟩, score⟩, band⟩, recent⟩
    have ⟨age, limit, known, bounded⟩ := (schema.of_fresh fresh).2
    rw [known, bounded] at recent
    have within : age ≤ limit := not_lt.mp (of_decide_eq_false recent)
    exact ⟨fresh, usable, unrestricted, score, band, age, limit, known, bounded, within⟩
  · intro trusted
    have ⟨age, limit, known, bounded, within⟩ := trusted.recent
    rw [known, bounded]
    exact ⟨⟨⟨⟨⟨trusted.fresh, trusted.usable⟩, trusted.unrestricted⟩, trusted.score⟩,
      trusted.band⟩, decide_eq_false (not_lt.mpr within)⟩

theorem stepUpProofValid_iff {parse : String → Option ℤ} {configuration : PolicyConfiguration}
    {rule : ActionRule} {input : ContractInput} (required : rule.stepUpRequired = true) :
    input.stepUpProofValid parse configuration rule = true ↔
      input.Proven parse configuration.stepUpMaximumAgeSeconds := by
  simp only [stepUpProofValid, Bool.and_eq_true, decide_eq_true_eq]
  constructor
  · rintro ⟨⟨⟨⟨⟨⟨⟨_, status⟩, tenant⟩, subject⟩, action⟩, proofId⟩, session⟩, recent⟩
    split at recent
    next verifiedAt expiresAt requestedAt verified expires requested =>
      simp only [Bool.and_eq_true, decide_eq_true_eq, and_assoc] at recent
      exact ⟨status, tenant, subject, action, proofId, session, verifiedAt, expiresAt,
        requestedAt, verified, expires, requested, recent⟩
    next => cases recent
  · intro proven
    obtain ⟨verifiedAt, expiresAt, requestedAt, verified, expires, requested, order⟩ :=
      proven.recent
    refine ⟨⟨⟨⟨⟨⟨⟨required, proven.status⟩, proven.tenant⟩, proven.subject⟩, proven.action⟩,
      proven.proofId⟩, proven.session⟩, ?_⟩
    rw [verified, expires, requested]
    simpa only [Bool.and_eq_true, decide_eq_true_eq, and_assoc] using order

theorem roleEligible_iff (rule : ActionRule) (input : ContractInput) :
    roleEligible rule input = true ↔ ∃ role ∈ input.tenantContext.roles, role ∈ rule.roles := by
  simp only [roleEligible, List.any_eq_true, decide_eq_true_eq]

/-- All accepted configurations of the tenant pass the policy's own check. -/
theorem configurationValid_of_accepted {configuration : PolicyConfiguration}
    {input : ContractInput} (accepted : configuration.Accepted input.tenantContext.tenantId) :
    configurationValid configuration input = true := by
  simp only [configurationValid, Bool.and_eq_true, decide_eq_true_eq]
  have bands := accepted.scoreBands
  exact ⟨⟨⟨⟨⟨⟨⟨⟨⟨⟨accepted.schemaVersion, accepted.calibrationStatus⟩, accepted.tenantId⟩,
    bands.positive⟩, bands.quarantine⟩, bands.restricted⟩, bands.conditional⟩, bands.maximum⟩,
    accepted.stepUpMaximumAge.1⟩, accepted.stepUpMaximumAge.2⟩, accepted.quarantineAction⟩

/-- At most one rule is for the action, so that the complete rule has no conflict. -/
theorem configuredRule_of_distinct {configuration : PolicyConfiguration}
    (distinct : (configuration.actionRules.map ActionRule.action).Nodup) (input : ContractInput) :
    (configuredRule configuration input = some none ∧
      ∀ rule ∈ configuration.actionRules, rule.action ≠ input.action) ∨
    ∃ rule ∈ configuration.actionRules, rule.action = input.action ∧
      configuredRule configuration input = some (some rule) := by
  unfold configuredRule
  cases matching : configuration.actionRules.filter fun rule => rule.action = input.action with
  | nil =>
      left
      refine ⟨rfl, ?_⟩
      intro rule member same
      have dropped := List.filter_eq_nil_iff.mp matching rule member
      exact dropped (decide_eq_true same)
  | cons rule others =>
      right
      have kept : ∀ other ∈ rule :: others, other ∈ configuration.actionRules ∧
          other.action = input.action := by
        intro other member
        rw [← matching] at member
        have found := List.mem_filter.mp member
        exact ⟨found.1, of_decide_eq_true found.2⟩
      have ⟨member, same⟩ := kept rule List.mem_cons_self
      refine ⟨rule, member, same, ?_⟩
      have equal : others.all (· = rule) = true := by
        rw [List.all_eq_true]
        intro other later
        have ⟨otherMember, otherSame⟩ := kept other (List.mem_cons_of_mem rule later)
        apply decide_eq_true
        exact List.inj_on_of_nodup_map distinct otherMember member (otherSame.trans same.symm)
      simp only [equal, if_true]

/-- The rule that the policy follows allows what it grants, and quarantines nothing. -/
theorem ruleResult_outcome (parse : String → Option ℤ) (data : PolicyData) (rule : ActionRule)
    {input : ContractInput} {score : ℚ} (known : input.trust.policyScore = some score) :
    (ruleResult parse data rule input).outcome ≠ .quarantine ∧
      ((ruleResult parse data rule input).outcome = .allow ↔
        input.Grants parse data.configuration rule) := by
  have less : lessThan (some score) (some rule.minimumScore) = decide (score < rule.minimumScore) :=
    rfl
  unfold ruleResult
  rw [known, less]
  split_ifs with sensitivity role low stepUp
  · exact ⟨nofun, nofun, fun grants => absurd grants.sensitivity sensitivity⟩
  · rw [Bool.not_eq_true', ← Bool.not_eq_true, roleEligible_iff] at role
    exact ⟨nofun, nofun, fun grants => absurd grants.role role⟩
  · refine ⟨nofun, nofun, ?_⟩
    intro grants
    have ⟨enough, same, above⟩ := grants.score
    rw [known] at same
    cases same
    exact absurd (of_decide_eq_true low) (not_lt.mpr above)
  · simp only [Bool.and_eq_true, Bool.not_eq_true'] at stepUp
    refine ⟨nofun, nofun, ?_⟩
    intro grants
    have proven := (stepUpProofValid_iff stepUp.1).mpr (grants.stepUp stepUp.1)
    rw [stepUp.2] at proven
    cases proven
  · refine ⟨nofun, fun _ => ?_, fun _ => rfl⟩
    rw [Bool.not_eq_true', Bool.not_eq_false, roleEligible_iff] at role
    refine ⟨not_not.mp sensitivity, role, ⟨score, known, ?_⟩, ?_⟩
    · exact not_lt.mp fun below => low (decide_eq_true below)
    · intro required
      apply (stepUpProofValid_iff required).mp
      simpa [required] using stepUp

section Chain

variable (parse : String → Option ℤ) {data : PolicyData} {input : ContractInput}

/-- The checks before the score pass on exactly the inputs of good standing with a certificate
that is said to be valid. -/
theorem policyResult_refused
    (accepted : data.configuration.Accepted input.tenantContext.tenantId)
    (schema : TrustSchema input.trust)
    (refused : ¬(input.identity.valid = true ∧ input.Standing)) :
    ∃ reason, policyResult parse data input = some (denyResult reason) := by
  unfold policyResult
  rw [configurationValid_of_accepted accepted]
  split_ifs with _ binding identity authority trust
  · exact ⟨_, rfl⟩
  · exact ⟨_, rfl⟩
  · exact ⟨_, rfl⟩
  · exact ⟨_, rfl⟩
  · exact ⟨_, rfl⟩
  all_goals
    rw [Bool.not_eq_true', Bool.not_eq_false] at binding identity authority trust
    have ⟨valid, active, authoritative⟩ := (identityValid_iff input).mp identity
    exact absurd ⟨valid, (bindingValid_iff input).mp binding, active, authoritative,
      (authorityActive_iff input).mp authority, (trustUsable_iff schema).mp trust⟩ refused

theorem policyResult_low {score : ℚ}
    (accepted : data.configuration.Accepted input.tenantContext.tenantId)
    (valid : input.identity.valid = true) (standing : input.Standing)
    (schema : TrustSchema input.trust) (known : input.trust.policyScore = some score)
    (low : score < data.configuration.scoreBands.quarantineBelow) :
    policyResult parse data input = some (quarantineResult data) := by
  have identity := (identityValid_iff input).mpr ⟨valid, standing.active, standing.authoritative⟩
  have less : ∀ bound, lessThan (some score) (some bound) = decide (score < bound) := fun _ => rfl
  simp only [policyResult, configurationValid_of_accepted accepted,
    (bindingValid_iff input).mpr standing.bound, identity,
    (authorityActive_iff input).mpr standing.authorized,
    (trustUsable_iff schema).mpr standing.trusted, known, less, low, Bool.not_true,
    Bool.false_eq_true, if_false, decide_true, if_true]

theorem policyResult_chosen {score : ℚ} {chosen : Option ActionRule}
    (accepted : data.configuration.Accepted input.tenantContext.tenantId)
    (valid : input.identity.valid = true) (standing : input.Standing)
    (schema : TrustSchema input.trust) (known : input.trust.policyScore = some score)
    (above : data.configuration.scoreBands.quarantineBelow ≤ score)
    (found : configuredRule data.configuration input = some chosen) :
    policyResult parse data input = some (chosen.elim (denyResult "ACTION_NOT_CONFIGURED")
      fun rule => ruleResult parse data rule input) := by
  have identity := (identityValid_iff input).mpr ⟨valid, standing.active, standing.authoritative⟩
  have less : ∀ bound, lessThan (some score) (some bound) = decide (score < bound) := fun _ => rfl
  cases chosen with
  | none | some =>
      simp only [policyResult, configurationValid_of_accepted accepted,
        (bindingValid_iff input).mpr standing.bound, identity,
        (authorityActive_iff input).mpr standing.authorized,
        (trustUsable_iff schema).mpr standing.trusted, known, less, not_lt.mpr above, found,
        Bool.not_true, Bool.false_eq_true, if_false, decide_false, Option.elim]

/-- From the threshold on, the rule of the action decides. -/
theorem policyResult_ruled {score : ℚ}
    (accepted : data.configuration.Accepted input.tenantContext.tenantId)
    (valid : input.identity.valid = true) (standing : input.Standing)
    (schema : TrustSchema input.trust) (known : input.trust.policyScore = some score)
    (above : data.configuration.scoreBands.quarantineBelow ≤ score) :
    ∃ result, policyResult parse data input = some result ∧ result.outcome ≠ .quarantine ∧
      (result.outcome = .allow ↔ input.Ruled parse data.configuration) := by
  rcases configuredRule_of_distinct accepted.actionRules input with
    ⟨none_, others⟩ | ⟨rule, member, same, found⟩
  · have chain := policyResult_chosen parse accepted valid standing schema known above none_
    refine ⟨_, chain, nofun, nofun, ?_⟩
    intro ruled
    have ⟨rule, member, same, _⟩ := ruled.rule
    exact absurd same (others rule member)
  · have chain := policyResult_chosen parse accepted valid standing schema known above found
    have ⟨safe, allowed⟩ := ruleResult_outcome parse data rule known
    refine ⟨_, chain, safe, allowed.trans ?_⟩
    constructor
    · intro grants
      exact ⟨⟨score, known, above⟩, rule, member, same, grants⟩
    · intro ruled
      have ⟨other, otherMember, otherSame, grants⟩ := ruled.rule
      have equal : other = rule := List.inj_on_of_nodup_map accepted.actionRules otherMember
        member (otherSame.trans same.symm)
      rwa [equal] at grants

/-- What the outcome says about the input. -/
theorem policyResult_exact
    (accepted : data.configuration.Accepted input.tenantContext.tenantId)
    (schema : TrustSchema input.trust) :
    ∃ result, policyResult parse data input = some result ∧
      (result.outcome = .allow ↔ input.identity.valid = true ∧ input.Standing ∧
        input.Ruled parse data.configuration) ∧
      (result.outcome = .quarantine ↔ input.identity.valid = true ∧ input.Standing ∧
        input.Quarantined data.configuration) := by
  by_cases eligible : input.identity.valid = true ∧ input.Standing
  · have ⟨valid, standing⟩ := eligible
    have ⟨⟨score, known, _⟩, _⟩ := schema.of_fresh standing.trusted.fresh
    by_cases low : score < data.configuration.scoreBands.quarantineBelow
    · have chain := policyResult_low parse accepted valid standing schema known low
      refine ⟨_, chain, ⟨nofun, ?_⟩, fun _ => ⟨valid, standing, score, known, low⟩, fun _ => rfl⟩
      intro ⟨_, _, ruled⟩
      have ⟨other, same, above⟩ := ruled.score
      rw [known] at same
      cases same
      exact absurd low (not_lt.mpr above)
    · have ⟨result, chain, safe, allowed⟩ := policyResult_ruled parse accepted valid
        standing schema known (not_lt.mp low)
      refine ⟨result, chain, ?_, fun same => absurd same safe, ?_⟩
      · rw [allowed]
        exact ⟨fun ruled => ⟨valid, standing, ruled⟩, fun all => all.2.2⟩
      · intro ⟨_, _, other, same, below⟩
        rw [known] at same
        cases same
        exact absurd below low
  · have ⟨reason, chain⟩ := policyResult_refused parse accepted schema eligible
    exact ⟨_, chain, ⟨nofun, fun all => absurd ⟨all.1, all.2.1⟩ eligible⟩,
      nofun, fun all => absurd ⟨all.1, all.2.1⟩ eligible⟩

/-- An outcome that the trust state requires is the outcome. -/
theorem policyResult_required {result : PolicyResult} {outcome : PolicyOutcome}
    (accepted : data.configuration.Accepted input.tenantContext.tenantId)
    (schema : TrustSchema input.trust) (required : input.trust.requiredOutcome = some outcome)
    (chain : policyResult parse data input = some result) : result.outcome = outcome := by
  have deny : outcome = .deny := by
    cases schema with
    | fresh _ _ unrestricted =>
        rw [unrestricted] at required
        cases required
    | stale _ _ denied | missing _ _ denied =>
        rw [denied] at required
        cases required
        rfl
  have refused : ¬(input.identity.valid = true ∧ input.Standing) := by
    intro ⟨_, standing⟩
    rw [standing.trusted.unrestricted] at required
    cases required
  have ⟨reason, found⟩ := policyResult_refused parse accepted schema refused
  rw [found] at chain
  cases chain
  rw [deny]
  rfl

end Chain

/-- The input with another score, as a later evaluation of the subject records it. -/
def withScore (input : ContractInput) (score : ℚ) : ContractInput :=
  { input with trust := { input.trust with
      policyScore := some score, lastKnownScore := some score } }

theorem withScore_schema {input : ContractInput} {score : ℚ} (schema : TrustSchema input.trust)
    (fresh : input.trust.state = .fresh) (valid : isScore score) :
    TrustSchema (input.withScore score).trust := by
  cases schema with
  | fresh state usable outcome reason _ policyBand _ lastKnownBand age staleAfter versions =>
      exact .fresh state usable outcome reason ⟨score, rfl, valid⟩ policyBand ⟨score, rfl, valid⟩
        lastKnownBand age staleAfter versions
  | stale state | missing state =>
      rw [state] at fresh
      cases fresh

theorem withScore_standing {input : ContractInput} (standing : input.Standing) (score : ℚ) :
    (input.withScore score).Standing where
  bound := ⟨standing.bound.identityTenant, standing.bound.identitySubject,
    standing.bound.resourceTenant, standing.bound.trustTenant, standing.bound.trustSubject⟩
  active := standing.active
  authoritative := standing.authoritative
  authorized := standing.authorized
  trusted := ⟨standing.trusted.fresh, standing.trusted.usable, standing.trusted.unrestricted,
    rfl, standing.trusted.band, standing.trusted.recent⟩

theorem withScore_ruled {parse : String → Option ℤ} {configuration : PolicyConfiguration}
    {input : ContractInput} {current score : ℚ} (ruled : input.Ruled parse configuration)
    (known : input.trust.policyScore = some current) (raised : current ≤ score) :
    (input.withScore score).Ruled parse configuration := by
  have enough : ∀ bound, (∃ found, input.trust.policyScore = some found ∧ bound ≤ found) →
      ∃ found, (input.withScore score).trust.policyScore = some found ∧ bound ≤ found := by
    intro bound ⟨found, same, above⟩
    rw [known] at same
    cases same
    exact ⟨score, rfl, above.trans raised⟩
  have ⟨rule, member, same, grants⟩ := ruled.rule
  have proven : rule.stepUpRequired = true →
      (input.withScore score).Proven parse configuration.stepUpMaximumAgeSeconds := by
    intro required
    have proof := grants.stepUp required
    exact ⟨proof.status, proof.tenant, proof.subject, proof.action, proof.proofId, proof.session,
      proof.recent⟩
  exact ⟨enough _ ruled.score, rule, member, same, grants.sensitivity, grants.role,
    enough _ grants.score, proven⟩

/-- The outcome of `decision` is the configured one. -/
structure DecidesExactly (builtins : PolicyBuiltins) (data : PolicyData) (evaluatedAt : Timestamp)
    (input : ContractInput) (answer : ContractDecision) : Prop where
  allow : answer.result.outcome = .allow ↔ input.identity.valid = true ∧ input.Standing ∧
    input.Ruled builtins.parse data.configuration
  quarantine : answer.result.outcome = .quarantine ↔ input.identity.valid = true ∧
    input.Standing ∧ input.Quarantined data.configuration
  raised : answer.result.outcome = .allow → ∀ current score,
    input.trust.policyScore = some current → current ≤ score → score ≤ 100 →
    ∃ later, contractDecision builtins data evaluatedAt (input.withScore score) = some later ∧
      later.result.outcome = .allow
  required : ∀ outcome, input.trust.requiredOutcome = some outcome →
    answer.result.outcome = outcome

theorem contractDecision_of_result {builtins : PolicyBuiltins} {data : PolicyData}
    {input : ContractInput} {result : PolicyResult} (evaluatedAt : Timestamp)
    (runtime : runtimePolicyValid data = true)
    (chain : input.policyResult builtins.parse data = some result) :
    ∃ answer, contractDecision builtins data evaluatedAt input = some answer ∧
      answer.result = result := by
  rw [contractDecision, if_pos runtime, chain]
  exact ⟨_, rfl, rfl⟩

theorem decidesExactly_of_accepted {data : PolicyData} {input : ContractInput}
    (builtins : PolicyBuiltins) (evaluatedAt : Timestamp)
    (accepted : data.configuration.Accepted input.tenantContext.tenantId)
    (runtime : runtimePolicyValid data = true) (schema : TrustSchema input.trust) :
    ∃ answer, contractDecision builtins data evaluatedAt input = some answer ∧
      DecidesExactly builtins data evaluatedAt input answer := by
  have ⟨result, chain, allow, quarantine⟩ :=
    policyResult_exact builtins.parse accepted schema
  have ⟨answer, decided, same⟩ := contractDecision_of_result evaluatedAt runtime chain
  refine ⟨answer, decided, same ▸ allow, same ▸ quarantine, ?_, ?_⟩
  · intro allowed current score known raised whole
    have ⟨valid, standing, ruled⟩ := allow.mp (same ▸ allowed)
    have fresh := standing.trusted.fresh
    have nonneg : 0 ≤ score := by
      have ⟨⟨first, found, scored⟩, _⟩ := schema.of_fresh fresh
      rw [known] at found
      cases found
      exact scored.1.trans raised
    have laterSchema := withScore_schema schema fresh ⟨nonneg, whole⟩
    have sameTenant : data.configuration.Accepted (input.withScore score).tenantContext.tenantId :=
      accepted
    have ⟨laterResult, laterChain, laterAllow, _⟩ :=
      policyResult_exact builtins.parse sameTenant laterSchema
    have ⟨later, laterDecided, laterSame⟩ :=
      contractDecision_of_result evaluatedAt runtime laterChain
    refine ⟨later, laterDecided, ?_⟩
    rw [laterSame]
    exact laterAllow.mpr ⟨valid, withScore_standing standing score,
      withScore_ruled ruled known raised⟩
  · intro outcome required
    rw [same]
    exact policyResult_required builtins.parse accepted schema required chain

end ContractInput

open ContractInput (DecidesExactly)

theorem decision_exact {value data : JsonValue} {expectedTenantId : ScriptString}
    {input : ContractInput} (builtins : PolicyBuiltins) (runtime : RuntimePolicy)
    (evaluatedAt : Timestamp)
    (accepted : validateAdaptiveAuthorizationPolicyData value expectedTenantId = .ok data)
    (tenant : input.tenantContext.tenantId = identifierOf expectedTenantId)
    (schema : input.SchemaValid) :
    ∃ configuration, readConfiguration data = some configuration ∧
      (runtimePolicyValid ⟨configuration, runtime⟩ = true →
        ∃ answer, contractDecision builtins ⟨configuration, runtime⟩ evaluatedAt input =
            some answer ∧
          DecidesExactly builtins ⟨configuration, runtime⟩ evaluatedAt input answer) := by
  have ⟨_, configuration, read, sound⟩ := readConfiguration_of_accepted accepted
  rw [← tenant] at sound
  refine ⟨configuration, read, ?_⟩
  intro runtimeValid
  exact ContractInput.decidesExactly_of_accepted builtins evaluatedAt sound runtimeValid
    schema.trust

namespace ContractScenario

/-! A member reads a record under the document of the step-up scenario. -/

open StepUpScenario (tenant tenantText policyValue configuration)

def requestedAt : String := "2026-01-01T00:00:00.000Z"

/-- The reading of dates on the only text of the scenario that is one. -/
def builtins : PolicyBuiltins where
  parse text := if text = requestedAt then some 1767225600000000000 else none
  hashInput _ := ⟨1⟩

def runtime : RuntimePolicy := ⟨1, 1, ⟨1⟩, decisionPath⟩

def trust (policyScore lastKnownScore : ℚ) : TrustInput where
  tenantId := tenant
  subjectId := ⟨2⟩
  state := .fresh
  usableForPolicy := true
  requiredOutcome := none
  reasonCode := none
  policyScore := some policyScore
  policyBand := some .high
  lastKnownScore := some lastKnownScore
  lastKnownBand := some .high
  ageSeconds := some 1
  staleAfterSeconds := some (60 : Nat)
  transitionId := some ⟨1⟩
  updateVersion := some 1
  configurationVersion := some 1

def input (valid : Bool) (policyScore lastKnownScore : ℚ) : ContractInput where
  identity := ⟨tenant, ⟨2⟩, valid, .active, .authoritative, some 1⟩
  tenantContext := ⟨tenant, ⟨2⟩, [.tenantMember], .active, .active, .active, ⟨1, 1, 1⟩⟩
  action := .recordRead
  resource := ⟨tenant, .tenantRecord, ⟨3⟩, .confidential, .tenant, none⟩
  trust := trust policyScore lastKnownScore
  requestContext := ⟨⟨1⟩, ⟨1⟩, requestedAt, ⟨.absent, none, none, none, none, none, none, none⟩⟩

theorem schema (valid : Bool) {policyScore lastKnownScore : ℚ}
    (policy : ContractInput.isScore policyScore) (last : ContractInput.isScore lastKnownScore) :
    (input valid policyScore lastKnownScore).SchemaValid where
  identity := ⟨fun _ => ⟨rfl, rfl, rfl⟩, fun version found => by cases found; exact le_rfl⟩
  roles := ⟨le_rfl, Nat.le_succ 1, List.nodup_singleton _⟩
  sensitivity := nofun
  trust := .fresh rfl rfl rfl rfl ⟨_, rfl, policy⟩ rfl ⟨_, rfl, last⟩ rfl ⟨1, rfl, zero_le_one⟩
    ⟨60, rfl, by decide⟩ ⟨rfl, rfl, rfl⟩
  stepUp := ⟨rfl, rfl, rfl, rfl, rfl, rfl, rfl⟩

theorem standing (valid : Bool) (score : ℚ) : (input valid score score).Standing where
  bound := ⟨rfl, rfl, rfl, rfl, rfl⟩
  active := rfl
  authoritative := rfl
  authorized := ⟨rfl, rfl, rfl⟩
  trusted := ⟨rfl, rfl, rfl, rfl, rfl, 1, (60 : Nat), rfl, rfl, by norm_num⟩

theorem accepted : (configuration false).Accepted tenant := by
  have ⟨_, found, read, sound⟩ := readConfiguration_of_accepted (StepUpScenario.accepted false)
  rw [(StepUpScenario.documents_read false).2] at read
  cases read
  exact sound

theorem ruled (valid : Bool) : (input valid 60 60).Ruled builtins.parse (configuration false) where
  score := ⟨60, rfl, by change (50 : ℚ) ≤ 60; norm_num⟩
  rule := by
    refine ⟨⟨.recordRead, 55, [.tenantMember, .tenantAdmin], .confidential, false⟩, ?_, rfl, rfl,
      ⟨.tenantMember, List.mem_singleton_self _, List.mem_cons_self⟩, ⟨60, rfl, by norm_num⟩, nofun⟩
    exact List.mem_map.mpr ⟨.recordRead, by decide, rfl⟩

theorem isScore_of_whole {score : ℚ} (least : 60 ≤ score) (most : score ≤ 61) :
    ContractInput.isScore score := ⟨by linarith, by linarith⟩

theorem decided (valid : Bool) {policyScore lastKnownScore : ℚ}
    (policy : ContractInput.isScore policyScore) (last : ContractInput.isScore lastKnownScore) :
    ∃ answer, contractDecision builtins ⟨configuration false, runtime⟩ 0
        (input valid policyScore lastKnownScore) = some answer ∧
      DecidesExactly builtins ⟨configuration false, runtime⟩ 0
        (input valid policyScore lastKnownScore) answer :=
  ContractInput.decidesExactly_of_accepted builtins 0 accepted (by decide)
    (schema valid policy last).trust

end ContractScenario

open ContractScenario in
theorem decision_exact_record :
    ∃ answer, contractDecision builtins ⟨StepUpScenario.configuration false, runtime⟩ 0
        (input true 60 60) = some answer ∧
      answer.result.outcome = .allow ∧
      DecidesExactly builtins ⟨StepUpScenario.configuration false, runtime⟩ 0
        (input true 60 60) answer := by
  have sixty := isScore_of_whole le_rfl (by norm_num)
  obtain ⟨configuration, read, decides⟩ := decision_exact builtins runtime 0
    (StepUpScenario.accepted false) rfl (schema true sixty sixty)
  rw [(StepUpScenario.documents_read false).2] at read
  cases read
  obtain ⟨answer, found, exact_⟩ := decides (by decide)
  exact ⟨answer, found, exact_.allow.mpr ⟨rfl, standing true 60, ruled true⟩, exact_⟩

open ContractScenario in
/-- A certificate that is active and authoritative but not valid is denied, and a raised score that
the last known one does not follow is unusable. -/
theorem decision_inexact :
    (¬ ∀ (builtins : PolicyBuiltins) (value data : JsonValue) (expectedTenantId : ScriptString)
      (configuration : PolicyConfiguration) (runtime : RuntimePolicy) (evaluatedAt : Timestamp)
      (input : ContractInput) (answer : ContractDecision),
      validateAdaptiveAuthorizationPolicyData value expectedTenantId = .ok data →
      readConfiguration data = some configuration →
      input.tenantContext.tenantId = identifierOf expectedTenantId → input.SchemaValid →
      runtimePolicyValid ⟨configuration, runtime⟩ = true →
      contractDecision builtins ⟨configuration, runtime⟩ evaluatedAt input = some answer →
      (answer.result.outcome = .allow ↔
        input.Standing ∧ input.Ruled builtins.parse configuration)) ∧
    (¬ ∀ (builtins : PolicyBuiltins) (value data : JsonValue) (expectedTenantId : ScriptString)
      (configuration : PolicyConfiguration) (runtime : RuntimePolicy) (evaluatedAt : Timestamp)
      (input : ContractInput) (current score : ℚ) (answer later : ContractDecision),
      validateAdaptiveAuthorizationPolicyData value expectedTenantId = .ok data →
      readConfiguration data = some configuration →
      input.tenantContext.tenantId = identifierOf expectedTenantId → input.SchemaValid →
      runtimePolicyValid ⟨configuration, runtime⟩ = true →
      contractDecision builtins ⟨configuration, runtime⟩ evaluatedAt input = some answer →
      answer.result.outcome = .allow →
      input.trust.policyScore = some current → current ≤ score → score ≤ 100 →
      contractDecision builtins ⟨configuration, runtime⟩ evaluatedAt
        { input with trust := { input.trust with policyScore := some score } } = some later →
      later.result.outcome = .allow) := by
  have read := (StepUpScenario.documents_read false).2
  have sixty := isScore_of_whole le_rfl (by norm_num)
  constructor
  · intro claim
    have ⟨answer, found, exact_⟩ := decided false sixty sixty
    have allowed := (claim builtins _ _ _ _ runtime 0 _ answer (StepUpScenario.accepted false)
      read rfl (schema false sixty sixty) (by decide) found).mpr ⟨standing false 60, ruled false⟩
    cases (exact_.allow.mp allowed).1
  · intro claim
    have ⟨answer, found, exact_⟩ := decided true sixty sixty
    have ⟨later, laterFound, laterExact⟩ :=
      decided true (isScore_of_whole (by norm_num) le_rfl) sixty
    have allowed := exact_.allow.mpr ⟨rfl, standing true 60, ruled true⟩
    have raised := claim builtins _ _ _ _ runtime 0 _ 60 61 answer later
      (StepUpScenario.accepted false) read rfl (schema true sixty sixty) (by decide) found
      allowed rfl (by norm_num) (by norm_num) laterFound
    have same : some (61 : ℚ) = some 60 := (laterExact.allow.mp raised).2.1.trusted.score
    norm_num at same

end TenantTrust.Policy
