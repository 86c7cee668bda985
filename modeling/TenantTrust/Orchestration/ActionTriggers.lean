import TenantTrust.Orchestration.RecoveryEligibility
import TenantTrust.Orchestration.Tables

/-! Which durable action a policy outcome, a trust transition and severe evidence call for. -/

namespace TenantTrust.Orchestration

open Library Identity Trust

structure PolicyMapping where
  outcome : PolicyOutcome
  quarantineActionType : Option SecurityActionType
  deriving DecidableEq, Repr

/-- `POLICY_OUTCOME_ACTION_MAPPING`. -/
def policyOutcomeActionMapping : PolicyOutcome → List SecurityActionType
  | .quarantine => [.restrictAccess, .suspendSubject]
  | .allow | .stepUp | .deny => []

def mapPolicyOutcomeToSecurityAction (input : PolicyMapping) :
    Except String (Option SecurityActionType) := do
  if input.outcome ≠ .quarantine then
    require (input.quarantineActionType = none) "POLICY_ACTION_NOT_ALLOWED"
    return none
  else
    let actionType ← requireSome input.quarantineActionType "QUARANTINE_ACTION_INVALID"
    require (actionType ∈ policyOutcomeActionMapping .quarantine) "QUARANTINE_ACTION_INVALID"
    return some actionType

structure CriticalOverrideValue where
  kind : Passed String
  componentId : Option String
  deriving DecidableEq, Repr

structure TriggerOverride where
  kind : Passed String
  componentId : Option String
  rule : RuleValue
  deriving DecidableEq, Repr

def normalizeCriticalOverride :
    Option CriticalOverrideValue → Except String (Option TriggerOverride)
  | none => .ok none
  | some value => do
      let rule ← requireSome (criticalEvidenceRule value.kind.read)
        "TRUST_TRANSITION_INVALID"
      require (rule.componentId = value.componentId) "TRUST_TRANSITION_INVALID"
      return some ⟨value.kind, value.componentId, rule⟩

structure TriggerTransitionValue where
  score : ScriptNumber
  band : TrustBand
  transition : TransitionKind
  criticalOverride : Option CriticalOverrideValue
  deriving DecidableEq, Repr

structure TriggerTransition where
  score : ℚ
  band : TrustBand
  transition : TransitionKind
  criticalOverride : Option TriggerOverride
  deriving DecidableEq, Repr

/-- `score > ceiling`; a comparison with an undefined ceiling is false. -/
def exceeds (score : ℚ) (ceiling : ScriptNumber) : Bool :=
  ceiling.any fun most => most < score

/-- A band below its own threshold, or one that the override does not force. -/
def contradictoryBand (score : ℚ) (band : TrustBand) (criticalOverride : Option TriggerOverride) :
    Bool :=
  (deteriorationThreshold band).any (fun threshold => score < threshold) ||
    criticalOverride.any fun override =>
      some band ≠ override.rule.forcedBand || exceeds score override.rule.scoreCeiling

def normalizeTrustTransition (value : TriggerTransitionValue) :
    Except String TriggerTransition := do
  let score ← requireSome value.score "TRUST_TRANSITION_INVALID"
  require (validScore value.score) "TRUST_TRANSITION_INVALID"
  let criticalOverride ← normalizeCriticalOverride value.criticalOverride
  require (value.transition = .criticalOverride ↔ criticalOverride.isSome)
    "TRUST_TRANSITION_INVALID"
  require (contradictoryBand score value.band criticalOverride = false) "TRUST_TRANSITION_INVALID"
  return ⟨score, value.band, value.transition, criticalOverride⟩

structure EvidenceSummary where
  evidenceIds : List (Passed EvidenceId)
  sourceIds : List (Passed SourceId)
  kinds : List (Passed String)
  deriving DecidableEq, Repr

def summarizeSevereEvidence (evidence : List SevereEvidence) : EvidenceSummary where
  evidenceIds := sortPassed (evidence.map SevereEvidence.evidenceId)
  sourceIds := sortPassed (distinctValues (evidence.map SevereEvidence.sourceId))
  kinds := sortPassed (distinctValues (evidence.map SevereEvidence.kind))

def trustConfirmsSevereEvidence (trustTransition : TriggerTransition)
    (severeKinds : List (Passed String)) : Bool :=
  trustTransition.band = .low &&
    trustTransition.transition = .criticalOverride &&
    trustTransition.criticalOverride.any fun override =>
      override.kind ∈ severeKinds &&
        (readRule actionableSevereEvidence override.kind.read).any fun rule =>
          rule.scoreCeiling.any fun ceiling => trustTransition.score ≤ ceiling

structure TriggerInput where
  target : EvidenceTarget
  policyDecision : PolicyMapping
  trustTransition : TriggerTransitionValue
  severeEvidence : List SevereEvidence
  evaluatedAt : Timestamp
  deriving DecidableEq, Repr

inductive TriggerSeverity where
  | none | lowTrust | severePendingCorroboration | severeCorroborated
  deriving DecidableEq, Repr

structure Corroboration where
  evidenceIds : List (Passed EvidenceId)
  sourceIds : List (Passed SourceId)
  kinds : List (Passed String)
  enoughSources : Bool
  enoughKinds : Bool
  trustConfirmed : Bool
  deriving DecidableEq, Repr

structure TriggerDecision where
  severity : TriggerSeverity
  actionTypes : List SecurityActionType
  reasonCode : String
  revocationAuthorized : Bool
  deriving DecidableEq, Repr

structure TriggerResult where
  target : EvidenceTarget
  decision : TriggerDecision
  corroboration : Corroboration
  deriving DecidableEq, Repr

def requiredDistinctSourcesForRevocation : Nat := 2

def requiredDistinctKindsForRevocation : Nat := 2

def corroborate (trustTransition : TriggerTransition) (evidence : List SevereEvidence) :
    Corroboration :=
  let summary := summarizeSevereEvidence evidence
  { evidenceIds := summary.evidenceIds
    sourceIds := summary.sourceIds
    kinds := summary.kinds
    enoughSources := requiredDistinctSourcesForRevocation ≤ summary.sourceIds.length
    enoughKinds := requiredDistinctKindsForRevocation ≤ summary.kinds.length
    trustConfirmed := trustConfirmsSevereEvidence trustTransition summary.kinds }

/-- Quarantine containment and a block on renewal, which a suspension already includes. -/
def pendingActions (policyAction : Option SecurityActionType) : List SecurityActionType :=
  policyAction.toList ++ if policyAction = some .suspendSubject then [] else [.blockRenewal]

def triggerDecision (policyAction : Option SecurityActionType) (evidence : List SevereEvidence)
    (corroboration : Corroboration) : TriggerDecision :=
  if corroboration.enoughSources && corroboration.enoughKinds && corroboration.trustConfirmed then
    ⟨.severeCorroborated, [.revokeCertificate], "CORROBORATED_SEVERE_EVIDENCE", true⟩
  else if 0 < evidence.length then
    ⟨.severePendingCorroboration, pendingActions policyAction,
      "SEVERE_EVIDENCE_NOT_CORROBORATED", false⟩
  else
    match policyAction with
    | some actionType => ⟨.lowTrust, [actionType], "POLICY_QUARANTINE", false⟩
    | none => ⟨.none, [], "NO_DURABLE_ACTION", false⟩

def evaluateSecurityActionTriggers (input : TriggerInput) : Except String TriggerResult := do
  let policyAction ← mapPolicyOutcomeToSecurityAction input.policyDecision
  let trustTransition ← normalizeTrustTransition input.trustTransition
  let severeEvidence ← normalizeSevereEvidence input.target input.evaluatedAt input.severeEvidence
  let corroboration := corroborate trustTransition severeEvidence
  return ⟨input.target, triggerDecision policyAction severeEvidence corroboration, corroboration⟩

end TenantTrust.Orchestration
