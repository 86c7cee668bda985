import TenantTrust.Identity.Identifiers

/-! The pre-registered evaluation: its modes, scenarios, steps and sample plan. -/

namespace TenantTrust.Evaluation

inductive ModeId where
  | jwtRbacBaseline | pkiRbacBaseline | adaptiveTrustOpa
  deriving DecidableEq, Repr

def ModeId.text : ModeId → String
  | jwtRbacBaseline => "jwt-rbac-baseline-v1"
  | pkiRbacBaseline => "pki-rbac-baseline-v1"
  | adaptiveTrustOpa => "adaptive-trust-opa-v1"

def modeIds : List ModeId := [.jwtRbacBaseline, .pkiRbacBaseline, .adaptiveTrustOpa]

inductive TrafficClass where
  | benign | attack | resilience
  deriving DecidableEq, Repr

inductive AccessTruth where
  | legitimateAllow | unauthorizedRestrict | controlOnly
  deriving DecidableEq, Repr

inductive ObservedOutcome where
  | allow | stepUp | deny | quarantine | unsupported | timeout | error
  deriving DecidableEq, Repr

/-- `EVALUATION_LABELS.observedOutcomes` -/
def observedOutcome? : String → Option ObservedOutcome
  | "allow" => some .allow
  | "step-up" => some .stepUp
  | "deny" => some .deny
  | "quarantine" => some .quarantine
  | "unsupported" => some .unsupported
  | "timeout" => some .timeout
  | "error" => some .error
  | _ => none

inductive AccessClassification where
  | correctAllow | falseRestriction | correctRestriction | missedRestriction | controlOnly
  deriving DecidableEq, Repr

def classifyAccessObservation (accessTruth : AccessTruth) (observedOutcome : ObservedOutcome) :
    AccessClassification :=
  match accessTruth with
  | .controlOnly => .controlOnly
  | .legitimateAllow => if observedOutcome = .allow then .correctAllow else .falseRestriction
  | .unauthorizedRestrict =>
      if observedOutcome = .allow then .missedRestriction else .correctRestriction

inductive ScenarioId where
  | normalLegitimateAccess
  | unknownDeviceSensitiveExport
  | failedLoginsSensitiveExport
  | certificateAndEvidenceReplay
  | crossTenantAccess
  | evidenceFlooding
  | policyVersionChange
  | offChainAuditRecordModification
  | fabricOutageAndRecovery
  | corroboratedRevocationEnforcement
  deriving DecidableEq, Repr

structure GroundTruth where
  accessTruth : AccessTruth
  expectedAuthorizationOutcomes : List ObservedOutcome
  requiredControls : List String
  deriving DecidableEq, Repr

structure Scenario where
  scenarioId : ScenarioId
  trafficClass : TrafficClass
  groundTruth : GroundTruth
  deriving DecidableEq, Repr

/-- `EVALUATION_SCENARIOS` -/
def evaluationScenarios : List Scenario := [
  ⟨.normalLegitimateAccess, .benign, .legitimateAllow, [.allow], []⟩,
  ⟨.unknownDeviceSensitiveExport, .attack, .unauthorizedRestrict,
    [.stepUp, .deny, .quarantine], ["detect-context-change", "restrict-sensitive-export"]⟩,
  ⟨.failedLoginsSensitiveExport, .attack, .unauthorizedRestrict,
    [.stepUp, .deny, .quarantine], ["detect-behaviour-change", "restrict-sensitive-export"]⟩,
  ⟨.certificateAndEvidenceReplay, .attack, .unauthorizedRestrict,
    [.deny, .quarantine], ["reject-replayed-evidence", "reject-invalid-certificate-reuse"]⟩,
  ⟨.crossTenantAccess, .attack, .unauthorizedRestrict,
    [.deny], ["deny-before-data-access", "preserve-other-tenant-state"]⟩,
  ⟨.evidenceFlooding, .attack, .controlOnly,
    [], ["bound-source-influence", "preserve-other-tenant-capacity"]⟩,
  ⟨.policyVersionChange, .resilience, .controlOnly,
    [], ["bind-decision-to-active-policy", "fail-closed-on-version-mismatch"]⟩,
  ⟨.offChainAuditRecordModification, .attack, .controlOnly,
    [], ["detect-audit-modification", "identify-causal-break"]⟩,
  ⟨.fabricOutageAndRecovery, .resilience, .controlOnly,
    [], ["keep-ledger-off-critical-path", "reconcile-pending-commitments"]⟩,
  ⟨.corroboratedRevocationEnforcement, .attack, .unauthorizedRestrict,
    [.deny, .quarantine], ["revoke-after-corroborated-critical-evidence",
      "deny-revoked-certificate"]⟩]

inductive Operation where
  | authorize | ingestEvidence | changePolicy | tamperAudit | verifyAudit | setLedgerState
  | reconcileLedger
  deriving DecidableEq, Repr

structure WorkloadStep where
  stepId : String
  operation : Operation
  fixture : String
  expectedControls : List String
  deriving DecidableEq, Repr

/-- `EVALUATION_SCENARIO_STEPS` -/
def scenarioSteps : ScenarioId → List WorkloadStep
  | .normalLegitimateAccess => [⟨"normal-access", .authorize, "normal-access", []⟩]
  | .unknownDeviceSensitiveExport => [
      ⟨"unknown-device-signal", .ingestEvidence, "unknown-device", ["detect-context-change"]⟩,
      ⟨"sensitive-export-after-unknown-device", .authorize, "sensitive-export",
        ["restrict-sensitive-export"]⟩]
  | .failedLoginsSensitiveExport => [
      ⟨"failed-login-signal", .ingestEvidence, "failed-logins", ["detect-behaviour-change"]⟩,
      ⟨"sensitive-export-after-failed-logins", .authorize, "sensitive-export",
        ["restrict-sensitive-export"]⟩]
  | .certificateAndEvidenceReplay => [
      ⟨"accepted-evidence", .ingestEvidence, "valid-evidence", []⟩,
      ⟨"forged-evidence", .ingestEvidence, "forged-evidence", ["reject-forged-evidence"]⟩,
      ⟨"replayed-evidence", .ingestEvidence, "replayed-evidence", ["reject-replayed-evidence"]⟩,
      ⟨"reused-invalid-certificate", .authorize, "invalid-certificate-reuse",
        ["reject-invalid-certificate-reuse"]⟩]
  | .crossTenantAccess => [
      ⟨"cross-tenant-access", .authorize, "cross-tenant-access",
        ["deny-before-data-access", "preserve-other-tenant-state"]⟩]
  | .evidenceFlooding => [
      ⟨"evidence-flood", .ingestEvidence, "evidence-flood",
        ["bound-source-influence", "preserve-other-tenant-capacity"]⟩]
  | .policyVersionChange => [
      ⟨"publish-policy-version", .changePolicy, "policy-version-change",
        ["bind-decision-to-active-policy"]⟩,
      ⟨"stale-policy-decision", .authorize, "stale-policy-version",
        ["fail-closed-on-version-mismatch"]⟩]
  | .offChainAuditRecordModification => [
      ⟨"modify-off-chain-audit-record", .tamperAudit, "modified-audit-record", []⟩,
      ⟨"verify-modified-audit-chain", .verifyAudit, "modified-audit-record",
        ["detect-audit-modification", "identify-causal-break"]⟩]
  | .fabricOutageAndRecovery => [
      ⟨"start-ledger-outage", .setLedgerState, "ledger-unavailable", []⟩,
      ⟨"access-during-ledger-outage", .authorize, "normal-access",
        ["keep-ledger-off-critical-path"]⟩,
      ⟨"restore-ledger", .setLedgerState, "ledger-available", []⟩,
      ⟨"reconcile-pending-commitments", .reconcileLedger, "pending-commitments",
        ["reconcile-pending-commitments"]⟩]
  | .corroboratedRevocationEnforcement => [
      ⟨"corroborated-critical-evidence", .ingestEvidence, "corroborated-critical-evidence",
        ["revoke-after-corroborated-critical-evidence"]⟩,
      ⟨"reuse-revoked-certificate", .authorize, "revoked-certificate-reuse",
        ["deny-revoked-certificate"]⟩]

/-- `EVALUATION_SAMPLE_PLAN.evaluation` -/
structure SamplePlan where
  concurrencyLevels : List Nat
  warmupRepetitions : Nat
  measuredRepetitions : Nat
  totalMeasuredScenarioRuns : Nat
  seedBase : Nat
  modeOrderRotation : List (List ModeId)

def samplePlan : SamplePlan where
  concurrencyLevels := [1, 8, 32]
  warmupRepetitions := 5
  measuredRepetitions := 30
  totalMeasuredScenarioRuns := evaluationScenarios.length * 30 * modeIds.length * 3
  seedBase := 20261028
  modeOrderRotation := [
    [.jwtRbacBaseline, .pkiRbacBaseline, .adaptiveTrustOpa],
    [.pkiRbacBaseline, .adaptiveTrustOpa, .jwtRbacBaseline],
    [.adaptiveTrustOpa, .jwtRbacBaseline, .pkiRbacBaseline]]

end TenantTrust.Evaluation
