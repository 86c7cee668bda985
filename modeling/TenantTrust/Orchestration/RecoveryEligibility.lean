import TenantTrust.Library.Binary64
import TenantTrust.Library.ScriptValues
import TenantTrust.Orchestration.RecoveryAuthorization
import TenantTrust.Trust.TransitionControls

/-! Whether a posture may recover, as the orchestrator service decides it before it asks the
database. -/

namespace TenantTrust.Orchestration

open Library Identity Trust

/-- `^src_` and the digits of a UUID. -/
def isSourceId (text : String) : Bool :=
  match text.toList with
  | 's' :: 'r' :: 'c' :: '_' :: digits =>
      digits.length = 36 && digits.zipIdx.all fun (digit, position) =>
        if position ∈ [8, 13, 18, 23] then digit = '-'
        else if position = 14 then '1' ≤ digit && digit ≤ '8'
        else if position = 19 then digit ∈ ['8', '9', 'a', 'b']
        else digit.isDigit || ('a' ≤ digit && digit ≤ 'f')
  | _ => false

/-- An entry as a caller passes it: its identifiers are tested as texts and its kind is looked up
by the name that it converts to, so each may be an array. The target's are compared as values. -/
structure SevereEvidence where
  evidenceId : Passed EvidenceId
  sourceId : Passed SourceId
  tenantId : TenantId
  subjectId : SubjectId
  kind : Passed String
  componentId : Option String
  observedAt : Timestamp
  deriving DecidableEq, Repr

/-- `ACTIONABLE_SEVERE_EVIDENCE`: the override rules without the terminal kind. Their forced bands
are not read. -/
def actionableSevereEvidence : List (String × CriticalEvidenceRule) :=
  criticalEvidenceOverrideRules.filter fun (kind, _) => kind ≠ "certificate-revoked"

def maximumAgeSeconds : Nat := 300

/-- `{ tenantId, subjectId }` of a trigger or of a recovery. -/
structure EvidenceTarget where
  tenantId : TenantId
  subjectId : SubjectId
  deriving DecidableEq, Repr

def requireSevereEvidence (target : EvidenceTarget) (evaluatedAt : Timestamp)
    (entry : SevereEvidence) : Except String Unit := do
  require (entry.tenantId = target.tenantId ∧ entry.subjectId = target.subjectId)
    "SEVERE_EVIDENCE_INVALID"
  let rule ← requireSome (readRule actionableSevereEvidence entry.kind.read)
    "SEVERE_EVIDENCE_NOT_ACTIONABLE"
  require (rule.componentId = entry.componentId) "SEVERE_EVIDENCE_NOT_ACTIONABLE"
  require (entry.observedAt ≤ evaluatedAt ∧
      evaluatedAt ≤ entry.observedAt + seconds maximumAgeSeconds)
    "SEVERE_EVIDENCE_STALE"

def normalizeSevereEvidence (target : EvidenceTarget) (evaluatedAt : Timestamp)
    (evidence : List SevereEvidence) : Except String (List SevereEvidence) := do
  evidence.forM (requireSevereEvidence target evaluatedAt)
  require (evidence.map SevereEvidence.evidenceId).Nodup "SEVERE_EVIDENCE_DUPLICATE"
  return evidence

structure RecoveryCheckpoint where
  score : Binary64
  band : TrustBand
  transition : TransitionKind
  consecutiveQualifyingEvaluations : Int
  sourceIds : List String
  deriving DecidableEq

/-- A recovered transition whose score is below the threshold that its band is reached at. -/
def RecoveryCheckpoint.contradictory (checkpoint : RecoveryCheckpoint) : Bool :=
  checkpoint.transition = .recovered &&
  (checkpoint.band = .low ||
    (checkpoint.band = .medium &&
      checkpoint.score < Binary64.ofRat Bands.lowRecoveryThreshold) ||
    (checkpoint.band = .high &&
      checkpoint.score < Binary64.ofRat Bands.mediumRecoveryThreshold))

def normalizeRecoveryCheckpoint (checkpoint : RecoveryCheckpoint) :
    Except String RecoveryCheckpoint := do
  require (Binary64.ofRat 0 ≤ checkpoint.score ∧ checkpoint.score ≤ Binary64.ofRat 100 ∧
      0 ≤ checkpoint.consecutiveQualifyingEvaluations ∧
      checkpoint.consecutiveQualifyingEvaluations ≤ 9007199254740991 ∧
      checkpoint.sourceIds.all isSourceId ∧ checkpoint.sourceIds.Nodup)
    "RECOVERY_CHECKPOINT_INVALID"
  require (checkpoint.contradictory = false) "RECOVERY_CHECKPOINT_INVALID"
  return { checkpoint with sourceIds := checkpoint.sourceIds.insertionSort (· ≤ ·) }

structure RecoveryRequirement where
  minimumBand : TrustBand
  minimumScore : Binary64

/-- `SECURITY_ACTION_RECOVERY_POLICY` by posture. -/
def recoveryRequirement (currentState : SecurityActionState) : RecoveryRequirement :=
  if requiresHighTrust currentState then
    ⟨.high, Binary64.ofRat Bands.mediumRecoveryThreshold⟩
  else ⟨.medium, Binary64.ofRat Bands.lowRecoveryThreshold⟩

def recoveryTrustReady (checkpoint : RecoveryCheckpoint) (requirement : RecoveryRequirement) :
    Bool :=
  checkpoint.transition = .recovered &&
  requirement.minimumBand.rank ≤ checkpoint.band.rank &&
  requirement.minimumScore ≤ checkpoint.score &&
  Bands.consecutiveQualifyingEvaluations ≤ checkpoint.consecutiveQualifyingEvaluations &&
  Bands.distinctSourceCount ≤ checkpoint.sourceIds.length

structure RecoveryEvaluation where
  nextActionType : Option SecurityActionType
  reasonCode : String
  checkpoint : RecoveryCheckpoint
  deriving DecidableEq

def SecurityActionState.unrestricted (state : SecurityActionState) : Bool :=
  state.access = .normal && state.renewal = .allowed

/-- The decision after the inputs are normalized. -/
def recoveryDecision (currentState : SecurityActionState) (checkpoint : RecoveryCheckpoint)
    (activeSevereEvidence : List SevereEvidence) (severeCauseResolved : Bool) :
    Option SecurityActionType × String :=
  if currentState.targetCertificate ≠ .revoked ∧ currentState.unrestricted then
    (none, "NO_RECOVERY_NEEDED")
  else if activeSevereEvidence ≠ [] then (none, "ACTIVE_SEVERE_EVIDENCE")
  else if ¬ recoveryTrustReady checkpoint (recoveryRequirement currentState) then
    (none, "TRUST_RECOVERY_INCOMPLETE")
  else if currentState.targetCertificate = .revoked ∧ ¬ severeCauseResolved then
    (none, "SEVERE_CAUSE_UNRESOLVED")
  else if currentState.targetCertificate = .revoked ∧ currentState.replacement = .required then
    (some .issueReplacementCertificate, "REPLACEMENT_ELIGIBLE")
  else if ¬ currentState.unrestricted then (some .restoreAccess, "ACCESS_RECOVERY_ELIGIBLE")
  else (none, "NO_RECOVERY_NEEDED")

def evaluateSecurityActionRecovery (target : Target) (currentState : SecurityActionState)
    (checkpoint : RecoveryCheckpoint) (activeSevereEvidence : List SevereEvidence)
    (evaluatedAt : Timestamp) (severeCauseResolved : Bool) : Except String RecoveryEvaluation := do
  let currentState ← defineSecurityActionState currentState
  let checkpoint ← normalizeRecoveryCheckpoint checkpoint
  let evidence ← normalizeSevereEvidence ⟨target.tenantId, target.subjectId⟩ evaluatedAt
    activeSevereEvidence
  let (nextActionType, reasonCode) :=
    recoveryDecision currentState checkpoint evidence severeCauseResolved
  return ⟨nextActionType, reasonCode, checkpoint⟩

theorem recoveryDecision_action {currentState : SecurityActionState}
    {checkpoint : RecoveryCheckpoint} {evidence : List SevereEvidence} {resolved : Bool}
    {actionType : SecurityActionType}
    (next : (recoveryDecision currentState checkpoint evidence resolved).1 = some actionType) :
    evidence = [] ∧ actionType.authority = .recoveryAuthorization := by
  unfold recoveryDecision at next
  split at next
  · cases next
  · split at next
    · cases next
    · rename_i quiet
      refine ⟨not_not.mp quiet, ?_⟩
      split at next
      · cases next
      · split at next
        · cases next
        · split at next
          · cases next
            rfl
          · split at next
            · cases next
              rfl
            · cases next

/-- Severe evidence rules out every recovery action. -/
theorem evaluateSecurityActionRecovery_action {target : Target}
    {currentState : SecurityActionState} {checkpoint : RecoveryCheckpoint}
    {evidence : List SevereEvidence} {evaluatedAt : Timestamp} {resolved : Bool}
    {evaluation : RecoveryEvaluation} {actionType : SecurityActionType}
    (evaluated : evaluateSecurityActionRecovery target currentState checkpoint evidence
      evaluatedAt resolved = .ok evaluation)
    (next : evaluation.nextActionType = some actionType) :
    evidence = [] ∧ actionType.authority = .recoveryAuthorization := by
  simp only [evaluateSecurityActionRecovery, normalizeSevereEvidence, Checked.bind_eq_ok,
    Checked.require_eq_ok, Checked.pure_eq_ok, exists_const] at evaluated
  rcases evaluated with ⟨state, _, normalized, _, same, ⟨_, _, _, rfl⟩, rfl⟩
  exact recoveryDecision_action next

/-- Without evidence nothing depends on the time of the evaluation. -/
theorem evaluateSecurityActionRecovery_time (target : Target)
    (currentState : SecurityActionState) (checkpoint : RecoveryCheckpoint) (resolved : Bool)
    (evaluatedAt later : Timestamp) :
    evaluateSecurityActionRecovery target currentState checkpoint [] evaluatedAt resolved =
      evaluateSecurityActionRecovery target currentState checkpoint [] later resolved := rfl

end TenantTrust.Orchestration
