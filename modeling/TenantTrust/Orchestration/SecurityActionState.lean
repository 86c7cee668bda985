import TenantTrust.Library.Checked
import Mathlib.Tactic.ByContra

/-! The security-action state machine of the orchestrator service. -/

namespace TenantTrust.Orchestration

open Library

inductive SecurityActionType where
  | restrictAccess | suspendSubject | blockRenewal | revokeCertificate
  | restoreAccess | issueReplacementCertificate
  deriving DecidableEq, Repr

inductive ActionAuthorityClass where
  | policyQuarantine | severityRule | recoveryAuthorization
  deriving DecidableEq, Repr

inductive AccessState where
  | normal | restricted | suspended
  deriving DecidableEq, Repr

inductive RenewalState where
  | allowed | blocked
  deriving DecidableEq, Repr

inductive TargetCertificateState where
  | active | revoked
  deriving DecidableEq, Repr

inductive ReplacementState where
  | notRequired | required | issued
  deriving DecidableEq, Repr

structure SecurityActionState where
  access : AccessState
  renewal : RenewalState
  targetCertificate : TargetCertificateState
  replacement : ReplacementState
  deriving DecidableEq, Repr

def initialSecurityActionState : SecurityActionState :=
  ⟨.normal, .allowed, .active, .notRequired⟩

/-- The cross-field rules between the four components of a posture. -/
structure SecurityActionState.Consistent (state : SecurityActionState) : Prop where
  suspended_blocked : state.access = .suspended → state.renewal = .blocked
  active_replacement : state.targetCertificate = .active → state.replacement = .notRequired
  revoked_replacement : state.targetCertificate = .revoked → state.replacement ≠ .notRequired
  required_suspended : state.targetCertificate = .revoked → state.replacement = .required →
    state.access = .suspended ∧ state.renewal = .blocked

def defineSecurityActionState (state : SecurityActionState) :
    Except String SecurityActionState := do
  require (¬ (state.access = .suspended ∧ state.renewal ≠ .blocked))
    "SUSPENDED_RENEWAL_MUST_BE_BLOCKED"
  require (¬ (state.targetCertificate = .active ∧ state.replacement ≠ .notRequired))
    "ACTIVE_CERTIFICATE_REPLACEMENT_INVALID"
  require (¬ (state.targetCertificate = .revoked ∧ state.replacement = .notRequired))
    "REVOKED_CERTIFICATE_REPLACEMENT_REQUIRED"
  require (¬ (state.targetCertificate = .revoked ∧ state.replacement = .required ∧
      (state.access ≠ .suspended ∨ state.renewal ≠ .blocked)))
    "REVOKED_CERTIFICATE_RECOVERY_INCOMPLETE"
  return state

theorem defineSecurityActionState_eq_ok {state result : SecurityActionState} :
    defineSecurityActionState state = .ok result ↔ state.Consistent ∧ state = result := by
  simp only [defineSecurityActionState, Checked.bind_eq_ok, Checked.require_eq_ok,
    Checked.pure_eq_ok, exists_const]
  constructor
  · intro passed
    rcases passed with ⟨suspended, active, revoked, required, same⟩
    refine ⟨⟨?_, ?_, ?_, ?_⟩, same⟩
    · intro isSuspended
      by_contra open_
      exact suspended ⟨isSuspended, open_⟩
    · intro isActive
      by_contra needed
      exact active ⟨isActive, needed⟩
    · intro isRevoked missing
      exact revoked ⟨isRevoked, missing⟩
    · intro isRevoked isRequired
      by_contra incomplete
      exact required ⟨isRevoked, isRequired, not_and_or.mp incomplete⟩
  · intro defined
    rcases defined with ⟨consistent, same⟩
    refine ⟨?_, ?_, ?_, ?_, same⟩
    · intro bad
      exact bad.2 (consistent.suspended_blocked bad.1)
    · intro bad
      exact bad.2 (consistent.active_replacement bad.1)
    · intro bad
      exact consistent.revoked_replacement bad.1 bad.2
    · intro bad
      rcases bad with ⟨isRevoked, isRequired, incomplete⟩
      exact not_and_or.mpr incomplete (consistent.required_suspended isRevoked isRequired)

theorem SecurityActionState.Consistent.defined {state : SecurityActionState}
    (consistent : state.Consistent) : defineSecurityActionState state = .ok state :=
  defineSecurityActionState_eq_ok.mpr ⟨consistent, rfl⟩

instance (state : SecurityActionState) : Decidable state.Consistent :=
  decidable_of_iff
    ((state.access = .suspended → state.renewal = .blocked) ∧
      (state.targetCertificate = .active → state.replacement = .notRequired) ∧
      (state.targetCertificate = .revoked → state.replacement ≠ .notRequired) ∧
      (state.targetCertificate = .revoked → state.replacement = .required →
        state.access = .suspended ∧ state.renewal = .blocked))
    ⟨fun h => ⟨h.1, h.2.1, h.2.2.1, h.2.2.2⟩, fun h => ⟨h.1, h.2, h.3, h.4⟩⟩

/-- `SECURITY_ACTION_DEFINITIONS`: who may order an action, and whether it can be undone. -/
def SecurityActionType.authority : SecurityActionType → ActionAuthorityClass
  | .restrictAccess | .suspendSubject => .policyQuarantine
  | .blockRenewal | .revokeCertificate => .severityRule
  | .restoreAccess | .issueReplacementCertificate => .recoveryAuthorization

def SecurityActionType.reversible : SecurityActionType → Bool
  | .restrictAccess | .suspendSubject | .blockRenewal | .restoreAccess => true
  | .revokeCertificate | .issueReplacementCertificate => false

structure SecurityActionTransition where
  actionType : SecurityActionType
  authority : ActionAuthorityClass
  reversible : Bool
  changed : Bool
  targetCertificateReactivated : Bool
  state : SecurityActionState
  deriving DecidableEq, Repr

/-- The `switch` of `transitionSecurityActionState`. -/
def nextSecurityActionState (actionType : SecurityActionType) (current : SecurityActionState) :
    Except String SecurityActionState :=
  match actionType with
  | .restrictAccess =>
      .ok { current with
        access := if current.access = .normal then .restricted else current.access }
  | .suspendSubject => .ok { current with access := .suspended, renewal := .blocked }
  | .blockRenewal => .ok { current with renewal := .blocked }
  | .revokeCertificate =>
      if current.targetCertificate = .revoked then .ok current
      else .ok ⟨.suspended, .blocked, .revoked, .required⟩
  | .issueReplacementCertificate =>
      if current.targetCertificate ≠ .revoked then .error "REPLACEMENT_NOT_REQUIRED"
      else .ok { current with replacement := .issued }
  | .restoreAccess =>
      if current.targetCertificate = .revoked ∧ current.replacement ≠ .issued then
        .error "REPLACEMENT_REQUIRED_BEFORE_RECOVERY"
      else .ok { current with access := .normal, renewal := .allowed }

def transitionSecurityActionState (currentState : SecurityActionState)
    (actionType : SecurityActionType) : Except String SecurityActionTransition := do
  let current ← defineSecurityActionState currentState
  let next ← nextSecurityActionState actionType current
  let state ← defineSecurityActionState next
  return {
    actionType := actionType
    authority := actionType.authority
    reversible := actionType.reversible
    changed := !(decide (current = state))
    targetCertificateReactivated := false
    state := state }

theorem transitionSecurityActionState_eq_ok {currentState : SecurityActionState}
    {actionType : SecurityActionType} {result : SecurityActionTransition}
    (succeeds : transitionSecurityActionState currentState actionType = .ok result) :
    currentState.Consistent ∧ nextSecurityActionState actionType currentState = .ok result.state ∧
      result.state.Consistent := by
  simp only [transitionSecurityActionState, defineSecurityActionState_eq_ok,
    Checked.bind_eq_ok, Checked.pure_eq_ok] at succeeds
  rcases succeeds with ⟨current, ⟨defined, rfl⟩, next, moved, state, ⟨valid, rfl⟩, rfl⟩
  exact ⟨defined, moved, valid⟩

/-- From a consistent posture the state machine only refuses the two recovery steps that
lack their precondition; every restriction succeeds. -/
theorem nextSecurityActionState_consistent {actionType : SecurityActionType}
    {current next : SecurityActionState} (consistent : current.Consistent)
    (moved : nextSecurityActionState actionType current = .ok next) : next.Consistent := by
  rcases current with ⟨access, renewal, certificate, replacement⟩
  cases actionType <;> simp only [nextSecurityActionState] at moved
  all_goals
    revert consistent moved
    revert next
    cases access <;> cases renewal <;> cases certificate <;> cases replacement <;>
      intro next consistent moved <;> revert consistent <;>
      simp_all <;> subst moved <;> decide

theorem restriction_transitions {actionType : SecurityActionType} {current : SecurityActionState}
    (consistent : current.Consistent)
    (restriction : actionType.authority ≠ .recoveryAuthorization) :
    ∃ result, transitionSecurityActionState current actionType = .ok result := by
  have moves : ∃ next, nextSecurityActionState actionType current = .ok next := by
    cases actionType with
    | restrictAccess => exact ⟨_, rfl⟩
    | suspendSubject => exact ⟨_, rfl⟩
    | blockRenewal => exact ⟨_, rfl⟩
    | revokeCertificate =>
        simp only [nextSecurityActionState]
        split <;> exact ⟨_, rfl⟩
    | restoreAccess => exact absurd rfl restriction
    | issueReplacementCertificate => exact absurd rfl restriction
  rcases moves with ⟨next, moved⟩
  have valid := nextSecurityActionState_consistent consistent moved
  simp only [transitionSecurityActionState, consistent.defined]
  exact ⟨_, by simp only [bind, Except.bind, moved, valid.defined]; rfl⟩

end TenantTrust.Orchestration
