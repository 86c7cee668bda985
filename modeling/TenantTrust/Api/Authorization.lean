import TenantTrust.Identity.Certificates

/-! The tenant context of a request and the role-action matrix in adaptive mode. -/

namespace TenantTrust.Api

open Library Identity

inductive ActivityState where
  | active | suspended
  deriving DecidableEq, Repr

inductive TenantRole where
  | tenantAdmin | tenantMember
  deriving DecidableEq, Repr

instance : LawfulBEq (SubjectId × TenantRole) := inferInstance

inductive PolicyAction where
  | profileRead | recordRead | recordWrite | recordExport | tenantAdmin
  | memberManage | certificateManage | adminKeyRotate
  deriving DecidableEq, Repr

def PolicyAction.text : PolicyAction → String
  | .profileRead => "profile:read"
  | .recordRead => "record:read"
  | .recordWrite => "record:write"
  | .recordExport => "record:export"
  | .tenantAdmin => "tenant:admin"
  | .memberManage => "member:manage"
  | .certificateManage => "certificate:manage"
  | .adminKeyRotate => "admin-key:rotate"

inductive ResourceType where
  | subjectProfile | tenantRecord | tenantRecordExport | tenantAdministration | unknown
  deriving DecidableEq, Repr

inductive Sensitivity where
  | confidential | sensitive | critical | restricted
  deriving DecidableEq, Repr

inductive Disposition where
  | allow | deny | requiresControls
  deriving DecidableEq, Repr

inductive Scope where
  | self | owner | tenant | none
  deriving DecidableEq, Repr

inductive ApiError where
  | accessDenied
  | certificateNotAccepted
  | requestStateUnavailable
  | policyUnavailable (reasonCode : String)
  | quarantineEnforced
  | recordedPolicyDenial
  | database (error : SqlError)
  deriving DecidableEq, Repr

/-- The authority row that was read for the authenticated tenant and subject. -/
structure Authority where
  tenantState : ActivityState
  subjectState : ActivityState
  membershipState : ActivityState
  tenantVersion : Nat
  subjectVersion : Nat
  membershipVersion : Nat
  roles : List TenantRole
  deriving DecidableEq, Repr

structure AuthorityVersions where
  tenant : Nat
  subject : Nat
  membership : Nat
  deriving DecidableEq, Repr

structure TenantContext where
  tenantId : TenantId
  subjectId : SubjectId
  roles : List TenantRole
  versions : AuthorityVersions
  deriving DecidableEq, Repr

/-- A positive safe integer. -/
def isPositiveVersion (version : Nat) : Bool := 0 < version && version ≤ 9007199254740991

/-- The checks of `resolveTenantContext` on an authority row; every denial is reported as
`AccessDeniedError`. -/
def resolveTenantContext (tenantId : TenantId) (subjectId : SubjectId) (authority : Authority) :
    Except ApiError TenantContext := do
  require (authority.tenantState = .active) .accessDenied
  require (authority.subjectState = .active) .accessDenied
  require (authority.membershipState = .active) .accessDenied
  require (isPositiveVersion authority.tenantVersion ∧ isPositiveVersion authority.subjectVersion ∧
    isPositiveVersion authority.membershipVersion) .accessDenied
  require (authority.roles ≠ []) .accessDenied
  return {
    tenantId := tenantId
    subjectId := subjectId
    roles := [TenantRole.tenantAdmin, .tenantMember].filter (· ∈ authority.roles)
    versions := ⟨authority.tenantVersion, authority.subjectVersion, authority.membershipVersion⟩ }

structure RoleActionRule where
  role : TenantRole
  action : PolicyAction
  resourceType : ResourceType
  sensitivity : Sensitivity
  disposition : Disposition
  scope : Scope
  reason : String
  deriving DecidableEq, Repr

def resourceType : PolicyAction → ResourceType
  | .profileRead => .subjectProfile
  | .recordRead | .recordWrite => .tenantRecord
  | .recordExport => .tenantRecordExport
  | .tenantAdmin => .tenantAdministration
  | .memberManage | .certificateManage | .adminKeyRotate => .unknown

def resourceSensitivity : PolicyAction → Sensitivity
  | .profileRead | .recordRead | .recordWrite => .confidential
  | .recordExport => .sensitive
  | .tenantAdmin => .critical
  | .memberManage | .certificateManage | .adminKeyRotate => .restricted

def rule (role : TenantRole) (action : PolicyAction) (disposition : Disposition) (scope : Scope)
    (reason : String) : RoleActionRule where
  role := role
  action := action
  resourceType := resourceType action
  sensitivity := resourceSensitivity action
  disposition := disposition
  scope := scope
  reason := reason

def roleActionMatrix : List RoleActionRule :=
  [rule .tenantMember .profileRead .allow .self "member-self-profile",
   rule .tenantMember .recordRead .allow .owner "member-owned-record",
   rule .tenantMember .recordWrite .allow .owner "member-owned-record",
   rule .tenantMember .recordExport .deny .none "role-not-eligible",
   rule .tenantMember .tenantAdmin .deny .none "role-not-eligible",
   rule .tenantAdmin .profileRead .allow .self "admin-self-profile",
   rule .tenantAdmin .recordRead .allow .tenant "admin-tenant-record",
   rule .tenantAdmin .recordWrite .allow .tenant "admin-tenant-record",
   rule .tenantAdmin .recordExport .requiresControls .tenant "sensitive-operation",
   rule .tenantAdmin .tenantAdmin .requiresControls .tenant "critical-operation"]

/-- The rule of the first role by precedence; `none` stands for `DEFAULT_DENIAL`. -/
def resolveRoleAction (context : TenantContext) (action : PolicyAction) :
    Option RoleActionRule := do
  let role ← [TenantRole.tenantAdmin, .tenantMember].find? (· ∈ context.roles)
  roleActionMatrix.find? fun entry => entry.role = role && entry.action = action

/-- The eligibility behind a `policy-required` outcome of the adaptive mode; an action whose
disposition is `deny` has the outcome `deny`. -/
def evaluateAuthorizationMode (context : TenantContext) (action : PolicyAction) :
    Except ApiError RoleActionRule := do
  let eligibility ← requireSome (resolveRoleAction context action) .accessDenied
  require (eligibility.disposition ≠ .deny) .accessDenied
  return eligibility

end TenantTrust.Api
