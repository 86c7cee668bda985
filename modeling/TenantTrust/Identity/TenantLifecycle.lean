import TenantTrust.Api.Authorization
import TenantTrust.Identity.Certificates
import TenantTrust.Library.Checked
import Mathlib.Algebra.Group.Int.Defs

/-! The platform procedures that suspend, reactivate and tear down one tenant, and the update
of its row that the tenant's administrator may make. -/

namespace TenantTrust.Identity.TenantLifecycle

open Library
open Api (ActivityState TenantRole)

/-- The largest `bigint`. -/
def MAX_BIGINT : Int := 2 ^ 63 - 1

/-- The `bigint` after a version. -/
def nextVersion (version : Int) : Except SqlError Int := do
  require (version + 1 ≤ MAX_BIGINT) (.raised "bigint out of range")
  return version + 1

structure TenantRecord where
  tenantSlug : String
  displayName : String
  state : ActivityState
  version : Int
  retiredAt : Option Timestamp
  createdAt : Timestamp
  updatedAt : Timestamp
  deriving DecidableEq, Repr

/-- `^[a-z0-9]([a-z0-9-]*[a-z0-9])?$` with 1 to 63 characters. -/
def isSlug (text : String) : Bool :=
  let chars := text.toList
  let plain := fun c : Char => c.isLower || c.isDigit
  chars.head?.any plain && chars.getLast?.any plain && chars.all (fun c => plain c || c = '-') &&
    chars.length ≤ 63

def isDisplayName (text : String) : Bool :=
  let chars := text.toList
  chars.head? ≠ some ' ' && chars.getLast? ≠ some ' ' && 1 ≤ chars.length && chars.length ≤ 120

/-- The checks of `identity.tenants`. -/
def TenantRecord.check (tenant : TenantRecord) : Except SqlError Unit := do
  require (isSlug tenant.tenantSlug) (.checkViolation "tenants_slug_format")
  require (isDisplayName tenant.displayName) (.checkViolation "tenants_display_name_format")
  require (0 < tenant.version) (.checkViolation "tenants_version_positive")
  require (tenant.createdAt ≤ tenant.updatedAt) (.checkViolation "tenants_timestamps_ordered")
  require (tenant.retiredAt = none ∨ tenant.state = .suspended)
    (.checkViolation "tenants_retirement_requires_suspension")
  require (∀ retired, tenant.retiredAt = some retired → tenant.createdAt ≤ retired)
    (.checkViolation "tenants_retirement_after_creation")

/-- A membership, an issuer mapping or an evidence source of the tenant. -/
structure VersionedRow (Key State : Type) where
  key : Key
  state : State
  version : Int
  createdAt : Timestamp
  updatedAt : Timestamp
  deriving DecidableEq, Repr

/-- The states of issuer mappings and of evidence sources. -/
inductive RegistryState where
  | planned | active | suspended | retired
  deriving DecidableEq, Repr

/-- `UPDATE .. SET state = .., version = version + 1 .. WHERE state <> ..` for one row. -/
def VersionedRow.close {Key State : Type} [DecidableEq State] (final : State) (table : String)
    (now : Timestamp) (row : VersionedRow Key State) :
    Except SqlError (VersionedRow Key State) :=
  if row.state = final then .ok row
  else do
    let version ← nextVersion row.version
    require (0 < version) (.checkViolation (table ++ "_version_positive"))
    require (row.createdAt ≤ now) (.checkViolation (table ++ "_timestamps_ordered"))
    return { row with state := final, version := version, updatedAt := now }

/-- `draft` of a trust configuration and `published` of a policy version are both `initial`. -/
inductive RevisionState where
  | initial | active | superseded
  deriving DecidableEq, Repr

/-- A trust configuration or a policy version of the tenant. -/
structure Revision (Key : Type) where
  key : Key
  state : RevisionState
  activatedAt : Option Timestamp
  supersededAt : Option Timestamp
  createdAt : Timestamp
  updatedAt : Timestamp
  deriving DecidableEq, Repr

/-- `trust_configurations_lifecycle` and `policy_versions_lifecycle` -/
def Revision.LifecycleCheck {Key : Type} (revision : Revision Key) : Prop :=
  match revision.state with
  | .initial => revision.activatedAt = none ∧ revision.supersededAt = none
  | .active => revision.activatedAt ≠ none ∧ revision.supersededAt = none
  | .superseded => ∃ activated ∈ revision.activatedAt, ∃ superseded ∈ revision.supersededAt,
      activated ≤ superseded

instance {Key : Type} (revision : Revision Key) : Decidable revision.LifecycleCheck := by
  unfold Revision.LifecycleCheck
  cases revision.state <;> infer_instance

/-- `UPDATE .. SET state = 'superseded' .. WHERE state = 'active'` for one row. -/
def Revision.supersede {Key : Type} (table : String) (now : Timestamp) (revision : Revision Key) :
    Except SqlError (Revision Key) :=
  if revision.state = .active then do
    let next := { revision with
      state := .superseded, supersededAt := some now, updatedAt := now }
    require next.LifecycleCheck (.checkViolation (table ++ "_lifecycle"))
    require (next.createdAt ≤ next.updatedAt) (.checkViolation (table ++ "_timestamps_ordered"))
    return next
  else .ok revision

inductive LifecycleAction where
  | suspended | reactivated | teardownCompleted
  deriving DecidableEq, Repr

/-- The `details` of a teardown. -/
structure TeardownCounts where
  membershipsRetained : Nat
  rolesRemoved : Nat
  resourcesRetained : Nat
  issuersRetired : Nat
  evidenceSourcesRetired : Nat
  trustConfigurationsRetained : Nat
  policyVersionsRetained : Nat
  deriving DecidableEq, Repr

/-- A row of `audit.tenant_lifecycle_events`. -/
structure LifecycleEvent where
  tenantSlug : String
  tenantDisplayName : String
  action : LifecycleAction
  previousState : ActivityState
  newState : ActivityState
  tenantVersion : Int
  reasonCode : String
  requestedBySubjectId : SubjectId
  details : Option TeardownCounts
  recordedAt : Timestamp
  deriving DecidableEq, Repr

/-- The rows of one tenant. Its lifecycle events are listed newest first. -/
structure TenantDatabase where
  tenant : TenantRecord
  memberships : List (VersionedRow SubjectId ActivityState)
  roles : List (SubjectId × TenantRole)
  resources : List String
  issuers : List (VersionedRow IssuerId RegistryState)
  evidenceSources : List (VersionedRow (Identifier .evidenceSource) RegistryState)
  trustConfigurations : List (Revision Nat)
  policyVersions : List (Revision String)
  lifecycleEvents : List LifecycleEvent
  deriving DecidableEq, Repr

/-- What a statement reads of the rows that belong to the platform. -/
structure Platform where
  subjectActive : SubjectId → Bool
  platformAdmin : SubjectId → Bool
  otherSlugs : List String

/-- A transaction of one subject, with the clock of its only statement. -/
structure Caller where
  subjectId : SubjectId
  platform : Platform
  now : Timestamp

def Caller.currentPlatformActorIsAdmin (caller : Caller) : Bool :=
  caller.platform.subjectActive caller.subjectId && caller.platform.platformAdmin caller.subjectId

/-- The insert into `audit.tenant_lifecycle_events`. -/
def TenantDatabase.appendEvent (database : TenantDatabase) (event : LifecycleEvent) :
    Except SqlError TenantDatabase := do
  require (0 < event.tenantVersion)
    (.checkViolation "tenant_lifecycle_events_version_positive")
  require (∀ earlier ∈ database.lifecycleEvents, earlier.tenantVersion ≠ event.tenantVersion)
    (.uniqueViolation "tenant_lifecycle_events_version_unique")
  return { database with lifecycleEvents := event :: database.lifecycleEvents }

/-- The end of each procedure: the update of the tenant row and the audit event. -/
def TenantDatabase.recordChange (database : TenantDatabase) (caller : Caller) (reason : String)
    (action : LifecycleAction) (newState : ActivityState) (retiredAt : Option Timestamp)
    (details : Option TeardownCounts) : Except SqlError (Int × TenantDatabase) := do
  let version ← nextVersion database.tenant.version
  let tenant := { database.tenant with
    state := newState, retiredAt := retiredAt, version := version, updatedAt := caller.now }
  tenant.check
  let written ← { database with tenant := tenant }.appendEvent
    { tenantSlug := database.tenant.tenantSlug
      tenantDisplayName := database.tenant.displayName
      action := action
      previousState := database.tenant.state
      newState := newState
      tenantVersion := version
      reasonCode := reason
      requestedBySubjectId := caller.subjectId
      details := details
      recordedAt := caller.now }
  return (version, written)

/-- The checks that come first in each procedure. -/
def authorizeChange (caller : Caller) (reason : String) : Except SqlError Unit := do
  require caller.currentPlatformActorIsAdmin (.raised "Tenant lifecycle change denied.")
  require (isReasonCode reason) (.raised "Tenant lifecycle reason code is invalid.")

/-- `identity.suspend_tenant` -/
def suspendTenant (caller : Caller) (reason : String) (database : TenantDatabase) :
    Except SqlError (Int × TenantDatabase) := do
  authorizeChange caller reason
  require (database.tenant.retiredAt = none)
    (.raised "Retired tenant cannot change lifecycle state.")
  if database.tenant.state = .suspended then
    return (database.tenant.version, database)
  database.recordChange caller reason .suspended .suspended database.tenant.retiredAt none

/-- `identity.reactivate_tenant` -/
def reactivateTenant (caller : Caller) (reason : String) (database : TenantDatabase) :
    Except SqlError (Int × TenantDatabase) := do
  authorizeChange caller reason
  require (database.tenant.retiredAt = none)
    (.raised "Retired tenant cannot change lifecycle state.")
  if database.tenant.state = .active then
    return (database.tenant.version, database)
  database.recordChange caller reason .reactivated .active database.tenant.retiredAt none

def TenantDatabase.teardownCounts (database : TenantDatabase) : TeardownCounts where
  membershipsRetained := database.memberships.length
  rolesRemoved := database.roles.length
  resourcesRetained := database.resources.length
  issuersRetired := database.issuers.length
  evidenceSourcesRetired := database.evidenceSources.length
  trustConfigurationsRetained := database.trustConfigurations.length
  policyVersionsRetained := database.policyVersions.length

/-- The deletion and the updates of a teardown that come before the tenant row. -/
def TenantDatabase.retireRows (database : TenantDatabase) (now : Timestamp) :
    Except SqlError TenantDatabase := do
  let memberships ← database.memberships.mapM
    (VersionedRow.close .suspended "tenant_memberships" now)
  let issuers ← database.issuers.mapM
    (VersionedRow.close .retired "tenant_issuer_mappings" now)
  let evidenceSources ← database.evidenceSources.mapM
    (VersionedRow.close .retired "evidence_sources" now)
  let trustConfigurations ← database.trustConfigurations.mapM
    (Revision.supersede "trust_configurations" now)
  let policyVersions ← database.policyVersions.mapM (Revision.supersede "policy_versions" now)
  return { database with
    memberships := memberships
    roles := []
    issuers := issuers
    evidenceSources := evidenceSources
    trustConfigurations := trustConfigurations
    policyVersions := policyVersions }

/-- `identity.teardown_tenant` -/
def teardownTenant (caller : Caller) (reason : String) (database : TenantDatabase) :
    Except SqlError (Int × TenantDatabase) := do
  authorizeChange caller reason
  if database.tenant.retiredAt.isSome then
    return (database.tenant.version, database)
  require (database.tenant.state = .suspended)
    (.raised "Tenant must be suspended before teardown.")
  let retired ← database.retireRows caller.now
  retired.recordChange caller reason .teardownCompleted database.tenant.state
    (some caller.now) (some database.teardownCounts)

/-- `identity.current_actor_is_tenant_admin` for the tenant of the actor's context. -/
def TenantDatabase.actorIsTenantAdmin (database : TenantDatabase) (caller : Caller) : Bool :=
  database.tenant.state = .active && caller.platform.subjectActive caller.subjectId &&
    database.memberships.any
      (fun membership => membership.key = caller.subjectId && membership.state = .active) &&
    (caller.subjectId, .tenantAdmin) ∈ database.roles

/-- The columns of its tenant row that `tenant_trust_app` may update. -/
structure TenantChanges where
  tenantSlug : Option String
  displayName : Option String
  version : Option Int
  updatedAt : Option Timestamp
  deriving DecidableEq, Repr

/-- An update of the tenant row by the application role. The policy functions are stable: they
answer from the snapshot the statement began with, also when it then waits for the row. -/
def updateTenant (snapshot : TenantDatabase) (caller : Caller) (changes : TenantChanges)
    (database : TenantDatabase) : Except SqlError TenantDatabase :=
  if snapshot.actorIsTenantAdmin caller then do
    let tenant := { database.tenant with
      tenantSlug := changes.tenantSlug.getD database.tenant.tenantSlug
      displayName := changes.displayName.getD database.tenant.displayName
      version := changes.version.getD database.tenant.version
      updatedAt := changes.updatedAt.getD database.tenant.updatedAt }
    require (tenant.version ≤ MAX_BIGINT) (.raised "bigint out of range")
    tenant.check
    require (tenant.tenantSlug ∉ caller.platform.otherSlugs)
      (.uniqueViolation "tenants_slug_unique")
    return { database with tenant := tenant }
  else .ok database

end TenantTrust.Identity.TenantLifecycle
