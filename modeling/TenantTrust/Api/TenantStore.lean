import TenantTrust.Identity.DirectoryViews
import TenantTrust.Library.RowStatements
import TenantTrust.Api.RequestState

/-! The tables behind the protected requests, and the row-level policies of the application role. -/

namespace TenantTrust.Api

open Library Identity

/-- An identifier `res_…`; as for the other identifiers its digits stand for the text. -/
structure ResourceId where
  value : Nat
  deriving DecidableEq, Repr

instance ResourceId.linearOrder : LinearOrder ResourceId :=
  LinearOrder.lift' ResourceId.value (by
    rintro ⟨left⟩ ⟨right⟩ same
    exact congrArg ResourceId.mk same)

/-- An identifier `op_…`. -/
structure OperationId where
  value : Nat
  deriving DecidableEq, Repr

inductive SubjectKind where
  | human | service
  deriving DecidableEq, Repr

structure TenantRow where
  tenantId : TenantId
  tenantSlug : String
  displayName : String
  state : ActivityState
  retired : Bool
  version : Nat
  createdAt : Timestamp
  updatedAt : Timestamp
  deriving DecidableEq, Repr

structure SubjectRow where
  subjectId : SubjectId
  subjectKind : SubjectKind
  displayName : String
  state : ActivityState
  version : Nat
  deriving DecidableEq, Repr

structure MembershipRow where
  tenantId : TenantId
  subjectId : SubjectId
  state : ActivityState
  version : Nat
  createdAt : Timestamp
  updatedAt : Timestamp
  deriving DecidableEq, Repr

def MembershipRow.key (row : MembershipRow) : TenantId × SubjectId := (row.tenantId, row.subjectId)

def MembershipRow.membership (row : MembershipRow) : TenantMembership :=
  ⟨row.tenantId, row.subjectId, row.state⟩

theorem MembershipRow.membership_key (row : MembershipRow) : row.membership.key = row.key := rfl

structure ResourceRow where
  tenantId : TenantId
  resourceId : ResourceId
  ownerSubjectId : SubjectId
  resourceName : String
  version : Nat
  createdAt : Timestamp
  updatedAt : Timestamp
  deriving DecidableEq, Repr

def ResourceRow.key (row : ResourceRow) : TenantId × ResourceId := (row.tenantId, row.resourceId)

/-- A row of `audit.api_sensitive_operation_receipts`. -/
structure OperationReceipt where
  tenantId : TenantId
  actorSubjectId : SubjectId
  action : PolicyAction
  idempotencyKeyHash : Sha256Digest
  requestHash : Sha256Digest
  operationId : OperationId
  deriving DecidableEq, Repr

def OperationReceipt.key (row : OperationReceipt) :
    TenantId × SubjectId × PolicyAction × Sha256Digest :=
  (row.tenantId, row.actorSubjectId, row.action, row.idempotencyKeyHash)

structure TenantStore where
  tenants : Table TenantRow TenantRow.tenantId
  subjects : Table SubjectRow SubjectRow.subjectId
  memberships : Table MembershipRow MembershipRow.key
  roles : Table TenantRoleAssignment TenantRoleAssignment.key
  resources : Table ResourceRow ResourceRow.key
  receipts : Table OperationReceipt OperationReceipt.key

/-- The tenant and subject that `set_tenant_actor_context` binds to a transaction. -/
structure Actor where
  tenantId : TenantId
  subjectId : SubjectId
  deriving DecidableEq, Repr

namespace TenantStore

/-- The columns that the rules of memberships and roles read. -/
def directory (store : TenantStore) : Directory where
  tenants := store.tenants.view (fun row => ⟨row.tenantId, row.state, row.retired⟩) fun _ => rfl
  memberships := store.memberships.view MembershipRow.membership MembershipRow.membership_key
  roles := store.roles

def activeSubject (store : TenantStore) (subjectId : SubjectId) : Bool :=
  (store.subjects.get? subjectId).any fun subject => subject.state = .active

/-- `identity.current_actor_is_active` -/
def currentActorIsActive (store : TenantStore) (actor : Actor) : Bool :=
  store.directory.actorIsActive store.activeSubject actor.tenantId actor.subjectId

/-- `identity.current_actor_is_tenant_admin` -/
def currentActorIsTenantAdmin (store : TenantStore) (actor : Actor) : Bool :=
  store.directory.actorIsTenantAdmin store.activeSubject actor.tenantId actor.subjectId

/-- `tenants_current_tenant`, `memberships_current_tenant` and `tenant_roles_current_tenant` -/
def showsTenant (store : TenantStore) (actor : Actor) (tenantId : TenantId) : Bool :=
  tenantId = actor.tenantId && store.currentActorIsActive actor

/-- `subjects_visible_by_current_membership`; the memberships that it looks for are themselves
subject to their policy. -/
def showsSubject (store : TenantStore) (actor : Actor) (row : SubjectRow) : Bool :=
  store.memberships.rows.any fun membership =>
    store.showsTenant actor membership.tenantId && membership.subjectId = row.subjectId

/-- `resources_current_actor_select`, and the same for the other commands. -/
def showsResource (store : TenantStore) (actor : Actor) (row : ResourceRow) : Bool :=
  row.tenantId = actor.tenantId && store.currentActorIsActive actor &&
  (row.ownerSubjectId = actor.subjectId || store.currentActorIsTenantAdmin actor)

/-- What the queries of the application role see. It has no right to read the receipts. -/
def seenBy (store : TenantStore) (actor : Actor) : TenantStore where
  tenants := store.tenants.shown fun row => store.showsTenant actor row.tenantId
  subjects := store.subjects.shown (store.showsSubject actor)
  memberships := store.memberships.shown fun row => store.showsTenant actor row.tenantId
  roles := store.roles.shown fun row => store.showsTenant actor row.tenantId
  resources := store.resources.shown (store.showsResource actor)
  receipts := Table.empty

/-- `array_agg(role_name ORDER BY role_name::text)` -/
def rolesOf (view : TenantStore) (tenantId : TenantId) (subjectId : SubjectId) : List TenantRole :=
  [TenantRole.tenantAdmin, .tenantMember].filter fun roleName =>
    (view.roles.get? (tenantId, subjectId, roleName)).isSome

end TenantStore

end TenantTrust.Api
