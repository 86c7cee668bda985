import TenantTrust.Api.TenantRequests

/-! Statements that a transaction of the application role can run on the rows of its tenant. -/

namespace TenantTrust.Api

open Library Identity

/-- The SQLSTATE of a failed statement, without its message: the row triggers and the policies
refuse a row of another tenant with the same one. -/
inductive SqlState where
  | insufficientPrivilege | uniqueViolation | foreignKeyViolation | checkViolation
  deriving DecidableEq, Repr

/-- The columns that an `UPDATE` names, each with its expression over the row. Of a tenant the role
may set only these. -/
structure TenantChange where
  tenantSlug : Option (TenantRow → String)
  displayName : Option (TenantRow → String)
  version : Option (TenantRow → Nat)
  updatedAt : Option (TenantRow → Timestamp)

structure MembershipChange where
  tenantId : Option (MembershipRow → TenantId)
  subjectId : Option (MembershipRow → SubjectId)
  state : Option (MembershipRow → ActivityState)
  version : Option (MembershipRow → Nat)
  createdAt : Option (MembershipRow → Timestamp)
  updatedAt : Option (MembershipRow → Timestamp)

structure RoleChange where
  tenantId : Option (TenantRoleAssignment → TenantId)
  subjectId : Option (TenantRoleAssignment → SubjectId)
  roleName : Option (TenantRoleAssignment → TenantRole)

structure ResourceChange where
  tenantId : Option (ResourceRow → TenantId)
  resourceId : Option (ResourceRow → ResourceId)
  ownerSubjectId : Option (ResourceRow → SubjectId)
  resourceName : Option (ResourceRow → String)
  version : Option (ResourceRow → Nat)
  createdAt : Option (ResourceRow → Timestamp)
  updatedAt : Option (ResourceRow → Timestamp)

/-- The value of a column after an `UPDATE`. -/
def setTo {Row Value : Type} (expression : Option (Row → Value)) (row : Row) (old : Value) :
    Value :=
  match expression with
  | none => old
  | some value => value row

def TenantChange.apply (change : TenantChange) (row : TenantRow) : TenantRow :=
  { row with
    tenantSlug := setTo change.tenantSlug row row.tenantSlug
    displayName := setTo change.displayName row row.displayName
    version := setTo change.version row row.version
    updatedAt := setTo change.updatedAt row row.updatedAt }

def MembershipChange.apply (change : MembershipChange) (row : MembershipRow) :
    MembershipRow where
  tenantId := setTo change.tenantId row row.tenantId
  subjectId := setTo change.subjectId row row.subjectId
  state := setTo change.state row row.state
  version := setTo change.version row row.version
  createdAt := setTo change.createdAt row row.createdAt
  updatedAt := setTo change.updatedAt row row.updatedAt

def RoleChange.apply (change : RoleChange) (row : TenantRoleAssignment) :
    TenantRoleAssignment where
  tenantId := setTo change.tenantId row row.tenantId
  subjectId := setTo change.subjectId row row.subjectId
  roleName := setTo change.roleName row row.roleName

def ResourceChange.apply (change : ResourceChange) (row : ResourceRow) : ResourceRow where
  tenantId := setTo change.tenantId row row.tenantId
  resourceId := setTo change.resourceId row row.resourceId
  ownerSubjectId := setTo change.ownerSubjectId row row.ownerSubjectId
  resourceName := setTo change.resourceName row row.resourceName
  version := setTo change.version row row.version
  createdAt := setTo change.createdAt row row.createdAt
  updatedAt := setTo change.updatedAt row row.updatedAt

inductive TenantStatement where
  | tenants (statement : RowStatement TenantRow TenantChange TenantId)
  | memberships
      (statement : RowStatement MembershipRow MembershipChange (TenantId × SubjectId))
  | roles
      (statement : RowStatement TenantRoleAssignment RoleChange
        (TenantId × SubjectId × TenantRole))
  | resources (statement : RowStatement ResourceRow ResourceChange (TenantId × ResourceId))

/-- Whether a trigger `UPDATE OF` some columns is due. An insertion sets every column. -/
def names {Row Change Key : Type} (columns : Change → Bool) : RowStatement Row Change Key → Bool
  | .update _ change => columns change
  | .insert _ | .delete _ => true

/-- `name = btrim(name) AND length(name) BETWEEN 1 AND most` -/
def isTrimmed (most : Nat) (name : String) : Bool :=
  name.toList.head? ≠ some ' ' && name.toList.getLast? ≠ some ' ' &&
  1 ≤ name.length && name.length ≤ most

/-- `^[a-z0-9]([a-z0-9-]*[a-z0-9])?$` of at most 63 characters. -/
def isSlug (slug : String) : Bool :=
  let ends := fun c : Char => c.isLower || c.isDigit
  slug.toList.all (fun c => ends c || c = '-') && slug.toList.head?.any ends &&
  slug.toList.getLast?.any ends && slug.length ≤ 63

namespace TenantStore

/-- The policies of the administrators: the current tenant, by one of its administrators. -/
def adminOf (store : TenantStore) (actor : Actor) (tenantId : TenantId) : Bool :=
  tenantId = actor.tenantId && store.currentActorIsTenantAdmin actor

/-- `enforce_active_membership_subject` -/
def requireActiveSubject (store : TenantStore) (fires : Bool)
    (transition : RowTransition MembershipRow) : Except SqlState Unit :=
  require (fires → ∀ row ∈ transition.new, store.activeSubject row.subjectId)
    .insufficientPrivilege

/-- `enforce_role_on_active_membership`, due whatever column is named. -/
def requireActiveMembership (store : TenantStore)
    (transition : RowTransition TenantRoleAssignment) : Except SqlState Unit :=
  require (∀ row ∈ transition.new,
    store.directory.membership? row.tenantId row.subjectId = some .active) .insufficientPrivilege

/-- `enforce_active_resource_owner` -/
def requireActiveOwner (store : TenantStore) (fires : Bool)
    (transition : RowTransition ResourceRow) : Except SqlState Unit :=
  require (fires → ∀ row ∈ transition.new,
    store.directory.membership? row.tenantId row.ownerSubjectId = some .active ∧
      store.activeSubject row.ownerSubjectId) .insufficientPrivilege

def tenantRules (store : TenantStore) (actor : Actor) :
    RowStatement.Rules TenantRow TenantChange SqlState where
  apply := TenantChange.apply
  admits := fun row => store.adminOf actor row.tenantId
  check := fun row => store.adminOf actor row.tenantId
  valid := fun row => isSlug row.tenantSlug && isTrimmed 120 row.displayName &&
    0 < row.version && row.createdAt ≤ row.updatedAt
  before := fun _ => .ok ()
  denied := .insufficientPrivilege
  invalid := .checkViolation
  occupied := .uniqueViolation

def membershipRules (store : TenantStore) (actor : Actor) (fires : Bool) :
    RowStatement.Rules MembershipRow MembershipChange SqlState where
  apply := MembershipChange.apply
  admits := fun row => store.adminOf actor row.tenantId
  check := fun row => store.adminOf actor row.tenantId
  valid := fun row => 0 < row.version && row.createdAt ≤ row.updatedAt
  before := store.requireActiveSubject fires
  denied := .insufficientPrivilege
  invalid := .checkViolation
  occupied := .uniqueViolation

def roleRules (store : TenantStore) (actor : Actor) :
    RowStatement.Rules TenantRoleAssignment RoleChange SqlState where
  apply := RoleChange.apply
  admits := fun row => store.adminOf actor row.tenantId
  check := fun row => store.adminOf actor row.tenantId
  valid := fun _ => true
  before := store.requireActiveMembership
  denied := .insufficientPrivilege
  invalid := .checkViolation
  occupied := .uniqueViolation

def resourceRules (store : TenantStore) (actor : Actor) (fires : Bool) :
    RowStatement.Rules ResourceRow ResourceChange SqlState where
  apply := ResourceChange.apply
  admits := store.showsResource actor
  check := store.showsResource actor
  valid := fun row => isTrimmed 160 row.resourceName && 0 < row.version &&
    row.createdAt ≤ row.updatedAt
  before := store.requireActiveOwner fires
  denied := .insufficientPrivilege
  invalid := .checkViolation
  occupied := .uniqueViolation

/-- `tenants_slug_unique` -/
def keepsSlugs (after : TenantStore) (transition : RowTransition TenantRow) :
    Except SqlState Unit :=
  require (∀ row ∈ transition.new, ∀ other ∈ after.tenants,
    other.tenantSlug = row.tenantSlug → other.tenantId = row.tenantId) .uniqueViolation

/-- The row triggers after a statement, foreign keys first. -/
def fire (after : TenantStore) (actor : Actor) (triggers : List RowTrigger) :
    Except SqlState Unit :=
  triggers.forM fun trigger =>
    (trigger.run after.directory actor.tenantId).mapError fun failure =>
      match failure with
      | .foreignKeyViolation _ => SqlState.foreignKeyViolation
      | _ => SqlState.checkViolation

def membershipTriggers (namesState : Bool) (old : MembershipRow) (new : Option MembershipRow) :
    List RowTrigger :=
  (if new.map MembershipRow.key = some old.key then []
    else [.membershipReferenced old.subjectId new.isNone]) ++
  if namesState then
    [.membershipPreservesAdmin old.subjectId old.state (new.map MembershipRow.state)] else []

/-- No resource or receipt of the tenant is left without its membership. The other tables that
refer to memberships are not part of the store. -/
def keepsReferences (after : TenantStore) (tenantId : TenantId) (subjectId : SubjectId) :
    Except SqlState Unit :=
  require ((after.memberships.get? (tenantId, subjectId)).isSome ∨
    (∀ row ∈ after.resources, row.tenantId = tenantId → row.ownerSubjectId ≠ subjectId) ∧
      ∀ row ∈ after.receipts, row.tenantId = tenantId → row.actorSubjectId ≠ subjectId)
    .foreignKeyViolation

def afterMembership (after : TenantStore) (actor : Actor) (namesState : Bool)
    (transition : RowTransition MembershipRow) : Except SqlState Unit :=
  match transition.old with
  | none => return ()
  | some old => do
      after.keepsReferences actor.tenantId old.subjectId
      after.fire actor (membershipTriggers namesState old transition.new)

def roleTriggers (transition : RowTransition TenantRoleAssignment) : List RowTrigger :=
  let assigned := fun row : TenantRoleAssignment => (row.subjectId, row.roleName)
  (match transition.new with
    | none => []
    | some new => if transition.old = some new then []
      else [RowTrigger.roleReferences new.subjectId]) ++
  match transition.old with
  | none => []
  | some old => [.rolePreservesAdmin (assigned old) (transition.new.map assigned)]

end TenantStore

/-- The end of a statement: nothing was reached, or the triggers after it run on what it wrote. -/
def finishStatement {Row Key : Type} {key : Row → Key} (store : TenantStore)
    (put : Table Row key → TenantStore)
    (after : TenantStore → RowTransition Row → Except SqlState Unit) :
    Option (Table Row key × RowTransition Row) → Except SqlState TenantStore
  | none => return store
  | some (next, transition) => do
      after (put next) transition
      return put next

/-- A statement of the application role in the context of an actor. Nobody may insert or delete
tenants. -/
def TenantStatement.execute (store : TenantStore) (actor : Actor) :
    TenantStatement → Except SqlState TenantStore
  | tenants (.insert _) => .error .insufficientPrivilege
  | tenants (.delete _) => return store
  | tenants statement => do
      let written ← statement.execute (store.tenantRules actor) store.tenants
      finishStatement store (fun next => { store with tenants := next })
        (fun after transition => after.keepsSlugs transition) written
  | memberships statement => do
      let namesSubject := names
        (fun change => change.tenantId.isSome || change.subjectId.isSome) statement
      let namesState := names (fun change => change.state.isSome) statement
      let written ← statement.execute (store.membershipRules actor namesSubject) store.memberships
      finishStatement store (fun next => { store with memberships := next })
        (fun after transition => after.afterMembership actor namesState transition) written
  | roles statement => do
      let written ← statement.execute (store.roleRules actor) store.roles
      finishStatement store (fun next => { store with roles := next })
        (fun after transition => after.fire actor (TenantStore.roleTriggers transition)) written
  | resources statement => do
      let namesOwner := names
        (fun change => change.tenantId.isSome || change.ownerSubjectId.isSome) statement
      let written ← statement.execute (store.resourceRules actor namesOwner) store.resources
      finishStatement store (fun next => { store with resources := next })
        (fun _ _ => .ok ()) written

/-- A request of a client or a statement in a transaction of a tenant's actor. -/
inductive TenantOp where
  | request (authentication : Authentication) (request : DataRequest)
  | statement (actor : Actor) (statement : TenantStatement)

inductive TenantFailure where
  | request (failure : DataError)
  | statement (failure : SqlState)
  deriving DecidableEq, Repr

inductive TenantReply where
  | served (reply : DataReply)
  | executed
  deriving DecidableEq, Repr

/-- A statement is preceded by `set_tenant_actor_context`. -/
def applyTenant (decisions : RequestDecisions) :
    Transaction TenantStore TenantOp TenantReply TenantFailure
  | .request authentication request, store => do
      let (next, reply) ← (serveRequest decisions authentication request store).mapError .request
      return (next, .served reply)
  | .statement actor statement, store => do
      require (store.currentActorIsActive actor) (.statement .insufficientPrivilege)
      let next ← (statement.execute store actor).mapError .statement
      return (next, .executed)

end TenantTrust.Api
