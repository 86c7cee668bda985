import TenantTrust.Api.Authorization
import TenantTrust.Library.Overlay
import TenantTrust.Library.Transaction

/-! The tables of tenants, memberships and role assignments under concurrent transactions of
tenant administrators. -/

namespace TenantTrust.Identity

open Library
open Api (ActivityState TenantRole)

structure Tenant where
  tenantId : TenantId
  state : ActivityState
  retired : Bool
  deriving DecidableEq, Repr

structure TenantMembership where
  tenantId : TenantId
  subjectId : SubjectId
  state : ActivityState
  deriving DecidableEq, Repr

structure TenantRoleAssignment where
  tenantId : TenantId
  subjectId : SubjectId
  roleName : TenantRole
  deriving DecidableEq, Repr

def TenantMembership.key (row : TenantMembership) : TenantId × SubjectId :=
  (row.tenantId, row.subjectId)

def TenantRoleAssignment.key (row : TenantRoleAssignment) : TenantId × SubjectId × TenantRole :=
  (row.tenantId, row.subjectId, row.roleName)

structure Directory where
  tenants : Table Tenant Tenant.tenantId
  memberships : Table TenantMembership TenantMembership.key
  roles : Table TenantRoleAssignment TenantRoleAssignment.key

namespace Directory

def tenantActive (directory : Directory) (tenantId : TenantId) : Bool :=
  (directory.tenants.get? tenantId).any fun tenant => tenant.state = .active

def membership? (directory : Directory) (tenantId : TenantId) (subjectId : SubjectId) :
    Option ActivityState :=
  (directory.memberships.get? (tenantId, subjectId)).map TenantMembership.state

def hasRole (directory : Directory) (tenantId : TenantId) (subjectId : SubjectId)
    (roleName : TenantRole) : Bool :=
  (directory.roles.get? (tenantId, subjectId, roleName)).isSome

/-- The join that counts the active administrators of a tenant. -/
def HasActiveAdmin (directory : Directory) (tenantId : TenantId) : Prop :=
  ∃ membership ∈ directory.memberships, ∃ assignment ∈ directory.roles,
    assignment.tenantId = membership.tenantId ∧ assignment.subjectId = membership.subjectId ∧
    membership.tenantId = tenantId ∧ membership.state = .active ∧
    assignment.roleName = .tenantAdmin

instance (directory : Directory) (tenantId : TenantId) :
    Decidable (directory.HasActiveAdmin tenantId) :=
  inferInstanceAs (Decidable (∃ membership ∈ directory.memberships.rows,
    ∃ assignment ∈ directory.roles.rows, _ ∧ _ ∧ _ ∧ _ ∧ _))

def setMembership (tenantId : TenantId) (directory : Directory)
    (write : SubjectId × Option ActivityState) : Directory :=
  match write.2 with
  | some state => { directory with
      memberships := directory.memberships.upsert ⟨tenantId, write.1, state⟩ }
  | none => { directory with memberships := directory.memberships.delete (tenantId, write.1) }

def setRole (tenantId : TenantId) (directory : Directory)
    (write : (SubjectId × TenantRole) × Bool) : Directory :=
  if write.2 then { directory with
    roles := directory.roles.upsert ⟨tenantId, write.1.1, write.1.2⟩ }
  else { directory with roles := directory.roles.delete (tenantId, write.1) }

end Directory

/-- The rows that a transaction has written, in order; a row without a value was deleted. -/
structure OwnWrites where
  memberships : List (SubjectId × Option ActivityState)
  roles : List ((SubjectId × TenantRole) × Bool)
  deriving DecidableEq, Repr

/-- What a transaction of a tenant sees: the committed rows under its own writes. -/
def Directory.overlay (directory : Directory) (tenantId : TenantId) (writes : OwnWrites) :
    Directory :=
  let written := writes.memberships.foldl (Directory.setMembership tenantId) directory
  writes.roles.foldl (Directory.setRole tenantId) written

/-- The row triggers that a statement has queued, with the `OLD` and `NEW` they read. -/
inductive RowTrigger where
  | membershipPreservesAdmin (subjectId : SubjectId) (old : ActivityState)
      (new : Option ActivityState)
  | rolePreservesAdmin (old : SubjectId × TenantRole) (new : Option (SubjectId × TenantRole))
  | membershipReferenced (subjectId : SubjectId) (restrict : Bool)
  | roleReferences (subjectId : SubjectId)
  deriving DecidableEq, Repr

namespace RowTrigger

/-- The comparison of `OLD` and `NEW` in `prevent_last_active_tenant_admin_loss`. -/
def removes : RowTrigger → Bool
  | .membershipPreservesAdmin _ old new => old = .active && new ≠ some .active
  | .rolePreservesAdmin old new => old.2 = .tenantAdmin && new ≠ some old
  | .membershipReferenced _ _ | .roleReferences _ => false

/-- `removed_active_admin` -/
def removedActiveAdmin (view : Directory) (tenantId : TenantId) (trigger : RowTrigger) : Bool :=
  trigger.removes &&
  match trigger with
  | .membershipPreservesAdmin subjectId _ _ => view.hasRole tenantId subjectId .tenantAdmin
  | .rolePreservesAdmin _ _ | .membershipReferenced _ _ | .roleReferences _ => true

/-- The trigger of a row that was taken away from a subject. -/
def isRemoval : RowTrigger → Bool
  | .membershipReferenced _ _ => true
  | trigger => trigger.removes

def hasAnyRole (view : Directory) (tenantId : TenantId) (subjectId : SubjectId) : Bool :=
  view.hasRole tenantId subjectId .tenantAdmin || view.hasRole tenantId subjectId .tenantMember

/-- `prevent_last_active_tenant_admin_loss` and the foreign key of the role assignments. A key
that an update moved away is only looked for, a deleted one may not be referenced at all. -/
def run (view : Directory) (tenantId : TenantId) (trigger : RowTrigger) : Except SqlError Unit :=
  match trigger with
  | .membershipPreservesAdmin _ _ _ | .rolePreservesAdmin _ _ =>
      require (¬ (trigger.removedActiveAdmin view tenantId ∧ view.tenantActive tenantId ∧
          ¬ view.HasActiveAdmin tenantId))
        (.raised "Tenant must retain an active administrator.")
  | .membershipReferenced subjectId restrict =>
      require (¬ (hasAnyRole view tenantId subjectId ∧
          (restrict ∨ view.membership? tenantId subjectId = none)))
        (.foreignKeyViolation "tenant_role_assignments_membership_fk")
  | .roleReferences subjectId =>
      require ((view.membership? tenantId subjectId).isSome)
        (.foreignKeyViolation "tenant_role_assignments_membership_fk")

end RowTrigger

/-- A change of one row of the bound tenant. An update names the columns that it sets. -/
inductive RowChange where
  | insertMembership (subjectId : SubjectId) (state : ActivityState)
  | updateMembership (subjectId : SubjectId) (newSubject : Option SubjectId)
      (newState : Option ActivityState)
  | deleteMembership (subjectId : SubjectId)
  | insertRole (subjectId : SubjectId) (roleName : TenantRole)
  | updateRole (old new : SubjectId × TenantRole)
  | deleteRole (subjectId : SubjectId) (roleName : TenantRole)
  deriving DecidableEq, Repr

/-- The rows that a change writes and the triggers that it queues. -/
structure RowEffect where
  writes : OwnWrites
  triggers : List RowTrigger
  deriving DecidableEq, Repr

namespace RowChange

def isInsert : RowChange → Bool
  | .insertMembership _ _ | .insertRole _ _ => true
  | .updateMembership _ _ _ | .deleteMembership _ | .updateRole _ _ | .deleteRole _ _ => false

/-- `enforce_active_membership_subject` -/
def requireActiveSubject (activeSubject : SubjectId → Bool) (subjectId : SubjectId) :
    Except SqlError Unit :=
  require (activeSubject subjectId) (.raised "Membership change denied.")

/-- `enforce_role_on_active_membership` -/
def requireActiveMembership (view : Directory) (tenantId : TenantId) (subjectId : SubjectId) :
    Except SqlError Unit :=
  require (view.membership? tenantId subjectId = some .active)
    (.raised "Tenant role change denied.")

/-- The change of a row in what its transaction sees; an update or deletion of a row that is not
there does nothing. -/
def effect (activeSubject : SubjectId → Bool) (view : Directory) (tenantId : TenantId) :
    RowChange → Except SqlError RowEffect
  | .insertMembership subjectId state => do
      requireActiveSubject activeSubject subjectId
      require (view.membership? tenantId subjectId = none)
        (.uniqueViolation "tenant_memberships_pk")
      return ⟨⟨[(subjectId, some state)], []⟩, []⟩
  | .updateMembership subjectId newSubject newState =>
      match view.membership? tenantId subjectId with
      | none => return ⟨⟨[], []⟩, []⟩
      | some old => do
          let moved := newSubject.getD subjectId
          let state := newState.getD old
          require (newSubject.isSome → activeSubject moved) (.raised "Membership change denied.")
          require (moved = subjectId ∨ view.membership? tenantId moved = none)
            (.uniqueViolation "tenant_memberships_pk")
          let preserves := match newState with
            | none => []
            | some new => [RowTrigger.membershipPreservesAdmin subjectId old (some new)]
          if moved = subjectId then return ⟨⟨[(subjectId, some state)], []⟩, preserves⟩
          else return ⟨⟨[(subjectId, none), (moved, some state)], []⟩,
            .membershipReferenced subjectId false :: preserves⟩
  | .deleteMembership subjectId =>
      match view.membership? tenantId subjectId with
      | none => return ⟨⟨[], []⟩, []⟩
      | some old => return ⟨⟨[(subjectId, none)], []⟩,
          [.membershipReferenced subjectId true, .membershipPreservesAdmin subjectId old none]⟩
  | .insertRole subjectId roleName => do
      requireActiveMembership view tenantId subjectId
      require (¬ view.hasRole tenantId subjectId roleName)
        (.uniqueViolation "tenant_role_assignments_pk")
      return ⟨⟨[], [((subjectId, roleName), true)]⟩, [.roleReferences subjectId]⟩
  | .updateRole old new =>
      if view.hasRole tenantId old.1 old.2 then do
        requireActiveMembership view tenantId new.1
        require (new = old ∨ ¬ view.hasRole tenantId new.1 new.2)
          (.uniqueViolation "tenant_role_assignments_pk")
        let preserves := RowTrigger.rolePreservesAdmin old (some new)
        if new = old then return ⟨⟨[], [(old, true)]⟩, [preserves]⟩
        else return ⟨⟨[], [(old, false), (new, true)]⟩, [.roleReferences new.1, preserves]⟩
      else return ⟨⟨[], []⟩, []⟩
  | .deleteRole subjectId roleName =>
      if view.hasRole tenantId subjectId roleName then
        return ⟨⟨[], [((subjectId, roleName), false)]⟩,
          [.rolePreservesAdmin (subjectId, roleName) none]⟩
      else return ⟨⟨[], []⟩, []⟩

end RowChange

/-- An open transaction of a connection, with whether row-level security admits the rows of the
statement that is running. The last three fields record what it has been through: that it took a
row away from a subject, that the trigger of such a removal has run, and that its last check of
the administrators is missing or out of date. -/
structure ActorTransaction where
  connection : Nat
  tenantId : TenantId
  subjectId : SubjectId
  writes : OwnWrites
  statement : Option Bool
  pending : List RowTrigger
  demotes : Bool
  settled : Bool
  stale : Bool
  deriving DecidableEq, Repr

namespace ActorTransaction

def view (transaction : ActorTransaction) (directory : Directory) : Directory :=
  directory.overlay transaction.tenantId transaction.writes

/-- A row lock that the transaction holds until it ends. -/
def locks (transaction : ActorTransaction) (tenantId : TenantId) (writes : OwnWrites) : Bool :=
  transaction.tenantId = tenantId &&
  (writes.memberships.any (fun write => write.1 ∈ transaction.writes.memberships.map Prod.fst) ||
    writes.roles.any fun write => write.1 ∈ transaction.writes.roles.map Prod.fst)

end ActorTransaction

structure DirectorySystem where
  directory : Directory
  transactions : Table ActorTransaction ActorTransaction.connection

/-- An operation that cannot run now, or a lifecycle call that is refused. -/
inductive DirectoryFailure where
  | waits
  | noTransaction
  | refused (failure : SqlError)
  deriving DecidableEq, Repr

/-- A failed statement ends its transaction. -/
inductive DirectoryReply where
  | done
  | aborted (failure : SqlError)
  deriving DecidableEq, Repr

inductive DirectoryOp where
  | begin (connection : Nat) (tenantId : TenantId) (subjectId : SubjectId)
      (activeSubject : SubjectId → Bool)
  | startStatement (connection : Nat) (activeSubject : SubjectId → Bool)
  | writeRow (connection : Nat) (change : RowChange) (activeSubject : SubjectId → Bool)
  | fireTrigger (connection : Nat)
  | endStatement (connection : Nat)
  | commit (connection : Nat)
  | rollback (connection : Nat)
  | suspendTenant (isPlatformAdmin : Bool) (tenantId : TenantId) (reasonCode : String)
  | reactivateTenant (isPlatformAdmin : Bool) (tenantId : TenantId) (reasonCode : String)

/-- `identity.current_actor_is_active` -/
def Directory.actorIsActive (view : Directory) (activeSubject : SubjectId → Bool)
    (tenantId : TenantId) (subjectId : SubjectId) : Bool :=
  view.tenantActive tenantId && activeSubject subjectId &&
  view.membership? tenantId subjectId = some .active &&
  RowTrigger.hasAnyRole view tenantId subjectId

/-- `identity.current_actor_is_tenant_admin` -/
def Directory.actorIsTenantAdmin (view : Directory) (activeSubject : SubjectId → Bool)
    (tenantId : TenantId) (subjectId : SubjectId) : Bool :=
  view.actorIsActive activeSubject tenantId subjectId &&
  view.hasRole tenantId subjectId .tenantAdmin

namespace DirectorySystem

def put (system : DirectorySystem) (transaction : ActorTransaction) : DirectorySystem :=
  { system with transactions := system.transactions.upsert transaction }

def drop (system : DirectorySystem) (connection : Nat) : DirectorySystem :=
  { system with transactions := system.transactions.delete connection }

/-- Other transactions of the tenant that have run the trigger of a removal did so before a
removal was committed. -/
def outdate (system : DirectorySystem) (tenantId : TenantId) : DirectorySystem :=
  let mark := fun other : ActorTransaction =>
    { other with stale := other.stale || (other.tenantId = tenantId && other.settled) }
  { system with transactions := system.transactions.update mark fun _ => rfl }

/-- `identity.set_tenant_actor_context` at the start of a transaction. -/
def begin (system : DirectorySystem) (connection : Nat) (tenantId : TenantId)
    (subjectId : SubjectId) (activeSubject : SubjectId → Bool) :
    Except DirectoryFailure (DirectorySystem × DirectoryReply) := do
  require (system.transactions.get? connection = none) .waits
  let failure := SqlError.raised "Tenant actor context denied."
  if system.directory.actorIsActive activeSubject tenantId subjectId then
    return (system.put ⟨connection, tenantId, subjectId, ⟨[], []⟩, none, [], false, false, false⟩,
      .done)
  else return (system, .aborted failure)

def startStatement (system : DirectorySystem) (transaction : ActorTransaction)
    (activeSubject : SubjectId → Bool) :
    Except DirectoryFailure (DirectorySystem × DirectoryReply) := do
  require (transaction.statement = none) .waits
  let admitted := (transaction.view system.directory).actorIsTenantAdmin activeSubject
    transaction.tenantId transaction.subjectId
  return (system.put { transaction with statement := some admitted }, .done)

/-- One row of the running statement. A row that another transaction has written is waited for. -/
def writeRow (system : DirectorySystem) (transaction : ActorTransaction) (change : RowChange)
    (activeSubject : SubjectId → Bool) :
    Except DirectoryFailure (DirectorySystem × DirectoryReply) :=
  match transaction.statement with
  | none => .error .waits
  | some false =>
      if change.isInsert then .ok (system.drop transaction.connection,
        .aborted (.raised "new row violates row-level security policy"))
      else .ok (system, .done)
  | some true =>
      match change.effect activeSubject (transaction.view system.directory)
          transaction.tenantId with
      | .error failure => .ok (system.drop transaction.connection, .aborted failure)
      | .ok effect =>
          if ∃ other ∈ system.transactions, other.connection ≠ transaction.connection ∧
              other.locks transaction.tenantId effect.writes = true then .error .waits
          else .ok (system.put { transaction with
            writes := ⟨transaction.writes.memberships ++ effect.writes.memberships,
              transaction.writes.roles ++ effect.writes.roles⟩
            pending := transaction.pending ++ effect.triggers
            demotes := transaction.demotes || effect.triggers.any RowTrigger.isRemoval }, .done)

/-- Whether the trigger leaves a removal unchecked: the tenant is not active, or the row that a
referenced key moved away from was replaced by one that is not active. -/
def leavesUnchecked (view : Directory) (tenantId : TenantId) : RowTrigger → Bool
  | .membershipReferenced subjectId _ => view.hasRole tenantId subjectId .tenantAdmin &&
      view.membership? tenantId subjectId ≠ some .active
  | trigger => trigger.removedActiveAdmin view tenantId && !view.tenantActive tenantId

def fireTrigger (system : DirectorySystem) (transaction : ActorTransaction) :
    Except DirectoryFailure (DirectorySystem × DirectoryReply) :=
  match transaction.pending with
  | [] => .error .waits
  | trigger :: rest =>
      let view := transaction.view system.directory
      match trigger.run view transaction.tenantId with
      | .error failure => .ok (system.drop transaction.connection, .aborted failure)
      | .ok () =>
          let checked := trigger.removedActiveAdmin view transaction.tenantId &&
            view.tenantActive transaction.tenantId
          .ok (system.put { transaction with
            pending := rest
            settled := transaction.settled || trigger.isRemoval
            stale := !checked && (transaction.stale ||
              leavesUnchecked view transaction.tenantId trigger) }, .done)

def endStatement (system : DirectorySystem) (transaction : ActorTransaction) :
    Except DirectoryFailure (DirectorySystem × DirectoryReply) := do
  require (transaction.statement.isSome ∧ transaction.pending = []) .waits
  return (system.put { transaction with statement := none }, .done)

def commit (system : DirectorySystem) (transaction : ActorTransaction) :
    Except DirectoryFailure (DirectorySystem × DirectoryReply) := do
  require (transaction.statement = none) .waits
  let committed := { system.drop transaction.connection with
    directory := transaction.view system.directory }
  return (if transaction.demotes then committed.outdate transaction.tenantId else committed, .done)

/-- `identity.suspend_tenant` and `identity.reactivate_tenant`, which differ in the state they
set. -/
def changeTenantState (system : DirectorySystem) (isPlatformAdmin : Bool) (tenantId : TenantId)
    (reasonCode : String) (state : ActivityState) :
    Except DirectoryFailure (DirectorySystem × DirectoryReply) := do
  let denied := SqlError.raised "Tenant lifecycle change denied."
  require isPlatformAdmin (.refused denied)
  require (isReasonCode reasonCode)
    (.refused (.raised "Tenant lifecycle reason code is invalid."))
  let tenant ← requireSome (system.directory.tenants.get? tenantId) (.refused denied)
  require (¬ tenant.retired)
    (.refused (.raised "Retired tenant cannot change lifecycle state."))
  if tenant.state = state then return (system, .done)
  else return ({ system with directory := { system.directory with
    tenants := system.directory.tenants.upsert { tenant with state := state } } }, .done)

/-- An operation of an open transaction. -/
def within (system : DirectorySystem) (connection : Nat)
    (op : ActorTransaction → Except DirectoryFailure (DirectorySystem × DirectoryReply)) :
    Except DirectoryFailure (DirectorySystem × DirectoryReply) := do
  let transaction ← requireSome (system.transactions.get? connection) .noTransaction
  op transaction

end DirectorySystem

def applyDirectory : Transaction DirectorySystem DirectoryOp DirectoryReply DirectoryFailure
  | .begin connection tenantId subjectId activeSubject, system =>
      system.begin connection tenantId subjectId activeSubject
  | .startStatement connection activeSubject, system =>
      system.within connection fun transaction => system.startStatement transaction activeSubject
  | .writeRow connection change activeSubject, system =>
      system.within connection fun transaction => system.writeRow transaction change activeSubject
  | .fireTrigger connection, system => system.within connection system.fireTrigger
  | .endStatement connection, system => system.within connection system.endStatement
  | .commit connection, system => system.within connection system.commit
  | .rollback connection, system => system.within connection fun transaction =>
      .ok (system.drop transaction.connection, .done)
  | .suspendTenant isPlatformAdmin tenantId reasonCode, system =>
      system.changeTenantState isPlatformAdmin tenantId reasonCode .suspended
  | .reactivateTenant isPlatformAdmin tenantId reasonCode, system =>
      system.changeTenantState isPlatformAdmin tenantId reasonCode .active

abbrev runDirectory : DirectorySystem → List DirectoryOp → DirectorySystem :=
  Transaction.run applyDirectory

end TenantTrust.Identity
