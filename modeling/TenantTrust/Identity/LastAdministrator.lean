import TenantTrust.Identity.AdministratorRetention

/-! Whether an active tenant always keeps an active administrator. -/

namespace TenantTrust.Identity

open Library
open Api (ActivityState TenantRole)

/-- The condition on a commit: a transaction that took a row away does not rely on a check that is
missing or out of date. -/
def DirectorySystem.ChecksAdministrators (system : DirectorySystem) : DirectoryOp → Prop
  | .commit connection => ∀ transaction ∈ system.transactions.get? connection,
      transaction.demotes = true → transaction.stale = false
  | .begin _ _ _ _ | .startStatement _ _ | .writeRow _ _ _ | .fireTrigger _ | .endStatement _
  | .rollback _ | .suspendTenant _ _ _ | .reactivateTenant _ _ _ => True

instance (system : DirectorySystem) : ∀ op, Decidable (system.ChecksAdministrators op)
  | .commit connection => inferInstanceAs (Decidable
      (∀ transaction ∈ system.transactions.get? connection,
        transaction.demotes = true → transaction.stale = false))
  | .begin _ _ _ _ | .startStatement _ _ | .writeRow _ _ _ | .fireTrigger _ | .endStatement _
  | .rollback _ | .suspendTenant _ _ _ | .reactivateTenant _ _ _ => inferInstanceAs (Decidable True)

namespace DirectorySystem

variable {start : Directory} {system next : DirectorySystem} {reply : DirectoryReply}

/-- An operation within a transaction runs on one that is open. -/
theorem within_ok {connection : Nat}
    {op : ActorTransaction → Except DirectoryFailure (DirectorySystem × DirectoryReply)}
    (succeeded : system.within connection op = .ok (next, reply)) :
    ∃ transaction, system.transactions.get? connection = some transaction ∧
      transaction ∈ system.transactions ∧ op transaction = .ok (next, reply) := by
  simp only [within, Checked.bind_eq_ok, Checked.requireSome_eq_ok] at succeeded
  obtain ⟨transaction, found, result⟩ := succeeded
  exact ⟨transaction, found, Table.get?_mem found, result⟩

theorem Watched.step (watched : system.Watched start) {op : DirectoryOp}
    (checks : system.ChecksAdministrators op)
    (succeeded : applyDirectory op system = .ok (next, reply)) : next.Watched start := by
  cases op with
  | begin connection tenantId subjectId activeSubject => exact watched.begin succeeded
  | startStatement connection activeSubject =>
      have ⟨transaction, _, member, result⟩ := within_ok succeeded
      exact watched.startStatement member result
  | writeRow connection change activeSubject =>
      have ⟨transaction, _, member, result⟩ := within_ok succeeded
      exact watched.writeRow member result
  | fireTrigger connection =>
      have ⟨transaction, _, member, result⟩ := within_ok succeeded
      exact watched.fireTrigger member result
  | endStatement connection =>
      have ⟨transaction, _, member, result⟩ := within_ok succeeded
      exact watched.endStatement member result
  | commit connection =>
      have ⟨transaction, found, member, result⟩ := within_ok succeeded
      exact watched.commit member (checks transaction found) result
  | rollback connection =>
      have ⟨transaction, _, _, result⟩ := within_ok succeeded
      cases result
      exact watched.drop transaction.connection
  | suspendTenant isPlatformAdmin tenantId reasonCode =>
      exact watched.changeTenantState succeeded
  | reactivateTenant isPlatformAdmin tenantId reasonCode =>
      exact watched.changeTenantState succeeded

theorem watched_start (directory : Directory) :
    Watched directory ⟨directory, Table.empty⟩ := by
  constructor
  · exact fun _ administered => administered
  · exact fun transaction none_ => absurd none_ (Table.not_mem_empty transaction)
  · exact fun transaction none_ => absurd none_ (Table.not_mem_empty transaction)
  · exact fun left none_ => absurd none_ (Table.not_mem_empty left)

end DirectorySystem

/-- The tenants that had an active administrator have one while they are active. -/
def Directory.AdministratorsKept (start current : Directory) : Prop :=
  ∀ tenantId, start.HasActiveAdmin tenantId → current.tenantActive tenantId = true →
    current.HasActiveAdmin tenantId

/-- In a run whose commits do not rely on an outdated check, every active tenant keeps an active
administrator. -/
theorem administrators_kept (directory : Directory) (ops : List DirectoryOp)
    (checked : Transaction.Guarded applyDirectory DirectorySystem.ChecksAdministrators
      ⟨directory, Table.empty⟩ ops) :
    directory.AdministratorsKept (runDirectory ⟨directory, Table.empty⟩ ops).directory := by
  have step : ∀ (before : DirectorySystem) (op : DirectoryOp) (after : DirectorySystem)
      (reply : DirectoryReply), before.Watched directory → before.ChecksAdministrators op →
      applyDirectory op before = .ok (after, reply) → after.Watched directory :=
    fun _ _ _ _ watched checks succeeded => watched.step checks succeeded
  have watched : (runDirectory ⟨directory, Table.empty⟩ ops).Watched directory :=
    Transaction.run_preserves_guarded _ step _ ops checked
      (DirectorySystem.watched_start directory)
  intro tenantId administered _
  exact watched.retained tenantId administered

namespace AdministratorScenario

def tenantId : TenantId := ⟨1⟩

def first : SubjectId := ⟨1⟩

def second : SubjectId := ⟨2⟩

/-- An active tenant with two administrators. -/
def directory : Directory where
  tenants := Table.empty.upsert ⟨tenantId, .active, false⟩
  memberships := (Table.empty.upsert ⟨tenantId, first, .active⟩).upsert
    ⟨tenantId, second, .active⟩
  roles := (Table.empty.upsert ⟨tenantId, first, .tenantAdmin⟩).upsert
    ⟨tenantId, second, .tenantAdmin⟩

/-- A transaction in which an administrator takes the role away from the other one. -/
def demotion (connection : Nat) (actor other : SubjectId) : List DirectoryOp :=
  [.begin connection tenantId actor fun _ => true, .startStatement connection fun _ => true,
    .writeRow connection (.deleteRole other .tenantAdmin) fun _ => true,
    .fireTrigger connection, .endStatement connection]

/-- Both administrators have deleted the role of the other one when the first commits, and only
then does the trigger of the second run. -/
def overlapping : List DirectoryOp :=
  [.begin 1 tenantId first fun _ => true, .begin 2 tenantId second fun _ => true,
    .startStatement 1 fun _ => true, .startStatement 2 fun _ => true,
    .writeRow 1 (.deleteRole second .tenantAdmin) fun _ => true,
    .writeRow 2 (.deleteRole first .tenantAdmin) fun _ => true,
    .fireTrigger 1, .endStatement 1, .commit 1, .fireTrigger 2, .endStatement 2, .commit 2]

end AdministratorScenario

open AdministratorScenario in
/-- Two administrators who demote each other at the same time leave none. -/
theorem administrators_demote_each_other :
    ¬ ∀ (directory : Directory) (ops : List DirectoryOp),
      directory.AdministratorsKept (runDirectory ⟨directory, Table.empty⟩ ops).directory := by
  intro claim
  have kept := claim directory
    (demotion 1 first second ++ demotion 2 second first ++ [.commit 1, .commit 2])
    tenantId (by decide +kernel) (by decide +kernel)
  have lost : ¬ (runDirectory ⟨directory, Table.empty⟩ (demotion 1 first second ++
      demotion 2 second first ++ [.commit 1, .commit 2])).directory.HasActiveAdmin tenantId := by
    decide +kernel
  exact lost kept

open AdministratorScenario in
/-- Of two demotions that overlap the one that is checked after the other was committed fails. -/
theorem administrators_kept_overlapping :
    directory.AdministratorsKept (runDirectory ⟨directory, Table.empty⟩ overlapping).directory ∧
      (runDirectory ⟨directory, Table.empty⟩ overlapping).directory.hasRole tenantId second
        .tenantAdmin = false ∧
      (runDirectory ⟨directory, Table.empty⟩ overlapping).directory.hasRole tenantId first
        .tenantAdmin = true :=
  ⟨administrators_kept directory _ (by decide +kernel), by decide +kernel, by decide +kernel⟩

end TenantTrust.Identity
