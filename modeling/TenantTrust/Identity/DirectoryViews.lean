import TenantTrust.Identity.TenantDirectory

/-! What a transaction sees of memberships and roles, and what one change of a row does to it. -/

namespace TenantTrust.Identity

open Library
open Api (ActivityState TenantRole)

namespace Directory

variable {directory : Directory} {tenantId other : TenantId} {subjectId : SubjectId}
  {roleName : TenantRole}

theorem hasActiveAdmin_iff : directory.HasActiveAdmin tenantId ↔
    ∃ subjectId, directory.membership? tenantId subjectId = some .active ∧
      directory.hasRole tenantId subjectId .tenantAdmin = true := by
  constructor
  · rintro ⟨membership, member, assignment, assigned, tenants, subjects, rfl, active, role⟩
    refine ⟨membership.subjectId, ?_, ?_⟩
    · have found : directory.memberships.get? (membership.tenantId, membership.subjectId) =
          some membership := Table.get?_of_mem member
      rw [membership?, found, Option.map_some, active]
    · have key : assignment.key = (membership.tenantId, membership.subjectId, .tenantAdmin) := by
        rw [TenantRoleAssignment.key, tenants, subjects, role]
      have found := Table.get?_of_mem assigned
      rw [key] at found
      rw [hasRole, found]
      rfl
  · rintro ⟨subjectId, active, role⟩
    obtain ⟨membership, found, state⟩ := Option.map_eq_some_iff.mp active
    obtain ⟨assignment, assigned⟩ := Option.isSome_iff_exists.mp role
    have memberKey : membership.key = (tenantId, subjectId) := Table.get?_key found
    have roleKey : assignment.key = (tenantId, subjectId, .tenantAdmin) := Table.get?_key assigned
    have member := Prod.mk.inj memberKey
    have assignee := Prod.mk.inj roleKey
    have rest := Prod.mk.inj assignee.2
    exact ⟨membership, Table.get?_mem found, assignment, Table.get?_mem assigned,
      assignee.1.trans member.1.symm, rest.1.trans member.2.symm, member.1, state, rest.2⟩

theorem membership?_setMembership (write : SubjectId × Option ActivityState) :
    (setMembership tenantId directory write).membership? other subjectId =
      if (tenantId, write.1) = (other, subjectId) then write.2
      else directory.membership? other subjectId := by
  obtain ⟨written, state⟩ := write
  cases state with
  | none =>
      simp only [setMembership, membership?, Table.get?_delete]
      by_cases same : (other, subjectId) = (tenantId, written)
      · rw [if_pos same, if_pos same.symm]
        rfl
      · rw [if_neg same, if_neg fun equal => same equal.symm]
  | some state =>
      simp only [setMembership, membership?, Table.get?_upsert]
      by_cases same : TenantMembership.key ⟨tenantId, written, state⟩ = (other, subjectId)
      · have pair : (tenantId, written) = (other, subjectId) := same
        rw [if_pos same, if_pos pair, Option.map_some]
      · have pair : ¬ (tenantId, written) = (other, subjectId) := same
        rw [if_neg same, if_neg pair]

theorem hasRole_setRole (write : (SubjectId × TenantRole) × Bool) :
    (setRole tenantId directory write).hasRole other subjectId roleName =
      if (tenantId, write.1) = (other, subjectId, roleName) then write.2
      else directory.hasRole other subjectId roleName := by
  obtain ⟨⟨written, role⟩, present⟩ := write
  cases present with
  | false =>
      simp only [setRole, hasRole, Bool.false_eq_true, if_false, Table.get?_delete]
      by_cases same : (other, subjectId, roleName) = (tenantId, written, role)
      · rw [if_pos same, if_pos same.symm]
        rfl
      · rw [if_neg same, if_neg fun equal => same equal.symm]
  | true =>
      simp only [setRole, hasRole, if_true, Table.get?_upsert]
      by_cases same :
          TenantRoleAssignment.key ⟨tenantId, written, role⟩ = (other, subjectId, roleName)
      · have triple : (tenantId, written, role) = (other, subjectId, roleName) := same
        rw [if_pos same, if_pos triple, Option.isSome_some]
      · have triple : ¬ (tenantId, written, role) = (other, subjectId, roleName) := same
        rw [if_neg same, if_neg triple]

@[simp] theorem hasRole_setMembership (write : SubjectId × Option ActivityState) :
    (setMembership tenantId directory write).hasRole other subjectId roleName =
      directory.hasRole other subjectId roleName := by
  unfold setMembership
  split <;> rfl

@[simp] theorem membership?_setRole (write : (SubjectId × TenantRole) × Bool) :
    (setRole tenantId directory write).membership? other subjectId =
      directory.membership? other subjectId := by
  unfold setRole
  split <;> rfl

theorem membership?_foldl (writes : List (SubjectId × Option ActivityState)) :
    (writes.foldl (setMembership tenantId) directory).membership? tenantId subjectId =
      Overlay.latest writes subjectId (directory.membership? tenantId subjectId) := by
  induction writes generalizing directory with
  | nil => rfl
  | cons write rest ih =>
      rw [List.foldl_cons, ih, membership?_setMembership, Overlay.latest, Overlay.latest,
        List.foldl_cons]
      simp only [Prod.mk.injEq, true_and]

theorem hasRole_foldl (writes : List ((SubjectId × TenantRole) × Bool)) :
    (writes.foldl (setRole tenantId) directory).hasRole tenantId subjectId roleName =
      Overlay.latest writes (subjectId, roleName)
        (directory.hasRole tenantId subjectId roleName) := by
  induction writes generalizing directory with
  | nil => rfl
  | cons write rest ih =>
      rw [List.foldl_cons, ih, hasRole_setRole, Overlay.latest, Overlay.latest, List.foldl_cons]
      simp only [Prod.mk.injEq, true_and]

theorem hasRole_foldl_memberships (writes : List (SubjectId × Option ActivityState)) :
    (writes.foldl (setMembership tenantId) directory).hasRole other subjectId roleName =
      directory.hasRole other subjectId roleName := by
  induction writes generalizing directory with
  | nil => rfl
  | cons write rest ih => rw [List.foldl_cons, ih, hasRole_setMembership]

theorem membership?_foldl_roles (writes : List ((SubjectId × TenantRole) × Bool)) :
    (writes.foldl (setRole tenantId) directory).membership? other subjectId =
      directory.membership? other subjectId := by
  induction writes generalizing directory with
  | nil => rfl
  | cons write rest ih => rw [List.foldl_cons, ih, membership?_setRole]

theorem membership?_overlay (writes : OwnWrites) :
    (directory.overlay tenantId writes).membership? tenantId subjectId =
      Overlay.latest writes.memberships subjectId (directory.membership? tenantId subjectId) := by
  rw [overlay, membership?_foldl_roles, membership?_foldl]

theorem hasRole_overlay (writes : OwnWrites) :
    (directory.overlay tenantId writes).hasRole tenantId subjectId roleName =
      Overlay.latest writes.roles (subjectId, roleName)
        (directory.hasRole tenantId subjectId roleName) := by
  rw [overlay, hasRole_foldl, hasRole_foldl_memberships]

/-- The writes of a transaction are rows of its own tenant. -/
theorem membership?_overlay_elsewhere (writes : OwnWrites) (different : tenantId ≠ other) :
    (directory.overlay tenantId writes).membership? other subjectId =
      directory.membership? other subjectId := by
  rw [overlay, membership?_foldl_roles]
  induction writes.memberships generalizing directory with
  | nil => rfl
  | cons write rest ih =>
      rw [List.foldl_cons, ih, membership?_setMembership, if_neg]
      intro same
      exact different (Prod.mk.inj same).1

theorem hasRole_overlay_elsewhere (writes : OwnWrites) (different : tenantId ≠ other) :
    (directory.overlay tenantId writes).hasRole other subjectId roleName =
      directory.hasRole other subjectId roleName := by
  rw [overlay]
  have roles : ∀ before : Directory,
      (writes.roles.foldl (setRole tenantId) before).hasRole other subjectId roleName =
        before.hasRole other subjectId roleName := by
    intro before
    induction writes.roles generalizing before with
    | nil => rfl
    | cons write rest ih =>
        rw [List.foldl_cons, ih, hasRole_setRole, if_neg]
        intro same
        exact different (Prod.mk.inj same).1
  rw [roles, hasRole_foldl_memberships]

/-- No write of a transaction reaches the table of tenants. -/
theorem tenantActive_overlay (writes : OwnWrites) :
    (directory.overlay tenantId writes).tenantActive other = directory.tenantActive other := by
  have memberships : ∀ (list : List (SubjectId × Option ActivityState)) (before : Directory),
      (list.foldl (setMembership tenantId) before).tenants = before.tenants := by
    intro list
    induction list with
    | nil => exact fun _ => rfl
    | cons write rest ih =>
        intro before
        rw [List.foldl_cons, ih]
        unfold setMembership
        split <;> rfl
  have roles : ∀ (list : List ((SubjectId × TenantRole) × Bool)) (before : Directory),
      (list.foldl (setRole tenantId) before).tenants = before.tenants := by
    intro list
    induction list with
    | nil => exact fun _ => rfl
    | cons write rest ih =>
        intro before
        rw [List.foldl_cons, ih]
        unfold setRole
        split <;> rfl
  rw [tenantActive, overlay, roles, memberships]
  rfl

theorem hasActiveAdmin_overlay_elsewhere (writes : OwnWrites) (different : tenantId ≠ other) :
    (directory.overlay tenantId writes).HasActiveAdmin other ↔ directory.HasActiveAdmin other := by
  simp only [hasActiveAdmin_iff, membership?_overlay_elsewhere writes different,
    hasRole_overlay_elsewhere writes different]

end Directory

end TenantTrust.Identity
