import TenantTrust.Identity.DirectoryViews

/-! What the queued triggers still have to check of the administrators of a tenant. -/

namespace TenantTrust.Identity

open Library
open Api (ActivityState TenantRole)

namespace RowTrigger

/-- The trigger of a change that can take an active membership away from the subject. -/
def closesMembership (subjectId : SubjectId) : RowTrigger → Bool
  | .membershipPreservesAdmin changed old new =>
      changed = subjectId && (old = .active && new ≠ some .active)
  | .membershipReferenced moved _ => moved = subjectId
  | .rolePreservesAdmin _ _ | .roleReferences _ => false

/-- The trigger of a change that takes the administrator's role away from the subject. -/
def closesRole (subjectId : SubjectId) : RowTrigger → Bool
  | .rolePreservesAdmin old new =>
      old = (subjectId, .tenantAdmin) && (old.2 = .tenantAdmin && new ≠ some old)
  | .membershipPreservesAdmin _ _ _ | .membershipReferenced _ _ | .roleReferences _ => false

/-- A trigger that, run in this view, either counts the administrators or leaves a removal
unchecked. -/
def guards (view : Directory) (tenantId : TenantId) : RowTrigger → Bool
  | .membershipReferenced subjectId _ => view.hasRole tenantId subjectId .tenantAdmin &&
      view.membership? tenantId subjectId ≠ some .active
  | trigger => trigger.removedActiveAdmin view tenantId

variable {trigger : RowTrigger} {subjectId : SubjectId} {view : Directory} {tenantId : TenantId}

theorem closesMembership_removal (closes : trigger.closesMembership subjectId = true) :
    trigger.isRemoval = true := by
  cases trigger with
  | membershipPreservesAdmin changed old new => exact (Bool.and_eq_true_iff.mp closes).2
  | membershipReferenced moved restrict => rfl
  | rolePreservesAdmin old new => cases closes
  | roleReferences subject => cases closes

theorem closesRole_removal (closes : trigger.closesRole subjectId = true) :
    trigger.isRemoval = true := by
  cases trigger with
  | rolePreservesAdmin old new => exact (Bool.and_eq_true_iff.mp closes).2
  | membershipPreservesAdmin changed old new => cases closes
  | membershipReferenced moved restrict => cases closes
  | roleReferences subject => cases closes

theorem closesRole_guards (closes : trigger.closesRole subjectId = true) :
    trigger.guards view tenantId = true := by
  cases trigger with
  | rolePreservesAdmin old new =>
      have removes := (Bool.and_eq_true_iff.mp closes).2
      exact Bool.and_eq_true_iff.mpr ⟨removes, rfl⟩
  | membershipPreservesAdmin changed old new => cases closes
  | membershipReferenced moved restrict => cases closes
  | roleReferences subject => cases closes

/-- The membership of an administrator that is no longer active is guarded by its trigger. -/
theorem closesMembership_guards (closes : trigger.closesMembership subjectId = true)
    (role : view.hasRole tenantId subjectId .tenantAdmin = true)
    (inactive : view.membership? tenantId subjectId ≠ some .active) :
    trigger.guards view tenantId = true := by
  cases trigger with
  | membershipPreservesAdmin changed old new =>
      have parts := Bool.and_eq_true_iff.mp closes
      have same : changed = subjectId := of_decide_eq_true parts.1
      subst same
      exact Bool.and_eq_true_iff.mpr ⟨parts.2, role⟩
  | membershipReferenced moved restrict =>
      have same : moved = subjectId := of_decide_eq_true closes
      subst same
      exact Bool.and_eq_true_iff.mpr ⟨role, decide_eq_true inactive⟩
  | rolePreservesAdmin old new => cases closes
  | roleReferences subject => cases closes

/-- What becomes of a guarding trigger in a view that has lost no role unnoticed. -/
theorem guards_later {later : Directory} (holds : trigger.guards view tenantId = true)
    (roles : ∀ subjectId, view.hasRole tenantId subjectId .tenantAdmin = true →
      later.hasRole tenantId subjectId .tenantAdmin = true) :
    later.HasActiveAdmin tenantId ∨ trigger.guards later tenantId = true := by
  cases trigger with
  | membershipPreservesAdmin changed old new =>
      have parts := Bool.and_eq_true_iff.mp holds
      exact Or.inr (Bool.and_eq_true_iff.mpr ⟨parts.1, roles _ parts.2⟩)
  | rolePreservesAdmin old new =>
      have parts := Bool.and_eq_true_iff.mp holds
      exact Or.inr (Bool.and_eq_true_iff.mpr ⟨parts.1, rfl⟩)
  | membershipReferenced moved restrict =>
      have role := roles _ (Bool.and_eq_true_iff.mp holds).1
      by_cases active : later.membership? tenantId moved = some .active
      · exact Or.inl (Directory.hasActiveAdmin_iff.mpr ⟨moved, active, role⟩)
      · exact Or.inr (Bool.and_eq_true_iff.mpr ⟨role, decide_eq_true active⟩)
  | roleReferences subject => cases holds

/-- The check of `prevent_last_active_tenant_admin_loss`, where it is made. -/
theorem run_counts (passed : trigger.run view tenantId = .ok ())
    (removed : trigger.removedActiveAdmin view tenantId = true)
    (active : view.tenantActive tenantId = true) : view.HasActiveAdmin tenantId := by
  by_contra none_
  cases trigger with
  | membershipPreservesAdmin changed old new =>
      exact Checked.require_eq_ok.mp passed ⟨removed, active, none_⟩
  | rolePreservesAdmin old new =>
      exact Checked.require_eq_ok.mp passed ⟨removed, active, none_⟩
  | membershipReferenced moved restrict => cases removed
  | roleReferences subject => cases removed

/-- Where a guarding trigger does not count the administrators, it leaves a removal unchecked. -/
theorem guards_unchecked (holds : trigger.guards view tenantId = true)
    (uncounted : (trigger.removedActiveAdmin view tenantId &&
      view.tenantActive tenantId) = false) :
    DirectorySystem.leavesUnchecked view tenantId trigger = true := by
  cases trigger with
  | membershipPreservesAdmin changed old new =>
      have removed : (membershipPreservesAdmin changed old new).removedActiveAdmin view tenantId =
        true := holds
      rw [removed, Bool.true_and] at uncounted
      exact Bool.and_eq_true_iff.mpr ⟨removed, congrArg not uncounted⟩
  | rolePreservesAdmin old new =>
      have removed : (rolePreservesAdmin old new).removedActiveAdmin view tenantId = true := holds
      rw [removed, Bool.true_and] at uncounted
      exact Bool.and_eq_true_iff.mpr ⟨removed, congrArg not uncounted⟩
  | membershipReferenced moved restrict => exact holds
  | roleReferences subject => cases holds

end RowTrigger

namespace Directory

/-- The active memberships and administrator roles that are gone after a change have a trigger
that looks for them. -/
structure Keeps (before after : Directory) (tenantId : TenantId) (pending : List RowTrigger) :
    Prop where
  memberships : ∀ subjectId, before.membership? tenantId subjectId = some .active →
    after.membership? tenantId subjectId = some .active ∨
      ∃ trigger ∈ pending, trigger.closesMembership subjectId = true
  roles : ∀ subjectId, before.hasRole tenantId subjectId .tenantAdmin = true →
    after.hasRole tenantId subjectId .tenantAdmin = true ∨
      ∃ trigger ∈ pending, trigger.closesRole subjectId = true

/-- An administrator is in the view, or a pending trigger guards the last one. -/
def Retains (view : Directory) (tenantId : TenantId) (pending : List RowTrigger) : Prop :=
  view.HasActiveAdmin tenantId ∨ ∃ trigger ∈ pending, trigger.guards view tenantId = true

variable {before between after : Directory} {tenantId : TenantId}
  {pending first second : List RowTrigger}

theorem Keeps.refl : Keeps before before tenantId pending :=
  ⟨fun _ active => Or.inl active, fun _ role => Or.inl role⟩

theorem Keeps.trans (left : Keeps before between tenantId first)
    (right : Keeps between after tenantId second) :
    Keeps before after tenantId (first ++ second) := by
  constructor
  · intro subjectId active
    rcases left.memberships subjectId active with kept | ⟨trigger, member, closes⟩
    · rcases right.memberships subjectId kept with kept | ⟨trigger, member, closes⟩
      · exact Or.inl kept
      · exact Or.inr ⟨trigger, List.mem_append_right first member, closes⟩
    · exact Or.inr ⟨trigger, List.mem_append_left second member, closes⟩
  · intro subjectId role
    rcases left.roles subjectId role with kept | ⟨trigger, member, closes⟩
    · rcases right.roles subjectId kept with kept | ⟨trigger, member, closes⟩
      · exact Or.inl kept
      · exact Or.inr ⟨trigger, List.mem_append_right first member, closes⟩
    · exact Or.inr ⟨trigger, List.mem_append_left second member, closes⟩

/-- Only the triggers of removals matter. -/
theorem Keeps.only (keeps : Keeps before after tenantId first)
    (removals : ∀ trigger ∈ first, trigger.isRemoval = true → trigger ∈ second) :
    Keeps before after tenantId second := by
  constructor
  · intro subjectId active
    rcases keeps.memberships subjectId active with kept | ⟨trigger, member, closes⟩
    · exact Or.inl kept
    · exact Or.inr ⟨trigger, removals trigger member (RowTrigger.closesMembership_removal closes),
        closes⟩
  · intro subjectId role
    rcases keeps.roles subjectId role with kept | ⟨trigger, member, closes⟩
    · exact Or.inl kept
    · exact Or.inr ⟨trigger, removals trigger member (RowTrigger.closesRole_removal closes), closes⟩

theorem Keeps.hasActiveAdmin (keeps : Keeps before after tenantId [])
    (holds : before.HasActiveAdmin tenantId) : after.HasActiveAdmin tenantId := by
  have ⟨subjectId, active, role⟩ := hasActiveAdmin_iff.mp holds
  have membership : after.membership? tenantId subjectId = some .active := by
    simpa using keeps.memberships subjectId active
  have assigned : after.hasRole tenantId subjectId .tenantAdmin = true := by
    simpa using keeps.roles subjectId role
  exact hasActiveAdmin_iff.mpr ⟨subjectId, membership, assigned⟩

/-- An administrator that a view had is in the next one or is guarded there. -/
theorem Keeps.retains_of_admin (keeps : Keeps before after tenantId pending)
    (holds : before.HasActiveAdmin tenantId) : after.Retains tenantId pending := by
  have ⟨subjectId, active, role⟩ := hasActiveAdmin_iff.mp holds
  rcases keeps.roles subjectId role with assigned | ⟨trigger, member, closes⟩
  · by_cases still : after.membership? tenantId subjectId = some .active
    · exact Or.inl (hasActiveAdmin_iff.mpr ⟨subjectId, still, assigned⟩)
    · have ⟨trigger, member, closes⟩ := (keeps.memberships subjectId active).resolve_left still
      exact Or.inr ⟨trigger, member, RowTrigger.closesMembership_guards closes assigned still⟩
  · exact Or.inr ⟨trigger, member, RowTrigger.closesRole_guards closes⟩

theorem Keeps.retains (keeps : Keeps before after tenantId second)
    (holds : before.Retains tenantId first) : after.Retains tenantId (first ++ second) := by
  rcases holds with admin | ⟨trigger, member, guards⟩
  · rcases keeps.retains_of_admin admin with kept | ⟨trigger, member, guards⟩
    · exact Or.inl kept
    · exact Or.inr ⟨trigger, List.mem_append_right first member, guards⟩
  · by_cases lost : ∃ trigger ∈ second, ∃ subjectId, trigger.closesRole subjectId = true
    · have ⟨closing, queued, subjectId, closes⟩ := lost
      exact Or.inr ⟨closing, List.mem_append_right first queued,
        RowTrigger.closesRole_guards closes⟩
    · have roles : ∀ subjectId, before.hasRole tenantId subjectId .tenantAdmin = true →
          after.hasRole tenantId subjectId .tenantAdmin = true := by
        intro subjectId role
        apply (keeps.roles subjectId role).resolve_right
        rintro ⟨closing, queued, closes⟩
        exact lost ⟨closing, queued, subjectId, closes⟩
      rcases RowTrigger.guards_later guards roles with kept | still
      · exact Or.inl kept
      · exact Or.inr ⟨trigger, List.mem_append_left second member, still⟩

end Directory

namespace RowChange

variable {activeSubject : SubjectId → Bool} {view : Directory} {tenantId : TenantId}
  {effect : RowEffect}

theorem keeps_memberships {writes : List (SubjectId × Option ActivityState)}
    {triggers : List RowTrigger}
    (each : ∀ subjectId, view.membership? tenantId subjectId = some .active →
      Overlay.latest writes subjectId (some .active) = some .active ∨
        ∃ trigger ∈ triggers, trigger.closesMembership subjectId = true) :
    view.Keeps (view.overlay tenantId ⟨writes, []⟩) tenantId triggers := by
  constructor
  · intro subjectId active
    rw [Directory.membership?_overlay, active]
    exact each subjectId active
  · intro subjectId role
    rw [Directory.hasRole_overlay, Overlay.latest_nil]
    exact Or.inl role

theorem keeps_roles {writes : List ((SubjectId × TenantRole) × Bool)} {triggers : List RowTrigger}
    (each : ∀ subjectId, view.hasRole tenantId subjectId .tenantAdmin = true →
      Overlay.latest writes (subjectId, .tenantAdmin) true = true ∨
        ∃ trigger ∈ triggers, trigger.closesRole subjectId = true) :
    view.Keeps (view.overlay tenantId ⟨[], writes⟩) tenantId triggers := by
  constructor
  · intro subjectId active
    rw [Directory.membership?_overlay, Overlay.latest_nil]
    exact Or.inl active
  · intro subjectId role
    rw [Directory.hasRole_overlay, role]
    exact each subjectId role

theorem updateMembership_keeps {subjectId : SubjectId} {newSubject : Option SubjectId}
    {newState : Option ActivityState}
    (changed : (RowChange.updateMembership subjectId newSubject newState).effect activeSubject view
      tenantId = .ok effect) :
    view.Keeps (view.overlay tenantId effect.writes) tenantId effect.triggers := by
  simp only [RowChange.effect] at changed
  cases found : view.membership? tenantId subjectId with
  | none =>
      rw [found] at changed
      cases changed
      exact keeps_memberships fun _ _ => Or.inl rfl
  | some old =>
      rw [found] at changed
      simp only [Checked.bind_eq_ok, Checked.require_eq_ok, exists_const] at changed
      have ⟨_, free, written⟩ := changed
      by_cases same : newSubject.getD subjectId = subjectId
      · rw [if_pos same] at written
        cases written
        apply keeps_memberships
        intro other active
        by_cases mine : subjectId = other
        · subst mine
          have was : old = .active := Option.some.inj (found.symm.trans active)
          subst was
          cases newState with
          | none => exact Or.inl (if_pos rfl)
          | some new =>
              by_cases stays : new = .active
              · subst stays
                exact Or.inl (if_pos rfl)
              · refine Or.inr ⟨_, List.mem_singleton_self _, ?_⟩
                simp [RowTrigger.closesMembership, stays]
        · exact Or.inl (if_neg mine)
      · rw [if_neg same] at written
        cases written
        apply keeps_memberships
        intro other active
        by_cases mine : subjectId = other
        · subst mine
          exact Or.inr ⟨_, List.mem_cons_self, decide_eq_true rfl⟩
        · have vacant := free.resolve_left same
          have elsewhere : newSubject.getD subjectId ≠ other := by
            rintro rfl
            cases vacant.symm.trans active
          left
          rw [Overlay.latest, List.foldl_cons, List.foldl_cons, if_neg mine, if_neg elsewhere]
          rfl

theorem updateRole_keeps {old new : SubjectId × TenantRole}
    (changed : (RowChange.updateRole old new).effect activeSubject view tenantId = .ok effect) :
    view.Keeps (view.overlay tenantId effect.writes) tenantId effect.triggers := by
  simp only [RowChange.effect] at changed
  by_cases present : view.hasRole tenantId old.1 old.2 = true
  · rw [if_pos present] at changed
    simp only [Checked.bind_eq_ok, Checked.require_eq_ok, exists_const] at changed
    have ⟨_, _, free, written⟩ := changed
    by_cases same : new = old
    · rw [if_pos same] at written
      cases written
      apply keeps_roles
      intro subjectId role
      left
      rw [Overlay.latest_singleton]
      split <;> rfl
    · rw [if_neg same] at written
      cases written
      apply keeps_roles
      intro subjectId role
      by_cases mine : old = (subjectId, .tenantAdmin)
      · refine Or.inr ⟨_, List.mem_cons_of_mem _ (List.mem_singleton_self _), ?_⟩
        subst mine
        simp [RowTrigger.closesRole, same]
      · left
        rw [Overlay.latest, List.foldl_cons, List.foldl_cons, if_neg mine]
        simp
  · rw [if_neg present] at changed
    cases changed
    exact keeps_roles fun _ _ => Or.inl rfl

/-- What a change takes away, one of its triggers looks for. -/
theorem effect_keeps {change : RowChange}
    (changed : change.effect activeSubject view tenantId = .ok effect) :
    view.Keeps (view.overlay tenantId effect.writes) tenantId effect.triggers := by
  cases change with
  | insertMembership subjectId state =>
      simp only [RowChange.effect, Checked.bind_eq_ok, Checked.require_eq_ok, exists_const]
        at changed
      have ⟨_, _, vacant, written⟩ := changed
      cases written
      apply keeps_memberships
      intro other active
      have elsewhere : subjectId ≠ other := by
        rintro rfl
        cases vacant.symm.trans active
      exact Or.inl (if_neg elsewhere)
  | updateMembership subjectId newSubject newState => exact updateMembership_keeps changed
  | deleteMembership subjectId =>
      simp only [RowChange.effect] at changed
      cases found : view.membership? tenantId subjectId with
      | none =>
          rw [found] at changed
          cases changed
          exact keeps_memberships fun _ _ => Or.inl rfl
      | some old =>
          rw [found] at changed
          cases changed
          apply keeps_memberships
          intro other active
          by_cases mine : subjectId = other
          · exact Or.inr ⟨_, List.mem_cons_self, decide_eq_true mine⟩
          · exact Or.inl (if_neg mine)
  | insertRole subjectId roleName =>
      simp only [RowChange.effect, Checked.bind_eq_ok, Checked.require_eq_ok, exists_const]
        at changed
      have ⟨_, _, _, written⟩ := changed
      cases written
      apply keeps_roles
      intro other role
      left
      rw [Overlay.latest_singleton]
      split <;> rfl
  | updateRole old new => exact updateRole_keeps changed
  | deleteRole subjectId roleName =>
      simp only [RowChange.effect] at changed
      by_cases present : view.hasRole tenantId subjectId roleName = true
      · rw [if_pos present] at changed
        cases changed
        apply keeps_roles
        intro other role
        by_cases mine : (subjectId, roleName) = (other, .tenantAdmin)
        · refine Or.inr ⟨_, List.mem_singleton_self _, ?_⟩
          rw [mine]
          simp [RowTrigger.closesRole]
        · exact Or.inl (if_neg mine)
      · rw [if_neg present] at changed
        cases changed
        exact keeps_roles fun _ _ => Or.inl rfl

end RowChange

end TenantTrust.Identity
