import TenantTrust.Api.TenantStatements

/-! Databases with the same rows of one tenant: what the rules and queries of an actor of that
tenant read is the same in both. -/

namespace TenantTrust.Api

open Library Identity

namespace TenantStore

theorem directory_membership? (store : TenantStore) (tenantId : TenantId) (subjectId : SubjectId) :
    store.directory.membership? tenantId subjectId =
      (store.memberships.get? (tenantId, subjectId)).map MembershipRow.state := by
  rw [Directory.membership?, directory, Table.get?_view, Option.map_map]
  rfl

/-- The same rows of a tenant, and of the subjects that are its members. -/
structure AgreesOn (tenantId : TenantId) (left right : TenantStore) : Prop where
  tenants : left.tenants.AgreesOn (fun row => row.tenantId = tenantId) right.tenants
  memberships : left.memberships.AgreesOn (fun row => row.tenantId = tenantId) right.memberships
  roles : left.roles.AgreesOn (fun row => row.tenantId = tenantId) right.roles
  resources : left.resources.AgreesOn (fun row => row.tenantId = tenantId) right.resources
  receipts : left.receipts.AgreesOn (fun row => row.tenantId = tenantId) right.receipts
  subjects : left.subjects.AgreesOn
    (fun row => ∃ membership ∈ left.memberships, membership.key = (tenantId, row.subjectId))
    right.subjects

namespace AgreesOn

variable {tenantId : TenantId} {left middle right : TenantStore} {subjectId : SubjectId}
  {roleName : TenantRole} {actor : Actor}

theorem refl (store : TenantStore) : AgreesOn tenantId store store where
  tenants := Table.AgreesOn.refl _
  memberships := Table.AgreesOn.refl _
  roles := Table.AgreesOn.refl _
  resources := Table.AgreesOn.refl _
  receipts := Table.AgreesOn.refl _
  subjects := Table.AgreesOn.refl _

theorem tenant? (agrees : AgreesOn tenantId left right) :
    left.tenants.get? tenantId = right.tenants.get? tenantId :=
  agrees.tenants.get? fun _ same => same

theorem membershipRow? (agrees : AgreesOn tenantId left right) :
    left.memberships.get? (tenantId, subjectId) = right.memberships.get? (tenantId, subjectId) :=
  agrees.memberships.get? fun _ same => (Prod.mk.inj same).1

theorem tenantActive (agrees : AgreesOn tenantId left right) :
    left.directory.tenantActive tenantId = right.directory.tenantActive tenantId := by
  simp only [Directory.tenantActive, directory, Table.get?_view, agrees.tenant?]

theorem membership? (agrees : AgreesOn tenantId left right) :
    left.directory.membership? tenantId subjectId =
      right.directory.membership? tenantId subjectId := by
  rw [directory_membership?, directory_membership?, agrees.membershipRow?]

theorem role? (agrees : AgreesOn tenantId left right) :
    left.roles.get? (tenantId, subjectId, roleName) =
      right.roles.get? (tenantId, subjectId, roleName) :=
  agrees.roles.get? fun _ same => (Prod.mk.inj same).1

theorem hasRole (agrees : AgreesOn tenantId left right) :
    left.directory.hasRole tenantId subjectId roleName =
      right.directory.hasRole tenantId subjectId roleName := by
  simp only [Directory.hasRole, directory, agrees.role?]

theorem member_exists {state : ActivityState} {store : TenantStore}
    (member : store.directory.membership? tenantId subjectId = some state) :
    ∃ membership ∈ store.memberships, membership.key = (tenantId, subjectId) := by
  rw [directory_membership?, Option.map_eq_some_iff] at member
  obtain ⟨membership, found, _⟩ := member
  exact ⟨membership, Table.get?_mem found, Table.get?_key found⟩

theorem activeSubject (agrees : AgreesOn tenantId left right)
    (member : ∃ membership ∈ left.memberships, membership.key = (tenantId, subjectId)) :
    left.activeSubject subjectId = right.activeSubject subjectId := by
  have same : left.subjects.get? subjectId = right.subjects.get? subjectId := by
    apply agrees.subjects.get?
    intro row equal
    rw [equal]
    exact member
  rw [TenantStore.activeSubject, TenantStore.activeSubject, same]

theorem actorIsActive (agrees : AgreesOn actor.tenantId left right) :
    left.currentActorIsActive actor = right.currentActorIsActive actor := by
  simp only [currentActorIsActive, Directory.actorIsActive, RowTrigger.hasAnyRole,
    agrees.tenantActive, agrees.hasRole]
  by_cases member : left.directory.membership? actor.tenantId actor.subjectId = some .active
  · rw [agrees.activeSubject (member_exists member), agrees.membership?]
  · have other := member
    rw [agrees.membership?] at other
    simp [member, other]

theorem actorIsTenantAdmin (agrees : AgreesOn actor.tenantId left right) :
    left.currentActorIsTenantAdmin actor = right.currentActorIsTenantAdmin actor := by
  have active := agrees.actorIsActive
  simp only [currentActorIsActive] at active
  simp only [currentActorIsTenantAdmin, Directory.actorIsTenantAdmin, active, agrees.hasRole]

theorem adminOf (agrees : AgreesOn actor.tenantId left right) :
    left.adminOf actor = right.adminOf actor := by
  funext other
  rw [TenantStore.adminOf, TenantStore.adminOf, agrees.actorIsTenantAdmin]

theorem showsTenant (agrees : AgreesOn actor.tenantId left right) :
    left.showsTenant actor = right.showsTenant actor := by
  funext other
  rw [TenantStore.showsTenant, TenantStore.showsTenant, agrees.actorIsActive]

theorem showsResource (agrees : AgreesOn actor.tenantId left right) :
    left.showsResource actor = right.showsResource actor := by
  funext row
  rw [TenantStore.showsResource, TenantStore.showsResource, agrees.actorIsActive,
    agrees.actorIsTenantAdmin]

end AgreesOn

variable {left right store : TenantStore} {actor : Actor} {tenantId : TenantId}

theorem showsSubject_iff {row : SubjectRow} : store.showsSubject actor row = true ↔
    store.currentActorIsActive actor = true ∧
      ∃ membership ∈ store.memberships, membership.key = (actor.tenantId, row.subjectId) := by
  simp only [showsSubject, showsTenant, List.any_eq_true, Bool.and_eq_true, decide_eq_true_eq,
    MembershipRow.key, Prod.mk.injEq, Table.mem_def]
  constructor
  · rintro ⟨membership, member, ⟨tenant, active⟩, subject⟩
    exact ⟨active, membership, member, tenant, subject⟩
  · rintro ⟨active, membership, member, tenant, subject⟩
    exact ⟨membership, member, ⟨tenant, active⟩, subject⟩

theorem AgreesOn.showsSubject (agrees : AgreesOn actor.tenantId left right) :
    left.showsSubject actor = right.showsSubject actor := by
  funext row
  rw [Bool.eq_iff_iff, showsSubject_iff, showsSubject_iff, agrees.actorIsActive]
  refine and_congr_right fun _ => exists_congr fun membership => and_congr_left fun same => ?_
  exact agrees.memberships membership (Prod.mk.inj same).1

/-- Stores whose tables have the same rows, in whatever order. -/
structure Same (left right : TenantStore) : Prop where
  tenants : left.tenants.AgreesOn (fun _ => True) right.tenants
  subjects : left.subjects.AgreesOn (fun _ => True) right.subjects
  memberships : left.memberships.AgreesOn (fun _ => True) right.memberships
  roles : left.roles.AgreesOn (fun _ => True) right.roles
  resources : left.resources.AgreesOn (fun _ => True) right.resources

/-- An actor of the tenant is shown the same rows. -/
theorem AgreesOn.seenBy (agrees : AgreesOn actor.tenantId left right) :
    Same (left.seenBy actor) (right.seenBy actor) where
  tenants := by
    simp only [TenantStore.seenBy, ← agrees.showsTenant]
    apply agrees.tenants.shown
    intro row shown
    exact of_decide_eq_true (Bool.and_eq_true_iff.mp shown).1
  subjects := by
    simp only [TenantStore.seenBy, ← agrees.showsSubject]
    apply agrees.subjects.shown
    intro row shown
    exact (showsSubject_iff.mp shown).2
  memberships := by
    simp only [TenantStore.seenBy, ← agrees.showsTenant]
    apply agrees.memberships.shown
    intro row shown
    exact of_decide_eq_true (Bool.and_eq_true_iff.mp shown).1
  roles := by
    simp only [TenantStore.seenBy, ← agrees.showsTenant]
    apply agrees.roles.shown
    intro row shown
    exact of_decide_eq_true (Bool.and_eq_true_iff.mp shown).1
  resources := by
    simp only [TenantStore.seenBy, ← agrees.showsResource]
    apply agrees.resources.shown
    intro row shown
    simp only [TenantStore.showsResource, Bool.and_eq_true, decide_eq_true_eq] at shown
    exact shown.1.1

namespace Same

variable {subjectId : SubjectId} {resourceId : ResourceId} {context : TenantContext}

theorem tenant? (same : Same left right) :
    left.tenants.get? tenantId = right.tenants.get? tenantId :=
  same.tenants.get? fun _ _ => trivial

theorem subject? (same : Same left right) :
    left.subjects.get? subjectId = right.subjects.get? subjectId :=
  same.subjects.get? fun _ _ => trivial

theorem membership? (same : Same left right) :
    left.memberships.get? (tenantId, subjectId) = right.memberships.get? (tenantId, subjectId) :=
  same.memberships.get? fun _ _ => trivial

theorem resource? (same : Same left right) :
    left.resources.get? (tenantId, resourceId) = right.resources.get? (tenantId, resourceId) :=
  same.resources.get? fun _ _ => trivial

theorem rolesOf (same : Same left right) :
    left.rolesOf tenantId subjectId = right.rolesOf tenantId subjectId := by
  have found : ∀ roleName, left.roles.get? (tenantId, subjectId, roleName) =
      right.roles.get? (tenantId, subjectId, roleName) :=
    fun _ => same.roles.get? fun _ _ => trivial
  simp only [TenantStore.rolesOf, found]

theorem authority? (same : Same left right) :
    left.authority? tenantId subjectId = right.authority? tenantId subjectId := by
  simp only [TenantStore.authority?, same.tenant?, same.membership?, same.subject?, same.rolesOf]

theorem profile? (same : Same left right) : left.profile? context = right.profile? context := by
  simp only [TenantStore.profile?, same.tenant?, same.membership?, same.subject?]

theorem reviewedMembership? (same : Same left right) :
    left.reviewedMembership? tenantId subjectId = right.reviewedMembership? tenantId subjectId := by
  simp only [TenantStore.reviewedMembership?, same.membership?, same.subject?, same.rolesOf]

end Same

/-- The identifiers of its rows tell a tenant's resources apart. -/
theorem resource_unique {row other : ResourceRow} (member : row ∈ store.resources)
    (member' : other ∈ store.resources) (tenant : row.tenantId = tenantId)
    (tenant' : other.tenantId = tenantId) (same : row.resourceId = other.resourceId) :
    row = other := by
  apply store.resources.unique member member'
  rw [ResourceRow.key, ResourceRow.key, tenant, tenant', same]

theorem Same.resourcesOf (same : Same left right) :
    left.resourcesOf tenantId = right.resourcesOf tenantId := by
  have tenants : (left.resources.shown fun row => row.tenantId = tenantId).AgreesOn
      (fun _ => True) (right.resources.shown fun row => row.tenantId = tenantId) :=
    same.resources.shown fun _ _ => trivial
  apply tenants.listing
  intro row member other member' rank
  rw [Table.mem_shown, decide_eq_true_iff] at member member'
  exact resource_unique member.1 member'.1 member.2 member'.2 rank

end TenantStore

end TenantTrust.Api
