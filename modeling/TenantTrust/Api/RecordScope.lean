import TenantTrust.Api.TenantRuns

/-! The records that a request returns: the row-level policy gives out what the role-action matrix
says, although the queries do not ask for an owner. -/

namespace TenantTrust.Api

open Library Identity

/-- The resources of the actor's tenant that a scope admits, in the order of their identifiers. -/
def TenantStore.scoped (store : TenantStore) (actor : Actor) (scope : Scope) : List ResourceRow :=
  (store.resources.shown fun row => row.tenantId = actor.tenantId &&
    (scope ≠ .owner || row.ownerSubjectId = actor.subjectId)).listing ResourceRow.resourceId

section Scope

variable {decisions : RequestDecisions} {authentication : Authentication} {request : DataRequest}
  {context : TenantContext} {store next : TenantStore} {actor : Actor} {tenantId : TenantId}
  {subjectId : SubjectId} {authority : Authority} {rule : RoleActionRule} {roleName : TenantRole}
  {reply : DataReply} {operationId : Option OperationId}

/-- The role that decides is the administrator's, where the context has it. -/
theorem matrix_role (resolved : resolveRoleAction context request.action = some rule) :
    rule.role = .tenantAdmin ∧ TenantRole.tenantAdmin ∈ context.roles ∨
      rule.role = .tenantMember ∧ TenantRole.tenantAdmin ∉ context.roles := by
  simp only [resolveRoleAction, Option.bind_eq_bind, Option.bind_eq_some_iff] at resolved
  obtain ⟨role, chosen, found⟩ := resolved
  have same : rule.role = role := by
    have holds := List.find?_some found
    simp only [Bool.and_eq_true, decide_eq_true_eq] at holds
    exact holds.1
  by_cases admin : TenantRole.tenantAdmin ∈ context.roles
  · left
    rw [List.find?_cons_of_pos (by simpa using admin)] at chosen
    cases chosen
    exact ⟨same, admin⟩
  · right
    rw [List.find?_cons_of_neg (by simpa using admin)] at chosen
    have member := List.mem_of_find?_eq_some chosen
    rw [List.mem_singleton.mp member] at same
    exact ⟨same, admin⟩

/-- Records are read in the scope of the owner by members and of the tenant by administrators. -/
theorem matrix_scope (records : request.action = .recordRead ∨ request.action = .recordExport)
    (resolved : resolveRoleAction context request.action = some rule)
    (eligible : rule.disposition ≠ .deny) :
    (rule.scope = .owner ↔ TenantRole.tenantAdmin ∉ context.roles) := by
  have role := matrix_role resolved
  simp only [resolveRoleAction, Option.bind_eq_bind, Option.bind_eq_some_iff] at resolved
  obtain ⟨chosen, _, found⟩ := resolved
  have member := List.mem_of_find?_eq_some found
  have holds := List.find?_some found
  simp only [Bool.and_eq_true, decide_eq_true_eq] at holds
  have facts : ∀ entry ∈ roleActionMatrix,
      entry.action = .recordRead ∨ entry.action = .recordExport → entry.disposition ≠ .deny →
      (entry.scope = .owner ↔ entry.role = .tenantMember) := by
    decide
  have scope := facts rule member (by rw [holds.2]; exact records) eligible
  rw [scope]
  rcases role with ⟨admin, present⟩ | ⟨plain, absent⟩
  · simp [admin, present]
  · simp [plain, absent]

theorem seen_role (active : store.currentActorIsActive actor = true) :
    ((store.seenBy actor).roles.get? (actor.tenantId, actor.subjectId, roleName)).isSome =
      store.directory.hasRole actor.tenantId actor.subjectId roleName := by
  have agrees : (store.seenBy actor).roles.AgreesOn (fun row => row.tenantId = actor.tenantId)
      store.roles := by
    intro row own
    simp [TenantStore.seenBy, TenantStore.showsTenant, own, active]
  rw [agrees.get? fun row same => (Prod.mk.inj same).1]
  rfl

/-- An active actor is shown its own roles as they are stored. -/
theorem seen_roles (active : store.currentActorIsActive actor = true) :
    (store.seenBy actor).rolesOf actor.tenantId actor.subjectId =
      store.rolesOf actor.tenantId actor.subjectId := by
  rw [TenantStore.rolesOf, TenantStore.rolesOf]
  refine List.filter_congr fun roleName _ => ?_
  rw [seen_role active]
  rfl

/-- The roles of a resolved context are those of the stored rows, the administrator's first. -/
theorem context_roles (active : store.currentActorIsActive actor = true)
    (found : (store.seenBy actor).authority? actor.tenantId actor.subjectId = some authority)
    (resolved : resolveTenantContext actor.tenantId actor.subjectId authority = .ok context) :
    context.roles = store.rolesOf actor.tenantId actor.subjectId := by
  have roles : authority.roles = (store.seenBy actor).rolesOf actor.tenantId actor.subjectId := by
    simp only [TenantStore.authority?, Option.bind_eq_bind, Option.bind_eq_some_iff] at found
    obtain ⟨_, _, _, _, _, _, found⟩ := found
    split at found
    · cases found
    · cases found
      rfl
  rw [(resolved_tenant resolved).2.2, roles, seen_roles active, TenantStore.rolesOf]
  refine List.filter_congr fun roleName listed => ?_
  rw [Bool.eq_iff_iff, decide_eq_true_iff, List.mem_filter]
  exact and_iff_right listed

theorem admin_stored (active : store.currentActorIsActive actor = true) :
    store.currentActorIsTenantAdmin actor =
      store.directory.hasRole actor.tenantId actor.subjectId .tenantAdmin := by
  rw [TenantStore.currentActorIsActive] at active
  rw [TenantStore.currentActorIsTenantAdmin, Directory.actorIsTenantAdmin, active, Bool.true_and]

theorem context_admin (active : store.currentActorIsActive actor = true)
    (roles : context.roles = store.rolesOf actor.tenantId actor.subjectId) :
    TenantRole.tenantAdmin ∈ context.roles ↔ store.currentActorIsTenantAdmin actor = true := by
  rw [admin_stored active, roles]
  simp [TenantStore.rolesOf, Directory.hasRole, TenantStore.directory]

/-- Under row-level security the unrestricted query returns what the scope admits. -/
theorem resourcesOf_scoped (active : store.currentActorIsActive actor = true) {scope : Scope}
    (owner : scope = .owner ↔ ¬ store.currentActorIsTenantAdmin actor = true) :
    (store.seenBy actor).resourcesOf actor.tenantId = store.scoped actor scope := by
  have rows : (((store.seenBy actor).resources.shown
        fun row => row.tenantId = actor.tenantId).rows : List ResourceRow) =
      (store.resources.shown fun row => row.tenantId = actor.tenantId &&
        (scope ≠ .owner || row.ownerSubjectId = actor.subjectId)).rows := by
    simp only [TenantStore.seenBy, Table.shown, List.filter_filter]
    apply List.filter_congr
    intro row _
    by_cases admin : store.currentActorIsTenantAdmin actor = true
    · have wide : scope ≠ .owner := fun same => owner.mp same admin
      simp [TenantStore.showsResource, active, admin, wide]
    · have narrow := owner.mpr admin
      simp [TenantStore.showsResource, active, admin, narrow]
  simp only [TenantStore.resourcesOf, TenantStore.scoped, Table.listing, rows]

theorem authorized_rule
    (authorized : decisions.authorize authentication context request operationId = .ok ()) :
    ∃ rule, resolveRoleAction context request.action = some rule ∧ rule.disposition ≠ .deny := by
  unfold RequestDecisions.authorize at authorized
  split at authorized
  · simp only [RequestDecisions.authorizeBaseline, Checked.bind_eq_ok,
      Checked.requireSome_eq_ok] at authorized
    obtain ⟨rule, found, authorized⟩ := authorized
    refine ⟨rule, found, ?_⟩
    split at authorized
    · simp only [Checked.bind_eq_ok, Checked.require_eq_ok, exists_const] at authorized
      rw [authorized.1.1]
      decide
    · rw [Checked.require_eq_ok.mp authorized]
      decide
  · simp only [evaluateAuthorizationMode, Checked.bind_eq_ok, Checked.requireSome_eq_ok,
      Checked.require_eq_ok, Checked.pure_eq_ok, exists_const] at authorized
    obtain ⟨rule, ⟨_, found, eligible, rfl⟩, _⟩ := authorized
    exact ⟨_, found, eligible⟩

theorem scoped_ids (store : TenantStore) (actor : Actor) (scope : Scope) :
    ((store.scoped actor scope).map ResourceRow.resourceId).Nodup := by
  have sorted : (store.scoped actor scope).Nodup :=
    (List.perm_insertionSort _ _).nodup_iff.mpr (List.Nodup.of_map _ (Table.distinct _))
  apply List.Nodup.map_on _ sorted
  intro row member other member' same
  rw [TenantStore.scoped, Table.mem_listing, Table.mem_shown, Bool.and_eq_true,
    decide_eq_true_iff] at member member'
  exact TenantStore.resource_unique member.1 member'.1 member.2.1 member'.2.1 same

/-- An export that finds as many rows as were asked for has found each of them. -/
theorem all_requested {scope : Scope} {recordIds : List ResourceId}
    (count : ((store.scoped actor scope).filter (·.resourceId ∈ recordIds)).length =
      recordIds.length) :
    ∀ recordId ∈ recordIds, ∃ row ∈ store.scoped actor scope, row.resourceId = recordId := by
  have distinct : (((store.scoped actor scope).filter (·.resourceId ∈ recordIds)).map
      ResourceRow.resourceId).Nodup :=
    (List.filter_sublist.map _).nodup (scoped_ids store actor scope)
  have within : ((store.scoped actor scope).filter (·.resourceId ∈ recordIds)).map
      ResourceRow.resourceId ⊆ recordIds := by
    intro recordId member
    obtain ⟨row, present, rfl⟩ := List.mem_map.mp member
    exact of_decide_eq_true (List.mem_filter.mp present).2
  have perm : (((store.scoped actor scope).filter (·.resourceId ∈ recordIds)).map
      ResourceRow.resourceId).Perm recordIds := by
    apply (List.subperm_of_subset distinct within).perm_of_length_le
    rw [List.length_map, count]
  intro recordId asked
  obtain ⟨row, present, same⟩ := List.mem_map.mp (perm.mem_iff.mpr asked)
  exact ⟨row, (List.mem_filter.mp present).1, same⟩

theorem reserveAndAuthorize_rule {sensitive : SensitiveKey} {metadata : OperationMetadata}
    {receipts receipts' : Table OperationReceipt OperationReceipt.key}
    (succeeded : reserveAndAuthorize decisions authentication context request sensitive receipts =
      .ok (receipts', metadata)) :
    ∃ rule, resolveRoleAction context request.action = some rule ∧ rule.disposition ≠ .deny := by
  simp only [reserveAndAuthorize, Checked.bind_eq_ok, Checked.pure_eq_ok] at succeeded
  obtain ⟨_, first, ⟨table, drawn, replayed⟩, _, _, second, _⟩ := succeeded
  cases selected : decisions.mode with
  | adaptiveTrustOpa =>
      rw [RequestDecisions.authorizeIn, if_pos selected, Checked.mapError_eq_ok] at first
      exact authorized_rule first
  | pkiRbacBaseline =>
      rw [RequestDecisions.authorizeIn, if_pos selected, Checked.mapError_eq_ok] at second
      exact authorized_rule second

/-- A request that is served has resolved the context of an active actor, and its operation has
read the rows that the actor is shown. -/
theorem serveRequest_context
    (served : serveRequest decisions authentication request store = .ok (next, reply)) :
    ∃ context receipts, context.tenantId = authentication.tenantId ∧
      context.subjectId = authentication.subjectId ∧
      store.currentActorIsActive ⟨authentication.tenantId, authentication.subjectId⟩ = true ∧
      context.roles = store.rolesOf authentication.tenantId authentication.subjectId ∧
      request.operation decisions authentication context
        (store.seenBy ⟨authentication.tenantId, authentication.subjectId⟩) store.receipts =
          .ok (receipts, reply) := by
  simp only [serveRequest, Checked.bind_eq_ok, Checked.mapError_eq_ok, Checked.requireSome_eq_ok,
    Checked.require_eq_ok, Checked.pure_eq_ok, Prod.mk.injEq] at served
  obtain ⟨_, _, _, _, _, active, authority, found, context, resolved, _, _,
    ⟨receipts, answer⟩, answered, rfl, rfl⟩ := served
  obtain ⟨tenant, subject, _⟩ := resolved_tenant resolved
  exact ⟨context, receipts, tenant, subject, active, context_roles active found resolved, answered⟩

/-- The records that a request returns are those of the actor's tenant that the scope of the
deciding rule admits. The rule is the one of the matrix for the roles that are stored of the actor:
a member gets its own records, an administrator all of the tenant. -/
theorem records_in_scope
    (served : serveRequest decisions authentication request store = .ok (next, reply))
    (records : request.action = .recordRead ∨ request.action = .recordExport) :
    ∃ context rule, context.tenantId = authentication.tenantId ∧
      context.subjectId = authentication.subjectId ∧
      context.roles = store.rolesOf authentication.tenantId authentication.subjectId ∧
      resolveRoleAction context request.action = some rule ∧
      (rule.scope = .owner ↔ ¬ store.directory.hasRole authentication.tenantId
        authentication.subjectId .tenantAdmin = true) ∧
      (request = .listRecords → reply = .records
        (((store.scoped ⟨authentication.tenantId, authentication.subjectId⟩ rule.scope).take
          100).map mapRecord)) ∧
      (∀ recordId, request = .getRecord recordId → ∃ row ∈
        store.scoped ⟨authentication.tenantId, authentication.subjectId⟩ rule.scope,
          row.resourceId = recordId ∧ reply = .record (mapRecord row)) ∧
      (∀ recordIds sensitive, request = .exportRecords recordIds sensitive →
        (∃ metadata, reply = .exported metadata recordIds.length
          (((store.scoped ⟨authentication.tenantId, authentication.subjectId⟩ rule.scope).filter
            (·.resourceId ∈ recordIds)).map mapRecord)) ∧
        ∀ recordId ∈ recordIds, ∃ row ∈
          store.scoped ⟨authentication.tenantId, authentication.subjectId⟩ rule.scope,
          row.resourceId = recordId) := by
  obtain ⟨context, receipts, tenant, subject, active, roles, answered⟩ :=
    serveRequest_context served
  have admin : TenantRole.tenantAdmin ∈ context.roles ↔ store.currentActorIsTenantAdmin
      ⟨authentication.tenantId, authentication.subjectId⟩ = true := context_admin active roles
  have eligible : ∃ rule, resolveRoleAction context request.action = some rule ∧
      rule.disposition ≠ .deny := by
    cases request with
    | getProfile => simp [DataRequest.action] at records
    | listRecords =>
        simp only [DataRequest.operation, Checked.bind_eq_ok, Checked.mapError_eq_ok] at answered
        obtain ⟨_, authorized, _⟩ := answered
        exact authorized_rule authorized
    | getRecord recordId =>
        simp only [DataRequest.operation, Checked.bind_eq_ok, Checked.mapError_eq_ok] at answered
        obtain ⟨_, authorized, _⟩ := answered
        exact authorized_rule authorized
    | exportRecords recordIds sensitive =>
        simp only [DataRequest.operation, Checked.bind_eq_ok] at answered
        obtain ⟨_, reserved, _⟩ := answered
        exact reserveAndAuthorize_rule reserved
    | reviewMembership subjectId sensitive => simp [DataRequest.action] at records
  obtain ⟨rule, resolved, allowed⟩ := eligible
  have scope : rule.scope = .owner ↔ ¬ store.currentActorIsTenantAdmin
      ⟨authentication.tenantId, authentication.subjectId⟩ = true :=
    (matrix_scope records resolved allowed).trans (not_congr admin)
  have rows := resourcesOf_scoped active scope
  have stored : rule.scope = .owner ↔ ¬ store.directory.hasRole authentication.tenantId
      authentication.subjectId .tenantAdmin = true := by
    rw [scope, admin_stored active]
  refine ⟨context, rule, tenant, subject, roles, resolved, stored, ?_, ?_, ?_⟩
  · rintro rfl
    simp only [DataRequest.operation, Checked.bind_eq_ok, Checked.pure_eq_ok, Prod.mk.injEq,
      tenant] at answered
    obtain ⟨_, _, _, same⟩ := answered
    rw [← same, rows]
  · rintro recordId rfl
    simp only [DataRequest.operation, Checked.bind_eq_ok, Checked.pure_eq_ok, Prod.mk.injEq,
      Checked.requireSome_eq_ok, tenant] at answered
    obtain ⟨_, _, row, found, _, same⟩ := answered
    have found_key : row.key = (authentication.tenantId, recordId) := Table.get?_key found
    have key := Prod.mk.inj found_key
    refine ⟨row, ?_, key.2, same.symm⟩
    rw [← rows, TenantStore.resourcesOf, Table.mem_listing, Table.mem_shown]
    exact ⟨Table.get?_mem found, decide_eq_true key.1⟩
  · rintro recordIds sensitive rfl
    simp only [DataRequest.operation, Checked.bind_eq_ok, Checked.pure_eq_ok, Prod.mk.injEq,
      Checked.require_eq_ok, tenant, rows] at answered
    obtain ⟨⟨table, metadata⟩, _, _, count, _, same⟩ := answered
    rw [count] at same
    exact ⟨⟨metadata, same.symm⟩, all_requested count⟩

end Scope

namespace DataScenario

theorem member_reads : (serveRequest decisions (presented ⟨1⟩ ⟨1⟩) .listRecords home).map Prod.snd =
    .ok (.records [⟨⟨2⟩, ⟨1⟩, "report", 1, 0, 0⟩]) := by
  decide +kernel

end DataScenario

open DataScenario in
theorem records_in_scope_once : ∃ rule : RoleActionRule,
    [⟨⟨2⟩, ⟨1⟩, "report", 1, 0, 0⟩] =
      ((home.scoped ⟨⟨1⟩, ⟨1⟩⟩ rule.scope).take 100).map mapRecord := by
  obtain ⟨⟨next, reply⟩, served, same⟩ := Checked.map_eq_ok.mp member_reads
  obtain ⟨_, rule, _, _, _, _, _, listed, _⟩ := records_in_scope served (Or.inl rfl)
  have equal := (same.symm.trans (listed rfl))
  exact ⟨rule, DataReply.records.inj equal⟩

end TenantTrust.Api
