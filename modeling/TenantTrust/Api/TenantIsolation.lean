import TenantTrust.Api.TenantAgreement

/-! Tenants do not see each other: the requests and statements of one tenant come out as its own
rows decide, and change no row of another. -/

namespace TenantTrust.Api

open Library Identity

section Receipts

variable {tenantId : TenantId} {receipt : OperationReceipt}
  {left right next : Table OperationReceipt OperationReceipt.key} {operationId : OperationId}
  {replayed : Bool}

theorem reserve_outside (own : receipt.tenantId = tenantId)
    (reserved : reserveSensitiveOperation receipt left = .ok (next, operationId, replayed)) :
    left.AgreesOn (fun row => ¬ row.tenantId = tenantId) next := by
  unfold reserveSensitiveOperation at reserved
  split at reserved
  · simp only [Checked.bind_eq_ok, Checked.require_eq_ok, Checked.pure_eq_ok, exists_const,
      Prod.mk.injEq] at reserved
    obtain ⟨_, rfl, _⟩ := reserved
    exact Table.AgreesOn.refl _
  · simp only [Checked.bind_eq_ok, Checked.require_eq_ok, Checked.requireSome_eq_ok,
      Checked.pure_eq_ok, exists_const, Prod.mk.injEq] at reserved
    obtain ⟨_, inserted, succeeded, rfl, _⟩ := reserved
    intro row outside
    rw [Table.mem_insertNew succeeded]
    constructor
    · exact Or.inl
    · rintro (member | rfl)
      · exact member
      · exact absurd own outside

/-- The receipts of other tenants do not have an operation's identifier. -/
def FreeElsewhere (tenantId : TenantId) (operationId : OperationId)
    (receipts : Table OperationReceipt OperationReceipt.key) : Prop :=
  ∀ other ∈ receipts, other.operationId = operationId → other.tenantId = tenantId

theorem reserve_agrees (own : receipt.tenantId = tenantId)
    (agrees : left.AgreesOn (fun row => row.tenantId = tenantId) right)
    (free : FreeElsewhere tenantId receipt.operationId left)
    (free' : FreeElsewhere tenantId receipt.operationId right) :
    Checked.Alike
      (fun first second => first.1.AgreesOn (fun row => row.tenantId = tenantId) second.1 ∧
        first.2 = second.2)
      (reserveSensitiveOperation receipt left) (reserveSensitiveOperation receipt right) := by
  have found : left.get? receipt.key = right.get? receipt.key :=
    agrees.get? fun row same => (Prod.mk.inj same).1.trans own
  have untaken : (∀ other ∈ left, other.operationId ≠ receipt.operationId) ↔
      ∀ other ∈ right, other.operationId ≠ receipt.operationId := by
    constructor
    · intro absent other member same
      have ofTenant := free' other member same
      exact absent other ((agrees other ofTenant).mpr member) same
    · intro absent other member same
      have ofTenant := free other member same
      exact absent other ((agrees other ofTenant).mp member) same
  unfold reserveSensitiveOperation
  rw [found]
  cases present : right.get? receipt.key with
  | some existing =>
      refine Checked.alike_bind_same fun _ _ => ?_
      exact Checked.Alike.succeeded ⟨agrees, rfl⟩
  | none =>
      have vacant := found.trans present
      simp only [untaken]
      refine Checked.alike_bind_same fun _ _ => ?_
      have inserted : left.insertNew receipt = some (left.insert receipt vacant) := by
        simp [Table.insertNew, vacant]
      have inserted' : right.insertNew receipt = some (right.insert receipt present) := by
        simp [Table.insertNew, present]
      rw [inserted, inserted']
      refine Checked.Alike.succeeded ⟨?_, rfl⟩
      intro row ofTenant
      rw [Table.mem_insert, Table.mem_insert, agrees row ofTenant]

end Receipts

section Requests

variable {decisions : RequestDecisions} {authentication : Authentication} {request : DataRequest}
  {context : TenantContext} {tenantId : TenantId} {sensitive : SensitiveKey}
  {view view' left right store next : TenantStore}
  {receipts receipts' : Table OperationReceipt OperationReceipt.key} {reply : DataReply}

/-- The identifier that a sensitive request brings along belongs to no other tenant. -/
def DataRequest.Free (request : DataRequest) (tenantId : TenantId)
    (receipts : Table OperationReceipt OperationReceipt.key) : Prop :=
  ∀ sensitive, request.sensitive? = some sensitive →
    FreeElsewhere tenantId sensitive.candidate receipts

theorem reserveAndAuthorize_agrees (own : context.tenantId = tenantId)
    (agrees : receipts.AgreesOn (fun row => row.tenantId = tenantId) receipts')
    (free : FreeElsewhere tenantId sensitive.candidate receipts)
    (free' : FreeElsewhere tenantId sensitive.candidate receipts') :
    Checked.Alike
      (fun first second => first.1.AgreesOn (fun row => row.tenantId = tenantId) second.1 ∧
        first.2 = second.2)
      (reserveAndAuthorize decisions authentication context request sensitive receipts)
      (reserveAndAuthorize decisions authentication context request sensitive receipts') := by
  unfold reserveAndAuthorize
  refine Checked.alike_bind_same fun _ _ => ?_
  refine Checked.alike_bind (reserve_agrees own agrees free free') ?_
  rintro ⟨first, operationId, replayed⟩ ⟨second, operationId', replayed'⟩ ⟨reserved, same⟩
  cases same
  refine Checked.alike_bind_same fun _ _ => ?_
  exact Checked.Alike.succeeded ⟨reserved, rfl⟩

theorem operation_agrees (own : context.tenantId = tenantId) (same : TenantStore.Same view view')
    (agrees : receipts.AgreesOn (fun row => row.tenantId = tenantId) receipts')
    (free : request.Free tenantId receipts) (free' : request.Free tenantId receipts') :
    Checked.Alike
      (fun first second => first.1.AgreesOn (fun row => row.tenantId = tenantId) second.1 ∧
        first.2 = second.2)
      (request.operation decisions authentication context view receipts)
      (request.operation decisions authentication context view' receipts') := by
  cases request with
  | getProfile =>
      refine Checked.alike_bind_same fun _ _ => ?_
      rw [same.profile?]
      refine Checked.alike_bind_same fun _ _ => ?_
      exact Checked.Alike.succeeded ⟨agrees, rfl⟩
  | listRecords =>
      refine Checked.alike_bind_same fun _ _ => ?_
      simp only [same.resourcesOf]
      exact Checked.Alike.succeeded ⟨agrees, rfl⟩
  | getRecord recordId =>
      refine Checked.alike_bind_same fun _ _ => ?_
      rw [same.resource?]
      refine Checked.alike_bind_same fun _ _ => ?_
      exact Checked.Alike.succeeded ⟨agrees, rfl⟩
  | exportRecords recordIds sensitive =>
      refine Checked.alike_bind
        (reserveAndAuthorize_agrees own agrees (free _ rfl) (free' _ rfl)) ?_
      rintro ⟨first, metadata⟩ ⟨second, metadata'⟩ ⟨reserved, equal⟩
      cases equal
      simp only [same.resourcesOf]
      refine Checked.alike_bind_same fun _ _ => ?_
      exact Checked.Alike.succeeded ⟨reserved, rfl⟩
  | reviewMembership subjectId sensitive =>
      refine Checked.alike_bind
        (reserveAndAuthorize_agrees own agrees (free _ rfl) (free' _ rfl)) ?_
      rintro ⟨first, metadata⟩ ⟨second, metadata'⟩ ⟨reserved, equal⟩
      cases equal
      simp only [same.reviewedMembership?]
      refine Checked.alike_bind_same fun _ _ => ?_
      exact Checked.Alike.succeeded ⟨reserved, rfl⟩

theorem TenantStore.AgreesOn.with_receipts (agrees : TenantStore.AgreesOn tenantId left right)
    (same : receipts.AgreesOn (fun row => row.tenantId = tenantId) receipts') :
    TenantStore.AgreesOn tenantId { left with receipts := receipts }
      { right with receipts := receipts' } :=
  { agrees with receipts := same }

theorem resolved_tenant {subjectId : SubjectId} {authority : Authority}
    (resolved : resolveTenantContext tenantId subjectId authority = .ok context) :
    context.tenantId = tenantId ∧ context.subjectId = subjectId ∧
      context.roles = [TenantRole.tenantAdmin, .tenantMember].filter (· ∈ authority.roles) := by
  simp only [resolveTenantContext, Checked.bind_eq_ok, Checked.require_eq_ok, Checked.pure_eq_ok,
    exists_const] at resolved
  obtain ⟨_, _, _, _, _, rfl⟩ := resolved
  exact ⟨rfl, rfl, rfl⟩

/-- A request has the same outcome on databases with the same rows of its tenant, and leaves such
databases. -/
theorem serveRequest_agrees (agrees : TenantStore.AgreesOn authentication.tenantId left right)
    (free : request.Free authentication.tenantId left.receipts)
    (free' : request.Free authentication.tenantId right.receipts) :
    Checked.Alike
      (fun first second => TenantStore.AgreesOn authentication.tenantId first.1 second.1 ∧
        first.2 = second.2)
      (serveRequest decisions authentication request left)
      (serveRequest decisions authentication request right) := by
  have views : TenantStore.Same
      (left.seenBy ⟨authentication.tenantId, authentication.subjectId⟩)
      (right.seenBy ⟨authentication.tenantId, authentication.subjectId⟩) := agrees.seenBy
  have active : left.currentActorIsActive ⟨authentication.tenantId, authentication.subjectId⟩ =
      right.currentActorIsActive ⟨authentication.tenantId, authentication.subjectId⟩ :=
    agrees.actorIsActive
  unfold serveRequest
  simp only [active, views.authority?]
  refine Checked.alike_bind_same fun _ _ => Checked.alike_bind_same fun _ _ =>
    Checked.alike_bind_same fun _ _ => Checked.alike_bind_same fun authority _ =>
    Checked.alike_bind_same fun context resolved => Checked.alike_bind_same fun _ _ => ?_
  have own := (resolved_tenant (Checked.mapError_eq_ok.mp resolved)).1
  refine Checked.alike_bind (operation_agrees own views agrees.receipts free free') ?_
  rintro ⟨first, reply⟩ ⟨second, reply'⟩ ⟨reserved, same⟩
  cases same
  exact Checked.Alike.succeeded ⟨agrees.with_receipts reserved, rfl⟩

/-- What a request replies, or how it fails, is decided by the rows of its tenant and of the
subjects that are members there, and so are the rows of the tenant that it leaves. -/
theorem requests_isolated (agrees : TenantStore.AgreesOn authentication.tenantId left right)
    (free : request.Free authentication.tenantId left.receipts)
    (free' : request.Free authentication.tenantId right.receipts) :
    (serveRequest decisions authentication request left).map Prod.snd =
        (serveRequest decisions authentication request right).map Prod.snd ∧
      ∀ next next' reply reply',
        serveRequest decisions authentication request left = .ok (next, reply) →
        serveRequest decisions authentication request right = .ok (next', reply') →
        TenantStore.AgreesOn authentication.tenantId next next' := by
  have alike : Checked.Alike _ (serveRequest decisions authentication request left)
      (serveRequest decisions authentication request right) := serveRequest_agrees agrees free free'
  cases first : serveRequest decisions authentication request left with
  | error failure =>
      rw [first] at alike
      cases second : serveRequest decisions authentication request right with
      | error failure' =>
          rw [second] at alike
          cases alike
          exact ⟨rfl, by intro next next' reply reply' served; cases served⟩
      | ok served =>
          rw [second] at alike
          cases alike
  | ok served =>
      rw [first] at alike
      cases second : serveRequest decisions authentication request right with
      | error failure =>
          rw [second] at alike
          cases alike
      | ok served' =>
          rw [second] at alike
          cases alike with
          | succeeded values =>
              refine ⟨congrArg Except.ok values.2, ?_⟩
              intro next next' reply reply' left_ right_
              cases left_
              cases right_
              exact values.1

end Requests

namespace DataScenario

/-! Two tenants; the first has an administrator and a member with a resource each. -/

def decisions : RequestDecisions where
  mode := .pkiRbacBaseline
  revalidate := fun _ _ => .ok ()
  policy := fun _ _ _ => .ok ()
  sensitiveOperationAuthorizer := fun _ _ _ => true
  sha256 := fun _ values => ⟨values.length⟩

def home : TenantStore where
  tenants := (Table.empty.upsert ⟨⟨1⟩, "first", "First", .active, false, 1, 0, 0⟩).upsert
    ⟨⟨2⟩, "second", "Second", .active, false, 1, 0, 0⟩
  subjects := ((Table.empty.upsert ⟨⟨1⟩, .human, "Member", .active, 1⟩).upsert
    ⟨⟨2⟩, .human, "Administrator", .active, 1⟩).upsert ⟨⟨3⟩, .human, "Other", .active, 1⟩
  memberships := ((Table.empty.upsert ⟨⟨1⟩, ⟨1⟩, .active, 1, 0, 0⟩).upsert
    ⟨⟨1⟩, ⟨2⟩, .active, 1, 0, 0⟩).upsert ⟨⟨2⟩, ⟨3⟩, .active, 1, 0, 0⟩
  roles := ((Table.empty.upsert ⟨⟨1⟩, ⟨1⟩, .tenantMember⟩).upsert
    ⟨⟨1⟩, ⟨2⟩, .tenantAdmin⟩).upsert ⟨⟨2⟩, ⟨3⟩, .tenantAdmin⟩
  resources := ((Table.empty.upsert ⟨⟨1⟩, ⟨2⟩, ⟨1⟩, "report", 1, 0, 0⟩).upsert
    ⟨⟨1⟩, ⟨1⟩, ⟨2⟩, "plan", 1, 0, 0⟩).upsert ⟨⟨2⟩, ⟨3⟩, ⟨3⟩, "ledger", 1, 0, 0⟩
  receipts := Table.empty

/-- The second tenant is suspended and has lost its resource. -/
def elsewhere : TenantStore :=
  { home with
    tenants := home.tenants.upsert ⟨⟨2⟩, "second", "Second", .suspended, false, 2, 0, 0⟩
    subjects := home.subjects.upsert ⟨⟨3⟩, .human, "Other", .suspended, 2⟩
    resources := home.resources.delete (⟨2⟩, ⟨3⟩) }

def presented (tenantId : TenantId) (subjectId : SubjectId) : Authentication where
  tenantId := tenantId
  subjectId := subjectId
  authenticationDigest := ⟨7⟩
  certificate := ⟨1, ⟨1⟩, ⟨1⟩, ⟨7⟩, ⟨1⟩, 0, 1000⟩

/-- The identifiers of the members of the first tenant. -/
def isMember (row : SubjectRow) : Bool :=
  home.memberships.rows.any fun membership => membership.key = (⟨1⟩, row.subjectId)

theorem rows_same :
    home.tenants.rows.filter (fun row => row.tenantId = ⟨1⟩) =
        elsewhere.tenants.rows.filter (fun row => row.tenantId = ⟨1⟩) ∧
      home.subjects.rows.filter isMember = elsewhere.subjects.rows.filter isMember ∧
      home.resources.rows.filter (fun row => row.tenantId = ⟨1⟩) =
        elsewhere.resources.rows.filter (fun row => row.tenantId = ⟨1⟩) ∧
      (serveRequest decisions (presented ⟨1⟩ ⟨2⟩) .listRecords elsewhere).map Prod.snd =
        .ok (.records [⟨⟨1⟩, ⟨2⟩, "plan", 1, 0, 0⟩, ⟨⟨2⟩, ⟨1⟩, "report", 1, 0, 0⟩]) := by
  decide +kernel

theorem home_agrees : TenantStore.AgreesOn ⟨1⟩ home elsewhere :=
  { TenantStore.AgreesOn.refl home with
    tenants := Table.AgreesOn.of_filter rows_same.1 fun _ own => decide_eq_true own
    subjects := Table.AgreesOn.of_filter rows_same.2.1 fun row member => by
      obtain ⟨membership, present, same⟩ := member
      exact List.any_eq_true.mpr ⟨membership, present, decide_eq_true same⟩
    resources := Table.AgreesOn.of_filter rows_same.2.2.1 fun _ own => decide_eq_true own }

end DataScenario

open DataScenario in
theorem requests_isolated_once :
    (serveRequest decisions (presented ⟨1⟩ ⟨2⟩) .listRecords home).map Prod.snd =
      .ok (.records [⟨⟨1⟩, ⟨2⟩, "plan", 1, 0, 0⟩, ⟨⟨2⟩, ⟨1⟩, "report", 1, 0, 0⟩]) := by
  have free : ∀ receipts, DataRequest.listRecords.Free ⟨1⟩ receipts := by
    intro receipts sensitive asked
    cases asked
  have isolated := @requests_isolated decisions (presented ⟨1⟩ ⟨2⟩) .listRecords home elsewhere
    home_agrees (free _) (free _)
  rw [isolated.1]
  exact rows_same.2.2.2

namespace TenantStore

section Rules

variable {actor : Actor} {left right store : TenantStore} {tenantId : TenantId}
  {subjectId : SubjectId} {fires : Bool}

theorem run_agrees (agrees : AgreesOn tenantId left right) (trigger : RowTrigger) :
    trigger.run left.directory tenantId = trigger.run right.directory tenantId := by
  have admins : left.directory.HasActiveAdmin tenantId ↔
      right.directory.HasActiveAdmin tenantId := by
    simp only [Directory.hasActiveAdmin_iff, agrees.membership?, agrees.hasRole]
  cases trigger <;>
    apply Checked.require_congr <;>
    simp only [RowTrigger.removedActiveAdmin, RowTrigger.hasAnyRole, agrees.tenantActive,
      agrees.hasRole, agrees.membership?, admins]

theorem fire_agrees (agrees : AgreesOn actor.tenantId left right) (triggers : List RowTrigger) :
    left.fire actor triggers = right.fire actor triggers := by
  simp only [fire, run_agrees agrees]

theorem keepsReferences_agrees (agrees : AgreesOn tenantId left right) :
    left.keepsReferences tenantId subjectId = right.keepsReferences tenantId subjectId := by
  have resources : (∀ row ∈ left.resources, row.tenantId = tenantId →
      row.ownerSubjectId ≠ subjectId) ↔
      ∀ row ∈ right.resources, row.tenantId = tenantId → row.ownerSubjectId ≠ subjectId := by
    refine forall_congr' fun row => ?_
    by_cases ofTenant : row.tenantId = tenantId
    · rw [agrees.resources row ofTenant]
    · simp [ofTenant]
  have receipts : (∀ row ∈ left.receipts, row.tenantId = tenantId →
      row.actorSubjectId ≠ subjectId) ↔
      ∀ row ∈ right.receipts, row.tenantId = tenantId → row.actorSubjectId ≠ subjectId := by
    refine forall_congr' fun row => ?_
    by_cases ofTenant : row.tenantId = tenantId
    · rw [agrees.receipts row ofTenant]
    · simp [ofTenant]
  simp only [keepsReferences, agrees.membershipRow?, resources, receipts]

theorem afterMembership_agrees (agrees : AgreesOn actor.tenantId left right)
    (transition : RowTransition MembershipRow) :
    left.afterMembership actor fires transition = right.afterMembership actor fires transition := by
  unfold afterMembership
  cases transition.old with
  | none => rfl
  | some old => simp only [keepsReferences_agrees agrees, fire_agrees agrees]

theorem require_refuses {condition : Prop} [Decidable condition] {failure : SqlState} :
    require condition failure = .ok () ∨ require condition failure = .error failure := by
  unfold require
  split
  · exact Or.inl rfl
  · exact Or.inr rfl

theorem adminOf_tenant (admitted : store.adminOf actor tenantId = true) :
    tenantId = actor.tenantId :=
  of_decide_eq_true (Bool.and_eq_true_iff.mp admitted).1

theorem showsResource_tenant {row : ResourceRow} (shown : store.showsResource actor row = true) :
    row.tenantId = actor.tenantId := by
  simp only [showsResource, Bool.and_eq_true, decide_eq_true_eq] at shown
  exact shown.1.1

theorem tenantRules_confined :
    (store.tenantRules actor).Confined fun row => row.tenantId = actor.tenantId where
  admits _ := adminOf_tenant
  check _ := adminOf_tenant

theorem membershipRules_confined :
    (store.membershipRules actor fires).Confined fun row => row.tenantId = actor.tenantId where
  admits _ := adminOf_tenant
  check _ := adminOf_tenant

theorem roleRules_confined :
    (store.roleRules actor).Confined fun row => row.tenantId = actor.tenantId where
  admits _ := adminOf_tenant
  check _ := adminOf_tenant

theorem resourceRules_confined :
    (store.resourceRules actor fires).Confined fun row => row.tenantId = actor.tenantId where
  admits _ := showsResource_tenant
  check _ := showsResource_tenant

theorem tenant_keyed :
    RowTransition.Keyed TenantRow.tenantId fun row => row.tenantId = tenantId := by
  intro row other same
  exact Eq.congr_left same

theorem membership_keyed : RowTransition.Keyed MembershipRow.key
    fun row => row.tenantId = tenantId := by
  intro row other same
  exact Eq.congr_left (Prod.mk.inj same).1

theorem role_keyed : RowTransition.Keyed TenantRoleAssignment.key
    fun row => row.tenantId = tenantId := by
  intro row other same
  exact Eq.congr_left (Prod.mk.inj same).1

theorem resource_keyed : RowTransition.Keyed ResourceRow.key
    fun row => row.tenantId = tenantId := by
  intro row other same
  exact Eq.congr_left (Prod.mk.inj same).1

end Rules

section Statements

variable {actor : Actor} {left right store next : TenantStore} {tenantId : TenantId} {fires : Bool}

theorem memberships_alike (agrees : AgreesOn actor.tenantId left right)
    (subjects : left.subjects = right.subjects)
    (statement : RowStatement MembershipRow MembershipChange (TenantId × SubjectId)) :
    Checked.Alike (RowStatement.Alike fun row => row.tenantId = actor.tenantId)
      (statement.execute (left.membershipRules actor fires) left.memberships)
      (statement.execute (right.membershipRules actor fires) right.memberships) := by
  have rules : right.membershipRules actor fires =
      { left.membershipRules actor fires with before := right.requireActiveSubject fires } := by
    simp only [membershipRules, agrees.adminOf]
  have active : left.activeSubject = right.activeSubject := by
    funext subjectId
    rw [activeSubject, activeSubject, subjects]
  rw [rules]
  apply RowStatement.execute_agrees membership_keyed membershipRules_confined
    (fun _ => require_refuses) (fun _ => require_refuses) _ agrees.memberships
  intro transition _
  simp only [membershipRules, requireActiveSubject, active]

theorem roles_alike (agrees : AgreesOn actor.tenantId left right)
    (statement : RowStatement TenantRoleAssignment RoleChange
      (TenantId × SubjectId × TenantRole)) :
    Checked.Alike (RowStatement.Alike fun row => row.tenantId = actor.tenantId)
      (statement.execute (left.roleRules actor) left.roles)
      (statement.execute (right.roleRules actor) right.roles) := by
  have rules : right.roleRules actor =
      { left.roleRules actor with before := right.requireActiveMembership } := by
    simp only [roleRules, agrees.adminOf]
  rw [rules]
  apply RowStatement.execute_agrees role_keyed roleRules_confined
    (fun _ => require_refuses) (fun _ => require_refuses) _ agrees.roles
  intro transition within
  apply Checked.require_congr
  refine forall_congr' fun row => imp_congr_right fun found => ?_
  rw [within.2 row found, agrees.membership?]

theorem resources_alike (agrees : AgreesOn actor.tenantId left right)
    (statement : RowStatement ResourceRow ResourceChange (TenantId × ResourceId)) :
    Checked.Alike (RowStatement.Alike fun row => row.tenantId = actor.tenantId)
      (statement.execute (left.resourceRules actor fires) left.resources)
      (statement.execute (right.resourceRules actor fires) right.resources) := by
  have rules : right.resourceRules actor fires =
      { left.resourceRules actor fires with before := right.requireActiveOwner fires } := by
    simp only [resourceRules, agrees.showsResource]
  rw [rules]
  apply RowStatement.execute_agrees resource_keyed resourceRules_confined
    (fun _ => require_refuses) (fun _ => require_refuses) _ agrees.resources
  intro transition within
  apply Checked.require_congr
  refine imp_congr_right fun _ => forall_congr' fun row => imp_congr_right fun found => ?_
  have own := within.2 row found
  rw [own, agrees.membership?]
  refine and_congr_right fun member => ?_
  rw [← agrees.membership?] at member
  rw [agrees.activeSubject (AgreesOn.member_exists member)]

theorem tenants_alike (agrees : AgreesOn actor.tenantId left right)
    (statement : RowStatement TenantRow TenantChange TenantId) :
    Checked.Alike (RowStatement.Alike fun row => row.tenantId = actor.tenantId)
      (statement.execute (left.tenantRules actor) left.tenants)
      (statement.execute (right.tenantRules actor) right.tenants) := by
  have rules : right.tenantRules actor =
      { left.tenantRules actor with before := (right.tenantRules actor).before } := by
    simp only [tenantRules, agrees.adminOf]
  rw [rules]
  exact RowStatement.execute_agrees tenant_keyed tenantRules_confined
    (fun _ => Or.inl rfl) (fun _ => Or.inl rfl) (fun _ _ => rfl) agrees.tenants

end Statements

end TenantStore

end TenantTrust.Api
