import TenantTrust.Api.TenantIsolation

/-! Runs of requests and statements of many tenants: to each tenant a run is the run of its own
operations. -/

namespace TenantTrust.Api

open Library Identity

/-- Two names are unique across all tenants. Each tenant draws its own from a pool. -/
structure NamePools where
  operation : OperationId → TenantId
  slug : String → TenantId

def TenantOp.tenantId : TenantOp → TenantId
  | request authentication _ => authentication.tenantId
  | statement actor _ => actor.tenantId

/-- No operation claims a name from the pool of another tenant. -/
def TenantOp.Legal (pools : NamePools) : TenantOp → Prop
  | request authentication asked => ∀ sensitive, asked.sensitive? = some sensitive →
      pools.operation sensitive.candidate = authentication.tenantId
  | statement actor (.tenants (.update _ change)) => ∀ slug, change.tenantSlug = some slug →
      ∀ row : TenantRow, row.tenantId = actor.tenantId → pools.slug (slug row) = actor.tenantId
  | statement _ _ => True

namespace TenantStore

/-- The names in use are those of the tenants that use them. -/
structure KeepsPools (pools : NamePools) (store : TenantStore) : Prop where
  receipts : ∀ receipt ∈ store.receipts, pools.operation receipt.operationId = receipt.tenantId
  tenants : ∀ tenant ∈ store.tenants, pools.slug tenant.tenantSlug = tenant.tenantId

/-- What the states of two runs have in common for a tenant. -/
structure SameFor (pools : NamePools) (tenantId : TenantId) (left right : TenantStore) : Prop where
  agrees : AgreesOn tenantId left right
  subjects : left.subjects = right.subjects
  leftPools : left.KeepsPools pools
  rightPools : right.KeepsPools pools

section Statements

variable {actor : Actor} {left right store next : TenantStore} {tenantId : TenantId}
  {pools : NamePools} {Row Key : Type} {key : Row → Key} {kind : Row → Prop}
  {put put' : Table Row key → TenantStore}
  {after : TenantStore → RowTransition Row → Except SqlState Unit}
  {written written' : Except SqlState (Option (Table Row key × RowTransition Row))}

/-- Statements that wrote alike end alike. -/
theorem finish_alike (alike : Checked.Alike (RowStatement.Alike kind) written written')
    (unchanged : AgreesOn tenantId left right)
    (puts : ∀ table table', table.AgreesOn kind table' →
      AgreesOn tenantId (put table) (put' table'))
    (ends : ∀ table table' transition, AgreesOn tenantId (put table) (put' table') →
      written = .ok (some (table, transition)) → written' = .ok (some (table', transition)) →
      after (put table) transition = after (put' table') transition) :
    Checked.Alike (AgreesOn tenantId) (written >>= finishStatement left put after)
      (written' >>= finishStatement right put' after) := by
  cases alike with
  | failed failure => exact Checked.Alike.failed failure
  | succeeded values =>
      cases values with
      | unreached => exact Checked.Alike.succeeded unchanged
      | wrote within tables =>
          have stores := puts _ _ tables
          have same := ends _ _ _ stores rfl rfl
          simp only [bind, Except.bind, finishStatement, same]
          exact Checked.alike_bind_same fun _ _ => Checked.Alike.succeeded stores

theorem finish_eq_ok (finished : (written >>= finishStatement store put after) = .ok next) :
    (written = .ok none ∧ next = store) ∨
      ∃ table transition, written = .ok (some (table, transition)) ∧ next = put table ∧
        after (put table) transition = .ok () := by
  obtain ⟨outcome, succeeded, finished⟩ := Checked.bind_eq_ok.mp finished
  cases outcome with
  | none =>
      cases finished
      exact Or.inl ⟨succeeded, rfl⟩
  | some pair =>
      obtain ⟨table, transition⟩ := pair
      simp only [finishStatement, Checked.bind_eq_ok, Checked.pure_eq_ok] at finished
      obtain ⟨_, fired, rfl⟩ := finished
      exact Or.inr ⟨table, transition, succeeded, rfl, fired⟩

theorem AgreesOn.with_memberships {memberships memberships' : Table MembershipRow MembershipRow.key}
    (agrees : AgreesOn tenantId left right) (subjects : left.subjects = right.subjects)
    (same : memberships.AgreesOn (fun row => row.tenantId = tenantId) memberships') :
    AgreesOn tenantId { left with memberships := memberships }
      { right with memberships := memberships' } where
  tenants := agrees.tenants
  memberships := same
  roles := agrees.roles
  resources := agrees.resources
  receipts := agrees.receipts
  subjects := by
    rw [subjects]
    exact Table.AgreesOn.refl _

/-- The new row of a tenant has a slug of its pool. -/
theorem slug_of_write {change : TenantChange} {k : TenantId}
    {table : Table TenantRow TenantRow.tenantId}
    {transition : RowTransition TenantRow} (holds : store.KeepsPools pools)
    (legal : ∀ slug, change.tenantSlug = some slug →
      ∀ row : TenantRow, row.tenantId = actor.tenantId → pools.slug (slug row) = actor.tenantId)
    (written : (RowStatement.update k change).execute (store.tenantRules actor) store.tenants =
      .ok (some (table, transition))) :
    ∀ tenant ∈ table, pools.slug tenant.tenantSlug = tenant.tenantId := by
  obtain ⟨reached, _, _, _, _⟩ := RowStatement.execute_eq_some.mp written
  obtain ⟨within, wrote⟩ := RowStatement.execute_within tenantRules_confined written
  intro tenant member
  rcases (RowTransition.mem_write wrote).mp member with kept | new
  · exact holds.tenants tenant (RowTransition.mem_remove.mp kept).1
  · obtain ⟨old, found, same⟩ := Option.map_eq_some_iff.mp reached
    have present := (Table.get?_eq_some _ _ _).mp (Option.filter_eq_some_iff.mp found).1
    rw [← same] at new within
    cases new
    have own := within.1 old rfl
    change pools.slug (setTo change.tenantSlug old old.tenantSlug) = old.tenantId
    cases named : change.tenantSlug with
    | none => exact holds.tenants old present.1
    | some slug => exact (legal slug named old own).trans own.symm

theorem keepsSlugs_ok {transition : RowTransition TenantRow}
    (holds : ∀ tenant ∈ store.tenants, pools.slug tenant.tenantSlug = tenant.tenantId)
    (present : ∀ row, transition.new = some row → row ∈ store.tenants) :
    store.keepsSlugs transition = .ok () := by
  apply Checked.require_ok
  intro row new other member same
  rw [← holds other member, same]
  exact holds row (present row new)

theorem execute_alike (agrees : AgreesOn actor.tenantId left right)
    (subjects : left.subjects = right.subjects) (leftPools : left.KeepsPools pools)
    (rightPools : right.KeepsPools pools) {statement : TenantStatement}
    (legal : (TenantOp.statement actor statement).Legal pools) :
    Checked.Alike (AgreesOn actor.tenantId) (statement.execute left actor)
      (statement.execute right actor) := by
  cases statement with
  | tenants statement =>
      cases statement with
      | insert row => exact Checked.Alike.failed _
      | delete k => exact Checked.Alike.succeeded agrees
      | update k change =>
          apply finish_alike (tenants_alike agrees _) agrees
          · intro table table' tables
            exact { agrees with tenants := tables }
          · intro table table' transition _ written written'
            have wrote := (RowStatement.execute_within tenantRules_confined written).2
            have wrote' := (RowStatement.execute_within tenantRules_confined written').2
            rw [keepsSlugs_ok (slug_of_write leftPools legal written), keepsSlugs_ok
              (slug_of_write rightPools legal written')]
            · intro row new
              exact (RowTransition.mem_write wrote').mpr (Or.inr new)
            · intro row new
              exact (RowTransition.mem_write wrote).mpr (Or.inr new)
  | memberships statement =>
      apply finish_alike (memberships_alike agrees subjects _) agrees
      · intro table table' tables
        exact agrees.with_memberships subjects tables
      · intro table table' transition stores _ _
        exact afterMembership_agrees stores transition
  | roles statement =>
      apply finish_alike (roles_alike agrees _) agrees
      · intro table table' tables
        exact { agrees with roles := tables }
      · intro table table' transition stores _ _
        exact fire_agrees stores _
  | resources statement =>
      apply finish_alike (resources_alike agrees _) agrees
      · intro table table' tables
        exact { agrees with resources := tables }
      · intro _ _ _ _ _ _
        rfl

/-- A statement leaves the rows of all other tenants, the subjects and the receipts as they are. -/
theorem execute_outside {statement : TenantStatement} (other : tenantId ≠ actor.tenantId)
    (succeeded : statement.execute store actor = .ok next) : AgreesOn tenantId store next := by
  have foreign : ∀ row : TenantId, row = tenantId → ¬ row = actor.tenantId := by
    rintro row rfl
    exact other
  have unchanged : next = store → AgreesOn tenantId store next := by
    intro same
    rw [same]
    exact AgreesOn.refl store
  cases statement with
  | tenants statement =>
      cases statement with
      | insert row => cases succeeded
      | delete k =>
          cases succeeded
          exact AgreesOn.refl _
      | update k change =>
          rcases finish_eq_ok succeeded with ⟨_, same⟩ | ⟨table, transition, written, rfl, _⟩
          · exact unchanged same
          · obtain ⟨within, wrote⟩ := RowStatement.execute_within tenantRules_confined written
            have kept := RowTransition.write_outside tenant_keyed within wrote
            exact { AgreesOn.refl store with tenants := kept.mono fun row => foreign row.tenantId }
  | memberships statement =>
      rcases finish_eq_ok succeeded with ⟨_, same⟩ | ⟨table, transition, written, rfl, _⟩
      · exact unchanged same
      · obtain ⟨within, wrote⟩ := RowStatement.execute_within membershipRules_confined written
        have kept := RowTransition.write_outside membership_keyed within wrote
        exact (AgreesOn.refl store).with_memberships rfl (kept.mono fun row => foreign row.tenantId)
  | roles statement =>
      rcases finish_eq_ok succeeded with ⟨_, same⟩ | ⟨table, transition, written, rfl, _⟩
      · exact unchanged same
      · obtain ⟨within, wrote⟩ := RowStatement.execute_within roleRules_confined written
        have kept := RowTransition.write_outside role_keyed within wrote
        exact { AgreesOn.refl store with roles := kept.mono fun row => foreign row.tenantId }
  | resources statement =>
      rcases finish_eq_ok succeeded with ⟨_, same⟩ | ⟨table, transition, written, rfl, _⟩
      · exact unchanged same
      · obtain ⟨within, wrote⟩ := RowStatement.execute_within resourceRules_confined written
        have kept := RowTransition.write_outside resource_keyed within wrote
        exact { AgreesOn.refl store with resources := kept.mono fun row => foreign row.tenantId }

theorem execute_subjects {statement : TenantStatement}
    (succeeded : statement.execute store actor = .ok next) :
    next.subjects = store.subjects ∧ next.receipts = store.receipts := by
  cases statement with
  | tenants statement =>
      cases statement with
      | insert row => cases succeeded
      | delete k =>
          cases succeeded
          exact ⟨rfl, rfl⟩
      | update k change =>
          rcases finish_eq_ok succeeded with ⟨_, rfl⟩ | ⟨_, _, _, rfl, _⟩ <;> exact ⟨rfl, rfl⟩
  | memberships statement =>
      rcases finish_eq_ok succeeded with ⟨_, rfl⟩ | ⟨_, _, _, rfl, _⟩ <;> exact ⟨rfl, rfl⟩
  | roles statement =>
      rcases finish_eq_ok succeeded with ⟨_, rfl⟩ | ⟨_, _, _, rfl, _⟩ <;> exact ⟨rfl, rfl⟩
  | resources statement =>
      rcases finish_eq_ok succeeded with ⟨_, rfl⟩ | ⟨_, _, _, rfl, _⟩ <;> exact ⟨rfl, rfl⟩

theorem execute_pools {statement : TenantStatement} (holds : store.KeepsPools pools)
    (legal : (TenantOp.statement actor statement).Legal pools)
    (succeeded : statement.execute store actor = .ok next) : next.KeepsPools pools := by
  have receipts := (execute_subjects succeeded).2
  refine ⟨by rw [receipts]; exact holds.receipts, ?_⟩
  cases statement with
  | tenants statement =>
      cases statement with
      | insert row => cases succeeded
      | delete k =>
          cases succeeded
          exact holds.tenants
      | update k change =>
          rcases finish_eq_ok succeeded with ⟨_, rfl⟩ | ⟨table, transition, written, rfl, _⟩
          · exact holds.tenants
          · exact slug_of_write holds legal written
  | memberships statement =>
      rcases finish_eq_ok succeeded with ⟨_, rfl⟩ | ⟨_, _, _, rfl, _⟩ <;> exact holds.tenants
  | roles statement =>
      rcases finish_eq_ok succeeded with ⟨_, rfl⟩ | ⟨_, _, _, rfl, _⟩ <;> exact holds.tenants
  | resources statement =>
      rcases finish_eq_ok succeeded with ⟨_, rfl⟩ | ⟨_, _, _, rfl, _⟩ <;> exact holds.tenants

end Statements

end TenantStore

section Requests

variable {decisions : RequestDecisions} {authentication : Authentication} {request : DataRequest}
  {context : TenantContext} {view store next : TenantStore} {pools : NamePools}
  {receipts receipts' : Table OperationReceipt OperationReceipt.key} {reply : DataReply}
  {tenantId : TenantId} {receipt : OperationReceipt} {sensitive : SensitiveKey}

theorem reserve_receipts {operationId : OperationId} {replayed : Bool}
    (reserved : reserveSensitiveOperation receipt receipts =
      .ok (receipts', operationId, replayed)) :
    ∀ row ∈ receipts', row ∈ receipts ∨ row = receipt := by
  unfold reserveSensitiveOperation at reserved
  split at reserved
  · simp only [Checked.bind_eq_ok, Checked.require_eq_ok, Checked.pure_eq_ok, exists_const,
      Prod.mk.injEq] at reserved
    obtain ⟨_, rfl, _⟩ := reserved
    exact fun _ => Or.inl
  · simp only [Checked.bind_eq_ok, Checked.require_eq_ok, Checked.requireSome_eq_ok,
      Checked.pure_eq_ok, exists_const, Prod.mk.injEq] at reserved
    obtain ⟨_, inserted, succeeded, rfl, _⟩ := reserved
    exact fun row => (Table.mem_insertNew succeeded row).mp

/-- A sensitive request leaves at most its own receipt. -/
structure Receives (tenantId : TenantId) (request : DataRequest)
    (receipts receipts' : Table OperationReceipt OperationReceipt.key) : Prop where
  outside : receipts.AgreesOn (fun row => ¬ row.tenantId = tenantId) receipts'
  added : ∀ row ∈ receipts', row ∈ receipts ∨ row.tenantId = tenantId ∧
    ∃ sensitive, request.sensitive? = some sensitive ∧ row.operationId = sensitive.candidate

theorem Receives.nothing : Receives tenantId request receipts receipts :=
  ⟨Table.AgreesOn.refl _, fun _ => Or.inl⟩

theorem reserveAndAuthorize_receives {metadata : OperationMetadata}
    (own : context.tenantId = tenantId) (asked : request.sensitive? = some sensitive)
    (succeeded : reserveAndAuthorize decisions authentication context request sensitive receipts =
      .ok (receipts', metadata)) : Receives tenantId request receipts receipts' := by
  simp only [reserveAndAuthorize, Checked.bind_eq_ok, Checked.pure_eq_ok,
    Prod.mk.injEq] at succeeded
  obtain ⟨_, _, ⟨table, operationId, replayed⟩, reserved, _, _, rfl, _⟩ := succeeded
  refine ⟨reserve_outside own reserved, ?_⟩
  intro row member
  rcases reserve_receipts reserved row member with old | rfl
  · exact Or.inl old
  · exact Or.inr ⟨own, sensitive, asked, rfl⟩

theorem operation_receives (own : context.tenantId = tenantId)
    (succeeded : request.operation decisions authentication context view receipts =
      .ok (receipts', reply)) : Receives tenantId request receipts receipts' := by
  cases request with
  | getProfile =>
      simp only [DataRequest.operation, Checked.bind_eq_ok, Checked.pure_eq_ok,
        Prod.mk.injEq] at succeeded
      obtain ⟨_, _, _, _, rfl, _⟩ := succeeded
      exact Receives.nothing
  | listRecords =>
      simp only [DataRequest.operation, Checked.bind_eq_ok, Checked.pure_eq_ok,
        Prod.mk.injEq] at succeeded
      obtain ⟨_, _, rfl, _⟩ := succeeded
      exact Receives.nothing
  | getRecord recordId =>
      simp only [DataRequest.operation, Checked.bind_eq_ok, Checked.pure_eq_ok,
        Prod.mk.injEq] at succeeded
      obtain ⟨_, _, _, _, rfl, _⟩ := succeeded
      exact Receives.nothing
  | exportRecords recordIds sensitive =>
      simp only [DataRequest.operation, Checked.bind_eq_ok, Checked.pure_eq_ok,
        Prod.mk.injEq] at succeeded
      obtain ⟨⟨table, metadata⟩, reserved, _, _, rfl, _⟩ := succeeded
      exact reserveAndAuthorize_receives own rfl reserved
  | reviewMembership subjectId sensitive =>
      simp only [DataRequest.operation, Checked.bind_eq_ok, Checked.pure_eq_ok,
        Prod.mk.injEq] at succeeded
      obtain ⟨⟨table, metadata⟩, reserved, _, _, rfl, _⟩ := succeeded
      exact reserveAndAuthorize_receives own rfl reserved

/-- A served request changes no row but the receipts of its tenant. -/
theorem serveRequest_receives
    (succeeded : serveRequest decisions authentication request store = .ok (next, reply)) :
    ∃ receipts, next = { store with receipts := receipts } ∧
      Receives authentication.tenantId request store.receipts receipts := by
  simp only [serveRequest, Checked.bind_eq_ok, Checked.mapError_eq_ok, Checked.requireSome_eq_ok,
    Checked.require_eq_ok, Checked.pure_eq_ok, exists_const, Prod.mk.injEq] at succeeded
  obtain ⟨_, _, _, _, _, authority, _, context, resolved, _, _, ⟨receipts, answer⟩, served, rfl,
    rfl⟩ := succeeded
  exact ⟨receipts, rfl, operation_receives (resolved_tenant resolved).1 served⟩

end Requests

section Runs

variable {decisions : RequestDecisions} {pools : NamePools} {tenantId : TenantId}
  {store next left right start : TenantStore} {op : TenantOp} {reply : TenantReply}

/-- An operation of a tenant changes no row of another. -/
theorem applyTenant_outside (other : op.tenantId ≠ tenantId)
    (succeeded : applyTenant decisions op store = .ok (next, reply)) :
    TenantStore.AgreesOn tenantId store next := by
  cases op with
  | request authentication request =>
      simp only [applyTenant, Checked.bind_eq_ok, Checked.mapError_eq_ok, Checked.pure_eq_ok,
        Prod.mk.injEq] at succeeded
      obtain ⟨⟨served, answer⟩, answered, rfl, _⟩ := succeeded
      obtain ⟨receipts, rfl, receives⟩ := serveRequest_receives answered
      refine { TenantStore.AgreesOn.refl store with receipts := ?_ }
      apply receives.outside.mono
      rintro row rfl same
      exact other same.symm
  | statement actor statement =>
      simp only [applyTenant, Checked.bind_eq_ok, Checked.mapError_eq_ok, Checked.require_eq_ok,
        Checked.pure_eq_ok, exists_const, Prod.mk.injEq] at succeeded
      obtain ⟨_, executed, succeeded, rfl, _⟩ := succeeded
      exact TenantStore.execute_outside (fun same => other same.symm) succeeded

theorem applyTenant_pools (holds : store.KeepsPools pools) (legal : op.Legal pools)
    (succeeded : applyTenant decisions op store = .ok (next, reply)) : next.KeepsPools pools := by
  cases op with
  | request authentication request =>
      simp only [applyTenant, Checked.bind_eq_ok, Checked.mapError_eq_ok, Checked.pure_eq_ok,
        Prod.mk.injEq] at succeeded
      obtain ⟨⟨served, answer⟩, answered, rfl, _⟩ := succeeded
      obtain ⟨receipts, rfl, receives⟩ := serveRequest_receives answered
      refine ⟨?_, holds.tenants⟩
      intro row member
      rcases receives.added row member with old | ⟨own, sensitive, asked, same⟩
      · exact holds.receipts row old
      · rw [same, own]
        exact legal sensitive asked
  | statement actor statement =>
      simp only [applyTenant, Checked.bind_eq_ok, Checked.mapError_eq_ok, Checked.require_eq_ok,
        Checked.pure_eq_ok, exists_const, Prod.mk.injEq] at succeeded
      obtain ⟨_, executed, succeeded, rfl, _⟩ := succeeded
      exact TenantStore.execute_pools holds legal succeeded

theorem applyTenant_subjects (succeeded : applyTenant decisions op store = .ok (next, reply)) :
    next.subjects = store.subjects := by
  cases op with
  | request authentication request =>
      simp only [applyTenant, Checked.bind_eq_ok, Checked.mapError_eq_ok, Checked.pure_eq_ok,
        Prod.mk.injEq] at succeeded
      obtain ⟨⟨served, answer⟩, answered, rfl, _⟩ := succeeded
      obtain ⟨receipts, rfl, _⟩ := serveRequest_receives answered
      rfl
  | statement actor statement =>
      simp only [applyTenant, Checked.bind_eq_ok, Checked.mapError_eq_ok, Checked.require_eq_ok,
        Checked.pure_eq_ok, exists_const, Prod.mk.injEq] at succeeded
      obtain ⟨_, executed, succeeded, rfl, _⟩ := succeeded
      exact (TenantStore.execute_subjects succeeded).1

theorem TenantStore.KeepsPools.free {authentication : Authentication} {request : DataRequest}
    (holds : store.KeepsPools pools)
    (legal : (TenantOp.request authentication request).Legal pools) :
    request.Free authentication.tenantId store.receipts := by
  intro sensitive asked other member same
  rw [← holds.receipts other member, same]
  exact legal sensitive asked

theorem applyTenant_alike (same : TenantStore.SameFor pools op.tenantId left right)
    (legal : op.Legal pools) :
    Checked.Alike (fun first second =>
        TenantStore.AgreesOn op.tenantId first.1 second.1 ∧ first.2 = second.2)
      (applyTenant decisions op left) (applyTenant decisions op right) := by
  cases op with
  | request authentication request =>
      refine Checked.alike_bind (Checked.alike_mapError (serveRequest_agrees same.agrees
        (same.leftPools.free legal) (same.rightPools.free legal))) ?_
      rintro ⟨first, reply⟩ ⟨second, reply'⟩ ⟨stores, equal⟩
      cases equal
      exact Checked.Alike.succeeded ⟨stores, rfl⟩
  | statement actor statement =>
      have agrees : TenantStore.AgreesOn actor.tenantId left right := same.agrees
      have active : left.currentActorIsActive actor = right.currentActorIsActive actor :=
        agrees.actorIsActive
      simp only [applyTenant, active]
      refine Checked.alike_bind_same fun _ _ => ?_
      refine Checked.alike_bind (Checked.alike_mapError (TenantStore.execute_alike
        agrees same.subjects same.leftPools same.rightPools legal)) ?_
      intro first second stores
      exact Checked.Alike.succeeded ⟨stores, rfl⟩

theorem TenantStore.AgreesOn.trans {middle : TenantStore}
    (first : TenantStore.AgreesOn tenantId left middle)
    (second : TenantStore.AgreesOn tenantId middle right) :
    TenantStore.AgreesOn tenantId left right where
  tenants := first.tenants.trans second.tenants
  memberships := first.memberships.trans second.memberships
  roles := first.roles.trans second.roles
  resources := first.resources.trans second.resources
  receipts := first.receipts.trans second.receipts
  subjects := by
    apply first.subjects.trans
    apply second.subjects.mono
    rintro row ⟨membership, member, same⟩
    exact ⟨membership, (first.memberships membership (Prod.mk.inj same).1).mp member, same⟩

theorem TenantStore.AgreesOn.symm (agrees : TenantStore.AgreesOn tenantId left right) :
    TenantStore.AgreesOn tenantId right left where
  tenants := agrees.tenants.symm
  memberships := agrees.memberships.symm
  roles := agrees.roles.symm
  resources := agrees.resources.symm
  receipts := agrees.receipts.symm
  subjects := by
    apply agrees.subjects.symm.mono
    rintro row ⟨membership, member, same⟩
    exact ⟨membership, (agrees.memberships membership (Prod.mk.inj same).1).mpr member, same⟩

theorem tenants_separate (decisions : RequestDecisions) (pools : NamePools) (tenantId : TenantId) :
    Transaction.Separates (applyTenant decisions) (TenantStore.SameFor pools tenantId)
      (fun op => op.tenantId = tenantId) (TenantOp.Legal pools) where
  foreign := by
    intro state other op next reply same legal whose succeeded
    have outside := applyTenant_outside (of_decide_eq_false whose) succeeded
    exact ⟨outside.symm.trans same.agrees, (applyTenant_subjects succeeded).trans same.subjects,
      applyTenant_pools same.leftPools legal succeeded, same.rightPools⟩
  own := by
    intro state other op same legal whose
    obtain rfl := of_decide_eq_true whose
    apply Checked.alike_imp (applyTenant_alike same legal)
    rintro ⟨first, reply⟩ ⟨second, reply'⟩ succeeded succeeded' ⟨stores, equal⟩
    refine ⟨⟨stores, ?_, applyTenant_pools same.leftPools legal succeeded,
      applyTenant_pools same.rightPools legal succeeded'⟩, equal⟩
    exact (applyTenant_subjects succeeded).trans
      (same.subjects.trans (applyTenant_subjects succeeded').symm)

/-- Every tenant sees a run of requests and statements as if only its own had been made: they
have the same outcomes, and its rows end the same. -/
theorem tenants_run_apart (holds : start.KeepsPools pools) {ops : List TenantOp}
    (legal : ∀ op ∈ ops, op.Legal pools) (tenantId : TenantId) :
    Transaction.outcomes (applyTenant decisions) (fun op => op.tenantId = tenantId) start ops =
        Transaction.outcomes (applyTenant decisions) (fun op => op.tenantId = tenantId) start
          (ops.filter fun op => op.tenantId = tenantId) ∧
      TenantStore.AgreesOn tenantId (Transaction.run (applyTenant decisions) start ops)
        (Transaction.run (applyTenant decisions) start
          (ops.filter fun op => op.tenantId = tenantId)) := by
  have same : TenantStore.SameFor pools tenantId start start :=
    ⟨TenantStore.AgreesOn.refl start, rfl, holds, holds⟩
  obtain ⟨outcomes, ends⟩ := (tenants_separate decisions pools tenantId).purge same legal
  exact ⟨outcomes, ends.agrees⟩

end Runs

namespace DataScenario

def pools : NamePools where
  operation := fun _ => ⟨1⟩
  slug := fun slug => if slug = "second" then ⟨2⟩ else ⟨1⟩

def renamed (displayName : String) : TenantChange := ⟨none, some fun _ => displayName, none, none⟩

def retitled (resourceName : String) : ResourceChange :=
  ⟨none, none, none, some fun _ => resourceName, none, none, none⟩

/-- The administrator of the second tenant reaches for a resource of the first, while the first
changes and exports it. -/
def shared : List TenantOp :=
  [.statement ⟨⟨2⟩, ⟨3⟩⟩ (.tenants (.update ⟨2⟩ (renamed "Renamed"))),
    .statement ⟨⟨1⟩, ⟨2⟩⟩ (.resources (.update (⟨1⟩, ⟨1⟩) (retitled "draft"))),
    .statement ⟨⟨2⟩, ⟨3⟩⟩ (.resources (.delete (⟨1⟩, ⟨1⟩))),
    .statement ⟨⟨2⟩, ⟨3⟩⟩ (.resources (.insert ⟨⟨1⟩, ⟨9⟩, ⟨1⟩, "planted", 1, 0, 0⟩)),
    .request (presented ⟨1⟩ ⟨2⟩) (.exportRecords [⟨2⟩, ⟨1⟩] ⟨⟨5⟩, ⟨6⟩⟩)]

def exported : DataReply :=
  .exported ⟨⟨6⟩, .recordExport, ⟨1⟩, ⟨2⟩, false, .pkiRbacBaseline⟩ 2
    [⟨⟨1⟩, ⟨2⟩, "draft", 1, 0, 0⟩, ⟨⟨2⟩, ⟨1⟩, "report", 1, 0, 0⟩]

theorem alone : Transaction.outcomes (applyTenant decisions) (fun op => op.tenantId = ⟨1⟩) home
    (shared.filter fun op => op.tenantId = ⟨1⟩) = [.ok .executed, .ok (.served exported)] := by
  decide +kernel

theorem shared_legal : ∀ op ∈ shared, op.Legal pools := by
  intro op member
  simp only [shared, List.mem_cons, List.not_mem_nil, or_false] at member
  rcases member with rfl | rfl | rfl | rfl | rfl
  · intro slug named
    cases named
  · trivial
  · trivial
  · trivial
  · intro sensitive _
    rfl

theorem home_pools : home.KeepsPools pools where
  receipts := by
    intro receipt member
    cases member
  tenants := by decide

end DataScenario

open DataScenario in
theorem tenants_run_apart_once : Transaction.outcomes (applyTenant decisions)
    (fun op => op.tenantId = ⟨1⟩) home shared = [.ok .executed, .ok (.served exported)] := by
  rw [(tenants_run_apart home_pools shared_legal ⟨1⟩).1]
  exact alone

end TenantTrust.Api
