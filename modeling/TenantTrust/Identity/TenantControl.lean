import TenantTrust.Identity.TenantLifecycle

/-! When the platform keeps control over the lifecycle of a tenant. -/

namespace TenantTrust.Identity.TenantLifecycle

open Library
open Api (ActivityState TenantRole)

section Rows

variable {Key State : Type} {opened now : Timestamp} {table : String}

theorem nextVersion_eq_ok {version next : Int} :
    nextVersion version = .ok next ↔ version < MAX_BIGINT ∧ next = version + 1 := by
  simp only [nextVersion, Checked.bind_eq_ok, Checked.require_eq_ok, Checked.pure_eq_ok,
    exists_const]
  constructor
  · rintro ⟨fits, rfl⟩
    exact ⟨by omega, rfl⟩
  · rintro ⟨below, rfl⟩
    exact ⟨by omega, rfl⟩

def VersionedRow.Sound (opened : Timestamp) (row : VersionedRow Key State) : Prop :=
  0 < row.version ∧ row.createdAt ≤ opened

theorem VersionedRow.close_succeeds [DecidableEq State] {final : State}
    {row : VersionedRow Key State} (sound : row.Sound opened) (later : opened ≤ now) :
    (∃ next, row.close final table now = .ok next) ↔
      (row.state ≠ final → row.version < MAX_BIGINT) := by
  unfold VersionedRow.close
  by_cases closed : row.state = final
  · simp [closed]
  · rw [if_neg closed]
    constructor
    · rintro ⟨next, succeeded⟩ _
      obtain ⟨version, advanced, _⟩ := Checked.bind_eq_ok.mp succeeded
      exact (nextVersion_eq_ok.mp advanced).1
    · intro below
      have advanced := nextVersion_eq_ok.mpr ⟨below closed, rfl⟩
      have positive : 0 < row.version + 1 := by
        have := sound.1
        omega
      apply Checked.exists_bind_ok advanced
      apply Checked.exists_bind_ok (Checked.require_ok positive)
      apply Checked.exists_bind_ok (Checked.require_ok (sound.2.trans later))
      exact ⟨_, rfl⟩

theorem VersionedRow.close_state [DecidableEq State] {final : State}
    {row next : VersionedRow Key State} (closed : row.close final table now = .ok next) :
    next.state = final := by
  unfold VersionedRow.close at closed
  split at closed
  · rename_i already
    cases closed
    exact already
  · simp only [Checked.bind_eq_ok, Checked.pure_eq_ok] at closed
    obtain ⟨_, _, _, _, _, _, rfl⟩ := closed
    rfl

theorem VersionedRow.close_all [DecidableEq State] (final : State) (table : String)
    {rows : List (VersionedRow Key State)} (sound : ∀ row ∈ rows, row.Sound opened)
    (later : opened ≤ now) :
    (∃ next, rows.mapM (VersionedRow.close final table now) = .ok next) ↔
      ∀ row ∈ rows, row.state ≠ final → row.version < MAX_BIGINT := by
  rw [Checked.mapM_succeeds]
  exact forall₂_congr fun row member => VersionedRow.close_succeeds (sound row member) later

theorem VersionedRow.close_all_state [DecidableEq State] {final : State}
    {rows next : List (VersionedRow Key State)}
    (closed : rows.mapM (VersionedRow.close final table now) = .ok next) :
    ∀ row ∈ next, row.state = final := by
  intro row member
  obtain ⟨_, _, written⟩ := Checked.mapM_results closed row member
  exact VersionedRow.close_state written

def Revision.Sound (opened : Timestamp) (revision : Revision Key) : Prop :=
  revision.LifecycleCheck ∧ revision.createdAt ≤ opened

/-- An active revision was activated by the given time. -/
def Revision.ActivatedBy (now : Timestamp) (revision : Revision Key) : Prop :=
  revision.state = .active → ∃ activated ∈ revision.activatedAt, activated ≤ now

theorem Revision.supersede_succeeds {revision : Revision Key} (sound : revision.Sound opened)
    (later : opened ≤ now) :
    (∃ next, revision.supersede table now = .ok next) ↔ revision.ActivatedBy now := by
  unfold Revision.supersede Revision.ActivatedBy
  by_cases active : revision.state = .active
  · rw [if_pos active]
    simp only [active, true_implies]
    constructor
    · rintro ⟨next, succeeded⟩
      obtain ⟨_, checked, _⟩ := Checked.bind_eq_ok.mp succeeded
      have lifecycle := Checked.require_eq_ok.mp checked
      simpa [Revision.LifecycleCheck] using lifecycle
    · rintro ⟨activated, present, before⟩
      have lifecycle : Revision.LifecycleCheck { revision with
          state := .superseded, supersededAt := some now, updatedAt := now } :=
        ⟨activated, present, now, rfl, before⟩
      apply Checked.exists_bind_ok (Checked.require_ok lifecycle)
      apply Checked.exists_bind_ok (Checked.require_ok (sound.2.trans later))
      exact ⟨_, rfl⟩
  · simp [active]

theorem Revision.supersede_state {revision next : Revision Key}
    (superseded : revision.supersede table now = .ok next) : next.state ≠ .active := by
  unfold Revision.supersede at superseded
  split at superseded
  · simp only [Checked.bind_eq_ok, Checked.pure_eq_ok] at superseded
    obtain ⟨_, _, _, _, rfl⟩ := superseded
    simp
  · rename_i inactive
    cases superseded
    exact inactive

theorem Revision.supersede_all (table : String) {revisions : List (Revision Key)}
    (sound : ∀ revision ∈ revisions, revision.Sound opened) (later : opened ≤ now) :
    (∃ next, revisions.mapM (Revision.supersede table now) = .ok next) ↔
      ∀ revision ∈ revisions, revision.ActivatedBy now := by
  rw [Checked.mapM_succeeds]
  exact forall₂_congr fun revision member =>
    Revision.supersede_succeeds (sound revision member) later

theorem Revision.supersede_all_state {revisions next : List (Revision Key)}
    (superseded : revisions.mapM (Revision.supersede table now) = .ok next) :
    ∀ revision ∈ next, revision.state ≠ .active := by
  intro revision member
  obtain ⟨_, _, written⟩ := Checked.mapM_results superseded revision member
  exact Revision.supersede_state written

end Rows

namespace TenantDatabase

/-- Every row satisfies its table's checks and is not newer than the given time. -/
structure RowsSound (opened : Timestamp) (database : TenantDatabase) : Prop where
  memberships : ∀ row ∈ database.memberships, row.Sound opened
  issuers : ∀ row ∈ database.issuers, row.Sound opened
  evidenceSources : ∀ row ∈ database.evidenceSources, row.Sound opened
  trustConfigurations : ∀ row ∈ database.trustConfigurations, row.Sound opened
  policyVersions : ∀ row ∈ database.policyVersions, row.Sound opened

/-- The rows that a teardown updates can take another version, and no revision is activated
only later. -/
structure Retirable (now : Timestamp) (database : TenantDatabase) : Prop where
  memberships : ∀ row ∈ database.memberships, row.state ≠ .suspended → row.version < MAX_BIGINT
  issuers : ∀ row ∈ database.issuers, row.state ≠ .retired → row.version < MAX_BIGINT
  evidenceSources : ∀ row ∈ database.evidenceSources,
    row.state ≠ .retired → row.version < MAX_BIGINT
  trustConfigurations : ∀ row ∈ database.trustConfigurations, row.ActivatedBy now
  policyVersions : ∀ row ∈ database.policyVersions, row.ActivatedBy now

/-- Nothing of the tenant is active. -/
structure Inactive (database : TenantDatabase) : Prop where
  memberships : ∀ row ∈ database.memberships, row.state = .suspended
  roles : database.roles = []
  issuers : ∀ row ∈ database.issuers, row.state = .retired
  evidenceSources : ∀ row ∈ database.evidenceSources, row.state = .retired
  trustConfigurations : ∀ row ∈ database.trustConfigurations, row.state ≠ .active
  policyVersions : ∀ row ∈ database.policyVersions, row.state ≠ .active

theorem retirable_mono {database : TenantDatabase} {now later : Timestamp}
    (retirable : database.Retirable now) (after : now ≤ later) : database.Retirable later := by
  have activated : ∀ {Key : Type} {revision : Revision Key},
      revision.ActivatedBy now → revision.ActivatedBy later := by
    intro Key revision before active
    obtain ⟨time, present, bound⟩ := before active
    exact ⟨time, present, bound.trans after⟩
  exact ⟨retirable.memberships, retirable.issuers, retirable.evidenceSources,
    fun row member => activated (retirable.trustConfigurations row member),
    fun row member => activated (retirable.policyVersions row member)⟩

theorem retireRows_succeeds {opened now : Timestamp} {database : TenantDatabase}
    (sound : database.RowsSound opened) (later : opened ≤ now) :
    (∃ next, database.retireRows now = .ok next) ↔ database.Retirable now := by
  have memberships := VersionedRow.close_all .suspended "tenant_memberships" sound.memberships later
  have issuers := VersionedRow.close_all .retired "tenant_issuer_mappings" sound.issuers later
  have sources := VersionedRow.close_all .retired "evidence_sources" sound.evidenceSources later
  have configurations :=
    Revision.supersede_all "trust_configurations" sound.trustConfigurations later
  have policies := Revision.supersede_all "policy_versions" sound.policyVersions later
  constructor
  · rintro ⟨next, succeeded⟩
    simp only [retireRows, Checked.bind_eq_ok] at succeeded
    obtain ⟨_, first, _, second, _, third, _, fourth, _, fifth, _⟩ := succeeded
    exact ⟨memberships.mp ⟨_, first⟩, issuers.mp ⟨_, second⟩, sources.mp ⟨_, third⟩,
      configurations.mp ⟨_, fourth⟩, policies.mp ⟨_, fifth⟩⟩
  · intro retirable
    obtain ⟨_, first⟩ := memberships.mpr retirable.memberships
    obtain ⟨_, second⟩ := issuers.mpr retirable.issuers
    obtain ⟨_, third⟩ := sources.mpr retirable.evidenceSources
    obtain ⟨_, fourth⟩ := configurations.mpr retirable.trustConfigurations
    obtain ⟨_, fifth⟩ := policies.mpr retirable.policyVersions
    apply Checked.exists_bind_ok first
    apply Checked.exists_bind_ok second
    apply Checked.exists_bind_ok third
    apply Checked.exists_bind_ok fourth
    apply Checked.exists_bind_ok fifth
    exact ⟨_, rfl⟩

/-- What a teardown leaves of the rows before it writes the tenant row. -/
structure Retires (database next : TenantDatabase) : Prop where
  tenant : next.tenant = database.tenant
  lifecycleEvents : next.lifecycleEvents = database.lifecycleEvents
  inactive : next.Inactive

theorem retireRows_retires {now : Timestamp} {database next : TenantDatabase}
    (retired : database.retireRows now = .ok next) : database.Retires next := by
  simp only [retireRows, Checked.bind_eq_ok, Checked.pure_eq_ok] at retired
  obtain ⟨_, memberships, _, issuers, _, sources, _, configurations, _, policies, rfl⟩ := retired
  refine ⟨rfl, rfl, ?_⟩
  exact {
    memberships := VersionedRow.close_all_state memberships
    roles := rfl
    issuers := VersionedRow.close_all_state issuers
    evidenceSources := VersionedRow.close_all_state sources
    trustConfigurations := Revision.supersede_all_state configurations
    policyVersions := Revision.supersede_all_state policies }

end TenantDatabase

theorem check_eq_ok (tenant : TenantRecord) :
    tenant.check = .ok () ↔ isSlug tenant.tenantSlug ∧ isDisplayName tenant.displayName ∧
      0 < tenant.version ∧ tenant.createdAt ≤ tenant.updatedAt ∧
      (tenant.retiredAt = none ∨ tenant.state = .suspended) ∧
      ∀ retired, tenant.retiredAt = some retired → tenant.createdAt ≤ retired := by
  simp only [TenantRecord.check, Checked.bind_eq_ok, Checked.require_eq_ok, exists_const]

/-- What holds of the rows at all times. -/
structure TenantDatabase.Sound (opened : Timestamp) (database : TenantDatabase) : Prop where
  checked : database.tenant.check = .ok ()
  created : database.tenant.createdAt ≤ opened
  audited : ∀ event ∈ database.lifecycleEvents, event.tenantVersion ≤ database.tenant.version
  increasing : database.lifecycleEvents.Pairwise fun newer older =>
    older.tenantVersion < newer.tenantVersion
  rows : database.tenant.retiredAt = none → database.RowsSound opened
  retired : database.tenant.retiredAt ≠ none → database.Inactive

section Change

variable {opened : Timestamp} {caller : Caller} {reason : String} {database : TenantDatabase}

section Recorded

variable {action : LifecycleAction} {newState : ActivityState} {retiredAt : Option Timestamp}
  {details : Option TeardownCounts}

/-- The tenant row and the events after a recorded change. -/
structure TenantDatabase.Recorded (database : TenantDatabase) (newState : ActivityState)
    (retiredAt : Option Timestamp) (next : TenantDatabase) : Prop where
  below : database.tenant.version < MAX_BIGINT
  version : next.tenant.version = database.tenant.version + 1
  state : next.tenant.state = newState
  retiredAt : next.tenant.retiredAt = retiredAt
  createdAt : next.tenant.createdAt = database.tenant.createdAt
  checked : next.tenant.check = .ok ()
  events : ∃ event, event.tenantVersion = database.tenant.version + 1 ∧
    next.lifecycleEvents = event :: database.lifecycleEvents
  rows : next = { database with
    tenant := next.tenant, lifecycleEvents := next.lifecycleEvents }

theorem recordChange_recorded {version : Int} {next : TenantDatabase}
    (recorded : database.recordChange caller reason action newState retiredAt details =
      .ok (version, next)) : database.Recorded newState retiredAt next := by
  simp only [TenantDatabase.recordChange, TenantDatabase.appendEvent, Checked.bind_eq_ok,
    Checked.require_eq_ok, Checked.pure_eq_ok, exists_const, Prod.mk.injEq] at recorded
  obtain ⟨_, advanced, ⟨⟩, checked, _, ⟨_, _, rfl⟩, _, rfl⟩ := recorded
  obtain ⟨below, rfl⟩ := nextVersion_eq_ok.mp advanced
  exact ⟨below, rfl, rfl, rfl, rfl, checked, ⟨_, rfl, rfl⟩, rfl⟩

theorem appendEvent_ok {event : LifecycleEvent} (positive : 0 < event.tenantVersion)
    (unused : ∀ earlier ∈ database.lifecycleEvents,
      earlier.tenantVersion ≠ event.tenantVersion) :
    database.appendEvent event =
      .ok { database with lifecycleEvents := event :: database.lifecycleEvents } :=
  Checked.bind_eq_ok.mpr ⟨(), Checked.require_ok positive,
    Checked.bind_eq_ok.mpr ⟨(), Checked.require_ok unused, rfl⟩⟩

/-- With an unused next version, the tenant row and the event are written. -/
theorem recordChange_succeeds (checked : database.tenant.check = .ok ())
    (created : database.tenant.createdAt ≤ opened) (later : opened ≤ caller.now)
    (audited : ∀ event ∈ database.lifecycleEvents,
      event.tenantVersion ≤ database.tenant.version)
    (legal : retiredAt = none ∨ newState = .suspended)
    (ordered : ∀ retired, retiredAt = some retired → database.tenant.createdAt ≤ retired)
    (below : database.tenant.version < MAX_BIGINT) :
    ∃ result, database.recordChange caller reason action newState retiredAt details =
      .ok result := by
  obtain ⟨slug, name, positive, _⟩ := (check_eq_ok _).mp checked
  have advanced : (0 : Int) < database.tenant.version + 1 := by omega
  have unused : ∀ event ∈ database.lifecycleEvents,
      event.tenantVersion ≠ database.tenant.version + 1 := by
    intro event member
    have := audited event member
    omega
  have tenant := (check_eq_ok { database.tenant with
      state := newState, retiredAt := retiredAt, version := database.tenant.version + 1,
      updatedAt := caller.now }).mpr
    ⟨slug, name, advanced, created.trans later, legal, ordered⟩
  apply Checked.exists_bind_ok (nextVersion_eq_ok.mpr ⟨below, rfl⟩)
  apply Checked.exists_bind_ok tenant
  apply Checked.exists_bind_ok (appendEvent_ok advanced unused)
  exact ⟨_, rfl⟩

theorem authorizeChange_eq_ok {u : Unit} :
    authorizeChange caller reason = .ok u ↔
      caller.currentPlatformActorIsAdmin ∧ isReasonCode reason := by
  simp only [authorizeChange, Checked.bind_eq_ok, Checked.require_eq_ok, exists_const]

/-- A recorded change keeps the invariant, also when it follows a teardown of the rows. -/
theorem sound_recorded {base next : TenantDatabase} (sound : database.Sound opened)
    (tenant : base.tenant = database.tenant)
    (events : base.lifecycleEvents = database.lifecycleEvents)
    (recorded : base.Recorded newState retiredAt next)
    (rows : retiredAt = none → base.RowsSound opened)
    (retired : retiredAt ≠ none → base.Inactive) : next.Sound opened := by
  obtain ⟨event, version, appended⟩ := recorded.events
  rw [events] at appended
  rw [tenant] at version
  have advanced : next.tenant.version = database.tenant.version + 1 :=
    tenant ▸ recorded.version
  refine ⟨recorded.checked, ?_, ?_, ?_, ?_, ?_⟩
  · rw [recorded.createdAt, tenant]
    exact sound.created
  · intro earlier member
    rw [appended] at member
    rcases List.mem_cons.mp member with rfl | old
    · omega
    · have := sound.audited earlier old
      omega
  · rw [appended, List.pairwise_cons]
    constructor
    · intro older member
      have := sound.audited older member
      omega
    · exact sound.increasing
  · intro unretired
    have sound := rows (recorded.retiredAt.symm.trans unretired)
    rw [recorded.rows]
    exact ⟨sound.memberships, sound.issuers, sound.evidenceSources, sound.trustConfigurations,
      sound.policyVersions⟩
  · intro gone
    have inactive := retired fun absent => gone (recorded.retiredAt.trans absent)
    rw [recorded.rows]
    exact ⟨inactive.memberships, inactive.roles, inactive.issuers, inactive.evidenceSources,
      inactive.trustConfigurations, inactive.policyVersions⟩

end Recorded

theorem unretired_of_active (sound : database.Sound opened)
    (active : database.tenant.state = .active) : database.tenant.retiredAt = none := by
  obtain ⟨_, _, _, _, suspended, _⟩ := (check_eq_ok _).mp sound.checked
  rw [active] at suspended
  exact suspended.resolve_right (by simp)

/-- What a successful call of one of the procedures did. -/
inductive TenantDatabase.Controlled (database next : TenantDatabase) : Prop where
  | unchanged (same : next = database)
  | switched (newState : ActivityState) (unretired : database.tenant.retiredAt = none)
      (recorded : database.Recorded newState none next)
  | tornDown (now : Timestamp) (retired : TenantDatabase) (retires : database.Retires retired)
      (recorded : retired.Recorded .suspended (some now) next)

theorem suspendTenant_controlled {version : Int} {next : TenantDatabase}
    (suspended : suspendTenant caller reason database = .ok (version, next)) :
    database.Controlled next := by
  simp only [suspendTenant, Checked.bind_eq_ok, Checked.require_eq_ok, exists_const] at suspended
  obtain ⟨_, _, unretired, suspended⟩ := suspended
  split at suspended
  · cases Checked.pure_eq_ok.mp suspended
    exact .unchanged rfl
  · have recorded := recordChange_recorded suspended
    rw [unretired] at recorded
    exact .switched _ unretired recorded

theorem reactivateTenant_controlled {version : Int} {next : TenantDatabase}
    (reactivated : reactivateTenant caller reason database = .ok (version, next)) :
    database.Controlled next := by
  simp only [reactivateTenant, Checked.bind_eq_ok, Checked.require_eq_ok, exists_const]
    at reactivated
  obtain ⟨_, _, unretired, reactivated⟩ := reactivated
  split at reactivated
  · cases Checked.pure_eq_ok.mp reactivated
    exact .unchanged rfl
  · have recorded := recordChange_recorded reactivated
    rw [unretired] at recorded
    exact .switched _ unretired recorded

theorem teardownTenant_controlled {version : Int} {next : TenantDatabase}
    (tornDown : teardownTenant caller reason database = .ok (version, next)) :
    database.Controlled next := by
  simp only [teardownTenant, Checked.bind_eq_ok] at tornDown
  obtain ⟨_, _, tornDown⟩ := tornDown
  split at tornDown
  · cases Checked.pure_eq_ok.mp tornDown
    exact .unchanged rfl
  · simp only [Checked.bind_eq_ok, Checked.require_eq_ok, exists_const] at tornDown
    obtain ⟨suspended, retired, rows, tornDown⟩ := tornDown
    have recorded := recordChange_recorded tornDown
    rw [suspended] at recorded
    exact .tornDown _ retired (TenantDatabase.retireRows_retires rows) recorded

theorem sound_controlled {next : TenantDatabase} (sound : database.Sound opened)
    (controlled : database.Controlled next) : next.Sound opened := by
  cases controlled with
  | unchanged same => exact same ▸ sound
  | switched newState unretired recorded =>
      exact sound_recorded sound rfl rfl recorded (fun _ => sound.rows unretired)
        (fun gone => absurd rfl gone)
  | tornDown now retired retires recorded =>
      exact sound_recorded sound retires.tenant retires.lifecycleEvents recorded
        (fun unretired => absurd unretired (by simp)) (fun _ => retires.inactive)

/-- Retirement is final. -/
theorem retired_controlled {next : TenantDatabase} (controlled : database.Controlled next)
    (gone : database.tenant.retiredAt ≠ none) :
    next.tenant.retiredAt ≠ none := by
  cases controlled with
  | unchanged same => exact same ▸ gone
  | switched newState unretired recorded => exact absurd unretired gone
  | tornDown now retired retires recorded =>
      rw [recorded.retiredAt]
      simp

section Progress

variable (sound : database.Sound opened) (later : opened ≤ caller.now)
  (admin : caller.currentPlatformActorIsAdmin) (valid : isReasonCode reason)

include sound later admin valid

theorem suspendTenant_succeeds (active : database.tenant.state = .active) :
    (∃ result, suspendTenant caller reason database = .ok result) ↔
      database.tenant.version < MAX_BIGINT := by
  have unretired := unretired_of_active sound active
  constructor
  · rintro ⟨⟨version, next⟩, suspended⟩
    simp only [suspendTenant, active, reduceCtorEq, reduceIte, Checked.bind_eq_ok] at suspended
    obtain ⟨_, _, _, _, recorded⟩ := suspended
    exact (recordChange_recorded recorded).below
  · intro below
    have recorded : ∃ result, database.recordChange caller reason .suspended .suspended
        database.tenant.retiredAt none = .ok result :=
      recordChange_succeeds sound.checked sound.created later sound.audited (.inl unretired)
        (by simp [unretired]) below
    apply Checked.exists_bind_ok (authorizeChange_eq_ok (u := ()).mpr ⟨admin, valid⟩)
    apply Checked.exists_bind_ok (Checked.require_ok unretired)
    simp only [active, reduceCtorEq, reduceIte]
    exact recorded

theorem reactivateTenant_succeeds (suspended : database.tenant.state = .suspended)
    (unretired : database.tenant.retiredAt = none) :
    (∃ result, reactivateTenant caller reason database = .ok result) ↔
      database.tenant.version < MAX_BIGINT := by
  constructor
  · rintro ⟨⟨version, next⟩, reactivated⟩
    simp only [reactivateTenant, suspended, reduceCtorEq, reduceIte, Checked.bind_eq_ok]
      at reactivated
    obtain ⟨_, _, _, _, recorded⟩ := reactivated
    exact (recordChange_recorded recorded).below
  · intro below
    have recorded : ∃ result, database.recordChange caller reason .reactivated .active
        database.tenant.retiredAt none = .ok result :=
      recordChange_succeeds sound.checked sound.created later sound.audited (.inl unretired)
        (by simp [unretired]) below
    apply Checked.exists_bind_ok (authorizeChange_eq_ok (u := ()).mpr ⟨admin, valid⟩)
    apply Checked.exists_bind_ok (Checked.require_ok unretired)
    simp only [suspended, reduceCtorEq, reduceIte]
    exact recorded

theorem teardownTenant_succeeds (suspended : database.tenant.state = .suspended)
    (unretired : database.tenant.retiredAt = none) :
    (∃ result, teardownTenant caller reason database = .ok result) ↔
      database.tenant.version < MAX_BIGINT ∧ database.Retirable caller.now := by
  have rows := TenantDatabase.retireRows_succeeds (sound.rows unretired) later
  constructor
  · rintro ⟨⟨version, next⟩, tornDown⟩
    simp only [teardownTenant, unretired, Option.isSome_none, Bool.false_eq_true, reduceIte,
      Checked.bind_eq_ok] at tornDown
    obtain ⟨_, _, _, _, retired, succeeded, recorded⟩ := tornDown
    have below := (recordChange_recorded recorded).below
    rw [(TenantDatabase.retireRows_retires succeeded).tenant] at below
    exact ⟨below, rows.mp ⟨retired, succeeded⟩⟩
  · rintro ⟨below, retirable⟩
    obtain ⟨retired, succeeded⟩ := rows.mpr retirable
    have retires := TenantDatabase.retireRows_retires succeeded
    have audited : ∀ event ∈ retired.lifecycleEvents,
        event.tenantVersion ≤ retired.tenant.version := by
      rw [retires.tenant, retires.lifecycleEvents]
      exact sound.audited
    have ordered : ∀ time, some caller.now = some time → retired.tenant.createdAt ≤ time := by
      rintro _ ⟨⟩
      rw [retires.tenant]
      exact sound.created.trans later
    have recorded : ∃ result, retired.recordChange caller reason .teardownCompleted
        database.tenant.state (some caller.now) (some database.teardownCounts) = .ok result :=
      recordChange_succeeds (retires.tenant ▸ sound.checked) (retires.tenant ▸ sound.created)
        later audited (.inr suspended) ordered (retires.tenant ▸ below)
    apply Checked.exists_bind_ok (authorizeChange_eq_ok (u := ()).mpr ⟨admin, valid⟩)
    simp only [unretired, Option.isSome_none, Bool.false_eq_true, reduceIte]
    apply Checked.exists_bind_ok (Checked.require_ok suspended)
    apply Checked.exists_bind_ok succeeded
    exact recorded

end Progress

end Change

/-- The columns that an update of the tenant row leaves alone. -/
structure TenantDatabase.Renamed (database : TenantDatabase) (changes : TenantChanges)
    (next : TenantDatabase) : Prop where
  version : next.tenant.version = changes.version.getD database.tenant.version
  state : next.tenant.state = database.tenant.state
  retiredAt : next.tenant.retiredAt = database.tenant.retiredAt
  createdAt : next.tenant.createdAt = database.tenant.createdAt
  checked : next.tenant.check = .ok ()
  rows : next = { database with tenant := next.tenant }

theorem updateTenant_renamed {snapshot database next : TenantDatabase} {caller : Caller}
    {changes : TenantChanges} (updated : updateTenant snapshot caller changes database = .ok next) :
    next = database ∨ database.Renamed changes next := by
  unfold updateTenant at updated
  split at updated
  · simp only [Checked.bind_eq_ok, Checked.require_eq_ok, Checked.pure_eq_ok, exists_const]
      at updated
    obtain ⟨_, ⟨⟩, checked, _, rfl⟩ := updated
    exact .inr ⟨rfl, rfl, rfl, rfl, checked, rfl⟩
  · cases updated
    exact .inl rfl

/-- The changes leave the version, or write one that no lifecycle event exceeds. -/
def TenantDatabase.KeepsVersion (database : TenantDatabase) (changes : TenantChanges) : Prop :=
  ∀ version, changes.version = some version →
    ∀ event ∈ database.lifecycleEvents, event.tenantVersion ≤ version

theorem sound_renamed {opened : Timestamp} {database next : TenantDatabase}
    {changes : TenantChanges} (sound : database.Sound opened)
    (renamed : database.Renamed changes next) (keeps : database.KeepsVersion changes) :
    next.Sound opened := by
  have events : next.lifecycleEvents = database.lifecycleEvents := by rw [renamed.rows]
  refine ⟨renamed.checked, renamed.createdAt ▸ sound.created, ?_, events ▸ sound.increasing, ?_, ?_⟩
  · rw [events, renamed.version]
    cases written : changes.version with
    | none => exact sound.audited
    | some version => exact keeps version written
  · intro unretired
    have rows := sound.rows (renamed.retiredAt.symm.trans unretired)
    rw [renamed.rows]
    exact ⟨rows.memberships, rows.issuers, rows.evidenceSources, rows.trustConfigurations,
      rows.policyVersions⟩
  · intro gone
    have inactive := sound.retired (renamed.retiredAt ▸ gone)
    rw [renamed.rows]
    exact ⟨inactive.memberships, inactive.roles, inactive.issuers, inactive.evidenceSources,
      inactive.trustConfigurations, inactive.policyVersions⟩

inductive LifecycleCommand where
  | suspend | reactivate | teardown
  deriving DecidableEq, Repr

def LifecycleCommand.call (command : LifecycleCommand) (caller : Caller) (reason : String)
    (database : TenantDatabase) : Except SqlError (Int × TenantDatabase) :=
  match command with
  | .suspend => suspendTenant caller reason database
  | .reactivate => reactivateTenant caller reason database
  | .teardown => teardownTenant caller reason database

/-- The rows after a statement; one that fails changes nothing. -/
def TenantDatabase.after (database : TenantDatabase) :
    Except SqlError TenantDatabase → TenantDatabase
  | .ok next => next
  | .error _ => database

/-- A tenant as it is created, before its first lifecycle event. -/
structure TenantDatabase.Created (opened : Timestamp) (database : TenantDatabase) : Prop where
  checked : database.tenant.check = .ok ()
  created : database.tenant.createdAt ≤ opened
  unretired : database.tenant.retiredAt = none
  unaudited : database.lifecycleEvents = []
  rows : database.RowsSound opened

/-- The rows of a tenant through lifecycle calls and updates of its row, the newest last and
the earlier ones in a list. The clock is never before `opened`. An update may begin before the
calls that it waits for. -/
inductive History (opened : Timestamp) (admits : TenantDatabase → TenantChanges → Prop) :
    TenantDatabase → List TenantDatabase → Prop
  | created {database : TenantDatabase} (created : database.Created opened) :
      History opened admits database []
  | lifecycle {database : TenantDatabase} {past : List TenantDatabase}
      (history : History opened admits database past) (command : LifecycleCommand)
      (caller : Caller) (reason : String) (later : opened ≤ caller.now) :
      History opened admits
        (database.after ((command.call caller reason database).map Prod.snd)) (database :: past)
  | update {database snapshot : TenantDatabase} {past : List TenantDatabase}
      (history : History opened admits database past) (caller : Caller) (changes : TenantChanges)
      (seen : snapshot ∈ database :: past) (admitted : admits database changes) :
      History opened admits
        (database.after (updateTenant snapshot caller changes database)) (database :: past)

theorem command_controlled {command : LifecycleCommand} {caller : Caller} {reason : String}
    {database : TenantDatabase} :
    database.Controlled
      (database.after ((command.call caller reason database).map Prod.snd)) := by
  cases called : command.call caller reason database with
  | error failure => exact .unchanged rfl
  | ok result =>
      cases command with
      | suspend => exact suspendTenant_controlled called
      | reactivate => exact reactivateTenant_controlled called
      | teardown => exact teardownTenant_controlled called

theorem update_renamed {snapshot database : TenantDatabase} {caller : Caller}
    {changes : TenantChanges} :
    database.after (updateTenant snapshot caller changes database) = database ∨
      database.Renamed changes
        (database.after (updateTenant snapshot caller changes database)) := by
  cases updated : updateTenant snapshot caller changes database with
  | error failure => exact .inl rfl
  | ok next => exact updateTenant_renamed updated

section Histories

variable {opened : Timestamp} {database : TenantDatabase} {past : List TenantDatabase}

theorem history_sound (history : History opened TenantDatabase.KeepsVersion database past) :
    database.Sound opened := by
  induction history with
  | created created =>
      exact {
        checked := created.checked
        created := created.created
        audited := by simp [created.unaudited]
        increasing := by simp [created.unaudited]
        rows := fun _ => created.rows
        retired := fun gone => absurd created.unretired gone }
  | lifecycle history command caller reason later sound =>
      exact sound_controlled sound command_controlled
  | update history caller changes seen admitted sound =>
      rcases update_renamed with same | renamed
      · exact same ▸ sound
      · exact sound_renamed sound renamed admitted

theorem history_retired {admits : TenantDatabase → TenantChanges → Prop}
    (history : History opened admits database past) :
    ∀ earlier ∈ past, earlier.tenant.retiredAt ≠ none → database.tenant.retiredAt ≠ none := by
  have step : ∀ {last next : TenantDatabase} {before : List TenantDatabase},
      (∀ earlier ∈ before, earlier.tenant.retiredAt ≠ none → last.tenant.retiredAt ≠ none) →
      (last.tenant.retiredAt ≠ none → next.tenant.retiredAt ≠ none) →
      ∀ earlier ∈ last :: before, earlier.tenant.retiredAt ≠ none →
        next.tenant.retiredAt ≠ none := by
    intro last next before ih kept earlier member gone
    rcases List.mem_cons.mp member with rfl | older
    · exact kept gone
    · exact kept (ih earlier older gone)
  induction history with
  | created created => simp
  | lifecycle history command caller reason later ih =>
      exact step ih (retired_controlled command_controlled)
  | update history caller changes seen admitted ih =>
      apply step ih
      intro gone
      rcases update_renamed with same | renamed
      · exact same ▸ gone
      · exact renamed.retiredAt ▸ gone

end Histories

/-- The control that the platform has over a tenant with the given rows and earlier rows. -/
structure PlatformControls (opened : Timestamp) (database : TenantDatabase)
    (past : List TenantDatabase) : Prop where
  increasing : database.lifecycleEvents.Pairwise fun newer older =>
    older.tenantVersion < newer.tenantVersion
  retiredStays : ∀ earlier ∈ past,
    earlier.tenant.retiredAt ≠ none → database.tenant.retiredAt ≠ none
  retiredInactive : database.tenant.retiredAt ≠ none →
    database.tenant.state = .suspended ∧ database.Inactive
  suspends : ∀ caller reason, opened ≤ caller.now → caller.currentPlatformActorIsAdmin →
    isReasonCode reason → database.tenant.state = .active →
    ∃ result, suspendTenant caller reason database = .ok result
  reactivates : ∀ caller reason, opened ≤ caller.now → caller.currentPlatformActorIsAdmin →
    isReasonCode reason → database.tenant.state = .suspended → database.tenant.retiredAt = none →
    ∃ result, reactivateTenant caller reason database = .ok result
  tearsDown : ∀ caller reason, opened ≤ caller.now → caller.currentPlatformActorIsAdmin →
    isReasonCode reason → database.tenant.state = .suspended →
    ∃ result, teardownTenant caller reason database = .ok result

/-- The tenant is retired, or its next version and those of the rows to retire exist. -/
def TenantDatabase.Advances (opened : Timestamp) (database : TenantDatabase) : Prop :=
  database.tenant.retiredAt = none → database.tenant.version < MAX_BIGINT ∧
    (database.tenant.state = .suspended → database.Retirable opened)

theorem teardownTenant_again {caller : Caller} {reason : String} {database : TenantDatabase}
    (admin : caller.currentPlatformActorIsAdmin) (valid : isReasonCode reason)
    (gone : database.tenant.retiredAt ≠ none) :
    ∃ result, teardownTenant caller reason database = .ok result := by
  apply Checked.exists_bind_ok (authorizeChange_eq_ok (u := ()).mpr ⟨admin, valid⟩)
  rw [if_pos (Option.isSome_iff_ne_none.mpr gone)]
  exact ⟨_, rfl⟩

/-- A subject that is active and holds the platform role. -/
def platformAdministrator (now : Timestamp) : Caller :=
  ⟨⟨0⟩, ⟨fun _ => true, fun _ => true, []⟩, now⟩

/-- Where no update wrote a version below that of a lifecycle event, the platform has control
in every state in which the next versions exist. -/
theorem platform_controls {opened : Timestamp} {database : TenantDatabase}
    {past : List TenantDatabase}
    (history : History opened TenantDatabase.KeepsVersion database past) :
    PlatformControls opened database past ↔ database.Advances opened := by
  have sound := history_sound history
  obtain ⟨_, _, _, _, suspended, _⟩ := (check_eq_ok _).mp sound.checked
  constructor
  · intro controls unretired
    have valid : isReasonCode "TENANT_SECURITY_HOLD" := by decide
    cases state : database.tenant.state with
    | active =>
        have succeeds := controls.suspends (platformAdministrator opened) _ le_rfl rfl valid state
        have below := (suspendTenant_succeeds sound le_rfl rfl valid state).mp succeeds
        exact ⟨below, by simp⟩
    | suspended =>
        have succeeds := controls.tearsDown (platformAdministrator opened) _ le_rfl rfl valid state
        have retires :=
          (teardownTenant_succeeds sound le_rfl rfl valid state unretired).mp succeeds
        exact ⟨retires.1, fun _ => retires.2⟩
  · intro advances
    exact {
      increasing := sound.increasing
      retiredStays := history_retired history
      retiredInactive := fun gone => ⟨suspended.resolve_left gone, sound.retired gone⟩
      suspends := by
        intro caller reason later admin valid active
        have unretired := unretired_of_active sound active
        exact (suspendTenant_succeeds sound later admin valid active).mpr (advances unretired).1
      reactivates := by
        intro caller reason later admin valid state unretired
        exact (reactivateTenant_succeeds sound later admin valid state unretired).mpr
          (advances unretired).1
      tearsDown := by
        intro caller reason later admin valid state
        by_cases unretired : database.tenant.retiredAt = none
        · obtain ⟨below, retirable⟩ := advances unretired
          exact (teardownTenant_succeeds sound later admin valid state unretired).mpr
            ⟨below, TenantDatabase.retirable_mono (retirable state) later⟩
        · exact teardownTenant_again admin valid unretired }

section Failure

/-- A tenant with one administrator. -/
def createdTenant : TenantDatabase where
  tenant := ⟨"tenant", "Tenant", .active, 1, none, 0, 0⟩
  memberships := [⟨⟨1⟩, .active, 1, 0, 0⟩]
  roles := [(⟨1⟩, .tenantAdmin)]
  resources := []
  issuers := []
  evidenceSources := []
  trustConfigurations := []
  policyVersions := []
  lifecycleEvents := []

def tenantAdministrator : Caller := ⟨⟨1⟩, ⟨fun _ => true, fun _ => false, []⟩, 3⟩

def suspendedOnce : TenantDatabase :=
  createdTenant.after
    ((LifecycleCommand.suspend.call (platformAdministrator 1) "HOLD" createdTenant).map Prod.snd)

def reactivatedOnce : TenantDatabase :=
  suspendedOnce.after
    ((LifecycleCommand.reactivate.call (platformAdministrator 2) "DONE" suspendedOnce).map
      Prod.snd)

/-- The tenant's administrator sets the version of the reactivated tenant. -/
def versionSet (version : Int) : TenantDatabase :=
  reactivatedOnce.after
    (updateTenant reactivatedOnce tenantAdministrator ⟨none, none, some version, none⟩
      reactivatedOnce)

theorem createdTenant_created : createdTenant.Created 0 where
  checked := by decide
  created := by decide
  unretired := rfl
  unaudited := rfl
  rows := by
    refine ⟨?_, ?_, ?_, ?_, ?_⟩ <;> simp [createdTenant, VersionedRow.Sound]

theorem versionSet_history {admits : TenantDatabase → TenantChanges → Prop} {version : Int}
    (admitted : admits reactivatedOnce ⟨none, none, some version, none⟩) :
    History 0 admits (versionSet version) [reactivatedOnce, suspendedOnce, createdTenant] := by
  have created : History 0 admits createdTenant [] := .created createdTenant_created
  have suspended : History 0 admits suspendedOnce [createdTenant] :=
    .lifecycle created .suspend _ _ (by decide)
  have reactivated : History 0 admits reactivatedOnce [suspendedOnce, createdTenant] :=
    .lifecycle suspended .reactivate _ _ (by decide)
  exact .update reactivated tenantAdministrator _ List.mem_cons_self admitted

theorem versionSet_values :
    (versionSet 1).tenant.state = .active ∧
    suspendTenant (platformAdministrator 4) "HOLD" (versionSet 1) =
      .error (.uniqueViolation "tenant_lifecycle_events_version_unique") ∧
    (∀ event ∈ reactivatedOnce.lifecycleEvents, event.tenantVersion ≤ 3) ∧
    (versionSet 3).tenant.retiredAt = none ∧ (versionSet 3).tenant.state = .active ∧
    (versionSet 3).tenant.version = 3 := by
  decide +kernel

/-- A version that the tenant set back blocks the next suspension. -/
theorem suspension_blocked :
    ¬ ∀ (opened : Timestamp) (database : TenantDatabase) (past : List TenantDatabase),
      History opened (fun _ _ => True) database past →
        PlatformControls opened database past := by
  intro claimed
  have controls := claimed 0 (versionSet 1) _ (versionSet_history trivial)
  obtain ⟨active, blocked, _⟩ := versionSet_values
  obtain ⟨result, succeeded⟩ := controls.suspends (platformAdministrator 4) "HOLD" (by decide) rfl
    (by decide) active
  rw [blocked] at succeeded
  simp at succeeded

theorem platform_controls_reactivated :
    PlatformControls 0 (versionSet 3) [reactivatedOnce, suspendedOnce, createdTenant] := by
  obtain ⟨_, _, newest, _, state, version⟩ := versionSet_values
  have keeps : reactivatedOnce.KeepsVersion ⟨none, none, some 3, none⟩ := by
    rintro _ ⟨⟩
    exact newest
  refine (platform_controls (versionSet_history keeps)).mpr fun _ => ?_
  rw [version, state]
  exact ⟨by decide, by simp⟩

end Failure

end TenantTrust.Identity.TenantLifecycle
