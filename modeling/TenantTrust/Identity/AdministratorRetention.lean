import TenantTrust.Identity.AdministratorChecks

/-! Transactions that overlap in any way leave an administrator to their tenant, as long as none
commits a removal on a check that is out of date. -/

namespace TenantTrust.Identity

open Library
open Api (ActivityState TenantRole)

/-- The two lists of writes have no row in common. -/
structure OwnWrites.Apart (left right : OwnWrites) : Prop where
  memberships : ∀ subjectId, subjectId ∈ left.memberships.map Prod.fst →
    subjectId ∉ right.memberships.map Prod.fst
  roles : ∀ role, role ∈ left.roles.map Prod.fst → role ∉ right.roles.map Prod.fst

namespace OwnWrites.Apart

variable {left right more : OwnWrites}

theorem symm (apart : left.Apart right) : right.Apart left :=
  ⟨fun subjectId mine others => apart.memberships subjectId others mine,
    fun role mine others => apart.roles role others mine⟩

theorem append (apart : left.Apart right) (added : more.Apart right) :
    OwnWrites.Apart ⟨left.memberships ++ more.memberships, left.roles ++ more.roles⟩ right := by
  constructor
  · intro subjectId written
    rw [List.map_append, List.mem_append] at written
    exact written.elim (apart.memberships subjectId) (added.memberships subjectId)
  · intro role written
    rw [List.map_append, List.mem_append] at written
    exact written.elim (apart.roles role) (added.roles role)

/-- Rows whose locks no other transaction holds. -/
theorem of_unlocked {transaction : ActorTransaction} {tenantId : TenantId} {writes : OwnWrites}
    (tenant : transaction.tenantId = tenantId)
    (free : ¬ transaction.locks tenantId writes = true) : writes.Apart transaction.writes := by
  have unlocked := free
  rw [ActorTransaction.locks, decide_eq_true tenant, Bool.true_and, Bool.or_eq_true, not_or]
    at unlocked
  constructor
  · intro subjectId written held
    have ⟨write, member, same⟩ := List.mem_map.mp written
    apply unlocked.1
    exact List.any_eq_true.mpr ⟨write, member, decide_eq_true (same ▸ held)⟩
  · intro role written held
    have ⟨write, member, same⟩ := List.mem_map.mp written
    apply unlocked.2
    exact List.any_eq_true.mpr ⟨write, member, decide_eq_true (same ▸ held)⟩

end OwnWrites.Apart

namespace Directory

variable {before after : Directory} {tenantId : TenantId} {writes others : OwnWrites}
  {pending : List RowTrigger}

/-- The rows of one tenant are the same. -/
structure SameRows (left right : Directory) (tenantId : TenantId) : Prop where
  memberships : ∀ subjectId, left.membership? tenantId subjectId =
    right.membership? tenantId subjectId
  roles : ∀ subjectId roleName, left.hasRole tenantId subjectId roleName =
    right.hasRole tenantId subjectId roleName

theorem SameRows.symm (same : before.SameRows after tenantId) : after.SameRows before tenantId :=
  ⟨fun subjectId => (same.memberships subjectId).symm,
    fun subjectId roleName => (same.roles subjectId roleName).symm⟩

theorem SameRows.keeps (same : before.SameRows after tenantId) :
    before.Keeps after tenantId [] := by
  constructor
  · intro subjectId active
    exact Or.inl ((same.memberships subjectId).symm.trans active)
  · intro subjectId role
    exact Or.inl ((same.roles subjectId .tenantAdmin).symm.trans role)

theorem SameRows.overlay (same : before.SameRows after tenantId) :
    (before.overlay tenantId writes).SameRows (after.overlay tenantId writes) tenantId := by
  constructor
  · intro subjectId
    rw [membership?_overlay, membership?_overlay, same.memberships]
  · intro subjectId roleName
    rw [hasRole_overlay, hasRole_overlay, same.roles]

theorem sameRows_overlay_elsewhere {other : TenantId} (different : other ≠ tenantId) :
    before.SameRows (before.overlay other writes) tenantId :=
  ⟨fun _ => (membership?_overlay_elsewhere writes different).symm,
    fun _ _ => (hasRole_overlay_elsewhere writes different).symm⟩

/-- What a transaction has left of the committed rows, when the rows of the tenant stay. -/
theorem Keeps.sameRows (keeps : before.Keeps (before.overlay tenantId writes) tenantId pending)
    (same : before.SameRows after tenantId) :
    after.Keeps (after.overlay tenantId writes) tenantId pending := by
  have moved := (same.symm.keeps.trans keeps).trans same.overlay.keeps
  rwa [List.nil_append, List.append_nil] at moved

theorem Keeps.sameRows_right {between : Directory} (keeps : before.Keeps between tenantId pending)
    (same : between.SameRows after tenantId) : before.Keeps after tenantId pending := by
  have moved := keeps.trans same.keeps
  rwa [List.append_nil] at moved

/-- Writes that follow earlier ones. -/
theorem overlay_append :
    ((before.overlay tenantId writes).overlay tenantId others).SameRows
      (before.overlay tenantId ⟨writes.memberships ++ others.memberships,
        writes.roles ++ others.roles⟩) tenantId := by
  constructor
  · intro subjectId
    rw [membership?_overlay, membership?_overlay, membership?_overlay, Overlay.latest_append]
  · intro subjectId roleName
    rw [hasRole_overlay, hasRole_overlay, hasRole_overlay, Overlay.latest_append]

theorem Retains.keeps (retains : before.Retains tenantId pending)
    (keeps : before.Keeps after tenantId []) : after.Retains tenantId pending := by
  have kept := keeps.retains retains
  rwa [List.append_nil] at kept

/-- What a transaction has left of the committed rows, when another one commits rows that it has
not written. -/
theorem Keeps.committed (apart : writes.Apart others)
    (keeps : before.Keeps (before.overlay tenantId writes) tenantId pending) :
    (before.overlay tenantId others).Keeps
      ((before.overlay tenantId others).overlay tenantId writes) tenantId pending := by
  constructor
  · intro subjectId active
    rw [membership?_overlay]
    by_cases mine : subjectId ∈ writes.memberships.map Prod.fst
    · have committed := active
      rw [membership?_overlay, Overlay.latest_untouched (apart.memberships subjectId mine)]
        at committed
      rw [Overlay.latest_touched mine _ (before.membership? tenantId subjectId),
        ← membership?_overlay]
      exact keeps.memberships subjectId committed
    · rw [Overlay.latest_untouched mine]
      exact Or.inl active
  · intro subjectId role
    rw [hasRole_overlay]
    by_cases mine : (subjectId, TenantRole.tenantAdmin) ∈ writes.roles.map Prod.fst
    · have committed := role
      rw [hasRole_overlay, Overlay.latest_untouched (apart.roles _ mine)] at committed
      rw [Overlay.latest_touched mine _ (before.hasRole tenantId subjectId .tenantAdmin),
        ← hasRole_overlay]
      exact keeps.roles subjectId committed
    · rw [Overlay.latest_untouched mine]
      exact Or.inl role

/-- A commit that takes nothing away takes nothing away from what others see. -/
theorem Keeps.overlay (keeps : before.Keeps after tenantId []) :
    (before.overlay tenantId writes).Keeps (after.overlay tenantId writes) tenantId [] := by
  constructor
  · intro subjectId active
    left
    rw [membership?_overlay] at active ⊢
    by_cases mine : subjectId ∈ writes.memberships.map Prod.fst
    · rwa [Overlay.latest_touched mine _ (before.membership? tenantId subjectId)]
    · rw [Overlay.latest_untouched mine] at active ⊢
      simpa using keeps.memberships subjectId active
  · intro subjectId role
    left
    rw [hasRole_overlay] at role ⊢
    by_cases mine : (subjectId, TenantRole.tenantAdmin) ∈ writes.roles.map Prod.fst
    · rwa [Overlay.latest_touched mine _ (before.hasRole tenantId subjectId .tenantAdmin)]
    · rw [Overlay.latest_untouched mine] at role ⊢
      simpa using keeps.roles subjectId role

end Directory

/-- What a transaction keeps to, whatever the others commit: its triggers have run when a statement
ends, it takes no administrator away without a removal, and until the trigger of a removal has run
one is still pending for all that is gone. -/
structure ActorTransaction.Sound (transaction : ActorTransaction) (directory : Directory) :
    Prop where
  idle : transaction.statement = none → transaction.pending = []
  harmless : transaction.demotes = false →
    directory.Keeps (transaction.view directory) transaction.tenantId []
  unsettled : transaction.settled = false →
    directory.Keeps (transaction.view directory) transaction.tenantId transaction.pending

/-- The last check of a transaction is out of date, or an administrator is in its view or under the
guard of a trigger that still has to run. -/
def ActorTransaction.Guarded (transaction : ActorTransaction) (directory : Directory) : Prop :=
  transaction.stale = true ∨
    (transaction.view directory).Retains transaction.tenantId transaction.pending

structure DirectorySystem.Watched (start : Directory) (system : DirectorySystem) : Prop where
  retained : ∀ tenantId, start.HasActiveAdmin tenantId →
    system.directory.HasActiveAdmin tenantId
  sound : ∀ transaction ∈ system.transactions, transaction.Sound system.directory
  guarded : ∀ transaction ∈ system.transactions, start.HasActiveAdmin transaction.tenantId →
    transaction.Guarded system.directory
  apart : ∀ left ∈ system.transactions, ∀ right ∈ system.transactions,
    left.connection ≠ right.connection → left.tenantId = right.tenantId →
    left.writes.Apart right.writes

namespace DirectorySystem

variable {start : Directory} {system : DirectorySystem} {transaction other : ActorTransaction}

theorem mem_put (member : other ∈ (system.put transaction).transactions) :
    other = transaction ∨
      other ∈ system.transactions ∧ other.connection ≠ transaction.connection := by
  have found := Table.get?_of_mem member
  rw [put, Table.get?_upsert] at found
  by_cases same : transaction.connection = other.connection
  · rw [if_pos same] at found
    exact Or.inl (Option.some.inj found).symm
  · rw [if_neg same] at found
    exact Or.inr ⟨Table.get?_mem found, fun equal => same equal.symm⟩

theorem mem_drop {connection : Nat} (member : other ∈ (system.drop connection).transactions) :
    other ∈ system.transactions ∧ other.connection ≠ connection := by
  have found := Table.get?_of_mem member
  rw [drop, Table.get?_delete] at found
  by_cases same : other.connection = connection
  · rw [if_pos same] at found
    cases found
  · rw [if_neg same] at found
    exact ⟨Table.get?_mem found, same⟩

theorem mem_outdate {tenantId : TenantId}
    (member : other ∈ (system.outdate tenantId).transactions) :
    ∃ source ∈ system.transactions, other = { source with
      stale := source.stale || (source.tenantId = tenantId && source.settled) } := by
  rw [outdate, Table.mem_update] at member
  have ⟨source, kept, marked⟩ := member
  exact ⟨source, kept, marked.symm⟩

theorem guarded_fired {trigger : RowTrigger} {rest : List RowTrigger}
    (guarded : transaction.Guarded system.directory)
    (queue : transaction.pending = trigger :: rest)
    (passed : trigger.run (transaction.view system.directory) transaction.tenantId = .ok ()) :
    let view := transaction.view system.directory
    let checked := trigger.removedActiveAdmin view transaction.tenantId &&
      view.tenantActive transaction.tenantId
    ActorTransaction.Guarded { transaction with
      pending := rest
      settled := transaction.settled || trigger.isRemoval
      stale := !checked && (transaction.stale ||
        leavesUnchecked view transaction.tenantId trigger) } system.directory := by
  intro view checked
  cases counted : checked with
  | true =>
      have parts := Bool.and_eq_true_iff.mp counted
      exact Or.inr (Or.inl (RowTrigger.run_counts passed parts.1 parts.2))
  | false =>
      rcases guarded with stale | admin | ⟨guard, queued, holds⟩
      · left
        change (!false && (transaction.stale || _)) = true
        rw [stale]
        rfl
      · exact Or.inr (Or.inl admin)
      · rw [queue, List.mem_cons] at queued
        rcases queued with rfl | later
        · left
          change (!false && (_ || leavesUnchecked view transaction.tenantId guard)) = true
          rw [RowTrigger.guards_unchecked holds counted, Bool.or_true]
          rfl
        · exact Or.inr (Or.inr ⟨guard, later, holds⟩)

namespace Watched

theorem drop (watched : system.Watched start) (connection : Nat) :
    (system.drop connection).Watched start := by
  constructor
  · exact watched.retained
  · exact fun other member => watched.sound other (mem_drop member).1
  · exact fun other member => watched.guarded other (mem_drop member).1
  · exact fun left mine right others =>
      watched.apart left (mem_drop mine).1 right (mem_drop others).1

theorem put (watched : system.Watched start) (sound : transaction.Sound system.directory)
    (guarded : start.HasActiveAdmin transaction.tenantId →
      transaction.Guarded system.directory)
    (apart : ∀ other ∈ system.transactions, other.connection ≠ transaction.connection →
      other.tenantId = transaction.tenantId → transaction.writes.Apart other.writes) :
    (system.put transaction).Watched start := by
  constructor
  · exact watched.retained
  · intro other member
    rcases mem_put member with rfl | ⟨old, _⟩
    · exact sound
    · exact watched.sound other old
  · intro other member
    rcases mem_put member with rfl | ⟨old, _⟩
    · exact guarded
    · exact watched.guarded other old
  · intro left mine right others different tenants
    rcases mem_put mine with rfl | ⟨old, _⟩
    · rcases mem_put others with rfl | ⟨present, elsewhere⟩
      · exact absurd rfl different
      · exact apart right present elsewhere tenants.symm
    · rcases mem_put others with rfl | ⟨present, _⟩
      · exact (apart left old different tenants).symm
      · exact watched.apart left old right present different tenants

/-- A transaction that goes on with the writes it had. -/
theorem put_same (watched : system.Watched start) (member : other ∈ system.transactions)
    (connection : transaction.connection = other.connection)
    (tenant : transaction.tenantId = other.tenantId)
    (writes : transaction.writes = other.writes)
    (sound : transaction.Sound system.directory)
    (guarded : start.HasActiveAdmin transaction.tenantId →
      transaction.Guarded system.directory) : (system.put transaction).Watched start := by
  apply watched.put sound guarded
  intro third present different tenants
  rw [writes]
  apply watched.apart other member third present
  · rw [← connection]
    exact different.symm
  · rw [← tenant, tenants]

theorem begin {connection : Nat} {tenantId : TenantId} {subjectId : SubjectId}
    {activeSubject : SubjectId → Bool} {next : DirectorySystem} {reply : DirectoryReply}
    (watched : system.Watched start)
    (began : system.begin connection tenantId subjectId activeSubject = .ok (next, reply)) :
    next.Watched start := by
  simp only [DirectorySystem.begin, Checked.bind_eq_ok, Checked.require_eq_ok, exists_const]
    at began
  obtain ⟨_, rest⟩ := began
  split at rest
  · cases rest
    apply watched.put
    · exact ⟨fun _ => rfl, fun _ => Directory.Keeps.refl, fun _ => Directory.Keeps.refl⟩
    · exact fun protected_ => Or.inr (Or.inl (watched.retained tenantId protected_))
    · intro third _ _ _
      exact ⟨fun _ none_ => absurd none_ List.not_mem_nil,
        fun _ none_ => absurd none_ List.not_mem_nil⟩
  · cases rest
    exact watched

theorem startStatement {activeSubject : SubjectId → Bool} {next : DirectorySystem}
    {reply : DirectoryReply} (watched : system.Watched start)
    (member : transaction ∈ system.transactions)
    (started : system.startStatement transaction activeSubject = .ok (next, reply)) :
    next.Watched start := by
  simp only [DirectorySystem.startStatement, Checked.bind_eq_ok, Checked.require_eq_ok,
    Checked.pure_eq_ok, exists_const] at started
  obtain ⟨_, written⟩ := started
  cases written
  have sound := watched.sound transaction member
  apply watched.put_same member
  iterate 3 rfl
  · refine ⟨fun idle => ?_, sound.harmless, sound.unsettled⟩
    cases idle
  · exact watched.guarded transaction member

theorem endStatement {next : DirectorySystem} {reply : DirectoryReply}
    (watched : system.Watched start) (member : transaction ∈ system.transactions)
    (ended : system.endStatement transaction = .ok (next, reply)) : next.Watched start := by
  simp only [DirectorySystem.endStatement, Checked.bind_eq_ok, Checked.require_eq_ok,
    Checked.pure_eq_ok, exists_const] at ended
  obtain ⟨⟨_, done⟩, written⟩ := ended
  cases written
  have sound := watched.sound transaction member
  apply watched.put_same member
  iterate 3 rfl
  · exact ⟨fun _ => done, sound.harmless, sound.unsettled⟩
  · exact watched.guarded transaction member

theorem wrote {change : RowChange} {activeSubject : SubjectId → Bool} {effect : RowEffect}
    {admitted : Bool} (watched : system.Watched start) (member : transaction ∈ system.transactions)
    (running : transaction.statement = some admitted)
    (changed : change.effect activeSubject (transaction.view system.directory)
      transaction.tenantId = .ok effect)
    (free : ¬ ∃ other ∈ system.transactions, other.connection ≠ transaction.connection ∧
      other.locks transaction.tenantId effect.writes = true) :
    (system.put { transaction with
      writes := ⟨transaction.writes.memberships ++ effect.writes.memberships,
        transaction.writes.roles ++ effect.writes.roles⟩
      pending := transaction.pending ++ effect.triggers
      demotes := transaction.demotes || effect.triggers.any RowTrigger.isRemoval }).Watched
      start := by
  have sound := watched.sound transaction member
  have moved : (transaction.view system.directory).Keeps
      (system.directory.overlay transaction.tenantId
        ⟨transaction.writes.memberships ++ effect.writes.memberships,
          transaction.writes.roles ++ effect.writes.roles⟩)
      transaction.tenantId effect.triggers :=
    (RowChange.effect_keeps changed).sameRows_right Directory.overlay_append
  apply watched.put
  · constructor
    · intro idle
      rw [running] at idle
      cases idle
    · intro harmless
      have before := (Bool.or_eq_false_iff.mp harmless).1
      have triggers := (Bool.or_eq_false_iff.mp harmless).2
      have kept := (sound.harmless before).trans moved
      apply kept.only
      intro trigger queued removal
      rw [List.nil_append] at queued
      have none_ := List.any_eq_false.mp triggers trigger queued
      exact absurd removal none_
    · exact fun unsettled => (sound.unsettled unsettled).trans moved
  · intro protected_
    rcases watched.guarded transaction member protected_ with stale | retains
    · exact Or.inl stale
    · exact Or.inr (moved.retains retains)
  · intro other present different tenants
    apply OwnWrites.Apart.append
    · exact watched.apart transaction member other present different.symm tenants.symm
    · apply OwnWrites.Apart.of_unlocked tenants
      exact fun locked => free ⟨other, present, different, locked⟩

/-- One row of a statement: what it takes away waits for its triggers. -/
theorem writeRow {change : RowChange} {activeSubject : SubjectId → Bool} {next : DirectorySystem}
    {reply : DirectoryReply} (watched : system.Watched start)
    (member : transaction ∈ system.transactions)
    (wrote : system.writeRow transaction change activeSubject = .ok (next, reply)) :
    next.Watched start := by
  rw [DirectorySystem.writeRow] at wrote
  cases running : transaction.statement with
  | none =>
      rw [running] at wrote
      cases wrote
  | some admitted =>
      rw [running] at wrote
      cases admitted with
      | false =>
          simp only at wrote
          split at wrote
          · cases wrote
            exact watched.drop transaction.connection
          · cases wrote
            exact watched
      | true =>
          simp only at wrote
          cases changed : change.effect activeSubject (transaction.view system.directory)
              transaction.tenantId with
          | error failure =>
              rw [changed] at wrote
              cases wrote
              exact watched.drop transaction.connection
          | ok effect =>
              rw [changed] at wrote
              simp only at wrote
              split at wrote
              · cases wrote
              · rename_i free
                cases wrote
                have next := watched.wrote member running changed free
                rwa [running] at next

/-- A trigger that ran: it counted the administrators, or it was no guard, or what it left
unchecked is recorded. -/
theorem fireTrigger {next : DirectorySystem} {reply : DirectoryReply}
    (watched : system.Watched start) (member : transaction ∈ system.transactions)
    (fired : system.fireTrigger transaction = .ok (next, reply)) : next.Watched start := by
  rw [DirectorySystem.fireTrigger] at fired
  cases queue : transaction.pending with
  | nil =>
      rw [queue] at fired
      cases fired
  | cons trigger rest =>
      rw [queue] at fired
      simp only at fired
      cases ran : trigger.run (transaction.view system.directory) transaction.tenantId with
      | error failure =>
          rw [ran] at fired
          cases fired
          exact watched.drop transaction.connection
      | ok done =>
          rw [ran] at fired
          cases fired
          have sound := watched.sound transaction member
          apply watched.put_same member
          iterate 3 rfl
          · constructor
            · intro idle
              have none_ := queue.symm.trans (sound.idle idle)
              cases none_
            · exact sound.harmless
            · intro unsettled
              have before := (Bool.or_eq_false_iff.mp unsettled).1
              have notRemoval := (Bool.or_eq_false_iff.mp unsettled).2
              apply (sound.unsettled before).only
              intro queued present removal
              rw [queue, List.mem_cons] at present
              apply present.resolve_left
              rintro rfl
              cases notRemoval.symm.trans removal
          · intro protected_
            exact guarded_fired (watched.guarded transaction member protected_) queue ran

/-- The tables after a commit of another tenant, or of its tenant by another connection. -/
theorem sound_committed (watched : system.Watched start)
    (member : transaction ∈ system.transactions)
    (present : other ∈ system.transactions)
    (different : other.connection ≠ transaction.connection) :
    other.Sound (transaction.view system.directory) := by
  have sound := watched.sound other present
  by_cases same : transaction.tenantId = other.tenantId
  · have apart := watched.apart other present transaction member different same.symm
    rw [ActorTransaction.view, same]
    exact ⟨sound.idle, fun harmless => (sound.harmless harmless).committed apart,
      fun unsettled => (sound.unsettled unsettled).committed apart⟩
  · have rows : system.directory.SameRows (transaction.view system.directory) other.tenantId :=
      Directory.sameRows_overlay_elsewhere same
    exact ⟨sound.idle, fun harmless => (sound.harmless harmless).sameRows rows,
      fun unsettled => (sound.unsettled unsettled).sameRows rows⟩

/-- The tenants of the start keep an administrator in what is committed. -/
theorem retained_committed (watched : system.Watched start)
    (member : transaction ∈ system.transactions) (idle : transaction.statement = none)
    (checked : transaction.demotes = true → transaction.stale = false) (tenantId : TenantId)
    (protected_ : start.HasActiveAdmin tenantId) :
    (transaction.view system.directory).HasActiveAdmin tenantId := by
  have before := watched.retained tenantId protected_
  by_cases same : transaction.tenantId = tenantId
  · subst same
    have sound := watched.sound transaction member
    cases removal : transaction.demotes with
    | false => exact (sound.harmless removal).hasActiveAdmin before
    | true =>
        rcases watched.guarded transaction member protected_ with stale | admin | waiting
        · cases stale.symm.trans (checked removal)
        · exact admin
        · have ⟨trigger, queued, _⟩ := waiting
          rw [sound.idle idle] at queued
          cases queued
  · exact (Directory.hasActiveAdmin_overlay_elsewhere transaction.writes same).mpr before

/-- A commit that takes nothing away leaves the guards of the others in place. -/
theorem guarded_harmless (watched : system.Watched start)
    (member : transaction ∈ system.transactions) (harmless : transaction.demotes = false)
    (present : other ∈ system.transactions)
    (protected_ : start.HasActiveAdmin other.tenantId) :
    other.Guarded (transaction.view system.directory) := by
  rcases watched.guarded other present protected_ with stale | retains
  · exact Or.inl stale
  · right
    by_cases same : transaction.tenantId = other.tenantId
    · have kept := (watched.sound transaction member).harmless harmless
      rw [same] at kept
      exact retains.keeps kept.overlay
    · exact retains.keeps (Directory.sameRows_overlay_elsewhere same).overlay.keeps

/-- After the commit of a removal the others of the tenant are out of date, unless the triggers of
their own removals still have to run. -/
theorem guarded_outdated (watched : system.Watched start)
    (member : transaction ∈ system.transactions) (idle : transaction.statement = none)
    (checked : transaction.demotes = true → transaction.stale = false)
    (present : other ∈ system.transactions) (different : other.connection ≠ transaction.connection)
    (protected_ : start.HasActiveAdmin other.tenantId) :
    ActorTransaction.Guarded { other with stale := other.stale ||
      (other.tenantId = transaction.tenantId && other.settled) }
      (transaction.view system.directory) := by
  by_cases same : transaction.tenantId = other.tenantId
  · cases settled : other.settled with
    | true =>
        left
        change (other.stale || (decide (other.tenantId = transaction.tenantId) && true)) = true
        rw [same, decide_eq_true rfl, Bool.and_self, Bool.or_true]
    | false =>
        right
        have sound := watched.sound_committed member present different
        have retained := watched.retained_committed member idle checked other.tenantId protected_
        exact (sound.unsettled settled).retains_of_admin retained
  · rcases watched.guarded other present protected_ with stale | retains
    · left
      change (other.stale || _) = true
      rw [stale, Bool.true_or]
    · exact Or.inr (retains.keeps (Directory.sameRows_overlay_elsewhere same).overlay.keeps)

theorem commit {next : DirectorySystem} {reply : DirectoryReply} (watched : system.Watched start)
    (member : transaction ∈ system.transactions)
    (checked : transaction.demotes = true → transaction.stale = false)
    (committed : system.commit transaction = .ok (next, reply)) : next.Watched start := by
  simp only [DirectorySystem.commit, Checked.bind_eq_ok, Checked.require_eq_ok,
    Checked.pure_eq_ok, exists_const] at committed
  obtain ⟨idle, result⟩ := committed
  have retained := watched.retained_committed member idle checked
  cases removal : transaction.demotes with
  | false =>
      rw [removal] at result
      cases result
      constructor
      · exact retained
      · intro other present
        obtain ⟨old, different⟩ := mem_drop present
        exact watched.sound_committed member old different
      · intro other present protected_
        exact watched.guarded_harmless member removal (mem_drop present).1 protected_
      · exact (watched.drop transaction.connection).apart
  | true =>
      rw [removal] at result
      cases result
      constructor
      · exact retained
      · intro other present
        obtain ⟨source, kept, marked⟩ := mem_outdate present
        obtain ⟨old, different⟩ := mem_drop kept
        subst marked
        have sound := watched.sound_committed member old different
        exact ⟨sound.idle, sound.harmless, sound.unsettled⟩
      · intro other present protected_
        obtain ⟨source, kept, marked⟩ := mem_outdate present
        obtain ⟨old, different⟩ := mem_drop kept
        subst marked
        exact watched.guarded_outdated member idle checked old different protected_
      · intro left mine right others different tenants
        obtain ⟨first, firstKept, firstMarked⟩ := mem_outdate mine
        obtain ⟨second, secondKept, secondMarked⟩ := mem_outdate others
        subst firstMarked secondMarked
        exact (watched.drop transaction.connection).apart first firstKept second secondKept
          different tenants

/-- The lifecycle of a tenant leaves memberships and roles alone. -/
theorem changeTenantState {isPlatformAdmin : Bool} {tenantId : TenantId} {reasonCode : String}
    {state : ActivityState} {next : DirectorySystem} {reply : DirectoryReply}
    (watched : system.Watched start)
    (changed : system.changeTenantState isPlatformAdmin tenantId reasonCode state =
      .ok (next, reply)) : next.Watched start := by
  simp only [DirectorySystem.changeTenantState, Checked.bind_eq_ok, Checked.require_eq_ok,
    Checked.requireSome_eq_ok, exists_const] at changed
  obtain ⟨_, _, tenant, _, _, written⟩ := changed
  split at written
  · cases written
    exact watched
  · cases written
    have rows : ∀ other, system.directory.SameRows { system.directory with
        tenants := system.directory.tenants.upsert { tenant with state := state } } other :=
      fun _ => ⟨fun _ => rfl, fun _ _ => rfl⟩
    constructor
    · exact watched.retained
    · intro other present
      have sound := watched.sound other present
      exact ⟨sound.idle, fun harmless => (sound.harmless harmless).sameRows (rows _),
        fun unsettled => (sound.unsettled unsettled).sameRows (rows _)⟩
    · intro other present protected_
      rcases watched.guarded other present protected_ with stale | retains
      · exact Or.inl stale
      · exact Or.inr (retains.keeps (rows _).overlay.keeps)
    · exact watched.apart

end Watched

end DirectorySystem

end TenantTrust.Identity
