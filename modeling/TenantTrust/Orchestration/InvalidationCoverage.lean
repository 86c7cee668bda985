import TenantTrust.Orchestration.InvalidationRuns

/-! Which live entries an invalidation can reach. -/

namespace TenantTrust.Orchestration

open Library Identity

/-- Every live entry is in the live registry of its owner. -/
def Covers (owner : EntryKey → SubjectKey) (store : SecurityStateStore) : Prop :=
  ∀ key, (store.entries.live store.now key).isSome →
    key ∈ store.members ⟨key.family, owner key⟩

/-- An invalidation that is not a repetition leaves no live entry of the subject and deletes no
key of another tenant. -/
def InvalidatesAll (owner : EntryKey → SubjectKey) (store : SecurityStateStore) : Prop :=
  ∀ subject actionId invalidatedAt after reply,
    invalidateSubject subject actionId invalidatedAt store = .ok (after, reply) → reply.applied →
    (∀ key, owner key = subject → after.entries.live after.now key = none) ∧
    (∀ key, key.tenantId ≠ subject.1 → after.entries key = store.entries key) ∧
    (∀ index, index.subject.1 ≠ subject.1 → after.indexes index = store.indexes index) ∧
    (∀ other, other.1 ≠ subject.1 → after.markers other = store.markers other)

/-- The remaining lifetime of the registry rounds to at least the lifetime of the new entry
although it is shorter. -/
def InRoundingGap (store : SecurityStateStore) (r : Registration) : Prop :=
  ∃ registry deadline,
    store.indexes.live store.now r.index = some ⟨registry, some deadline⟩ ∧
    seconds r.ttlSeconds ≤ deadline - store.now + 500 ∧
    deadline - store.now < seconds r.ttlSeconds

/-- Registrations that commit do so outside the gap. -/
def AvoidsRoundingGap (system : InvalidationSystem) (op : InvalidationOp) : Prop :=
  ∀ r, op.registration? = some r → ∀ next reply,
    applyInvalidation op system = .ok (next, reply) → ¬ InRoundingGap system.store r

/-- The invariant: the registry of its owner outlives each entry. -/
def Outlived (owner : EntryKey → SubjectKey) (store : SecurityStateStore) : Prop :=
  ∀ key entry, store.entries.live store.now key = some entry →
    ∃ registry deadline last,
      store.indexes.live store.now ⟨key.family, owner key⟩ = some ⟨registry, some deadline⟩ ∧
      key ∈ registry ∧ entry.deadline = some last ∧ last ≤ deadline

theorem Outlived.covers {owner : EntryKey → SubjectKey} {store : SecurityStateStore}
    (outlived : Outlived owner store) : Covers owner store := by
  intro key alive
  obtain ⟨entry, found⟩ := Option.isSome_iff_exists.mp alive
  obtain ⟨registry, deadline, _, present, member, _⟩ := outlived key entry found
  simpa [SecurityStateStore.members, Keyspace.get, present] using member

theorem Covers.invalidatesAll {owner : EntryKey → SubjectKey} {store : SecurityStateStore}
    (covers : Covers owner store) : InvalidatesAll owner store := by
  intro subject actionId invalidatedAt after reply script applied
  rcases invalidateSubject_cases script with ⟨_, _, _, rfl⟩ | ⟨_, sessions, caches, stored, _⟩
  · simp at applied
  · have time : after.now = store.now := by rw [stored]; rfl
    refine ⟨?_, ?_, ?_, ?_⟩
    · intro key owned
      have gone := clearSubject_entries subject actionId invalidatedAt store key
      rw [← stored] at gone
      cases alive : store.entries.live store.now key with
      | none =>
          unfold Keyspace.live
          rw [gone, time]
          split
          · rfl
          · exact alive
      | some entry =>
          have member := covers key (by rw [alive]; rfl)
          rw [owned] at member
          have listed : key ∈ store.members ⟨.session, subject⟩ ∨
              key ∈ store.members ⟨.cache, subject⟩ := by
            cases family : key.family with
            | session => exact Or.inl (family ▸ member)
            | cache => exact Or.inr (family ▸ member)
          rw [if_pos listed] at gone
          unfold Keyspace.live
          rw [gone]
          rfl
    · intro key foreign
      rw [stored, clearSubject_entries, if_neg]
      intro listed
      have inTenant : key.tenantId = subject.1 := by
        rcases listed with member | member
        · have := sessions key member
          simp only [EntryKey.inScope, Bool.and_eq_true, decide_eq_true_eq] at this
          exact this.2
        · have := caches key member
          simp only [EntryKey.inScope, Bool.and_eq_true, decide_eq_true_eq] at this
          exact this.2
      exact foreign inTenant
    · intro index foreign
      rw [stored, clearSubject_indexes, if_neg]
      intro same
      exact foreign (congrArg Prod.fst same)
    · intro other foreign
      rw [stored]
      have different : other ≠ subject := fun same => foreign (congrArg Prod.fst same)
      simp [clearSubject, Keyspace.set, different]

/-! The invariant over the steps of the store. -/

section Steps

variable {owner : EntryKey → SubjectKey} {store : SecurityStateStore}

theorem Outlived.elapse (outlived : Outlived owner store) (milliseconds : Nat) :
    Outlived owner { store with now := store.now + milliseconds } := by
  intro key entry found
  have order : store.now ≤ store.now + (milliseconds : Int) := by
    unfold Timestamp at *
    omega
  obtain ⟨stored, alive⟩ := Keyspace.live_eq_some.mp found
  obtain ⟨registry, deadline, last, present, member, limit, within⟩ :=
    outlived key entry (Keyspace.live_of_later order found)
  refine ⟨registry, deadline, last, ?_, member, limit, within⟩
  refine Keyspace.live_eq_some.mpr ⟨(Keyspace.live_eq_some.mp present).1, ?_⟩
  simp only [Expiring.isLive, limit, decide_eq_true_eq] at alive ⊢
  unfold Timestamp at *
  omega

/-- Outside the gap the registry lives at least as long as the new entry. -/
theorem le_indexDeadline_of_outside {r : Registration}
    (outside : ¬ InRoundingGap store r) :
    store.now + seconds r.ttlSeconds ≤ indexDeadline store.now r.ttlSeconds
      ((store.indexes.live store.now r.index).bind Expiring.deadline) := by
  cases found : store.indexes.live store.now r.index with
  | none => exact le_refl _
  | some entry =>
      obtain ⟨registry, limit⟩ := entry
      cases limit with
      | none => exact le_refl _
      | some deadline =>
          have apart : ¬ (seconds r.ttlSeconds ≤ deadline - store.now + 500 ∧
              deadline - store.now < seconds r.ttlSeconds) :=
            fun gap => outside ⟨registry, deadline, found, gap.1, gap.2⟩
          simp only [Option.bind_some, indexDeadline, seconds] at apart ⊢
          unfold Timestamp at *
          split <;> omega

theorem Outlived.register (outlived : Outlived owner store) {r : Registration}
    (owned : owner r.key = r.subject) (positive : 1 ≤ r.ttlSeconds)
    (outside : ¬ InRoundingGap store r) :
    Outlived owner (registerEntry r.key r.index r.value r.ttlSeconds store) := by
  intro key entry found
  have longEnough := le_indexDeadline_of_outside outside
  have alive : ∀ {last : Timestamp}, store.now + seconds r.ttlSeconds ≤ last →
      store.now < last := by
    intro last order
    unfold Timestamp at *
    simp only [seconds] at order
    omega
  change (store.entries.set r.key r.value _).live store.now key = some entry at found
  change ∃ registry deadline last, (registerEntry r.key r.index r.value r.ttlSeconds
    store).indexes.live store.now _ = _ ∧ _
  rw [registerEntry_indexes]
  generalize extended : (if r.key ∈ store.members r.index then store.members r.index
    else r.key :: store.members r.index) = registry'
  have keeps : ∀ other ∈ store.members r.index, other ∈ registry' := by
    intro other member
    rw [← extended]
    split
    · exact member
    · exact List.mem_cons_of_mem _ member
  by_cases same : key = r.key
  · have renewed : entry = ⟨r.value, some (store.now + seconds r.ttlSeconds)⟩ := by
      have fresh := store.entries.live_set_same store.now r.key r.value
        (some (store.now + seconds r.ttlSeconds)) (decide_eq_true (alive (le_refl _)))
      rw [same, fresh] at found
      exact (Option.some.inj found).symm
    have index : (⟨key.family, owner key⟩ : IndexKey) = r.index := by
      rw [same, owned]
      rfl
    rw [index]
    refine ⟨registry', _, _, Keyspace.live_set_same _ _ _ _ _ (decide_eq_true (alive longEnough)),
      ?_, by rw [renewed], longEnough⟩
    rw [same, ← extended]
    split
    · assumption
    · exact List.mem_cons_self
  · rw [Keyspace.live_set_other _ _ _ _ same] at found
    obtain ⟨registry, deadline, last, present, member, limit, within⟩ := outlived key entry found
    by_cases shared : (⟨key.family, owner key⟩ : IndexKey) = r.index
    · rw [shared] at present ⊢
      rw [present] at longEnough ⊢
      have longer := le_indexDeadline store.now r.ttlSeconds deadline
      refine ⟨registry', _, last,
        Keyspace.live_set_same _ _ _ _ _ (decide_eq_true (alive longEnough)),
        ?_, limit, within.trans longer⟩
      apply keeps
      simpa [SecurityStateStore.members, Keyspace.get, present] using member
    · rw [Keyspace.live_set_other _ _ _ _ shared]
      exact ⟨registry, deadline, last, present, member, limit, within⟩

theorem Outlived.invalidate (outlived : Outlived owner store) {subject : SubjectKey}
    {actionId : ActionId} {invalidatedAt : Timestamp} {after : SecurityStateStore}
    {reply : ScriptReply}
    (script : invalidateSubject subject actionId invalidatedAt store = .ok (after, reply)) :
    Outlived owner after := by
  rcases invalidateSubject_cases script with ⟨_, _, rfl, _⟩ | ⟨_, _, _, stored, _⟩
  · exact outlived
  · intro key entry found
    have gone := clearSubject_entries subject actionId invalidatedAt store key
    have kept := clearSubject_indexes subject actionId invalidatedAt store ⟨key.family, owner key⟩
    rw [← stored] at gone kept
    obtain ⟨present, alive⟩ := Keyspace.live_eq_some.mp found
    rw [gone] at present
    have time : after.now = store.now := by rw [stored]; rfl
    rw [time] at alive ⊢
    split at present
    case isTrue => cases present
    case isFalse unlisted =>
      obtain ⟨registry, deadline, last, registered, member, limit, within⟩ :=
        outlived key entry (Keyspace.live_eq_some.mpr ⟨present, alive⟩)
      have elsewhere : owner key ≠ subject := by
        intro same
        apply unlisted
        have listed : key ∈ store.members ⟨key.family, owner key⟩ := by
          simpa [SecurityStateStore.members, Keyspace.get, registered] using member
        rw [same] at listed
        cases family : key.family with
        | session => exact Or.inl (family ▸ listed)
        | cache => exact Or.inr (family ▸ listed)
      rw [if_neg elsewhere] at kept
      refine ⟨registry, deadline, last, ?_, member, limit, within⟩
      unfold Keyspace.live at registered ⊢
      rwa [kept]

theorem outlived_empty (now : Timestamp) : Outlived owner (SecurityStateStore.empty now) := by
  intro key entry found
  cases found

end Steps

/-- Every registration of a key is for the subject that owns it. -/
def RegistersFor (owner : EntryKey → SubjectKey) (op : InvalidationOp) : Prop :=
  ∀ r, op.registration? = some r → owner r.key = r.subject

section Run

variable {owner : EntryKey → SubjectKey}

theorem Outlived.commit {system : InvalidationSystem} {op : InvalidationOp}
    (outlived : Outlived owner system.store) (owned : RegistersFor owner op)
    (avoids : AvoidsRoundingGap system op) :
    Outlived owner (Transaction.commit applyInvalidation system op).store := by
  rcases Transaction.commit_cases applyInvalidation system op with aborted | ⟨reply, committed⟩
  · rw [aborted]
    exact outlived
  · have step := applyInvalidation_cases committed
    generalize stored : (Transaction.commit applyInvalidation system op).store = after at step ⊢
    cases step with
    | elapsed milliseconds => exact outlived.elapse milliseconds
    | registered r named positive =>
        exact outlived.register (owned r named) positive (avoids r named _ _ committed)
    | untouched => exact outlived
    | invalidated _ _ _ _ _ script => exact outlived.invalidate script

theorem outlived_run {system : InvalidationSystem} {ops : List InvalidationOp}
    (outlived : Outlived owner system.store) (owned : ∀ op ∈ ops, RegistersFor owner op)
    (guarded : Transaction.Guarded applyInvalidation AvoidsRoundingGap system ops) :
    Outlived owner (runInvalidation system ops).store := by
  induction ops generalizing system with
  | nil => exact outlived
  | cons op ops ih =>
      refine ih ?_ (fun other member => owned other (List.mem_cons_of_mem _ member)) guarded.2
      exact outlived.commit (owned op List.mem_cons_self) guarded.1

theorem run_elapse (system : InvalidationSystem) (wait : Nat) :
    (runInvalidation system [.elapse wait]).store =
      { system.store with now := system.store.now + wait } := rfl

theorem StoreStep.eq_registerEntry {before after : SecurityStateStore} {op : InvalidationOp}
    {r : Registration} (step : StoreStep before op after) (named : op.registration? = some r) :
    after = registerEntry r.key r.index r.value r.ttlSeconds before := by
  cases step with
  | elapsed _ other =>
      rw [other] at named
      cases named
  | registered _ same =>
      cases named.symm.trans same
      rfl
  | untouched unregistered =>
      rw [unregistered] at named
      cases named
  | invalidated _ _ _ _ other =>
      rw [other] at named
      cases named

/-- After a registration in the gap there is a time at which the entry has outlived its
registry. -/
theorem uncovered_of_gap {store : SecurityStateStore} {r : Registration}
    (owned : owner r.key = r.subject) (gap : InRoundingGap store r) :
    ∃ wait : Nat, let after := registerEntry r.key r.index r.value r.ttlSeconds store
      ¬ Covers owner { after with now := after.now + wait } := by
  obtain ⟨registry, deadline, present, rounded, short⟩ := gap
  have alive : store.now < deadline :=
    of_decide_eq_true (Keyspace.live_eq_some.mp present).2
  refine ⟨(deadline - store.now).toNat, ?_⟩
  intro after covers
  have time : after.now + ((deadline - store.now).toNat : Int) = deadline := by
    change store.now + _ = _
    unfold Timestamp at *
    omega
  have kept : indexDeadline store.now r.ttlSeconds (some deadline) = deadline := by
    simp only [indexDeadline, seconds] at rounded ⊢
    unfold Timestamp at *
    rw [if_neg]
    omega
  have entryLives : (after.entries.live deadline r.key).isSome := by
    have longer : deadline < store.now + seconds r.ttlSeconds := by
      unfold Timestamp at *
      omega
    have stillLive : (Expiring.mk r.value
        (some (store.now + seconds r.ttlSeconds))).isLive deadline = true := decide_eq_true longer
    rw [show after.entries = store.entries.set r.key r.value
      (some (store.now + seconds r.ttlSeconds)) from rfl,
      Keyspace.live_set_same _ _ _ _ _ stillLive]
    rfl
  have registryGone : after.indexes.live deadline r.index = none := by
    rw [show after.indexes = (registerEntry r.key r.index r.value r.ttlSeconds store).indexes
      from rfl, registerEntry_indexes, present, Option.bind_some, kept]
    simp [Keyspace.set, Keyspace.live_put, Expiring.isLive]
  rw [time] at covers
  have member := covers r.key entryLives
  have index : (⟨r.key.family, owner r.key⟩ : IndexKey) = r.index := by
    rw [owned]
    rfl
  rw [index] at member
  simp [SecurityStateStore.members, Keyspace.get, registryGone] at member

/-- Whatever the waiting time after any part of the run, the live entries are registered and an
invalidation deletes them, exactly if no registration falls into the gap. -/
theorem invalidation_misses_nothing_iff (owner : EntryKey → SubjectKey) (start : Timestamp)
    (ops : List InvalidationOp) (owned : ∀ op ∈ ops, RegistersFor owner op) :
    (∀ front back wait, ops = front ++ back →
      let store := (runInvalidation (.initial start) (front ++ [.elapse wait])).store
      Covers owner store ∧ InvalidatesAll owner store) ↔
    Transaction.Guarded applyInvalidation AvoidsRoundingGap (.initial start) ops := by
  constructor
  · intro reached
    rw [Transaction.guarded_iff]
    intro front op back split r named next reply committed gap
    have owns : owner r.key = r.subject := owned op (by rw [split]; simp) r named
    obtain ⟨wait, uncovered⟩ := uncovered_of_gap owns gap
    have covered := (reached (front ++ [op]) back wait (by rw [split]; simp)).1
    have step := applyInvalidation_cases committed
    rw [runInvalidation, Transaction.run_append, Transaction.run_concat,
      Transaction.commit_ok committed] at covered
    rw [← runInvalidation, run_elapse] at covered
    rw [step.eq_registerEntry named] at covered
    exact uncovered covered
  · intro guarded front back wait split
    rw [split, Transaction.guarded_append] at guarded
    have before : Outlived owner (runInvalidation (.initial start) front).store :=
      outlived_run (outlived_empty start)
        (fun op member => owned op (by rw [split]; exact List.mem_append_left _ member)) guarded.1
    have after : Outlived owner
        (runInvalidation (.initial start) (front ++ [.elapse wait])).store := by
      rw [runInvalidation, Transaction.run_append]
      exact before.elapse wait
    exact ⟨after.covers, after.covers.invalidatesAll⟩

end Run

namespace SubsecondGap

def subject : SubjectKey := (⟨1⟩, ⟨2⟩)

/-- Two sessions with the same lifetime, the second registered 400 milliseconds later. -/
def registrations : List InvalidationOp :=
  [.registerSession subject ⟨11⟩ "first" 100, .elapse 400,
    .registerSession subject ⟨12⟩ "second" 100]

theorem registers_for_subject :
    ∀ op ∈ registrations, RegistersFor (fun _ => subject) op := by
  intro op member r named
  simp only [registrations, List.mem_cons, List.not_mem_nil, or_false] at member
  rcases member with rfl | rfl | rfl <;> cases named <;> rfl

end SubsecondGap

/-- The second session is live for the last 400 milliseconds without a registry. -/
theorem second_session_is_missed :
    ¬ ∀ (owner : EntryKey → SubjectKey) (start : Timestamp) (ops : List InvalidationOp),
      (∀ op ∈ ops, RegistersFor owner op) →
      Covers owner (runInvalidation (.initial start) ops).store := by
  intro covered
  have missed := covered (fun _ => SubsecondGap.subject) 0
    (SubsecondGap.registrations ++ [.elapse 99600]) (by
      intro op member
      rcases List.mem_append.mp member with registration | wait
      · exact SubsecondGap.registers_for_subject op registration
      · intro r named
        rw [List.mem_singleton.mp wait] at named
        cases named) (.session ⟨1⟩ ⟨12⟩) (by decide +kernel)
  revert missed
  decide +kernel

theorem second_session_is_missed_by_the_gap :
    ¬ Transaction.Guarded applyInvalidation AvoidsRoundingGap (.initial 0)
      SubsecondGap.registrations := by
  intro guarded
  have reached := (invalidation_misses_nothing_iff (fun _ => SubsecondGap.subject) 0
    SubsecondGap.registrations SubsecondGap.registers_for_subject).mpr guarded
  have missed := (reached SubsecondGap.registrations [] 99600 rfl).1 (.session ⟨1⟩ ⟨12⟩)
    (by decide +kernel)
  revert missed
  decide +kernel

end TenantTrust.Orchestration
