import Mathlib.Data.List.Induction
import TenantTrust.Orchestration.InvalidationRuns

/-! The marker of the last invalidation of a subject, and what it protects redeliveries from. -/

namespace TenantTrust.Orchestration

open Library Identity

def InvalidationOp.delivers (op : InvalidationOp) (subject : SubjectKey) (actionId : ActionId) :
    Prop :=
  ∃ claim, op.invalidation? = some claim ∧ claim.subject = subject ∧ claim.actionId = actionId

/-- A worker that holds a claim of another action does not invalidate the subject. -/
def Undisturbed (subject : SubjectKey) (actionId : ActionId) (system : InvalidationSystem)
    (op : InvalidationOp) : Prop :=
  ∀ claim, op.invalidation? = some claim → claim ∈ system.claims → claim.subject = subject →
    claim.actionId = actionId

theorem claimed_of_committed {op : InvalidationOp} {system next : InvalidationSystem}
    {reply : InvalidationReply} {claim : ClaimedInvalidation}
    (committed : applyInvalidation op system = .ok (next, reply))
    (delivered : op.invalidation? = some claim) : claim ∈ system.claims := by
  cases op with
  | invalidate handed clock =>
      cases delivered
      simp only [applyInvalidation, Checked.bind_eq_ok, Checked.require_eq_ok] at committed
      obtain ⟨_, member, _⟩ := committed
      exact member
  | elapse | registerSession | registerCacheEntry | queueInvalidation | claim | complete | fail =>
      cases delivered

theorem StoreStep.now_le {before after : SecurityStateStore} {op : InvalidationOp}
    (step : StoreStep before op after) : before.now ≤ after.now := by
  cases step with
  | elapsed milliseconds =>
      change before.now ≤ before.now + _
      unfold Timestamp at *
      omega
  | registered | untouched => exact le_refl _
  | invalidated _ _ _ _ _ script =>
      rcases invalidateSubject_cases script with ⟨_, _, rfl, _⟩ | ⟨_, _, _, rfl, _⟩
      · exact le_refl _
      · exact le_refl _

theorem now_le_run (system : InvalidationSystem) (ops : List InvalidationOp) :
    system.store.now ≤ (runInvalidation system ops).store.now := by
  induction ops generalizing system with
  | nil => exact le_refl _
  | cons op ops ih =>
      refine le_trans ?_ (ih _)
      rcases Transaction.commit_cases applyInvalidation system op with aborted | ⟨_, committed⟩
      · rw [aborted]
      · exact (applyInvalidation_cases committed).now_le

/-- The marker names an action that was delivered for the subject. -/
def MarkersDelivered (ops : List InvalidationOp) (store : SecurityStateStore) : Prop :=
  ∀ subject marker, store.markers subject = some marker →
    ∃ op ∈ ops, op.delivers subject marker.value.actionId

/-- Every registry lists keys of its own family and tenant. -/
def RegistriesScoped (store : SecurityStateStore) : Prop :=
  ∀ index registry, store.indexes index = some registry →
    ∀ key ∈ registry.value, key.inScope index.family index.subject.1

section Steps

variable {before after : SecurityStateStore} {op : InvalidationOp}

theorem StoreStep.markersDelivered {ops : List InvalidationOp}
    (step : StoreStep before op after) (delivered : MarkersDelivered ops before) :
    MarkersDelivered (ops ++ [op]) after := by
  have earlier : MarkersDelivered (ops ++ [op]) before := by
    intro subject marker present
    obtain ⟨other, member, delivers⟩ := delivered subject marker present
    exact ⟨other, List.mem_append_left _ member, delivers⟩
  cases step with
  | elapsed | registered | untouched => exact earlier
  | invalidated claim clock reply _ named script =>
      rcases invalidateSubject_cases script with ⟨_, _, rfl, _⟩ | ⟨_, _, _, rfl, _⟩
      · exact earlier
      · intro subject marker present
        by_cases same : subject = claim.subject
        · rw [same] at present ⊢
          simp only [clearSubject, Keyspace.set, Keyspace.put_same, Option.some.injEq] at present
          rw [← present]
          exact ⟨op, by simp, claim, by rw [named]; rfl, rfl, rfl⟩
        · rw [show (clearSubject claim.subject claim.actionId clock before).1.markers subject
            = before.markers subject by simp [clearSubject, Keyspace.set, same]] at present
          exact earlier subject marker present

theorem StoreStep.registriesScoped (step : StoreStep before op after)
    (scopes : RegistriesScoped before) : RegistriesScoped after := by
  cases step with
  | elapsed | untouched => exact scopes
  | registered r named =>
      intro index registry present key member
      rw [registerEntry_indexes] at present
      by_cases same : index = r.index
      · have listed : ∀ other ∈ before.members r.index,
            other.inScope r.index.family r.index.subject.1 := by
          intro other listed
          unfold SecurityStateStore.members Keyspace.get at listed
          cases found : before.indexes.live before.now r.index with
          | none => simp [found] at listed
          | some old =>
              rw [found] at listed
              exact scopes _ _ (Keyspace.live_eq_some.mp found).1 other listed
        have new : r.key.inScope r.index.family r.index.subject.1 := by
          simp [EntryKey.inScope, Registration.index, op.registration_tenant named]
        rw [same] at present ⊢
        simp only [Keyspace.set, Keyspace.put_same, Option.some.injEq] at present
        rw [← present] at member
        dsimp only at member
        split at member
        · exact listed key member
        · rcases List.mem_cons.mp member with rfl | older
          · exact new
          · exact listed key older
      · simp only [Keyspace.set, Keyspace.put_other _ _ same] at present
        exact scopes index registry present key member
  | invalidated claim clock reply _ named script =>
      rcases invalidateSubject_cases script with ⟨_, _, rfl, _⟩ | ⟨_, _, _, rfl, _⟩
      · exact scopes
      · intro index registry present
        rw [clearSubject_indexes] at present
        split at present
        · cases present
        · exact scopes index registry present

/-- While it lives, only the invalidation of another action replaces the marker. -/
theorem StoreStep.keeps_marker {subject : SubjectKey} {marker : InvalidationMarker}
    {deadline : Timestamp} (step : StoreStep before op after)
    (present : before.markers subject = some ⟨marker, some deadline⟩)
    (alive : before.now < deadline)
    (undisturbed : ∀ claim, op.invalidation? = some claim → claim.subject = subject →
      claim.actionId = marker.actionId) :
    after.markers subject = some ⟨marker, some deadline⟩ := by
  cases step with
  | elapsed | registered | untouched => exact present
  | invalidated claim clock reply _ named script =>
      have delivered : op.invalidation? = some claim := by rw [named]; rfl
      rcases invalidateSubject_cases script with ⟨_, _, rfl, _⟩ | ⟨unmarked, _, _, rfl, _⟩
      · exact present
      · by_cases same : claim.subject = subject
        · have live : before.markers.get before.now subject = some marker := by
            simp [Keyspace.get, Keyspace.live, present, Option.filter, Expiring.isLive, alive]
          have prior : priorInvalidation claim.subject claim.actionId before = some marker := by
            simp [priorInvalidation, same, live, Option.filter, undisturbed claim delivered same]
          rw [prior] at unmarked
          cases unmarked
        · have other : subject ≠ claim.subject := fun eq => same eq.symm
          simpa [clearSubject, Keyspace.set, other] using present

end Steps

section Run

variable {start : Timestamp}

theorem markersDelivered_run (ops : List InvalidationOp) :
    MarkersDelivered ops (runInvalidation (.initial start) ops).store := by
  induction ops using List.reverseRecOn with
  | nil =>
      intro subject marker present
      cases present
  | append_singleton ops op ih =>
      rw [runInvalidation, Transaction.run_concat]
      rcases Transaction.commit_cases applyInvalidation
        (Transaction.run applyInvalidation (.initial start) ops) op with aborted | ⟨_, committed⟩
      · rw [aborted]
        intro subject marker present
        obtain ⟨other, member, delivers⟩ := ih subject marker present
        exact ⟨other, List.mem_append_left _ member, delivers⟩
      · exact (applyInvalidation_cases committed).markersDelivered ih

theorem registriesScoped_run (ops : List InvalidationOp) :
    RegistriesScoped (runInvalidation (.initial start) ops).store := by
  induction ops using List.reverseRecOn with
  | nil =>
      intro index registry present
      cases present
  | append_singleton ops op ih =>
      rw [runInvalidation, Transaction.run_concat]
      rcases Transaction.commit_cases applyInvalidation
        (Transaction.run applyInvalidation (.initial start) ops) op with aborted | ⟨_, committed⟩
      · rw [aborted]
        exact ih
      · exact (applyInvalidation_cases committed).registriesScoped ih

theorem keeps_marker_run {subject : SubjectKey} {marker : InvalidationMarker}
    {deadline : Timestamp} (system : InvalidationSystem) (ops : List InvalidationOp)
    (present : system.store.markers subject = some ⟨marker, some deadline⟩)
    (alive : (runInvalidation system ops).store.now < deadline)
    (undisturbed : Transaction.Guarded applyInvalidation (Undisturbed subject marker.actionId)
      system ops) :
    (runInvalidation system ops).store.markers subject = some ⟨marker, some deadline⟩ := by
  induction ops generalizing system with
  | nil => exact present
  | cons op ops ih =>
      refine ih _ ?_ alive undisturbed.2
      rcases Transaction.commit_cases applyInvalidation system op with aborted | ⟨_, committed⟩
      · rw [aborted]
        exact present
      · refine (applyInvalidation_cases committed).keeps_marker present
          (lt_of_le_of_lt (now_le_run system (op :: ops)) alive) ?_
        intro claim delivered same
        exact undisturbed.1 claim delivered (claimed_of_committed committed delivered) same

/-- The registries of a reachable store always pass the scope checks of the script. -/
theorem members_inScope (start : Timestamp) (ops : List InvalidationOp) (index : IndexKey) :
    ∀ key ∈ (runInvalidation (.initial start) ops).store.members index,
      key.inScope index.family index.subject.1 := by
  intro key member
  unfold SecurityStateStore.members Keyspace.get at member
  cases found : (runInvalidation (.initial start) ops).store.indexes.live
      (runInvalidation (.initial start) ops).store.now index with
  | none => simp [found] at member
  | some registry =>
      rw [found] at member
      exact registriesScoped_run ops index registry (Keyspace.live_eq_some.mp found).1 key member

theorem applyInvalidation_invalidate {system : InvalidationSystem} {claim : ClaimedInvalidation}
    (claimed : claim ∈ system.claims) (clock : Timestamp) {after : SecurityStateStore}
    {reply : ScriptReply}
    (script : invalidateSubject claim.subject claim.actionId clock system.store
      = .ok (after, reply)) :
    applyInvalidation (.invalidate claim clock) system
      = .ok ({ system with store := after }, .invalidated reply) := by
  simp only [applyInvalidation, invalidate]
  rw [require, if_pos claimed]
  simp only [require, if_pos claim.invalidating]
  simp [bind, Except.bind, pure, Except.pure, script]

/-- The first invalidation of an action deletes what is registered, and a later one, within the
lifetime of the marker and with no other action of the subject invalidated in between, only
repeats its answer. -/
theorem invalidation_is_exactly_once (start : Timestamp) (front middle : List InvalidationOp)
    (first later : ClaimedInvalidation) (firstClock laterClock : Timestamp)
    (sameSubject : later.subject = first.subject) (sameAction : later.actionId = first.actionId)
    (isFirst : ∀ op ∈ front, ¬ op.delivers first.subject first.actionId) :
    let before := runInvalidation (.initial start) front
    let after := Transaction.commit applyInvalidation before (.invalidate first firstClock)
    let reached := runInvalidation after middle
    first ∈ before.claims → later ∈ reached.claims →
    reached.store.now < before.store.now + seconds invalidationMarkerTtlSeconds →
    Transaction.Guarded applyInvalidation (Undisturbed first.subject first.actionId) after middle →
    (∃ reply, applyInvalidation (.invalidate first firstClock) before
        = .ok (after, .invalidated reply) ∧ reply.applied ∧ reply.invalidatedAt = firstClock ∧
      ∀ family, ∀ key ∈ before.store.members ⟨family, first.subject⟩,
        after.store.entries key = none) ∧
    applyInvalidation (.invalidate later laterClock) reached
      = .ok (reached, .invalidated ⟨false, 0, 0, firstClock⟩) := by
  intro before after reached claimedFirst claimedLater lifetime undisturbed
  have unmarked : priorInvalidation first.subject first.actionId before.store = none := by
    cases found : priorInvalidation first.subject first.actionId before.store with
    | none => rfl
    | some prior =>
        obtain ⟨live, same⟩ := Option.filter_eq_some_iff.mp found
        obtain ⟨entry, alive, rfl⟩ := Option.map_eq_some_iff.mp live
        obtain ⟨op, member, delivers⟩ := markersDelivered_run front first.subject entry
          (Keyspace.live_eq_some.mp alive).1
        rw [of_decide_eq_true same] at delivers
        exact absurd delivers (isFirst op member)
  have script : invalidateSubject first.subject first.actionId firstClock before.store
      = .ok (clearSubject first.subject first.actionId firstClock before.store) := by
    have sessions := members_inScope start front ⟨.session, first.subject⟩
    have caches := members_inScope start front ⟨.cache, first.subject⟩
    simp only [invalidateSubject, unmarked]
    rw [require, if_pos sessions, require, if_pos caches]
    rfl
  have committed := applyInvalidation_invalidate claimedFirst firstClock script
  have cleared : after = { before with
      store := (clearSubject first.subject first.actionId firstClock before.store).1 } :=
    Transaction.commit_ok committed
  constructor
  · rw [cleared]
    refine ⟨_, committed, rfl, rfl, ?_⟩
    intro family key member
    rw [clearSubject_entries, if_pos]
    cases family with
    | session => exact Or.inl member
    | cache => exact Or.inr member
  · have marked : after.store.markers first.subject = some ⟨⟨first.actionId, firstClock⟩,
        some (before.store.now + seconds invalidationMarkerTtlSeconds)⟩ := by
      rw [cleared]
      simp [clearSubject, Keyspace.set]
    have kept := keeps_marker_run after middle marked lifetime undisturbed
    have prior : priorInvalidation later.subject later.actionId reached.store
        = some ⟨first.actionId, firstClock⟩ := by
      have live : reached.store.markers.get reached.store.now first.subject
          = some ⟨first.actionId, firstClock⟩ := by
        unfold Keyspace.get Keyspace.live
        rw [kept]
        simp [Option.filter, Expiring.isLive, lifetime]
      simp [priorInvalidation, sameSubject, sameAction, live, Option.filter]
    have repeated : invalidateSubject later.subject later.actionId laterClock reached.store
        = .ok (reached.store, ⟨false, 0, 0, firstClock⟩) := by
      simp only [invalidateSubject, prior]
    exact applyInvalidation_invalidate claimedLater laterClock repeated

end Run

namespace Redelivery

def request (actionId : ActionId) (actionSucceededAt : Timestamp) : SecurityStateInvalidation where
  tenantId := ⟨1⟩
  actionId := actionId
  subjectId := ⟨2⟩
  certificateId := ⟨3⟩
  actionType := .suspendSubject
  correlationId := ⟨4⟩
  securityStateVersion := 1
  actionSucceededAt := actionSucceededAt

def claimAt (claimToken : InvalidationToken) (claimedAt : Timestamp) : InvalidationClaimCall where
  clock := claimedAt
  workerId := "worker-1"
  claimToken := claimToken
  claimedAt := claimedAt
  lockedRows := []
  lockedSubjects := []

def handed (actionId : ActionId) (claimToken : InvalidationToken) (attemptCount : Nat)
    (actionSucceededAt : Timestamp) : ClaimedInvalidation where
  tenantId := ⟨1⟩
  actionId := actionId
  subjectId := ⟨2⟩
  certificateId := ⟨3⟩
  actionType := .suspendSubject
  invalidating := rfl
  claimToken := claimToken
  attemptCount := attemptCount
  actionSucceededAt := actionSucceededAt

/-- Two actions of one subject are queued and the first is claimed. -/
def front : List InvalidationOp :=
  [.registerSession (⟨1⟩, ⟨2⟩) ⟨11⟩ "first" 86400, .queueInvalidation (request ⟨21⟩ 0),
    .queueInvalidation (request ⟨22⟩ 1000), .claim (claimAt ⟨31⟩ 2000)]

/-- The first claim runs out unacknowledged, so the other action is invalidated before the first
one is claimed again. -/
def interleaved : List InvalidationOp :=
  [.elapse 40000, .claim (claimAt ⟨32⟩ 42000), .invalidate (handed ⟨22⟩ ⟨32⟩ 1 1000) 42000,
    .complete ⟨⟨1⟩, ⟨22⟩, ⟨32⟩, 0, 0, 42000, 42000⟩,
    .registerSession (⟨1⟩, ⟨2⟩) ⟨12⟩ "second" 86400, .claim (claimAt ⟨33⟩ 43000)]

/-- The first claim fails, the other action waits for its retry. -/
def retried : List InvalidationOp :=
  [.fail ⟨⟨1⟩, ⟨21⟩, ⟨31⟩, "REDIS_TIMEOUT", 2000, 1⟩,
    .registerSession (⟨1⟩, ⟨2⟩) ⟨12⟩ "second" 86400, .claim ⟨3500, "worker-2", ⟨33⟩, 3500,
      [(⟨1⟩, ⟨22⟩)], []⟩]

def first : ClaimedInvalidation := handed ⟨21⟩ ⟨31⟩ 1 0

def later : ClaimedInvalidation := handed ⟨21⟩ ⟨33⟩ 2 0

def reached (middle : List InvalidationOp) : InvalidationSystem :=
  runInvalidation (Transaction.commit applyInvalidation (runInvalidation (.initial 0) front)
    (.invalidate first 2000)) middle

theorem not_delivered_before : ∀ op ∈ front, ¬ op.delivers first.subject first.actionId := by
  intro op member delivers
  obtain ⟨claim, delivered, _⟩ := delivers
  simp only [front, List.mem_cons, List.not_mem_nil, or_false] at member
  rcases member with rfl | rfl | rfl | rfl <;> cases delivered

def scriptReply (result : Except InvalidationFailure (InvalidationSystem × InvalidationReply)) :
    Option ScriptReply :=
  match result with
  | .ok (_, .invalidated reply) => some reply
  | _ => none

end Redelivery

open Redelivery in
/-- Another action's marker makes a redelivery delete a session registered in the meantime. -/
theorem redelivery_deletes_again :
    ¬ ∀ (start : Timestamp) (front middle : List InvalidationOp)
        (first later : ClaimedInvalidation) (firstClock laterClock : Timestamp),
      later.subject = first.subject → later.actionId = first.actionId →
      (∀ op ∈ front, ¬ op.delivers first.subject first.actionId) →
      let before := runInvalidation (.initial start) front
      let after := Transaction.commit applyInvalidation before (.invalidate first firstClock)
      let reached := runInvalidation after middle
      first ∈ before.claims → later ∈ reached.claims →
      reached.store.now < before.store.now + seconds invalidationMarkerTtlSeconds →
      applyInvalidation (.invalidate later laterClock) reached
        = .ok (reached, .invalidated ⟨false, 0, 0, firstClock⟩) := by
  intro exactlyOnce
  have repeated := congrArg scriptReply (exactlyOnce 0 front interleaved first later 2000 43000
    rfl rfl not_delivered_before (by decide +kernel) (by decide +kernel) (by decide +kernel))
  have again : scriptReply (applyInvalidation (.invalidate later 43000) (reached interleaved))
      = some ⟨true, 1, 0, 43000⟩ := by decide +kernel
  rw [show scriptReply (.ok _) = some ⟨false, 0, 0, 2000⟩ from rfl] at repeated
  exact absurd (repeated.symm.trans again) (by decide)

open Redelivery in
theorem retry_is_exactly_once :
    scriptReply (applyInvalidation (.invalidate later 3500) (reached retried))
      = some ⟨false, 0, 0, 2000⟩ := by
  have once := invalidation_is_exactly_once 0 front retried first later 2000 3500 rfl rfl
    not_delivered_before (by decide +kernel) (by decide +kernel) (by decide +kernel)
    ⟨fun _ delivered => (by cases delivered), fun _ delivered => (by cases delivered),
      fun _ delivered => (by cases delivered), trivial⟩
  exact congrArg scriptReply once.2

end TenantTrust.Orchestration
