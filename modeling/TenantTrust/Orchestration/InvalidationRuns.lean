import TenantTrust.Library.Transaction
import TenantTrust.Orchestration.SecurityStateStore

/-! The invalidation workers, the queue and the key-value server taking steps in any order. -/

namespace TenantTrust.Orchestration

open Library Identity

/-- The claims are those that workers were handed, whether or not they have finished. -/
structure InvalidationSystem where
  queue : InvalidationQueue
  claims : List ClaimedInvalidation
  store : SecurityStateStore

def InvalidationSystem.initial (now : Timestamp) : InvalidationSystem where
  queue := InvalidationQueue.empty
  claims := []
  store := SecurityStateStore.empty now

inductive InvalidationOp where
  | elapse (milliseconds : Nat)
  | registerSession (subject : SubjectKey) (sessionIdHashSha256 : Sha256Digest) (value : String)
      (ttlSeconds : Nat)
  | registerCacheEntry (subject : SubjectKey) (nameSpace cacheId value : String)
      (ttlSeconds : Nat)
  | queueInvalidation (request : SecurityStateInvalidation)
  | claim (call : InvalidationClaimCall)
  | invalidate (claim : ClaimedInvalidation) (clock : Timestamp)
  | complete (call : InvalidationCompletionCall)
  | fail (call : InvalidationFailureCall)

inductive InvalidationReply where
  | done
  | claimed (claim : Option ClaimedInvalidation)
  | invalidated (reply : ScriptReply)
  | closed (job : InvalidationJob)

inductive InvalidationFailure where
  | store (failure : StoreFailure)
  | database (failure : SqlError)
  | notClaimed

/-- A worker invalidates only what it has claimed; the lease may be over by then. -/
def applyInvalidation :
    Transaction InvalidationSystem InvalidationOp InvalidationReply InvalidationFailure :=
  fun op system => match op with
  | .elapse milliseconds =>
      .ok ({ system with store := { system.store with now := system.store.now + milliseconds } },
        .done)
  | .registerSession subject sessionIdHashSha256 value ttlSeconds => do
      let store ← (registerSession subject sessionIdHashSha256 value ttlSeconds
        system.store).mapError .store
      return ({ system with store := store }, .done)
  | .registerCacheEntry subject nameSpace cacheId value ttlSeconds => do
      let store ← (registerCacheEntry subject nameSpace cacheId value ttlSeconds
        system.store).mapError .store
      return ({ system with store := store }, .done)
  | .queueInvalidation request =>
      .ok ({ system with queue := enqueueInvalidation request system.queue }, .done)
  | .claim call => do
      let (queue, claim) ← (claimSecurityStateInvalidation call system.queue).mapError .database
      return ({ system with queue := queue, claims := claim.toList ++ system.claims },
        .claimed claim)
  | .invalidate claim clock => do
      require (claim ∈ system.claims) .notClaimed
      let (store, reply) ← (invalidate claim.subject claim.actionId claim.actionType clock
        system.store).mapError .store
      return ({ system with store := store }, .invalidated reply)
  | .complete call => do
      let (queue, job) ← (completeSecurityStateInvalidation call system.queue).mapError .database
      return ({ system with queue := queue }, .closed job)
  | .fail call => do
      let (queue, job) ← (failSecurityStateInvalidation call system.queue).mapError .database
      return ({ system with queue := queue }, .closed job)

abbrev runInvalidation : InvalidationSystem → List InvalidationOp → InvalidationSystem :=
  Transaction.run applyInvalidation

/-- What a registration writes. -/
structure Registration where
  key : EntryKey
  subject : SubjectKey
  value : String
  ttlSeconds : Nat

def Registration.index (r : Registration) : IndexKey := ⟨r.key.family, r.subject⟩

def InvalidationOp.registration? : InvalidationOp → Option Registration
  | registerSession subject sessionIdHashSha256 value ttlSeconds =>
      some ⟨.session subject.1 sessionIdHashSha256, subject, value, ttlSeconds⟩
  | registerCacheEntry subject nameSpace cacheId value ttlSeconds =>
      some ⟨.cache subject.1 nameSpace cacheId, subject, value, ttlSeconds⟩
  | _ => none

def InvalidationOp.invalidation? : InvalidationOp → Option ClaimedInvalidation
  | invalidate handed _ => some handed
  | _ => none

theorem InvalidationOp.registration_tenant {op : InvalidationOp} {r : Registration}
    (named : op.registration? = some r) : r.key.tenantId = r.subject.1 := by
  cases op with
  | registerSession => cases named; rfl
  | registerCacheEntry => cases named; rfl
  | elapse | queueInvalidation | claim | invalidate | complete | fail => cases named

/-- What one committed operation can do to the store. -/
inductive StoreStep (before : SecurityStateStore) (op : InvalidationOp) :
    SecurityStateStore → Prop
  | elapsed (milliseconds : Nat) (named : op = .elapse milliseconds) :
      StoreStep before op { before with now := before.now + milliseconds }
  | registered (r : Registration) (named : op.registration? = some r)
      (positive : 1 ≤ r.ttlSeconds) :
      StoreStep before op (registerEntry r.key r.index r.value r.ttlSeconds before)
  | untouched (unregistered : op.registration? = none) (unrelated : op.invalidation? = none) :
      StoreStep before op before
  | invalidated (claim : ClaimedInvalidation) (clock : Timestamp) (reply : ScriptReply)
      (after : SecurityStateStore) (named : op = .invalidate claim clock)
      (script : invalidateSubject claim.subject claim.actionId clock before = .ok (after, reply)) :
      StoreStep before op after

theorem applyInvalidation_cases {op : InvalidationOp} {system next : InvalidationSystem}
    {reply : InvalidationReply} (committed : applyInvalidation op system = .ok (next, reply)) :
    StoreStep system.store op next.store := by
  cases op with
  | elapse milliseconds =>
      simp only [applyInvalidation, Except.ok.injEq, Prod.mk.injEq] at committed
      rw [← committed.1]
      exact .elapsed milliseconds rfl
  | registerSession subject hash value ttlSeconds =>
      simp only [applyInvalidation, registerSession, requireTtl, Checked.bind_eq_ok,
        Checked.pure_eq_ok, Checked.mapError_eq_ok, Checked.require_eq_ok,
        Prod.mk.injEq] at committed
      obtain ⟨store, ⟨_, _, _, ⟨positive, _⟩, rfl⟩, rfl, _⟩ := committed
      exact .registered ⟨.session subject.1 hash, subject, value, ttlSeconds⟩ rfl positive
  | registerCacheEntry subject nameSpace cacheId value ttlSeconds =>
      simp only [applyInvalidation, registerCacheEntry, requireTtl, Checked.bind_eq_ok,
        Checked.pure_eq_ok, Checked.mapError_eq_ok, Checked.require_eq_ok,
        Prod.mk.injEq] at committed
      obtain ⟨store, ⟨_, _, _, _, _, _, _, ⟨positive, _⟩, rfl⟩, rfl, _⟩ := committed
      exact .registered ⟨.cache subject.1 nameSpace cacheId, subject, value, ttlSeconds⟩ rfl
        positive
  | queueInvalidation request =>
      simp only [applyInvalidation, Except.ok.injEq, Prod.mk.injEq] at committed
      rw [← committed.1]
      exact .untouched rfl rfl
  | claim call =>
      simp only [applyInvalidation, Checked.bind_eq_ok, Checked.pure_eq_ok,
        Prod.mk.injEq] at committed
      obtain ⟨_, _, rfl, _⟩ := committed
      exact .untouched rfl rfl
  | invalidate claim clock =>
      simp only [applyInvalidation, invalidate, Checked.bind_eq_ok, Checked.pure_eq_ok,
        Checked.mapError_eq_ok, Checked.require_eq_ok, Prod.mk.injEq] at committed
      obtain ⟨_, _, ⟨store, reply⟩, ⟨_, _, script⟩, rfl, _⟩ := committed
      exact .invalidated claim clock reply store rfl script
  | complete call =>
      simp only [applyInvalidation, Checked.bind_eq_ok, Checked.pure_eq_ok,
        Prod.mk.injEq] at committed
      obtain ⟨_, _, rfl, _⟩ := committed
      exact .untouched rfl rfl
  | fail call =>
      simp only [applyInvalidation, Checked.bind_eq_ok, Checked.pure_eq_ok,
        Prod.mk.injEq] at committed
      obtain ⟨_, _, rfl, _⟩ := committed
      exact .untouched rfl rfl

end TenantTrust.Orchestration
