import TenantTrust.Library.Keyspace
import TenantTrust.Orchestration.InvalidationQueue
import Mathlib.Algebra.GroupWithZero.Nat

/-! The sessions and cache entries of subjects in the key-value server, the registries that list
them, and the two scripts that the store runs there. -/

namespace TenantTrust.Orchestration

open Library Identity

/-- The keys that a caller registers; the registries and the marker have key families of their
own, so no name of one family is a name of another. -/
inductive EntryKey where
  | session (tenantId : TenantId) (sessionIdHashSha256 : Sha256Digest)
  | cache (tenantId : TenantId) (nameSpace cacheId : String)
  deriving DecidableEq, Repr

inductive EntryFamily where
  | session | cache
  deriving DecidableEq, Repr

def EntryKey.family : EntryKey → EntryFamily
  | session _ _ => .session
  | cache _ _ _ => .cache

def EntryKey.tenantId : EntryKey → TenantId
  | session tenantId _ => tenantId
  | cache tenantId _ _ => tenantId

/-- `sessionIndex` or `cacheIndex` of a subject. -/
structure IndexKey where
  family : EntryFamily
  subject : SubjectKey
  deriving DecidableEq, Repr

/-- The comparison with `sessionPrefix` or `cachePrefix`. -/
def EntryKey.inScope (key : EntryKey) (family : EntryFamily) (tenantId : TenantId) : Bool :=
  key.family = family && key.tenantId = tenantId

/-- The marker text `actionId|invalidatedAt`; no action id contains the separator. -/
structure InvalidationMarker where
  actionId : ActionId
  invalidatedAt : Timestamp
  deriving DecidableEq, Repr

structure SecurityStateStore where
  now : Timestamp
  entries : Keyspace EntryKey String
  indexes : Keyspace IndexKey (List EntryKey)
  markers : Keyspace SubjectKey InvalidationMarker

def SecurityStateStore.empty (now : Timestamp) : SecurityStateStore where
  now := now
  entries := Keyspace.empty
  indexes := Keyspace.empty
  markers := Keyspace.empty

def invalidationMarkerTtlSeconds : Int := 604800

def maximumEntryTtlSeconds : Nat := 86400

inductive StoreFailure where
  | reason (reasonCode : String)
  | typeError (message : String)
  deriving DecidableEq, Repr

/-- The members of a registry; a registry that does not exist has none. -/
def SecurityStateStore.members (store : SecurityStateStore) (index : IndexKey) : List EntryKey :=
  (store.indexes.get store.now index).getD []

/-- `SADD`: a new registry has no deadline, an existing one keeps its own. -/
def addMember (now : Timestamp) (index : IndexKey) (key : EntryKey)
    (indexes : Keyspace IndexKey (List EntryKey)) : Keyspace IndexKey (List EntryKey) :=
  match indexes.live now index with
  | none => indexes.set index [key] none
  | some entry => indexes.set index (if key ∈ entry.value then entry.value else key :: entry.value)
      entry.deadline

/-- `REGISTER_ENTRY_LUA` -/
def registerEntry (key : EntryKey) (index : IndexKey) (value : String) (ttl : Nat)
    (store : SecurityStateStore) : SecurityStateStore :=
  let deadline := store.now + seconds ttl
  let indexes := addMember store.now index key store.indexes
  { store with
    entries := store.entries.set key value (some deadline)
    indexes := if indexes.ttl store.now index < ttl then indexes.expire store.now index deadline
      else indexes }

/-- The deadline of a registry after an entry with a lifetime was added to it. -/
def indexDeadline (now : Timestamp) (ttl : Nat) (old : Option Timestamp) : Timestamp :=
  match old with
  | none => now + seconds ttl
  | some deadline =>
      if (deadline - now + 500) / 1000 < ttl then now + seconds ttl else deadline

theorem registerEntry_indexes (key : EntryKey) (index : IndexKey) (value : String) (ttl : Nat)
    (store : SecurityStateStore) :
    (registerEntry key index value ttl store).indexes = store.indexes.set index
      (if key ∈ store.members index then store.members index else key :: store.members index)
      (some (indexDeadline store.now ttl
        ((store.indexes.live store.now index).bind Expiring.deadline))) := by
  cases found : store.indexes.live store.now index with
  | none =>
      have noMembers : store.members index = [] := by
        simp [SecurityStateStore.members, Keyspace.get, found]
      have created := store.indexes.live_set_same store.now index [key] none rfl
      have fresh : (-1 : Int) < ttl := by omega
      simp only [registerEntry, addMember, found, Keyspace.ttl, created, if_pos fresh,
        Keyspace.expire, noMembers]
      simp [Keyspace.set, indexDeadline]
  | some entry =>
      have alive := (Keyspace.live_eq_some.mp found).2
      have members : store.members index = entry.value := by
        simp [SecurityStateStore.members, Keyspace.get, found]
      simp only [registerEntry, addMember, found, members, Keyspace.ttl, Keyspace.expire]
      generalize (if key ∈ entry.value then entry.value else key :: entry.value) = extended
      have kept := store.indexes.live_set_same store.now index extended entry.deadline alive
      rw [kept]
      cases deadline : entry.deadline with
      | none =>
          have fresh : (-1 : Int) < ttl := by omega
          simp [Keyspace.set, indexDeadline, deadline, fresh]
      | some old =>
          simp only [Option.bind_some, deadline, indexDeadline]
          split <;> simp [Keyspace.set]

/-- A registration never shortens the life of a registry. -/
theorem le_indexDeadline (now : Timestamp) (ttl : Nat) (old : Timestamp) :
    old ≤ indexDeadline now ttl (some old) := by
  simp only [indexDeadline, seconds]
  unfold Timestamp at *
  split <;> omega

structure ScriptReply where
  applied : Bool
  sessionsInvalidated : Nat
  cacheEntriesInvalidated : Nat
  invalidatedAt : Timestamp
  deriving DecidableEq, Repr

/-- The deletions and the new marker. -/
def clearSubject (subject : SubjectKey) (actionId : ActionId) (invalidatedAt : Timestamp)
    (store : SecurityStateStore) : SecurityStateStore × ScriptReply :=
  let sessionIndex : IndexKey := ⟨.session, subject⟩
  let cacheIndex : IndexKey := ⟨.cache, subject⟩
  let withoutSessions := store.entries.delAll store.now (store.members sessionIndex)
  let withoutCaches := withoutSessions.1.delAll store.now (store.members cacheIndex)
  ({ store with
    entries := withoutCaches.1
    indexes := (store.indexes.del sessionIndex).del cacheIndex
    markers := store.markers.set subject ⟨actionId, invalidatedAt⟩
      (some (store.now + seconds invalidationMarkerTtlSeconds)) },
    ⟨true, withoutSessions.2, withoutCaches.2, invalidatedAt⟩)

/-- The marker of an earlier run of the script for the same action. -/
def priorInvalidation (subject : SubjectKey) (actionId : ActionId) (store : SecurityStateStore) :
    Option InvalidationMarker :=
  (store.markers.get store.now subject).filter fun prior => prior.actionId = actionId

/-- `INVALIDATE_SUBJECT_LUA`; both of its error replies reach the caller as this reason. -/
def invalidateSubject (subject : SubjectKey) (actionId : ActionId) (invalidatedAt : Timestamp)
    (store : SecurityStateStore) : Except StoreFailure (SecurityStateStore × ScriptReply) :=
  match priorInvalidation subject actionId store with
  | some prior => .ok (store, ⟨false, 0, 0, prior.invalidatedAt⟩)
  | none => do
      require (∀ key ∈ store.members ⟨.session, subject⟩, key.inScope .session subject.1)
        (.reason "SECURITY_INVALIDATION_REDIS_FAILED")
      require (∀ key ∈ store.members ⟨.cache, subject⟩, key.inScope .cache subject.1)
        (.reason "SECURITY_INVALIDATION_REDIS_FAILED")
      return clearSubject subject actionId invalidatedAt store

theorem clearSubject_entries (subject : SubjectKey) (actionId : ActionId)
    (invalidatedAt : Timestamp) (store : SecurityStateStore) (key : EntryKey) :
    (clearSubject subject actionId invalidatedAt store).1.entries key =
      if key ∈ store.members ⟨.session, subject⟩ ∨ key ∈ store.members ⟨.cache, subject⟩ then none
      else store.entries key := by
  simp only [clearSubject, Keyspace.delAll_space]
  split
  · simp [*]
  · split <;> simp [*]

theorem clearSubject_indexes (subject : SubjectKey) (actionId : ActionId)
    (invalidatedAt : Timestamp) (store : SecurityStateStore) (index : IndexKey) :
    (clearSubject subject actionId invalidatedAt store).1.indexes index =
      if index.subject = subject then none else store.indexes index := by
  obtain ⟨family, owner⟩ := index
  simp only [clearSubject, Keyspace.del, Keyspace.put, IndexKey.mk.injEq]
  cases family <;> by_cases same : owner = subject <;> simp [same]

/-- Either the action had been here before, or everything registered is deleted. -/
theorem invalidateSubject_cases {subject : SubjectKey} {actionId : ActionId}
    {invalidatedAt : Timestamp} {store after : SecurityStateStore} {reply : ScriptReply}
    (script : invalidateSubject subject actionId invalidatedAt store = .ok (after, reply)) :
    (∃ prior, priorInvalidation subject actionId store = some prior ∧ after = store ∧
        reply = ⟨false, 0, 0, prior.invalidatedAt⟩) ∨
      (priorInvalidation subject actionId store = none ∧
        (∀ key ∈ store.members ⟨.session, subject⟩, key.inScope .session subject.1) ∧
        (∀ key ∈ store.members ⟨.cache, subject⟩, key.inScope .cache subject.1) ∧
        after = (clearSubject subject actionId invalidatedAt store).1 ∧
        reply = (clearSubject subject actionId invalidatedAt store).2) := by
  unfold invalidateSubject at script
  cases found : priorInvalidation subject actionId store with
  | some prior =>
      simp only [found, Except.ok.injEq, Prod.mk.injEq] at script
      exact Or.inl ⟨prior, rfl, script.1.symm, script.2.symm⟩
  | none =>
      simp only [found, Checked.bind_eq_ok, Checked.pure_eq_ok, Checked.require_eq_ok] at script
      obtain ⟨_, sessions, _, caches, cleared⟩ := script
      exact Or.inr ⟨rfl, sessions, caches, (congrArg Prod.fst cleared).symm,
        (congrArg Prod.snd cleared).symm⟩

/-- The length of a text in UTF-16 units. -/
def utf16Length (text : String) : Nat :=
  (text.toList.map fun c => if c.toNat < 65536 then 1 else 2).sum

def requireTtl (ttlSeconds : Nat) : Except StoreFailure Unit :=
  require (1 ≤ ttlSeconds ∧ ttlSeconds ≤ maximumEntryTtlSeconds)
    (.reason "SECURITY_STATE_TTL_INVALID")

def registerSession (subject : SubjectKey) (sessionIdHashSha256 : Sha256Digest) (value : String)
    (ttlSeconds : Nat) (store : SecurityStateStore) : Except StoreFailure SecurityStateStore := do
  require (1 ≤ utf16Length value ∧ utf16Length value ≤ 4096)
    (.reason "SECURITY_SESSION_VALUE_INVALID")
  requireTtl ttlSeconds
  return registerEntry (.session subject.1 sessionIdHashSha256) ⟨.session, subject⟩ value
    ttlSeconds store

/-- `^[a-z][a-z0-9-]{0,63}$` -/
def isCacheNamespace : String → Bool :=
  matchesPattern Char.isLower (fun c => c.isLower || c.isDigit || c = '-') 0 63

def registerCacheEntry (subject : SubjectKey) (nameSpace cacheId value : String)
    (ttlSeconds : Nat) (store : SecurityStateStore) : Except StoreFailure SecurityStateStore := do
  require (isCacheNamespace nameSpace) (.reason "SECURITY_CACHE_KEY_INVALID")
  require (1 ≤ utf16Length cacheId ∧ utf16Length cacheId ≤ 255)
    (.typeError "cache ID must be a non-empty string of at most 255 characters.")
  require (utf16Length value ≤ 65536) (.reason "SECURITY_CACHE_VALUE_INVALID")
  requireTtl ttlSeconds
  return registerEntry (.cache subject.1 nameSpace cacheId) ⟨.cache, subject⟩ value
    ttlSeconds store

/-- The `clock` is the caller's, the deadlines are those of the server. -/
def invalidate (subject : SubjectKey) (actionId : ActionId) (actionType : SecurityActionType)
    (clock : Timestamp) (store : SecurityStateStore) :
    Except StoreFailure (SecurityStateStore × ScriptReply) := do
  require (isInvalidatingAction actionType) (.reason "SECURITY_INVALIDATION_REQUEST_INVALID")
  invalidateSubject subject actionId clock store

end TenantTrust.Orchestration
