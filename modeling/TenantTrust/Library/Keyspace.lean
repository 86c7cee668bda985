import Mathlib.Data.Int.Order.Basic
import Mathlib.Tactic.Common

/-! A key space whose entries expire, with the commands of a server that stores one. Times are
integers in milliseconds; every command names the time at which it runs. -/

namespace TenantTrust.Library

/-- A stored value; without a deadline it is kept until it is deleted. -/
structure Expiring (Value : Type) where
  value : Value
  deadline : Option Int
  deriving DecidableEq, Repr

def Expiring.isLive {Value : Type} (entry : Expiring Value) (now : Int) : Bool :=
  match entry.deadline with
  | none => true
  | some deadline => now < deadline

abbrev Keyspace (Key Value : Type) : Type := Key → Option (Expiring Value)

namespace Keyspace

variable {Key Value : Type}

def empty : Keyspace Key Value := fun _ => none

/-- The entry of a key at a time, from the deadline on there is none. -/
def live (space : Keyspace Key Value) (now : Int) (key : Key) : Option (Expiring Value) :=
  (space key).filter fun entry => entry.isLive now

def get (space : Keyspace Key Value) (now : Int) (key : Key) : Option Value :=
  (space.live now key).map Expiring.value

/-- The remaining lifetime rounded to whole seconds, -1 without a deadline, -2 without a key. -/
def ttl (space : Keyspace Key Value) (now : Int) (key : Key) : Int :=
  match space.live now key with
  | none => -2
  | some ⟨_, none⟩ => -1
  | some ⟨_, some deadline⟩ => (deadline - now + 500) / 1000

section Update

variable [DecidableEq Key]

def put (space : Keyspace Key Value) (key : Key) (entry : Option (Expiring Value)) :
    Keyspace Key Value :=
  fun other => if other = key then entry else space other

def set (space : Keyspace Key Value) (key : Key) (value : Value) (deadline : Option Int) :
    Keyspace Key Value :=
  space.put key (some ⟨value, deadline⟩)

/-- A new deadline for a key that exists. -/
def expire (space : Keyspace Key Value) (now : Int) (key : Key) (deadline : Int) :
    Keyspace Key Value :=
  match space.live now key with
  | none => space
  | some entry => space.put key (some { entry with deadline := some deadline })

def del (space : Keyspace Key Value) (key : Key) : Keyspace Key Value := space.put key none

/-- Deletes the keys of a list; the second component is how many of them existed. -/
def delAll (space : Keyspace Key Value) (now : Int) : List Key → Keyspace Key Value × Nat
  | [] => (space, 0)
  | key :: keys =>
      let rest := delAll (space.del key) now keys
      (rest.1, (if (space.live now key).isSome then 1 else 0) + rest.2)

@[simp] theorem put_same (space : Keyspace Key Value) (key : Key)
    (entry : Option (Expiring Value)) : space.put key entry key = entry := by
  simp [put]

@[simp] theorem put_other (space : Keyspace Key Value) {key other : Key}
    (entry : Option (Expiring Value)) (different : other ≠ key) :
    space.put key entry other = space other := by
  simp [put, different]

@[simp] theorem put_put (space : Keyspace Key Value) (key : Key)
    (first second : Option (Expiring Value)) :
    (space.put key first).put key second = space.put key second := by
  funext other
  simp only [put]
  split <;> rfl

theorem live_put (space : Keyspace Key Value) (now : Int) (key other : Key)
    (entry : Option (Expiring Value)) :
    (space.put key entry).live now other =
      if other = key then entry.filter (fun e => e.isLive now) else space.live now other := by
  unfold live put
  split <;> rfl

theorem live_set_same (space : Keyspace Key Value) (now : Int) (key : Key) (value : Value)
    (deadline : Option Int) (alive : (Expiring.mk value deadline).isLive now = true) :
    (space.set key value deadline).live now key = some ⟨value, deadline⟩ := by
  simp [set, live_put, alive]

theorem live_set_other (space : Keyspace Key Value) (now : Int) {key other : Key} (value : Value)
    (deadline : Option Int) (different : other ≠ key) :
    (space.set key value deadline).live now other = space.live now other := by
  simp [set, live_put, different]

theorem live_del (space : Keyspace Key Value) (now : Int) (key other : Key) :
    (space.del key).live now other = if other = key then none else space.live now other :=
  live_put space now key other none

theorem delAll_space (space : Keyspace Key Value) (now : Int) (keys : List Key) (other : Key) :
    (space.delAll now keys).1 other = if other ∈ keys then none else space other := by
  induction keys generalizing space with
  | nil => simp [delAll]
  | cons key keys ih =>
      simp only [delAll, ih, List.mem_cons]
      by_cases later : other ∈ keys
      · simp [later]
      · by_cases same : other = key
        · simp [same, del]
        · simp [later, same, del]

theorem live_delAll (space : Keyspace Key Value) (now later : Int) (keys : List Key)
    (other : Key) : (space.delAll now keys).1.live later other =
      if other ∈ keys then none else space.live later other := by
  unfold live
  rw [delAll_space]
  split <;> rfl

end Update

theorem live_eq_some {space : Keyspace Key Value} {now : Int} {key : Key}
    {entry : Expiring Value} :
    space.live now key = some entry ↔ space key = some entry ∧ entry.isLive now = true := by
  unfold live
  rw [Option.filter_eq_some_iff]

/-- Time only takes entries away. -/
theorem live_of_later {space : Keyspace Key Value} {now later : Int} (order : now ≤ later)
    {key : Key} {entry : Expiring Value} (found : space.live later key = some entry) :
    space.live now key = some entry := by
  obtain ⟨stored, alive⟩ := live_eq_some.mp found
  refine live_eq_some.mpr ⟨stored, ?_⟩
  unfold Expiring.isLive at alive ⊢
  cases deadline : entry.deadline with
  | none => rfl
  | some limit =>
      simp only [deadline, decide_eq_true_eq] at alive ⊢
      omega

end Keyspace

end TenantTrust.Library
