import TenantTrust.Library.Table

/-! Writes that open transactions have made but not committed, each behind the locks of the rows
that it touches. -/

namespace TenantTrust.Library

namespace Table

variable {Row Key : Type} {key : Row → Key} [DecidableEq Key]

/-- Commits the row that a transaction wrote, if it wrote one. -/
def write (table : Table Row key) (row : Option Row) : Table Row key :=
  match row with
  | some row => table.upsert row
  | none => table

@[simp] theorem write_none (table : Table Row key) : table.write none = table := rfl

theorem get?_write_some (table : Table Row key) (row : Row) (k : Key) :
    (table.write (some row)).get? k = if key row = k then some row else table.get? k :=
  get?_upsert table row k

theorem get?_write_self (table : Table Row key) (row : Row) :
    (table.write (some row)).get? (key row) = some row := by
  rw [get?_write_some, if_pos rfl]

/-- A write shows only under its own key. -/
theorem get?_write_of_ne (table : Table Row key) {row : Option Row} {k : Key}
    (apart : row.map key ≠ some k) : (table.write row).get? k = table.get? k := by
  cases row with
  | none => rfl
  | some row =>
      rw [get?_write_some, if_neg]
      intro same
      exact apart (congrArg some same)

theorem mem_write {table : Table Row key} {row : Option Row} {other : Row}
    (member : other ∈ table.write row) : row = some other ∨ other ∈ table := by
  have found := get?_of_mem member
  cases row with
  | none => exact Or.inr member
  | some row =>
      rw [get?_write_some] at found
      split at found
      · exact Or.inl found
      · exact Or.inr (get?_mem found)

theorem mem_write_of_ne {table : Table Row key} {row : Option Row} {other : Row}
    (member : other ∈ table) (apart : row.map key ≠ some (key other)) :
    other ∈ table.write row := by
  have found := get?_of_mem member
  rw [← get?_write_of_ne table apart] at found
  exact get?_mem found

end Table

/-- When a pending write fits the committed state, what committing it does, and which writes lock
each other out. A write keeps fitting while writes that it does not conflict with are committed. -/
structure RowLocks (State Write : Type) where
  fits : State → Write → Prop
  commit : State → Write → State
  conflicts : Write → Write → Prop
  symm : ∀ {first second}, conflicts first second → conflicts second first
  frame : ∀ {state first second}, fits state first → fits state second →
    ¬ conflicts first second → fits (commit state second) first

namespace RowLocks

variable {State Write Owner : Type} {locks : RowLocks State Write} {state : State}
  {pending next : Owner → Option Write} {owner : Owner} {write : Write}

/-- The writes of the open transactions fit the committed state and lock no other out. -/
structure Held (locks : RowLocks State Write) (state : State) (pending : Owner → Option Write) :
    Prop where
  fits : ∀ owner write, pending owner = some write → locks.fits state write
  apart : ∀ owner other write held, owner ≠ other → pending owner = some write →
    pending other = some held → ¬ locks.conflicts write held

theorem held_none : locks.Held state (fun _ : Owner => none) := ⟨nofun, nofun⟩

variable [DecidableEq Owner]

theorem Held.put (held : locks.Held state pending) (fits : locks.fits state write)
    (free : ∀ other held, owner ≠ other → pending other = some held → ¬ locks.conflicts write held)
    (put : ∀ other, next other = if other = owner then some write else pending other) :
    locks.Held state next := by
  constructor
  · intro other row found
    rw [put] at found
    split at found
    · cases found
      exact fits
    · exact held.fits other row found
  · intro left right first second different found found'
    rw [put] at found found'
    split at found
    case isTrue mine =>
      rw [if_neg fun same => different (mine.trans same.symm)] at found'
      cases found
      exact free right second (fun same => different (mine.trans same)) found'
    case isFalse other =>
      split at found'
      case isTrue mine =>
        cases found'
        intro conflict
        exact free left first (fun same => other same.symm) found (locks.symm conflict)
      case isFalse => exact held.apart left right first second different found found'

theorem Held.drop (held : locks.Held state pending)
    (drop : ∀ other, next other = if other = owner then none else pending other) :
    locks.Held state next := by
  have kept : ∀ other row, next other = some row → pending other = some row := by
    intro other row found
    rw [drop] at found
    split at found
    · cases found
    · exact found
  constructor
  · intro other row found
    exact held.fits other row (kept other row found)
  · intro left right first second different found found'
    exact held.apart left right first second different (kept left first found)
      (kept right second found')

/-- Committing one write leaves the others fitting. -/
theorem Held.commit (held : locks.Held state pending) (mine : pending owner = some write)
    (drop : ∀ other, next other = if other = owner then none else pending other) :
    locks.Held (locks.commit state write) next := by
  have left := held.drop drop
  constructor
  · intro other row found
    have elsewhere : other ≠ owner := by
      rintro rfl
      rw [drop, if_pos rfl] at found
      cases found
    have waiting : pending other = some row := by
      rwa [drop, if_neg elsewhere] at found
    apply locks.frame (left.fits other row found) (held.fits owner write mine)
    exact held.apart other owner row write elsewhere waiting mine
  · exact left.apart

end RowLocks

end TenantTrust.Library
