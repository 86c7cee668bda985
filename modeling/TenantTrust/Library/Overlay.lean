import Mathlib.Data.List.Basic

/-! What a transaction reads at the isolation level READ COMMITTED: its own latest write of a row,
else the committed row. -/

namespace TenantTrust.Library

variable {Key Value : Type} [DecidableEq Key]

namespace Overlay

/-- The value of a row under writes in the order in which they were made. -/
def latest (writes : List (Key × Value)) (k : Key) (committed : Value) : Value :=
  writes.foldl (fun value write => if write.1 = k then write.2 else value) committed

variable {writes : List (Key × Value)} {k : Key}

@[simp] theorem latest_nil (committed : Value) :
    latest ([] : List (Key × Value)) k committed = committed := rfl

theorem latest_append (front back : List (Key × Value)) (committed : Value) :
    latest (front ++ back) k committed = latest back k (latest front k committed) :=
  List.foldl_append

theorem latest_singleton (write : Key × Value) (committed : Value) :
    latest [write] k committed = if write.1 = k then write.2 else committed := rfl

/-- A row that was not written is read as committed. -/
theorem latest_untouched (untouched : k ∉ writes.map Prod.fst) (committed : Value) :
    latest writes k committed = committed := by
  induction writes generalizing committed with
  | nil => rfl
  | cons write rest ih =>
      rw [List.map_cons, List.mem_cons, not_or] at untouched
      rw [latest, List.foldl_cons, if_neg fun same => untouched.1 same.symm]
      exact ih untouched.2 committed

/-- What others commit to a row that was written does not show. -/
theorem latest_touched (touched : k ∈ writes.map Prod.fst) (left right : Value) :
    latest writes k left = latest writes k right := by
  induction writes generalizing left right with
  | nil => exact absurd touched List.not_mem_nil
  | cons write rest ih =>
      rw [latest, latest, List.foldl_cons, List.foldl_cons]
      by_cases same : write.1 = k
      · rw [if_pos same, if_pos same]
      · rw [if_neg same, if_neg same]
        rw [List.map_cons, List.mem_cons] at touched
        exact ih (touched.resolve_left fun equal => same equal.symm) left right

end Overlay

end TenantTrust.Library
