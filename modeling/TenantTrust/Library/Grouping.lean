import Mathlib.Data.List.Nodup

/-! Rows grouped under their keys, the groups in the order in which their keys first appear. -/

namespace TenantTrust.Library.Grouping

variable {Key Row : Type} [DecidableEq Key]

/-- The groups after one more row. -/
def addRow (key : Key) (row : Row) : List (Key × List Row) → List (Key × List Row)
  | [] => [(key, [row])]
  | group :: groups =>
      if group.1 = key then (group.1, group.2 ++ [row]) :: groups
      else group :: addRow key row groups

def groupRows (keyOf : Row → Key) (rows : List Row) : List (Key × List Row) :=
  rows.foldl (fun groups row => addRow (keyOf row) row groups) []

theorem addRow_new {key : Key} {row : Row} {groups : List (Key × List Row)}
    (fresh : key ∉ groups.map Prod.fst) : addRow key row groups = groups ++ [(key, [row])] := by
  induction groups with
  | nil => rfl
  | cons group groups ih =>
      rw [List.map_cons, List.mem_cons, not_or] at fresh
      rw [addRow, if_neg (Ne.symm fresh.1), ih fresh.2]
      rfl

theorem addRow_last {key : Key} {row : Row} {rows : List Row} {groups : List (Key × List Row)}
    (fresh : key ∉ groups.map Prod.fst) :
    addRow key row (groups ++ [(key, rows)]) = groups ++ [(key, rows ++ [row])] := by
  induction groups with
  | nil => simp only [List.nil_append, addRow, if_true]
  | cons group groups ih =>
      rw [List.map_cons, List.mem_cons, not_or] at fresh
      rw [List.cons_append, addRow, if_neg (Ne.symm fresh.1), ih fresh.2]
      rfl

theorem foldl_block {keyOf : Row → Key} {key : Key} {groups : List (Key × List Row)}
    (fresh : key ∉ groups.map Prod.fst) {rows more : List Row}
    (same : ∀ row ∈ more, keyOf row = key) :
    more.foldl (fun groups row => addRow (keyOf row) row groups) (groups ++ [(key, rows)]) =
      groups ++ [(key, rows ++ more)] := by
  induction more generalizing rows with
  | nil => rw [List.foldl_nil, List.append_nil]
  | cons row more ih =>
      have first : keyOf row = key := same row (List.mem_cons_self ..)
      rw [List.foldl_cons, first, addRow_last fresh,
        ih fun other member => same other (List.mem_cons_of_mem _ member), List.append_assoc,
        List.singleton_append]

/-- Blocks of rows under different keys are the groups of their rows. -/
theorem groupRows_blocks {keyOf : Row → Key} {blocks : List (Key × List Row)}
    (distinct : (blocks.map Prod.fst).Nodup)
    (filled : ∀ block ∈ blocks, block.2 ≠ [] ∧ ∀ row ∈ block.2, keyOf row = block.1) :
    groupRows keyOf (blocks.flatMap Prod.snd) = blocks := by
  suffices general : ∀ groups : List (Key × List Row), ((groups ++ blocks).map Prod.fst).Nodup →
      (blocks.flatMap Prod.snd).foldl (fun groups row => addRow (keyOf row) row groups) groups =
        groups ++ blocks from general [] distinct
  clear distinct
  induction blocks with
  | nil =>
      intro groups _
      rw [List.flatMap_nil, List.foldl_nil, List.append_nil]
  | cons block blocks ih =>
      intro groups distinct
      obtain ⟨nonempty, same⟩ := filled block (List.mem_cons_self ..)
      have fresh : block.1 ∉ groups.map Prod.fst := by
        rw [List.map_append, List.nodup_append] at distinct
        intro member
        exact distinct.2.2 block.1 member block.1 (List.mem_cons_self ..) rfl
      obtain ⟨key, rows⟩ := block
      cases rows with
      | nil => exact absurd rfl nonempty
      | cons row rows =>
          have first : keyOf row = key := same row (List.mem_cons_self ..)
          have rest : rows.foldl (fun groups row => addRow (keyOf row) row groups)
              (groups ++ [(key, [row])]) = groups ++ [(key, [row] ++ rows)] :=
            foldl_block fresh fun other member => same other (List.mem_cons_of_mem _ member)
          have grouped := ih (fun other member => filled other (List.mem_cons_of_mem _ member))
            (groups ++ [(key, row :: rows)]) (by rwa [List.append_assoc, List.singleton_append])
          rw [List.flatMap_cons, List.foldl_append, List.foldl_cons, first, addRow_new fresh, rest,
            List.singleton_append, grouped, List.append_assoc, List.singleton_append]

end TenantTrust.Library.Grouping
