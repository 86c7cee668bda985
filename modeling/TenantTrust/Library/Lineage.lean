import TenantTrust.Library.Table
import Mathlib.Logic.Relation
import Mathlib.Order.WellFounded
import Mathlib.Data.Set.Finite.List

/-! Tables whose rows may name an earlier row, and what is met when the names are followed. -/

namespace TenantTrust.Library.Table

variable {Row Key : Type} {key : Row → Key}

/-- A row that names a parent stands after it. -/
def Grounded (table : Table Row key) (parent : Row → Option Key) : Prop :=
  ∀ front row back, table.rows = front ++ row :: back →
    ∀ k, parent row = some k → ∃ earlier ∈ front, key earlier = k

def ParentOf (table : Table Row key) (parent : Row → Option Key) (child origin : Row) : Prop :=
  child ∈ table ∧ origin ∈ table ∧ parent child = some (key origin)

variable {table : Table Row key} {parent : Row → Option Key}

theorem empty_grounded : (empty : Table Row key).Grounded parent := by
  intro front row back split
  simp [empty] at split

theorem not_mem_front {front back : List Row} {row : Row}
    (split : table.rows = front ++ row :: back) : row ∉ front := by
  have nodup : table.rows.Nodup := List.Nodup.of_map _ table.distinct
  rw [split, List.nodup_append] at nodup
  intro member
  exact nodup.2.2 row member row (by simp) rfl

theorem Grounded.insertNew [DecidableEq Key] {next : Table Row key} {row : Row}
    (grounded : table.Grounded parent) (inserted : table.insertNew row = some next)
    (present : ∀ k, parent row = some k → ∃ earlier ∈ table, key earlier = k) :
    next.Grounded parent := by
  intro front other back split k names
  rw [insertNew_rows inserted] at split
  rcases List.eq_nil_or_concat back with rfl | ⟨init, last, rfl⟩
  · have parts : table.rows = front ∧ row = other := by
      have same := List.append_inj' split rfl
      exact ⟨same.1, (List.cons.inj same.2).1⟩
    rcases parts with ⟨rfl, rfl⟩
    exact present k names
  · have parts : table.rows = front ++ other :: init := by
      have regrouped : table.rows ++ [row] = (front ++ other :: init) ++ [last] := by
        rw [split]
        simp
      exact (List.append_inj' regrouped rfl).1
    exact grounded front other init parts k names

theorem Grounded.update (grounded : table.Grounded parent) (f : Row → Row)
    (keeps : ∀ row, key (f row) = key row) (same : ∀ row ∈ table, parent (f row) = parent row) :
    (table.update f keeps).Grounded parent := by
  intro front row back split k names
  rw [update_rows] at split
  rcases List.map_eq_append_iff.mp split with ⟨oldFront, rest, rows, rfl, tail⟩
  rcases List.map_eq_cons_iff.mp tail with ⟨old, oldBack, rfl, rfl, _⟩
  have member : old ∈ table := by
    rw [mem_def, rows]
    simp
  rcases grounded oldFront old oldBack rows k (by rwa [← same old member]) with
    ⟨earlier, present, found⟩
  exact ⟨f earlier, List.mem_map_of_mem present, by rw [keeps, found]⟩

/-- Whoever is reached by following parents stands before the row it is reached from. -/
theorem Grounded.ancestor (grounded : table.Grounded parent) {child origin : Row}
    (reached : Relation.TransGen (table.ParentOf parent) child origin)
    {front back : List Row} (split : table.rows = front ++ child :: back) : origin ∈ front := by
  have within : ∀ front back row old, table.rows = front ++ row :: back →
      table.ParentOf parent row old → old ∈ front := by
    intro front back row old split step
    rcases grounded front row back split _ step.2.2 with ⟨earlier, present, same⟩
    have member : earlier ∈ table := by
      rw [mem_def, split]
      simp [present]
    rwa [← table.unique member step.2.1 same]
  induction reached with
  | single step => exact within _ _ _ _ split step
  | tail _ step ih =>
      rcases List.append_of_mem ih with ⟨before, after, rfl⟩
      have earlier := within before (after ++ child :: back) _ _ (by rw [split]; simp) step
      simp [earlier]

theorem Grounded.acyclic (grounded : table.Grounded parent) (row : Row) :
    ¬ Relation.TransGen (table.ParentOf parent) row row := by
  intro cycle
  have member : row ∈ table := by
    cases cycle with
    | single step => exact step.1
    | tail _ step => exact step.2.1
  rcases List.append_of_mem member with ⟨front, back, split⟩
  exact not_mem_front split (grounded.ancestor cycle split)

/-- A trail that is followed to its end: it repeats nothing, it holds every parent that a row
on it names, and its last row names none. -/
structure Complete (key : Row → Key) (parent : Row → Option Key) (start : Row)
    (rows : List Row) : Prop where
  starts : rows.head? = some start
  distinct : rows.Nodup
  closed : ∀ row ∈ rows, ∀ k, parent row = some k → ∃ origin ∈ rows, key origin = k
  ends : ∃ root, rows.getLast? = some root ∧ parent root = none

theorem Complete.root {row : Row} (none_ : parent row = none) :
    Complete key parent row [row] where
  starts := rfl
  distinct := List.nodup_singleton row
  closed := by
    intro other member k names
    rw [List.mem_singleton.mp member, none_] at names
    cases names
  ends := ⟨row, rfl, none_⟩

theorem Complete.cons {row origin : Row} {rows : List Row} (names : parent row = some (key origin))
    (complete : Complete key parent origin rows) (apart : row ∉ rows) :
    Complete key parent row (row :: rows) where
  starts := rfl
  distinct := List.nodup_cons.mpr ⟨apart, complete.distinct⟩
  closed := by
    intro other member k named
    rcases List.mem_cons.mp member with rfl | deeper
    · have same : key origin = k := Option.some.inj (names.symm.trans named)
      have first : origin ∈ rows := List.mem_of_mem_head? complete.starts
      exact ⟨origin, List.mem_cons_of_mem _ first, same⟩
    · rcases complete.closed other deeper k named with ⟨found, present, same⟩
      exact ⟨found, List.mem_cons_of_mem _ present, same⟩
  ends := by
    rcases complete.ends with ⟨root, last, none_⟩
    exact ⟨root, by rw [List.getLast?_cons, last, Option.getD_some], none_⟩

section Trail

variable [DecidableEq Key]

/-- The rows met when parents are followed from a key, at most `fuel` of them. -/
def trail (table : Table Row key) (parent : Row → Option Key) : Nat → Key → List Row
  | 0, _ => []
  | fuel + 1, k =>
      match table.get? k with
      | none => []
      | some row =>
          row :: match parent row with
            | none => []
            | some origin => trail table parent fuel origin

theorem trail_succ {row : Row} (member : row ∈ table) (fuel : Nat) :
    table.trail parent (fuel + 1) (key row) =
      row :: match parent row with
        | none => []
        | some origin => table.trail parent fuel origin := by
  rw [trail, get?_of_mem member]

theorem trail_subset {fuel : Nat} {k : Key} {row : Row}
    (met : row ∈ table.trail parent fuel k) : row ∈ table := by
  induction fuel generalizing k with
  | zero => cases met
  | succ fuel ih =>
      rw [trail] at met
      split at met
      · cases met
      · rename_i first found
        rcases List.mem_cons.mp met with rfl | deeper
        · exact get?_mem found
        · split at deeper
          · cases deeper
          · exact ih deeper

/-- The fuel pays for the rows that stand before the first one. -/
theorem Grounded.trail_complete (grounded : table.Grounded parent) {fuel : Nat}
    {front back : List Row} {row : Row} (split : table.rows = front ++ row :: back)
    (enough : front.length < fuel) :
    Complete key parent row (table.trail parent fuel (key row)) ∧
      ∀ other ∈ table.trail parent fuel (key row), other = row ∨ other ∈ front := by
  induction fuel generalizing front back row with
  | zero => omega
  | succ fuel ih =>
      have member : row ∈ table := by
        rw [mem_def, split]
        simp
      rw [trail_succ member]
      cases names : parent row with
      | none => exact ⟨.root names, fun other present => Or.inl (List.mem_singleton.mp present)⟩
      | some k =>
          rcases grounded front row back split k names with ⟨origin, earlier, rfl⟩
          rcases List.append_of_mem earlier with ⟨before, after, rfl⟩
          have rows : table.rows = before ++ origin :: (after ++ row :: back) := by
            rw [split]
            simp
          have shorter : before.length < fuel := by
            simp only [List.length_append, List.length_cons] at enough
            omega
          have deeper := ih rows shorter
          have within : ∀ other ∈ table.trail parent fuel (key origin),
              other ∈ before ++ origin :: after := by
            intro other present
            rcases deeper.2 other present with rfl | old
            · simp
            · simp [old]
          have apart : row ∉ table.trail parent fuel (key origin) :=
            fun present => not_mem_front split (within row present)
          constructor
          · exact deeper.1.cons names apart
          · intro other present
            rcases List.mem_cons.mp present with rfl | old
            · exact Or.inl rfl
            · exact Or.inr (within other old)

/-- As much fuel as there are rows follows every trail to its end. -/
theorem Grounded.trail_length (grounded : table.Grounded parent) {row : Row}
    (member : row ∈ table) :
    Complete key parent row (table.trail parent table.rows.length (key row)) := by
  rcases List.append_of_mem member with ⟨front, back, split⟩
  have enough : front.length < table.rows.length := by
    rw [split]
    simp
  exact (grounded.trail_complete split enough).1

end Trail

end TenantTrust.Library.Table

namespace TenantTrust.Library

section Descent

variable {α : Type} {entries : List α} {step : α → α → Prop}

/-- Steps between finitely many entries that never come back end after distinct entries. -/
theorem exists_trail (within : ∀ entry next, step entry next → next ∈ entries)
    (acyclic : ∀ entry, ¬ Relation.TransGen step entry entry) {start : α}
    (member : start ∈ entries) :
    ∃ trail : List α, trail.head? = some start ∧ trail.Nodup ∧ trail.IsChain step ∧
      (∀ entry ∈ trail, entry ∈ entries) ∧
      ∃ last, trail.getLast? = some last ∧ ∀ next, ¬ step last next := by
  have founded : WellFounded fun later earlier : {entry // entry ∈ entries} =>
      Relation.TransGen step earlier.val later.val := by
    have finite : Finite {entry // entry ∈ entries} := List.finite_toSet entries
    have transitive : IsTrans {entry // entry ∈ entries} fun later earlier =>
        Relation.TransGen step earlier.val later.val :=
      ⟨fun _ _ _ first second => second.trans first⟩
    have irreflexive : Std.Irrefl fun later earlier : {entry // entry ∈ entries} =>
        Relation.TransGen step earlier.val later.val := ⟨fun entry => acyclic entry.val⟩
    exact Finite.wellFounded_of_trans_of_irrefl _
  -- every entry of the trail after its start is reached from the start
  suffices found : ∀ entry : {entry // entry ∈ entries}, ∃ trail : List α,
      trail.head? = some entry.val ∧ trail.Nodup ∧ trail.IsChain step ∧
      (∀ other ∈ trail, other ∈ entries ∧ Relation.ReflTransGen step entry.val other) ∧
      ∃ last, trail.getLast? = some last ∧ ∀ next, ¬ step last next by
    obtain ⟨trail, starts, distinct, follows, met, ends⟩ := found ⟨start, member⟩
    exact ⟨trail, starts, distinct, follows, fun entry present => (met entry present).1, ends⟩
  intro entry
  induction entry using founded.induction with
  | _ entry ih =>
      by_cases goesOn : ∃ next, step entry.val next
      · obtain ⟨next, moves⟩ := goesOn
        obtain ⟨trail, starts, distinct, follows, met, last, reached, stops⟩ :=
          ih ⟨next, within _ _ moves⟩ (.single moves)
        have apart : entry.val ∉ trail := by
          intro again
          exact acyclic entry.val (Relation.TransGen.head' moves (met _ again).2)
        refine ⟨entry.val :: trail, rfl, List.nodup_cons.mpr ⟨apart, distinct⟩, ?_, ?_, last, ?_,
          stops⟩
        · cases trail with
          | nil => cases starts
          | cons first rest =>
              cases starts
              exact List.isChain_cons_cons.mpr ⟨moves, follows⟩
        · intro other present
          rcases List.mem_cons.mp present with rfl | deeper
          · exact ⟨entry.property, .refl⟩
          · exact ⟨(met other deeper).1, (met other deeper).2.head moves⟩
        · rw [List.getLast?_cons, reached, Option.getD_some]
      · refine ⟨[entry.val], rfl, List.nodup_singleton _, List.isChain_singleton _, ?_,
          entry.val, rfl, fun next moves => goesOn ⟨next, moves⟩⟩
        intro other present
        rw [List.mem_singleton.mp present]
        exact ⟨entry.property, .refl⟩

end Descent

end TenantTrust.Library
