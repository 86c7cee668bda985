import Mathlib.Data.List.Nodup

/-! Finite tables whose rows are addressed by a key computed from the row. -/

namespace TenantTrust.Library

variable {Row Key : Type} {key : Row → Key}

/-- The rows of a relation together with the fact that no key occurs twice. -/
structure Table (Row : Type) {Key : Type} (key : Row → Key) where
  rows : List Row
  distinct : (rows.map key).Nodup

namespace Table

instance : Membership Row (Table Row key) := ⟨fun table row => row ∈ table.rows⟩

theorem mem_def (table : Table Row key) (row : Row) : row ∈ table ↔ row ∈ table.rows := Iff.rfl

instance (table : Table Row key) (P : Row → Prop) [DecidablePred P] :
    Decidable (∀ row ∈ table, P row) :=
  inferInstanceAs (Decidable (∀ row ∈ table.rows, P row))

instance (table : Table Row key) (P : Row → Prop) [DecidablePred P] :
    Decidable (∃ row ∈ table, P row) :=
  inferInstanceAs (Decidable (∃ row ∈ table.rows, P row))

theorem unique (table : Table Row key) {left right : Row}
    (hleft : left ∈ table) (hright : right ∈ table) (same : key left = key right) :
    left = right :=
  List.inj_on_of_nodup_map table.distinct hleft hright same

def empty : Table Row key := ⟨[], List.nodup_nil⟩

@[simp] theorem not_mem_empty (row : Row) : row ∉ (empty : Table Row key) := by
  simp [mem_def, empty]

section Lookup

variable [DecidableEq Key]

def get? (table : Table Row key) (k : Key) : Option Row :=
  table.rows.find? fun row => key row = k

theorem get?_eq_some (table : Table Row key) (k : Key) (row : Row) :
    table.get? k = some row ↔ row ∈ table ∧ key row = k := by
  constructor
  · intro found
    have holds := List.find?_some found
    exact ⟨List.mem_of_find?_eq_some found, by simpa using holds⟩
  · intro holds
    rcases holds with ⟨member, rfl⟩
    cases found : table.get? (key row) with
    | none =>
        have absent := List.find?_eq_none.mp found row member
        simp at absent
    | some other =>
        have holds : key other = key row := by
          have := List.find?_some found
          simpa using this
        rw [table.unique (List.mem_of_find?_eq_some found) member holds]

theorem get?_eq_none (table : Table Row key) (k : Key) :
    table.get? k = none ↔ ∀ row ∈ table, key row ≠ k := by
  rw [get?, List.find?_eq_none]
  simp [mem_def]

theorem get?_mem {table : Table Row key} {k : Key} {row : Row}
    (found : table.get? k = some row) : row ∈ table :=
  ((get?_eq_some table k row).mp found).1

theorem get?_key {table : Table Row key} {k : Key} {row : Row}
    (found : table.get? k = some row) : key row = k :=
  ((get?_eq_some table k row).mp found).2

theorem get?_of_mem {table : Table Row key} {row : Row} (member : row ∈ table) :
    table.get? (key row) = some row :=
  (get?_eq_some table (key row) row).mpr ⟨member, rfl⟩

/-- Appends a row whose key is free. -/
def insert (table : Table Row key) (row : Row) (fresh : table.get? (key row) = none) :
    Table Row key where
  rows := table.rows ++ [row]
  distinct := by
    rw [List.map_append, List.nodup_append]
    refine ⟨table.distinct, by simp, ?_⟩
    intro k present other hother
    rcases List.mem_map.mp present with ⟨old, member, rfl⟩
    simp only [List.map_cons, List.map_nil, List.mem_singleton] at hother
    rw [hother]
    exact (get?_eq_none table _).mp fresh old member

/-- A uniqueness constraint: an occupied key leaves no successor. -/
def insertNew (table : Table Row key) (row : Row) : Option (Table Row key) :=
  if fresh : table.get? (key row) = none then some (table.insert row fresh) else none

theorem insertNew_eq_some {table next : Table Row key} {row : Row} :
    table.insertNew row = some next ↔
      ∃ fresh : table.get? (key row) = none, next = table.insert row fresh := by
  unfold insertNew
  split
  · rename_i fresh
    constructor
    · intro h
      exact ⟨fresh, (Option.some.inj h).symm⟩
    · intro h
      rcases h with ⟨_, rfl⟩
      rfl
  · rename_i occupied
    simp [occupied]

theorem insert_rows (table : Table Row key) (row : Row) (fresh : table.get? (key row) = none) :
    (table.insert row fresh).rows = table.rows ++ [row] := rfl

@[simp] theorem mem_insert (table : Table Row key) (row other : Row)
    (fresh : table.get? (key row) = none) :
    other ∈ table.insert row fresh ↔ other ∈ table ∨ other = row := by
  simp [mem_def, insert_rows]

theorem insertNew_rows {table next : Table Row key} {row : Row}
    (inserted : table.insertNew row = some next) : next.rows = table.rows ++ [row] := by
  obtain ⟨fresh, rfl⟩ := insertNew_eq_some.mp inserted
  rfl

theorem mem_insertNew {table next : Table Row key} {row : Row}
    (inserted : table.insertNew row = some next) (other : Row) :
    other ∈ next ↔ other ∈ table ∨ other = row := by
  obtain ⟨fresh, rfl⟩ := insertNew_eq_some.mp inserted
  exact mem_insert table row other fresh

theorem insertNew_fresh {table next : Table Row key} {row : Row}
    (inserted : table.insertNew row = some next) : ∀ other ∈ table, key other ≠ key row := by
  obtain ⟨fresh, _⟩ := insertNew_eq_some.mp inserted
  exact (get?_eq_none table _).mp fresh

theorem get?_insertNew {table next : Table Row key} {row : Row}
    (inserted : table.insertNew row = some next) (k : Key) :
    next.get? k = if key row = k then some row else table.get? k := by
  split
  · rename_i same
    exact (get?_eq_some next k row).mpr ⟨(mem_insertNew inserted row).mpr (Or.inr rfl), same⟩
  · rename_i different
    simp only [get?, insertNew_rows inserted, List.find?_append, List.find?_cons,
      List.find?_nil, decide_eq_false different, Option.or_none]

/-- An insertion into a table does not hide the rows it already has. -/
theorem get?_of_insertNew {table next : Table Row key} {row old : Row}
    (inserted : table.insertNew row = some next) {k : Key} (found : table.get? k = some old) :
    next.get? k = some old := by
  rw [get?_insertNew inserted, if_neg, found]
  intro same
  exact insertNew_fresh inserted old (get?_mem found) ((get?_key found).trans same.symm)

end Lookup

section Update

/-- Rewrites every row; the key of a row never changes. -/
def update (table : Table Row key) (f : Row → Row) (keeps : ∀ row, key (f row) = key row) :
    Table Row key where
  rows := table.rows.map f
  distinct := by
    have same : (table.rows.map f).map key = table.rows.map key := by
      simp [List.map_map, Function.comp_def, keeps]
    rw [same]
    exact table.distinct

variable (table : Table Row key) (f : Row → Row) (keeps : ∀ row, key (f row) = key row)

theorem update_rows : (table.update f keeps).rows = table.rows.map f := rfl

theorem update_keys : (table.update f keeps).rows.map key = table.rows.map key := by
  simp [update_rows, List.map_map, Function.comp_def, keeps]

@[simp] theorem mem_update (row : Row) :
    row ∈ table.update f keeps ↔ ∃ old ∈ table, f old = row := by
  simp [mem_def, update_rows]

theorem get?_update [DecidableEq Key] (k : Key) :
    (table.update f keeps).get? k = (table.get? k).map f := by
  simp only [get?, update_rows, List.find?_map, Function.comp_def, keeps]

/-- Rewrites the row that has the key of the given one, if there is any. -/
def replace [DecidableEq Key] (row : Row) : Table Row key :=
  table.update (fun old => if key old = key row then row else old)
    (fun old => by
      split
      · rename_i same
        exact same.symm
      · rfl)

/-- `INSERT ... ON CONFLICT ... DO UPDATE` of the whole row. -/
def upsert [DecidableEq Key] (row : Row) : Table Row key :=
  (table.insertNew row).getD (table.replace row)

/-- `INSERT ... ON CONFLICT DO NOTHING` -/
def insertIfAbsent [DecidableEq Key] (row : Row) : Table Row key :=
  (table.insertNew row).getD table

theorem insertIfAbsent_of_present [DecidableEq Key] {row old : Row}
    (present : table.get? (key row) = some old) : table.insertIfAbsent row = table := by
  simp [insertIfAbsent, insertNew, present]

theorem get?_insertIfAbsent [DecidableEq Key] (row : Row) (k : Key) :
    (table.insertIfAbsent row).get? k =
      if key row = k then some ((table.get? k).getD row) else table.get? k := by
  cases present : table.get? (key row) with
  | none =>
      have inserted : table.insertNew row = some (table.insert row present) :=
        insertNew_eq_some.mpr ⟨present, rfl⟩
      rw [insertIfAbsent, inserted, Option.getD_some, get?_insertNew inserted]
      split
      · rename_i same
        rw [← same, present, Option.getD_none]
      · rfl
  | some old =>
      rw [insertIfAbsent_of_present table present]
      split
      · rename_i same
        rw [← same, present, Option.getD_some]
      · rfl

theorem get?_replace [DecidableEq Key] {row old : Row} (present : table.get? (key row) = some old)
    (k : Key) : (table.replace row).get? k = if key row = k then some row else table.get? k := by
  rw [replace, get?_update]
  split
  · rename_i same
    rw [← same, present]
    simp [get?_key present]
  · rename_i different
    cases found : table.get? k with
    | none => rfl
    | some other =>
        have apart : key other ≠ key row := fun same => different (same.symm.trans (get?_key found))
        simp [apart]

theorem mem_replace [DecidableEq Key] (row : Row) {old : Row} (present : old ∈ table)
    (same : key old = key row) (other : Row) :
    other ∈ table.replace row ↔ other = row ∨ (other ∈ table ∧ key other ≠ key row) := by
  rw [replace, mem_update]
  constructor
  · intro found
    rcases found with ⟨source, member, rfl⟩
    split
    · exact Or.inl rfl
    · rename_i different
      exact Or.inr ⟨member, different⟩
  · intro found
    rcases found with rfl | ⟨member, different⟩
    · exact ⟨old, present, if_pos same⟩
    · exact ⟨other, member, if_neg different⟩

theorem get?_upsert [DecidableEq Key] (row : Row) (k : Key) :
    (table.upsert row).get? k = if key row = k then some row else table.get? k := by
  unfold upsert
  cases present : table.get? (key row) with
  | none =>
      have inserted : table.insertNew row = some (table.insert row present) :=
        insertNew_eq_some.mpr ⟨present, rfl⟩
      rw [inserted]
      exact get?_insertNew inserted k
  | some old =>
      have occupied : table.insertNew row = none := by
        simp [insertNew, present]
      rw [occupied]
      exact get?_replace table present k

/-- Removes the row that has a key, if there is any. -/
def delete [DecidableEq Key] (k : Key) : Table Row key where
  rows := table.rows.filter fun row => key row ≠ k
  distinct := (List.filter_sublist.map key).nodup table.distinct

theorem get?_delete [DecidableEq Key] (k other : Key) :
    (table.delete k).get? other = if other = k then none else table.get? other := by
  simp only [get?, delete, List.find?_filter]
  split
  · rename_i same
    rw [List.find?_eq_none]
    intro row _
    simp [same]
  · rename_i different
    refine congrArg (fun p => List.find? p table.rows) (funext fun row => ?_)
    by_cases found : key row = other
    · simp [found, different]
    · simp [found]

/-- The rows of a view on a table, under the keys that the rows have in the table. -/
def view {View : Type} {viewKey : View → Key} (f : Row → View)
    (keeps : ∀ row, viewKey (f row) = key row) : Table View viewKey where
  rows := table.rows.map f
  distinct := by
    have same : (table.rows.map f).map viewKey = table.rows.map key := by
      simp [List.map_map, Function.comp_def, keeps]
    rw [same]
    exact table.distinct

theorem get?_view [DecidableEq Key] {View : Type} {viewKey : View → Key} (f : Row → View)
    (keeps : ∀ row, viewKey (f row) = key row) (k : Key) :
    (table.view f keeps).get? k = (table.get? k).map f := by
  simp only [get?, view, List.find?_map, Function.comp_def, keeps]

end Update

/-! Counting rows, for counters that a table is meant to agree with. -/

section Count

def count (table : Table Row key) (p : Row → Bool) : Nat := table.rows.countP p

@[simp] theorem count_empty (p : Row → Bool) : (empty : Table Row key).count p = 0 := rfl

theorem count_insertNew [DecidableEq Key] {table next : Table Row key} {row : Row}
    (inserted : table.insertNew row = some next) (p : Row → Bool) :
    next.count p = table.count p + if p row then 1 else 0 := by
  simp only [count, insertNew_rows inserted, List.countP_append, List.countP_cons,
    List.countP_nil, Nat.zero_add]

theorem count_update (table : Table Row key) (f : Row → Row)
    (keeps : ∀ row, key (f row) = key row) (p : Row → Bool)
    (same : ∀ row ∈ table, p (f row) = p row) :
    (table.update f keeps).count p = table.count p := by
  simp only [count, update_rows, List.countP_map]
  exact List.countP_congr fun row member => by simp [same row member]

/-- Exactly one row starts to satisfy the predicate. -/
theorem count_update_one (table : Table Row key) (f : Row → Row)
    (keeps : ∀ row, key (f row) = key row) (p : Row → Bool) (row : Row) (member : row ∈ table)
    (before : p row = false) (after : p (f row) = true)
    (others : ∀ other ∈ table, other ≠ row → p (f other) = p other) :
    (table.update f keeps).count p = table.count p + 1 := by
  obtain ⟨front, back, split⟩ := List.append_of_mem member
  have nodup : table.rows.Nodup := List.Nodup.of_map _ table.distinct
  rw [split] at nodup
  have absent : row ∉ front ∧ row ∉ back := by
    rw [List.nodup_append, List.nodup_cons] at nodup
    obtain ⟨_, ⟨notBack, _⟩, apart⟩ := nodup
    exact ⟨fun h => apart row h row (by simp) rfl, notBack⟩
  have part : ∀ rows : List Row, rows ⊆ table.rows → row ∉ rows →
      rows.countP (p ∘ f) = rows.countP p := by
    intro rows within outside
    refine List.countP_congr fun other present => ?_
    have distinct : other ≠ row := fun h => outside (h ▸ present)
    simp [others other (within present) distinct]
  have hfront := part front (by intro x h; rw [split]; simp [h]) absent.1
  have hback := part back (by intro x h; rw [split]; simp [h]) absent.2
  have whole : ∀ q : Row → Bool, table.rows.countP q =
      front.countP q + ((if q row then 1 else 0) + back.countP q) := by
    intro q
    rw [split, List.countP_append, List.countP_cons]
    omega
  simp only [count, update_rows, List.countP_map]
  rw [whole, whole, hfront, hback]
  simp [before, after]
  omega

/-- Some rows stop to satisfy the predicate, and none starts to. -/
theorem count_update_lt (table : Table Row key) (f : Row → Row)
    (keeps : ∀ row, key (f row) = key row) (p : Row → Bool)
    (only : ∀ row ∈ table, p (f row) = true → p row = true) {row : Row} (member : row ∈ table)
    (before : p row = true) (after : p (f row) = false) :
    (table.update f keeps).count p < table.count p := by
  obtain ⟨front, back, split⟩ := List.append_of_mem member
  have part : ∀ rows : List Row, rows ⊆ table.rows → rows.countP (p ∘ f) ≤ rows.countP p := by
    intro rows within
    exact List.countP_mono_left fun other present => only other (within present)
  have hfront := part front (by intro x h; rw [split]; simp [h])
  have hback := part back (by intro x h; rw [split]; simp [h])
  have whole : ∀ q : Row → Bool, table.rows.countP q =
      front.countP q + ((if q row then 1 else 0) + back.countP q) := by
    intro q
    rw [split, List.countP_append, List.countP_cons]
    omega
  simp only [count, update_rows, List.countP_map]
  rw [whole, whole]
  simp [before, after]
  omega

end Count

end Table

end TenantTrust.Library
