import TenantTrust.Library.Table
import TenantTrust.Library.Separation
import Mathlib.Data.List.Sort

/-! Statements on a table whose rows are guarded by a policy: which rows a reader is shown, what
one row statement writes, and tables that have the same rows of a kind. -/

namespace TenantTrust.Library

variable {Row Key Change Failure : Type} {key : Row → Key}

namespace Table

/-- The rows of a table that a policy shows. -/
def shown (table : Table Row key) (policy : Row → Bool) : Table Row key where
  rows := table.rows.filter policy
  distinct := (List.filter_sublist.map key).nodup table.distinct

@[simp] theorem mem_shown (table : Table Row key) (policy : Row → Bool) (row : Row) :
    row ∈ table.shown policy ↔ row ∈ table ∧ policy row = true :=
  List.mem_filter

/-- Both tables have the same rows of a kind. -/
def AgreesOn (kind : Row → Prop) (left right : Table Row key) : Prop :=
  ∀ row, kind row → (row ∈ left ↔ row ∈ right)

namespace AgreesOn

variable {kind weaker : Row → Prop} {left middle right : Table Row key}

theorem refl (table : Table Row key) : AgreesOn kind table table := fun _ _ => Iff.rfl

theorem symm (agrees : AgreesOn kind left right) : AgreesOn kind right left :=
  fun row ofKind => (agrees row ofKind).symm

theorem trans (first : AgreesOn kind left middle) (second : AgreesOn kind middle right) :
    AgreesOn kind left right :=
  fun row ofKind => (first row ofKind).trans (second row ofKind)

theorem of_filter {p : Row → Bool} (same : left.rows.filter p = right.rows.filter p)
    (implies : ∀ row, kind row → p row = true) : AgreesOn kind left right := by
  intro row ofKind
  have listed : row ∈ left.rows.filter p ↔ row ∈ right.rows.filter p := by rw [same]
  simpa [implies row ofKind, mem_def] using listed

theorem mono (agrees : AgreesOn kind left right) (implies : ∀ row, weaker row → kind row) :
    AgreesOn weaker left right :=
  fun row ofKind => agrees row (implies row ofKind)

/-- A policy that shows rows of the kind only shows the same rows of both. -/
theorem shown {policy : Row → Bool} (agrees : AgreesOn kind left right)
    (within : ∀ row, policy row = true → kind row) :
    AgreesOn (fun _ => True) (left.shown policy) (right.shown policy) := by
  intro row _
  rw [mem_shown, mem_shown]
  constructor
  · rintro ⟨member, admitted⟩
    exact ⟨(agrees row (within row admitted)).mp member, admitted⟩
  · rintro ⟨member, admitted⟩
    exact ⟨(agrees row (within row admitted)).mpr member, admitted⟩

theorem get? [DecidableEq Key] {k : Key} (agrees : AgreesOn kind left right)
    (within : ∀ row, key row = k → kind row) : left.get? k = right.get? k := by
  cases found : right.get? k with
  | none =>
      rw [get?_eq_none] at found ⊢
      intro row member same
      exact found row ((agrees row (within row same)).mp member) same
  | some row =>
      rw [get?_eq_some] at found ⊢
      exact ⟨(agrees row (within row found.2)).mpr found.1, found.2⟩

theorem perm (agrees : AgreesOn (fun _ => True) left right) : left.rows.Perm right.rows := by
  have leftNodup : left.rows.Nodup := List.Nodup.of_map _ left.distinct
  have rightNodup : right.rows.Nodup := List.Nodup.of_map _ right.distinct
  rw [List.perm_ext_iff_of_nodup leftNodup rightNodup]
  exact fun row => agrees row trivial

end AgreesOn

section Listing

variable {Rank : Type} [LinearOrder Rank]

/-- `ORDER BY` a column. -/
def listing (table : Table Row key) (rank : Row → Rank) : List Row :=
  table.rows.insertionSort fun left right => rank left ≤ rank right

theorem mem_listing (table : Table Row key) (rank : Row → Rank) (row : Row) :
    row ∈ table.listing rank ↔ row ∈ table :=
  List.mem_insertionSort _

theorem listing_sorted (table : Table Row key) (rank : Row → Rank) :
    (table.listing rank).Pairwise fun left right => rank left ≤ rank right := by
  have : Std.Total fun left right : Row => rank left ≤ rank right :=
    ⟨fun left right => le_total (rank left) (rank right)⟩
  have : IsTrans Row fun left right => rank left ≤ rank right := ⟨fun _ _ _ => le_trans⟩
  exact List.pairwise_insertionSort _ _

/-- A column that tells the rows apart orders them in one way only. -/
theorem AgreesOn.listing {left right : Table Row key} {rank : Row → Rank}
    (agrees : AgreesOn (fun _ => True) left right)
    (apart : ∀ row ∈ left, ∀ other ∈ left, rank row = rank other → row = other) :
    left.listing rank = right.listing rank := by
  have perm : (left.listing rank).Perm (right.listing rank) :=
    (List.perm_insertionSort _ _).trans (agrees.perm.trans (List.perm_insertionSort _ _).symm)
  refine perm.eq_of_pairwise ?_ (left.listing_sorted rank) (right.listing_sorted rank)
  intro row other member member' below above
  have inLeft := (mem_listing left rank row).mp member
  have inRight := (mem_listing right rank other).mp member'
  exact apart row inLeft other ((agrees other trivial).mpr inRight) (le_antisymm below above)

end Listing

end Table

/-- A statement on one row: an `INSERT`, or an `UPDATE` or `DELETE` of the row that has a key. -/
inductive RowStatement (Row Change Key : Type) where
  | insert (row : Row)
  | update (key : Key) (change : Change)
  | delete (key : Key)

/-- What a statement does: the row it takes away and the row it puts in its place. -/
structure RowTransition (Row : Type) where
  old : Option Row
  new : Option Row

namespace RowTransition

/-- The rows of a transition are of a kind. -/
def Within (transition : RowTransition Row) (kind : Row → Prop) : Prop :=
  (∀ row, transition.old = some row → kind row) ∧ ∀ row, transition.new = some row → kind row

variable [DecidableEq Key]

/-- The table without the old row. -/
def remove (transition : RowTransition Row) (table : Table Row key) : Table Row key :=
  match transition.old with
  | none => table
  | some old => table.delete (key old)

/-- The table afterwards; an occupied key leaves none. -/
def write (transition : RowTransition Row) (table : Table Row key) : Option (Table Row key) :=
  match transition.new with
  | none => some (transition.remove table)
  | some new => (transition.remove table).insertNew new

variable {transition : RowTransition Row} {table next left right : Table Row key}
  {kind : Row → Prop} {row : Row}

theorem mem_remove : row ∈ transition.remove table ↔
    row ∈ table ∧ ∀ old, transition.old = some old → key row ≠ key old := by
  unfold remove
  cases transition.old with
  | none => simp
  | some old => simp [Table.mem_def, Table.delete]

theorem mem_write (written : transition.write table = some next) :
    row ∈ next ↔ row ∈ transition.remove table ∨ transition.new = some row := by
  unfold write at written
  cases new : transition.new with
  | none =>
      rw [new] at written
      cases written
      simp
  | some other =>
      rw [new] at written
      rw [Table.mem_insertNew written]
      simp [eq_comm]

/-- Whether a row is of the kind can be told from its key. -/
def Keyed (key : Row → Key) (kind : Row → Prop) : Prop :=
  ∀ row other, key row = key other → (kind row ↔ kind other)

theorem mem_remove_outside (keyed : Keyed key kind)
    (within : transition.Within kind) (outside : ¬ kind row) :
    row ∈ transition.remove table ↔ row ∈ table := by
  rw [mem_remove]
  constructor
  · exact fun member => member.1
  · intro member
    refine ⟨member, ?_⟩
    intro old found same
    exact outside ((keyed row old same).mpr (within.1 old found))

/-- Rows of another kind stay as they are. -/
theorem write_outside (keyed : Keyed key kind) (within : transition.Within kind)
    (written : transition.write table = some next) :
    table.AgreesOn (fun row => ¬ kind row) next := by
  intro row outside
  rw [mem_write written, mem_remove_outside keyed within outside]
  constructor
  · exact Or.inl
  · rintro (member | new)
    · exact member
    · exact absurd (within.2 row new) outside

theorem remove_agrees (agrees : left.AgreesOn kind right) :
    (transition.remove left).AgreesOn kind (transition.remove right) := by
  intro row ofKind
  rw [mem_remove, mem_remove, agrees row ofKind]

/-- The outcome on the rows of a kind is decided by the rows of the kind. -/
theorem write_agrees (keyed : Keyed key kind) (within : transition.Within kind)
    (agrees : left.AgreesOn kind right) :
    (transition.write left = none ∧ transition.write right = none) ∨
      ∃ leftNext rightNext, transition.write left = some leftNext ∧
        transition.write right = some rightNext ∧ leftNext.AgreesOn kind rightNext := by
  have removed : (transition.remove left).AgreesOn kind (transition.remove right) :=
    remove_agrees agrees
  cases found : transition.new with
  | none =>
      right
      refine ⟨transition.remove left, transition.remove right, ?_, ?_, removed⟩
      · rw [write, found]
      · rw [write, found]
  | some new =>
      have ofKind := within.2 new found
      have same := removed.get? (k := key new) fun row equal => (keyed row new equal).mpr ofKind
      cases free : (transition.remove right).get? (key new) with
      | some other =>
          left
          rw [write, write, found]
          have occupied := same.trans free
          exact ⟨by simp [Table.insertNew, occupied], by simp [Table.insertNew, free]⟩
      | none =>
          right
          have vacant := same.trans free
          have leftWritten : transition.write left =
              some ((transition.remove left).insert new vacant) := by
            simp [write, found, Table.insertNew, vacant]
          have rightWritten : transition.write right =
              some ((transition.remove right).insert new free) := by
            simp [write, found, Table.insertNew, free]
          refine ⟨_, _, leftWritten, rightWritten, ?_⟩
          intro row inKind
          rw [mem_write leftWritten, mem_write rightWritten, removed row inKind]

end RowTransition

namespace RowStatement

variable [DecidableEq Key]

/-- The transition of a statement; rows that the policy hides are not reached. -/
def transition (apply : Change → Row → Row) (admits : Row → Bool) (table : Table Row key) :
    RowStatement Row Change Key → Option (RowTransition Row)
  | insert row => some ⟨none, some row⟩
  | update k change => ((table.get? k).filter admits).map fun old =>
      ⟨some old, some (apply change old)⟩
  | delete k => ((table.get? k).filter admits).map fun old => ⟨some old, none⟩

/-- The rules of a table: how a change rewrites a row, which rows a policy lets a statement reach
and leave behind, which rows are valid, and the row triggers that run first. -/
structure Rules (Row Change Failure : Type) where
  apply : Change → Row → Row
  admits : Row → Bool
  check : Row → Bool
  valid : Row → Bool
  before : RowTransition Row → Except Failure Unit
  denied : Failure
  invalid : Failure
  occupied : Failure

/-- A statement under row-level security: the triggers before it, the check of the new row by the
policy and by its constraints, then its key. -/
def execute (rules : Rules Row Change Failure) (statement : RowStatement Row Change Key)
    (table : Table Row key) : Except Failure (Option (Table Row key × RowTransition Row)) :=
  match statement.transition rules.apply rules.admits table with
  | none => return none
  | some transition => do
      rules.before transition
      require (transition.new.all rules.check) rules.denied
      require (transition.new.all rules.valid) rules.invalid
      let next ← requireSome (transition.write table) rules.occupied
      return some (next, transition)

/-- The policy only lets rows of a kind be reached and left behind. -/
structure Rules.Confined (rules : Rules Row Change Failure) (kind : Row → Prop) : Prop where
  admits : ∀ row, rules.admits row = true → kind row
  check : ∀ row, rules.check row = true → kind row

section Execute

variable {rules : Rules Row Change Failure} {kind : Row → Prop}
  {statement : RowStatement Row Change Key} {table next left right : Table Row key}
  {transition : RowTransition Row}

theorem old_admitted {apply : Change → Row → Row} {admits : Row → Bool}
    (found : statement.transition apply admits table = some transition) :
    ∀ row, transition.old = some row → admits row = true := by
  intro row old
  cases statement with
  | insert new =>
      cases found
      cases old
  | update k change =>
      obtain ⟨reached, present, rfl⟩ := Option.map_eq_some_iff.mp found
      cases old
      exact (Option.filter_eq_some_iff.mp present).2
  | delete k =>
      obtain ⟨reached, present, rfl⟩ := Option.map_eq_some_iff.mp found
      cases old
      exact (Option.filter_eq_some_iff.mp present).2

theorem within_of_checked (confined : rules.Confined kind)
    (found : statement.transition rules.apply rules.admits table = some transition)
    (checked : transition.new.all rules.check = true) : transition.Within kind := by
  constructor
  · intro row old
    exact confined.admits row (old_admitted found row old)
  · intro row new
    rw [new] at checked
    exact confined.check row checked

theorem execute_eq_some :
    statement.execute rules table = .ok (some (next, transition)) ↔
      statement.transition rules.apply rules.admits table = some transition ∧
      rules.before transition = .ok () ∧ transition.new.all rules.check = true ∧
      transition.new.all rules.valid = true ∧ transition.write table = some next := by
  unfold execute
  cases found : statement.transition rules.apply rules.admits table with
  | none => simp [pure, Except.pure]
  | some reached =>
      simp only [Checked.bind_eq_ok, Checked.require_eq_ok, Checked.requireSome_eq_ok,
        Checked.pure_eq_ok, exists_const, Option.some.injEq, Prod.mk.injEq]
      constructor
      · rintro ⟨_, passed, checked, valid, _, written, rfl, rfl⟩
        exact ⟨rfl, passed, checked, valid, written⟩
      · rintro ⟨rfl, passed, checked, valid, written⟩
        exact ⟨(), passed, checked, valid, next, written, rfl, rfl⟩

theorem execute_within (confined : rules.Confined kind)
    (succeeded : statement.execute rules table = .ok (some (next, transition))) :
    transition.Within kind ∧ transition.write table = some next := by
  obtain ⟨found, _, checked, _, written⟩ := execute_eq_some.mp succeeded
  exact ⟨within_of_checked confined found checked, written⟩

theorem transition_agrees (confined : rules.Confined kind) (agrees : left.AgreesOn kind right) :
    statement.transition rules.apply rules.admits left =
      statement.transition rules.apply rules.admits right := by
  have reached : ∀ k, (left.get? k).filter rules.admits = (right.get? k).filter rules.admits := by
    intro k
    apply Option.ext
    intro row
    rw [Option.filter_eq_some_iff, Option.filter_eq_some_iff, Table.get?_eq_some,
      Table.get?_eq_some]
    constructor
    · rintro ⟨⟨member, same⟩, admitted⟩
      exact ⟨⟨(agrees row (confined.admits row admitted)).mp member, same⟩, admitted⟩
    · rintro ⟨⟨member, same⟩, admitted⟩
      exact ⟨⟨(agrees row (confined.admits row admitted)).mpr member, same⟩, admitted⟩
  cases statement with
  | insert row => rfl
  | update k change => simp only [transition, reached]
  | delete k => simp only [transition, reached]

/-- What two tables make of one statement, as far as the rows of the kind show it. -/
inductive Alike (kind : Row → Prop) : Option (Table Row key × RowTransition Row) →
    Option (Table Row key × RowTransition Row) → Prop where
  | unreached : Alike kind none none
  | wrote {transition : RowTransition Row} {left right : Table Row key}
      (within : transition.Within kind) (agrees : left.AgreesOn kind right) :
      Alike kind (some (left, transition)) (some (right, transition))

/-- What a statement does to the rows of a kind is decided by the rows of the kind. A trigger
that refuses a row outside the kind must do so as the policy would. -/
theorem execute_agrees {other : RowTransition Row → Except Failure Unit}
    (keyed : RowTransition.Keyed key kind) (confined : rules.Confined kind)
    (refuses : ∀ transition,
      rules.before transition = .ok () ∨ rules.before transition = .error rules.denied)
    (refuses' : ∀ transition, other transition = .ok () ∨ other transition = .error rules.denied)
    (same : ∀ transition, transition.Within kind → rules.before transition = other transition)
    (agrees : left.AgreesOn kind right) :
    Checked.Alike (Alike kind) (statement.execute rules left)
      (statement.execute { rules with before := other } right) := by
  have reached : statement.transition rules.apply rules.admits left =
      statement.transition rules.apply rules.admits right := transition_agrees confined agrees
  unfold execute
  simp only [reached]
  cases found : statement.transition rules.apply rules.admits right with
  | none => exact Checked.Alike.succeeded Alike.unreached
  | some transition =>
      by_cases checked : transition.new.all rules.check = true
      · have within := within_of_checked confined found checked
        simp only [same transition within]
        refine Checked.alike_bind_same fun _ _ => Checked.alike_bind_same fun _ _ =>
          Checked.alike_bind_same fun _ _ => ?_
        rcases RowTransition.write_agrees keyed within agrees with
          ⟨left_, right_⟩ | ⟨leftNext, rightNext, left_, right_, nexts⟩
        · rw [left_, right_]
          exact Checked.Alike.failed _
        · rw [left_, right_]
          exact Checked.Alike.succeeded (Alike.wrote within nexts)
      · simp only [require, if_neg checked]
        rcases refuses transition with first | first <;>
          rcases refuses' transition with second | second <;>
          rw [first, second] <;> exact Checked.Alike.failed _

end Execute

end RowStatement

end TenantTrust.Library
