import Mathlib.Data.Finset.Card
import Mathlib.Data.List.Dedup
import Mathlib.Data.List.Sort

/-! Values that a script passes where a text of some form is expected, and sets of such values. -/

namespace TenantTrust.Library

/-- A value that passes a test of its text: the text itself, or an object, such as an array, that
converts to it. An object equals only itself. -/
inductive Passed (α : Type) where
  | plain (value : α)
  | object (reference : ℕ) (value : α)
  deriving DecidableEq, Repr

namespace Passed

variable {α : Type}

/-- What the value converts to. -/
def read : Passed α → α
  | plain value => value
  | object _ value => value

def isPlain : Passed α → Bool
  | plain _ => true
  | object _ _ => false

theorem plain_read {passed : Passed α} (isPlain : passed.isPlain = true) :
    plain passed.read = passed := by
  cases passed with
  | plain value => rfl
  | object reference value => cases isPlain

end Passed

/-- `sort()` by the texts that the values convert to. -/
def sortPassed {α : Type} [LE α] [DecidableLE α] (values : List (Passed α)) : List (Passed α) :=
  values.insertionSort fun first second => first.read ≤ second.read

/-- `[...new Set(values)]`: the first occurrences, in their order. -/
def distinctValues {α : Type} [DecidableEq α] (values : List α) : List α :=
  values.reverse.dedup.reverse

section Distinct

variable {α β : Type} {values entries larger : List α} {f : α → β}

theorem mem_distinctValues [DecidableEq α] {value : α} :
    value ∈ distinctValues values ↔ value ∈ values := by
  rw [distinctValues, List.mem_reverse, List.mem_dedup, List.mem_reverse]

theorem distinctValues_nodup [DecidableEq α] (values : List α) : (distinctValues values).Nodup :=
  List.nodup_reverse.mpr (List.nodup_dedup _)

section Sorting

variable [LE α] [DecidableLE α] {passed : List (Passed α)}

theorem mem_sortPassed {value : Passed α} : value ∈ sortPassed passed ↔ value ∈ passed :=
  List.mem_insertionSort _

@[simp] theorem length_sortPassed : (sortPassed passed).length = passed.length :=
  List.length_insertionSort _ _

theorem nodup_sortPassed : (sortPassed passed).Nodup ↔ passed.Nodup :=
  (List.perm_insertionSort _ passed).nodup_iff

end Sorting

/-- Two entries of the list have different values. -/
def Varied (f : α → β) (entries : List α) : Prop :=
  ∃ first ∈ entries, ∃ second ∈ entries, f first ≠ f second

theorem Varied.mono (varied : Varied f entries) (kept : entries ⊆ larger) : Varied f larger := by
  obtain ⟨first, member, second, other, differ⟩ := varied
  exact ⟨first, kept member, second, kept other, differ⟩

theorem two_le_distinctValues_iff [DecidableEq β] :
    2 ≤ (distinctValues (entries.map f)).length ↔ Varied f entries := by
  rw [distinctValues, List.length_reverse, ← List.card_toFinset, List.toFinset_reverse,
    Nat.succ_le_iff, Finset.one_lt_card]
  simp only [List.mem_toFinset, List.mem_map, Varied]
  constructor
  · rintro ⟨_, ⟨first, member, rfl⟩, _, ⟨second, other, rfl⟩, differ⟩
    exact ⟨first, member, second, other, differ⟩
  · rintro ⟨first, member, second, other, differ⟩
    exact ⟨_, ⟨first, member, rfl⟩, _, ⟨second, other, rfl⟩, differ⟩

/-- Texts that differ as values differ as texts. -/
theorem Varied.read {g : α → Passed β} (varied : Varied g entries)
    (isPlain : ∀ entry ∈ entries, (g entry).isPlain = true) :
    Varied (fun entry => (g entry).read) entries := by
  obtain ⟨first, member, second, other, differ⟩ := varied
  refine ⟨first, member, second, other, fun same => differ ?_⟩
  rw [← Passed.plain_read (isPlain first member), ← Passed.plain_read (isPlain second other)]
  exact congrArg Passed.plain same

end Distinct

end TenantTrust.Library
