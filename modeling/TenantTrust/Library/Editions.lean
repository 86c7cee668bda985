import Mathlib.Data.List.Pairwise
import Mathlib.Order.Defs.LinearOrder

/-! Numbered editions of a document, of which at most one is in force at a time. -/

namespace TenantTrust.Library

/-- The editions in the order of their publication, and which of them came into force when. The
activations are listed newest first. -/
structure Editions (Content Time : Type) [Preorder Time] where
  contents : List Content
  activations : List (ℕ × Time)
  present : ∀ activation ∈ activations, activation.1 < contents.length
  distinct : (activations.map Prod.fst).Nodup
  ordered : activations.Pairwise fun newer older => older.2 ≤ newer.2

namespace Editions

variable {Content Time : Type}

/-- From when to when an edition was in force, given when the newest of the activations ended. -/
def reignAmong (n : ℕ) : Option Time → List (ℕ × Time) → Option (Time × Option Time)
  | _, [] => none
  | ended, (m, time) :: older =>
      if m = n then some (time, ended) else reignAmong n (some time) older

section Activations

variable {n : ℕ} {ended : Option Time} {activations : List (ℕ × Time)}

theorem reignAmong_eq_none :
    reignAmong n ended activations = none ↔ n ∉ activations.map Prod.fst := by
  induction activations generalizing ended with
  | nil => simp [reignAmong]
  | cons first older ih =>
      obtain ⟨m, time⟩ := first
      rw [reignAmong, List.map_cons, List.mem_cons, not_or]
      split
      case isTrue same => simp [same]
      case isFalse other =>
        rw [ih]
        exact ⟨fun absent => ⟨fun same => other same.symm, absent⟩, fun both => both.2⟩

/-- A later activation ends the reign that had no end. -/
theorem reignAmong_ended (n : ℕ) (time : Time) (activations : List (ℕ × Time)) :
    reignAmong n (some time) activations =
      (reignAmong n none activations).map fun reign => (reign.1, some (reign.2.getD time)) := by
  cases activations with
  | nil => rfl
  | cons first older =>
      obtain ⟨m, since⟩ := first
      rw [reignAmong, reignAmong]
      split
      case isTrue => rfl
      case isFalse =>
        induction older generalizing since with
        | nil => rfl
        | cons next older ih =>
            obtain ⟨k, before⟩ := next
            rw [reignAmong]
            split
            case isTrue => rfl
            case isFalse => exact ih before

theorem reignAmong_open (closed : ended ≠ none) : ∀ since,
    reignAmong n ended activations ≠ some (since, none) := by
  intro since
  obtain ⟨time, rfl⟩ := Option.ne_none_iff_exists'.mp closed
  rw [reignAmong_ended]
  cases reignAmong n none activations with
  | none => exact nofun
  | some reign =>
      intro same
      cases same

end Activations

variable [Preorder Time]

def empty : Editions Content Time := ⟨[], [], nofun, List.nodup_nil, .nil⟩

def publish (editions : Editions Content Time) (content : Content) : Editions Content Time where
  contents := editions.contents ++ [content]
  activations := editions.activations
  present := by
    intro activation member
    rw [List.length_append]
    exact Nat.lt_add_right _ (editions.present activation member)
  distinct := editions.distinct
  ordered := editions.ordered

/-- The edition exists, has never been in force, and no later activation stands before it. -/
structure Ready (editions : Editions Content Time) (n : ℕ) (time : Time) : Prop where
  present : n < editions.contents.length
  unused : n ∉ editions.activations.map Prod.fst
  later : ∀ activation ∈ editions.activations, activation.2 ≤ time

def activate (editions : Editions Content Time) (n : ℕ) (time : Time)
    (ready : editions.Ready n time) : Editions Content Time where
  contents := editions.contents
  activations := (n, time) :: editions.activations
  present := List.forall_mem_cons.mpr ⟨ready.present, editions.present⟩
  distinct := List.nodup_cons.mpr ⟨ready.unused, editions.distinct⟩
  ordered := List.pairwise_cons.mpr ⟨ready.later, editions.ordered⟩

/-- When an edition came into force, and when the next one replaced it. -/
def reign? (editions : Editions Content Time) (n : ℕ) : Option (Time × Option Time) :=
  reignAmong n none editions.activations

/-- The number of the edition that is in force. -/
def current? (editions : Editions Content Time) : Option ℕ :=
  editions.activations.head?.map Prod.fst

section Reigns

variable {n m : ℕ} {time : Time} {editions : Editions Content Time}

@[simp] theorem reign?_publish (content : Content) :
    (editions.publish content).reign? n = editions.reign? n := rfl

@[simp] theorem contents_publish (content : Content) :
    (editions.publish content).contents = editions.contents ++ [content] := rfl

/-- An edition after a publication is an earlier one or the new one. -/
theorem publish_cases {content edition : Content}
    (listed : (editions.publish content).contents[n]? = some edition) :
    editions.contents[n]? = some edition ∨ n = editions.contents.length ∧ edition = content := by
  rw [contents_publish, List.getElem?_append] at listed
  split at listed
  case isTrue => exact .inl listed
  case isFalse beyond =>
    obtain ⟨within, rfl⟩ := List.getElem?_eq_some_iff.mp listed
    rw [List.length_singleton] at within
    exact .inr ⟨by omega, List.getElem_singleton _⟩

variable (ready : editions.Ready n time)

@[simp] theorem contents_activate :
    (editions.activate n time ready).contents = editions.contents := rfl

theorem reign?_activate_self : (editions.activate n time ready).reign? n = some (time, none) := by
  rw [reign?, activate, reignAmong, if_pos rfl]

theorem reign?_activate_other (other : m ≠ n) :
    (editions.activate n time ready).reign? m =
      (editions.reign? m).map fun reign => (reign.1, some (reign.2.getD time)) := by
  rw [reign?, activate, reignAmong, if_neg other.symm, reignAmong_ended]
  rfl

theorem reign?_eq_none : editions.reign? n = none ↔ n ∉ editions.activations.map Prod.fst :=
  reignAmong_eq_none

/-- An edition beyond the published ones was never in force. -/
theorem reign?_absent (absent : editions.contents.length ≤ n) : editions.reign? n = none := by
  rw [reign?_eq_none, List.mem_map]
  rintro ⟨activation, member, rfl⟩
  exact Nat.not_lt.mpr absent (editions.present activation member)

/-- The edition in force is the one whose reign has no end. -/
theorem current?_eq_some :
    editions.current? = some n ↔ ∃ since, editions.reign? n = some (since, none) := by
  rw [current?, reign?]
  cases editions.activations with
  | nil => simp [reignAmong]
  | cons first older =>
      obtain ⟨m, time⟩ := first
      rw [reignAmong, List.head?_cons, Option.map_some, Option.some.injEq]
      split
      case isTrue same => exact ⟨fun _ => ⟨time, rfl⟩, fun _ => same⟩
      case isFalse other =>
        constructor
        · intro same
          exact absurd same other
        · rintro ⟨since, reigned⟩
          exact absurd reigned (reignAmong_open (Option.some_ne_none time) since)

theorem current?_lt (current : editions.current? = some n) : n < editions.contents.length := by
  obtain ⟨activation, first, rfl⟩ := Option.map_eq_some_iff.mp current
  exact editions.present activation (List.mem_of_mem_head? first)

/-- Every activation so far is at most as late as that of the edition in force. -/
theorem activation_le {since : Time} (reigned : editions.reign? n = some (since, none)) :
    ∀ activation ∈ editions.activations, activation.2 ≤ since := by
  have current := current?_eq_some.mpr ⟨since, reigned⟩
  have ordered := editions.ordered
  rw [current?] at current
  rw [reign?] at reigned
  cases listed : editions.activations with
  | nil => exact nofun
  | cons first older =>
      obtain ⟨m, time⟩ := first
      rw [listed] at current reigned ordered
      obtain rfl : m = n := Option.some.inj current
      rw [reignAmong, if_pos rfl, Option.some.injEq, Prod.mk.injEq] at reigned
      obtain ⟨rfl, _⟩ := reigned
      exact List.forall_mem_cons.mpr ⟨le_refl _, (List.pairwise_cons.mp ordered).1⟩

/-- No edition was ever in force while none is. -/
theorem activations_of_current?_none (vacant : editions.current? = none) :
    editions.activations = [] := by
  rw [current?, Option.map_eq_none_iff, List.head?_eq_none_iff] at vacant
  exact vacant

end Reigns

end Editions

end TenantTrust.Library
