import Mathlib.Logic.Basic

/-! Procedures that abort on a failed check, and how a successful call is taken apart. -/

namespace TenantTrust.Library

variable {Failure α β : Type}

def require (condition : Prop) [Decidable condition] (failure : Failure) : Except Failure Unit :=
  if condition then .ok () else .error failure

def requireSome (value : Option α) (failure : Failure) : Except Failure α :=
  match value with
  | some present => .ok present
  | none => .error failure

namespace Checked

theorem bind_eq_ok {step : Except Failure α} {rest : α → Except Failure β} {result : β} :
    (step >>= rest) = .ok result ↔ ∃ value, step = .ok value ∧ rest value = .ok result := by
  cases step with
  | error failure => simp [bind, Except.bind]
  | ok value => simp [bind, Except.bind]

/-- A procedure whose first step succeeds, succeeds if the rest does. -/
theorem exists_bind_ok {step : Except Failure α} {rest : α → Except Failure β} {value : α}
    (first : step = .ok value) (second : ∃ result, rest value = .ok result) :
    ∃ result, (step >>= rest) = .ok result := by
  rcases second with ⟨result, succeeds⟩
  exact ⟨result, bind_eq_ok.mpr ⟨value, first, succeeds⟩⟩

theorem pure_eq_ok {value result : α} :
    (pure value : Except Failure α) = .ok result ↔ value = result := by
  simp [pure, Except.pure]

theorem require_eq_ok {condition : Prop} [Decidable condition] {failure : Failure} {u : Unit} :
    require condition failure = .ok u ↔ condition := by
  unfold require
  split <;> simp_all

theorem require_ok {condition : Prop} [Decidable condition] {failure : Failure}
    (holds : condition) : require condition failure = .ok () := if_pos holds

theorem requireSome_eq_ok {value : Option α} {failure : Failure} {result : α} :
    requireSome value failure = .ok result ↔ value = some result := by
  cases value <;> simp [requireSome]

@[simp] theorem mapError_error {Other : Type} (wrap : Failure → Other) (failure : Failure) :
    (.error failure : Except Failure α).mapError wrap = .error (wrap failure) := rfl

@[simp] theorem mapError_ok {Other : Type} (wrap : Failure → Other) (value : α) :
    (.ok value : Except Failure α).mapError wrap = .ok value := rfl

theorem mapError_eq_ok {Other : Type} {wrap : Failure → Other} {step : Except Failure α}
    {result : α} : step.mapError wrap = .ok result ↔ step = .ok result := by
  cases step <;> simp

/-- A check of a list passes when it passes for every member. -/
theorem forM_eq_ok {check : α → Except Failure Unit} {entries : List α} {u : Unit} :
    entries.forM check = .ok u ↔ ∀ entry ∈ entries, check entry = .ok () := by
  induction entries with
  | nil => exact iff_of_true rfl fun _ member => absurd member List.not_mem_nil
  | cons entry rest ih =>
      rw [show (entry :: rest).forM check = (check entry >>= fun _ => rest.forM check) from rfl,
        bind_eq_ok, List.forall_mem_cons]
      constructor
      · rintro ⟨_, first, passed⟩
        exact ⟨first, ih.mp passed⟩
      · rintro ⟨first, passed⟩
        exact ⟨(), first, ih.mpr passed⟩

/-- A list is processed when each member is. -/
theorem mapM_eq_ok {process : α → Except Failure β} {entries : List α} {results : List β}
    (processed : entries.mapM process = .ok results) :
    ∀ entry ∈ entries, ∃ result ∈ results, process entry = .ok result := by
  induction entries generalizing results with
  | nil => exact fun _ member => absurd member List.not_mem_nil
  | cons entry rest ih =>
      rw [List.mapM_cons, bind_eq_ok] at processed
      obtain ⟨first, done, processed⟩ := processed
      rw [bind_eq_ok] at processed
      obtain ⟨others, finished, same⟩ := processed
      cases pure_eq_ok.mp same
      intro other member
      rcases List.mem_cons.mp member with rfl | deeper
      · exact ⟨first, List.mem_cons_self, done⟩
      · obtain ⟨result, present, succeeded⟩ := ih finished other deeper
        exact ⟨result, List.mem_cons_of_mem _ present, succeeded⟩

theorem mapM_ok {process : α → Except Failure β} {f : α → β} {entries : List α}
    (each : ∀ entry ∈ entries, process entry = .ok (f entry)) :
    entries.mapM process = .ok (entries.map f) := by
  induction entries with
  | nil => rfl
  | cons entry rest ih =>
      rw [List.mapM_cons, each entry List.mem_cons_self,
        ih fun other member => each other (List.mem_cons_of_mem _ member)]
      rfl

/-- What a list is processed into comes from its members. -/
theorem mapM_results {process : α → Except Failure β} {entries : List α} {results : List β}
    (processed : entries.mapM process = .ok results) :
    ∀ result ∈ results, ∃ entry ∈ entries, process entry = .ok result := by
  induction entries generalizing results with
  | nil =>
      cases pure_eq_ok.mp processed
      exact fun _ member => absurd member List.not_mem_nil
  | cons entry rest ih =>
      rw [List.mapM_cons, bind_eq_ok] at processed
      obtain ⟨first, done, processed⟩ := processed
      rw [bind_eq_ok] at processed
      obtain ⟨others, finished, same⟩ := processed
      cases pure_eq_ok.mp same
      intro result member
      rcases List.mem_cons.mp member with rfl | deeper
      · exact ⟨entry, List.mem_cons_self, done⟩
      · obtain ⟨origin, present, succeeded⟩ := ih finished result deeper
        exact ⟨origin, List.mem_cons_of_mem _ present, succeeded⟩

theorem mapM_succeeds {process : α → Except Failure β} {entries : List α} :
    (∃ results, entries.mapM process = .ok results) ↔
      ∀ entry ∈ entries, ∃ result, process entry = .ok result := by
  constructor
  · rintro ⟨results, processed⟩ entry member
    obtain ⟨result, _, succeeded⟩ := mapM_eq_ok processed entry member
    exact ⟨result, succeeded⟩
  · intro each
    induction entries with
    | nil => exact ⟨[], rfl⟩
    | cons entry rest ih =>
        rw [List.mapM_cons]
        obtain ⟨first, done⟩ := each entry List.mem_cons_self
        obtain ⟨others, finished⟩ := ih fun other member =>
          each other (List.mem_cons_of_mem _ member)
        exact ⟨first :: others, bind_eq_ok.mpr ⟨first, done,
          bind_eq_ok.mpr ⟨others, finished, rfl⟩⟩⟩

theorem map_eq_ok {f : α → β} {step : Except Failure α} {result : β} :
    step.map f = .ok result ↔ ∃ value, step = .ok value ∧ f value = result := by
  cases step <;> simp [Except.map]

/-- The procedure does not abort with one of certain failures. -/
def Avoids (bad : Failure → Prop) (step : Except Failure α) : Prop :=
  ∀ failure, step = .error failure → ¬ bad failure

theorem avoids_ok {bad : Failure → Prop} (value : α) : Avoids bad (.ok value) := by
  intro failure aborted
  cases aborted

theorem avoids_bind {bad : Failure → Prop} {step : Except Failure α}
    {rest : α → Except Failure β} (first : Avoids bad step)
    (second : ∀ value, step = .ok value → Avoids bad (rest value)) :
    Avoids bad (step >>= rest) := by
  intro failure aborted
  cases result : step with
  | error earlier =>
      rw [result] at aborted
      cases aborted
      exact first _ result
  | ok value =>
      rw [result] at aborted
      exact second value result failure aborted

theorem avoids_require_of {bad : Failure → Prop} {condition : Prop} [Decidable condition]
    {failure : Failure} (holds : condition) : Avoids bad (require condition failure) := by
  rw [require, if_pos holds]
  exact avoids_ok ()

theorem avoids_require {bad : Failure → Prop} {condition : Prop} [Decidable condition]
    {failure : Failure} (harmless : ¬ bad failure) :
    Avoids bad (require condition failure) := by
  by_cases holds : condition
  · exact avoids_require_of holds
  · intro other aborted
    rw [require, if_neg holds] at aborted
    cases aborted
    exact harmless

theorem avoids_requireSome {bad : Failure → Prop} {value : Option α} {failure : Failure}
    (harmless : ¬ bad failure) : Avoids bad (requireSome value failure) := by
  intro other aborted
  cases value with
  | none =>
      cases aborted
      exact harmless
  | some present => cases aborted

end Checked

end TenantTrust.Library
