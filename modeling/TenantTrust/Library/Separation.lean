import TenantTrust.Library.Transaction
import TenantTrust.Library.Checked

/-! Runs shared by parties that do not see each other: what one party observes of a run is what it
would observe if nobody else had done anything. -/

namespace TenantTrust.Library

namespace Checked

variable {Failure α β γ δ : Type} {related : α → β → Prop} {later : γ → δ → Prop}

/-- Two procedures abort with the same failure, or both succeed with related values. -/
inductive Alike (related : α → β → Prop) : Except Failure α → Except Failure β → Prop where
  | failed (failure : Failure) : Alike related (.error failure) (.error failure)
  | succeeded {value : α} {other : β} (values : related value other) :
      Alike related (.ok value) (.ok other)

theorem alike_bind {step : Except Failure α} {step' : Except Failure β}
    {rest : α → Except Failure γ} {rest' : β → Except Failure δ} (first : Alike related step step')
    (second : ∀ value other, related value other → Alike later (rest value) (rest' other)) :
    Alike later (step >>= rest) (step' >>= rest') := by
  cases first with
  | failed failure => exact Alike.failed failure
  | succeeded values => exact second _ _ values

/-- A step that does not depend on what differs. -/
theorem alike_bind_same {step : Except Failure α} {rest : α → Except Failure γ}
    {rest' : α → Except Failure δ}
    (second : ∀ value, step = .ok value → Alike later (rest value) (rest' value)) :
    Alike later (step >>= rest) (step >>= rest') := by
  cases result : step with
  | error failure => exact Alike.failed failure
  | ok value => exact second value result

theorem alike_mapError {Other : Type} {wrap : Failure → Other} {step : Except Failure α}
    {step' : Except Failure β} (alike : Alike related step step') :
    Alike related (step.mapError wrap) (step'.mapError wrap) := by
  cases alike with
  | failed failure => exact Alike.failed (wrap failure)
  | succeeded values => exact Alike.succeeded values

theorem alike_imp {stronger : α → β → Prop} {step : Except Failure α} {step' : Except Failure β}
    (alike : Alike related step step')
    (implies : ∀ value other, step = .ok value → step' = .ok other → related value other →
      stronger value other) : Alike stronger step step' := by
  cases alike with
  | failed failure => exact Alike.failed failure
  | succeeded values => exact Alike.succeeded (implies _ _ rfl rfl values)

theorem require_congr {condition other : Prop} [Decidable condition] [Decidable other]
    {failure : Failure} (same : condition ↔ other) :
    require condition failure = require other failure := by
  unfold require
  by_cases holds : condition
  · rw [if_pos holds, if_pos (same.mp holds)]
  · rw [if_neg holds, if_neg fun present => holds (same.mpr present)]

end Checked

namespace Transaction

variable {State Op Reply Failure : Type} (apply : Transaction State Op Reply Failure)

/-- What comes of the operations of one party in a run. -/
def outcomes (mine : Op → Bool) : State → List Op → List (Except Failure Reply)
  | _, [] => []
  | state, op :: ops =>
      let rest := outcomes mine (commit apply state op) ops
      if mine op then (apply op state).map Prod.snd :: rest else rest

/-- The states of two runs look the same to a party; operations of others do not change how a
state looks, and its own come out alike where the states do. -/
structure Separates (agree : State → State → Prop) (mine : Op → Bool) (legal : Op → Prop) :
    Prop where
  foreign : ∀ state other op next reply, agree state other → legal op → mine op = false →
    apply op state = .ok (next, reply) → agree next other
  own : ∀ state other op, agree state other → legal op → mine op = true →
    Checked.Alike (fun left right => agree left.1 right.1 ∧ left.2 = right.2)
      (apply op state) (apply op other)

variable {apply}

/-- The operations of others can be taken out of a run. -/
theorem Separates.purge {agree : State → State → Prop} {mine : Op → Bool} {legal : Op → Prop}
    (separates : Separates apply agree mine legal) {state other : State} {ops : List Op}
    (same : agree state other) (allLegal : ∀ op ∈ ops, legal op) :
    outcomes apply mine state ops = outcomes apply mine other (ops.filter mine) ∧
      agree (run apply state ops) (run apply other (ops.filter mine)) := by
  induction ops generalizing state other with
  | nil => exact ⟨rfl, same⟩
  | cons op ops ih =>
      have first := allLegal op List.mem_cons_self
      have rest : ∀ later ∈ ops, legal later := fun later member =>
        allLegal later (List.mem_cons_of_mem _ member)
      cases whose : mine op with
      | false =>
          have next : agree (Transaction.commit apply state op) other := by
            rcases commit_cases apply state op with aborted | ⟨reply, succeeded⟩
            · rwa [aborted]
            · exact separates.foreign state other op _ reply same first whose succeeded
          rw [List.filter_cons_of_neg (by simp [whose]), run_cons]
          simp only [outcomes, whose, Bool.false_eq_true, if_false]
          exact ih next rest
      | true =>
          have outcome : (apply op state).map Prod.snd = (apply op other).map Prod.snd ∧
              agree (Transaction.commit apply state op) (Transaction.commit apply other op) := by
            have alike := separates.own state other op same first whose
            cases left : apply op state with
            | error failure =>
                rw [left] at alike
                cases right : apply op other with
                | ok value =>
                    rw [right] at alike
                    cases alike
                | error failure' =>
                    rw [right] at alike
                    cases alike
                    rw [commit_error left, commit_error right]
                    exact ⟨rfl, same⟩
            | ok value =>
                rw [left] at alike
                cases right : apply op other with
                | error failure =>
                    rw [right] at alike
                    cases alike
                | ok value' =>
                    rw [right] at alike
                    cases alike with
                    | succeeded values =>
                        rw [commit_ok left, commit_ok right]
                        exact ⟨congrArg Except.ok values.2, values.1⟩
          obtain ⟨outcomes_, ends⟩ := ih outcome.2 rest
          rw [List.filter_cons_of_pos whose, run_cons, run_cons]
          simp only [outcomes, whose, if_true]
          exact ⟨List.cons_eq_cons.mpr ⟨outcome.1, outcomes_⟩, ends⟩

end Transaction

end TenantTrust.Library
