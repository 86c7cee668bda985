import Mathlib.Data.List.Basic
import Mathlib.Data.List.Induction

/-! Serial runs of a store whose operations either commit or abort without a trace. -/

namespace TenantTrust.Library

variable {State Op Reply Failure : Type}

/-- The meaning of one operation on one state, as a transaction. -/
abbrev Transaction (State Op Reply Failure : Type) : Type :=
  Op → State → Except Failure (State × Reply)

namespace Transaction

variable (apply : Transaction State Op Reply Failure)

/-- An aborted operation leaves the state it started from. -/
def commit (state : State) (op : Op) : State :=
  match apply op state with
  | .ok (next, _) => next
  | .error _ => state

def run (state : State) (ops : List Op) : State := ops.foldl (commit apply) state

def Reachable (initial : State → Prop) (state : State) : Prop :=
  ∃ start ops, initial start ∧ run apply start ops = state

/-- Every operation of the run is issued in a state where it meets the guard. -/
def Guarded (guard : State → Op → Prop) : State → List Op → Prop
  | _, [] => True
  | state, op :: ops => guard state op ∧ Guarded guard (commit apply state op) ops

instance decidableGuarded (guard : State → Op → Prop)
    [decides : ∀ state op, Decidable (guard state op)] :
    ∀ state ops, Decidable (Guarded apply guard state ops)
  | _, [] => inferInstanceAs (Decidable True)
  | state, op :: ops =>
      have := decidableGuarded guard (commit apply state op) ops
      inferInstanceAs (Decidable (guard state op ∧ Guarded apply guard (commit apply state op) ops))

variable {apply}

@[simp] theorem run_nil (state : State) : run apply state [] = state := rfl

@[simp] theorem run_cons (state : State) (op : Op) (ops : List Op) :
    run apply state (op :: ops) = run apply (commit apply state op) ops := rfl

theorem run_append (state : State) (front back : List Op) :
    run apply state (front ++ back) = run apply (run apply state front) back :=
  List.foldl_append

theorem run_concat (state : State) (ops : List Op) (op : Op) :
    run apply state (ops ++ [op]) = commit apply (run apply state ops) op := by
  rw [run_append, run_cons, run_nil]

theorem commit_ok {state next : State} {op : Op} {reply : Reply}
    (succeeds : apply op state = .ok (next, reply)) : commit apply state op = next := by
  simp [commit, succeeds]

theorem commit_error {state : State} {op : Op} {failure : Failure}
    (fails : apply op state = .error failure) : commit apply state op = state := by
  simp [commit, fails]

variable (apply) in
/-- Either the operation aborted or its successor state is the committed one. -/
theorem commit_cases (state : State) (op : Op) :
    commit apply state op = state ∨
      ∃ reply, apply op state = .ok (commit apply state op, reply) := by
  cases result : apply op state with
  | error failure => exact Or.inl (commit_error result)
  | ok pair =>
      right
      rw [commit_ok result]
      exact ⟨pair.2, rfl⟩

/-- What every successful operation preserves, every commit preserves. -/
theorem commit_preserves {Inv : State → Prop} {state : State} {op : Op}
    (holds : Inv state)
    (preserved : ∀ next reply, apply op state = .ok (next, reply) → Inv next) :
    Inv (commit apply state op) := by
  rcases commit_cases apply state op with aborted | ⟨reply, succeeded⟩
  · rwa [aborted]
  · exact preserved _ reply succeeded

theorem run_preserves {Inv : State → Prop}
    (preserved : ∀ state op next reply, Inv state → apply op state = .ok (next, reply) → Inv next)
    (state : State) (ops : List Op) (holds : Inv state) : Inv (run apply state ops) := by
  induction ops generalizing state with
  | nil => exact holds
  | cons op ops ih =>
      apply ih
      exact commit_preserves holds fun next reply => preserved state op next reply holds

theorem run_preserves_guarded (Inv : State → Prop) {guard : State → Op → Prop}
    (preserved : ∀ state op next reply, Inv state → guard state op →
      apply op state = .ok (next, reply) → Inv next)
    (state : State) (ops : List Op) (guarded : Guarded apply guard state ops)
    (holds : Inv state) : Inv (run apply state ops) := by
  induction ops generalizing state with
  | nil => exact holds
  | cons op ops ih =>
      refine ih _ guarded.2 ?_
      exact commit_preserves holds fun next reply => preserved state op next reply holds guarded.1

variable (apply) in
/-- How many operations of a run move the state in a certain way. -/
def countSteps (moves : State → State → Bool) : State → List Op → Nat
  | _, [] => 0
  | state, op :: ops =>
      (if moves state (commit apply state op) then 1 else 0) +
        countSteps moves (commit apply state op) ops

/-- A measure that grows by one with each such move has counted them all. -/
theorem run_count (measure_ : State → Nat) (moves : State → State → Bool)
    (step : ∀ state op, measure_ (commit apply state op) =
      measure_ state + if moves state (commit apply state op) then 1 else 0)
    (state : State) (ops : List Op) :
    measure_ (run apply state ops) = measure_ state + countSteps apply moves state ops := by
  induction ops generalizing state with
  | nil => rfl
  | cons op ops ih => rw [run_cons, ih, step, countSteps, Nat.add_assoc]

theorem guarded_append {guard : State → Op → Prop} (state : State) (front back : List Op) :
    Guarded apply guard state (front ++ back) ↔
      Guarded apply guard state front ∧ Guarded apply guard (run apply state front) back := by
  induction front generalizing state with
  | nil => simp [Guarded]
  | cons op ops ih => simp [Guarded, ih, and_assoc]

/-- A run is guarded when each of its operations meets the guard where it is issued. -/
theorem guarded_iff {guard : State → Op → Prop} (state : State) (ops : List Op) :
    Guarded apply guard state ops ↔
      ∀ front op back, ops = front ++ op :: back → guard (run apply state front) op := by
  constructor
  · intro guarded front op back split_
    rw [split_] at guarded
    exact ((guarded_append state front (op :: back)).mp guarded).2.1
  · intro each
    induction ops generalizing state with
    | nil => trivial
    | cons op ops ih =>
        refine ⟨each [] op ops rfl, ih _ fun front next back split_ => ?_⟩
        exact each (op :: front) next back (congrArg (List.cons op) split_)

theorem guarded_mono {weak strong : State → Op → Prop}
    (implies : ∀ state op, strong state op → weak state op) (state : State) (ops : List Op)
    (guarded : Guarded apply strong state ops) : Guarded apply weak state ops := by
  induction ops generalizing state with
  | nil => trivial
  | cons op ops ih => exact ⟨implies _ _ guarded.1, ih _ guarded.2⟩

theorem guarded_true (state : State) (ops : List Op) :
    Guarded apply (fun _ _ => True) state ops := by
  induction ops generalizing state with
  | nil => trivial
  | cons op ops ih => exact ⟨trivial, ih _⟩

theorem Reachable.invariant {initial Inv : State → Prop}
    (start : ∀ state, initial state → Inv state)
    (preserved : ∀ state op next reply, Inv state → apply op state = .ok (next, reply) → Inv next)
    {state : State} (reachable : Reachable apply initial state) : Inv state := by
  obtain ⟨origin, ops, legal, rfl⟩ := reachable
  exact run_preserves preserved origin ops (start origin legal)

theorem Reachable.commit {initial : State → Prop} {state : State}
    (reachable : Reachable apply initial state) (op : Op) :
    Reachable apply initial (commit apply state op) := by
  obtain ⟨origin, ops, legal, rfl⟩ := reachable
  exact ⟨origin, ops ++ [op], legal, run_concat origin ops op⟩

theorem Reachable.run {initial : State → Prop} {state : State}
    (reachable : Reachable apply initial state) (ops : List Op) :
    Reachable apply initial (run apply state ops) := by
  obtain ⟨origin, earlier, legal, rfl⟩ := reachable
  exact ⟨origin, earlier ++ ops, legal, run_append origin earlier ops⟩

/-- A property that a run ends with but did not start with was brought about by
one committed operation. -/
theorem run_first {P : State → Prop} (state : State) (ops : List Op)
    (before : ¬ P state) (after : P (run apply state ops)) :
    ∃ front op back reply, ops = front ++ op :: back ∧ ¬ P (run apply state front) ∧
      apply op (run apply state front) = .ok (run apply state (front ++ [op]), reply) ∧
      P (run apply state (front ++ [op])) := by
  induction ops generalizing state with
  | nil => exact absurd after before
  | cons op ops ih =>
      by_cases now : P (Transaction.commit apply state op)
      · rcases commit_cases apply state op with aborted | ⟨reply, succeeded⟩
        · rw [aborted] at now
          exact absurd now before
        · exact ⟨[], op, ops, reply, rfl, before, succeeded, now⟩
      · obtain ⟨front, next, back, reply, rfl, notYet, succeeded, then_⟩ := ih _ now after
        exact ⟨op :: front, next, back, reply, rfl, notYet, succeeded, then_⟩

/-- A property that a run ends with but did not start with has held since one committed
operation brought it about. -/
theorem run_since {P : State → Prop} (state : State) (ops : List Op)
    (before : ¬ P state) (after : P (run apply state ops)) :
    ∃ front op back reply, ops = front ++ op :: back ∧ ¬ P (run apply state front) ∧
      apply op (run apply state front) = .ok (run apply state (front ++ [op]), reply) ∧
      ∀ mid rest, back = mid ++ rest → P (run apply state (front ++ op :: mid)) := by
  induction ops using List.reverseRecOn with
  | nil => exact absurd after before
  | append_singleton ops op ih =>
      by_cases earlier : P (run apply state ops)
      · obtain ⟨front, first, back, reply, rfl, notYet, succeeded, held⟩ := ih earlier
        refine ⟨front, first, back ++ [op], reply, by simp, notYet, succeeded, ?_⟩
        intro mid rest split_
        rcases List.eq_nil_or_concat rest with rfl | ⟨shorter, last, rfl⟩
        · rw [List.append_nil] at split_
          rw [← split_]
          simpa using after
        · rw [List.concat_eq_append, ← List.append_assoc] at split_
          exact held mid shorter (List.append_inj_left' split_ rfl)
      · rw [run_concat] at after
        rcases commit_cases apply (run apply state ops) op with aborted | ⟨reply, succeeded⟩
        · rw [aborted] at after
          exact absurd after earlier
        · rw [← run_concat] at succeeded after
          refine ⟨ops, op, [], reply, rfl, earlier, succeeded, ?_⟩
          intro mid rest split_
          rw [(List.append_eq_nil_iff.mp split_.symm).1]
          exact after

end Transaction

end TenantTrust.Library
