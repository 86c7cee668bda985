import TenantTrust.Library.Transaction

/-! A store that shows, after every run, what the accepted operations made of an abstract state. -/

namespace TenantTrust.Library.Transaction

variable {State Op Reply Failure Abstract : Type} {apply : Transaction State Op Reply Failure}

variable (apply) in
/-- The operations of a run that committed, each with its reply. -/
def accepted : State → List Op → List (Op × Reply)
  | _, [] => []
  | state, op :: ops =>
      match apply op state with
      | .ok (next, reply) => (op, reply) :: accepted next ops
      | .error _ => accepted state ops

theorem accepted_cons_ok {state next : State} {op : Op} {reply : Reply} (ops : List Op)
    (succeeded : apply op state = .ok (next, reply)) :
    accepted apply state (op :: ops) = (op, reply) :: accepted apply next ops := by
  rw [accepted, succeeded]

theorem accepted_cons_error {state : State} {op : Op} {failure : Failure} (ops : List Op)
    (failed : apply op state = .error failure) :
    accepted apply state (op :: ops) = accepted apply state ops := by
  rw [accepted, failed]

theorem mem_of_accepted {state : State} {ops : List Op} {op : Op} {reply : Reply}
    (member : (op, reply) ∈ accepted apply state ops) : op ∈ ops := by
  induction ops generalizing state with
  | nil => exact absurd member List.not_mem_nil
  | cons head rest ih =>
      cases applied : apply head state with
      | error failure =>
          rw [accepted_cons_error rest applied] at member
          exact List.mem_cons_of_mem head (ih member)
      | ok result =>
          rw [accepted_cons_ok rest applied, List.mem_cons, Prod.mk.injEq] at member
          rcases member with ⟨rfl, _⟩ | later
          · exact List.mem_cons_self
          · exact List.mem_cons_of_mem head (ih later)

/-- Where each accepted operation keeps a relation between the state and the operations accepted so
far, so does the whole run. -/
theorem run_recorded (Records : List (Op × Reply) → State → Prop)
    (recorded : ∀ before state op next reply, Records before state →
      apply op state = .ok (next, reply) → Records (before ++ [(op, reply)]) next)
    {before : List (Op × Reply)} {state : State} (holds : Records before state) (ops : List Op) :
    Records (before ++ accepted apply state ops) (run apply state ops) := by
  induction ops generalizing before state with
  | nil =>
      rw [accepted, List.append_nil]
      exact holds
  | cons op ops ih =>
      cases applied : apply op state with
      | error failure =>
          rw [accepted_cons_error ops applied, run_cons, commit_error applied]
          exact ih holds
      | ok result =>
          obtain ⟨next, reply⟩ := result
          rw [accepted_cons_ok ops applied, run_cons, commit_ok applied, List.append_cons]
          exact ih (recorded before state op next reply holds applied)

/-- Where each accepted operation is a step of the abstract state, so is the whole run. -/
theorem run_simulated {Shows : Abstract → State → Prop} {step : Abstract → Op × Reply → Abstract}
    (simulated : ∀ abstract state op next reply, Shows abstract state →
      apply op state = .ok (next, reply) → Shows (step abstract (op, reply)) next)
    {abstract : Abstract} {state : State} (shown : Shows abstract state) (ops : List Op) :
    Shows ((accepted apply state ops).foldl step abstract) (run apply state ops) := by
  have start : Shows (List.foldl step abstract []) state := shown
  refine run_recorded (fun before state => Shows (before.foldl step abstract) state) ?_ start ops
  intro before state op next reply holds applied
  rw [List.foldl_concat]
  exact simulated _ state op next reply holds applied

end TenantTrust.Library.Transaction
