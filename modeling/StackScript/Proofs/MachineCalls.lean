import StackScript.Machine
import StackScript.Proofs.Outcomes

/-!
# Runs and sequences of calls

A run evaluates its items one after the other, and a caller may make one call after the
other, also after a failure.  What every item preserves is therefore preserved by every
run and by every sequence of calls.

Nothing here depends on what operators do.
-/

namespace StackScript
namespace Machine

/-! ## Runs -/

section Runs

variable {config : Config} {script : Script} {machine reached : Machine}

/-- The result of a run is the topmost value that it leaves. -/
theorem top_of_run {top : Option Datum}
    (succeeded : run config script machine = .ok top reached) :
    top = reached.top? := by
  induction script generalizing machine with
  | nil =>
      cases succeeded
      rfl
  | cons item rest ih =>
      simp only [run] at succeeded
      split at succeeded
      · exact ih succeeded
      · cases succeeded

theorem run_append (config : Config) (first second : Script) (machine : Machine) :
    run config (first ++ second) machine =
      match run config first machine with
      | .ok _ next => run config second next
      | .error fault next => .error fault next := by
  induction first generalizing machine with
  | nil => rfl
  | cons item rest ih =>
      simp only [List.cons_append, run]
      cases operate config item machine with
      | ok top next => exact ih next
      | error fault next => rfl

variable {system : OperatorSystem} {item : Item} {workspace next : Workspace}

theorem run_cons_of_ok (rest : Script) (steps : Nat)
    (evaluated : evaluate system item workspace = .ok () next) :
    run { system := system } (item :: rest) ⟨workspace, steps⟩ =
      run { system := system } rest ⟨next, steps + 1⟩ := by
  simp only [run, operate, limitReached?, evaluated]

theorem run_cons_of_error {fault : Fault} (rest : Script) (steps : Nat)
    (evaluated : evaluate system item workspace = .error fault next) :
    run { system := system } (item :: rest) ⟨workspace, steps⟩ =
      .error fault ⟨next, steps + 1⟩ := by
  simp only [run, operate, limitReached?, evaluated]

end Runs

theorem maxSteps_of_limitReached? {config : Config} {machine : Machine} {limit : Int}
    (reached : machine.limitReached? config = some limit) :
    config.maxSteps = some limit := by
  simp only [limitReached?] at reached
  split at reached
  · next allowed limited =>
      rw [limited]
      exact (Option.ite_none_right_eq_some.mp reached).2 ▸ rfl
  · cases reached

theorem operate_of_le_steps {system : OperatorSystem} {limit : Int} {machine : Machine}
    (item : Item) (reached : limit ≤ machine.steps) :
    operate { system := system, maxSteps := some limit } item machine =
      .error (.stepLimit limit) machine := by
  simp only [operate, limitReached?, if_pos reached]

/-- A step fails because the step limit is reached, or because its item does. -/
theorem operate_eq_error {config : Config} {item : Item} {machine failed : Machine}
    {fault : Fault} (ended : operate config item machine = .error fault failed) :
    (∃ limit, config.maxSteps = some limit ∧ fault = .stepLimit limit ∧
        failed = machine) ∨
      failed.steps = machine.steps + 1 ∧
        evaluate config.system item machine.workspace =
          .error fault failed.workspace := by
  simp only [operate] at ended
  split at ended
  · next limit reached =>
      cases ended
      exact .inl ⟨limit, maxSteps_of_limitReached? reached, rfl, rfl⟩
  · split at ended
    · cases ended
    · next evaluated =>
        cases ended
        exact .inr ⟨rfl, evaluated⟩

/-! ## Calls -/

/-- What a caller may ask of a machine. -/
inductive Call where
  | operate (item : Item)
  | run (script : Script)

def Call.items : Call → List Item
  | .operate item => [item]
  | .run script => script

def Call.perform (config : Config) : Call → EStateM Fault Machine (Option Datum)
  | .operate item => Machine.operate config item
  | .run script => Machine.run config script

/-- The machine after a sequence of calls, each on the machine that the one before
has left, also if that one has failed. -/
abbrev afterCalls (config : Config) (calls : List Call) (machine : Machine) : Machine :=
  leftByAll (Call.perform config) calls machine

/-! ## Invariants -/

section Invariants

variable {config : Config} {Allowed : Fault → Prop} {machine : Machine}

theorem endsIn_operate (Holds : Workspace → Prop) {item : Item}
    (limits : ∀ limit, config.maxSteps = some limit → Allowed (.stepLimit limit))
    (step : ∀ workspace, Holds workspace →
      EndsIn Holds Allowed (evaluate config.system item workspace))
    (holds : Holds machine.workspace) :
    EndsIn (Holds ·.workspace) Allowed (operate config item machine) := by
  have evaluated := step machine.workspace holds
  simp only [operate]
  cases reached : machine.limitReached? config with
  | some limit => exact ⟨holds, limits limit (maxSteps_of_limitReached? reached)⟩
  | none =>
      cases ended : evaluate config.system item machine.workspace with
      | ok result next =>
          rw [ended] at evaluated
          exact evaluated
      | error fault next =>
          rw [ended] at evaluated
          exact evaluated

variable {Holds : Machine → Prop}

/-- What holds of the items of a script holds of its run. -/
theorem endsIn_run {script : Script}
    (step : ∀ item ∈ script, ∀ machine, Holds machine →
      EndsIn Holds Allowed (operate config item machine))
    (holds : Holds machine) :
    EndsIn Holds Allowed (run config script machine) := by
  induction script generalizing machine with
  | nil => exact holds
  | cons item rest ih =>
      obtain ⟨itemStep, restSteps⟩ := List.forall_mem_cons.mp step
      have operated := itemStep machine holds
      simp only [run]
      cases ended : operate config item machine with
      | ok top next =>
          rw [ended] at operated
          exact ih restSteps operated
      | error fault next =>
          rw [ended] at operated
          exact operated

theorem endsIn_perform {call : Call}
    (step : ∀ item ∈ call.items, ∀ machine, Holds machine →
      EndsIn Holds Allowed (operate config item machine))
    (holds : Holds machine) :
    EndsIn Holds Allowed (call.perform config machine) := by
  cases call with
  | operate item => exact step item (List.mem_singleton_self item) machine holds
  | run script => exact endsIn_run step holds

/-- An invariant of single items holds after every sequence of calls. -/
theorem holds_afterCalls {calls : List Call}
    (step : ∀ call ∈ calls, ∀ item ∈ call.items, ∀ machine, Holds machine →
      EndsIn Holds Allowed (operate config item machine))
    (holds : Holds machine) :
    Holds (afterCalls config calls machine) := by
  apply holds_leftByAll Holds holds
  intro call member reached holdsThen
  exact (endsIn_perform (step call member) holdsThen).holds

end Invariants

end Machine
end StackScript
