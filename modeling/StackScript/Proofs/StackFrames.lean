import StackScript.Proofs.Execution

/-!
# What lies below is left alone

A script that runs through on some values runs through in the same way on top of
any others, in the main part as well as in the one for values set aside.  No
operator looks at what lies below the values that it takes, moves it or counts it,
whether it succeeds or fails.  Only where a value is missing can those below make
a difference.
-/

namespace StackScript

section Frames

variable (below aside : List Datum)

/-- The stack on top of other values, which are given topmost first. -/
def Stack.onTopOf (stack : Stack Datum) : Stack Datum :=
  { stack with main := stack.main ++ below, alt := stack.alt ++ aside }

def Workspace.onTopOf (workspace : Workspace) : Workspace :=
  { workspace with stack := workspace.stack.onTopOf below aside }

def Machine.onTopOf (machine : Machine) : Machine :=
  { machine with workspace := machine.workspace.onTopOf below aside }

namespace Move

/-- The same move on top of other values. -/
def onTopOf : Move → Move
  | .fail fault rest => .fail fault (rest ++ below)
  | .put rest values alt => .put (rest ++ below) values (alt ++ aside)

/-- The move fails for want of a value. -/
def Underflows : Move → Prop
  | .fail fault _ => fault.label = "StackUnderflowError"
  | .put _ _ _ => False

end Move

section Items

variable {active : Bool} {main alt : List Datum} {move : Move} {turn : Turn}

theorem Instruction.Acts.onTopOf {known : Instruction}
    (acts : known.Acts active main alt move turn) (enough : ¬move.Underflows) :
    known.Acts active (main ++ below) (alt ++ aside) (move.onTopOf below aside) turn := by
  cases acts with
  | skip plain => exact .skip plain
  | @compute _ taken outcome computes rest alt =>
      have moved : (Move.give rest alt outcome).onTopOf below aside =
          .give (rest ++ below) (alt ++ aside) outcome := by
        cases outcome <;> rfl
      rw [moved, List.append_assoc]
      exact .compute computes _ _
  | lack few | toAltOfNone alt | fromAltOfNone main => exact absurd rfl enough
  | dup datum rest alt => exact .dup datum _ _
  | drop datum rest alt => exact .drop datum _ _
  | toAlt datum rest alt => exact .toAlt datum _ _
  | fromAlt datum main rest => exact .fromAlt datum _ _
  | openTaken condition rest alt => exact .openTaken condition _ _
  | openHidden main alt => exact .openHidden _ _
  | switch active main alt => exact .switch active _ _
  | close active main alt => exact .close active _ _

theorem Item.Acts.onTopOf {item : Item} (acts : item.Acts active main alt move turn)
    (enough : ¬move.Underflows) :
    item.Acts active (main ++ below) (alt ++ aside) (move.onTopOf below aside) turn := by
  cases acts with
  | datum held main alt => exact .datum held _ _
  | skippedDatum held main alt => exact .skippedDatum held _ _
  | unsupported unknown main alt => exact .unsupported unknown _ _
  | skippedOperator unknown main alt => exact .skippedOperator unknown _ _
  | instruction standsFor acts =>
      exact .instruction standsFor (acts.onTopOf below aside enough)

end Items

theorem Move.perform_onTopOf (move : Move) (main alt : List Datum) :
    (move.onTopOf below aside).perform (Stack.onTopOf below aside ⟨none, main, alt⟩) =
      endingIn (Stack.onTopOf below aside) (move.perform ⟨none, main, alt⟩) := by
  cases move with
  | fail fault rest => rfl
  | put rest values alt =>
      simp only [onTopOf, Stack.onTopOf, perform_put_uncapped, endingIn,
        List.append_assoc]

theorem Routine.moveAndTurn_onTopOf (move : Move) (turn : Turn) (main alt : List Datum)
    (conditions : Conditions) :
    moveAndTurn (move.onTopOf below aside) turn
        (Workspace.onTopOf below aside ⟨⟨none, main, alt⟩, conditions⟩) =
      endingIn (Workspace.onTopOf below aside)
        (moveAndTurn move turn ⟨⟨none, main, alt⟩, conditions⟩) := by
  have moved := move.perform_onTopOf below aside main alt
  simp only [moveAndTurn, Bind.bind, EStateM.bind, Workspace.onTopOf,
    onStack_eq_endingIn, moved]
  cases move.perform ⟨none, main, alt⟩ with
  | error fault stack => rfl
  | ok result stack =>
      simp only [endingIn, onConditions]
      cases turn.perform conditions <;> rfl

/-- An item that is not short of values does the same on top of others. -/
theorem Calculator.evaluate_onTopOf (item : Item) {workspace : Workspace}
    (uncapped : workspace.stack.capacity = none) :
    (∃ fault after, Machine.evaluate system item workspace = .error fault after ∧
        fault.label = "StackUnderflowError") ∨
      Machine.evaluate system item (workspace.onTopOf below aside) =
        endingIn (Workspace.onTopOf below aside)
          (Machine.evaluate system item workspace) := by
  obtain ⟨⟨_, main, alt⟩, conditions⟩ := workspace
  cases uncapped
  obtain ⟨move, turn, acts⟩ := item.exists_acts conditions.allTrue main alt
  rw [acts.evaluate]
  cases move with
  | fail fault rest =>
      by_cases underflow : fault.label = "StackUnderflowError"
      · exact .inl ⟨fault, _, rfl, underflow⟩
      · right
        rw [← Routine.moveAndTurn_onTopOf]
        exact (acts.onTopOf below aside underflow).evaluate none
  | put rest values left =>
      right
      rw [← Routine.moveAndTurn_onTopOf]
      exact (acts.onTopOf below aside id).evaluate none

open Machine Calculator

/-- A run that is not short of values does the same on top of others. -/
theorem Machine.run_onTopOf (script : Script) {machine : Machine}
    (uncapped : machine.workspace.stack.capacity = none) :
    match run unlimited script machine with
    | .ok _ reached =>
      reached.workspace.stack.capacity = none ∧
        ∃ top, run unlimited script (machine.onTopOf below aside) =
          .ok top (reached.onTopOf below aside)
    | .error fault failed =>
      fault.label = "StackUnderflowError" ∨
        failed.workspace.stack.capacity = none ∧
          run unlimited script (machine.onTopOf below aside) =
            .error fault (failed.onTopOf below aside) := by
  induction script generalizing machine with
  | nil => exact ⟨uncapped, _, rfl⟩
  | cons item rest ih =>
      obtain ⟨workspace, steps⟩ := machine
      have framed := evaluate_onTopOf below aside item uncapped
      have kept := (capacity_evaluate item workspace).trans uncapped
      cases evaluated : evaluate system item workspace with
      | ok result next =>
          rw [evaluated] at framed kept
          rcases framed with ⟨_, _, failed, _⟩ | framed
          · cases failed
          · rw [run_cons_of_ok rest steps evaluated]
            simp only [onTopOf, run_cons_of_ok rest steps framed]
            exact ih kept
      | error fault next =>
          rw [evaluated] at framed kept
          rw [run_cons_of_error rest steps evaluated]
          rcases framed with ⟨_, _, failed, underflow⟩ | framed
          · cases failed
            exact .inl underflow
          · exact .inr ⟨kept, run_cons_of_error rest steps framed⟩

end Frames

namespace Machine

/-- A machine without a capacity that holds the given values, bottom first. -/
def holding (main alt : List Datum) (conditions : Conditions) (steps : Nat) :
    Machine :=
  ⟨⟨{ main := main.reverse, alt := alt.reverse }, conditions⟩, steps⟩

theorem onTopOf_eq_holding {machine : Machine}
    (uncapped : machine.workspace.stack.capacity = none) (below aside : List Datum) :
    machine.onTopOf below.reverse aside.reverse =
      holding (below ++ machine.workspace.stack.mainValues)
        (aside ++ machine.workspace.stack.altValues)
        machine.workspace.conditions machine.steps := by
  obtain ⟨⟨⟨_, main, alt⟩, conditions⟩, steps⟩ := machine
  cases uncapped
  simp [holding, onTopOf, Workspace.onTopOf, Stack.onTopOf, Stack.mainValues,
    Stack.altValues]

/-- A run without a capacity and a step limit that does not run out of values does
the same on top of any other values, and leaves these as they are. -/
theorem run_over_frame (script : Script) (conditions : Conditions) (steps : Nat)
    (main alt below aside : List Datum) :
    let start := holding main alt conditions steps
    let framedStart := holding (below ++ main) (aside ++ alt) conditions steps
    let framed (machine : Machine) : Machine :=
      holding (below ++ machine.workspace.stack.mainValues)
        (aside ++ machine.workspace.stack.altValues)
        machine.workspace.conditions machine.steps
    (∀ top reached, run Calculator.unlimited script start = .ok top reached →
      run Calculator.unlimited script framedStart =
        .ok (framed reached).top? (framed reached)) ∧
    (∀ fault reached,
      run Calculator.unlimited script start = .error fault reached →
        fault.label ≠ "StackUnderflowError" →
          run Calculator.unlimited script framedStart =
            .error fault (framed reached)) := by
  intro start framedStart framed
  have framedEq : start.onTopOf below.reverse aside.reverse = framedStart := by
    rw [onTopOf_eq_holding rfl]
    simp [framedStart, start, holding, Stack.mainValues, Stack.altValues]
  have runs : start.workspace.stack.capacity = none → _ :=
    run_onTopOf below.reverse aside.reverse script
  have runs := runs rfl
  rw [framedEq] at runs
  constructor
  · intro top reached succeeded
    rw [succeeded] at runs
    obtain ⟨uncapped, framedTop, ended⟩ := runs
    rw [ended, top_of_run ended, onTopOf_eq_holding uncapped]
  · intro fault reached failed noUnderflow
    rw [failed] at runs
    rcases runs with underflow | ⟨uncapped, ended⟩
    · exact absurd underflow noUnderflow
    · rw [ended, onTopOf_eq_holding uncapped]

/-- A text is set aside, a truth value doubled and the text taken back, and their
sum fails above a value in each part that is not touched. -/
theorem run_over_frame_failing :
    let below : List Datum := [.value (.boolean true)]
    let aside : List Datum := [.value (.string [0x61])]
    let main : List Datum := [.value (.boolean false), .value (.string [0x62])]
    let script : Script :=
      [.instruction .toAlt, .instruction .dup, .instruction .fromAlt,
        .instruction .add]
    let fault : Fault := .addition (.string [0x62]) (.boolean false)
    let reached := holding [.value (.boolean false)] [] Conditions.empty 4
    run Calculator.unlimited script (holding main [] Conditions.empty 0) =
        .error fault reached ∧
      fault.label ≠ "StackUnderflowError" ∧
      run Calculator.unlimited script
          (holding (below ++ main) aside Conditions.empty 0) =
        .error fault
          (holding (below ++ [.value (.boolean false)]) aside
            Conditions.empty 4) := by
  intro below aside main script fault reached
  have failed : run Calculator.unlimited script
      (holding main [] Conditions.empty 0) = .error fault reached :=
    rfl
  have noUnderflow : fault.label ≠ "StackUnderflowError" := by decide
  exact ⟨failed, noUnderflow,
    (run_over_frame script Conditions.empty 0 main [] below aside).2
      fault reached failed noUnderflow⟩

end Machine
end StackScript
