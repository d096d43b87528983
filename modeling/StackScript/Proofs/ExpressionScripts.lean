import StackScript.Proofs.Execution

/-!
# Expressions as scripts

An expression is a tree of operations on script values.  Written as a script it
comes behind its operands, and the second operand comes before the first, because
an operation takes the topmost value for its first operand.

This file proves that such a script computes the expression, also where a
subtraction does not commute and where an operand has no value.  A script that fails
does so with the fault of the operand that is evaluated first.
-/

namespace StackScript

/-- An operation on two script values that the calculator has an instruction for. -/
inductive Operation where
  | add
  | mul
  | sub
  | equal

namespace Operation

def instruction : Operation → Instruction
  | .add => .add
  | .mul => .mul
  | .sub => .sub
  | .equal => .equal

/-- The result of the operation on script values. -/
def apply : Operation → Value → Value → Except Fault Value
  | .add, first, second => first.add second
  | .mul, first, second => first.mul second
  | .sub, first, second => first.sub second
  | .equal, first, second => .ok (.boolean (first.same second))

end Operation

inductive Expression where
  | literal (held : Value)
  | negation (operand : Expression)
  | binary (operation : Operation) (first second : Expression)

namespace Expression

open Calculator Machine

/-- The script that leaves the value of the expression on the stack. -/
def compile : Expression → Script
  | .literal held => [.value held]
  | .negation operand => operand.compile ++ [.instruction .not]
  | .binary operation first second =>
    second.compile ++ first.compile ++ [.instruction operation.instruction]

/-- The value of the expression, or the first fault that comes up if the second
operand of every operation is evaluated before the first. -/
def eval : Expression → Except Fault Value
  | .literal held => .ok held
  | .negation operand => do
    let value ← operand.eval
    value.neg
  | .binary operation first second => do
    let secondValue ← second.eval
    let firstValue ← first.eval
    operation.apply firstValue secondValue

section Scripts

variable (alt : List Datum) (conditions : Conditions)

/-- On the given stack the script leaves the value on top of what lies below, or it
fails with the fault above that.  The values set aside and the conditions stay. -/
def Gives (script : Script) (main below : List Datum) :
    Except Fault Value → Prop
  | .ok value => ∀ steps,
    run unlimited script ⟨⟨⟨none, main, alt⟩, conditions⟩, steps⟩ =
      .ok (some (.value value))
        ⟨⟨⟨none, .value value :: below, alt⟩, conditions⟩,
          steps + script.length⟩
  | .error fault => ∀ steps, ∃ pending stepsThen,
    run unlimited script ⟨⟨⟨none, main, alt⟩, conditions⟩, steps⟩ =
      .error fault ⟨⟨⟨none, pending ++ below, alt⟩, conditions⟩, stepsThen⟩

variable {alt conditions}

/-- What comes second may still use values above those that lie below in the end. -/
theorem Gives.append {script suffix : Script} {main below : List Datum}
    (extra : List Datum) {outcome : Except Fault Value}
    {next : Value → Except Fault Value}
    (first : Gives alt conditions script main (extra ++ below) outcome)
    (second : ∀ value, Gives alt conditions suffix
      (.value value :: (extra ++ below)) below (next value)) :
    Gives alt conditions (script ++ suffix) main below (outcome >>= next) := by
  cases outcome with
  | error fault =>
      intro steps
      obtain ⟨pending, stepsThen, failed⟩ := first steps
      refine ⟨pending ++ extra, stepsThen, ?_⟩
      rw [run_append, failed, List.append_assoc]
  | ok value =>
      have continued := second value
      change Gives alt conditions (script ++ suffix) main below (next value)
      cases nextOutcome : next value with
      | ok result =>
          rw [nextOutcome] at continued
          intro steps
          rw [run_append, first steps]
          dsimp only
          rw [continued, List.length_append, Nat.add_assoc]
      | error fault =>
          rw [nextOutcome] at continued
          intro steps
          obtain ⟨pending, stepsThen, failed⟩ := continued (steps + script.length)
          refine ⟨pending, stepsThen, ?_⟩
          rw [run_append, first steps]
          exact failed

variable (active : conditions.allTrue = true)

include active

theorem gives_value (held : Value) (main : List Datum) :
    Gives alt conditions [.value held] main main (.ok held) := by
  intro steps
  have evaluated : evaluate system (.value held)
      ⟨⟨none, main, alt⟩, conditions⟩ =
        .ok () ⟨⟨none, .value held :: main, alt⟩, conditions⟩ :=
    Routine.ifActive_of_allTrue _ _ active
  exact run_cons_of_ok [] steps evaluated

/-- An instruction that computes a result from its operands gives that result. -/
theorem gives_instruction {known : Instruction} {taken : List Datum}
    {outcome : Except Fault Value}
    (computes : known.Computes taken (outcome.map .value)) (below : List Datum) :
    Gives alt conditions [.instruction known] (taken ++ below) below outcome := by
  have evaluated :=
    (Instruction.Acts.compute computes below alt).evaluate active none
  cases outcome with
  | ok result =>
      intro steps
      exact run_cons_of_ok [] steps evaluated
  | error fault =>
      intro steps
      exact ⟨[], _, run_cons_of_error [] steps evaluated⟩

theorem gives_negation (operand : Value) (main : List Datum) :
    Gives alt conditions [.instruction .not] (.value operand :: main) main
      operand.neg :=
  gives_instruction active (.not (.value operand)) main

theorem gives_operation (operation : Operation) (first second : Value)
    (main : List Datum) :
    Gives alt conditions [.instruction operation.instruction]
      (.value first :: .value second :: main) main
      (operation.apply first second) := by
  have computes : operation.instruction.Computes [.value first, .value second]
      ((operation.apply first second).map .value) := by
    cases operation with
    | add => exact .add (.value first) (.value second)
    | mul => exact .mul (.value first) (.value second)
    | sub => exact .sub (.value first) (.value second)
    | equal => exact .equal (.value first) (.value second)
  exact gives_instruction active computes main

/-- The script of an expression gives its value wherever it runs. -/
theorem gives_eval (expression : Expression) (main : List Datum) :
    Gives alt conditions expression.compile main main expression.eval := by
  induction expression generalizing main with
  | literal held => exact gives_value active held main
  | negation operand ih =>
      apply Gives.append [] (ih main)
      intro value
      exact gives_negation active value main
  | binary operation first second firstIH secondIH =>
      rw [compile, List.append_assoc]
      apply Gives.append [] (secondIH main)
      intro secondValue
      -- The value of the second operand waits below that of the first.
      apply Gives.append [.value secondValue] (firstIH (.value secondValue :: main))
      intro firstValue
      exact gives_operation active operation firstValue secondValue main

end Scripts

/-- A machine without limits computes an expression from its script, provided that all
conditions are true.  The value comes on top of the stack and nothing else changes;
if there is none, the machine fails with the first fault of the evaluation, and what
was on the stack before is still there. -/
theorem run_compile_eq_eval (expression : Expression) (machine : Machine)
    (active : machine.workspace.conditions.allTrue = true)
    (uncapped : machine.workspace.stack.capacity = none) :
    (∀ value, expression.eval = .ok value →
      run unlimited expression.compile machine =
        .ok (some (.value value))
          ⟨⟨{ machine.workspace.stack with
                main := .value value :: machine.workspace.stack.main },
              machine.workspace.conditions⟩,
            machine.steps + expression.compile.length⟩) ∧
    (∀ fault, expression.eval = .error fault →
      ∃ failed, run unlimited expression.compile machine = .error fault failed ∧
        machine.workspace.stack.main <:+ failed.workspace.stack.main ∧
        failed.workspace.stack.alt = machine.workspace.stack.alt ∧
        failed.workspace.conditions = machine.workspace.conditions) := by
  obtain ⟨⟨⟨capacity, main, alt⟩, conditions⟩, steps⟩ := machine
  dsimp only at active uncapped
  subst uncapped
  have gives : Gives alt conditions expression.compile main main expression.eval :=
    gives_eval active expression main
  constructor
  · intro value evaluated
    rw [evaluated] at gives
    exact gives steps
  · intro fault evaluated
    rw [evaluated] at gives
    obtain ⟨pending, stepsThen, failed⟩ := gives steps
    exact ⟨_, failed, List.suffix_append pending main, rfl, rfl⟩

/-- Inside an open block `5 - 2 * 2` equals one.  Of two operands without a value the
second decides the fault: the lowest integer cannot be subtracted, because it has no
negation, and it is not asked whether a text has one. -/
theorem run_compile_eq_eval_difference :
    let integer (number : Int128) : Expression := .literal (.integer number)
    let one : Int128 := ⟨1, by decide, by decide⟩
    let two : Int128 := ⟨2, by decide, by decide⟩
    let five : Int128 := ⟨5, by decide, by decide⟩
    let lowest : Int128 := ⟨-2 ^ 127, by decide, by decide⟩
    let machine : Machine :=
      ⟨⟨⟨none, [.value (.string [0x61])], [.value (.boolean false)]⟩,
        ⟨1, Conditions.noFalse⟩⟩, 4⟩
    let difference : Expression :=
      .binary .equal
        (.binary .sub (integer five) (.binary .mul (integer two) (integer two)))
        (integer one)
    let undefined : Expression :=
      .binary .add (.negation (.literal (.string [0x62])))
        (.binary .sub (integer five) (integer lowest))
    machine.workspace.conditions.allTrue = true ∧
      machine.workspace.stack.capacity = none ∧
      difference.eval = .ok (.boolean true) ∧
      run unlimited difference.compile machine =
        .ok (some (.value (.boolean true)))
          ⟨⟨⟨none, [.value (.boolean true), .value (.string [0x61])],
              [.value (.boolean false)]⟩, ⟨1, Conditions.noFalse⟩⟩, 11⟩ ∧
      undefined.eval = .error (.integerRange (2 ^ 127)) ∧
      ∃ failed, run unlimited undefined.compile machine =
          .error (.integerRange (2 ^ 127)) failed ∧
        [.value (.string [0x61])] <:+ failed.workspace.stack.main := by
  intro integer one two five lowest machine difference undefined
  have evaluated : difference.eval = .ok (.boolean true) := rfl
  have refused : undefined.eval = .error (.integerRange (2 ^ 127)) := rfl
  obtain ⟨failed, ended, kept, _⟩ :=
    (run_compile_eq_eval undefined machine rfl rfl).2 _ refused
  exact ⟨rfl, rfl, evaluated,
    (run_compile_eq_eval difference machine rfl rfl).1 _ evaluated, refused, failed,
    ended, kept⟩

end Expression
end StackScript
