import StackScript.Proofs.Execution

/-!
# Structured programs

A script is flat: that a block is open is something only the conditions of a
machine know.  A structured program has its blocks as subtrees.  Its evaluator
works on the stack alone, takes the condition of a block off the stack and then
evaluates every other branch, starting with the first or the second.

This file writes structured programs as scripts and proves that a machine runs
such a script exactly as the evaluator evaluates the program, wherever it starts
with all conditions true.  The conditions return to what they were, however the
blocks are nested, and a fault in the midst of the program is the same fault on
the same stack.
-/

namespace StackScript

namespace Structured

open Calculator Machine

/-- An item that does not open, switch or close a block. -/
abbrev PlainItem := { item : Item // item.IsPlain }

mutual

/-- A list of nodes, each of them a plain item or a block. -/
inductive Program where
  | done
  | plain (item : PlainItem) (rest : Program)
  | block (branches : Branches) (rest : Program)

/-- The branches of a block, at least one. -/
inductive Branches where
  | last (branch : Program)
  | more (branch : Program) (others : Branches)

end

mutual

/-- A program as a script. -/
def Program.flatten : Program → Script
  | .done => []
  | .plain item rest => item.val :: rest.flatten
  | .block branches rest =>
    .instruction .ifTrue :: (branches.flatten ++ rest.flatten)

/-- The branches of a block behind its start, up to and with its end. -/
def Branches.flatten : Branches → Script
  | .last branch => branch.flatten ++ [.instruction .endIf]
  | .more branch others =>
    branch.flatten ++ .instruction .orElse :: others.flatten

end

mutual

/-- The greatest number of blocks around a node. -/
def Program.nesting : Program → Nat
  | .done => 0
  | .plain _ rest => rest.nesting
  | .block branches rest => max (branches.nesting + 1) rest.nesting

/-- The greatest number of blocks around a node inside the branches. -/
def Branches.nesting : Branches → Nat
  | .last branch => branch.nesting
  | .more branch others => max branch.nesting others.nesting

end

/-- What a plain item does to the stack in a branch that is taken. -/
def act (item : PlainItem) : Stack.Action Datum Unit :=
  Routine.onStackAlone (evaluate system item.val)

/-- The meaning of a branch, which is nothing if it is not taken. -/
def ifTaken (taken : Bool) (branch : Stack.Action Datum Unit) :
    Stack.Action Datum Unit :=
  if taken then branch else pure ()

mutual

/-- The meaning of a program, on the stack alone. -/
def Program.eval : Program → Stack.Action Datum Unit
  | .done => pure ()
  | .plain item rest => do
    act item
    rest.eval
  | .block branches rest => do
    let condition ← Stack.pop
    branches.eval condition.isTruthy
    rest.eval

/-- The meaning of the branches of a block: every other one is evaluated,
starting with the first if that is taken. -/
def Branches.eval : Branches → (taken : Bool) → Stack.Action Datum Unit
  | .last branch, taken => ifTaken taken branch.eval
  | .more branch others, taken => do
    ifTaken taken branch.eval
    others.eval !taken

end

/-! ## Branches that are not taken -/

mutual

/-- Inside a branch that is not taken a program changes nothing. -/
theorem Program.run_hidden (program : Program) (stack : Stack Datum)
    {depth firstFalse : Nat} (hidden : firstFalse < depth)
    (shallow : depth + program.nesting ≤ Conditions.noFalse)
    (suffix : Script) (steps : Nat) :
    run unlimited (program.flatten ++ suffix)
        ⟨⟨stack, ⟨depth, firstFalse⟩⟩, steps⟩ =
      run unlimited suffix
        ⟨⟨stack, ⟨depth, firstFalse⟩⟩, steps + program.flatten.length⟩ := by
  cases program with
  | done => rfl
  | plain item rest =>
      rw [Program.nesting] at shallow
      have inactive : evaluate system item.val
          ⟨stack, ⟨depth, firstFalse⟩⟩ = .ok () ⟨stack, ⟨depth, firstFalse⟩⟩ :=
        evaluate_inactive item.property
          (allTrue_eq_false_of_lt hidden (by omega))
      rw [Program.flatten, List.cons_append, run_cons_of_ok _ _ inactive,
        rest.run_hidden stack hidden shallow, List.length_cons]
      congr 2
      omega
  | block branches rest =>
      rw [Program.nesting] at shallow
      have entered := evaluate_ifTrue_hidden stack hidden (by omega)
      rw [Program.flatten, List.cons_append, List.append_assoc,
        run_cons_of_ok _ _ entered,
        branches.run_hidden stack hidden (by omega),
        rest.run_hidden stack hidden (by omega), List.length_cons,
        List.length_append]
      congr 2
      omega

theorem Branches.run_hidden (branches : Branches) (stack : Stack Datum)
    {depth firstFalse : Nat} (hidden : firstFalse < depth)
    (shallow : depth + 1 + branches.nesting ≤ Conditions.noFalse)
    (suffix : Script) (steps : Nat) :
    run unlimited (branches.flatten ++ suffix)
        ⟨⟨stack, ⟨depth + 1, firstFalse⟩⟩, steps⟩ =
      run unlimited suffix
        ⟨⟨stack, ⟨depth, firstFalse⟩⟩, steps + branches.flatten.length⟩ := by
  have hiddenInside : firstFalse < depth + 1 := Nat.lt_succ_of_lt hidden
  cases branches with
  | last branch =>
      rw [Branches.nesting] at shallow
      rw [Branches.flatten, List.append_assoc,
        branch.run_hidden stack hiddenInside shallow, List.singleton_append,
        run_cons_of_ok _ _ (evaluate_endIf_hidden stack hidden),
        List.length_append, List.length_singleton]
      rfl
  | more branch others =>
      rw [Branches.nesting] at shallow
      have switched := evaluate_orElse_hidden stack hidden (by omega)
      rw [Branches.flatten, List.append_assoc,
        branch.run_hidden stack hiddenInside (by omega), List.cons_append,
        run_cons_of_ok _ _ switched,
        others.run_hidden stack hidden (by omega), List.length_append,
        List.length_cons]
      congr 2
      omega

end

/-! ## Branches that are taken -/

/-- A run of a machine ends as an evaluation on the stack alone does: with the
same stack, next to the given conditions and after the given number of steps, or
with the same fault on the same stack. -/
def EndsAs (conditions : Conditions) (steps : Nat) :
    EStateM.Result Fault (Stack Datum) Unit →
      EStateM.Result Fault Machine (Option Datum) → Prop
  | .ok () stack, ended =>
    ended = .ok stack.top? ⟨⟨stack, conditions⟩, steps⟩
  | .error fault stack, ended =>
    ∃ failed, ended = .error fault failed ∧ failed.workspace.stack = stack

/-- One evaluation after the other goes with one script after the other. -/
theorem EndsAs.append {first second : Stack.Action Datum Unit}
    {stack : Stack Datum} {start : Machine} {script suffix : Script}
    {between after : Conditions} {stepsBetween stepsAfter : Nat}
    (firstEnds : EndsAs between stepsBetween (first stack)
      (run unlimited script start))
    (secondEnds : ∀ reached, EndsAs after stepsAfter (second reached)
      (run unlimited suffix ⟨⟨reached, between⟩, stepsBetween⟩)) :
    EndsAs after stepsAfter ((first >>= fun _ => second) stack)
      (run unlimited (script ++ suffix) start) := by
  rw [run_append]
  simp only [Bind.bind, EStateM.bind]
  cases evaluated : first stack with
  | ok result reached =>
      rw [evaluated] at firstEnds
      rw [firstEnds]
      exact secondEnds reached
  | error fault reached =>
      rw [evaluated] at firstEnds
      obtain ⟨failed, ended, stackEq⟩ := firstEnds
      rw [ended]
      exact ⟨failed, rfl, stackEq⟩

/-- A script that only changes the conditions adds nothing to an evaluation. -/
theorem EndsAs.append_control
    {evaluation : EStateM.Result Fault (Stack Datum) Unit}
    {start : Machine} {script suffix : Script}
    {between after : Conditions} {stepsBetween stepsAfter : Nat}
    (ends : EndsAs between stepsBetween evaluation
      (run unlimited script start))
    (control : ∀ reached : Stack Datum,
      run unlimited suffix ⟨⟨reached, between⟩, stepsBetween⟩ =
        .ok reached.top? ⟨⟨reached, after⟩, stepsAfter⟩) :
    EndsAs after stepsAfter evaluation
      (run unlimited (script ++ suffix) start) := by
  rw [run_append]
  cases evaluation with
  | ok result reached =>
      rw [ends]
      exact control reached
  | error fault reached =>
      obtain ⟨failed, ended, stackEq⟩ := ends
      rw [ended]
      exact ⟨failed, rfl, stackEq⟩

/-- A plain item alone. -/
theorem endsAs_act (item : PlainItem) (stack : Stack Datum)
    (depth steps : Nat) :
    EndsAs ⟨depth, Conditions.noFalse⟩ (steps + 1) (act item stack)
      (run unlimited [item.val]
        ⟨⟨stack, ⟨depth, Conditions.noFalse⟩⟩, steps⟩) := by
  have evaluated : evaluate system item.val
      ⟨stack, ⟨depth, Conditions.noFalse⟩⟩ =
        endingIn (⟨·, ⟨depth, Conditions.noFalse⟩⟩) (act item stack) :=
    evaluate_active item.property stack rfl
  cases acted : act item stack with
  | ok result reached =>
      rw [acted] at evaluated
      exact run_cons_of_ok [] steps evaluated
  | error fault reached =>
      rw [acted] at evaluated
      exact ⟨_, run_cons_of_error [] steps evaluated, rfl⟩

/-- A branch of a block that has been opened where all conditions are true: it is
evaluated if it is taken and hidden otherwise. -/
theorem endsAs_branch {branch : Program} {stack : Stack Datum}
    {depth steps : Nat}
    (shallow : depth + 1 + branch.nesting ≤ Conditions.noFalse)
    (whenTaken : EndsAs (opened depth true) (steps + branch.flatten.length)
      (branch.eval stack)
      (run unlimited branch.flatten ⟨⟨stack, opened depth true⟩, steps⟩))
    (taken : Bool) :
    EndsAs (opened depth taken) (steps + branch.flatten.length)
      (ifTaken taken branch.eval stack)
      (run unlimited branch.flatten
        ⟨⟨stack, opened depth taken⟩, steps⟩) := by
  cases taken with
  | false =>
      have skipped := branch.run_hidden stack (Nat.lt_succ_self depth) shallow
        [] steps
      rw [List.append_nil] at skipped
      exact skipped
  | true => exact whenTaken

mutual

/-- Where all conditions are true a program runs as it is evaluated. -/
theorem Program.endsAs_eval (program : Program) (stack : Stack Datum)
    {depth : Nat}
    (shallow : depth + program.nesting ≤ Conditions.noFalse) (steps : Nat) :
    EndsAs ⟨depth, Conditions.noFalse⟩ (steps + program.flatten.length)
      (program.eval stack)
      (run unlimited program.flatten
        ⟨⟨stack, ⟨depth, Conditions.noFalse⟩⟩, steps⟩) := by
  cases program with
  | done => rfl
  | plain item rest =>
      rw [Program.nesting] at shallow
      rw [Program.flatten, Program.eval, List.length_cons,
        Nat.add_comm rest.flatten.length, ← Nat.add_assoc]
      exact (endsAs_act item stack depth steps).append fun reached =>
        rest.endsAs_eval reached shallow (steps + 1)
  | block branches rest =>
      rw [Program.nesting] at shallow
      rw [Program.flatten, Program.eval]
      obtain ⟨capacity, main, alt⟩ := stack
      cases main with
      | nil => exact ⟨_, run_cons_of_error _ steps evaluate_ifTrue_nil, rfl⟩
      | cons condition below =>
          have room : depth < Conditions.noFalse := by omega
          have stepsEq :
              steps + (Item.instruction .ifTrue ::
                (branches.flatten ++ rest.flatten)).length =
              steps + 1 + branches.flatten.length + rest.flatten.length := by
            rw [List.length_cons, List.length_append]
            omega
          rw [run_cons_of_ok _ _ (evaluate_ifTrue_cons room condition below), stepsEq]
          -- The condition is off the stack on both sides.
          change EndsAs _ _
            ((branches.eval condition.isTruthy >>= fun _ => rest.eval)
              ⟨capacity, below, alt⟩) _
          exact (branches.endsAs_eval _ (by omega) (steps + 1)
            condition.isTruthy).append fun reached =>
              rest.endsAs_eval reached (by omega) _

/-- The branches of an open block run as they are evaluated and close it. -/
theorem Branches.endsAs_eval (branches : Branches) (stack : Stack Datum)
    {depth : Nat}
    (shallow : depth + 1 + branches.nesting ≤ Conditions.noFalse)
    (steps : Nat) (taken : Bool) :
    EndsAs ⟨depth, Conditions.noFalse⟩ (steps + branches.flatten.length)
      (branches.eval taken stack)
      (run unlimited branches.flatten
        ⟨⟨stack, opened depth taken⟩, steps⟩) := by
  have room : depth < Conditions.noFalse := by omega
  cases branches with
  | last branch =>
      rw [Branches.nesting] at shallow
      rw [Branches.flatten, Branches.eval, List.length_append,
        ← Nat.add_assoc]
      apply (endsAs_branch shallow
        (branch.endsAs_eval stack shallow steps) taken).append_control
      intro reached
      exact run_cons_of_ok [] _ (evaluate_endIf_opened reached taken)
  | more branch others =>
      rw [Branches.nesting] at shallow
      have branchShallow : depth + 1 + branch.nesting ≤ Conditions.noFalse := by
        omega
      rw [Branches.flatten, Branches.eval, List.length_append,
        List.length_cons, Nat.add_comm others.flatten.length,
        ← Nat.add_assoc, ← Nat.add_assoc]
      apply (endsAs_branch branchShallow
        (branch.endsAs_eval stack branchShallow steps) taken).append
      intro reached
      rw [run_cons_of_ok _ _ (evaluate_orElse_opened reached room taken)]
      exact others.endsAs_eval reached (by omega) _ (!taken)

end

/-- A machine without a step limit runs the script of a structured program as
the program is evaluated on the stack alone, provided that all conditions are true
at the start and the blocks can be counted. -/
theorem run_flatten_eq_eval (program : Program) (machine : Machine)
    (active : machine.workspace.conditions.allTrue = true)
    (shallow : machine.workspace.conditions.depth + program.nesting ≤
      Conditions.noFalse) :
    ((∃ top reached, run unlimited program.flatten machine =
          .ok top reached) ↔
        ∃ stack, program.eval machine.workspace.stack = .ok () stack) ∧
      (∀ stack, program.eval machine.workspace.stack = .ok () stack →
        run unlimited program.flatten machine =
          .ok stack.top? ⟨⟨stack, machine.workspace.conditions⟩,
            machine.steps + program.flatten.length⟩) ∧
      (∀ fault stack,
        program.eval machine.workspace.stack = .error fault stack →
          ∃ failed, run unlimited program.flatten machine =
              .error fault failed ∧
            failed.workspace.stack = stack) := by
  obtain ⟨⟨stack, ⟨depth, firstFalse⟩⟩, steps⟩ := machine
  have noneFalse : firstFalse = Conditions.noFalse := beq_iff_eq.mp active
  subst noneFalse
  have ends := program.endsAs_eval stack shallow steps
  cases evaluated : program.eval stack with
  | ok result reached =>
      rw [evaluated] at ends
      refine ⟨⟨fun _ => ⟨reached, rfl⟩, fun _ => ⟨_, _, ends⟩⟩, ?_, ?_⟩
      · intro stack' sameResult
        cases sameResult
        exact ends
      · intro fault stack' differentResult
        cases differentResult
  | error fault reached =>
      rw [evaluated] at ends
      obtain ⟨failed, ended, stackEq⟩ := ends
      refine ⟨⟨?_, ?_⟩, ?_, ?_⟩
      · rintro ⟨top, final, succeeded⟩
        rw [ended] at succeeded
        cases succeeded
      · rintro ⟨stack', differentResult⟩
        cases differentResult
      · intro stack' differentResult
        cases differentResult
      · intro fault' stack' sameResult
        cases sameResult
        exact ⟨failed, ended, stackEq⟩

/-- Inside a true branch a false condition passes over a block that has one of its
own and takes the second branch. -/
theorem run_flatten_eq_eval_nested :
    let program : Program :=
      .block (.more (.block (.last .done) .done)
        (.last (.plain ⟨.value (.boolean true), trivial⟩ .done))) .done
    let machine : Machine :=
      ⟨⟨{ main := [.value (.boolean false)] }, ⟨1, Conditions.noFalse⟩⟩, 3⟩
    machine.workspace.conditions.allTrue = true ∧
      machine.workspace.conditions.depth + program.nesting ≤
        Conditions.noFalse ∧
      run unlimited program.flatten machine =
        .ok (some (.value (.boolean true)))
          ⟨⟨{ main := [.value (.boolean true)] },
            ⟨1, Conditions.noFalse⟩⟩, 9⟩ := by
  intro program machine
  have shallow : machine.workspace.conditions.depth + program.nesting ≤
      Conditions.noFalse := by
    decide
  exact ⟨rfl, shallow,
    (run_flatten_eq_eval program machine rfl shallow).2.1 _ rfl⟩

end Structured
end StackScript
