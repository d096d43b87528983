import StackScript.Proofs.ItemEffects
import StackScript.Proofs.MachineCalls

/-!
# Single steps of the calculator

What an item does depends on the conditions only through the question whether all
of them are true, unless it opens, switches or closes a block.  This file reads both off
the moves and turns of items: a plain item works on the stack alone where every open
block is in a branch that is taken and does nothing elsewhere, and the three control
instructions move the two numbers of the conditions.
-/

namespace StackScript

/-- The effect of a routine on the stack where no block is open. -/
def Routine.onStackAlone {α : Type} (routine : Routine α) : Stack.Action Datum α :=
  fun stack => endingIn (·.stack) (routine ⟨stack, Conditions.empty⟩)

/-! ## Plain items -/

namespace Operator

/-- The operator equals none of the three control instructions. -/
def IsPlain (operator : Operator) : Prop :=
  ∀ control, Calculator.isControl control = true →
    operator.same (.instruction control) = false

/-- A plain operator does not stand for a control instruction either. -/
theorem IsPlain.isControl_eq_false {operator : Operator}
    (plain : operator.IsPlain) {instruction : Instruction}
    (standsFor : operator.instruction? = some instruction) :
    Calculator.isControl instruction = false := by
  rw [← Bool.not_eq_true]
  intro control
  have different := plain instruction control
  cases operator with
  | instruction known =>
      cases standsFor
      simp [same] at different
  | command known => cases standsFor
  | foreign object =>
      have equal := List.find?_some standsFor
      rw [same, equal] at different
      cases different
  | record name opcode => cases standsFor

end Operator

theorem Instruction.Acts.turn_eq_none {known : Instruction} {active : Bool}
    {main alt : List Datum} {move : Move} {turn : Turn}
    (acts : known.Acts active main alt move turn)
    (plain : Calculator.isControl known = false) : turn = none := by
  cases acts with
  | openTaken | openHidden | switch | close => cases plain
  | _ => rfl

namespace Item

variable {item : Item} {main alt : List Datum} {move : Move} {turn : Turn}

/-- The item is a datum, or an operator that equals no control instruction. -/
def IsPlain : Item → Prop
  | .operator held => held.IsPlain
  | .datum _ => True

/-- A plain item leaves the conditions alone. -/
theorem Acts.turn_eq_none {active : Bool} (acts : item.Acts active main alt move turn)
    (plain : item.IsPlain) : turn = none := by
  cases acts with
  | instruction standsFor acts =>
      exact acts.turn_eq_none (Operator.IsPlain.isControl_eq_false plain standsFor)
  | _ => rfl

/-- Where a branch is not taken, a plain item leaves the stack alone as well. -/
theorem Acts.move_eq_stay (acts : item.Acts false main alt move turn) :
    move = .stay main alt := by
  cases acts with
  | instruction standsFor acts => cases acts <;> rfl
  | _ => rfl

end Item

namespace Calculator

open Routine Machine

theorem endingIn_perform_of_acts {item : Item} {main alt : List Datum} {move : Move}
    {conditions : Conditions} {active : Bool} (acts : item.Acts active main alt move none)
    (activeEq : conditions.allTrue = active) (capacity : Option Int) :
    evaluate system item ⟨⟨capacity, main, alt⟩, conditions⟩ =
      endingIn (⟨·, conditions⟩) (move.perform ⟨capacity, main, alt⟩) := by
  subst activeEq
  rw [acts.evaluate, moveAndTurn_none, onStack_eq_endingIn]

theorem evaluate_active {item : Item} (plain : item.IsPlain)
    (stack : Stack Datum) {conditions : Conditions}
    (allTrue : conditions.allTrue = true) :
    evaluate system item ⟨stack, conditions⟩ =
      endingIn (⟨·, conditions⟩) ((evaluate system item).onStackAlone stack) := by
  obtain ⟨capacity, main, alt⟩ := stack
  obtain ⟨move, turn, acts⟩ := item.exists_acts true main alt
  obtain rfl := acts.turn_eq_none plain
  have alone : (evaluate system item).onStackAlone ⟨capacity, main, alt⟩ =
      move.perform ⟨capacity, main, alt⟩ := by
    rw [onStackAlone, endingIn_perform_of_acts acts rfl]
    cases move.perform ⟨capacity, main, alt⟩ <;> rfl
  rw [alone, endingIn_perform_of_acts acts allTrue]

theorem evaluate_inactive {item : Item} (plain : item.IsPlain)
    {workspace : Workspace}
    (hasFalse : workspace.conditions.allTrue = false) :
    evaluate system item workspace = .ok () workspace := by
  obtain ⟨⟨capacity, main, alt⟩, conditions⟩ := workspace
  obtain ⟨move, turn, acts⟩ := item.exists_acts false main alt
  obtain rfl := acts.turn_eq_none plain
  rw [endingIn_perform_of_acts acts hasFalse, acts.move_eq_stay]
  rfl

/-! ## Control instructions -/

/-- The conditions of a block opened where all conditions are true: those around
it and its own. -/
def opened (depth : Nat) (taken : Bool) : Conditions :=
  ⟨depth + 1, if taken then Conditions.noFalse else depth⟩

theorem onConditions_of_ok {action : Conditions.Action} {conditions next : Conditions}
    (changed : action conditions = .ok () next) (stack : Stack Datum) :
    onConditions action ⟨stack, conditions⟩ = .ok () ⟨stack, next⟩ := by
  simp only [onConditions, changed]

section Opened

variable {capacity : Option Int} {alt : List Datum} {depth : Nat}

theorem evaluate_ifTrue_nil :
    evaluate system (.instruction .ifTrue)
        ⟨⟨capacity, [], alt⟩, ⟨depth, Conditions.noFalse⟩⟩ =
      .error .emptyStack ⟨⟨capacity, [], alt⟩, ⟨depth, Conditions.noFalse⟩⟩ := by
  have acts : Instruction.ifTrue.Acts true [] alt (.fail .emptyStack []) none :=
    .lack Nat.zero_lt_one
  exact acts.evaluate rfl capacity

theorem evaluate_ifTrue_cons (room : depth < Conditions.noFalse) (condition : Datum)
    (below : List Datum) :
    evaluate system (.instruction .ifTrue)
        ⟨⟨capacity, condition :: below, alt⟩, ⟨depth, Conditions.noFalse⟩⟩ =
      .ok () ⟨⟨capacity, below, alt⟩, opened depth condition.isTruthy⟩ := by
  have acts := Instruction.Acts.openTaken condition below alt
  have pushed : Conditions.push condition.isTruthy ⟨depth, Conditions.noFalse⟩ =
      .ok () (opened depth condition.isTruthy) := by
    rw [Conditions.push_of_lt room]
    cases condition.isTruthy <;> rfl
  exact (acts.evaluate rfl capacity).trans (onConditions_of_ok pushed _)

theorem evaluate_orElse_opened (stack : Stack Datum)
    (room : depth < Conditions.noFalse) (taken : Bool) :
    evaluate system (.instruction .orElse) ⟨stack, opened depth taken⟩ =
      .ok () ⟨stack, opened depth !taken⟩ := by
  apply onConditions_of_ok
  rw [opened, Conditions.toggleTop_succ]
  cases taken with
  | false =>
      have hasFalse : depth ≠ Conditions.noFalse := Nat.ne_of_lt room
      simp [opened, hasFalse]
  | true => rfl

theorem evaluate_endIf_opened (stack : Stack Datum) (taken : Bool) :
    evaluate system (.instruction .endIf) ⟨stack, opened depth taken⟩ =
      .ok () ⟨stack, ⟨depth, Conditions.noFalse⟩⟩ := by
  apply onConditions_of_ok
  rw [opened, Conditions.pop_succ]
  cases taken <;> simp

end Opened

section Hidden

variable (stack : Stack Datum) {depth firstFalse : Nat}

/-- A position below a depth that can be counted is no sentinel. -/
theorem allTrue_eq_false_of_lt (hidden : firstFalse < depth)
    (shallow : depth ≤ Conditions.noFalse) :
    (Conditions.mk depth firstFalse).allTrue = false := by
  rw [Conditions.allTrue, beq_eq_false_iff_ne]
  exact Nat.ne_of_lt (Nat.lt_of_lt_of_le hidden shallow)

theorem evaluate_ifTrue_hidden (hidden : firstFalse < depth)
    (room : depth < Conditions.noFalse) :
    evaluate system (.instruction .ifTrue) ⟨stack, ⟨depth, firstFalse⟩⟩ =
      .ok () ⟨stack, ⟨depth + 1, firstFalse⟩⟩ := by
  have hasFalse := allTrue_eq_false_of_lt hidden (Nat.le_of_lt room)
  have acts := Instruction.Acts.openHidden stack.main stack.alt
  have pushed : Conditions.push false ⟨depth, firstFalse⟩ =
      .ok () ⟨depth + 1, firstFalse⟩ := by
    rw [Conditions.push_of_lt room, hasFalse]
    rfl
  exact (acts.evaluate hasFalse stack.capacity).trans (onConditions_of_ok pushed stack)

theorem evaluate_orElse_hidden (hidden : firstFalse < depth)
    (shallow : depth + 1 ≤ Conditions.noFalse) :
    evaluate system (.instruction .orElse) ⟨stack, ⟨depth + 1, firstFalse⟩⟩ =
      .ok () ⟨stack, ⟨depth + 1, firstFalse⟩⟩ := by
  apply onConditions_of_ok
  rw [Conditions.toggleTop_succ, if_neg (by omega), if_neg (Nat.ne_of_lt hidden)]

theorem evaluate_endIf_hidden (hidden : firstFalse < depth) :
    evaluate system (.instruction .endIf) ⟨stack, ⟨depth + 1, firstFalse⟩⟩ =
      .ok () ⟨stack, ⟨depth, firstFalse⟩⟩ := by
  apply onConditions_of_ok
  rw [Conditions.pop_succ, if_neg (Nat.ne_of_lt hidden)]

end Hidden

/-- The calculator without a step limit. -/
abbrev unlimited : Config := { system := system }

end Calculator
end StackScript
