import StackScript.Machine

/-!
# The calculator

The operator system of the instructions.  Opening, switching and closing blocks
is tracked in every branch; everything else happens only where every open block
is in a branch that is taken.  An operation with two operands takes the topmost
value as the first operand and the one below as the second.
-/

namespace StackScript
namespace Calculator

open Routine

/-- Replaces the two topmost data by the result of an operation on them. -/
def binary (operation : Datum → Datum → Except Fault Datum) :
    Stack.Action Datum Unit := do
  let first ← Stack.pop
  let second ← Stack.pop
  let result ← Stack.yield (operation first second)
  Stack.push result

def unary (operation : Datum → Except Fault Datum) :
    Stack.Action Datum Unit := do
  let operand ← Stack.pop
  let result ← Stack.yield (operation operand)
  Stack.push result

def duplicate : Stack.Action Datum Unit := do
  let datum ← Stack.pop
  Stack.push datum
  Stack.push datum

def discard : Stack.Action Datum Unit := do
  let _ ← Stack.pop
  pure ()

/-- Opens a block whose condition is the topmost datum.  A block inside a branch
that is not taken has no condition of its own. -/
def openBlock : Routine Unit :=
  ifActive
    (do
      let condition ← onStack Stack.pop
      onConditions (Conditions.push condition.isTruthy))
    (onConditions (Conditions.push false))

def equality (first second : Datum) : Except Fault Datum :=
  .ok (.value (.boolean (first.same second)))

/-- The meaning of an instruction where every open block is in a branch that is
taken. -/
def compute : Instruction → Routine Unit
  | .add => onStack (binary Datum.add)
  | .equal => onStack (binary equality)
  | .mul => onStack (binary Datum.mul)
  | .not => onStack (unary Datum.neg)
  | .sub => onStack (binary Datum.sub)
  | .ifTrue => openBlock
  | .orElse => onConditions Conditions.toggleTop
  | .endIf => onConditions Conditions.pop
  | .toAlt => onStack Stack.popIntoAlt
  | .fromAlt => onStack Stack.pushFromAlt
  | .dup => onStack duplicate
  | .drop => onStack discard

/-- Whether an instruction only opens, switches or closes a block. -/
def isControl : Instruction → Bool
  | .ifTrue | .orElse | .endIf => true
  | _ => false

def system : OperatorSystem := fun operator =>
  match operator.instruction? with
  | some instruction =>
    if isControl instruction then compute instruction
    else ifActive (compute instruction) (pure ())
  | none => ifActive (throw (.unsupported operator)) (pure ())

end Calculator
end StackScript
