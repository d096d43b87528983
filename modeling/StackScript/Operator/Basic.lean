import StackScript.Foreign.Basic
import StackScript.Operator.Command
import StackScript.Operator.Instruction

/-!
# Operators

What a script may ask a machine to do: an instruction of the calculator, a
command to a creature, or an operator that the caller brings along, either a
foreign object or a named record that carries an opcode.
-/

namespace StackScript

/-- An operator of a script. -/
inductive Operator where
  | instruction (known : Instruction)
  | command (known : Command)
  | foreign (object : Foreign)
  | record (name : String) (opcode : Foreign)

namespace Operator

def render : Operator → String
  | .instruction known => known.render
  | .command known => known.render
  | .foreign object => object.render
  | .record name _ => name

/-- Whether an operator cannot be shown.  A record shows its name only. -/
def showsLongInteger : Operator → Bool
  | .foreign object => object.showsLongInteger
  | _ => false

/-- The instruction that an operator stands for: itself, or the one whose opcode
is the number that a foreign object equals. -/
def instruction? : Operator → Option Instruction
  | .instruction known => some known
  | .foreign object =>
    Instruction.all.find? fun known => object.equalsInt known.opcode
  | _ => none

/-- Equality of operators.  An instruction equals the number that is its opcode.
A record is a thing of its own and equals no operator of another item. -/
def same : Operator → Operator → Bool
  | .instruction first, .instruction second => first == second
  | .instruction first, .foreign second => second.equalsInt first.opcode
  | .foreign first, .instruction second => first.equalsInt second.opcode
  | .foreign first, .foreign second => first.same second
  | .command first, .command second => first == second
  | _, _ => false

end Operator
end StackScript
