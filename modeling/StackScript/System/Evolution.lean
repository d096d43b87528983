import StackScript.Machine

/-!
# The chains of creatures

The operator system of the commands.  Every operator takes the topmost datum,
and two commands put its successor or predecessor back.  Blocks play no part.
-/

namespace StackScript
namespace Evolution

open Routine

/-- Moves a datum along its chain.  A foreign object that can be looked up is in
no chain and stays as it is; script values and lists cannot be looked up. -/
def move (along : Creature → Creature) : Datum → Except Fault Datum
  | .creature creature => .ok (.creature (along creature))
  | .foreign (.list _) => .error .operandType
  | .foreign object => .ok (.foreign object)
  | .value _ => .error .operandType

/-- Replaces the topmost datum by another one of its chain. -/
def replace (along : Creature → Creature) : Stack.Action Datum Unit := do
  let datum ← Stack.pop
  let moved ← Stack.yield (move along datum)
  Stack.push moved

def system : OperatorSystem := fun operator =>
  match operator with
  | .command .evolve => onStack (replace Creature.evolved)
  | .command .devolve => onStack (replace Creature.devolved)
  | _ =>
    onStack do
      let _ ← Stack.pop
      pure ()

end Evolution
end StackScript
