import StackScript.Datum
import StackScript.Operator.Basic

/-!
# Items and scripts

A script is a list of items, and an item is an operator or a datum to push.
-/

namespace StackScript

/-- One element of a script. -/
inductive Item where
  | operator (held : Operator)
  | datum (held : Datum)

/-- Items in the order of their evaluation. -/
abbrev Script := List Item

namespace Item

def render : Item → String
  | .operator held => "Operator(" ++ held.render ++ ")"
  | .datum held => "Value(" ++ held.render ++ ")"

def isDatum : Item → Bool
  | .operator _ => false
  | .datum _ => true

def value (value : Value) : Item := .datum (.value value)

def instruction (instruction : Instruction) : Item :=
  .operator (.instruction instruction)

end Item
end StackScript
