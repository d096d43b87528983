import StackScript.Foreign.Basic
import StackScript.Operator.Command

/-!
# What a stack holds

A datum is a script value, a creature or a foreign object.
-/

namespace StackScript

inductive Datum where
  | value (held : Value)
  | creature (held : Creature)
  | foreign (held : Foreign)

namespace Datum

def render : Datum → String
  | .value held => held.render
  | .creature held => held.render
  | .foreign held => held.render

/-- Whether a datum cannot be shown. -/
def showsLongInteger : Datum → Bool
  | .foreign held => held.showsLongInteger
  | _ => false

/-- The truth of a datum as a condition: everything that is not a script value
counts as true. -/
def isTruthy : Datum → Bool
  | .value held => held.isTruthy
  | _ => true

end Datum
end StackScript
