import StackScript.Foreign.Arithmetic
import StackScript.Item
import StackScript.Value.Arithmetic

/-!
# Arithmetic and equality on what a stack holds

Script values compute among themselves, and so do foreign objects.  The two
never mix, and creatures do not compute at all.
-/

namespace StackScript
namespace Datum

/-- An operation with two operands, given on values and on foreign objects. -/
def binary (onValues : Value → Value → Except Fault Value)
    (onForeign : Foreign → Foreign → Except Fault Foreign) :
    Datum → Datum → Except Fault Datum
  | .value first, .value second => (onValues first second).map .value
  | .foreign first, .foreign second => (onForeign first second).map .foreign
  | _, _ => .error .operandType

def add : Datum → Datum → Except Fault Datum :=
  binary Value.add Foreign.add

def mul : Datum → Datum → Except Fault Datum :=
  binary Value.mul Foreign.mul

def sub : Datum → Datum → Except Fault Datum :=
  binary Value.sub Foreign.sub

def neg : Datum → Except Fault Datum
  | .value held => held.neg.map .value
  | .foreign held => held.neg.map .foreign
  | .creature _ => .error .operandType

/-- Equality of data: only data of the same sort can be equal. -/
def same : Datum → Datum → Bool
  | .value first, .value second => first.same second
  | .creature first, .creature second => first == second
  | .foreign first, .foreign second => first.same second
  | _, _ => false

end Datum

namespace Item

/-- Equality of items: an operator never equals a datum. -/
def same : Item → Item → Bool
  | .operator first, .operator second => first.same second
  | .datum first, .datum second => first.same second
  | _, _ => false

end Item

namespace Script

/-- Equality of scripts, item by item. -/
def same : Script → Script → Bool
  | [], [] => true
  | first :: firsts, second :: seconds =>
    first.same second && same firsts seconds
  | _, _ => false

end Script
end StackScript
