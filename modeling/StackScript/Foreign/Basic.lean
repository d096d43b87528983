import StackScript.Binary64.Nearest
import StackScript.Text.Numeral
import StackScript.Value.Basic

/-!
# Foreign objects

A machine does not look into the objects that it moves, so a stack may also
carry objects that are no script values, and a script may use such an object as
an operator.  These are the foreign objects: nothing, truth values, integers of
any size, floating-point numbers, texts, bytes and lists.
-/

namespace StackScript

/-- An object that is not a script value. -/
inductive Foreign where
  | none
  | boolean (truth : Bool)
  | integer (number : Int)
  | float (number : Binary64)
  | string (text : Text)
  | bytes (data : List UInt8)
  | list (elements : List Foreign)

namespace Foreign

def typeName : Foreign → String
  | .none => "NoneType"
  | .boolean _ => "bool"
  | .integer _ => "int"
  | .float _ => "float"
  | .string _ => "str"
  | .bytes _ => "bytes"
  | .list _ => "list"

mutual

def render : Foreign → String
  | .none => "None"
  | .boolean truth => Value.showTruth truth
  | .integer number => toString number
  | .float number => number.text Binary64.shownFormat
  | .string text => text.quoted
  | .bytes data => quotedBytes data
  | .list elements => "[" ++ ", ".intercalate (renderAll elements) ++ "]"

def renderAll : List Foreign → List String
  | [] => []
  | element :: rest => element.render :: renderAll rest

end

mutual

/-- Whether an object cannot be shown, because an integer in it is too long. -/
def showsLongInteger : Foreign → Bool
  | .integer number => Text.isLongInteger number
  | .list elements => anyShowsLongInteger elements
  | _ => false

def anyShowsLongInteger : List Foreign → Bool
  | [] => false
  | element :: rest => element.showsLongInteger || anyShowsLongInteger rest

end

/-- The integer that a truth value or an integer counts as. -/
def toInt? : Foreign → Option Int
  | .boolean truth => some (if truth then 1 else 0)
  | .integer number => some number
  | _ => Option.none

/-- Whether an object is numerically equal to an integer. -/
def equalsInt (object : Foreign) (integer : Int) : Bool :=
  match object with
  | .float number => number.equalsInt integer
  | other => other.toInt? == some integer

mutual

/-- Equality of objects: numbers of all types are compared by their exact
values, truth values counting as one and zero, and lists element by element. -/
def same : Foreign → Foreign → Bool
  | .none, .none => true
  | .float first, .float second => first.equals second
  | .string first, .string second => first == second
  | .bytes first, .bytes second => first == second
  | .list first, .list second => sameAll first second
  | .boolean first, other => other.equalsInt (if first then 1 else 0)
  | .integer first, other => other.equalsInt first
  | .float first, .boolean second => first.equalsInt (if second then 1 else 0)
  | .float first, .integer second => first.equalsInt second
  | _, _ => false

def sameAll : List Foreign → List Foreign → Bool
  | [], [] => true
  | first :: firsts, second :: seconds =>
    same first second && sameAll firsts seconds
  | _, _ => false

end

end Foreign
end StackScript
