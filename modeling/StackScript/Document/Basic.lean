import StackScript.Text.Numeral
import StackScript.Value.Basic

/-!
# Documents

A document is the tree that a JSON text denotes.  Numbers written without a
point and an exponent are integers of any size, all others are floating-point
numbers.  The entries of an object keep their order, and no two of them have the
same key.
-/

namespace StackScript

inductive Document where
  | null
  | boolean (truth : Bool)
  | integer (number : Int)
  | float (number : Binary64)
  | string (text : Text)
  | array (elements : List Document)
  | object (entries : List (Text × Document))

namespace Document

mutual

def render : Document → String
  | .null => "None"
  | .boolean truth => Value.showTruth truth
  | .integer number => toString number
  | .float number => number.text Binary64.shownFormat
  | .string text => text.quoted
  | .array elements => "[" ++ ", ".intercalate (renderAll elements) ++ "]"
  | .object entries =>
    "\x7b" ++ ", ".intercalate (renderEntries entries) ++ "\x7d"

def renderAll : List Document → List String
  | [] => []
  | element :: rest => element.render :: renderAll rest

def renderEntries : List (Text × Document) → List String
  | [] => []
  | (key, value) :: rest =>
    (key.quoted ++ ": " ++ value.render) :: renderEntries rest

end

mutual

/-- Whether an integer of the document has too many digits to be shown. -/
def hasLongInteger : Document → Bool
  | .integer number => Text.isLongInteger number
  | .array elements => anyLongInteger elements
  | .object entries => anyLongEntry entries
  | _ => false

def anyLongInteger : List Document → Bool
  | [] => false
  | element :: rest => element.hasLongInteger || anyLongInteger rest

def anyLongEntry : List (Text × Document) → Bool
  | [] => false
  | (_, value) :: rest => value.hasLongInteger || anyLongEntry rest

end

/-- Sets the value of a key: the last value given counts, at the place of the
first. -/
def setEntry (key : Text) (value : Document) :
    List (Text × Document) → List (Text × Document)
  | [] => [(key, value)]
  | (other, old) :: rest =>
    if other = key then (key, value) :: rest
    else (other, old) :: setEntry key value rest

def entry? (key : Text) (entries : List (Text × Document)) : Option Document :=
  entries.lookup key

end Document
end StackScript
