import StackScript.Arithmetic
import StackScript.Document.Basic

/-!
# Scripts as documents

Every item of instructions and script values has an element that stands for it.
A datum that is no script value has none.  An operator that belongs to no family
stands for itself, as far as a document can hold it.
-/

namespace StackScript
namespace Schema

/-- Why a script has no document. -/
inductive PrintFault where
  | notAValue (datum : Datum)
  | notHeld

namespace PrintFault

/-- Whether the words for the cause cannot show an integer that belongs there. -/
def showsLongInteger : PrintFault → Bool
  | .notAValue datum => datum.showsLongInteger
  | .notHeld => false

/-- The cause in words, or why there are none; some causes have none anyway. -/
def message? : PrintFault → Option String
  | .notAValue datum =>
    if datum.showsLongInteger then some Text.longIntegerMessage
    else some ("Cannot represent " ++ datum.render ++ " as JSON")
  | .notHeld => none

def label (fault : PrintFault) : String :=
  if fault.showsLongInteger then Text.longIntegerLabel else "TypeError"

end PrintFault

mutual

/-- The document that is a foreign object; bytes are in no document. -/
def documentOfForeign? : Foreign → Option Document
  | .none => some .null
  | .boolean truth => some (.boolean truth)
  | .integer number => some (.integer number)
  | .float number => some (.float number)
  | .string text => some (.string text)
  | .bytes _ => none
  | .list elements => (documentsOfForeign? elements).map .array

def documentsOfForeign? : List Foreign → Option (List Document)
  | [] => some []
  | element :: rest =>
    match documentOfForeign? element, documentsOfForeign? rest with
    | some document, some documents => some (document :: documents)
    | _, _ => none

end

/-- The document that an operator is written as. -/
def documentOfOperator? : Operator → Option Document
  | .instruction instruction => some (.string (Text.ofString instruction.name))
  | .command command => some (.string (Text.ofString command.name))
  | .foreign object => documentOfForeign? object
  | .record _ _ => none

/-- The document that a value is written as. -/
def documentOfPayload : Value → Document
  | .boolean truth => .boolean truth
  | .float number => .float number
  | .integer number => .integer number.val
  | .string text => .string text

/-- The element that stands for a value. -/
def elementOfValue (value : Value) : Document :=
  .object [(Text.ofString value.kind.key, documentOfPayload value)]

def elementOf : Item → Except PrintFault Document
  | .datum (.value value) => .ok (elementOfValue value)
  | .datum datum => .error (.notAValue datum)
  | .operator operator =>
    match documentOfOperator? operator with
    | some document => .ok (.object [(Text.ofString "op", document)])
    | none => .error .notHeld

def elementsOf : Script → Except PrintFault (List Document)
  | [] => .ok []
  | item :: rest =>
    match elementOf item with
    | .error fault => .error fault
    | .ok element => (elementsOf rest).map (element :: ·)

/-- The first datum of a script that is no script value. -/
def firstOther? (script : Script) : Option Datum :=
  script.findSome? fun item =>
    match item with
    | .datum (.value _) => none
    | .datum datum => some datum
    | .operator _ => none

/-- The document of a script.  A datum that is no script value is reported before
an operator that no document holds. -/
def documentOf (script : Script) : Except PrintFault Document :=
  match firstOther? script with
  | some datum => .error (.notAValue datum)
  | none => (elementsOf script).map .array

end Schema
end StackScript
