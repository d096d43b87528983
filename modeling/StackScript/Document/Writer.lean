import StackScript.Document.Basic

/-!
# Writing documents

A document is written in the seven-bit alphabet: other code points appear by the
numbers of their 16-bit units.  There is a form on one line, and one in which
every element and entry has a line of its own, indented by two blanks a level.
-/

namespace StackScript
namespace CodePoint

/-- The number of a 16-bit unit behind a backslash. -/
def escapedUnit (unit : Nat) : String := "\\u" ++ hexadecimal 4 unit

/-- A code point inside the quotes of a document. -/
def inDocument (point : CodePoint) : String :=
  let number := point.val
  if point = ofChar '"' then "\\\""
  else if point = ofChar '\\' then "\\\\"
  else if point = ofChar '\n' then "\\n"
  else if point = ofChar '\r' then "\\r"
  else if point = ofChar '\t' then "\\t"
  else if number = 0x08 then "\\b"
  else if number = 0x0C then "\\f"
  else if 0x20 ≤ number ∧ number < 0x7F then (Char.ofNat number).toString
  else if number < 0x10000 then escapedUnit number
  else
    escapedUnit (0xD800 + (number - 0x10000) / 0x400) ++
      escapedUnit (0xDC00 + (number - 0x10000) % 0x400)

end CodePoint

namespace Document

def writeText (text : Text) : String :=
  "\"" ++ String.join (text.map CodePoint.inDocument) ++ "\""

/-- How the elements of an array and the entries of an object are set apart. -/
inductive Layout where
  | line
  | block (level : Nat)

namespace Layout

def inner : Layout → Layout
  | .line => .line
  | .block level => .block (level + 1)

/-- The start of a line at this level. -/
def lineStart (level : Nat) : String :=
  "\n" ++ String.ofList (List.replicate (2 * level) ' ')

/-- Puts written parts between brackets. -/
def enclose (layout : Layout) (left right : String) (parts : List String) :
    String :=
  if parts.isEmpty then left ++ right
  else
    match layout with
    | .line => left ++ ", ".intercalate parts ++ right
    | .block level =>
      left ++ lineStart (level + 1) ++
        ("," ++ lineStart (level + 1)).intercalate parts ++ lineStart level ++
        right

end Layout

mutual

def write (layout : Layout) : Document → String
  | .null => "null"
  | .boolean truth => if truth then "true" else "false"
  | .integer number => toString number
  | .float number => number.text Binary64.documentFormat
  | .string text => writeText text
  | .array elements =>
    layout.enclose "[" "]" (writeAll layout.inner elements)
  | .object entries =>
    layout.enclose "\x7b" "\x7d" (writeEntries layout.inner entries)

def writeAll (layout : Layout) : List Document → List String
  | [] => []
  | element :: rest => write layout element :: writeAll layout rest

def writeEntries (layout : Layout) : List (Text × Document) → List String
  | [] => []
  | (key, value) :: rest =>
    (writeText key ++ ": " ++ write layout value) :: writeEntries layout rest

end

end Document
end StackScript
