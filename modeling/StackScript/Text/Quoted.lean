import StackScript.Text.Visible

/-!
# Quoted text

A text is shown between quotes, in single ones unless it holds a single quote
and no double one.  The quote in use and the backslash are written after a
backslash, tab and line ends by their letters, and every other code point
without a visible form by its number in two, four or eight digits.
-/

namespace StackScript

/-- The number of a code point or byte behind a backslash, in the shortest of
the three widths that holds it. -/
def escapedNumber (number : Nat) : String :=
  if number < 0x100 then "\\x" ++ hexadecimal 2 number
  else if number < 0x10000 then "\\u" ++ hexadecimal 4 number
  else "\\U" ++ hexadecimal 8 number

namespace CodePoint

def quoted (quote : Char) (point : CodePoint) : String :=
  if point = ofChar quote ∨ point = ofChar '\\' then
    "\\" ++ point.toChar?.elim "" Char.toString
  else if point = ofChar '\t' then "\\t"
  else if point = ofChar '\n' then "\\n"
  else if point = ofChar '\r' then "\\r"
  else
    match point.isVisible, point.toChar? with
    | true, some character => character.toString
    | _, _ => escapedNumber point.val

end CodePoint

/-- The kind of quotes around a text: double ones only if that spares escaping a
single quote. -/
def quoteAround (single double : Bool) : Char :=
  if single && !double then '"' else '\''

namespace Text

def quoted (text : Text) : String :=
  let quote := quoteAround (text.contains (CodePoint.ofChar '\''))
    (text.contains (CodePoint.ofChar '"'))
  quote.toString ++ String.join (text.map (CodePoint.quoted quote)) ++
    quote.toString

end Text

/-- Bytes between quotes behind the letter b: visible characters of the
seven-bit alphabet stand for themselves. -/
def quotedBytes (bytes : List UInt8) : String :=
  let quote := quoteAround (bytes.contains 0x27) (bytes.contains 0x22)
  let one (byte : UInt8) : String :=
    if byte.toNat = quote.toNat ∨ byte = 0x5C then
      "\\" ++ (Char.ofNat byte.toNat).toString
    else if byte = 0x09 then "\\t"
    else if byte = 0x0A then "\\n"
    else if byte = 0x0D then "\\r"
    else if 0x20 ≤ byte ∧ byte < 0x7F then (Char.ofNat byte.toNat).toString
    else escapedNumber byte.toNat
  "b" ++ quote.toString ++ String.join (bytes.map one) ++ quote.toString

end StackScript
