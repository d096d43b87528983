/-!
# Text as a sequence of code points

Scripts carry text that need not be well formed: a surrogate may stand alone,
and two surrogates in a row are not the character that they would encode as
16-bit units.  A text is therefore a list of code points, surrogates included,
and becomes a `String` only where every code point is a character.
-/

namespace StackScript

/-- A code point, surrogates included. -/
abbrev CodePoint := Fin 0x110000

-- The zero is named, because a larger library knows other ways to it.
instance neZero_codePoints : @NeZero Nat Zero.ofOfNat0 0x110000 :=
  ⟨by decide⟩

/-- A text is the list of its code points. -/
abbrev Text := List CodePoint

namespace CodePoint

/-- Every character is a code point. -/
def ofChar (character : Char) : CodePoint :=
  ⟨character.toNat, by
    have valid := character.valid
    simp only [UInt32.isValidChar, Nat.isValidChar] at valid
    change character.val.toNat < 0x110000
    omega⟩

/-- Surrogates are the code points that are not characters. -/
def isSurrogate (point : CodePoint) : Bool :=
  0xD800 ≤ point.val && point.val < 0xE000

/-- The character at a code point, unless it is a surrogate. -/
def toChar? (point : CodePoint) : Option Char :=
  if valid : point.val.isValidChar then some (Char.ofNatAux point.val valid)
  else none

def hexDigit? (point : CodePoint) : Option Nat :=
  let number := point.val
  if 0x30 ≤ number ∧ number ≤ 0x39 then some (number - 0x30)
  else if 0x41 ≤ number ∧ number ≤ 0x46 then some (number - 0x41 + 10)
  else if 0x61 ≤ number ∧ number ≤ 0x66 then some (number - 0x61 + 10)
  else none

end CodePoint

/-- The hexadecimal numeral of `number` in small letters, with zeros in front up
to the given width. -/
def hexadecimal (width number : Nat) : String :=
  let digits := Nat.toDigits 16 number
  String.ofList (List.replicate (width - digits.length) '0' ++ digits)

namespace Text

def ofString (string : String) : Text :=
  string.toList.map CodePoint.ofChar

/-- The text as a string, unless it holds a surrogate. -/
def toString? (text : Text) : Option String :=
  (text.mapM CodePoint.toChar?).map String.ofList

/-- The text for display: a surrogate is shown by its number. -/
def display (text : Text) : String :=
  String.join <| text.map fun point =>
    match point.toChar? with
    | some character => character.toString
    | none => "\\u" ++ hexadecimal 4 point.val

end Text
end StackScript
