import StackScript.Text.Basic

/-!
# Blank code points

Blanks separate the digits of a hexadecimal script and surround numerals.  The
two uses differ in the information separators U+001C to U+001F, which count as
blank in a hexadecimal script only.
-/

namespace StackScript
namespace CodePoint

/-- White space: the separators of lines, words and pieces of information. -/
def isBlank (point : CodePoint) : Bool :=
  let number := point.val
  (0x09 ≤ number && number ≤ 0x0D) || (0x1C ≤ number && number ≤ 0x20) ||
    number == 0x85 || number == 0xA0 || number == 0x1680 ||
    (0x2000 ≤ number && number ≤ 0x200A) || number == 0x2028 ||
    number == 0x2029 || number == 0x202F || number == 0x205F ||
    number == 0x3000

/-- White space around a numeral: as `isBlank`, without the separators of
pieces of information. -/
def isNumeralBlank (point : CodePoint) : Bool :=
  point.isBlank && !(0x1C ≤ point.val && point.val ≤ 0x1F)

end CodePoint

namespace Text

def trimBlank (text : Text) : Text :=
  ((text.dropWhile CodePoint.isNumeralBlank).reverse.dropWhile
    CodePoint.isNumeralBlank).reverse

def withoutBlanks (text : Text) : Text :=
  text.filter fun point => !point.isBlank

end Text
end StackScript
