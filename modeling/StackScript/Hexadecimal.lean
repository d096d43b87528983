import StackScript.Text.Blank

/-!
# Hexadecimal scripts

On the command line the bytes of a script are written as hexadecimal digits, in
letters of either case and with blanks anywhere.
-/

namespace StackScript
namespace Hexadecimal

/-- Bytes as hexadecimal digits in small letters. -/
def print (bytes : List UInt8) : String :=
  String.join (bytes.map fun byte => hexadecimal 2 byte.toNat)

/-- The place of the first code point beyond the seven-bit alphabet, or else of
the first that is no digit, or else the end if a digit has no partner.  Blanks do
not count. -/
structure Fault where
  position : Nat
deriving DecidableEq, Repr

def Fault.message (fault : Fault) : String :=
  "non-hexadecimal number found in fromhex() arg at position " ++
    toString fault.position

def Fault.label : String := "ValueError"

/-- Reads pairs of digits from the given position on. -/
def readPairs (position : Nat) : Text → Except Fault (List UInt8)
  | [] => .ok []
  | [digit] =>
    match digit.hexDigit? with
    | some _ => .error ⟨position + 1⟩
    | none => .error ⟨position⟩
  | first :: second :: rest =>
    match first.hexDigit?, second.hexDigit? with
    | some high, some low =>
      (readPairs (position + 2) rest).map (UInt8.ofNat (16 * high + low) :: ·)
    | none, _ => .error ⟨position⟩
    | some _, none => .error ⟨position + 1⟩

/-- The bytes that a text of digits and blanks spells. -/
def parse (text : Text) : Except Fault (List UInt8) :=
  let digits := text.withoutBlanks
  match digits.findIdx? fun point => 0x80 ≤ point.val with
  | some position => .error ⟨position⟩
  | none => readPairs 0 digits

end Hexadecimal
end StackScript
