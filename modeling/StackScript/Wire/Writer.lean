import StackScript.Wire.Fault
import StackScript.Wire.Width

/-!
# Writing scripts

A script on the wire is the concatenation of its items, without any frame.  The
first byte of an item, its discriminant, tells its kind and, for kinds of
varying size, how it goes on:

* `00` and `01` are the truth values;
* `02` starts a floating-point number of eight bytes;
* `03` to `12` start an integer of one to sixteen bytes;
* `13` is the empty text;
* `14` to `79` start a text, with the length in one or more bytes before it;
* `80` to `ff` are operators, with the opcode in the low seven bits.

A writer appends to the bytes that it has written so far.  If an item has no
form on the wire, it fails with nothing of that item written.  The only exception
is a text so long that the length does not fit, which fails behind its discriminant.
-/

namespace StackScript
namespace Wire

/-- A computation that appends to the bytes written so far and may fail. -/
abbrev Writer := EStateM WriteFault (Array UInt8)

def integerDiscriminant : Nat := 0x03

def floatDiscriminant : Nat := 0x02

/-- The discriminant of the empty text, just below those of other texts. -/
def emptyTextDiscriminant : Nat := 0x13

def lastTextDiscriminant : Nat := 0x79

def operatorDiscriminant : Nat := 0x80

namespace Writer

def writeBytes (bytes : List UInt8) : Writer Unit := fun written =>
  .ok () (written ++ bytes)

def writeByte (number : Int) : Writer Unit :=
  if 0 ≤ number ∧ number ≤ 0xFF then writeBytes [UInt8.ofNat number.toNat]
  else throw .byteRange

/-- Writes an integer: the discriminant tells the number of bytes behind it. -/
def writeInteger (integer : Int) : Writer Unit := do
  if Int128.InRange integer then
    let extra := extraBytes integer
    writeByte (integerDiscriminant + extra : Nat)
    writeBytes ((twosComplement integerWidth integer).take (extra + 1))
  else throw .integerWidth

def writeLength (width length : Nat) : Writer Unit :=
  if length < 256 ^ width then writeBytes (littleEndian width length)
  else throw .integerWidth

/-- Writes a text: the discriminant tells the number of bytes of its length,
then come the length and the text. -/
def writeText (text : Text) : Writer Unit := do
  if text.isEmpty then writeByte emptyTextDiscriminant
  else
    match Utf8.encode text with
    | .error run => throw (.surrogates run)
    | .ok bytes =>
      let width := extraBytes bytes.length + 1
      writeByte (emptyTextDiscriminant + width : Nat)
      writeLength width bytes.length
      writeBytes bytes

/-- Writes a script value; no other datum can be written. -/
def writeDatum : Datum → Writer Unit
  | .value (.boolean truth) => writeByte (if truth then 1 else 0)
  | .value (.float number) => do
    writeByte floatDiscriminant
    writeBytes (littleEndian 8 number.bits.toNat)
  | .value (.integer number) => writeInteger number.val
  | .value (.string text) => writeText text
  | datum => throw (.notAValue datum)

end Writer
end Wire

/-- The opcode of an operator: that of an instruction or of a record, or the
integer that a foreign object is. -/
def Operator.opcode? : Operator → Option Int
  | .instruction known => some known.opcode
  | .foreign (.integer opcode) => some opcode
  | .record _ (.integer opcode) => some opcode
  | _ => none

namespace Wire
namespace Writer

def writeOperator (operator : Operator) : Writer Unit :=
  match operator.opcode? with
  | none => throw (.noOpcode operator)
  | some opcode =>
    if 0 ≤ opcode ∧ opcode ≤ 0x7F then
      writeByte (operatorDiscriminant + opcode)
    else throw (.opcodeRange opcode operator)

def writeItem : Item → Writer Unit
  | .operator operator => writeOperator operator
  | .datum datum => writeDatum datum

/-- Writes the items of a script up to the first that has no form on the wire. -/
def writeScript : Script → Writer Unit
  | [] => pure ()
  | item :: rest => do
    writeItem item
    writeScript rest

end Writer

def encode (script : Script) : Except WriteFault (Array UInt8) :=
  match Writer.writeScript script #[] with
  | .ok () bytes => .ok bytes
  | .error fault _ => .error fault

end Wire
end StackScript
