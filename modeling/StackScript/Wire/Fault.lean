import StackScript.Item
import StackScript.Text.Utf8

/-!
# What can go wrong on the wire

Writing a script fails on items that have no form on the wire, and reading one
fails on bytes that are no script.
-/

namespace StackScript
namespace Wire

/-- Why something could not be written. -/
inductive WriteFault where
  | noOpcode (operator : Operator)
  /-- The opcode of the operator needs more than seven bits. -/
  | opcodeRange (opcode : Int) (operator : Operator)
  | notAValue (datum : Datum)
  | surrogates (run : Utf8.SurrogateRun)
  /-- The integer or the length of the text has more than 128 bits. -/
  | integerWidth
  | byteRange

namespace WriteFault

/-- Whether the words for the cause cannot show an integer that belongs there. -/
def showsLongInteger : WriteFault → Bool
  | .noOpcode operator => operator.showsLongInteger
  | .opcodeRange opcode operator =>
    Text.isLongInteger opcode || operator.showsLongInteger
  | .notAValue datum => datum.showsLongInteger
  | _ => false

def wording : WriteFault → String
  | .noOpcode operator =>
    "Operator " ++ operator.render ++ " has no integer opcode"
  | .opcodeRange opcode operator =>
    "Opcode " ++ toString opcode ++ " of " ++ operator.render ++
      " is outside 0..0x7f"
  | .notAValue datum =>
    "Cannot encode " ++ datum.render ++ " with the simple codec"
  | .surrogates run =>
    let place :=
      if run.length ≤ 1 then
        "character '" ++ escapedNumber run.first.val ++ "' in position " ++
          toString run.position
      else
        "characters in position " ++ toString run.position ++ "-" ++
          toString (run.position + run.length - 1)
    "String is not encodable as UTF-8: 'utf-8' codec can't encode " ++ place ++
      ": surrogates not allowed"
  | .integerWidth => "int too big to convert"
  | .byteRange => "byte must be in range(0, 256)"

/-- The cause in words, or why there are none. -/
def message (fault : WriteFault) : String :=
  if fault.showsLongInteger then Text.longIntegerMessage else fault.wording

def family : WriteFault → String
  | .noOpcode _ | .opcodeRange _ _ | .notAValue _ | .surrogates _ =>
    "EncodingError"
  | .integerWidth => "OverflowError"
  | .byteRange => "ValueError"

/-- The word for the family of what is reported. -/
def label (fault : WriteFault) : String :=
  if fault.showsLongInteger then Text.longIntegerLabel else fault.family

def isDefined (fault : WriteFault) : Bool := fault.label == "EncodingError"

end WriteFault

/-- Why something could not be read. -/
inductive ReadFault where
  | endOfData
  /-- More bytes are needed than are left. -/
  | shortData (needed left : Int)
  | discriminant (byte : UInt8)
  | noTable (opcode : Int)
  | unknownOpcode (opcode : Int)
  | notText
  | integerRange (integer : Int)
  /-- The cursor lies in front of the data. -/
  | beforeData
  /-- A floating-point number was given other than eight bytes. -/
  | floatWidth
deriving DecidableEq

namespace ReadFault

/-- An opcode in hexadecimal with at least four characters. -/
def showOpcode (opcode : Int) : String :=
  if opcode < 0 then "-0x" ++ hexadecimal 1 opcode.natAbs
  else "0x" ++ hexadecimal 2 opcode.natAbs

def showsLongInteger : ReadFault → Bool
  | .shortData needed left => Text.isLongInteger needed || Text.isLongInteger left
  | .integerRange integer => Text.isLongInteger integer
  | _ => false

def wording : ReadFault → String
  | .endOfData => "Decoder cursor hit end of data"
  | .shortData needed left =>
    "Decoder cursor hit end of data when reading " ++ toString needed ++
      " bytes, while only " ++ toString left ++ " were left"
  | .discriminant byte =>
    "Unsupported value discriminant " ++ showOpcode byte.toNat
  | .noTable opcode =>
    "No operator table to decode opcode " ++ showOpcode opcode
  | .unknownOpcode opcode =>
    "Unsupported operator opcode " ++ showOpcode opcode
  | .notText => "Not a valid UTF-8 string"
  | .integerRange integer =>
    "Integer " ++ toString integer ++ " does not fit in 128 bits"
  | .beforeData => "index out of range"
  | .floatWidth => "unpack requires a buffer of 8 bytes"

/-- The cause in words, or why there are none. -/
def message (fault : ReadFault) : String :=
  if fault.showsLongInteger then Text.longIntegerMessage else fault.wording

def family : ReadFault → String
  | .endOfData | .shortData _ _ => "EofError"
  | .discriminant _ => "UnknownDiscriminantError"
  | .noTable _ | .unknownOpcode _ => "UnknownOpcodeError"
  | .notText => "InvalidUtf8Error"
  | .integerRange _ => "IntegerOverflowError"
  | .beforeData => "IndexError"
  | .floatWidth => "error"

/-- The word for the family of what is reported. -/
def label (fault : ReadFault) : String :=
  if fault.showsLongInteger then Text.longIntegerLabel else fault.family

end ReadFault
end Wire
end StackScript
