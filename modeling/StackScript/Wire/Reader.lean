import StackScript.Wire.Writer

/-!
# Reading scripts

A reader moves a cursor over the data.  Every step can be taken on its own,
wherever the cursor stands.  A step that reads a body of the length that the
byte under the cursor gives also works where that byte belongs to another kind
of item, and the length may then be negative.  Such a step moves the cursor
back, and positions below zero count from the end of the data.  Reading whole
items never gets there.

A reader keeps its cursor where a failed step has left it.
-/

namespace StackScript
namespace Wire

/-- The operators by their opcodes. -/
abbrev OpcodeTable := Int → Option Operator

def instructionTable : OpcodeTable := fun opcode =>
  (Instruction.ofOpcode? opcode).map .instruction

/-- Data and a position in it. -/
structure Cursor where
  data : Array UInt8
  position : Int

namespace Cursor

def start (data : Array UInt8) : Cursor := ⟨data, 0⟩

/-- The number of bytes from the cursor to the end of the data. -/
def left (cursor : Cursor) : Int := cursor.data.size - cursor.position

/-- An end of a stretch of the data.  A position below zero counts from the end
of the data, and what lies outside is moved to the nearer end. -/
def bound (cursor : Cursor) (position : Int) : Nat :=
  if position < 0 then (position + cursor.data.size).toNat
  else min position.toNat cursor.data.size

def stretch (cursor : Cursor) (first last : Int) : List UInt8 :=
  (cursor.data.extract (cursor.bound first) (cursor.bound last)).toList

end Cursor

/-- A computation that moves a cursor and may fail. -/
abbrev Reader := EStateM ReadFault Cursor

namespace Reader

def peekByte : Reader UInt8 := fun cursor =>
  if cursor.data.size ≤ cursor.position then .error .endOfData cursor
  else
    let index :=
      if cursor.position < 0 then cursor.position + cursor.data.size
      else cursor.position
    if index < 0 then .error .beforeData cursor
    else
      match cursor.data[index.toNat]? with
      | some byte => .ok byte cursor
      | none => .error .endOfData cursor

def advance (distance : Int) : Reader Unit := fun cursor =>
  .ok () { cursor with position := cursor.position + distance }

def readByte : Reader UInt8 := do
  let byte ← peekByte
  advance 1
  pure byte

/-- The bytes from the cursor on, which moves behind them. -/
def readBytes (length : Int) : Reader (List UInt8) := fun cursor =>
  if cursor.left < length then .error (.shortData length cursor.left) cursor
  else
    .ok (cursor.stretch cursor.position (cursor.position + length))
      { cursor with position := cursor.position + length }

/-- Reads an operator: the discriminant holds the opcode. -/
def readOperator (table : Option OpcodeTable) : Reader Operator := do
  let byte ← readByte
  let opcode : Int := (byte.toNat : Int) - operatorDiscriminant
  match table with
  | none => throw (.noTable opcode)
  | some operators =>
    match operators opcode with
    | some operator => pure operator
    | none => throw (.unknownOpcode opcode)

def readFloat : Reader Binary64 := do
  let _ ← readByte
  let bytes ← readBytes 8
  if bytes.length = 8 then pure ⟨UInt64.ofNat (ofLittleEndian bytes)⟩
  else throw .floatWidth

/-- Reads an integer: the discriminant tells the number of bytes behind it. -/
def readInteger : Reader Int := do
  let byte ← readByte
  let bytes ← readBytes ((byte.toNat : Int) - integerDiscriminant + 1)
  pure (ofTwosComplement (zeroFilled bytes))

/-- Reads a text: the discriminant tells the number of bytes of its length. -/
def readText : Reader Text := do
  let byte ← readByte
  let width : Int := (byte.toNat : Int) - emptyTextDiscriminant
  if width = 0 then pure []
  else
    let lengthBytes ← readBytes width
    let bytes ← readBytes (ofLittleEndian lengthBytes)
    match Utf8.decode bytes with
    | .ok text => pure text
    | .error _ => throw .notText

/-- Reads a value of the kind that the byte under the cursor tells. -/
def readValue : Reader Value := do
  let byte ← peekByte
  let discriminant := byte.toNat
  if discriminant < floatDiscriminant then
    let _ ← readByte
    pure (.boolean (discriminant == 1))
  else if discriminant = floatDiscriminant then
    let number ← readFloat
    pure (.float number)
  else if discriminant < emptyTextDiscriminant then
    let integer ← readInteger
    match Int128.ofInt? integer with
    | some number => pure (.integer number)
    | none => throw (.integerRange integer)
  else if discriminant ≤ lastTextDiscriminant then
    let text ← readText
    pure (.string text)
  else throw (.discriminant byte)

def readItem (table : Option OpcodeTable) : Reader Item := do
  let byte ← peekByte
  if byte.toNat < operatorDiscriminant then
    let value ← readValue
    pure (.value value)
  else
    let operator ← readOperator table
    pure (.operator operator)

/-- Reads at most the given number of items, up to the end of the data. -/
def readItems (table : Option OpcodeTable) : (rounds : Nat) → Reader Script
  | 0 => pure []
  | rounds + 1 => fun cursor =>
    if cursor.left ≤ 0 then .ok [] cursor
    else
      match readItem table cursor with
      | .error fault next => .error fault next
      | .ok item next =>
        match readItems table rounds next with
        | .ok items last => .ok (item :: items) last
        | .error fault last => .error fault last

/-- Reads items up to the end of the data.  Every item takes at least one byte,
so there are no more of them than bytes. -/
def readScript (table : Option OpcodeTable) : Reader Script := fun cursor =>
  readItems table cursor.left.toNat cursor

/-- Where the items of a script start that are looked at in the given number of
rounds, up to the first that cannot be read. -/
def itemStarts (table : Option OpcodeTable) :
    (rounds : Nat) → Cursor → List Int
  | 0, _ => []
  | rounds + 1, cursor =>
    if cursor.left ≤ 0 then []
    else
      cursor.position ::
        match readItem table cursor with
        | .ok _ next => itemStarts table rounds next
        | .error _ _ => []

end Reader

def decode (table : Option OpcodeTable) (data : Array UInt8) :
    Except ReadFault Script :=
  match Reader.readScript table (Cursor.start data) with
  | .ok script _ => .ok script
  | .error fault _ => .error fault

/-- What the journal says while the script in the given bytes is read. -/
def decodingJournal (table : Option OpcodeTable) (data : Array UInt8) :
    List String :=
  (Reader.itemStarts table data.size (Cursor.start data)).map fun position =>
    "item at offset " ++ toString position

end Wire
end StackScript
