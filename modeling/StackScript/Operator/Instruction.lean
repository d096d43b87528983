import StackScript.Text.Basic

/-!
# Instructions of the calculator

The twelve operators that compute, branch and move values between the two
halves of a stack.  Their opcodes are what goes over the wire, so they are fixed.
-/

namespace StackScript

/-- An operator of the calculator. -/
inductive Instruction where
  | add
  | equal
  | mul
  | not
  | sub
  | ifTrue
  | orElse
  | endIf
  | toAlt
  | fromAlt
  | dup
  | drop
deriving DecidableEq, Repr

namespace Instruction

/-- The instructions in the order of their opcodes. -/
def all : List Instruction :=
  [.add, .equal, .mul, .not, .sub, .ifTrue, .orElse, .endIf, .toAlt, .fromAlt,
    .dup, .drop]

/-- The number of an instruction. -/
def opcode : Instruction → Nat
  | .add => 0x00
  | .equal => 0x01
  | .mul => 0x02
  | .not => 0x03
  | .sub => 0x04
  | .ifTrue => 0x05
  | .orElse => 0x06
  | .endIf => 0x07
  | .toAlt => 0x08
  | .fromAlt => 0x09
  | .dup => 0x0A
  | .drop => 0x0B

def name : Instruction → String
  | .add => "Add"
  | .equal => "Equal"
  | .mul => "Mul"
  | .not => "Not"
  | .sub => "Sub"
  | .ifTrue => "If"
  | .orElse => "Else"
  | .endIf => "EndIf"
  | .toAlt => "ToAlt"
  | .fromAlt => "FromAlt"
  | .dup => "Dup"
  | .drop => "Drop"

def ofOpcode? (opcode : Int) : Option Instruction :=
  all.find? fun instruction => (instruction.opcode : Int) == opcode

def ofName? (name : Text) : Option Instruction :=
  all.find? fun instruction => Text.ofString instruction.name == name

@[simp]
theorem ofOpcode?_opcode (instruction : Instruction) :
    ofOpcode? instruction.opcode = some instruction := by
  cases instruction <;> rfl

theorem opcode_inj {first second : Instruction} :
    first.opcode = second.opcode ↔ first = second := by
  constructor
  · intro equal
    have found := ofOpcode?_opcode first
    rw [equal, ofOpcode?_opcode, Option.some_inj] at found
    exact found.symm
  · rintro rfl
    rfl

@[simp]
theorem ofName?_name (instruction : Instruction) :
    ofName? (Text.ofString instruction.name) = some instruction := by
  cases instruction <;> decide

def familyName : String := "MathOperator"

def render (instruction : Instruction) : String :=
  "<" ++ familyName ++ "." ++ instruction.name ++ ": " ++
    toString instruction.opcode ++ ">"

end Instruction
end StackScript
