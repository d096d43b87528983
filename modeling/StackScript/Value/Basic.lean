import StackScript.Text.Quoted
import StackScript.Binary64.Format

/-!
# Script values

A script computes with four kinds of values: truth values, floating-point
numbers, integers of 128 bits with sign, and texts.  The range of the integers
is part of their type, so no value outside of it can reach a stack.
-/

namespace StackScript

/-- An integer of 128 bits with sign. -/
structure Int128 where
  val : Int
  lower : -2 ^ 127 ≤ val
  upper : val < 2 ^ 127
deriving DecidableEq

namespace Int128

/-- Whether an integer has 128 bits with sign. -/
def InRange (integer : Int) : Prop :=
  -2 ^ 127 ≤ integer ∧ integer < 2 ^ 127

instance (integer : Int) : Decidable (InRange integer) :=
  inferInstanceAs (Decidable (_ ∧ _))

def ofInt? (integer : Int) : Option Int128 :=
  if range : InRange integer then some ⟨integer, range.1, range.2⟩ else none

@[ext]
theorem ext {first second : Int128} (equal : first.val = second.val) :
    first = second := by
  cases first
  cases second
  cases equal
  rfl

theorem inRange_val (number : Int128) : InRange number.val :=
  ⟨number.lower, number.upper⟩

theorem ofInt?_eq_some_iff {integer : Int} {number : Int128} :
    ofInt? integer = some number ↔ number.val = integer := by
  unfold ofInt?
  constructor
  · intro found
    split at found
    · cases found
      rfl
    · cases found
  · intro equal
    subst equal
    rw [dif_pos number.inRange_val]

theorem ofInt?_eq_none_iff {integer : Int} :
    ofInt? integer = none ↔ ¬InRange integer := by
  unfold ofInt?
  split <;> simp_all

@[simp]
theorem ofInt?_val (number : Int128) : ofInt? number.val = some number :=
  ofInt?_eq_some_iff.mpr rfl

end Int128

/-- A value of a script. -/
inductive Value where
  | boolean (truth : Bool)
  | float (number : Binary64)
  | integer (number : Int128)
  | string (text : Text)
deriving DecidableEq

namespace Value

inductive Kind where
  | boolean
  | float
  | integer
  | string
deriving DecidableEq, Repr

/-- The kind as the key of a script document. -/
def Kind.key : Kind → String
  | .boolean => "bool"
  | .float => "float"
  | .integer => "int"
  | .string => "str"

/-- The kind as the head of a shown value. -/
def Kind.title : Kind → String
  | .boolean => "Boolean"
  | .float => "Float"
  | .integer => "Integer"
  | .string => "String"

def kind : Value → Kind
  | .boolean _ => .boolean
  | .float _ => .float
  | .integer _ => .integer
  | .string _ => .string

def showTruth (truth : Bool) : String :=
  if truth then "True" else "False"

/-- What a value holds, as it is shown. -/
def showPayload : Value → String
  | .boolean truth => showTruth truth
  | .float number => number.text Binary64.shownFormat
  | .integer number => toString number.val
  | .string text => text.quoted

/-- A value as it is shown: its kind and what it holds. -/
def render (value : Value) : String :=
  value.kind.title ++ "(value=" ++ value.showPayload ++ ")"

/-- Zeros, the empty text and false are not truthy; a NaN is. -/
def isTruthy : Value → Bool
  | .boolean truth => truth
  | .float number => !number.isZero
  | .integer number => number.val != 0
  | .string text => !text.isEmpty

end Value
end StackScript
