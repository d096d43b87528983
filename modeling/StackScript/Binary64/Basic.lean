import StackScript.Power

/-!
# Floating-point numbers of 64 bits

A number is kept as its 64 bits, so that the sign and the payload of a NaN are
part of it.  Sums, products and comparisons are those of the machine's
floating-point unit; the sign flips without looking at the rest.
-/

namespace StackScript

/-- A floating-point number in its 64-bit interchange format. -/
structure Binary64 where
  bits : UInt64
deriving DecidableEq, Repr

namespace Binary64

/-- Whether the sign bit is set, also for zeros and NaNs. -/
def isNegative (number : Binary64) : Bool :=
  number.bits.toNat / 2 ^ 63 == 1

def exponentField (number : Binary64) : Nat :=
  number.bits.toNat / 2 ^ 52 % 2 ^ 11

def fractionField (number : Binary64) : Nat :=
  number.bits.toNat % 2 ^ 52

def isFinite (number : Binary64) : Bool :=
  number.exponentField != 2047

def isNaN (number : Binary64) : Bool :=
  !number.isFinite && number.fractionField != 0

def isZero (number : Binary64) : Bool :=
  number.exponentField == 0 && number.fractionField == 0

/-- The magnitude of a finite number is `mantissa * 2 ^ scale`. -/
def mantissa (number : Binary64) : Nat :=
  if number.exponentField = 0 then number.fractionField
  else 2 ^ 52 + number.fractionField

/-- The magnitude of a finite number is `mantissa * 2 ^ scale`. -/
def scale (number : Binary64) : Int :=
  (max number.exponentField 1 : Nat) - 1075

def toFloat (number : Binary64) : Float :=
  Float.ofBits number.bits

def ofFloat (number : Float) : Binary64 :=
  ⟨number.toBits⟩

/-- The NaN that texts and failed operations stand for. -/
def nan : Binary64 := ⟨0x7FF8000000000000⟩

/-- The magnitude bits of infinity; those of every finite number are less. -/
def infinityMagnitude : Nat := 0x7FF0000000000000

/-- The number with the given sign and magnitude bits. -/
def ofMagnitude (negative : Bool) (magnitude : Nat) : Binary64 :=
  ⟨UInt64.ofNat ((if negative then 2 ^ 63 else 0) + magnitude)⟩

def neg (number : Binary64) : Binary64 :=
  ⟨number.bits ^^^ 0x8000000000000000⟩

def add (first second : Binary64) : Binary64 :=
  ofFloat (first.toFloat + second.toFloat)

def sub (first second : Binary64) : Binary64 :=
  ofFloat (first.toFloat - second.toFloat)

def mul (first second : Binary64) : Binary64 :=
  ofFloat (first.toFloat * second.toFloat)

/-- Numerical equality: the zeros are equal, and a NaN equals nothing. -/
def equals (first second : Binary64) : Bool :=
  first.toFloat == second.toFloat

/-- Two numbers are close if they are equal or the square of their difference,
both computed with rounding, lies below this bound. -/
def closeBound : Float := 1e-19

def close (first second : Binary64) : Bool :=
  first.equals second ||
    (let difference := first.toFloat - second.toFloat
     difference * difference < closeBound)

end Binary64
end StackScript
