import StackScript.Binary64.Basic

/-!
# The nearest floating-point number

Integers and decimals become floating-point numbers by one rule: the nearest
one, and of two equally near ones the one with an even mantissa.  The rule is
computed on a fraction of naturals without any rounding in between.
-/

namespace StackScript

/-- The quotient to the nearest integer; halves go to the even neighbour. -/
def roundQuotient (numerator denominator : Nat) : Nat :=
  let quotient := numerator / denominator
  let twice := 2 * (numerator % denominator)
  if twice > denominator ∨ (twice = denominator ∧ quotient % 2 = 1) then
    quotient + 1
  else quotient

/-- The fraction divided by the given power of two. -/
def divideByPower (numerator denominator : Nat) (power : Int) : Nat × Nat :=
  if 0 ≤ power then (numerator, denominator * 2 ^ power.toNat)
  else (numerator * 2 ^ (-power).toNat, denominator)

/-- The power of two at or just below a positive fraction. -/
def floorLog2 (numerator denominator : Nat) : Int :=
  let estimate : Int := (numerator.log2 : Int) - denominator.log2
  let (scaled, unit) := divideByPower numerator denominator estimate
  if scaled < unit then estimate - 1 else estimate

namespace Binary64

/-- The magnitude bits of the number nearest to a fraction.  Fractions beyond
the largest finite number give `infinityMagnitude` or more. -/
def nearestMagnitude (numerator denominator : Nat) : Nat :=
  if numerator = 0 then 0
  else
    let power := max (floorLog2 numerator denominator - 52) (-1074)
    let (scaled, unit) := divideByPower numerator denominator power
    (power + 1074).toNat * 2 ^ 52 + roundQuotient scaled unit

/-- The number nearest to an integer, unless that would be infinite. -/
def ofInt? (integer : Int) : Option Binary64 :=
  let magnitude := nearestMagnitude integer.natAbs 1
  if magnitude < infinityMagnitude then
    some (ofMagnitude (integer < 0) magnitude)
  else none

/-- The number nearest to `digits * 10 ^ exponent` with the given sign.  Only
exponents near the range of finite numbers are computed; beyond it the answer
is infinite or zero. -/
def ofDecimal (negative : Bool) (digits : Nat) (exponent : Int) : Binary64 :=
  let size : Int := (Nat.toDigits 10 digits).length + exponent
  let magnitude :=
    if digits = 0 ∨ size < -400 then 0
    else if 400 < size then infinityMagnitude
    else if 0 ≤ exponent then
      min infinityMagnitude (nearestMagnitude (digits * 10 ^ exponent.toNat) 1)
    else
      min infinityMagnitude (nearestMagnitude digits (10 ^ (-exponent).toNat))
  ofMagnitude negative magnitude

def equalsInt (number : Binary64) (integer : Int) : Bool :=
  number.isFinite &&
    (let magnitude := integer.natAbs
     let sameMagnitude :=
       if 0 ≤ number.scale then
         number.mantissa * 2 ^ number.scale.toNat == magnitude
       else number.mantissa == magnitude * 2 ^ (-number.scale).toNat
     sameMagnitude && (number.isNegative == (integer < 0) || number.isZero))

end Binary64
end StackScript
