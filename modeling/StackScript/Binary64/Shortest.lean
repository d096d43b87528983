import StackScript.Binary64.Basic

/-!
# The fewest digits that read back

A floating-point number stands for all reals that round to it.  They form an
interval around it, which holds its ends if the mantissa is even.  Its text is
the decimal with the fewest digits inside that interval, and of several such
decimals the one nearest to the number, an even last digit winning a tie.  For
each count of digits only the two neighbours of the number on the grid of such
decimals can be that decimal, so a search over seventeen grids finds it.  All
comparisons are between naturals.
-/

namespace StackScript

/-- The decimal `digits * 10 ^ exponent`. -/
structure Decimal where
  digits : Nat
  exponent : Int
deriving DecidableEq, Repr

namespace Decimal

def digitCount (number : Nat) : Nat :=
  (Nat.toDigits 10 number).length

/-- Moves up to `limit` zeros from the end of the digits into the exponent. -/
def stripZeros : (limit : Nat) → Decimal → Decimal
  | 0, decimal => decimal
  | limit + 1, decimal =>
    if decimal.digits % 10 = 0 then
      stripZeros limit ⟨decimal.digits / 10, decimal.exponent + 1⟩
    else decimal

end Decimal

/-- The reals that round to a positive floating-point number, over a common
denominator: the number itself, the two ends and whether they belong to it. -/
structure RoundingInterval where
  lower : Nat
  value : Nat
  upper : Nat
  denominator : Nat
  closed : Bool

namespace RoundingInterval

/-- The interval of a positive finite number, in quarters of its last place.
Below a power of two the numbers lie twice as dense. -/
def ofBinary64 (number : Binary64) : RoundingInterval :=
  let quarters := 4 * number.mantissa
  let below :=
    if number.fractionField = 0 ∧ 1 < number.exponentField then 1 else 2
  let power := number.scale - 2
  let factor := if 0 ≤ power then 2 ^ power.toNat else 1
  { lower := (quarters - below) * factor
    value := quarters * factor
    upper := (quarters + 2) * factor
    denominator := if 0 ≤ power then 1 else 2 ^ (-power).toNat
    closed := number.mantissa % 2 = 0 }

/-- The least `k` with the number below `10 ^ k`. -/
def magnitude (interval : RoundingInterval) : Int :=
  if interval.denominator ≤ interval.value then
    Decimal.digitCount (interval.value / interval.denominator)
  else
    1 - (Decimal.digitCount ((interval.denominator - 1) / interval.value) : Int)

/-- A decimal and the common denominator, brought to one more denominator: the
first component belongs to the decimal, the second scales the interval. -/
def align (interval : RoundingInterval) (decimal : Decimal) : Nat × Nat :=
  if 0 ≤ decimal.exponent then
    (decimal.digits * 10 ^ decimal.exponent.toNat * interval.denominator, 1)
  else
    (decimal.digits * interval.denominator, 10 ^ (-decimal.exponent).toNat)

def holds (interval : RoundingInterval) (decimal : Decimal) : Bool :=
  let (point, factor) := interval.align decimal
  let lower := interval.lower * factor
  let upper := interval.upper * factor
  if interval.closed then lower ≤ point && point ≤ upper
  else lower < point && point < upper

/-- The decimal with the given exponent at or just below the number. -/
def floorAt (interval : RoundingInterval) (exponent : Int) : Decimal :=
  let digits :=
    if 0 ≤ exponent then
      interval.value / (interval.denominator * 10 ^ exponent.toNat)
    else interval.value * 10 ^ (-exponent).toNat / interval.denominator
  ⟨digits, exponent⟩

/-- Of a decimal at or below the number and its successor, the nearer one; a tie
goes to the even one. -/
def nearer (interval : RoundingInterval) (below : Decimal) : Decimal :=
  let above : Decimal := ⟨below.digits + 1, below.exponent⟩
  let (sum, factor) :=
    interval.align ⟨below.digits + above.digits, below.exponent⟩
  let twice := 2 * interval.value * factor
  if twice < sum ∨ (twice = sum ∧ below.digits % 2 = 0) then below else above

/-- The decimal in the interval among the two neighbours of the number on the
grid of the given exponent. -/
def onGrid? (interval : RoundingInterval) (exponent : Int) : Option Decimal :=
  let below := interval.floorAt exponent
  let above : Decimal := ⟨below.digits + 1, exponent⟩
  match interval.holds below, interval.holds above with
  | true, true => some (interval.nearer below)
  | true, false => some below
  | false, true => some above
  | false, false => none

/-- The decimal with the fewest digits in the interval.  Seventeen digits always
suffice, so the last grid is never left without a hit. -/
def shortest (interval : RoundingInterval) : Decimal :=
  let magnitude := interval.magnitude
  let found := (List.range 17).findSome? fun (count : Nat) =>
    interval.onGrid? (magnitude - (count + 1))
  (found.getD (interval.floorAt (magnitude - 17))).stripZeros 17

end RoundingInterval

namespace Binary64

/-- The fewest digits that read back as the magnitude of a finite number. -/
def shortest (number : Binary64) : Decimal :=
  if number.isZero then ⟨0, 0⟩
  else (RoundingInterval.ofBinary64 number).shortest

end Binary64
end StackScript
