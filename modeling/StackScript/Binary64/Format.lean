import StackScript.Binary64.Shortest

/-!
# The text of a floating-point number

The digits come from `Binary64.shortest`.  Where the point stands and how the
numbers without digits are spelled is decided by the format: scripts shown to
people and documents spell NaN and infinity differently.
-/

namespace StackScript
namespace Binary64

/-- What a format decides about the text of floating-point numbers. -/
structure Format where
  nan : String
  infinity : String
  /-- The least exponent of the leading digit that is written positionally. -/
  leastPositional : Int
  /-- The least exponent of the leading digit from which an exponent is written
  instead. -/
  leastScientific : Int

def shownFormat : Format :=
  { nan := "nan", infinity := "inf"
    leastPositional := -4, leastScientific := 16 }

def documentFormat : Format :=
  { shownFormat with nan := "NaN", infinity := "Infinity" }

/-- Digits with a point behind the leading ones, and at least one digit on
either side of it. -/
def positional (digits : List Char) (exponent : Int) : List Char :=
  if exponent < 0 then
    ['0', '.'] ++ List.replicate (-exponent - 1).toNat '0' ++ digits
  else
    let whole := exponent.toNat + 1
    let padded := digits ++ List.replicate (whole - digits.length) '0'
    let fraction := padded.drop whole
    padded.take whole ++ ['.'] ++ (if fraction.isEmpty then ['0'] else fraction)

/-- Digits with a point behind the first, if others follow, and an exponent with
its sign and at least two digits. -/
def scientific (digits : List Char) (exponent : Int) : List Char :=
  let size := Nat.toDigits 10 exponent.natAbs
  digits.take 1 ++ (if digits.length ≤ 1 then [] else '.' :: digits.drop 1) ++
    ['e', if exponent < 0 then '-' else '+'] ++
    List.replicate (2 - size.length) '0' ++ size

def text (format : Format) (number : Binary64) : String :=
  let sign := if number.isNegative then "-" else ""
  if number.isNaN then format.nan
  else if !number.isFinite then sign ++ format.infinity
  else
    let decimal := number.shortest
    let digits := Nat.toDigits 10 decimal.digits
    let exponent := decimal.exponent + digits.length - 1
    let isPositional :=
      format.leastPositional ≤ exponent ∧ exponent < format.leastScientific
    sign ++ String.ofList
      (if isPositional then positional digits exponent
        else scientific digits exponent)

end Binary64
end StackScript
