import StackScript.Power

/-!
# Integers as bytes

Integers travel as little-endian bytes.  A natural takes the fewest bytes that
hold it, so that filling up with zeros restores it.  A negative integer takes
all sixteen bytes, because its high bytes are never zero.
-/

namespace StackScript
namespace Wire

/-- The number of bytes of an integer in full. -/
def integerWidth : Nat := 16

/-- How often a natural can be divided by 256 before nothing is left, counting
up to a limit. -/
def divisions : (limit : Nat) → Nat → Nat
  | 0, _ => 0
  | limit + 1, number =>
    if number = 0 then 0 else divisions limit (number / 256) + 1

/-- How many bytes beyond the first an integer takes. -/
def extraBytes (integer : Int) : Nat :=
  if integer < 0 then integerWidth - 1
  else divisions (integerWidth - 1) (integer.toNat / 256)

/-- The lowest bytes of a natural, as many as the width says. -/
def littleEndian : (width : Nat) → Nat → List UInt8
  | 0, _ => []
  | width + 1, number =>
    UInt8.ofNat (number % 256) :: littleEndian width (number / 256)

def ofLittleEndian : List UInt8 → Nat
  | [] => 0
  | byte :: rest => byte.toNat + 256 * ofLittleEndian rest

@[simp]
theorem length_littleEndian (width number : Nat) :
    (littleEndian width number).length = width := by
  induction width generalizing number with
  | zero => rfl
  | succ width ih => simp [littleEndian, ih]

theorem ofLittleEndian_lt (bytes : List UInt8) :
    ofLittleEndian bytes < 256 ^ bytes.length := by
  induction bytes with
  | nil => simp [ofLittleEndian]
  | cons byte rest ih =>
      have small := byte.toNat_lt
      simp only [ofLittleEndian, List.length_cons, Nat.pow_succ]
      omega

/-- Bytes that can hold a natural give it back. -/
theorem ofLittleEndian_littleEndian {width number : Nat}
    (fits : number < 256 ^ width) :
    ofLittleEndian (littleEndian width number) = number := by
  induction width generalizing number with
  | zero =>
      simp only [Nat.pow_zero] at fits
      simp only [littleEndian, ofLittleEndian]
      omega
  | succ width ih =>
      have quotientFits : number / 256 < 256 ^ width := by
        rw [Nat.pow_succ] at fits
        omega
      have remainder : (UInt8.ofNat (number % 256)).toNat = number % 256 := by
        simp
      simp only [littleEndian, ofLittleEndian, ih quotientFits, remainder]
      omega

/-- A natural determines the bytes that hold it, once their number is known. -/
theorem littleEndian_ofLittleEndian (bytes : List UInt8) :
    littleEndian bytes.length (ofLittleEndian bytes) = bytes := by
  induction bytes with
  | nil => rfl
  | cons byte rest ih =>
      have small := byte.toNat_lt
      have low : (byte.toNat + 256 * ofLittleEndian rest) % 256 = byte.toNat := by
        omega
      have high : (byte.toNat + 256 * ofLittleEndian rest) / 256 =
          ofLittleEndian rest := by
        omega
      simp only [ofLittleEndian, List.length_cons, littleEndian, low, high, ih,
        UInt8.ofNat_toNat]

/-- The two's complement of an integer in the given number of bytes. -/
def twosComplement (width : Nat) (integer : Int) : List UInt8 :=
  littleEndian width (integer % (256 ^ width : Nat)).toNat

def ofTwosComplement (bytes : List UInt8) : Int :=
  let unsigned := ofLittleEndian bytes
  let modulus := 256 ^ bytes.length
  if modulus ≤ 2 * unsigned then (unsigned : Int) - modulus else unsigned

/-- Bytes with zeros behind them up to the full width of an integer. -/
def zeroFilled (bytes : List UInt8) : List UInt8 :=
  bytes ++ List.replicate (integerWidth - bytes.length) 0

end Wire
end StackScript
