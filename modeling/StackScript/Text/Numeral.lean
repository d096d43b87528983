import StackScript.Power
import StackScript.Text.Blank

/-!
# Decimal digits of all scripts

Every script that writes numbers positionally has ten consecutive code points
for its digits, so the zeros say everything.  Numerals given on the command
line may use any of them.
-/

namespace StackScript
namespace CodePoint

/-- The code points of the digit zero, in ascending order. -/
def zeros : List Nat := [
  0x30, 0x660, 0x6F0, 0x7C0, 0x966, 0x9E6, 0xA66, 0xAE6, 0xB66, 0xBE6, 0xC66,
  0xCE6, 0xD66, 0xDE6, 0xE50, 0xED0, 0xF20, 0x1040, 0x1090, 0x17E0, 0x1810,
  0x1946, 0x19D0, 0x1A80, 0x1A90, 0x1B50, 0x1BB0, 0x1C40, 0x1C50, 0xA620,
  0xA8D0, 0xA900, 0xA9D0, 0xA9F0, 0xAA50, 0xABF0, 0xFF10, 0x104A0, 0x10D30,
  0x11066, 0x110F0, 0x11136, 0x111D0, 0x112F0, 0x11450, 0x114D0, 0x11650,
  0x116C0, 0x11730, 0x118E0, 0x11950, 0x11C50, 0x11D50, 0x11DA0, 0x16A60,
  0x16AC0, 0x16B50, 0x1D7CE, 0x1D7D8, 0x1D7E2, 0x1D7EC, 0x1D7F6, 0x1E140,
  0x1E2F0, 0x1E950, 0x1FBF0
]

/-- The number a decimal digit stands for. -/
def digitValue? (point : CodePoint) : Option Nat :=
  (zeros.find? fun first => first ≤ point.val && point.val < first + 10).map
    (point.val - ·)

end CodePoint

namespace Text

/-- Reads decimal digits, with single underscores allowed between two of them,
after the digits that make up `value` so far.  The second argument tells whether
the last code point was a digit.  The answer carries the number of digits. -/
def readDigits (value count : Nat) (afterDigit : Bool) :
    Text → Option (Nat × Nat)
  | [] => if afterDigit then some (value, count) else none
  | point :: rest =>
    match point.digitValue? with
    | some digit => readDigits (10 * value + digit) (count + 1) true rest
    | none =>
      if point = CodePoint.ofChar '_' ∧ afterDigit then
        readDigits value count false rest
      else none

/-- The longest numeral that is read or shown, in digits. -/
def numeralLimit : Nat := 4300

/-- Whether an integer has too many digits to be shown. -/
def isLongInteger (integer : Int) : Bool := 10 ^ numeralLimit ≤ integer.natAbs

/-- An integer of few bits has few digits. -/
theorem isLongInteger_eq_false {integer : Int} {bits : Nat}
    (few : bits ≤ numeralLimit) (bounded : integer.natAbs < 2 ^ bits) :
    isLongInteger integer = false := by
  have fewDigits : 2 ^ bits ≤ 10 ^ numeralLimit :=
    Nat.le_trans (Nat.pow_le_pow_left (by decide) bits)
      (Nat.pow_le_pow_right (by decide) few)
  exact decide_eq_false (Nat.not_le.mpr (Nat.lt_of_lt_of_le bounded fewDigits))

/-- Says that an integer is too long to be shown. -/
def longIntegerMessage : String :=
  "Exceeds the limit (" ++ toString numeralLimit ++
    " digits) for integer string conversion; use " ++
    "sys.set_int_max_str_digits() to increase the limit"

def longIntegerLabel : String := "ValueError"

/-- Reads a numeral of at most `numeralLimit` digits. -/
def readNatural? (text : Text) : Option Nat :=
  (readDigits 0 0 false text).bind fun (value, count) =>
    if count ≤ numeralLimit then some value else none

/-- Reads an integer: blanks around it, one sign and single underscores between
digits are allowed. -/
def readInteger? (text : Text) : Option Int :=
  match text.trimBlank with
  | [] => none
  | sign :: digits =>
    if sign = CodePoint.ofChar '-' then
      (readNatural? digits).map fun value : Nat => -(value : Int)
    else if sign = CodePoint.ofChar '+' then
      (readNatural? digits).map Int.ofNat
    else (readNatural? (sign :: digits)).map Int.ofNat

theorem digitValue?_lt {point : CodePoint} {digit : Nat}
    (found : point.digitValue? = some digit) : digit < 10 := by
  obtain ⟨first, firstFound, rfl⟩ := Option.map_eq_some_iff.mp found
  have inBlock := List.find?_some firstFound
  simp only [Bool.and_eq_true, decide_eq_true_eq] at inBlock
  omega

theorem readDigits_lt {value count : Nat} {afterDigit : Bool} {text : Text}
    {result : Nat × Nat} (below : value < 10 ^ count)
    (read : readDigits value count afterDigit text = some result) :
    result.1 < 10 ^ result.2 := by
  induction text generalizing value count afterDigit with
  | nil =>
      cases afterDigit with
      | true =>
          cases read
          exact below
      | false => cases read
  | cons point rest ih =>
      simp only [readDigits] at read
      split at read
      · next digit found =>
          refine ih ?_ read
          have small := digitValue?_lt found
          rw [Nat.pow_succ]
          omega
      · split at read
        · exact ih below read
        · cases read

theorem readNatural?_lt {text : Text} {value : Nat}
    (read : readNatural? text = some value) : value < 10 ^ numeralLimit := by
  obtain ⟨⟨given, count⟩, digits, accepted⟩ := Option.bind_eq_some_iff.mp read
  obtain ⟨few, held⟩ := Option.ite_none_right_eq_some.mp accepted
  cases held
  have below : value < 10 ^ count := readDigits_lt Nat.one_pos digits
  exact Nat.lt_of_lt_of_le below (Nat.pow_le_pow_right (by decide) few)

/-- An integer that could be read can be shown. -/
theorem isLongInteger_of_readInteger? {text : Text} {integer : Int}
    (read : readInteger? text = some integer) : isLongInteger integer = false := by
  have bounded : integer.natAbs < 10 ^ numeralLimit := by
    simp only [readInteger?] at read
    split at read
    · cases read
    · split at read
      · obtain ⟨value, digits, rfl⟩ := Option.map_eq_some_iff.mp read
        rw [Int.natAbs_neg]
        exact readNatural?_lt digits
      · split at read <;>
        · obtain ⟨value, digits, rfl⟩ := Option.map_eq_some_iff.mp read
          exact readNatural?_lt digits
  exact decide_eq_false (Nat.not_le.mpr bounded)

end Text
end StackScript
