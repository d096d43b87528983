import StackScript.Hexadecimal

/-!
# Spellings of hexadecimal digits

Bytes are printed in one way and read from many: every digit may be in either case,
and blanks may stand anywhere, also between the two digits of a byte.  This file
states the spellings of printed digits without the reader and shows that the reader
takes every one of them for the bytes.
-/

namespace StackScript

namespace Hexadecimal

/-- The text spells the digits, which are in small letters: each in either case, in
their order, with any blanks before, between and behind them. -/
inductive Spelling : List Char → Text → Prop where
  | nil : Spelling [] []
  | blank {digits : List Char} {point : CodePoint} {text : Text}
      (isBlank : point.isBlank = true) (rest : Spelling digits text) :
      Spelling digits (point :: text)
  | digit {digit : Char} {digits : List Char} {point : CodePoint} {text : Text}
      (eitherCase : point = CodePoint.ofChar digit ∨
        point = CodePoint.ofChar digit.toUpper)
      (rest : Spelling digits text) :
      Spelling (digit :: digits) (point :: text)

theorem spelling_nil_cons_iff {point : CodePoint} {text : Text} :
    Spelling [] (point :: text) ↔ point.isBlank = true ∧ Spelling [] text := by
  constructor
  · intro spelling
    cases spelling with
    | blank isBlank rest => exact ⟨isBlank, rest⟩
  · rintro ⟨isBlank, rest⟩
    exact .blank isBlank rest

theorem spelling_cons_cons_iff {digit : Char} {digits : List Char}
    {point : CodePoint} {text : Text} :
    Spelling (digit :: digits) (point :: text) ↔
      (point.isBlank = true ∧ Spelling (digit :: digits) text) ∨
        ((point = CodePoint.ofChar digit ∨
          point = CodePoint.ofChar digit.toUpper) ∧ Spelling digits text) := by
  constructor
  · intro spelling
    cases spelling with
    | blank isBlank rest => exact .inl ⟨isBlank, rest⟩
    | digit eitherCase rest => exact .inr ⟨eitherCase, rest⟩
  · rintro (⟨isBlank, rest⟩ | ⟨eitherCase, rest⟩)
    · exact .blank isBlank rest
    · exact .digit eitherCase rest

instance decidableSpelling :
    (digits : List Char) → (text : Text) → Decidable (Spelling digits text)
  | [], [] => .isTrue .nil
  | _ :: _, [] => .isFalse nofun
  | [], _ :: text =>
    have := decidableSpelling [] text
    decidable_of_iff' _ spelling_nil_cons_iff
  | digit :: digits, _ :: text =>
    have := decidableSpelling (digit :: digits) text
    have := decidableSpelling digits text
    decidable_of_iff' _ spelling_cons_cons_iff

/-! ## Digits -/

theorem hexDigit?_of_eitherCase {number : Nat} {point : CodePoint}
    (small : number < 16)
    (eitherCase : point = CodePoint.ofChar number.digitChar ∨
      point = CodePoint.ofChar number.digitChar.toUpper) :
    point.hexDigit? = some number := by
  obtain rfl | rfl := eitherCase
  · revert number
    decide
  · revert number
    decide

theorem range_of_hexDigit? {point : CodePoint} {number : Nat}
    (isDigit : point.hexDigit? = some number) :
    0x30 ≤ point.val ∧ point.val ≤ 0x66 := by
  grind [CodePoint.hexDigit?]

theorem isBlank_of_hexDigit? {point : CodePoint} {number : Nat}
    (isDigit : point.hexDigit? = some number) : point.isBlank = false := by
  have range := range_of_hexDigit? isDigit
  simp only [CodePoint.isBlank, Bool.or_eq_false_iff, Bool.and_eq_false_iff,
    decide_eq_false_iff_not, beq_eq_false_iff_ne]
  omega

/-! ## Printing -/

/-- The numbers of the two digits of a byte. -/
def halves (byte : UInt8) : List Nat := [byte.toNat / 16, byte.toNat % 16]

theorem toList_hexadecimal_two {number : Nat} (small : number < 256) :
    (hexadecimal 2 number).toList =
      [(number / 16).digitChar, (number % 16).digitChar] := by
  obtain oneDigit | twoDigits := Nat.lt_or_ge number 16
  · have highEq : number / 16 = 0 := by omega
    have lowEq : number % 16 = number := by omega
    simp [hexadecimal, Nat.toDigits_of_lt_base oneDigit, highEq, lowEq,
      Nat.digitChar]
  · have highSmall : number / 16 < 16 := by omega
    simp [hexadecimal, Nat.toDigits_of_base_le (by decide) twoDigits,
      Nat.toDigits_of_lt_base highSmall]

theorem toList_print (bytes : List UInt8) :
    (print bytes).toList = (bytes.flatMap halves).map Nat.digitChar := by
  induction bytes with
  | nil => rfl
  | cons byte bytes ih =>
      have printed := toList_hexadecimal_two byte.toNat_lt
      rw [print, String.toList_join] at ih ⊢
      simp [printed, ih, halves]

/-! ## Reading -/

/-- A spelling without its blanks has the same digits. -/
theorem Spelling.map_hexDigit? {numbers : List Nat} {text : Text}
    (small : ∀ number ∈ numbers, number < 16)
    (spelling : Spelling (numbers.map Nat.digitChar) text) :
    text.withoutBlanks.map CodePoint.hexDigit? = numbers.map some := by
  generalize digitsEq : numbers.map Nat.digitChar = digits at spelling
  induction spelling generalizing numbers with
  | nil =>
      rw [List.map_eq_nil_iff] at digitsEq
      subst digitsEq
      rfl
  | blank isBlank rest ih =>
      simpa [Text.withoutBlanks, isBlank] using ih small digitsEq
  | digit eitherCase rest ih =>
      obtain ⟨number, others, rfl, rfl, othersEq⟩ :=
        List.map_eq_cons_iff.mp digitsEq
      obtain ⟨numberSmall, othersSmall⟩ := List.forall_mem_cons.mp small
      have isDigit := hexDigit?_of_eitherCase numberSmall eitherCase
      have restEq := ih othersSmall othersEq
      simpa [Text.withoutBlanks, isBlank_of_hexDigit? isDigit, isDigit] using restEq

/-- Pairs of digits are read as the bytes whose halves they are. -/
theorem readPairs_of_halves {bytes : List UInt8} {text : Text} (position : Nat)
    (digits : text.map CodePoint.hexDigit? = (bytes.flatMap halves).map some) :
    readPairs position text = .ok bytes := by
  induction bytes generalizing text position with
  | nil =>
      simp only [List.flatMap_nil, List.map_nil, List.map_eq_nil_iff] at digits
      subst digits
      rfl
  | cons byte bytes ih =>
      simp only [List.flatMap_cons, halves, List.cons_append, List.nil_append,
        List.map_cons, List.map_eq_cons_iff] at digits
      obtain ⟨first, _, rfl, highEq, second, rest, rfl, lowEq, restEq⟩ := digits
      have byteEq : 16 * (byte.toNat / 16) + byte.toNat % 16 = byte.toNat := by
        omega
      simp [readPairs, highEq, lowEq, ih (position + 2) restEq, byteEq, Except.map]

/-- Every spelling of the printed digits is read as the bytes. -/
theorem parse_of_spelling {bytes : List UInt8} {text : Text}
    (spelling : Spelling (print bytes).toList text) : parse text = .ok bytes := by
  have small : ∀ number ∈ bytes.flatMap halves, number < 16 := by
    intro number member
    obtain ⟨byte, _, isHalf⟩ := List.mem_flatMap.mp member
    have byteLt := byte.toNat_lt
    simp only [halves, List.mem_cons, List.not_mem_nil, or_false] at isHalf
    omega
  rw [toList_print] at spelling
  have digits := spelling.map_hexDigit? small
  have sevenBits : text.withoutBlanks.findIdx?
      (fun point => 0x80 ≤ point.val) = none := by
    rw [List.findIdx?_eq_none_iff]
    intro point member
    have isDigit : point.hexDigit? ∈ (bytes.flatMap halves).map some :=
      digits ▸ List.mem_map_of_mem member
    obtain ⟨number, _, numberEq⟩ := List.mem_map.mp isDigit
    have range := range_of_hexDigit? numberEq.symm
    simp only [decide_eq_false_iff_not]
    omega
  simp only [parse, sevenBits]
  exact readPairs_of_halves 0 digits

-- Two blanks of different kinds, one of them inside a byte, and both cases of a digit.
example : Spelling (print [0xE2, 0xEE]).toList
    (Text.ofString "e\t2\u3000eE") := by
  decide +kernel

-- Another order of the digits is no spelling.
example : ¬ Spelling (print [0xE2, 0xEE]).toList (Text.ofString "2eee") := by
  decide +kernel

end Hexadecimal

end StackScript
