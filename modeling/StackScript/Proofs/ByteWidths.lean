import StackScript.Value.Basic
import StackScript.Wire.Width

/-!
# How many bytes an integer takes

`extraBytes` is the least number of bytes beyond the first that hold a natural.
Cutting the sixteen bytes of an integer to that width loses nothing: a natural
comes back by filling up with zeros, and the bytes of a negative integer are never
cut.
-/

namespace StackScript

namespace Wire

/-! ## Naturals -/

theorem divisions_le (limit number : Nat) :
    divisions limit number ≤ limit := by
  induction limit generalizing number with
  | zero => exact Nat.le_refl 0
  | succ limit ih =>
      rw [divisions]
      split
      · exact Nat.zero_le _
      · exact Nat.succ_le_succ (ih (number / 256))

/-- A natural that fits into some bytes is used up by that many divisions. -/
theorem divisions_le_of_lt {number width : Nat} (limit : Nat)
    (fits : number < 256 ^ width) :
    divisions limit number ≤ width := by
  induction limit generalizing number width with
  | zero => exact Nat.zero_le _
  | succ limit ih =>
      rw [divisions]
      split
      · exact Nat.zero_le _
      · cases width with
        | zero =>
            rw [Nat.pow_zero] at fits
            omega
        | succ width =>
            have quotientFits : number / 256 < 256 ^ width := by
              rw [Nat.pow_succ] at fits
              omega
            exact Nat.succ_le_succ (ih quotientFits)

/-- A natural that the limit does not cut off fits into as many bytes as it can
be divided. -/
theorem lt_pow_divisions {limit number : Nat} (fits : number < 256 ^ limit) :
    number < 256 ^ divisions limit number := by
  induction limit generalizing number with
  | zero => exact fits
  | succ limit ih =>
      rw [divisions]
      split
      · rename_i isZero
        rw [isZero]
        exact Nat.one_pos
      · have quotientFits : number / 256 < 256 ^ limit := by
          rw [Nat.pow_succ] at fits
          omega
        have quotientLt := ih quotientFits
        rw [Nat.pow_succ]
        omega

theorem extraBytes_natCast (number : Nat) :
    extraBytes number = divisions (integerWidth - 1) (number / 256) := by
  rw [extraBytes, if_neg (by omega)]
  rfl

theorem extraBytes_lt_integerWidth (integer : Int) :
    extraBytes integer < integerWidth := by
  rw [extraBytes]
  split
  · decide
  · exact Nat.lt_succ_of_le (divisions_le _ _)

theorem extraBytes_of_neg {integer : Int} (negative : integer < 0) :
    extraBytes integer = integerWidth - 1 :=
  if_pos negative

/-- An integer that is not written in full is a natural. -/
theorem nonneg_of_extraBytes {integer : Int}
    (short : extraBytes integer + 1 < integerWidth) : 0 ≤ integer := by
  apply Int.not_lt.mp
  intro negative
  rw [extraBytes_of_neg negative] at short
  exact absurd short (by decide)

/-- The bytes that a natural takes hold it. -/
theorem lt_pow_extraBytes {number : Nat}
    (fits : number < 256 ^ integerWidth) :
    number < 256 ^ (extraBytes number + 1) := by
  have quotientFits : number / 256 < 256 ^ (integerWidth - 1) := by
    have powerEq : 256 ^ integerWidth = 256 ^ (integerWidth - 1) * 256 := rfl
    omega
  have quotientLt := lt_pow_divisions quotientFits
  rw [extraBytes_natCast, Nat.pow_succ]
  omega

/-- No smaller number of bytes holds a natural. -/
theorem extraBytes_lt_of_lt {number width : Nat} (positive : 0 < width)
    (fits : number < 256 ^ width) :
    extraBytes number < width := by
  cases width with
  | zero => cases positive
  | succ width =>
      have quotientFits : number / 256 < 256 ^ width := by
        rw [Nat.pow_succ] at fits
        omega
      rw [extraBytes_natCast]
      exact Nat.lt_succ_of_le (divisions_le_of_lt _ quotientFits)

theorem take_littleEndian {count width : Nat} (within : count ≤ width)
    (number : Nat) :
    (littleEndian width number).take count = littleEndian count number := by
  induction count generalizing width number with
  | zero => rfl
  | succ count ih =>
      cases width with
      | zero => cases within
      | succ width =>
          rw [littleEndian, List.take_succ_cons,
            ih (Nat.le_of_succ_le_succ within), littleEndian]

theorem ofLittleEndian_zeros (count : Nat) :
    ofLittleEndian (List.replicate count 0) = 0 := by
  induction count with
  | zero => rfl
  | succ count ih => simp [List.replicate_succ, ofLittleEndian, ih]

theorem ofLittleEndian_append_zeros (bytes : List UInt8) (count : Nat) :
    ofLittleEndian (bytes ++ List.replicate count 0) =
      ofLittleEndian bytes := by
  induction bytes with
  | nil => exact ofLittleEndian_zeros count
  | cons byte rest ih =>
      rw [List.cons_append, ofLittleEndian, ofLittleEndian, ih]

/-! ## Integers in two's complement -/

theorem length_twosComplement (width : Nat) (integer : Int) :
    (twosComplement width integer).length = width :=
  length_littleEndian _ _

theorem twosComplement_natCast {width number : Nat}
    (fits : number < 256 ^ width) :
    twosComplement width number = littleEndian width number := by
  rw [twosComplement, ← Int.natCast_emod, Int.toNat_natCast,
    Nat.mod_eq_of_lt fits]

/-- The integers whose doubles the modulus bounds are read as they are written. -/
theorem ofTwosComplement_twosComplement {width : Nat} {integer : Int}
    (lower : -((256 ^ width : Nat) : Int) ≤ 2 * integer)
    (upper : 2 * integer < ((256 ^ width : Nat) : Int)) :
    ofTwosComplement (twosComplement width integer) = integer := by
  have positive : 0 < 256 ^ width := Nat.pow_pos (by decide)
  have remainderFits :
      (integer % (256 ^ width : Nat)).toNat < 256 ^ width := by
    have remainderLt := Int.emod_lt_of_pos integer
      (Int.natCast_pos.mpr positive)
    omega
  simp only [ofTwosComplement, twosComplement, length_littleEndian,
    ofLittleEndian_littleEndian remainderFits]
  by_cases negative : integer < 0
  · have remainderEq : integer % (256 ^ width : Nat) =
        integer + (256 ^ width : Nat) := by
      rw [← Int.add_emod_right]
      exact Int.emod_eq_of_lt (by omega) (by omega)
    rw [remainderEq, if_pos (by omega)]
    omega
  · have remainderEq : integer % (256 ^ width : Nat) = integer :=
      Int.emod_eq_of_lt (by omega) (by omega)
    rw [remainderEq, if_neg (by omega)]
    omega

/-- An integer determines the bytes that hold it in two's complement, once their
number is known. -/
theorem twosComplement_ofTwosComplement (bytes : List UInt8) :
    twosComplement bytes.length (ofTwosComplement bytes) = bytes := by
  have unsignedLt := ofLittleEndian_lt bytes
  have remainderEq : ofTwosComplement bytes % (256 ^ bytes.length : Nat) =
      ofLittleEndian bytes := by
    simp only [ofTwosComplement]
    split
    · rw [← Int.add_emod_right, Int.sub_add_cancel]
      exact Int.emod_eq_of_lt (by omega) (by omega)
    · exact Int.emod_eq_of_lt (by omega) (by omega)
  rw [twosComplement, remainderEq, Int.toNat_natCast]
  exact littleEndian_ofLittleEndian bytes

theorem length_zeroFilled {bytes : List UInt8}
    (fits : bytes.length ≤ integerWidth) :
    (zeroFilled bytes).length = integerWidth := by
  rw [zeroFilled, List.length_append, List.length_replicate]
  omega

/-- Zeros behind a short body make it a natural. -/
theorem ofTwosComplement_zeroFilled_short {bytes : List UInt8}
    (short : bytes.length < integerWidth) :
    ofTwosComplement (zeroFilled bytes) = ofLittleEndian bytes := by
  have unsignedLt : ofLittleEndian bytes < 256 ^ (integerWidth - 1) :=
    Nat.lt_of_lt_of_le (ofLittleEndian_lt bytes)
      (Nat.pow_le_pow_right (by decide) (Nat.le_sub_one_of_lt short))
  have powerEq : 256 ^ integerWidth = 256 ^ (integerWidth - 1) * 256 := rfl
  rw [ofTwosComplement, length_zeroFilled (Nat.le_of_lt short), zeroFilled,
    ofLittleEndian_append_zeros]
  exact if_neg (by omega)

theorem zeroFilled_full {bytes : List UInt8}
    (full : bytes.length = integerWidth) :
    zeroFilled bytes = bytes := by
  rw [zeroFilled, full, Nat.sub_self, List.replicate_zero, List.append_nil]

/-- Sixteen bytes or fewer never hold more than an integer of 128 bits. -/
theorem inRange_ofTwosComplement_zeroFilled {bytes : List UInt8}
    (fits : bytes.length ≤ integerWidth) :
    Int128.InRange (ofTwosComplement (zeroFilled bytes)) := by
  have unsignedLt := ofLittleEndian_lt (zeroFilled bytes)
  have lengthEq := length_zeroFilled fits
  have powerEq : 256 ^ integerWidth = 2 * 2 ^ 127 := by decide
  rw [lengthEq] at unsignedLt
  rw [Int128.InRange, ofTwosComplement, lengthEq]
  split <;> omega

/-! ## The least width -/

/-- A natural that the limit cuts off uses it up. -/
theorem divisions_of_pow_le {limit number : Nat} (large : 256 ^ limit ≤ number) :
    divisions limit number = limit := by
  induction limit generalizing number with
  | zero => rfl
  | succ limit ih =>
      have positive : 0 < 256 ^ limit := Nat.pow_pos (by decide)
      rw [Nat.pow_succ] at large
      have quotientLarge : 256 ^ limit ≤ number / 256 := by omega
      rw [divisions, if_neg (by omega), ih quotientLarge]

theorem extraBytes_of_pow_le {number : Nat}
    (large : 256 ^ integerWidth ≤ number) :
    extraBytes number = integerWidth - 1 := by
  have powerEq : 256 ^ integerWidth = 256 ^ (integerWidth - 1) * 256 := rfl
  rw [extraBytes_natCast]
  exact divisions_of_pow_le (by omega)

/-- A natural that takes more than one byte does not fit into one less. -/
theorem pow_extraBytes_le {number : Nat} (several : 0 < extraBytes number) :
    256 ^ extraBytes number ≤ number := by
  apply Nat.not_lt.mp
  intro fits
  exact Nat.lt_irrefl _ (extraBytes_lt_of_lt several fits)

theorem take_twosComplement_natCast {count number : Nat}
    (within : count ≤ integerWidth) (fits : number < 256 ^ integerWidth) :
    (twosComplement integerWidth number).take count =
      littleEndian count number := by
  rw [twosComplement_natCast fits]
  exact take_littleEndian within number

/-- What is read from the first bytes of an integer, with zeros in place of the
others. -/
def readFromFirst (count : Nat) (integer : Int) : Int :=
  ofTwosComplement (zeroFilled ((twosComplement integerWidth integer).take count))

theorem readFromFirst_integerWidth {integer : Int}
    (inside : Int128.InRange integer) :
    readFromFirst integerWidth integer = integer := by
  have lengthEq := length_twosComplement integerWidth integer
  have powerEq : 256 ^ integerWidth = 2 * 2 ^ 127 := by decide
  obtain ⟨lower, upper⟩ := inside
  rw [readFromFirst, List.take_of_length_le (Nat.le_of_eq lengthEq),
    zeroFilled_full lengthEq]
  apply ofTwosComplement_twosComplement <;> rw [powerEq] <;> omega

/-- Without the last byte there is no sign, and what is read fits into the bytes. -/
theorem readFromFirst_short {count : Nat} (short : count < integerWidth)
    (integer : Int) :
    0 ≤ readFromFirst count integer ∧
      readFromFirst count integer < (256 ^ count : Nat) := by
  have lengthEq :
      ((twosComplement integerWidth integer).take count).length = count := by
    rw [List.length_take, length_twosComplement]
    omega
  have unsignedLt :=
    ofLittleEndian_lt ((twosComplement integerWidth integer).take count)
  rw [lengthEq] at unsignedLt
  rw [readFromFirst, ofTwosComplement_zeroFilled_short (by omega)]
  omega

theorem readFromFirst_natCast {count number : Nat} (short : count < integerWidth)
    (fits : number < 256 ^ count) :
    readFromFirst count number = number := by
  have fitsInFull : number < 256 ^ integerWidth :=
    Nat.lt_of_lt_of_le fits (Nat.pow_le_pow_right (by decide) (Nat.le_of_lt short))
  rw [readFromFirst, take_twosComplement_natCast (Nat.le_of_lt short) fitsInFull,
    ofTwosComplement_zeroFilled_short (by rwa [length_littleEndian]),
    ofLittleEndian_littleEndian fits]

/-- The bytes that an integer takes are enough to read it. -/
theorem readFromFirst_extraBytes {integer : Int}
    (inside : Int128.InRange integer) :
    readFromFirst (extraBytes integer + 1) integer = integer := by
  have small : extraBytes integer + 1 ≤ integerWidth :=
    extraBytes_lt_integerWidth integer
  rcases Nat.lt_or_eq_of_le small with short | full
  · obtain ⟨number, rfl⟩ :=
      Int.eq_ofNat_of_zero_le (nonneg_of_extraBytes short)
    have fits : number < 256 ^ integerWidth := by
      have upper := inside.2
      rw [integerWidth]
      omega
    exact readFromFirst_natCast short (lt_pow_extraBytes fits)
  · rw [full]
    exact readFromFirst_integerWidth inside

/-- Fewer bytes are not enough: a sign is lost, or the number is too large. -/
theorem readFromFirst_ne {count : Nat} {integer : Int}
    (fewer : count < extraBytes integer) :
    readFromFirst (count + 1) integer ≠ integer := by
  have small := extraBytes_lt_integerWidth integer
  obtain ⟨nonneg, below⟩ :=
    readFromFirst_short (Nat.lt_of_le_of_lt fewer small) integer
  intro restored
  rw [restored] at nonneg below
  obtain ⟨number, rfl⟩ := Int.eq_ofNat_of_zero_le nonneg
  have large : 256 ^ (count + 1) ≤ number :=
    Nat.le_trans (Nat.pow_le_pow_right (by decide) fewer)
      (pow_extraBytes_le (Nat.zero_lt_of_lt fewer))
  omega

/-- The width of an integer is the least that holds it.  Naturals of up to sixteen
bytes fit into the bytes that they take and into no fewer; negative integers and
larger naturals are given all sixteen.  An integer of 128 bits can be read from as many
of its bytes, and not from fewer. -/
theorem extraBytes_is_least (integer : Int) :
    (0 ≤ integer → integer < 2 ^ 128 →
      extraBytes integer ≤ 15 ∧
        integer < (256 ^ (extraBytes integer + 1) : Nat) ∧
        (extraBytes integer = 0 ∨ (256 ^ extraBytes integer : Nat) ≤ integer)) ∧
    (2 ^ 128 ≤ integer ∨ integer < 0 → extraBytes integer = 15) ∧
    (Int128.InRange integer →
      ofTwosComplement (zeroFilled
        ((twosComplement 16 integer).take (extraBytes integer + 1))) = integer ∧
      ∀ count < extraBytes integer,
        ofTwosComplement (zeroFilled
          ((twosComplement 16 integer).take (count + 1))) ≠ integer) := by
  have powerEq : 256 ^ integerWidth = 2 ^ 128 := by decide
  refine ⟨?_, ?_, ?_⟩
  · intro nonneg bounded
    obtain ⟨number, rfl⟩ := Int.eq_ofNat_of_zero_le nonneg
    have fits : number < 256 ^ integerWidth := by omega
    refine ⟨Nat.le_of_lt_succ (extraBytes_lt_integerWidth _),
      Int.ofNat_lt.mpr (lt_pow_extraBytes fits), ?_⟩
    rcases Nat.eq_zero_or_pos (extraBytes number) with single | several
    · exact .inl single
    · exact .inr (Int.ofNat_le.mpr (pow_extraBytes_le several))
  · rintro (large | negative)
    · obtain ⟨number, rfl⟩ := Int.eq_ofNat_of_zero_le (by omega : 0 ≤ integer)
      exact extraBytes_of_pow_le (by omega)
    · exact extraBytes_of_neg negative
  · intro inside
    exact ⟨readFromFirst_extraBytes inside, fun _ fewer => readFromFirst_ne fewer⟩

/-- Above the greatest natural of one byte a second one is taken, and without it the
number is lost.  So is minus one without the last of its sixteen bytes. -/
theorem extraBytes_is_least_boundary :
    extraBytes 255 = 0 ∧ extraBytes 256 = 1 ∧
      (256 : Int) < (256 ^ (extraBytes 256 + 1) : Nat) ∧
      ofTwosComplement (zeroFilled ((twosComplement 16 256).take 2)) = 256 ∧
      ofTwosComplement (zeroFilled ((twosComplement 16 256).take 1)) ≠ 256 ∧
      extraBytes (2 ^ 128) = 15 ∧ extraBytes (-1) = 15 ∧
      ofTwosComplement (zeroFilled ((twosComplement 16 (-1)).take 15)) ≠ -1 := by
  obtain ⟨held, _, read⟩ := extraBytes_is_least 256
  obtain ⟨_, negative, readNegative⟩ := extraBytes_is_least (-1)
  obtain ⟨_, large, _⟩ := extraBytes_is_least (2 ^ 128)
  obtain ⟨restored, lost⟩ := read (by decide)
  exact ⟨rfl, rfl, (held (by decide) (by decide)).2.1, restored,
    lost 0 (by decide), large (.inl (by decide)), negative (.inr (by decide)),
    (readNegative (by decide)).2 14 (by decide)⟩

end Wire
end StackScript
