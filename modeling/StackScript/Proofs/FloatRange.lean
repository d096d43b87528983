import StackScript.Value.Arithmetic

/-!
# Integers among the floating-point numbers

An integer becomes the nearest floating-point number.  That is finite unless the
rounding reaches `2 ^ 1024`, the power of two behind the greatest finite number.  Half
of the last place below that power, at `2 ^ 1024 - 2 ^ 970`, the two are equally near,
and the power has the even mantissa.  So this is the least integer that is refused.
-/

namespace StackScript

/-! ## Rounding -/

theorem le_roundQuotient (numerator denominator : Nat) :
    numerator / denominator ≤ roundQuotient numerator denominator := by
  simp only [roundQuotient]
  split <;> omega

theorem roundQuotient_le (numerator denominator : Nat) :
    roundQuotient numerator denominator ≤ numerator / denominator + 1 := by
  simp only [roundQuotient]
  split <;> omega

/-- An even integer is reached from half of one below it on. -/
theorem roundQuotient_lt_iff {numerator denominator bound : Nat}
    (positive : 0 < denominator) (even : bound % 2 = 0) :
    roundQuotient numerator denominator < bound ↔
      2 * numerator + denominator < 2 * (denominator * bound) := by
  have divided := Nat.div_add_mod numerator denominator
  have remainder := Nat.mod_lt numerator positive
  have atLeast := le_roundQuotient numerator denominator
  have atMost := roundQuotient_le numerator denominator
  rcases Nat.lt_trichotomy (numerator / denominator + 1) bound with below | same | beyond
  · have product : denominator * (numerator / denominator + 2) ≤ denominator * bound :=
      Nat.mul_le_mul_left _ below
    rw [Nat.mul_add] at product
    omega
  · -- The quotient is odd, so a half goes up.
    have product : denominator * bound =
        denominator * (numerator / denominator) + denominator := by
      rw [← same, Nat.mul_succ]
    simp only [roundQuotient]
    split <;> omega
  · have product : denominator * bound ≤ denominator * (numerator / denominator) :=
      Nat.mul_le_mul_left _ (Nat.le_of_lt_succ beyond)
    omega

/-! ## Magnitudes of integers -/

-- Stated of variables, because powers as large as those below are not evaluated.
theorem two_pow_of_add {first second sum : Nat} (sumEq : first + second = sum) :
    2 ^ sum = 2 ^ first * 2 ^ second := by
  rw [← sumEq, Nat.pow_add]

theorem floorLog2_one {number : Nat} (nonzero : number ≠ 0) :
    floorLog2 number 1 = number.log2 := by
  have reached : ¬number < 1 * 2 ^ number.log2 := by
    have := Nat.log2_self_le nonzero
    omega
  have noFactor : Nat.log2 1 = 0 := rfl
  simp only [floorLog2, divideByPower, noFactor, Int.ofNat_zero, Int.sub_zero,
    Int.natCast_nonneg, if_true, Int.toNat_natCast, reached, if_false]

/-- An integer as a fraction whose quotient has 53 bits. -/
def mantissaFraction (number : Nat) : Nat × Nat :=
  divideByPower number 1 ((number.log2 : Int) - 52)

/-- The quotient has 53 bits indeed. -/
theorem mantissaFraction_bounds {number : Nat} (nonzero : number ≠ 0) :
    2 ^ 52 ≤ (mantissaFraction number).1 / (mantissaFraction number).2 ∧
      (mantissaFraction number).1 / (mantissaFraction number).2 < 2 ^ 53 := by
  have above : 2 ^ number.log2 ≤ number := Nat.log2_self_le nonzero
  have below : number < 2 ^ (number.log2 + 1) := Nat.lt_log2_self
  unfold mantissaFraction divideByPower
  split
  · next wide =>
      obtain ⟨shift, shiftEq⟩ : ∃ shift, number.log2 = 52 + shift :=
        Nat.exists_eq_add_of_le (by omega)
      have powerEq : ((number.log2 : Int) - 52).toNat = shift := by omega
      have positive := Nat.two_pow_pos shift
      simp only [powerEq, Nat.one_mul]
      rw [Nat.le_div_iff_mul_le positive, Nat.div_lt_iff_lt_mul positive,
        ← Nat.pow_add, ← Nat.pow_add, ← shiftEq]
      exact ⟨above, by rwa [show 53 + shift = number.log2 + 1 by omega]⟩
  · next narrow =>
      have powerEq : (-((number.log2 : Int) - 52)).toNat = 52 - number.log2 := by
        omega
      have positive := Nat.two_pow_pos (52 - number.log2)
      simp only [powerEq, Nat.div_one]
      constructor
      · calc 2 ^ 52
            = 2 ^ number.log2 * 2 ^ (52 - number.log2) := by
              rw [← Nat.pow_add]; congr 1; omega
          _ ≤ number * 2 ^ (52 - number.log2) := Nat.mul_le_mul_right _ above
      · calc number * 2 ^ (52 - number.log2)
            < 2 ^ (number.log2 + 1) * 2 ^ (52 - number.log2) :=
              Nat.mul_lt_mul_of_pos_right below positive
          _ = 2 ^ 53 := by rw [← Nat.pow_add]; congr 1; omega

namespace Binary64

theorem nearestMagnitude_eq {number : Nat} (nonzero : number ≠ 0) :
    nearestMagnitude number 1 = (number.log2 + 1022) * 2 ^ 52 +
      roundQuotient (mantissaFraction number).1 (mantissaFraction number).2 := by
  have powerEq : max (floorLog2 number 1 - 52) (-1074) =
      (number.log2 : Int) - 52 := by
    rw [floorLog2_one nonzero]
    omega
  have fieldEq : ((number.log2 : Int) - 52 + 1074).toNat = number.log2 + 1022 := by
    omega
  simp only [nearestMagnitude, if_neg nonzero, powerEq, fieldEq]
  rfl

/-- Just below `2 ^ 1024` the rounding decides. -/
theorem roundQuotient_mantissaFraction_lt_iff {number : Nat}
    (highest : number.log2 = 1023) :
    roundQuotient (mantissaFraction number).1 (mantissaFraction number).2 < 2 ^ 53 ↔
      number < 2 ^ 1024 - 2 ^ 970 := by
  have shiftEq : (((1023 : Nat) : Int) - 52).toNat = 971 := by decide
  have fractionEq : mantissaFraction number = (number, 2 ^ 1 * 2 ^ 970) := by
    rw [mantissaFraction, highest, divideByPower, if_pos (by decide), shiftEq,
      Nat.one_mul, two_pow_of_add (by decide : 1 + 970 = 971)]
  have powerEq : 2 ^ 1024 = 2 ^ 54 * 2 ^ 970 := two_pow_of_add (by decide)
  have positive := Nat.two_pow_pos 970
  rw [fractionEq, powerEq, roundQuotient_lt_iff (by omega) (by decide)]
  omega

theorem nearestMagnitude_lt_iff {number : Nat} :
    nearestMagnitude number 1 < infinityMagnitude ↔ number < 2 ^ 1024 - 2 ^ 970 := by
  have positive := Nat.two_pow_pos 970
  have powerEq : 2 ^ 1024 = 2 ^ 54 * 2 ^ 970 := two_pow_of_add (by decide)
  by_cases nonzero : number = 0
  · subst nonzero
    have small : nearestMagnitude 0 1 < infinityMagnitude := by decide
    simp only [small, true_iff]
    omega
  · obtain ⟨atLeast, below⟩ := mantissaFraction_bounds nonzero
    have roundedUp := roundQuotient_le (mantissaFraction number).1 (mantissaFraction number).2
    have roundedDown := le_roundQuotient (mantissaFraction number).1 (mantissaFraction number).2
    rw [nearestMagnitude_eq nonzero, infinityMagnitude]
    rcases Nat.lt_trichotomy number.log2 1023 with lower | highest | higher
    · have bounded := lower
      rw [Nat.log2_lt nonzero] at bounded
      have halfEq : 2 ^ 1023 = 2 ^ 53 * 2 ^ 970 := two_pow_of_add (by decide)
      refine iff_of_true (by omega) ?_
      omega
    · rw [← roundQuotient_mantissaFraction_lt_iff highest, highest]
      omega
    · have reached : 1024 ≤ number.log2 := higher
      rw [Nat.le_log2 nonzero] at reached
      refine iff_of_false (by omega) ?_
      omega

theorem nearestMagnitude_lt {number : Nat} (bounded : number ≤ 2 ^ 127) :
    nearestMagnitude number 1 < infinityMagnitude := by
  have powerEq : 2 ^ 1024 = 2 ^ 54 * 2 ^ 970 := two_pow_of_add (by decide)
  have halfEq : 2 ^ 970 = 2 ^ 128 * 2 ^ 842 := two_pow_of_add (by decide)
  have positive := Nat.two_pow_pos 842
  rw [nearestMagnitude_lt_iff]
  omega

/-- The integers that are too large for a floating-point number. -/
theorem ofInt?_eq_none_iff {integer : Int} :
    ofInt? integer = none ↔ 2 ^ 1024 - 2 ^ 970 ≤ integer.natAbs := by
  rw [← Nat.not_lt, ← nearestMagnitude_lt_iff, ofInt?]
  split <;> simp_all

end Binary64
end StackScript
