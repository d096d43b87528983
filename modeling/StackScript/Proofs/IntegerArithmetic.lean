import StackScript.Proofs.ValueSoundness

/-!
# Arithmetic on integers of 128 bits

Sums and products of integers are computed without a bound and checked against the
range afterwards, so they are exact or refused.  A difference is the sum with the
negation, and the negation is checked on its own.  The range has one integer without
a negation, the lowest one.  Taking it away is always refused, also from a negative
integer, where the difference would have been in the range.
-/

namespace StackScript

namespace Int128

/-- The integer that has no negation. -/
def lowest : Int128 := ⟨-2 ^ 127, by decide, by decide⟩

theorem inRange_neg_val_iff {number : Int128} :
    InRange (-number.val) ↔ number ≠ lowest := by
  have lower := number.lower
  have upper := number.upper
  have lowestVal : lowest.val = -2 ^ 127 := rfl
  rw [ne_eq, Int128.ext_iff, lowestVal, InRange]
  omega

end Int128

namespace Value

open Int128

/-- The outcome is the exact integer if that has 128 bits, and an overflow if it has
more. -/
structure IsExact (exact : Int) (outcome : Except Fault Value) : Prop where
  held : InRange exact →
    ∃ number : Int128, number.val = exact ∧ outcome = .ok (.integer number)
  refused : ¬InRange exact →
    ∃ fault, fault.label = "IntegerOverflowError" ∧ outcome = .error fault

theorem isExact_ofInt {exact : Int} (bounded : exact.natAbs < 2 ^ 256) :
    IsExact exact (ofInt exact) := by
  rcases ofInt_cases exact with ⟨number, valEq, held⟩ | ⟨beyond, refused⟩
  · have inside : InRange exact := valEq ▸ number.inRange_val
    exact ⟨fun _ => ⟨number, valEq, held⟩, fun beyond => absurd inside beyond⟩
  · exact ⟨fun inside => absurd inside beyond,
      fun _ => ⟨_, label_integerRange bounded, refused⟩⟩

theorem isExact_add (first second : Int128) :
    IsExact (first.val + second.val) (add (.integer first) (.integer second)) :=
  isExact_ofInt (natAbs_add_lt first second)

theorem isExact_mul (first second : Int128) :
    IsExact (first.val * second.val) (mul (.integer first) (.integer second)) :=
  isExact_ofInt (natAbs_mul_lt first second)

theorem isExact_sub (first : Int128) {second : Int128} (negatable : second ≠ lowest) :
    IsExact (first.val - second.val)
      (sub (.integer first) (.integer second)) := by
  obtain ⟨negated, valEq, negatedEq⟩ :=
    (isExact_ofInt (natAbs_neg_lt second)).held (inRange_neg_val_iff.mpr negatable)
  have sum := isExact_add first negated
  have difference : sub (.integer first) (.integer second) =
      add (.integer first) (.integer negated) := by
    simp only [sub, neg, negatedEq]
  rwa [difference, Int.sub_eq_add_neg, ← valEq]

theorem sub_lowest (first : Int128) :
    sub (.integer first) (.integer lowest) = .error (.integerRange (2 ^ 127)) :=
  rfl

/-- Sums and products of integers are exact, and refused only if the exact result has
more than 128 bits.  So are differences, except that the lowest integer cannot be
taken away from any other. -/
theorem integer_arithmetic_exact (first second : Int128) :
    IsExact (first.val + second.val)
        (add (.integer first) (.integer second)) ∧
      IsExact (first.val * second.val)
        (mul (.integer first) (.integer second)) ∧
      (second ≠ lowest → IsExact (first.val - second.val)
        (sub (.integer first) (.integer second))) ∧
      (second = lowest → ∃ fault, fault.label = "IntegerOverflowError" ∧
        sub (.integer first) (.integer second) = .error fault) := by
  refine ⟨isExact_add first second, isExact_mul first second, isExact_sub first, ?_⟩
  rintro rfl
  exact ⟨_, label_integerRange (by decide), sub_lowest first⟩

/-- One less than the lowest integer is refused, the integer above it can be taken away
from the greatest negative one, and the lowest one cannot. -/
theorem integer_arithmetic_exact_lowest :
    let minusOne : Int128 := ⟨-1, by decide, by decide⟩
    let aboveLowest : Int128 := ⟨-2 ^ 127 + 1, by decide, by decide⟩
    (∃ fault, fault.label = "IntegerOverflowError" ∧
        add (.integer lowest) (.integer minusOne) = .error fault) ∧
      aboveLowest ≠ lowest ∧
      (∃ number : Int128, number.val = 2 ^ 127 - 2 ∧
        sub (.integer minusOne) (.integer aboveLowest) = .ok (.integer number)) ∧
      ∃ fault, fault.label = "IntegerOverflowError" ∧
        sub (.integer minusOne) (.integer lowest) = .error fault := by
  intro minusOne aboveLowest
  have negatable : aboveLowest ≠ lowest := by decide
  obtain ⟨sum, _, _, _⟩ := integer_arithmetic_exact lowest minusOne
  obtain ⟨_, _, difference, _⟩ := integer_arithmetic_exact minusOne aboveLowest
  obtain ⟨_, _, _, refused⟩ := integer_arithmetic_exact minusOne lowest
  exact ⟨sum.refused (by decide), negatable,
    (difference negatable).held (by decide), refused rfl⟩

/-- The lowest integer less itself would be zero, which has 128 bits. -/
theorem sub_lowest_lowest_not_exact :
    InRange (lowest.val - lowest.val) ∧
      ¬IsExact (lowest.val - lowest.val)
        (sub (.integer lowest) (.integer lowest)) := by
  have inside : InRange (lowest.val - lowest.val) := by decide
  refine ⟨inside, fun isExact => ?_⟩
  obtain ⟨number, _, succeeded⟩ := isExact.held inside
  rw [sub_lowest] at succeeded
  cases succeeded

end Value
end StackScript
