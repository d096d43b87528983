import StackScript.System.Calculator

/-!
# Faults of computing with operands

An operation that refuses its operands says what is wrong with them.  It never
speaks of a full stack, of the conditions or of a limit, whether the operands are script
values, foreign objects or one of each.
-/

namespace StackScript

namespace Fault

/-- The fault says that operands are missing or that they do not fit. -/
def concernsOperands : Fault → Bool
  | .emptyStack | .emptyStackForAlt | .emptyAlt
  | .integerRange _ | .negation _ | .addition _ _ | .multiplication _ _
  | .operandType | .foreignIntegerBeyondFloat | .foreignRepetition => true
  | _ => false

/-- An outcome of computing with operands: a result, or a fault of that kind. -/
def Computed {α : Type} (outcome : Except Fault α) : Prop :=
  ∀ fault, outcome = .error fault → fault.concernsOperands = true

theorem computed_ok {α : Type} (result : α) :
    Computed (.ok result : Except Fault α) := by
  intro fault failed
  cases failed

theorem computed_error {α : Type} {fault : Fault}
    (known : fault.concernsOperands = true) :
    Computed (.error fault : Except Fault α) := by
  rintro _ ⟨⟩
  exact known

theorem Computed.map {α β : Type} {outcome : Except Fault α}
    (computed : Computed outcome) (change : α → β) :
    Computed (outcome.map change) := by
  cases outcome with
  | ok result => exact computed_ok _
  | error fault => exact computed_error (computed fault rfl)

end Fault

open Fault

namespace Value

theorem computed_ofInt (integer : Int) : Computed (ofInt integer) := by
  unfold ofInt
  split
  · exact computed_ok _
  · exact computed_error rfl

theorem computed_neg (operand : Value) : Computed operand.neg := by
  cases operand with
  | integer number => exact computed_ofInt _
  | boolean truth | float number => exact computed_ok _
  | string text => exact computed_error rfl

theorem computed_add (first second : Value) : Computed (first.add second) := by
  unfold add
  split
  case h_2 => exact computed_ofInt _
  case h_6 => exact computed_error rfl
  all_goals exact computed_ok _

theorem computed_mul (first second : Value) : Computed (first.mul second) := by
  unfold mul
  split
  case h_2 => exact computed_ofInt _
  case h_6 => exact computed_error rfl
  all_goals exact computed_ok _

theorem computed_sub (first second : Value) : Computed (first.sub second) := by
  unfold sub
  split
  · exact computed_add _ _
  · next negationFailed => exact computed_error (computed_neg _ _ negationFailed)

end Value

namespace Foreign

theorem computed_arithmetic (onIntegers : Int → Int → Int)
    (onFloats : Binary64 → Binary64 → Binary64) (first second : Foreign) :
    Computed (arithmetic onIntegers onFloats first second) := by
  unfold arithmetic
  dsimp only
  split
  · exact computed_ok _
  · split
    · apply Computed.map
      split
      · exact computed_ok _
      · exact computed_error rfl
    · exact computed_error rfl
  · split
    · apply Computed.map
      split
      · exact computed_ok _
      · exact computed_error rfl
    · exact computed_error rfl
  · split
    · exact computed_ok _
    · exact computed_error rfl

theorem computed_repeatSequence {α : Type} (sequence : List α) (times : Int)
    (build : List α → Foreign) :
    Computed (repeatSequence sequence times build) := by
  unfold repeatSequence
  split
  · exact computed_error rfl
  · split <;> exact computed_ok _

theorem computed_of_repeated? {sequence times : Foreign}
    {outcome : Except Fault Foreign}
    (found : repeated? sequence times = some outcome) : Computed outcome := by
  unfold repeated? at found
  split at found
  case h_4 => cases found
  all_goals
    cases found
    exact computed_repeatSequence _ _ _

theorem computed_add (first second : Foreign) : Computed (first.add second) := by
  unfold add
  split
  case h_4 => exact computed_arithmetic _ _ _ _
  all_goals exact computed_ok _

theorem computed_mul (first second : Foreign) : Computed (first.mul second) := by
  unfold mul
  split
  · next found => exact computed_of_repeated? found
  · next found => exact computed_of_repeated? found
  · exact computed_arithmetic _ _ _ _

theorem computed_neg (operand : Foreign) : Computed operand.neg := by
  unfold neg
  split
  · exact computed_ok _
  · split
    · exact computed_ok _
    · exact computed_error rfl

end Foreign

namespace Datum

theorem computed_binary {onValues : Value → Value → Except Fault Value}
    {onForeign : Foreign → Foreign → Except Fault Foreign}
    (values : ∀ first second, Computed (onValues first second))
    (foreign : ∀ first second, Computed (onForeign first second))
    (first second : Datum) : Computed (binary onValues onForeign first second) := by
  unfold binary
  split
  · exact (values _ _).map _
  · exact (foreign _ _).map _
  · exact computed_error rfl

theorem computed_add (first second : Datum) : Computed (first.add second) :=
  computed_binary Value.computed_add Foreign.computed_add first second

theorem computed_mul (first second : Datum) : Computed (first.mul second) :=
  computed_binary Value.computed_mul Foreign.computed_mul first second

theorem computed_sub (first second : Datum) : Computed (first.sub second) :=
  computed_binary Value.computed_sub (Foreign.computed_arithmetic _ _) first second

theorem computed_neg (operand : Datum) : Computed operand.neg := by
  cases operand with
  | value held => exact (Value.computed_neg held).map _
  | foreign held => exact (Foreign.computed_neg held).map _
  | creature held => exact computed_error rfl

end Datum

end StackScript
