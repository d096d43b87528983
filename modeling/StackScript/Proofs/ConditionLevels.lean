import Mathlib.Data.List.Basic
import Mathlib.Data.List.ModifyLast
import StackScript.Conditions
import StackScript.Proofs.Outcomes

/-!
# Two numbers in place of a vector of conditions

The open blocks of a script have one truth value each.  Kept in full they form a
vector, outermost first, to which opening a block appends, from which closing one
removes the last element, and whose last element negates when a block changes its
branch.  `Conditions` keeps only the length of that vector and the position of its
first false element.

This file relates the two numbers to the vectors they stand for and proves that
the relation survives every sequence of operations, refused ones included, so
that nothing that can be asked of the vector is lost.
-/

namespace StackScript

namespace Conditions

/-- The position of the first false element of a vector, or `noFalse`. -/
def firstFalseOf (levels : List Bool) : Nat :=
  if false ∈ levels then levels.idxOf false else noFalse

/-- The two numbers stand for a vector that is short enough to be counted. -/
structure Represents (conditions : Conditions) (levels : List Bool) : Prop where
  length_le : levels.length ≤ noFalse
  depth_eq : conditions.depth = levels.length
  firstFalse_eq : conditions.firstFalse = firstFalseOf levels

theorem firstFalseOf_lt_length {levels : List Bool}
    (hasFalse : false ∈ levels) :
    firstFalseOf levels < levels.length := by
  rw [firstFalseOf, if_pos hasFalse]
  exact List.idxOf_lt_length_of_mem hasFalse

theorem firstFalseOf_eq_noFalse {levels : List Bool}
    (allTrue : false ∉ levels) :
    firstFalseOf levels = noFalse :=
  if_neg allTrue

/-- An element above a false one changes nothing. -/
theorem firstFalseOf_concat_of_mem {levels : List Bool}
    (hasFalse : false ∈ levels) (last : Bool) :
    firstFalseOf (levels ++ [last]) = firstFalseOf levels := by
  have stillFalse : false ∈ levels ++ [last] :=
    List.mem_append_left _ hasFalse
  rw [firstFalseOf, firstFalseOf, if_pos hasFalse, if_pos stillFalse]
  exact List.idxOf_append_of_mem hasFalse

/-- Above true elements the last one decides. -/
theorem firstFalseOf_concat_of_notMem {levels : List Bool}
    (allTrue : false ∉ levels) (last : Bool) :
    firstFalseOf (levels ++ [last]) =
      if last then noFalse else levels.length := by
  cases last with
  | false =>
      have nowFalse : false ∈ levels ++ [false] := by simp
      rw [firstFalseOf, if_pos nowFalse,
        List.idxOf_append_of_notMem allTrue]
      simp
  | true =>
      have stillTrue : false ∉ levels ++ [true] := by simpa using allTrue
      simp [firstFalseOf_eq_noFalse stillTrue]

theorem represents_empty : Represents empty [] where
  length_le := Nat.zero_le _
  depth_eq := rfl
  firstFalse_eq := rfl

theorem Represents.allTrue_iff {conditions : Conditions}
    {levels : List Bool} (represents : Represents conditions levels) :
    conditions.allTrue = true ↔ false ∉ levels := by
  have shortEnough := represents.length_le
  rw [allTrue, beq_iff_eq, represents.firstFalse_eq]
  constructor
  · intro atSentinel hasFalse
    have inside := firstFalseOf_lt_length hasFalse
    omega
  · exact firstFalseOf_eq_noFalse

theorem Represents.allTrue_eq {conditions : Conditions}
    {levels : List Bool} (represents : Represents conditions levels) :
    conditions.allTrue = levels.all id := by
  rw [Bool.eq_iff_iff, represents.allTrue_iff, List.all_eq_true]
  constructor
  · intro noneFalse level member
    cases level with
    | false => exact absurd member noneFalse
    | true => rfl
  · intro allHold hasFalse
    exact Bool.false_ne_true (allHold false hasFalse)

theorem Represents.isEmpty_eq {conditions : Conditions}
    {levels : List Bool} (represents : Represents conditions levels) :
    conditions.isEmpty = levels.isEmpty := by
  rw [isEmpty, represents.depth_eq]
  cases levels <;> rfl

/-! ## Single operations -/

theorem Represents.push {conditions : Conditions} {levels : List Bool}
    (represents : Represents conditions levels)
    (room : levels.length < noFalse) (condition : Bool) :
    ∃ next, Conditions.push condition conditions = .ok () next ∧
      Represents next (levels ++ [condition]) := by
  have deepEnough : conditions.depth < noFalse := represents.depth_eq ▸ room
  refine ⟨_, push_of_lt deepEnough condition, ?_, ?_, ?_⟩
  · rw [List.length_append]
    exact room
  · rw [List.length_append, represents.depth_eq]
    rfl
  · by_cases hasFalse : false ∈ levels
    · have inactive : conditions.allTrue = false := by
        rw [Bool.eq_false_iff, ne_eq, represents.allTrue_iff]
        exact not_not_intro hasFalse
      rw [inactive, firstFalseOf_concat_of_mem hasFalse]
      exact represents.firstFalse_eq
    · rw [represents.allTrue_iff.mpr hasFalse,
        firstFalseOf_concat_of_notMem hasFalse]
      cases condition with
      | false => exact represents.depth_eq
      | true =>
          exact represents.firstFalse_eq.trans (firstFalseOf_eq_noFalse hasFalse)

theorem Represents.depth_concat {conditions : Conditions}
    {levels : List Bool} {last : Bool}
    (represents : Represents conditions (levels ++ [last])) :
    conditions.depth = levels.length + 1 := by
  rw [represents.depth_eq, List.length_append]
  rfl

theorem Represents.length_lt {conditions : Conditions} {levels : List Bool}
    {last : Bool} (represents : Represents conditions (levels ++ [last])) :
    levels.length < noFalse := by
  have shortEnough := represents.length_le
  rw [List.length_append] at shortEnough
  exact shortEnough

/-- The numbers of a vector that has a last element. -/
theorem Represents.eq_mk {conditions : Conditions} {levels : List Bool}
    {last : Bool} (represents : Represents conditions (levels ++ [last])) :
    conditions = ⟨levels.length + 1, conditions.firstFalse⟩ := by
  rw [← represents.depth_concat]

/-- Closing the innermost block uncovers the vector below.  If its condition was
the first false one, all others are true. -/
theorem Represents.pop {conditions : Conditions} {levels : List Bool}
    {last : Bool} (represents : Represents conditions (levels ++ [last])) :
    ∃ next, Conditions.pop conditions = .ok () next ∧ Represents next levels := by
  have belowLimit := represents.length_lt
  have firstFalseEq := represents.firstFalse_eq
  rw [represents.eq_mk]
  refine ⟨_, pop_succ _ _, Nat.le_of_lt belowLimit, rfl, ?_⟩
  dsimp only
  by_cases hasFalse : false ∈ levels
  · rw [firstFalseOf_concat_of_mem hasFalse] at firstFalseEq
    have inside := firstFalseOf_lt_length hasFalse
    rw [if_neg (by omega)]
    exact firstFalseEq
  · rw [firstFalseOf_concat_of_notMem hasFalse] at firstFalseEq
    rw [firstFalseOf_eq_noFalse hasFalse]
    cases last with
    | false => exact if_pos firstFalseEq
    | true =>
        simp only [if_true] at firstFalseEq
        rw [if_neg (by omega)]
        exact firstFalseEq

/-- Changing the branch of the innermost block negates the last element.  Above a
false element that cannot be seen. -/
theorem Represents.toggleTop {conditions : Conditions} {levels : List Bool}
    {last : Bool} (represents : Represents conditions (levels ++ [last])) :
    ∃ next, Conditions.toggleTop conditions = .ok () next ∧
      Represents next (levels ++ [!last]) := by
  have belowLimit := represents.length_lt
  have firstFalseEq := represents.firstFalse_eq
  rw [represents.eq_mk]
  refine ⟨_, toggleTop_succ _ _, ?_, ?_, ?_⟩
  · rw [List.length_append]
    exact belowLimit
  · simp
  dsimp only
  by_cases hasFalse : false ∈ levels
  · rw [firstFalseOf_concat_of_mem hasFalse] at firstFalseEq
    have inside := firstFalseOf_lt_length hasFalse
    rw [if_neg (by omega), if_neg (by omega), firstFalseOf_concat_of_mem hasFalse]
    exact firstFalseEq
  · rw [firstFalseOf_concat_of_notMem hasFalse] at firstFalseEq
    rw [firstFalseOf_concat_of_notMem hasFalse]
    cases last with
    | false =>
        simp only [Bool.false_eq_true, if_false] at firstFalseEq
        rw [if_neg (by omega), if_pos firstFalseEq]
        rfl
    | true =>
        simp only [if_true] at firstFalseEq
        rw [if_pos firstFalseEq]
        rfl

/-! ## Sequences of operations -/

namespace Operation

/-- The vectors on which an operation is refused. -/
def Refused : Operation → List Bool → Prop
  | .push _, levels => levels.length = noFalse
  | .pop, levels => levels = []
  | .toggleTop, levels => levels = []

instance (operation : Operation) (levels : List Bool) :
    Decidable (operation.Refused levels) :=
  match operation with
  | .push _ => inferInstanceAs (Decidable (_ = _))
  | .pop => inferInstanceAs (Decidable (_ = _))
  | .toggleTop => inferInstanceAs (Decidable (_ = _))

/-- An operation on the vector. -/
def onLevels : Operation → List Bool → List Bool
  | .push condition, levels => levels ++ [condition]
  | .pop, levels => levels.dropLast
  | .toggleTop, levels => levels.modifyLast (!·)

end Operation

/-- The vector after a sequence of operations; a refused one is passed over. -/
def levelsAfter (operations : List Operation) (levels : List Bool) : List Bool :=
  operations.foldl (fun levels operation =>
    if operation.Refused levels then levels else operation.onLevels levels) levels

/-- The two numbers after a sequence of operations, each on what the one before has
left, also if that one has failed. -/
abbrev afterOperations (operations : List Operation) (conditions : Conditions) :
    Conditions :=
  leftByAll Operation.perform operations conditions

theorem Represents.perform_refused {conditions : Conditions}
    {levels : List Bool} (represents : Represents conditions levels)
    {operation : Operation} (refused : operation.Refused levels) :
    ∃ fault, operation.perform conditions = .error fault conditions ∧
      fault.label = "ConditionStackError" := by
  have depthEq := represents.depth_eq
  cases operation with
  | push condition =>
      have full : noFalse ≤ conditions.depth :=
        Nat.le_of_eq (depthEq.trans refused).symm
      exact ⟨.tooManyConditions, push_of_le full condition, rfl⟩
  | pop =>
      cases refused
      obtain ⟨_, firstFalse⟩ := conditions
      cases depthEq
      exact ⟨.noConditionToPop, pop_zero firstFalse, rfl⟩
  | toggleTop =>
      cases refused
      obtain ⟨_, firstFalse⟩ := conditions
      cases depthEq
      exact ⟨.noConditionToToggle, toggleTop_zero firstFalse, rfl⟩

theorem Represents.perform_accepted {conditions : Conditions}
    {levels : List Bool} (represents : Represents conditions levels)
    {operation : Operation} (accepted : ¬operation.Refused levels) :
    ∃ next, operation.perform conditions = .ok () next ∧
      Represents next (operation.onLevels levels) := by
  cases operation with
  | push condition =>
      have room : levels.length < noFalse :=
        Nat.lt_of_le_of_ne represents.length_le accepted
      exact represents.push room condition
  | pop =>
      obtain isNil | ⟨below, last, rfl⟩ := List.eq_nil_or_concat' levels
      · exact absurd isNil accepted
      · rw [Operation.onLevels, List.dropLast_concat]
        exact represents.pop
  | toggleTop =>
      obtain isNil | ⟨below, last, rfl⟩ := List.eq_nil_or_concat' levels
      · exact absurd isNil accepted
      · rw [Operation.onLevels, List.modifyLast_concat]
        exact represents.toggleTop

/-- What the numbers stand for after an operation is what the operation makes of
the vector. -/
theorem represents_after (operations : List Operation) {conditions : Conditions}
    {levels : List Bool} (represents : Represents conditions levels) :
    Represents (afterOperations operations conditions)
      (levelsAfter operations levels) := by
  induction operations generalizing conditions levels with
  | nil => exact represents
  | cons operation rest ih =>
      apply ih
      dsimp only
      by_cases refused : operation.Refused levels
      · obtain ⟨fault, failed, _⟩ := represents.perform_refused refused
        rw [failed, if_pos refused]
        exact represents
      · obtain ⟨next, succeeded, nextRepresents⟩ :=
          represents.perform_accepted refused
        rw [succeeded, if_neg refused]
        exact nextRepresents

/-- After every sequence of operations the two numbers stand for the vector and
answer for it.  The next operation is then refused on the numbers exactly if it is
refused on the vector, and a refused operation changes nothing. -/
theorem operations_simulate_levels (conditions : Conditions)
    (levels : List Bool) (represents : Represents conditions levels)
    (operations : List Operation) :
    let reached := afterOperations operations conditions
    let reachedLevels := levelsAfter operations levels
    Represents reached reachedLevels ∧
      reached.isEmpty = reachedLevels.isEmpty ∧
      reached.allTrue = reachedLevels.all id ∧
      reached.depth = reachedLevels.length ∧
      (∀ position < reachedLevels.length, position ≠ noFalse) ∧
      ∀ operation : Operation,
        (operation.Refused reachedLevels →
          ∃ fault, operation.perform reached = .error fault reached ∧
            fault.label = "ConditionStackError") ∧
        (¬operation.Refused reachedLevels →
          ∃ next, operation.perform reached = .ok () next ∧
            Represents next (operation.onLevels reachedLevels)) := by
  intro reached reachedLevels
  have reachedRepresents : Represents reached reachedLevels :=
    represents_after operations represents
  refine ⟨reachedRepresents, reachedRepresents.isEmpty_eq,
    reachedRepresents.allTrue_eq, reachedRepresents.depth_eq, ?_, ?_⟩
  · intro position positionLt atSentinel
    have shortEnough := reachedRepresents.length_le
    omega
  · intro operation
    exact ⟨reachedRepresents.perform_refused, reachedRepresents.perform_accepted⟩

/-- A true level hidden behind a false one is toggled and removed, the levels are
used up, and one more is removed than there were. -/
theorem operations_simulate_levels_hidden :
    let operations : List Operation :=
      [.push true, .push false, .push true, .toggleTop, .pop, .toggleTop,
        .pop, .pop, .pop, .push false]
    Represents empty [] ∧ levelsAfter operations [] = [false] ∧
      Represents (afterOperations operations empty) [false] :=
  ⟨represents_empty, rfl,
    (operations_simulate_levels empty [] represents_empty _).1⟩

end Conditions
end StackScript
