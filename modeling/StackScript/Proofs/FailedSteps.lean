import StackScript.Proofs.BlockNesting
import StackScript.Proofs.StackCapacity

/-!
# What a failed step leaves

A step that fails is not undone.  What it can have destroyed is little: it has taken
at most its two operands off the stack.  A stack within its capacity has room for the
result where the operands were, so a step that finds the stack full has lost nothing,
and neither has one that is a single change of the stack or of the conditions.

`Loss` says this once for a single step.  That the stack keeps within its capacity is
an invariant of all calls, also under a capacity below zero, where it stays empty.
-/

namespace StackScript

namespace Fault

/-- The fault tells of a full stack or of an unknown operator. -/
def sparesStack : Fault → Bool
  | .fullStack _ | .unsupported _ => true
  | _ => false

theorem sparesStack_of_label {fault : Fault}
    (labelEq : fault.label = "StackOverflowError") : fault.sparesStack = true := by
  have familyEq := family_of_label labelEq (by decide)
  cases fault <;> simp [family, sparesStack] at familyEq ⊢

/-- The fault tells of operands or of conditions. -/
def losesOperands (fault : Fault) : Bool :=
  fault.concernsOperands || fault.family == "ConditionStackError"

theorem sparesStack_of_losesOperands {fault : Fault}
    (loses : fault.losesOperands = true) : fault.sparesStack = false := by
  cases fault <;> simp [losesOperands, concernsOperands, family, sparesStack] at loses ⊢

end Fault

/-- How a step that fails may change the workspace: not at all, or by the operands
that it has taken before it found something wrong with them. -/
inductive Loss (before : Workspace) : Fault → Workspace → Prop where
  | nothing {fault : Fault} (reason : fault.sparesStack = true) : Loss before fault before
  | operands {fault : Fault} (taken : List Datum) {rest : List Datum}
      (few : taken.length ≤ 2) (mainEq : before.stack.main = taken ++ rest)
      (reason : fault.losesOperands = true) :
      Loss before fault { before with stack.main := rest }

/-- A step limit is no concern of an item. -/
theorem Loss.label_ne {before after : Workspace} {fault : Fault}
    (loss : Loss before fault after) : fault.label ≠ "StepLimitExceeded" := by
  intro labelEq
  have familyEq := Fault.family_of_label labelEq (by decide)
  cases loss with
  | nothing reason => cases fault <;> simp [Fault.family, Fault.sparesStack] at familyEq reason
  | operands taken few mainEq reason =>
      cases fault <;>
        simp [Fault.family, Fault.losesOperands, Fault.concernsOperands] at familyEq reason

section Items

open Routine

variable {capacity : Option Int} {main alt : List Datum} {move : Move} {turn : Turn}
  {conditions : Conditions} {fault : Fault} {after : Workspace}

theorem Modest.loss (modest : Modest main alt move turn)
    (within : Stack.IsWithinCapacity ⟨capacity, main, alt⟩)
    (failed : moveAndTurn move turn ⟨⟨capacity, main, alt⟩, conditions⟩ =
      .error fault after) :
    Loss ⟨⟨capacity, main, alt⟩, conditions⟩ fault after := by
  cases modest with
  | lose taken few mainEq reason =>
      cases failed
      exact .operands taken few mainEq (by rw [Fault.losesOperands, reason]; rfl)
  | refuse operator =>
      cases failed
      exact .nothing rfl
  | shrink aside fewer =>
      rw [moveAndTurn_none, onStack_eq_endingIn, Move.perform_put_of_le within fewer] at failed
      cases failed
  | grow taken mainEq value aside =>
      rw [moveAndTurn_none, onStack_eq_endingIn, Move.perform_put_more within mainEq] at failed
      rcases Stack.hasRoom_or_full ⟨capacity, main, alt⟩ with room | ⟨limit, capped, full⟩
      · rw [Move.perform_put_one_of_room room] at failed
        cases failed
      · cases capped
        rw [Move.perform_put_one_of_full full] at failed
        cases failed
        exact .nothing rfl
  | @turn taken rest few mainEq operation =>
      change onConditions operation.perform ⟨⟨capacity, rest, alt⟩, conditions⟩ = _ at failed
      rcases operation.perform_cases conditions with
        ⟨_, reason, refused, labelEq⟩ | ⟨_, next, accepted, _⟩
      · simp only [onConditions, refused] at failed
        cases failed
        have familyEq := Fault.family_of_label labelEq (by decide)
        exact .operands taken few mainEq (by simp [Fault.losesOperands, familyEq])
      · simp only [onConditions, accepted] at failed
        cases failed

/-- These instructions are a single change of the stack or of the conditions. -/
theorem Instruction.Acts.failsInPlace {known : Instruction} {active : Bool}
    (acts : known.Acts active main alt move turn)
    (member : known ∈ [orElse, .endIf, .toAlt, .fromAlt])
    (failed : moveAndTurn move turn ⟨⟨capacity, main, alt⟩, conditions⟩ =
      .error fault after) :
    after = ⟨⟨capacity, main, alt⟩, conditions⟩ := by
  cases acts with
  | skip plain | toAlt datum rest alt => cases failed
  | compute computes rest alt => cases computes <;> simp at member
  | lack few =>
      simp only [List.mem_cons, List.not_mem_nil, or_false] at member
      rcases member with rfl | rfl | rfl | rfl <;> cases few
  | dup | drop | openTaken | openHidden => simp at member
  | toAltOfNone alt | fromAltOfNone main =>
      cases failed
      rfl
  | fromAlt datum main aside =>
      rw [moveAndTurn_none, onStack_eq_endingIn] at failed
      rcases Stack.hasRoom_or_full ⟨capacity, main, datum :: aside⟩ with
        room | ⟨limit, capped, full⟩
      · rw [Move.perform_put_one_of_room room] at failed
        cases failed
      · cases capped
        rw [Move.perform_put_one_of_full full] at failed
        cases failed
        rfl
  | switch active main alt => exact failsInPlace_onConditions .toggleTop _ _ _ failed
  | close active main alt => exact failsInPlace_onConditions .pop _ _ _ failed

end Items

namespace Calculator

open Machine

theorem loss_of_evaluate (item : Item) {before after : Workspace} {fault : Fault}
    (within : before.stack.IsWithinCapacity)
    (failed : evaluate system item before = .error fault after) :
    Loss before fault after := by
  obtain ⟨⟨capacity, main, alt⟩, conditions⟩ := before
  obtain ⟨move, turn, acts⟩ := item.exists_acts conditions.allTrue main alt
  rw [acts.evaluate] at failed
  exact acts.modest.loss within failed

theorem failsInPlace_of_same {item : Item} {known : Instruction}
    (member : known ∈ [Instruction.orElse, .endIf, .toAlt, .fromAlt])
    (same : item.same (.instruction known) = true) :
    FailsInPlace (evaluate system item) := by
  rintro ⟨⟨capacity, main, alt⟩, conditions⟩ fault after failed
  obtain ⟨move, turn, acts⟩ := known.exists_acts conditions.allTrue main alt
  rw [evaluate_of_same same, acts.evaluate rfl] at failed
  exact acts.failsInPlace member failed

end Calculator

namespace Machine

open Calculator

/-- Whatever has been asked of a machine before, a step that fails leaves the values
set aside and the conditions as they were, and takes at most the two topmost values
off the stack.  It takes none if the stack is full, if the operator is unknown, or if
the item only switches or closes a block or moves a value between the parts of the
stack.  It counts as a step, unless it is the step limit that it fails on, and that goes
by another name where the limit is too long to be shown. -/
theorem operate_failure_loses_operands (capacity maxSteps : Option Int)
    (calls : List Call) (item : Item) :
    let config : Config := { system := system, maxSteps := maxSteps }
    let before := afterCalls config calls (start capacity)
    ∀ fault failed, operate config item before = .error fault failed →
      failed.workspace.stack.alt = before.workspace.stack.alt ∧
      failed.workspace.conditions = before.workspace.conditions ∧
      (∃ taken : List Datum, taken.length ≤ 2 ∧
        before.workspace.stack.main = taken ++ failed.workspace.stack.main) ∧
      (fault.label = "StepLimitExceeded" → failed = before) ∧
      (fault.label ≠ "StepLimitExceeded" →
        failed.steps = before.steps + 1 ∨
          ∃ limit, maxSteps = some limit ∧ Text.isLongInteger limit = true ∧
            fault = .stepLimit limit ∧ fault.label = "ValueError" ∧ failed = before) ∧
      (fault.label = "StackOverflowError" ∨
          (∃ limit, fault = .fullStack limit) ∨
          (∃ operator, fault = .unsupported operator) ∨
          (∃ known ∈ [Instruction.orElse, .endIf, .toAlt, .fromAlt],
            item.same (.instruction known) = true) →
        failed.workspace.stack.main = before.workspace.stack.main) := by
  intro config before fault failed ended
  have within := (Capacity.keeps_afterCalls capacity maxSteps calls).2
  rcases operate_eq_error ended with ⟨limit, limited, rfl, rfl⟩ | ⟨stepsEq, evaluated⟩
  · refine ⟨rfl, rfl, ⟨[], by simp, rfl⟩, fun _ => rfl, fun other => .inr ?_, fun _ => rfl⟩
    cases long : Text.isLongInteger limit with
    | true => exact ⟨limit, limited, long, rfl, Fault.label_of_long long, rfl⟩
    | false => exact absurd (Fault.label_stepLimit_iff.mpr long) other
  · obtain ⟨after, steps⟩ := failed
    dsimp only at stepsEq evaluated
    have loss := loss_of_evaluate item within evaluated
    have inPlace (known : Instruction)
        (member : known ∈ [Instruction.orElse, .endIf, .toAlt, .fromAlt])
        (same : item.same (.instruction known) = true) :
        after = before.workspace :=
      failsInPlace_of_same member same _ _ _ evaluated
    have noLimit := loss.label_ne
    cases loss with
    | nothing reason =>
        exact ⟨rfl, rfl, ⟨[], by simp, rfl⟩, fun limit => absurd limit noLimit,
          fun _ => .inl stepsEq, fun _ => rfl⟩
    | operands taken few mainEq reason =>
        refine ⟨rfl, rfl, ⟨taken, few, mainEq⟩, fun limit => absurd limit noLimit,
          fun _ => .inl stepsEq, ?_⟩
        have notSpared := Fault.sparesStack_of_losesOperands reason
        rintro (overflow | ⟨limit, rfl⟩ | ⟨operator, rfl⟩ | ⟨known, member, same⟩)
        · rw [Fault.sparesStack_of_label overflow] at notSpared
          cases notSpared
        · cases notSpared
        · cases notSpared
        · rw [inPlace known member same]

/-- After a failure that has left the stack full, a second one loses nothing either,
and a foreign number that stands for an addition loses both values. -/
theorem operate_failure_loses_operands_full :
    let config : Config := { system := system }
    let calls : List Call :=
      [.run [.value (.boolean true), .value (.string [0x61]), .instruction .dup]]
    let before := afterCalls config calls (start (some 2))
    let addition : Item := .operator (.foreign (.integer 0))
    let refusal : Fault := .addition (.string [0x61]) (.boolean true)
    (∃ failed, operate config (.instruction .dup) before =
        .error (.fullStack 2) failed ∧
      failed.workspace.stack.main =
        [.value (.string [0x61]), .value (.boolean true)]) ∧
    ∃ failed, operate config addition before = .error refusal failed ∧
      failed.workspace.stack.main = [] ∧ failed.steps = 4 ∧
      ∃ taken : List Datum, taken.length ≤ 2 ∧
        before.workspace.stack.main = taken ++ failed.workspace.stack.main := by
  intro config calls before addition refusal
  have full : operate config (.instruction .dup) before =
      .error (.fullStack 2) ⟨before.workspace, 4⟩ := rfl
  have refused : operate config addition before =
      .error refusal ⟨{ before.workspace with stack.main := [] }, 4⟩ := rfl
  obtain ⟨_, _, _, _, _, spared⟩ :=
    operate_failure_loses_operands (some 2) none calls (.instruction .dup) _ _ full
  obtain ⟨_, _, lost, _, _, _⟩ :=
    operate_failure_loses_operands (some 2) none calls addition _ _ refused
  exact ⟨⟨_, full, spared (.inr (.inl ⟨2, rfl⟩))⟩, _, refused, rfl, rfl, lost⟩

/-- Under a limit that is too long to be shown a step fails by another name than that of
the limit, and still it does not count. -/
theorem operate_failure_uncounted :
    let limit : Int := -10 ^ 4300
    let config : Config := { system := system, maxSteps := some limit }
    let before := start none
    ∃ fault failed,
      operate config (.instruction .dup) before = .error fault failed ∧
        fault.label = "ValueError" ∧ fault.label ≠ "StepLimitExceeded" ∧
        failed.steps ≠ before.steps + 1 := by
  intro limit config before
  have reached : limit ≤ before.steps := by decide +kernel
  have long : Text.isLongInteger limit = true := by decide +kernel
  have labelEq : (Fault.stepLimit limit).label = "ValueError" :=
    Fault.label_of_long long
  exact ⟨_, _, operate_of_le_steps _ reached, labelEq, by rw [labelEq]; decide,
    Nat.ne_of_lt (Nat.lt_succ_self _)⟩

end Machine

end StackScript
