import Mathlib.Data.List.Induction
import Mathlib.Data.List.Infix
import StackScript.Proofs.ConditionLevels
import StackScript.Proofs.Execution

/-!
# Scripts inside a branch that is not taken

Whether an operator opens, switches or closes a block is a matter of equality with
an instruction, so a foreign number can do it as well.  An operator equals at most
one instruction, and then it does what that instruction does.

Inside a branch that is not taken only these operators do anything at all, and what
they do is counted in the depth of the conditions.  A script that closes no block
which it has not opened never gets back to the branch in which it started, and
therefore changes nothing but the depth.
-/

namespace StackScript

/-! ## Operators that equal an instruction -/

theorem Binary64.eq_of_equalsInt {number : Binary64} {first second : Nat}
    (equalsFirst : number.equalsInt first = true)
    (equalsSecond : number.equalsInt second = true) : first = second := by
  simp only [equalsInt, Int.natAbs_natCast, Bool.and_eq_true] at equalsFirst equalsSecond
  have firstMagnitude := equalsFirst.2.1
  have secondMagnitude := equalsSecond.2.1
  split at firstMagnitude
  · next whole =>
      rw [if_pos whole, beq_iff_eq] at secondMagnitude
      rw [beq_iff_eq] at firstMagnitude
      exact firstMagnitude.symm.trans secondMagnitude
  · next fractional =>
      rw [if_neg fractional, beq_iff_eq] at secondMagnitude
      rw [beq_iff_eq] at firstMagnitude
      exact Nat.eq_of_mul_eq_mul_right (Nat.two_pow_pos _)
        (firstMagnitude.symm.trans secondMagnitude)

theorem Foreign.eq_of_equalsInt {object : Foreign} {first second : Nat}
    (equalsFirst : object.equalsInt first = true)
    (equalsSecond : object.equalsInt second = true) : first = second := by
  cases object with
  | float number => exact Binary64.eq_of_equalsInt equalsFirst equalsSecond
  | _ =>
      simp only [equalsInt, beq_iff_eq] at equalsFirst equalsSecond
      rw [equalsFirst, Option.some_inj] at equalsSecond
      exact Int.ofNat_inj.mp equalsSecond

theorem Instruction.mem_all (known : Instruction) : known ∈ all := by
  cases known <;> decide

/-- An operator stands for an instruction exactly if it equals the instruction. -/
theorem Operator.instruction?_eq_some_iff {operator : Operator}
    {known : Instruction} :
    operator.instruction? = some known ↔
      operator.same (.instruction known) = true := by
  cases operator with
  | instruction held => simp [instruction?, same]
  | command held => simp [instruction?, same]
  | record name opcode => simp [instruction?, same]
  | foreign object =>
      constructor
      · intro found
        have equal := List.find?_some found
        exact equal
      · intro equal
        have present : (instruction? (.foreign object)).isSome = true :=
          List.find?_isSome.mpr ⟨known, known.mem_all, equal⟩
        obtain ⟨other, found⟩ := Option.isSome_iff_exists.mp present
        have otherEqual := List.find?_some found
        rw [found, Instruction.opcode_inj.mp
          (Foreign.eq_of_equalsInt otherEqual equal)]

namespace Item

/-- An item that equals one instruction equals no other. -/
theorem same_instruction_eq {item : Item} {known : Instruction}
    (same : item.same (.instruction known) = true) (other : Instruction) :
    item.same (.instruction other) = decide (other = known) := by
  cases item with
  | datum held => cases same
  | operator held =>
      have standsFor := Operator.instruction?_eq_some_iff.mpr same
      rw [Bool.eq_iff_iff, decide_eq_true_iff]
      change held.same (.instruction other) = true ↔ other = known
      rw [← Operator.instruction?_eq_some_iff, standsFor, Option.some_inj]
      exact eq_comm

theorem IsPlain.same_eq_false {item : Item} (plain : item.IsPlain)
    (known : Instruction) (control : Calculator.isControl known = true) :
    item.same (.instruction known) = false := by
  cases item with
  | datum held => rfl
  | operator held => exact plain known control

theorem same_control_or_isPlain (item : Item) :
    (∃ known, Calculator.isControl known = true ∧
        item.same (.instruction known) = true) ∨
      item.IsPlain := by
  cases item with
  | datum held => exact .inr trivial
  | operator held =>
      by_cases control : ∃ known, Calculator.isControl known = true ∧
          held.same (.instruction known) = true
      · exact .inl control
      · right
        intro known isControl
        rw [Bool.eq_false_iff]
        exact fun same => control ⟨known, isControl, same⟩

end Item

namespace Calculator

open Machine

/-- An item that equals an instruction does what the instruction does. -/
theorem evaluate_of_same {item : Item} {known : Instruction}
    (same : item.same (.instruction known) = true) :
    evaluate system item = evaluate system (.instruction known) := by
  cases item with
  | datum held => cases same
  | operator held =>
      have standsFor := Operator.instruction?_eq_some_iff.mpr same
      simp only [evaluate, system, standsFor]
      rfl

end Calculator

/-! ## Counting blocks -/

namespace Script

/-- How many blocks a script opens. -/
def openings (script : Script) : Nat :=
  script.countP (·.same (.instruction .ifTrue))

/-- How many blocks a script closes. -/
def closings (script : Script) : Nat :=
  script.countP (·.same (.instruction .endIf))

/-- Every prefix of the script has opened the blocks that it closes, and where a
block changes its branch, one that the script has opened is not yet closed. -/
structure ClosesOwnBlocks (script : Script) : Prop where
  closings_le : ∀ {start : Script}, start <+: script →
    start.closings ≤ start.openings
  closings_lt : ∀ {start : Script} {item : Item}, start ++ [item] <+: script →
    item.same (.instruction .orElse) = true → start.closings < start.openings

theorem closesOwnBlocks_iff {script : Script} :
    ClosesOwnBlocks script ↔
      ∀ cut ∈ script.inits, closings cut ≤ openings cut ∧
        ∀ item ∈ cut.getLast?, item.same (.instruction .orElse) = true →
          closings cut.dropLast < openings cut.dropLast := by
  simp only [List.mem_inits]
  constructor
  · intro closesOwn cut isPrefix
    refine ⟨closesOwn.closings_le isPrefix, ?_⟩
    intro item isLast switches
    obtain ⟨start, rfl⟩ := List.getLast?_eq_some_iff.mp isLast
    rw [List.dropLast_concat]
    exact closesOwn.closings_lt isPrefix switches
  · intro checked
    refine ⟨fun isPrefix => (checked _ isPrefix).1, ?_⟩
    intro start item isPrefix switches
    have inside := (checked _ isPrefix).2 item (by simp) switches
    rwa [List.dropLast_concat] at inside

instance (script : Script) : Decidable (ClosesOwnBlocks script) :=
  decidable_of_iff' _ closesOwnBlocks_iff

theorem ClosesOwnBlocks.of_append {start rest : Script}
    (closesOwn : ClosesOwnBlocks (start ++ rest)) : ClosesOwnBlocks start where
  closings_le isPrefix :=
    closesOwn.closings_le (isPrefix.trans (List.prefix_append start rest))
  closings_lt isPrefix :=
    closesOwn.closings_lt (isPrefix.trans (List.prefix_append start rest))

/-- The depth behind a script that starts at the given depth. -/
def depthBehind (depth : Nat) (script : Script) : Nat :=
  depth + script.openings - script.closings

section Concat

variable {depth : Nat} {start : Script} {item : Item}

theorem le_depthBehind (closed : start.closings ≤ start.openings) :
    depth ≤ start.depthBehind depth := by
  rw [depthBehind]
  omega

theorem depthBehind_of_opening (closed : start.closings ≤ start.openings)
    (opens : item.same (.instruction .ifTrue) = true) :
    (start ++ [item]).depthBehind depth = start.depthBehind depth + 1 := by
  have closesNone := Item.same_instruction_eq opens .endIf
  simp [depthBehind, openings, closings, opens, closesNone] at closed ⊢
  omega

theorem depthBehind_of_closing
    (closed : (start ++ [item]).closings ≤ (start ++ [item]).openings)
    (closes : item.same (.instruction .endIf) = true) :
    start.depthBehind depth = (start ++ [item]).depthBehind depth + 1 := by
  have opensNone := Item.same_instruction_eq closes .ifTrue
  simp [depthBehind, openings, closings, closes, opensNone] at closed ⊢
  omega

theorem depthBehind_of_neither
    (opensNone : item.same (.instruction .ifTrue) = false)
    (closesNone : item.same (.instruction .endIf) = false) :
    (start ++ [item]).depthBehind depth = start.depthBehind depth := by
  simp [depthBehind, openings, closings, opensNone, closesNone]

end Concat

end Script

namespace Calculator

open Machine Script

variable {depth firstFalse : Nat}

/-- Behind a script that has closed its own blocks only, one more item keeps the
branch hidden and leads to the depth behind both. -/
theorem evaluate_untaken (stack : Stack Datum) {start : Script} {item : Item}
    (hidden : firstFalse < depth) (closesOwn : (start ++ [item]).ClosesOwnBlocks)
    (shallow : start.depthBehind depth ≤ Conditions.noFalse)
    (shallowNext : (start ++ [item]).depthBehind depth ≤ Conditions.noFalse) :
    evaluate system item ⟨stack, ⟨start.depthBehind depth, firstFalse⟩⟩ =
      .ok () ⟨stack, ⟨(start ++ [item]).depthBehind depth, firstFalse⟩⟩ := by
  have closed := closesOwn.closings_le (List.prefix_append start [item])
  have closedNext := closesOwn.closings_le (List.prefix_refl _)
  have deeper : depth ≤ start.depthBehind depth := le_depthBehind closed
  rcases item.same_control_or_isPlain with ⟨known, control, same⟩ | plain
  · rw [evaluate_of_same same]
    cases known with
    | ifTrue =>
        rw [depthBehind_of_opening closed same] at shallowNext ⊢
        exact evaluate_ifTrue_hidden stack (by omega) shallowNext
    | orElse =>
        -- The branch that changes belongs to a block of the script itself.
        have inside := closesOwn.closings_lt (List.prefix_refl _) same
        have deeperStill : depth < start.depthBehind depth := by
          rw [depthBehind]
          omega
        obtain ⟨inner, depthEq⟩ := Nat.exists_eq_add_of_lt deeperStill
        rw [depthBehind_of_neither (Item.same_instruction_eq same .ifTrue)
          (Item.same_instruction_eq same .endIf), depthEq]
        exact evaluate_orElse_hidden stack (by omega) (by omega)
    | endIf =>
        have deeperNext : depth ≤ (start ++ [item]).depthBehind depth :=
          le_depthBehind closedNext
        rw [depthBehind_of_closing closedNext same]
        exact evaluate_endIf_hidden stack (by omega)
    | _ => cases control
  · rw [depthBehind_of_neither (plain.same_eq_false .ifTrue rfl)
      (plain.same_eq_false .endIf rfl)]
    exact evaluate_inactive plain (allTrue_eq_false_of_lt (by omega) shallow)

/-- A whole script in a branch that is not taken. -/
theorem run_untaken (stack : Stack Datum) {script : Script}
    (hidden : firstFalse < depth) (closesOwn : script.ClosesOwnBlocks)
    (shallow : ∀ start : Script, start <+: script →
      start.depthBehind depth ≤ Conditions.noFalse) (steps : Nat) :
    run unlimited script ⟨⟨stack, ⟨depth, firstFalse⟩⟩, steps⟩ =
      .ok stack.top? ⟨⟨stack, ⟨script.depthBehind depth, firstFalse⟩⟩,
        steps + script.length⟩ := by
  induction script using List.reverseRecOn with
  | nil => rfl
  | append_singleton start item ih =>
      have startPrefix := List.prefix_append start [item]
      have ranStart := ih closesOwn.of_append
        fun before isPrefix => shallow before (isPrefix.trans startPrefix)
      have evaluated := evaluate_untaken stack hidden closesOwn
        (shallow start startPrefix) (shallow _ (List.prefix_refl _))
      rw [run_append, ranStart, List.length_append]
      exact run_cons_of_ok [] _ evaluated

end Calculator

theorem Conditions.Represents.firstFalse_lt {conditions : Conditions}
    {levels : List Bool} (represents : Represents conditions levels)
    (untaken : conditions.allTrue = false) :
    conditions.firstFalse < conditions.depth := by
  have hasFalse : false ∈ levels := by
    by_contra noneFalse
    rw [represents.allTrue_iff.mpr noneFalse] at untaken
    cases untaken
  rw [represents.firstFalse_eq, represents.depth_eq]
  exact firstFalseOf_lt_length hasFalse

namespace Machine

open Calculator

/-- Code in a branch that is not taken is inert, whatever it consists of, as long
as it closes only blocks of its own.  It never fails, it leaves both parts of the
stack and the first false condition alone, and the depth changes by the blocks that
it opens and closes. -/
theorem run_inert_in_untaken_branch (machine : Machine) (script : Script)
    {levels : List Bool}
    (represents : machine.workspace.conditions.Represents levels)
    (untaken : machine.workspace.conditions.allTrue = false)
    (closesOwn : script.ClosesOwnBlocks)
    (shallow : ∀ start : Script, start <+: script →
      machine.workspace.conditions.depth + start.openings ≤
        Conditions.noFalse + start.closings) :
    ∃ reached, run unlimited script machine = .ok machine.top? reached ∧
      reached.workspace.stack = machine.workspace.stack ∧
      reached.workspace.conditions.firstFalse =
        machine.workspace.conditions.firstFalse ∧
      (reached.workspace.conditions.depth : Int) =
        machine.workspace.conditions.depth +
          ((script.openings : Int) - script.closings) := by
  obtain ⟨⟨stack, ⟨depth, firstFalse⟩⟩, steps⟩ := machine
  have hidden : firstFalse < depth := represents.firstFalse_lt untaken
  have closed := closesOwn.closings_le (List.prefix_refl script)
  have neverDeeper : ∀ start : Script, start <+: script →
      start.depthBehind depth ≤ Conditions.noFalse := by
    intro start isPrefix
    have room := shallow start isPrefix
    simp only [Script.depthBehind] at room ⊢
    omega
  refine ⟨_, run_untaken stack hidden closesOwn neverDeeper steps, rfl, rfl, ?_⟩
  simp only [Script.depthBehind]
  omega

/-- An unknown operator, a value to drop where there is none and a foreign number
that opens a block, inside the second branch of an outer block. -/
theorem run_inert_in_untaken_branch_foreign :
    let machine : Machine :=
      ⟨⟨{ alt := [.value (.boolean true)] }, ⟨2, 0⟩⟩, 7⟩
    let script : Script :=
      [.operator (.foreign (.string [0x3F])), .instruction .drop,
        .operator (.foreign (.integer 5)), .instruction .orElse,
        .datum (.foreign .none), .instruction .orElse, .instruction .ifTrue,
        .instruction .endIf]
    machine.workspace.conditions.Represents [false, true] ∧
      machine.workspace.conditions.allTrue = false ∧ script.ClosesOwnBlocks ∧
      (∀ start ∈ script.inits, 2 + Script.openings start ≤
        Conditions.noFalse + Script.closings start) ∧
      ∃ reached, run unlimited script machine = .ok none reached ∧
        reached.workspace.stack = { alt := [.value (.boolean true)] } ∧
        reached.workspace.conditions.firstFalse = 0 ∧
        reached.workspace.conditions.depth = 3 := by
  intro machine script
  have represents : machine.workspace.conditions.Represents [false, true] :=
    ⟨by decide, rfl, rfl⟩
  have closesOwn : script.ClosesOwnBlocks := by decide
  have shallow : ∀ start ∈ script.inits, 2 + Script.openings start ≤
      Conditions.noFalse + Script.closings start := by decide
  obtain ⟨reached, ran, stackEq, firstFalseEq, depthEq⟩ :=
    run_inert_in_untaken_branch machine script represents rfl closesOwn
      fun start isPrefix => shallow start ((List.mem_inits _ _).mpr isPrefix)
  exact ⟨represents, rfl, closesOwn, shallow, reached, ran, stackEq, firstFalseEq,
    Int.ofNat_inj.mp depthEq⟩

end Machine

end StackScript
