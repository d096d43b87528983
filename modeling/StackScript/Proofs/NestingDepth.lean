import StackScript.Proofs.BlockNesting

/-!
# The depth of the open blocks

Which branch of a block is taken depends on the values of a script, and with it most of
what its items do.  How many blocks are open does not: an item that opens or closes a
block is counted in every branch, and no other item changes the depth.  So the depth
behind a script that succeeds can be read off the script, and so can the places where a
block is closed or switched that was never opened.

`Places` says both for a single item.  The only thing that it needs to know about the
conditions is that their depth can be counted.
-/

namespace StackScript

/-! ## Faults that have nothing to do with conditions -/

/-- Whatever is wrong with a move, it is not the conditions. -/
theorem Modest.label_of_perform_error {main alt : List Datum} {move : Move} {turn : Turn}
    (modest : Modest main alt move turn) {stack after : Stack Datum} {fault : Fault}
    (failed : move.perform stack = .error fault after) :
    fault.label ≠ "ConditionStackError" := by
  intro labelEq
  have familyEq := Fault.family_of_label labelEq (by decide)
  cases modest with
  | lose taken few mainEq reason =>
      cases failed
      cases fault <;> simp [Fault.concernsOperands, Fault.family] at reason familyEq
  | refuse operator =>
      cases failed
      simp [Fault.family] at familyEq
  | shrink aside fewer | grow taken mainEq value aside | turn taken few mainEq operation =>
      rcases Move.perform_put_cases stack.capacity stack.main stack.alt _ _ _ with
        succeeded | ⟨limit, _, _, _, refused⟩
      · rw [succeeded] at failed
        cases failed
      · rw [refused] at failed
        cases failed
        simp [Fault.family] at familyEq

/-! ## Single items -/

namespace Item

/-- The item switches or closes a block where none is open, or it opens one more than
can be counted, which it does not get to if it lacks its condition. -/
def IsMisplaced (item : Item) (workspace : Workspace) : Prop :=
  (item.same (.instruction .orElse) = true ∨
      item.same (.instruction .endIf) = true) ∧
      workspace.conditions.depth = 0 ∨
    item.same (.instruction .ifTrue) = true ∧
      workspace.conditions.depth = Conditions.noFalse ∧
      (workspace.conditions.allTrue = true → workspace.stack.main ≠ [])

/-- An item that succeeds moves the depth by the blocks that it opens and closes, and
one that fails blames the conditions exactly if it is misplaced. -/
def Places (item : Item) (before : Workspace) :
    EStateM.Result Fault Workspace Unit → Prop
  | .ok () after =>
    ¬item.IsMisplaced before ∧ after.conditions.depth ≤ Conditions.noFalse ∧
      after.conditions.depth + Script.closings [item] =
        before.conditions.depth + Script.openings [item]
  | .error fault _ =>
    fault.label = "ConditionStackError" ↔ item.IsMisplaced before

section Places

variable {item : Item} {before : Workspace}

theorem isMisplaced_iff_of_opening
    (opens : item.same (.instruction .ifTrue) = true) :
    item.IsMisplaced before ↔
      before.conditions.depth = Conditions.noFalse ∧
        (before.conditions.allTrue = true → before.stack.main ≠ []) := by
  simp [IsMisplaced, Item.same_instruction_eq opens]

theorem isMisplaced_iff_of_switching
    (switches : item.same (.instruction .orElse) = true) :
    item.IsMisplaced before ↔ before.conditions.depth = 0 := by
  simp [IsMisplaced, Item.same_instruction_eq switches]

theorem isMisplaced_iff_of_closing
    (closes : item.same (.instruction .endIf) = true) :
    item.IsMisplaced before ↔ before.conditions.depth = 0 := by
  simp [IsMisplaced, Item.same_instruction_eq closes]

theorem IsPlain.not_isMisplaced (plain : item.IsPlain) :
    ¬item.IsMisplaced before := by
  simp [IsMisplaced, plain.same_eq_false .ifTrue rfl,
    plain.same_eq_false .orElse rfl, plain.same_eq_false .endIf rfl]

open Routine

/-- An operation on the conditions places the item if it is refused exactly where the
item is misplaced and counts its block otherwise. -/
theorem places_onConditions {operation : Conditions.Operation} (rest : Stack Datum)
    (refused_iff : operation.IsRefusedAt before.conditions.depth ↔
      item.IsMisplaced before)
    (moved : ¬operation.IsRefusedAt before.conditions.depth →
      operation.depthAfter before.conditions.depth ≤ Conditions.noFalse ∧
        operation.depthAfter before.conditions.depth + Script.closings [item] =
          before.conditions.depth + Script.openings [item]) :
    item.Places before (onConditions operation.perform { before with stack := rest }) := by
  simp only [onConditions]
  rcases operation.perform_cases before.conditions with
    ⟨isRefused, fault, refused, labelEq⟩ | ⟨notRefused, next, accepted, depthEq⟩
  · rw [refused]
    exact iff_of_true labelEq (refused_iff.mp isRefused)
  · rw [accepted]
    refine ⟨fun misplaced => notRefused (refused_iff.mpr misplaced), ?_⟩
    rw [depthEq]
    exact moved notRefused

/-- Where the condition is there, or none is needed, a block is opened unless there are
too many. -/
theorem places_opening (opens : item.same (.instruction .ifTrue) = true)
    (counted : before.conditions.depth ≤ Conditions.noFalse)
    (hasCondition : before.conditions.allTrue = true → before.stack.main ≠ [])
    (rest : Stack Datum) (condition : Bool) :
    item.Places before (onConditions (Conditions.Operation.push condition).perform
      { before with stack := rest }) := by
  have closesNone := Item.same_instruction_eq opens .endIf
  apply places_onConditions
  · rw [isMisplaced_iff_of_opening opens, Conditions.Operation.IsRefusedAt]
    exact ⟨fun full => ⟨Nat.le_antisymm counted full, hasCondition⟩,
      fun misplaced => Nat.le_of_eq misplaced.1.symm⟩
  · intro room
    simp only [Conditions.Operation.IsRefusedAt, Conditions.Operation.depthAfter] at room ⊢
    simp [Script.openings, Script.closings, opens, closesNone]
    omega

theorem places_opening_block (opens : item.same (.instruction .ifTrue) = true)
    (counted : before.conditions.depth ≤ Conditions.noFalse) :
    item.Places before
      (Machine.evaluate Calculator.system (.instruction .ifTrue) before) := by
  obtain ⟨⟨capacity, main, alt⟩, conditions⟩ := before
  cases active : conditions.allTrue with
  | false =>
      rw [(Instruction.Acts.openHidden main alt).evaluate active]
      exact places_opening opens counted (by simp [active]) ⟨capacity, main, alt⟩ false
  | true =>
      cases main with
      | nil =>
          -- Without a condition the block is not even opened.
          have lacks : Instruction.ifTrue.Acts true [] alt (.fail .emptyStack []) none :=
            .lack Nat.zero_lt_one
          have notMisplaced : ¬item.IsMisplaced ⟨⟨capacity, [], alt⟩, conditions⟩ := by
            rw [isMisplaced_iff_of_opening opens]
            exact fun misplaced => misplaced.2 active rfl
          rw [lacks.evaluate active]
          exact iff_of_false (by decide) notMisplaced
      | cons condition below =>
          rw [(Instruction.Acts.openTaken condition below alt).evaluate active]
          exact places_opening opens counted (fun _ => List.cons_ne_nil _ _)
            ⟨capacity, below, alt⟩ condition.isTruthy

theorem places_switching (switches : item.same (.instruction .orElse) = true)
    (counted : before.conditions.depth ≤ Conditions.noFalse) :
    item.Places before
      (onConditions Conditions.Operation.toggleTop.perform before) := by
  have opensNone := Item.same_instruction_eq switches .ifTrue
  have closesNone := Item.same_instruction_eq switches .endIf
  apply places_onConditions before.stack
  · exact (isMisplaced_iff_of_switching switches).symm
  · intro _
    refine ⟨counted, ?_⟩
    simp [Conditions.Operation.depthAfter, Script.openings, Script.closings, opensNone,
      closesNone]

theorem places_closing (closes : item.same (.instruction .endIf) = true)
    (counted : before.conditions.depth ≤ Conditions.noFalse) :
    item.Places before (onConditions Conditions.Operation.pop.perform before) := by
  have opensNone := Item.same_instruction_eq closes .ifTrue
  apply places_onConditions before.stack
  · exact (isMisplaced_iff_of_closing closes).symm
  · intro nonzero
    simp only [Conditions.Operation.IsRefusedAt, Conditions.Operation.depthAfter]
      at nonzero ⊢
    simp [Script.openings, Script.closings, closes, opensNone]
    omega

/-- A plain item leaves the conditions alone and does not blame them. -/
theorem IsPlain.places (plain : item.IsPlain)
    (counted : before.conditions.depth ≤ Conditions.noFalse) :
    item.Places before (Machine.evaluate Calculator.system item before) := by
  have opensNone := plain.same_eq_false .ifTrue rfl
  have closesNone := plain.same_eq_false .endIf rfl
  obtain ⟨⟨capacity, main, alt⟩, conditions⟩ := before
  obtain ⟨move, turn, acts⟩ := item.exists_acts conditions.allTrue main alt
  obtain rfl := acts.turn_eq_none plain
  rw [Calculator.endingIn_perform_of_acts acts rfl]
  cases performed : move.perform ⟨capacity, main, alt⟩ with
  | ok result stack =>
      exact ⟨plain.not_isMisplaced, counted,
        by simp [Script.openings, Script.closings, opensNone, closesNone]⟩
  | error fault stack =>
      exact iff_of_false (acts.modest.label_of_perform_error performed)
        plain.not_isMisplaced

theorem places_evaluate (item : Item) {before : Workspace}
    (counted : before.conditions.depth ≤ Conditions.noFalse) :
    item.Places before (Machine.evaluate Calculator.system item before) := by
  rcases item.same_control_or_isPlain with ⟨known, control, same⟩ | plain
  · rw [Calculator.evaluate_of_same same]
    cases known with
    | ifTrue => exact places_opening_block same counted
    | orElse => exact places_switching same counted
    | endIf => exact places_closing same counted
    | _ => cases control
  · exact plain.places counted

end Places

end Item

/-! ## Runs -/

theorem Script.openings_cons (item : Item) (rest : Script) :
    openings (item :: rest) = openings [item] + openings rest := by
  rw [openings, ← List.singleton_append, List.countP_append]
  rfl

theorem Script.closings_cons (item : Item) (rest : Script) :
    closings (item :: rest) = closings [item] + closings rest := by
  rw [closings, ← List.singleton_append, List.countP_append]
  rfl

namespace Machine

open Calculator

variable {machine reached : Machine} {script : Script} {top : Option Datum}

/-- Behind a script that succeeds the depth can be counted again, and it has moved by
the blocks that the script opens and closes. -/
theorem depth_of_run (counted : machine.workspace.conditions.depth ≤ Conditions.noFalse)
    (succeeded : run unlimited script machine = .ok top reached) :
    reached.workspace.conditions.depth ≤ Conditions.noFalse ∧
      reached.workspace.conditions.depth + script.closings =
        machine.workspace.conditions.depth + script.openings := by
  induction script generalizing machine with
  | nil =>
      cases succeeded
      exact ⟨counted, rfl⟩
  | cons item rest ih =>
      have opened := Script.openings_cons item rest
      have closed := Script.closings_cons item rest
      have placed := Item.places_evaluate item counted
      cases evaluated : evaluate system item machine.workspace with
      | ok result after =>
          rw [run_cons_of_ok rest machine.steps evaluated] at succeeded
          rw [evaluated] at placed
          obtain ⟨_, countedNext, moved⟩ := placed
          obtain ⟨countedEnd, movedRest⟩ := ih countedNext succeeded
          dsimp only at movedRest
          exact ⟨countedEnd, by omega⟩
      | error fault after =>
          rw [run_cons_of_error rest machine.steps evaluated] at succeeded
          cases succeeded

theorem conditionFault_iff_isMisplaced (item : Item)
    (counted : machine.workspace.conditions.depth ≤ Conditions.noFalse) :
    (∃ fault failed, operate unlimited item machine = .error fault failed ∧
        fault.label = "ConditionStackError") ↔
      item.IsMisplaced machine.workspace := by
  have placed := Item.places_evaluate item counted
  cases evaluated : evaluate system item machine.workspace with
  | ok result after =>
      rw [evaluated, Item.Places] at placed
      simp [operate, limitReached?, evaluated, placed.1]
  | error fault after =>
      rw [evaluated, Item.Places] at placed
      simpa [operate, limitReached?, evaluated] using placed

/-- The depth of the open blocks follows the instructions that open and close them,
whatever the values are and whichever branches are taken.  As long as a script succeeds,
an item blames the conditions exactly if it switches or closes a block at the depth
zero, or if it opens one at the greatest depth that can be counted and has the condition
that it needs.  So two runs of a script from the same depth end at the same depth. -/
theorem depth_follows_blocks (machine : Machine) (script : Script)
    (counted : machine.workspace.conditions.depth ≤ Conditions.noFalse) :
    (∀ top reached, run unlimited script machine = .ok top reached →
      (reached.workspace.conditions.depth : Int) =
        machine.workspace.conditions.depth +
          ((script.openings : Int) - script.closings)) ∧
    (∀ (start : Script) (item : Item) (rest : Script),
      script = start ++ item :: rest → ∀ top before,
        run unlimited start machine = .ok top before →
        let depth : Int := machine.workspace.conditions.depth +
          ((start.openings : Int) - start.closings)
        ((∃ fault failed, operate unlimited item before = .error fault failed ∧
            fault.label = "ConditionStackError") ↔
          (item.same (.instruction .orElse) = true ∨
              item.same (.instruction .endIf) = true) ∧ depth = 0 ∨
            item.same (.instruction .ifTrue) = true ∧
              depth = Conditions.noFalse ∧
              (before.workspace.conditions.allTrue = true →
                before.workspace.stack.main ≠ []))) ∧
    (∀ other top otherTop reached otherReached,
      other.workspace.conditions.depth = machine.workspace.conditions.depth →
      run unlimited script machine = .ok top reached →
      run unlimited script other = .ok otherTop otherReached →
      otherReached.workspace.conditions.depth =
        reached.workspace.conditions.depth) := by
  refine ⟨?_, ?_, ?_⟩
  · intro top reached succeeded
    obtain ⟨_, moved⟩ := depth_of_run counted succeeded
    omega
  · intro start item rest _ top before succeeded depth
    obtain ⟨countedBefore, moved⟩ := depth_of_run counted succeeded
    have depthEq : depth = before.workspace.conditions.depth := by
      simp only [depth]
      omega
    rw [conditionFault_iff_isMisplaced item countedBefore, Item.IsMisplaced, depthEq]
    simp only [Int.natCast_eq_zero, Int.natCast_inj]
  · intro other top otherTop reached otherReached sameDepth succeeded otherSucceeded
    obtain ⟨_, moved⟩ := depth_of_run counted succeeded
    obtain ⟨_, otherMoved⟩ := depth_of_run (sameDepth ▸ counted) otherSucceeded
    omega

/-- One block short of the greatest depth, a block is opened and switched.  Another one
cannot be opened inside it, and closing it leads back, whether its first branch was
taken or not. -/
theorem depth_follows_blocks_deepest :
    let conditions : Conditions := ⟨Conditions.noFalse - 1, Conditions.noFalse⟩
    let machineWith (truth : Bool) : Machine :=
      ⟨⟨{ main := [.value (.boolean truth)] }, conditions⟩, 0⟩
    let start : Script := [.instruction .dup, .instruction .ifTrue, .instruction .orElse]
    let closed : Script := start ++ [.instruction .endIf]
    (machineWith false).workspace.conditions.depth ≤ Conditions.noFalse ∧
      (∃ before fault failed,
        run unlimited start (machineWith false) =
            .ok (some (.value (.boolean false))) before ∧
          operate unlimited (.instruction .ifTrue) before = .error fault failed ∧
          fault.label = "ConditionStackError") ∧
      ∃ top otherTop reached otherReached,
        run unlimited closed (machineWith false) = .ok top reached ∧
          run unlimited closed (machineWith true) = .ok otherTop otherReached ∧
          reached.workspace.conditions.depth = Conditions.noFalse - 1 ∧
          otherReached.workspace.conditions.depth =
            reached.workspace.conditions.depth := by
  intro conditions machineWith start closed
  have counted : (machineWith false).workspace.conditions.depth ≤
      Conditions.noFalse := by decide
  obtain ⟨_, blames, _⟩ := depth_follows_blocks (machineWith false)
    (start ++ [.instruction .ifTrue]) counted
  obtain ⟨fault, failed, refused, labelEq⟩ :=
    (blames start (.instruction .ifTrue) [] rfl _ _ rfl).mpr
      (.inr ⟨rfl, by decide, fun _ => List.cons_ne_nil _ _⟩)
  obtain ⟨_, _, sameDepth⟩ := depth_follows_blocks (machineWith false) closed counted
  exact ⟨counted, ⟨_, fault, failed, rfl, refused, labelEq⟩, _, _, _, _, rfl, rfl, rfl,
    sameDepth (machineWith true) _ _ _ _ rfl rfl rfl⟩

end Machine

end StackScript
