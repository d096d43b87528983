import StackScript.Proofs.Execution

/-!
# A capacity only cuts a run off

A capacity changes nothing about a run until an item would leave more values on
the stack than there may be.  That item fails, and although some instructions push
more than once, it fails with everything in the place where it was before.

The step from which this follows is one equation: an item on a stack with a
capacity does what `cutOff` makes of what it does on the same stack without.
-/

namespace StackScript

def Workspace.withCapacity (workspace : Workspace) (capacity : Option Int) :
    Workspace :=
  { workspace with stack := { workspace.stack with capacity := capacity } }

def Machine.withCapacity (machine : Machine) (capacity : Option Int) :
    Machine :=
  { machine with workspace := machine.workspace.withCapacity capacity }

namespace Capacity

open Routine Calculator Machine

/-- How a step ends under a capacity that ends as given without: if it would leave
too many values, it fails and leaves everything as it was before. -/
def cutOff (bound : Nat) (before : Workspace) :
    EStateM.Result Fault Workspace Unit → EStateM.Result Fault Workspace Unit
  | .ok () next =>
    if bound < next.stack.length then
      .error (.fullStack bound) (before.withCapacity (some bound))
    else .ok () (next.withCapacity (some bound))
  | .error fault next => .error fault (next.withCapacity (some bound))

section Items

variable {bound : Nat}

theorem cutOff_of_le (before : Workspace) {main : List Datum}
    (alt : List Datum) (conditions : Conditions) (within : main.length ≤ bound) :
    cutOff bound before (.ok () ⟨⟨none, main, alt⟩, conditions⟩) =
      .ok () ⟨⟨some bound, main, alt⟩, conditions⟩ :=
  if_neg (Nat.not_lt.mpr within)

theorem cutOff_of_lt (before : Workspace) {main : List Datum}
    (alt : List Datum) (conditions : Conditions) (beyond : bound < main.length) :
    cutOff bound before (.ok () ⟨⟨none, main, alt⟩, conditions⟩) =
      .error (.fullStack bound) (before.withCapacity (some bound)) :=
  if_pos beyond

variable {main alt : List Datum} {move : Move} {turn : Turn}

theorem isWithinCapacity_of_le (alt : List Datum) (within : main.length ≤ bound) :
    Stack.IsWithinCapacity ⟨some (bound : Int), main, alt⟩ := by
  rintro _ ⟨⟩
  exact .inr (Int.ofNat_le.mpr within)

/-- Only a move that adds a value on top of all others can be cut off. -/
theorem moveAndTurn_withCapacity (modest : Modest main alt move turn)
    (within : main.length ≤ bound) (conditions : Conditions) :
    moveAndTurn move turn ⟨⟨some bound, main, alt⟩, conditions⟩ =
      cutOff bound ⟨⟨none, main, alt⟩, conditions⟩
        (moveAndTurn move turn ⟨⟨none, main, alt⟩, conditions⟩) := by
  have capped := isWithinCapacity_of_le alt within
  have uncapped : Stack.IsWithinCapacity ⟨none, main, alt⟩ := nofun
  cases modest with
  | lose taken few mainEq reason => rfl
  | refuse operator => rfl
  | @shrink rest values aside fewer =>
      have fits : (values.reverse ++ rest).length ≤ bound := by
        rw [List.length_append, List.length_reverse]
        omega
      simp only [moveAndTurn_none, onStack_eq_endingIn, Move.perform_put_of_le capped fewer,
        Move.perform_put_uncapped]
      exact (cutOff_of_le _ aside conditions fits).symm
  | grow taken mainEq value aside =>
      simp only [moveAndTurn_none, onStack_eq_endingIn,
        Move.perform_put_more capped mainEq, Move.perform_put_more uncapped mainEq,
        Move.perform_put_uncapped]
      rcases Nat.lt_or_eq_of_le within with room | full
      · have hasRoom : Stack.HasRoom ⟨some (bound : Int), main, alt⟩ := by
          rintro _ ⟨⟩
          exact Int.ofNat_lt.mpr room
        have fits : (value :: main).length ≤ bound := room
        rw [Move.perform_put_one_of_room hasRoom]
        exact (cutOff_of_le _ aside conditions fits).symm
      · have isFull : (bound : Int) ≤ main.length := Int.ofNat_le.mpr (Nat.le_of_eq full.symm)
        have beyond : bound < (value :: main).length := by
          rw [List.length_cons]
          omega
        rw [Move.perform_put_one_of_full isFull]
        exact (cutOff_of_lt ⟨⟨none, main, alt⟩, conditions⟩ aside conditions beyond).symm
  | @turn taken rest few mainEq operation =>
      have fits : rest.length ≤ bound := by
        rw [mainEq, List.length_append] at within
        omega
      change onConditions operation.perform ⟨⟨some bound, rest, alt⟩, conditions⟩ =
        cutOff bound _ (onConditions operation.perform ⟨⟨none, rest, alt⟩, conditions⟩)
      simp only [onConditions]
      cases operation.perform conditions with
      | ok result changed => exact (cutOff_of_le _ alt changed fits).symm
      | error fault changed => rfl

theorem evaluate_withCapacity (item : Item) {workspace : Workspace}
    (within : workspace.stack.length ≤ bound)
    (uncapped : workspace.stack.capacity = none) :
    evaluate system item (workspace.withCapacity (some bound)) =
      cutOff bound workspace (evaluate system item workspace) := by
  obtain ⟨⟨_, main, alt⟩, conditions⟩ := workspace
  cases uncapped
  obtain ⟨move, turn, acts⟩ := item.exists_acts conditions.allTrue main alt
  rw [acts.evaluate none]
  exact (acts.evaluate (some bound)).trans
    (moveAndTurn_withCapacity acts.modest within conditions)

end Items

/-! ## Sequences of calls -/

/-- The stack has the given capacity and holds no more. -/
def Keeps (capacity : Option Int) (stack : Stack Datum) : Prop :=
  stack.capacity = capacity ∧ stack.IsWithinCapacity

theorem keeps_evaluate {capacity : Option Int} (item : Item) (workspace : Workspace)
    (keeps : Keeps capacity workspace.stack) :
    EndsIn (Keeps capacity ·.stack) (fun _ => True) (evaluate system item workspace) :=
  endsIn_of_leftBy ⟨(capacity_evaluate item workspace).trans keeps.1,
    isWithinCapacity_evaluate item keeps.2⟩

theorem keeps_operate {capacity : Option Int} (maxSteps : Option Int) (item : Item)
    (machine : Machine) (keeps : Keeps capacity machine.workspace.stack) :
    EndsIn (Keeps capacity ·.workspace.stack) (fun _ => True)
      (operate ⟨system, maxSteps⟩ item machine) :=
  endsIn_operate (Keeps capacity ·.stack) (fun _ _ => trivial) (keeps_evaluate item) keeps

theorem keeps_afterCalls (capacity maxSteps : Option Int) (calls : List Call) :
    Keeps capacity
      (afterCalls ⟨system, maxSteps⟩ calls (start capacity)).workspace.stack := by
  have fresh : Keeps capacity (start capacity).workspace.stack :=
    ⟨rfl, fun _ _ => .inl rfl⟩
  exact holds_afterCalls (fun _ _ item _ => keeps_operate maxSteps item) fresh

/-! ## Runs -/

/-- No item that is evaluated successfully leaves more values than the bound. -/
def StaysWithin (bound : Nat) (config : Config) (script : Script)
    (machine : Machine) : Prop :=
  ∀ before, before <+: script → ∀ top reached,
    run config before machine = .ok top reached →
      reached.workspace.stack.length ≤ bound

/-- The first item that leaves more values than the bound is evaluated on the one
machine and gives the other. -/
def FirstBeyond (bound : Nat) (config : Config) (script : Script)
    (machine reached beyond : Machine) : Prop :=
  ∃ before item after, script = before ++ item :: after ∧
    StaysWithin bound config before machine ∧
    (∃ top, run config before machine = .ok top reached) ∧
    (∃ top, operate config item reached = .ok top beyond) ∧
    bound < beyond.workspace.stack.length

section Runs

variable {bound : Nat} {config : Config}

theorem staysWithin_nil {machine : Machine}
    (within : machine.workspace.stack.length ≤ bound) :
    StaysWithin bound config [] machine := by
  intro before isPrefix top reached succeeded
  rw [List.prefix_nil] at isPrefix
  subst isPrefix
  cases succeeded
  exact within

theorem staysWithin_cons {item : Item} {rest : Script} {machine : Machine}
    (within : machine.workspace.stack.length ≤ bound)
    (continues : ∀ top next, operate config item machine = .ok top next →
      StaysWithin bound config rest next) :
    StaysWithin bound config (item :: rest) machine := by
  intro before isPrefix top reached succeeded
  cases before with
  | nil =>
      cases succeeded
      exact within
  | cons first others =>
      obtain ⟨rfl, othersPrefix⟩ := List.cons_prefix_cons.mp isPrefix
      simp only [run] at succeeded
      split at succeeded
      · next operated =>
          exact continues _ _ operated others othersPrefix top reached succeeded
      · cases succeeded

theorem FirstBeyond.cons {item : Item} {rest : Script} {top : Option Datum}
    {machine next reached beyond : Machine}
    (within : machine.workspace.stack.length ≤ bound)
    (operated : operate config item machine = .ok top next)
    (first : FirstBeyond bound config rest next reached beyond) :
    FirstBeyond bound config (item :: rest) machine reached beyond := by
  obtain ⟨before, last, after, rfl, stays, ⟨reachedTop, ran⟩, beyondEq⟩ := first
  refine ⟨item :: before, last, after, rfl, staysWithin_cons within ?_,
    ⟨reachedTop, ?_⟩, beyondEq⟩
  · intro otherTop otherNext otherwise
    rw [operated] at otherwise
    cases otherwise
    exact stays
  · simp only [run, operated]
    exact ran

theorem not_staysWithin_of_firstBeyond {script : Script}
    {machine reached beyond : Machine}
    (first : FirstBeyond bound config script machine reached beyond) :
    ¬StaysWithin bound config script machine := by
  obtain ⟨before, item, after, rfl, _, ⟨top, ran⟩, ⟨last, operated⟩, tooMany⟩ :=
    first
  intro stays
  have ranOn : run config (before ++ [item]) machine = .ok beyond.top? beyond := by
    simp only [run_append, ran, run, operated]
  have isPrefix : before ++ [item] <+: before ++ item :: after :=
    ⟨after, by simp⟩
  have within := stays _ isPrefix _ _ ranOn
  omega

end Runs

section Calculator

variable {bound : Nat} (maxSteps : Option Int)

theorem operate_withCapacity {machine : Machine} (item : Item)
    (within : machine.workspace.stack.length ≤ bound)
    (uncapped : machine.workspace.stack.capacity = none) :
    operate ⟨system, maxSteps⟩ item (machine.withCapacity (some bound)) =
      match operate ⟨system, maxSteps⟩ item machine with
      | .ok top next =>
        if bound < next.workspace.stack.length then
          .error (.fullStack bound)
            ⟨machine.workspace.withCapacity (some bound), next.steps⟩
        else .ok top (next.withCapacity (some bound))
      | .error fault next => .error fault (next.withCapacity (some bound)) := by
  have cut := evaluate_withCapacity item within uncapped
  have sameLimit :
      (machine.withCapacity (some bound)).limitReached? ⟨system, maxSteps⟩ =
        machine.limitReached? ⟨system, maxSteps⟩ :=
    rfl
  simp only [operate, sameLimit]
  cases machine.limitReached? ⟨system, maxSteps⟩ with
  | some limit => rfl
  | none =>
      simp only [Machine.withCapacity, cut]
      cases evaluate system item machine.workspace with
      | ok result next =>
          by_cases tooMany : bound < next.stack.length
          · simp only [cutOff, tooMany, if_true]
          · simp only [cutOff, tooMany, if_false]
            rfl
      | error fault next => rfl

theorem uncapped_of_operate {item : Item} {machine next : Machine}
    {top : Option Datum} (uncapped : machine.workspace.stack.capacity = none)
    (operated : operate ⟨system, maxSteps⟩ item machine = .ok top next) :
    next.workspace.stack.capacity = none := by
  have within : machine.workspace.stack.IsWithinCapacity := by
    intro limit capped
    rw [uncapped] at capped
    cases capped
  have kept := keeps_operate maxSteps item machine ⟨uncapped, within⟩
  rw [operated] at kept
  exact kept.1

/-- With a capacity a run ends as without, or at the first item that goes beyond
it, with everything as before that item. -/
theorem run_withCapacity_cases (script : Script) {machine : Machine}
    (within : machine.workspace.stack.length ≤ bound)
    (uncapped : machine.workspace.stack.capacity = none) :
    (StaysWithin bound ⟨system, maxSteps⟩ script machine ∧
      run ⟨system, maxSteps⟩ script (machine.withCapacity (some bound)) =
        endingIn (·.withCapacity (some bound))
          (run ⟨system, maxSteps⟩ script machine)) ∨
    ∃ reached beyond,
      FirstBeyond bound ⟨system, maxSteps⟩ script machine reached beyond ∧
      run ⟨system, maxSteps⟩ script (machine.withCapacity (some bound)) =
        .error (.fullStack bound)
          ⟨reached.workspace.withCapacity (some bound), beyond.steps⟩ := by
  induction script generalizing machine with
  | nil => exact .inl ⟨staysWithin_nil within, rfl⟩
  | cons item rest ih =>
      have capped := operate_withCapacity maxSteps item within uncapped
      simp only [run]
      cases operated : operate ⟨system, maxSteps⟩ item machine with
      | error fault next =>
          rw [operated] at capped
          refine .inl ⟨staysWithin_cons within ?_, ?_⟩
          · intro top next succeeded
            rw [operated] at succeeded
            cases succeeded
          · simp only [capped, endingIn]
      | ok top next =>
          rw [operated] at capped
          by_cases tooMany : bound < next.workspace.stack.length
          · simp only [tooMany, if_true] at capped
            refine .inr ⟨machine, next, ⟨[], item, rest, rfl,
              staysWithin_nil within, ⟨_, rfl⟩, ⟨top, operated⟩, tooMany⟩, ?_⟩
            simp only [capped]
          · simp only [tooMany, if_false] at capped
            simp only [capped]
            rcases ih (Nat.not_lt.mp tooMany)
                (uncapped_of_operate maxSteps uncapped operated) with
              ⟨stays, ended⟩ | ⟨reached, beyond, first, ended⟩
            · refine .inl ⟨staysWithin_cons within ?_, ended⟩
              intro otherTop otherNext otherwise
              rw [operated] at otherwise
              cases otherwise
              exact stays
            · exact .inr ⟨reached, beyond, first.cons within operated, ended⟩

end Calculator

/-- A capacity only cuts a run off.  The stack never holds more, whatever is asked
of the machine.  As long as no item leaves more values, a run ends as it does
without the capacity.  Otherwise it fails at the first item that does, with the
stack and the conditions as they were before. -/
theorem run_under_capacity (bound : Nat) (maxSteps : Option Int)
    (script : Script) :
    let config : Config := { system := system, maxSteps := maxSteps }
    (∀ calls, (afterCalls config calls
      (start (some bound))).workspace.stack.length ≤ bound) ∧
    (StaysWithin bound config script (start none) →
      run config script (start (some bound)) =
        endingIn (·.withCapacity (some bound))
          (run config script (start none))) ∧
    (¬StaysWithin bound config script (start none) →
      ∃ reached beyond,
        FirstBeyond bound config script (start none) reached beyond ∧
        run config script (start (some bound)) =
          .error (.fullStack bound)
            ⟨reached.workspace.withCapacity (some bound), beyond.steps⟩) := by
  intro config
  have fresh : (start none).workspace.stack.length ≤ bound := Nat.zero_le _
  have cases := run_withCapacity_cases maxSteps script fresh rfl
  refine ⟨?_, ?_, ?_⟩
  · intro calls
    obtain ⟨capped, within⟩ := keeps_afterCalls (some bound) maxSteps calls
    rcases within bound capped with empty | bounded
    · rw [Stack.length, empty]
      exact Nat.zero_le bound
    · exact Int.ofNat_le.mp bounded
  · intro stays
    rcases cases with ⟨_, ended⟩ | ⟨reached, beyond, first, _⟩
    · exact ended
    · exact absurd stays (not_staysWithin_of_firstBeyond first)
  · intro exceeds
    rcases cases with ⟨stays, _⟩ | cut
    · exact absurd stays exceeds
    · exact cut

/-- A truth value is set aside, and taking it back makes two values.  With room for
one that fails, and the value stays aside; with room for two it changes nothing. -/
theorem run_under_capacity_transfer :
    let config : Config := { system := system }
    let script : Script :=
      [.value (.boolean true), .instruction .toAlt, .value (.boolean false),
        .instruction .fromAlt]
    let full : Machine :=
      ⟨⟨⟨some 1, [.value (.boolean false)], [.value (.boolean true)]⟩,
        Conditions.empty⟩, 4⟩
    (¬StaysWithin 1 config script (start none) ∧
      (∃ reached beyond,
        FirstBeyond 1 config script (start none) reached beyond ∧
        run config script (start (some 1)) =
          .error (.fullStack 1)
            ⟨reached.workspace.withCapacity (some 1), beyond.steps⟩) ∧
      run config script (start (some 1)) = .error (.fullStack 1) full) ∧
    StaysWithin 2 config script (start none) ∧
      run config script (start (some 2)) =
        endingIn (·.withCapacity (some 2)) (run config script (start none)) := by
  intro config script full
  have exceeds : ¬StaysWithin 1 config script (start none) := by
    intro stays
    exact absurd (stays script List.prefix_rfl _ _ rfl) (by decide)
  have stays : StaysWithin 2 config script (start none) := by
    apply staysWithin_cons (by decide)
    rintro _ _ ⟨⟩
    apply staysWithin_cons (by decide)
    rintro _ _ ⟨⟩
    apply staysWithin_cons (by decide)
    rintro _ _ ⟨⟩
    apply staysWithin_cons (by decide)
    rintro _ _ ⟨⟩
    exact staysWithin_nil (by decide)
  exact ⟨⟨exceeds, (run_under_capacity 1 none script).2.2 exceeds, rfl⟩, stays,
    (run_under_capacity 2 none script).2.1 stays⟩

end Capacity
end StackScript
