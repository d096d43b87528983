import StackScript.Fault

/-!
# Open blocks and their conditions

Every open block of a script has a truth value that tells whether its current
branch is taken.  Of these truth values only two facts are ever asked for: how
many there are, and whether all of them are true.  They are therefore not kept;
two numbers stand for them, the count and the position of the first false one.
What lies above the first false one cannot be observed, so every operation takes
constant time however deep the nesting is.

The number `noFalse` in place of a position says that there is no false one.  It
is never a position, because at most `noFalse` blocks can be open.

The two numbers are changed in place, one after the other.
-/

namespace StackScript

/-- The conditions of the open blocks, outermost first, as two numbers. -/
structure Conditions where
  depth : Nat
  /-- The position of the first false condition, or `noFalse`. -/
  firstFalse : Nat
deriving DecidableEq, Repr

namespace Conditions

/-- Stands for the position of a false condition where there is none, and bounds
the number of open blocks. -/
def noFalse : Nat := 0xFFFFFFFF

def empty : Conditions := ⟨0, noFalse⟩

def isEmpty (conditions : Conditions) : Bool := conditions.depth == 0

/-- Whether the current branch of every open block is taken. -/
def allTrue (conditions : Conditions) : Bool :=
  conditions.firstFalse == noFalse

/-- A computation that changes the conditions and may fail. -/
abbrev Action := EStateM Fault Conditions Unit

/-- Opens a block with the given condition. -/
def push (condition : Bool) : Action := do
  if noFalse ≤ (← get).depth then throw .tooManyConditions
  else
    if (← get).allTrue && !condition then
      modify fun conditions => { conditions with firstFalse := conditions.depth }
    modify fun conditions => { conditions with depth := conditions.depth + 1 }

/-- Closes the innermost block. -/
def pop : Action := do
  if (← get).isEmpty then throw .noConditionToPop
  else
    modify fun conditions => { conditions with depth := conditions.depth - 1 }
    if (← get).firstFalse = (← get).depth then
      modify fun conditions => { conditions with firstFalse := noFalse }

/-- Negates the condition of the innermost block.  That is lost unless all
conditions around it are true. -/
def toggleTop : Action := do
  if (← get).isEmpty then throw .noConditionToToggle
  else
    let top := (← get).depth - 1
    if (← get).allTrue then
      modify fun conditions => { conditions with firstFalse := top }
    else if (← get).firstFalse = top then
      modify fun conditions => { conditions with firstFalse := noFalse }

inductive Operation where
  | push (condition : Bool)
  | pop
  | toggleTop
deriving DecidableEq, Repr

def Operation.perform : Operation → Action
  | .push condition => Conditions.push condition
  | .pop => Conditions.pop
  | .toggleTop => Conditions.toggleTop

/-- The position of the first false condition. -/
def firstFalse? (conditions : Conditions) : Option Nat :=
  if conditions.allTrue then none else some conditions.firstFalse

def render (conditions : Conditions) : String :=
  "ConditionStack(stack_size=" ++ toString conditions.depth ++
    ", first_false_pos=" ++ toString conditions.firstFalse ++ ")"

/-! ## Closed forms -/

theorem push_of_le {conditions : Conditions} (full : noFalse ≤ conditions.depth)
    (condition : Bool) :
    push condition conditions = .error .tooManyConditions conditions := by
  change (if noFalse ≤ conditions.depth then _ else _ : Action) conditions = _
  rw [if_pos full]
  rfl

theorem push_of_lt {conditions : Conditions} (room : conditions.depth < noFalse)
    (condition : Bool) :
    push condition conditions =
      .ok () ⟨conditions.depth + 1,
        if conditions.allTrue && !condition then conditions.depth
        else conditions.firstFalse⟩ := by
  change (if noFalse ≤ conditions.depth then _ else _ : Action) conditions = _
  rw [if_neg (Nat.not_le.mpr room)]
  change (if conditions.allTrue && !condition then _ else _ : Action) conditions = _
  cases conditions.allTrue && !condition <;> rfl

theorem pop_zero (firstFalse : Nat) :
    pop ⟨0, firstFalse⟩ = .error .noConditionToPop ⟨0, firstFalse⟩ :=
  rfl

theorem pop_succ (depth firstFalse : Nat) :
    pop ⟨depth + 1, firstFalse⟩ =
      .ok () ⟨depth, if firstFalse = depth then noFalse else firstFalse⟩ := by
  change (if firstFalse = depth then _ else _ : Action) ⟨depth, firstFalse⟩ = _
  by_cases uncovered : firstFalse = depth
  · rw [if_pos uncovered, if_pos uncovered]
    rfl
  · rw [if_neg uncovered, if_neg uncovered]
    rfl

theorem toggleTop_zero (firstFalse : Nat) :
    toggleTop ⟨0, firstFalse⟩ = .error .noConditionToToggle ⟨0, firstFalse⟩ :=
  rfl

theorem toggleTop_succ (depth firstFalse : Nat) :
    toggleTop ⟨depth + 1, firstFalse⟩ =
      .ok () ⟨depth + 1,
        if firstFalse = noFalse then depth
        else if firstFalse = depth then noFalse else firstFalse⟩ := by
  change (if firstFalse == noFalse then _ else _ : Action) ⟨depth + 1, firstFalse⟩ = _
  by_cases allTrue : firstFalse = noFalse
  · rw [if_pos (beq_iff_eq.mpr allTrue), if_pos allTrue]
    rfl
  · rw [if_neg (mt beq_iff_eq.mp allTrue), if_neg allTrue]
    change (if firstFalse = depth then _ else _ : Action) ⟨depth + 1, firstFalse⟩ = _
    by_cases atTop : firstFalse = depth
    · rw [if_pos atTop, if_pos atTop]
      rfl
    · rw [if_neg atTop, if_neg atTop]
      rfl

end Conditions
end StackScript
