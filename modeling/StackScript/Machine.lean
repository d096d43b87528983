import StackScript.Arithmetic
import StackScript.Conditions
import StackScript.Stack

/-!
# The machine

A machine evaluates the items of a script one after the other.  A datum is
pushed if every open block is in a branch that is taken, and skipped otherwise.
An operator always goes to the operator system, which decides what it does to
the stack and the conditions, and which has to see the operators of branches
that are not taken to keep track of the nesting.

Evaluation stops at the first fault and undoes nothing.  What a failed step has
changed stays changed, so a routine gives the state it ends in together with its
result or its fault.
-/

namespace StackScript

/-- What operators work on. -/
structure Workspace where
  stack : Stack Datum
  conditions : Conditions

/-- A computation on a workspace that may fail and leaves the workspace as it is
at that moment. -/
abbrev Routine := EStateM Fault Workspace

/-- The meaning of operators. -/
abbrev OperatorSystem := Operator → Routine Unit

namespace Routine

variable {α : Type}

def onStack (action : Stack.Action Datum α) : Routine α := fun workspace =>
  match action workspace.stack with
  | .ok result stack => .ok result { workspace with stack := stack }
  | .error fault stack => .error fault { workspace with stack := stack }

def onConditions (action : Conditions.Action) : Routine Unit := fun workspace =>
  match action workspace.conditions with
  | .ok () conditions => .ok () { workspace with conditions := conditions }
  | .error fault conditions =>
    .error fault { workspace with conditions := conditions }

/-- Runs one of two routines, the first if every open block is in a branch that
is taken. -/
def ifActive (active inactive : Routine α) : Routine α := fun workspace =>
  if workspace.conditions.allTrue then active workspace
  else inactive workspace

end Routine

namespace OperatorSystem

def idle : OperatorSystem := fun _ => pure ()

def halting : OperatorSystem := fun _ => throw .halted

end OperatorSystem

/-- A workspace and the number of items evaluated on it. -/
structure Machine where
  workspace : Workspace
  steps : Nat

namespace Machine

/-- What stays the same over the life of a machine. -/
structure Config where
  system : OperatorSystem
  maxSteps : Option Int := none

/-- A machine that has evaluated nothing, with a stack of the given capacity. -/
def start (capacity : Option Int) : Machine :=
  { workspace := { stack := { capacity := capacity }
                   conditions := Conditions.empty }
    steps := 0 }

def top? (machine : Machine) : Option Datum :=
  machine.workspace.stack.top?

/-- Whether the step limit is reached, and which it is. -/
def limitReached? (config : Config) (machine : Machine) : Option Int :=
  match config.maxSteps with
  | some limit => if limit ≤ machine.steps then some limit else none
  | none => none

/-- What an item does to the workspace. -/
def evaluate (system : OperatorSystem) : Item → Routine Unit
  | .operator operator => system operator
  | .datum datum => Routine.ifActive (Routine.onStack (Stack.push datum)) (pure ())

/-- Evaluates one item and gives the topmost datum.  The item counts as a step
also if it fails, unless the step limit is reached before. -/
def operate (config : Config) (item : Item) :
    EStateM Fault Machine (Option Datum) := fun machine =>
  match machine.limitReached? config with
  | some limit => .error (.stepLimit limit) machine
  | none =>
    match evaluate config.system item machine.workspace with
    | .ok () workspace =>
      .ok workspace.stack.top? ⟨workspace, machine.steps + 1⟩
    | .error fault workspace => .error fault ⟨workspace, machine.steps + 1⟩

/-- Evaluates the items of a script up to the first fault. -/
def run (config : Config) : Script → EStateM Fault Machine (Option Datum)
  | [] => fun machine => .ok machine.top? machine
  | item :: rest => fun machine =>
    match operate config item machine with
    | .ok _ next => run config rest next
    | .error fault next => .error fault next

/-- What the journal says about an item that is about to be evaluated: which
operator it is, or that its datum is skipped. -/
def journalEntry? (machine : Machine) (item : Item) : Option String :=
  let step := "step " ++ toString (machine.steps + 1) ++ ": "
  match item with
  | .operator operator => some (step ++ "operator " ++ operator.render)
  | .datum datum =>
    if machine.workspace.conditions.allTrue then none
    else some (step ++ "skipped " ++ datum.render ++ " in inactive branch")

def journal (config : Config) : Script → Machine → List String
  | [], _ => []
  | item :: rest, machine =>
    match machine.limitReached? config with
    | some _ => []
    | none =>
      let entries := (machine.journalEntry? item).toList
      match operate config item machine with
      | .ok _ next => entries ++ journal config rest next
      | .error _ _ => entries

def render (machine : Machine) : String :=
  "Machine(stack=" ++ machine.workspace.stack.render Datum.render ++
    ", conditions=" ++ machine.workspace.conditions.render ++ ")"

end Machine
end StackScript
