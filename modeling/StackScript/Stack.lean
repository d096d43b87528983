import StackScript.Fault

/-!
# The two-part stack

Operators work on the main part.  Values can be set aside in a second part, the
alternative one, and taken back in the opposite order.  Only the main part has a
capacity.  Both lists hold the topmost value first; `mainValues` and `altValues`
give them bottom first.

A stack is changed in place, step by step.  A failure undoes nothing, so what it
leaves depends on the order of the steps.
-/

namespace StackScript

structure Stack (α : Type) where
  capacity : Option Int := none
  main : List α := []
  alt : List α := []

namespace Stack

variable {α : Type}

def length (stack : Stack α) : Nat := stack.main.length

def altLength (stack : Stack α) : Nat := stack.alt.length

def mainValues (stack : Stack α) : List α := stack.main.reverse

def altValues (stack : Stack α) : List α := stack.alt.reverse

def top? (stack : Stack α) : Option α := stack.main.head?

/-- A computation that changes a stack and may fail. -/
abbrev Action (α β : Type) := EStateM Fault (Stack α) β

/-- The capacity of a stack whose main part is full. -/
def fullAt? (stack : Stack α) : Option Int :=
  match stack.capacity with
  | some capacity =>
    if capacity ≤ stack.main.length then some capacity else none
  | none => none

/-- Puts a value on top of the main part, unless that is full. -/
def push (value : α) : Action α Unit := fun stack =>
  match stack.fullAt? with
  | some capacity => .error (.fullStack capacity) stack
  | none => .ok () { stack with main := value :: stack.main }

def pop : Action α α := fun stack =>
  match stack.main with
  | [] => .error .emptyStack stack
  | value :: rest => .ok value { stack with main := rest }

/-- Sets the topmost value of the main part aside. -/
def popIntoAlt : Action α Unit := do
  if (← get).main.isEmpty then throw .emptyStackForAlt
  else
    let value ← pop
    modify fun stack => { stack with alt := value :: stack.alt }

/-- Takes the value set aside last back onto the main part.  It is removed only once
it has been pushed. -/
def pushFromAlt : Action α Unit := do
  match (← get).alt with
  | [] => throw .emptyAlt
  | value :: _ =>
    push value
    modify fun stack => { stack with alt := stack.alt.tail }

/-- A result that does not depend on the stack. -/
def yield {β : Type} : Except Fault β → Action α β
  | .ok result => pure result
  | .error fault => throw fault

inductive Call (α : Type) where
  | push (value : α)
  | pop
  | popIntoAlt
  | pushFromAlt

/-- Makes a call, which gives a value only if it pops one. -/
def Call.perform : Call α → Action α (Option α)
  | .push value => do
    Stack.push value
    pure none
  | .pop => do
    let value ← Stack.pop
    pure (some value)
  | .popIntoAlt => do
    Stack.popIntoAlt
    pure none
  | .pushFromAlt => do
    Stack.pushFromAlt
    pure none

def render (renderValue : α → String) (stack : Stack α) : String :=
  let list (values : List α) : String :=
    "[" ++ ", ".intercalate (values.map renderValue) ++ "]"
  "Stack(main=" ++ list stack.mainValues ++ ", alt=" ++ list stack.altValues ++
    ")"

/-! ## Room on the stack -/

def HasRoom (stack : Stack α) : Prop :=
  ∀ limit, stack.capacity = some limit → stack.length < limit

theorem push_of_hasRoom {stack : Stack α} (room : stack.HasRoom) (value : α) :
    push value stack = .ok () { stack with main := value :: stack.main } := by
  have notFull : stack.fullAt? = none := by
    rw [fullAt?]
    split
    · next capacity capped => exact if_neg (Int.not_le.mpr (room capacity capped))
    · rfl
  rw [push, notFull]

theorem push_of_le_length {stack : Stack α} {capacity : Int}
    (capped : stack.capacity = some capacity) (full : capacity ≤ stack.length)
    (value : α) :
    push value stack = .error (.fullStack capacity) stack := by
  have isFull : stack.fullAt? = some capacity := by
    rw [fullAt?, capped]
    exact if_pos full
  rw [push, isFull]

section Transfer

variable {capacity : Option Int} {main aside : List α} {value : α}

theorem pushFromAlt_of_hasRoom (room : HasRoom ⟨capacity, main, value :: aside⟩) :
    pushFromAlt ⟨capacity, main, value :: aside⟩ =
      .ok () ⟨capacity, value :: main, aside⟩ := by
  change (push value >>= fun _ => _) _ = _
  simp only [Bind.bind, EStateM.bind, push_of_hasRoom room]
  rfl

theorem pushFromAlt_of_le_length {limit : Int} (full : limit ≤ main.length) :
    pushFromAlt ⟨some limit, main, value :: aside⟩ =
      .error (.fullStack limit) ⟨some limit, main, value :: aside⟩ := by
  have refused : push value ⟨some limit, main, value :: aside⟩ =
      .error (.fullStack limit) ⟨some limit, main, value :: aside⟩ :=
    push_of_le_length rfl full value
  change (push value >>= fun _ => _) _ = _
  simp only [Bind.bind, EStateM.bind, refused]

end Transfer

/-- A stack has room, or it has a capacity that its values use up. -/
theorem hasRoom_or_full (stack : Stack α) :
    stack.HasRoom ∨
      ∃ capacity, stack.capacity = some capacity ∧ capacity ≤ stack.length := by
  cases capped : stack.capacity with
  | none => exact .inl fun limit other => by rw [capped] at other; cases other
  | some capacity =>
      by_cases full : capacity ≤ stack.length
      · exact .inr ⟨capacity, rfl, full⟩
      · refine .inl fun limit other => ?_
        rw [capped] at other
        cases other
        exact Int.not_le.mp full

end Stack
end StackScript
