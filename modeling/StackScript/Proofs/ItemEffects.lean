import StackScript.Proofs.OperandFaults
import StackScript.Proofs.Outcomes

/-!
# What single items do

Every item of a script works in two parts.  It makes a move on the stack, and if that
succeeds, it may turn the conditions.  Which move and which turn depends on the item, on
the values and on whether all conditions are true.

`Item.Acts` says this once for every item, and `Item.Acts.evaluate` proves that the
calculator does it.  What can be said of all items, about values that lie below, about
the capacity, about failures and about the depth of the blocks, is read off the moves
and turns.
-/

namespace StackScript

/-- What an item does to the stack. -/
inductive Move where
  /-- It fails once the main part has come down to the rest. -/
  | fail (fault : Fault) (rest : List Datum)
  /-- It takes the main part down to the rest, pushes the values one after the other,
  and leaves these values set aside. -/
  | put (rest values aside : List Datum)

/-- Pushes values one after the other. -/
def Stack.pushAll : List Datum → Stack.Action Datum Unit
  | [] => pure ()
  | value :: others => do
    Stack.push value
    pushAll others

namespace Move

def perform : Move → Stack.Action Datum Unit
  | .fail fault rest => fun stack => .error fault { stack with main := rest }
  | .put rest values aside => fun stack =>
    match Stack.pushAll values { stack with main := rest } with
    | .ok () pushed => .ok () { pushed with alt := aside }
    | .error fault pushed => .error fault pushed

/-- The move that leaves everything in place. -/
def stay (main alt : List Datum) : Move := .put main [] alt

/-- The move of a computation whose operands have been taken. -/
def give (rest alt : List Datum) : Except Fault Datum → Move
  | .ok result => .put rest [result] alt
  | .error fault => .fail fault rest

end Move

/-! ## Pushing -/

/-- Values are pushed up to the first for which there is no room. -/
theorem Stack.pushAll_cases (values : List Datum) (capacity : Option Int)
    (main alt : List Datum) :
    pushAll values ⟨capacity, main, alt⟩ =
        .ok () ⟨capacity, values.reverse ++ main, alt⟩ ∨
      ∃ limit pushed, capacity = some limit ∧ pushed <+: values ∧
        pushAll values ⟨capacity, main, alt⟩ =
          .error (.fullStack limit) ⟨capacity, pushed.reverse ++ main, alt⟩ := by
  induction values generalizing main with
  | nil => exact .inl rfl
  | cons value others ih =>
      simp only [pushAll, Bind.bind, EStateM.bind]
      rcases hasRoom_or_full ⟨capacity, main, alt⟩ with room | ⟨limit, capped, full⟩
      · rw [push_of_hasRoom room]
        rcases ih (value :: main) with succeeded | ⟨limit, pushed, capped, first, failed⟩
        · left
          rw [List.reverse_cons, List.append_assoc]
          exact succeeded
        · refine .inr ⟨limit, value :: pushed, capped,
            List.cons_prefix_cons.mpr ⟨rfl, first⟩, ?_⟩
          rw [List.reverse_cons, List.append_assoc]
          exact failed
      · rw [push_of_le_length capped full]
        exact .inr ⟨limit, [], capped, List.nil_prefix, rfl⟩

theorem Stack.pushAll_singleton (value : Datum) : pushAll [value] = push value := by
  funext stack
  simp only [pushAll, Bind.bind, EStateM.bind]
  cases push value stack <;> rfl

theorem Move.perform_put_cases (capacity : Option Int)
    (main alt rest values aside : List Datum) :
    perform (.put rest values aside) ⟨capacity, main, alt⟩ =
        .ok () ⟨capacity, values.reverse ++ rest, aside⟩ ∨
      ∃ limit pushed, capacity = some limit ∧ pushed <+: values ∧
        perform (.put rest values aside) ⟨capacity, main, alt⟩ =
          .error (.fullStack limit) ⟨capacity, pushed.reverse ++ rest, alt⟩ := by
  rcases Stack.pushAll_cases values capacity rest alt with
    succeeded | ⟨limit, pushed, capped, first, failed⟩
  · exact .inl (by simp only [perform, succeeded])
  · exact .inr ⟨limit, pushed, capped, first, by simp only [perform, failed]⟩

/-- Where nothing is set aside or taken back, only the pushes are left to do. -/
theorem Move.perform_put (capacity : Option Int) (main rest values alt : List Datum) :
    perform (.put rest values alt) ⟨capacity, main, alt⟩ =
      Stack.pushAll values ⟨capacity, rest, alt⟩ := by
  rcases Stack.pushAll_cases values capacity rest alt with
    succeeded | ⟨limit, pushed, capped, first, failed⟩
  · simp only [perform, succeeded]
  · simp only [perform, failed]

namespace Move

variable {capacity : Option Int} {main alt : List Datum}

theorem perform_put_one_of_room (room : Stack.HasRoom ⟨capacity, main, alt⟩)
    (value : Datum) (aside : List Datum) :
    perform (.put main [value] aside) ⟨capacity, main, alt⟩ =
      .ok () ⟨capacity, value :: main, aside⟩ := by
  simp only [perform, Stack.pushAll_singleton, Stack.push_of_hasRoom room]

theorem perform_put_one_of_full {limit : Int} (full : limit ≤ main.length)
    (value : Datum) (aside : List Datum) :
    perform (.put main [value] aside) ⟨some limit, main, alt⟩ =
      .error (.fullStack limit) ⟨some limit, main, alt⟩ := by
  have refused : Stack.push value ⟨some limit, main, alt⟩ =
      .error (.fullStack limit) ⟨some limit, main, alt⟩ :=
    Stack.push_of_le_length rfl full value
  simp only [perform, Stack.pushAll_singleton, refused]

end Move

/-- What an item does to the conditions, if anything. -/
abbrev Turn := Option Conditions.Operation

def Turn.perform : Turn → Conditions.Action
  | some operation => operation.perform
  | none => pure ()

namespace Conditions.Operation

/-- The operation is refused at this depth. -/
def IsRefusedAt (depth : Nat) : Operation → Prop
  | .push _ => noFalse ≤ depth
  | .pop | .toggleTop => depth = 0

/-- The depth after an operation that is not refused. -/
def depthAfter (depth : Nat) : Operation → Nat
  | .push _ => depth + 1
  | .pop => depth - 1
  | .toggleTop => depth

/-- The depth decides whether an operation is refused, and a refused one changes
nothing. -/
theorem perform_cases (operation : Operation) (conditions : Conditions) :
    (operation.IsRefusedAt conditions.depth ∧
        ∃ fault, operation.perform conditions = .error fault conditions ∧
          fault.label = "ConditionStackError") ∨
      ¬operation.IsRefusedAt conditions.depth ∧
        ∃ next, operation.perform conditions = .ok () next ∧
          next.depth = operation.depthAfter conditions.depth := by
  obtain ⟨depth, firstFalse⟩ := conditions
  cases operation with
  | push condition =>
      by_cases full : noFalse ≤ depth
      · exact .inl ⟨full, _, push_of_le full condition, rfl⟩
      · exact .inr ⟨full, _, push_of_lt (Nat.not_le.mp full) condition, rfl⟩
  | pop =>
      cases depth with
      | zero => exact .inl ⟨rfl, _, pop_zero firstFalse, rfl⟩
      | succ depth => exact .inr ⟨Nat.succ_ne_zero depth, _, pop_succ depth firstFalse, rfl⟩
  | toggleTop =>
      cases depth with
      | zero => exact .inl ⟨rfl, _, toggleTop_zero firstFalse, rfl⟩
      | succ depth =>
          exact .inr ⟨Nat.succ_ne_zero depth, _, toggleTop_succ depth firstFalse, rfl⟩

theorem failsInPlace_perform (operation : Operation) :
    FailsInPlace operation.perform := by
  intro before fault after failed
  rcases operation.perform_cases before with ⟨_, _, refused, _⟩ | ⟨_, _, accepted, _⟩
  · rw [refused] at failed
    cases failed
    rfl
  · rw [accepted] at failed
    cases failed

end Conditions.Operation

/-- A move on the stack, and if it succeeds, a turn of the conditions. -/
def Routine.moveAndTurn (move : Move) (turn : Turn) : Routine Unit := do
  Routine.onStack move.perform
  Routine.onConditions turn.perform

namespace Instruction

/-- What the instruction computes from its operands, the topmost first. -/
inductive Computes : Instruction → List Datum → Except Fault Datum → Prop where
  | add (first second : Datum) : Computes .add [first, second] (first.add second)
  | equal (first second : Datum) :
      Computes .equal [first, second] (Calculator.equality first second)
  | mul (first second : Datum) : Computes .mul [first, second] (first.mul second)
  | sub (first second : Datum) : Computes .sub [first, second] (first.sub second)
  | not (operand : Datum) : Computes .not [operand] operand.neg

/-- How many values the instruction pops, one after the other. -/
def operands : Instruction → Nat
  | .add | .equal | .mul | .sub => 2
  | .not | .dup | .drop | .ifTrue => 1
  | _ => 0

/-- The move and the turn of an instruction.  The truth value tells whether all
conditions are true. -/
inductive Acts : Instruction → Bool → (main alt : List Datum) → Move → Turn → Prop where
  | skip {known : Instruction} {main alt : List Datum}
      (plain : Calculator.isControl known = false) :
      Acts known false main alt (.stay main alt) none
  | compute {known : Instruction} {taken : List Datum}
      {outcome : Except Fault Datum} (computes : known.Computes taken outcome)
      (rest alt : List Datum) :
      Acts known true (taken ++ rest) alt (.give rest alt outcome) none
  | lack {known : Instruction} {main alt : List Datum}
      (few : main.length < known.operands) :
      Acts known true main alt (.fail .emptyStack []) none
  | dup (datum : Datum) (rest alt : List Datum) :
      Acts .dup true (datum :: rest) alt (.put rest [datum, datum] alt) none
  | drop (datum : Datum) (rest alt : List Datum) :
      Acts .drop true (datum :: rest) alt (.put rest [] alt) none
  | toAlt (datum : Datum) (rest alt : List Datum) :
      Acts .toAlt true (datum :: rest) alt (.put rest [] (datum :: alt)) none
  | toAltOfNone (alt : List Datum) :
      Acts .toAlt true [] alt (.fail .emptyStackForAlt []) none
  | fromAlt (datum : Datum) (main aside : List Datum) :
      Acts .fromAlt true main (datum :: aside) (.put main [datum] aside) none
  | fromAltOfNone (main : List Datum) :
      Acts .fromAlt true main [] (.fail .emptyAlt main) none
  | openTaken (condition : Datum) (rest alt : List Datum) :
      Acts .ifTrue true (condition :: rest) alt (.put rest [] alt)
        (some (.push condition.isTruthy))
  | openHidden (main alt : List Datum) :
      Acts .ifTrue false main alt (.stay main alt) (some (.push false))
  | switch (active : Bool) (main alt : List Datum) :
      Acts .orElse active main alt (.stay main alt) (some .toggleTop)
  | close (active : Bool) (main alt : List Datum) :
      Acts .endIf active main alt (.stay main alt) (some .pop)

/-- An instruction with two operands computes with them, or it lacks them. -/
theorem exists_acts_of_binary {known : Instruction}
    (computes : ∀ first second, ∃ outcome, known.Computes [first, second] outcome)
    (two : known.operands = 2) (main alt : List Datum) :
    ∃ move turn, known.Acts true main alt move turn := by
  rcases main with _ | ⟨first, _ | ⟨second, rest⟩⟩
  · exact ⟨_, _, .lack (by simp [two])⟩
  · exact ⟨_, _, .lack (by simp [two])⟩
  · obtain ⟨outcome, computed⟩ := computes first second
    exact ⟨_, _, .compute computed rest alt⟩

theorem exists_acts (known : Instruction) (active : Bool) (main alt : List Datum) :
    ∃ move turn, known.Acts active main alt move turn := by
  cases active with
  | false =>
      cases known with
      | ifTrue => exact ⟨_, _, .openHidden main alt⟩
      | orElse => exact ⟨_, _, .switch false main alt⟩
      | endIf => exact ⟨_, _, .close false main alt⟩
      | _ => exact ⟨_, _, .skip rfl⟩
  | true =>
      cases known with
      | add => exact exists_acts_of_binary (fun _ _ => ⟨_, .add _ _⟩) rfl main alt
      | equal => exact exists_acts_of_binary (fun _ _ => ⟨_, .equal _ _⟩) rfl main alt
      | mul => exact exists_acts_of_binary (fun _ _ => ⟨_, .mul _ _⟩) rfl main alt
      | sub => exact exists_acts_of_binary (fun _ _ => ⟨_, .sub _ _⟩) rfl main alt
      | orElse => exact ⟨_, _, .switch true main alt⟩
      | endIf => exact ⟨_, _, .close true main alt⟩
      | fromAlt =>
          cases alt with
          | nil => exact ⟨_, _, .fromAltOfNone main⟩
          | cons datum aside => exact ⟨_, _, .fromAlt datum main aside⟩
      | not =>
          cases main with
          | nil => exact ⟨_, _, .lack Nat.zero_lt_one⟩
          | cons operand rest => exact ⟨_, _, .compute (.not operand) rest alt⟩
      | ifTrue =>
          cases main with
          | nil => exact ⟨_, _, .lack Nat.zero_lt_one⟩
          | cons condition rest => exact ⟨_, _, .openTaken condition rest alt⟩
      | toAlt =>
          cases main with
          | nil => exact ⟨_, _, .toAltOfNone alt⟩
          | cons datum rest => exact ⟨_, _, .toAlt datum rest alt⟩
      | dup =>
          cases main with
          | nil => exact ⟨_, _, .lack Nat.zero_lt_one⟩
          | cons datum rest => exact ⟨_, _, .dup datum rest alt⟩
      | drop =>
          cases main with
          | nil => exact ⟨_, _, .lack Nat.zero_lt_one⟩
          | cons datum rest => exact ⟨_, _, .drop datum rest alt⟩

end Instruction

namespace Item

/-- The move and the turn of an item.  An item that does not stand for an instruction
has no turn. -/
inductive Acts : Item → Bool → (main alt : List Datum) → Move → Turn → Prop where
  | datum (held : Datum) (main alt : List Datum) :
      Acts (.datum held) true main alt (.put main [held] alt) none
  | skippedDatum (held : Datum) (main alt : List Datum) :
      Acts (.datum held) false main alt (.stay main alt) none
  | unsupported {held : Operator} (unknown : held.instruction? = none)
      (main alt : List Datum) :
      Acts (.operator held) true main alt (.fail (.unsupported held) main) none
  | skippedOperator {held : Operator} (unknown : held.instruction? = none)
      (main alt : List Datum) :
      Acts (.operator held) false main alt (.stay main alt) none
  | instruction {held : Operator} {known : Instruction} {active : Bool}
      {main alt : List Datum} {move : Move} {turn : Turn}
      (standsFor : held.instruction? = some known)
      (acts : known.Acts active main alt move turn) :
      Acts (.operator held) active main alt move turn

theorem exists_acts (item : Item) (active : Bool) (main alt : List Datum) :
    ∃ move turn, item.Acts active main alt move turn := by
  cases item with
  | datum held =>
      cases active with
      | true => exact ⟨_, _, .datum held main alt⟩
      | false => exact ⟨_, _, .skippedDatum held main alt⟩
  | operator held =>
      cases standsFor : held.instruction? with
      | some known =>
          obtain ⟨move, turn, acts⟩ := known.exists_acts active main alt
          exact ⟨move, turn, .instruction standsFor acts⟩
      | none =>
          cases active with
          | true => exact ⟨_, _, .unsupported standsFor main alt⟩
          | false => exact ⟨_, _, .skippedOperator standsFor main alt⟩

end Item

/-! ## The calculator does it -/

namespace Routine

variable {workspace : Workspace}

theorem onStack_eq_endingIn {α : Type} (action : Stack.Action Datum α)
    (stack : Stack Datum) (conditions : Conditions) :
    onStack action ⟨stack, conditions⟩ = endingIn (⟨·, conditions⟩) (action stack) := by
  simp only [onStack]
  cases action stack <;> rfl

theorem moveAndTurn_none (move : Move) : moveAndTurn move none = onStack move.perform := by
  funext workspace
  simp only [moveAndTurn, Bind.bind, EStateM.bind]
  cases onStack move.perform workspace <;> rfl

theorem failsInPlace_onConditions (operation : Conditions.Operation) :
    FailsInPlace (onConditions operation.perform) := by
  intro before fault after failed
  simp only [onConditions] at failed
  split at failed
  · cases failed
  · next refused =>
      rw [operation.failsInPlace_perform _ _ _ refused] at failed
      cases failed
      rfl

theorem ifActive_of_allTrue {α : Type} (active inactive : Routine α)
    (allTrue : workspace.conditions.allTrue = true) :
    ifActive active inactive workspace = active workspace :=
  if_pos allTrue

theorem ifActive_of_not_allTrue {α : Type} (active inactive : Routine α)
    (hasFalse : workspace.conditions.allTrue = false) :
    ifActive active inactive workspace = inactive workspace := by
  rw [ifActive, hasFalse]
  rfl

end Routine

namespace Calculator

open Routine Machine

variable {known : Instruction}

theorem evaluate_of_isControl (control : isControl known = true) :
    evaluate system (.instruction known) = compute known :=
  if_pos control

theorem evaluate_of_not_isControl (plain : isControl known = false) :
    evaluate system (.instruction known) = ifActive (compute known) (pure ()) :=
  if_neg (by rw [plain]; exact Bool.false_ne_true)

theorem evaluate_of_allTrue (known : Instruction) {workspace : Workspace}
    (allTrue : workspace.conditions.allTrue = true) :
    evaluate system (.instruction known) workspace = compute known workspace := by
  cases control : isControl known with
  | true => rw [evaluate_of_isControl control]
  | false => rw [evaluate_of_not_isControl control, ifActive_of_allTrue _ _ allTrue]

theorem duplicate_eq_pushAll (datum : Datum) (capacity : Option Int)
    (rest alt : List Datum) :
    duplicate ⟨capacity, datum :: rest, alt⟩ =
      Stack.pushAll [datum, datum] ⟨capacity, rest, alt⟩ := by
  rw [Stack.pushAll, Stack.pushAll_singleton]
  rfl

theorem pushFromAlt_eq_perform (datum : Datum) (capacity : Option Int)
    (main aside : List Datum) :
    Stack.pushFromAlt ⟨capacity, main, datum :: aside⟩ =
      (Move.put main [datum] aside).perform ⟨capacity, main, datum :: aside⟩ := by
  rcases Stack.hasRoom_or_full ⟨capacity, main, datum :: aside⟩ with
    room | ⟨limit, capped, full⟩
  · rw [Stack.pushFromAlt_of_hasRoom room, Move.perform_put_one_of_room room]
  · cases capped
    rw [Stack.pushFromAlt_of_le_length full, Move.perform_put_one_of_full full]

theorem yield_push_eq_give (outcome : Except Fault Datum) (capacity : Option Int)
    (main rest alt : List Datum) :
    (Stack.yield outcome >>= Stack.push) ⟨capacity, rest, alt⟩ =
      (Move.give rest alt outcome).perform ⟨capacity, main, alt⟩ := by
  cases outcome with
  | error fault => rfl
  | ok result =>
      rw [Move.give, Move.perform_put, Stack.pushAll_singleton]
      rfl

end Calculator

namespace Instruction

open Calculator Routine Machine

variable {known : Instruction} {active : Bool} {capacity : Option Int}
  {main alt : List Datum} {conditions : Conditions} {move : Move} {turn : Turn}

theorem Computes.compute_eq {taken : List Datum} {outcome : Except Fault Datum}
    (computes : known.Computes taken outcome) (capacity : Option Int)
    (rest alt : List Datum) (conditions : Conditions) :
    compute known ⟨⟨capacity, taken ++ rest, alt⟩, conditions⟩ =
      onStack (Move.give rest alt outcome).perform
        ⟨⟨capacity, taken ++ rest, alt⟩, conditions⟩ := by
  have given := yield_push_eq_give outcome capacity (taken ++ rest) rest alt
  rw [onStack_eq_endingIn, ← given]
  cases computes <;> exact onStack_eq_endingIn _ _ _

theorem compute_of_few (few : main.length < known.operands)
    (active : conditions.allTrue = true) :
    compute known ⟨⟨capacity, main, alt⟩, conditions⟩ =
      .error .emptyStack ⟨⟨capacity, [], alt⟩, conditions⟩ := by
  rcases main with _ | ⟨first, _ | ⟨second, rest⟩⟩
  · cases known with
    | ifTrue => exact ifActive_of_allTrue _ _ active
    | orElse | endIf | toAlt | fromAlt => cases few
    | _ => rfl
  · cases known with
    | add | equal | mul | sub => rfl
    | _ => simp [operands] at few
  · cases known <;> simp only [operands, List.length_cons] at few <;> omega

theorem Acts.evaluate (acts : known.Acts active main alt move turn)
    (activeEq : conditions.allTrue = active) (capacity : Option Int) :
    evaluate system (.instruction known) ⟨⟨capacity, main, alt⟩, conditions⟩ =
      moveAndTurn move turn ⟨⟨capacity, main, alt⟩, conditions⟩ := by
  cases acts with
  | skip plain =>
      rw [evaluate_of_not_isControl plain, ifActive_of_not_allTrue _ _ activeEq]
      rfl
  | compute computes rest alt =>
      rw [evaluate_of_allTrue _ activeEq, moveAndTurn_none, computes.compute_eq]
  | lack few =>
      rw [evaluate_of_allTrue _ activeEq, compute_of_few few activeEq]
      rfl
  | dup datum rest alt =>
      rw [evaluate_of_allTrue _ activeEq, moveAndTurn_none, onStack_eq_endingIn,
        Move.perform_put, ← duplicate_eq_pushAll]
      exact onStack_eq_endingIn _ _ _
  | drop datum rest alt | toAlt datum rest alt | toAltOfNone alt
  | fromAltOfNone main =>
      rw [evaluate_of_allTrue _ activeEq]
      rfl
  | fromAlt datum main aside =>
      rw [evaluate_of_allTrue _ activeEq, moveAndTurn_none, onStack_eq_endingIn,
        ← pushFromAlt_eq_perform]
      exact onStack_eq_endingIn _ _ _
  | openTaken condition rest alt =>
      rw [evaluate_of_allTrue _ activeEq]
      exact ifActive_of_allTrue _ _ activeEq
  | openHidden main alt =>
      rw [evaluate_of_isControl rfl]
      exact ifActive_of_not_allTrue _ _ activeEq
  | switch active main alt | close active main alt =>
      rw [evaluate_of_isControl rfl]
      rfl

end Instruction

namespace Item

open Calculator Routine Machine

/-- What an item does to a workspace is its move and its turn. -/
theorem Acts.evaluate {item : Item} {main alt : List Datum} {move : Move} {turn : Turn}
    {conditions : Conditions} (acts : item.Acts conditions.allTrue main alt move turn)
    (capacity : Option Int) :
    evaluate system item ⟨⟨capacity, main, alt⟩, conditions⟩ =
      moveAndTurn move turn ⟨⟨capacity, main, alt⟩, conditions⟩ := by
  generalize activeEq : conditions.allTrue = active at acts
  cases acts with
  | datum held main alt =>
      rw [moveAndTurn_none, onStack_eq_endingIn, Move.perform_put, Stack.pushAll_singleton]
      exact (ifActive_of_allTrue _ _ activeEq).trans (onStack_eq_endingIn _ _ _)
  | skippedDatum held main alt => exact ifActive_of_not_allTrue _ _ activeEq
  | unsupported unknown main alt =>
      simp only [Machine.evaluate, system, unknown]
      exact ifActive_of_allTrue _ _ activeEq
  | skippedOperator unknown main alt =>
      simp only [Machine.evaluate, system, unknown]
      exact ifActive_of_not_allTrue _ _ activeEq
  | instruction standsFor acts =>
      rw [← acts.evaluate activeEq capacity]
      simp only [Machine.evaluate, system, standsFor]
      rfl

end Item

/-! ## Capacities -/

theorem Move.capacity_perform (move : Move) (stack : Stack Datum) :
    (leftBy (move.perform stack)).capacity = stack.capacity := by
  obtain ⟨capacity, main, alt⟩ := stack
  cases move with
  | fail fault rest => rfl
  | put rest values aside =>
      rcases perform_put_cases capacity main alt rest values aside with
        succeeded | ⟨limit, pushed, capped, first, failed⟩
      · rw [succeeded]
        rfl
      · rw [failed]
        rfl

/-- A turn of the conditions leaves the stack alone. -/
theorem Routine.stack_moveAndTurn (move : Move) (turn : Turn) (workspace : Workspace) :
    (leftBy (moveAndTurn move turn workspace)).stack =
      leftBy (move.perform workspace.stack) := by
  simp only [moveAndTurn, Bind.bind, EStateM.bind, onStack]
  cases move.perform workspace.stack with
  | error fault stack => rfl
  | ok result stack =>
      simp only [onConditions]
      cases turn.perform workspace.conditions <;> rfl

theorem Routine.endsIn_moveAndTurn {Holds : Stack Datum → Prop} {Allowed : Fault → Prop}
    {move : Move} {stack : Stack Datum}
    (performed : EndsIn Holds Allowed (move.perform stack))
    (allowed : ∀ {fault}, fault.label = "ConditionStackError" → Allowed fault)
    (turn : Turn) (conditions : Conditions) :
    EndsIn (Holds ·.stack) Allowed (moveAndTurn move turn ⟨stack, conditions⟩) := by
  simp only [moveAndTurn, Bind.bind, EStateM.bind, onStack_eq_endingIn]
  cases outcome : move.perform stack with
  | error fault reached =>
      rw [outcome] at performed
      exact performed
  | ok result reached =>
      rw [outcome] at performed
      simp only [endingIn, onConditions]
      cases turn with
      | none => exact performed
      | some operation =>
          rcases operation.perform_cases conditions with
            ⟨_, fault, refused, labelEq⟩ | ⟨_, next, accepted, _⟩
          · simp only [Turn.perform, refused]
            exact ⟨performed, allowed labelEq⟩
          · simp only [Turn.perform, accepted]
            exact performed

theorem Calculator.capacity_evaluate (item : Item) (workspace : Workspace) :
    (leftBy (Machine.evaluate system item workspace)).stack.capacity =
      workspace.stack.capacity := by
  obtain ⟨⟨capacity, main, alt⟩, conditions⟩ := workspace
  obtain ⟨move, turn, acts⟩ := item.exists_acts conditions.allTrue main alt
  rw [acts.evaluate, Routine.stack_moveAndTurn, Move.capacity_perform]

/-! ## Stacks within their capacity -/

namespace Stack

variable {capacity : Option Int} {main rest alt : List Datum}

/-- The stack holds no more than it may; below zero it may hold nothing. -/
def IsWithinCapacity {α : Type} (stack : Stack α) : Prop :=
  ∀ limit, stack.capacity = some limit → stack.main = [] ∨ stack.length ≤ limit

theorem IsWithinCapacity.of_length_le (within : IsWithinCapacity ⟨capacity, main, alt⟩)
    (fewer : rest.length ≤ main.length) (aside : List Datum) :
    IsWithinCapacity ⟨capacity, rest, aside⟩ := by
  intro limit capped
  rcases within limit capped with empty | bounded
  · rw [show main = [] from empty] at fewer
    exact .inl (List.eq_nil_of_length_eq_zero (Nat.le_zero.mp fewer))
  · simp only [length] at bounded ⊢
    exact .inr (by omega)

theorem pushAll_append (first second : List Datum) (stack : Stack Datum) :
    pushAll (first ++ second) stack =
      (pushAll first >>= fun _ => pushAll second) stack := by
  induction first generalizing stack with
  | nil => rfl
  | cons value others ih =>
      simp only [List.cons_append, pushAll, Bind.bind, EStateM.bind] at ih ⊢
      cases push value stack with
      | ok result pushed => exact ih pushed
      | error fault pushed => rfl

/-- Where there is room for the last value, all are pushed. -/
theorem pushAll_of_room {values : List Datum}
    (room : ∀ limit, capacity = some limit → values ≠ [] →
      ((rest.length + values.length : Nat) : Int) ≤ limit) :
    pushAll values ⟨capacity, rest, alt⟩ =
      .ok () ⟨capacity, values.reverse ++ rest, alt⟩ := by
  induction values generalizing rest with
  | nil => rfl
  | cons value others ih =>
      have hasRoom : HasRoom ⟨capacity, rest, alt⟩ := by
        intro limit capped
        have enough := room limit capped (List.cons_ne_nil value others)
        simp only [length, List.length_cons] at enough ⊢
        omega
      have roomForOthers : ∀ limit, capacity = some limit → others ≠ [] →
          (((value :: rest).length + others.length : Nat) : Int) ≤ limit := by
        intro limit capped _
        have enough := room limit capped (List.cons_ne_nil value others)
        simp only [List.length_cons] at enough ⊢
        omega
      simp only [pushAll, Bind.bind, EStateM.bind, push_of_hasRoom hasRoom]
      rw [ih roomForOthers, List.reverse_cons, List.append_assoc, List.singleton_append]

/-- As many values as were taken away can be pushed again. -/
theorem IsWithinCapacity.pushAll (within : IsWithinCapacity ⟨capacity, main, alt⟩)
    {values : List Datum} (fewer : rest.length + values.length ≤ main.length) :
    pushAll values ⟨capacity, rest, alt⟩ =
      .ok () ⟨capacity, values.reverse ++ rest, alt⟩ := by
  apply pushAll_of_room
  intro limit capped notNone
  have some : 0 < values.length := List.length_pos_iff.mpr notNone
  rcases within limit capped with empty | bounded
  · rw [show main = [] from empty, List.length_nil] at fewer
    omega
  · simp only [length] at bounded
    omega

end Stack

namespace Move

variable {capacity : Option Int} {main alt rest values : List Datum}

theorem perform_put_uncapped (main alt rest values aside : List Datum) :
    perform (.put rest values aside) ⟨none, main, alt⟩ =
      .ok () ⟨none, values.reverse ++ rest, aside⟩ := by
  have pushed : Stack.pushAll values ⟨none, rest, alt⟩ =
      .ok () ⟨none, values.reverse ++ rest, alt⟩ :=
    Stack.pushAll_of_room nofun
  simp only [perform, pushed]

theorem perform_put_of_le (within : Stack.IsWithinCapacity ⟨capacity, main, alt⟩)
    (fewer : rest.length + values.length ≤ main.length) (aside : List Datum) :
    perform (.put rest values aside) ⟨capacity, main, alt⟩ =
      .ok () ⟨capacity, values.reverse ++ rest, aside⟩ := by
  have pushed : Stack.pushAll values ⟨capacity, rest, alt⟩ =
      .ok () ⟨capacity, values.reverse ++ rest, alt⟩ :=
    within.pushAll fewer
  simp only [perform, pushed]

/-- One value more than were taken away is pushed on top of all others, after these have
been put back. -/
theorem perform_put_more (within : Stack.IsWithinCapacity ⟨capacity, main, alt⟩)
    {taken : List Datum} (mainEq : main = taken ++ rest) (value : Datum)
    (aside : List Datum) :
    perform (.put rest (taken.reverse ++ [value]) aside) ⟨capacity, main, alt⟩ =
      perform (.put main [value] aside) ⟨capacity, main, alt⟩ := by
  have fewer : rest.length + taken.reverse.length ≤ main.length := by
    rw [mainEq, List.length_append, List.length_reverse]
    omega
  have putBack : Stack.pushAll taken.reverse ⟨capacity, rest, alt⟩ =
      .ok () ⟨capacity, main, alt⟩ := by
    rw [within.pushAll fewer, List.reverse_reverse, mainEq]
  have pushed : Stack.pushAll (taken.reverse ++ [value]) ⟨capacity, rest, alt⟩ =
      Stack.pushAll [value] ⟨capacity, main, alt⟩ := by
    rw [Stack.pushAll_append]
    simp only [Bind.bind, EStateM.bind, putBack]
  simp only [perform, pushed]

end Move

/-- What the moves and turns of all items have in common.  At most two values are taken
away.  If one more value is left than there was, it comes on top of the others, and only
then can there be no room. -/
inductive Modest (main alt : List Datum) : Move → Turn → Prop where
  | lose {fault : Fault} (taken : List Datum) {rest : List Datum}
      (few : taken.length ≤ 2) (mainEq : main = taken ++ rest)
      (reason : fault.concernsOperands = true) :
      Modest main alt (.fail fault rest) none
  | refuse (operator : Operator) : Modest main alt (.fail (.unsupported operator) main) none
  | shrink {rest values : List Datum} (aside : List Datum)
      (fewer : rest.length + values.length ≤ main.length) :
      Modest main alt (.put rest values aside) none
  | grow (taken : List Datum) {rest : List Datum} (mainEq : main = taken ++ rest)
      (value : Datum) (aside : List Datum) :
      Modest main alt (.put rest (taken.reverse ++ [value]) aside) none
  | turn (taken : List Datum) {rest : List Datum} (few : taken.length ≤ 2)
      (mainEq : main = taken ++ rest) (operation : Conditions.Operation) :
      Modest main alt (.put rest [] alt) (some operation)

namespace Instruction

variable {known : Instruction} {active : Bool} {main alt : List Datum} {move : Move}
  {turn : Turn}

theorem operands_le (known : Instruction) : known.operands ≤ 2 := by
  cases known <;> decide

theorem Computes.length_taken {taken : List Datum} {outcome : Except Fault Datum}
    (computes : known.Computes taken outcome) :
    0 < taken.length ∧ taken.length ≤ 2 := by
  cases computes <;> simp

theorem Computes.computed {taken : List Datum} {outcome : Except Fault Datum}
    (computes : known.Computes taken outcome) : Fault.Computed outcome := by
  cases computes with
  | add first second => exact Datum.computed_add first second
  | equal first second => exact Fault.computed_ok _
  | mul first second => exact Datum.computed_mul first second
  | sub first second => exact Datum.computed_sub first second
  | not operand => exact Datum.computed_neg operand

theorem Acts.modest (acts : known.Acts active main alt move turn) :
    Modest main alt move turn := by
  cases acts with
  | skip plain => exact .shrink alt (Nat.le_refl _)
  | @compute _ taken outcome computes rest alt =>
      obtain ⟨some, few⟩ := computes.length_taken
      cases outcome with
      | ok result =>
          refine .shrink alt ?_
          rw [List.length_append, List.length_singleton]
          omega
      | error fault => exact .lose taken few rfl (computes.computed fault rfl)
  | lack few =>
      have atMost := known.operands_le
      exact .lose main (by omega) (List.append_nil main).symm rfl
  | dup datum rest alt => exact .grow [datum] rfl datum alt
  | drop datum rest alt => exact .shrink alt (Nat.le_succ _)
  | toAlt datum rest alt => exact .shrink (datum :: alt) (Nat.le_succ _)
  | toAltOfNone alt => exact .lose [] (Nat.zero_le _) rfl rfl
  | fromAlt datum main aside => exact .grow [] rfl datum aside
  | fromAltOfNone main => exact .lose [] (Nat.zero_le _) rfl rfl
  | openTaken condition rest alt => exact .turn [condition] (Nat.le_succ _) rfl _
  | openHidden main alt | switch active main alt | close active main alt =>
      exact .turn [] (Nat.zero_le _) rfl _

end Instruction

theorem Item.Acts.modest {item : Item} {active : Bool} {main alt : List Datum}
    {move : Move} {turn : Turn} (acts : item.Acts active main alt move turn) :
    Modest main alt move turn := by
  cases acts with
  | datum held main alt => exact .grow [] rfl held alt
  | skippedDatum held main alt | skippedOperator unknown main alt =>
      exact .shrink alt (Nat.le_refl _)
  | unsupported unknown main alt => exact .refuse _
  | instruction standsFor acts => exact acts.modest

theorem Modest.isWithinCapacity_perform {capacity : Option Int} {main alt : List Datum}
    {move : Move} {turn : Turn} (modest : Modest main alt move turn)
    (within : Stack.IsWithinCapacity ⟨capacity, main, alt⟩) :
    (leftBy (move.perform ⟨capacity, main, alt⟩)).IsWithinCapacity := by
  cases modest with
  | lose taken few mainEq reason =>
      exact within.of_length_le (by simp [mainEq]) alt
  | refuse operator => exact within
  | shrink aside fewer =>
      rw [Move.perform_put_of_le within fewer]
      refine within.of_length_le ?_ aside
      rw [List.length_append, List.length_reverse, Nat.add_comm]
      exact fewer
  | grow taken mainEq value aside =>
      rw [Move.perform_put_more within mainEq]
      rcases Stack.hasRoom_or_full ⟨capacity, main, alt⟩ with room | ⟨limit, capped, full⟩
      · rw [Move.perform_put_one_of_room room]
        intro limit capped
        exact .inr (room limit capped)
      · cases capped
        rw [Move.perform_put_one_of_full full]
        exact within
  | turn taken few mainEq operation =>
      rw [Move.perform_put_of_le within (by simp [mainEq])]
      exact within.of_length_le (by simp [mainEq]) alt

theorem Calculator.isWithinCapacity_evaluate (item : Item) {workspace : Workspace}
    (within : workspace.stack.IsWithinCapacity) :
    (leftBy (Machine.evaluate system item workspace)).stack.IsWithinCapacity := by
  obtain ⟨⟨capacity, main, alt⟩, conditions⟩ := workspace
  obtain ⟨move, turn, acts⟩ := item.exists_acts conditions.allTrue main alt
  rw [acts.evaluate, Routine.stack_moveAndTurn]
  exact acts.modest.isWithinCapacity_perform within

end StackScript
