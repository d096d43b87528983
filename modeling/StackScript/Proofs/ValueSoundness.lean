import StackScript.Proofs.Execution
import StackScript.Proofs.FloatRange

/-!
# Soundness of calculations

A calculation is an instruction or brings a script value.  Calculations keep to
script values: whatever is asked of a machine, in whatever state an earlier failure
has left it, its stack holds nothing else, and it fails only with a defined fault.

A fault can be undefined only for the sake of a limit.  A capacity or a step limit of too
many digits cannot be shown, and so the fault that it causes is not reported as what it
is.
-/

namespace StackScript

/-! ## Integers next to floating-point numbers -/

theorem Int128.natAbs_val_le (number : Int128) : number.val.natAbs ≤ 2 ^ 127 := by
  have lower := number.lower
  have upper := number.upper
  omega

section Bounds

variable (first second : Int128)

theorem Int128.natAbs_neg_lt : (-first.val).natAbs < 2 ^ 256 := by
  have bounded := first.natAbs_val_le
  omega

theorem Int128.natAbs_add_lt : (first.val + second.val).natAbs < 2 ^ 256 := by
  have firstBounded := first.natAbs_val_le
  have secondBounded := second.natAbs_val_le
  omega

theorem Int128.natAbs_mul_lt : (first.val * second.val).natAbs < 2 ^ 256 := by
  have bounded := Nat.mul_le_mul first.natAbs_val_le second.natAbs_val_le
  rw [Int.natAbs_mul]
  omega

end Bounds

/-- An integer that meets a floating-point number can become one. -/
theorem Int128.floatOfInt_val (number : Int128) :
    Value.floatOfInt number.val = .ok (.float number.toBinary64) := by
  have finite := Binary64.nearestMagnitude_lt number.natAbs_val_le
  simp only [Value.floatOfInt, Binary64.ofInt?, finite, if_true]
  rfl

/-! ## Values -/

namespace Value

/-- An integer is held as it is or refused. -/
theorem ofInt_cases (integer : Int) :
    (∃ number : Int128, number.val = integer ∧
        ofInt integer = .ok (.integer number)) ∨
      ¬Int128.InRange integer ∧
        ofInt integer = .error (.integerRange integer) := by
  unfold ofInt
  cases found : Int128.ofInt? integer with
  | some number =>
      exact .inl ⟨number, Int128.ofInt?_eq_some_iff.mp found, rfl⟩
  | none => exact .inr ⟨Int128.ofInt?_eq_none_iff.mp found, rfl⟩

/-- No sum, product or negation of integers is too long to be shown. -/
theorem label_integerRange {integer : Int} (bounded : integer.natAbs < 2 ^ 256) :
    (Fault.integerRange integer).label = "IntegerOverflowError" :=
  Fault.label_of_shown (Text.isLongInteger_eq_false (by decide) bounded)

theorem isDefined_of_ofInt_error {integer : Int} {fault : Fault}
    (bounded : integer.natAbs < 2 ^ 256) (failed : ofInt integer = .error fault) :
    fault.isDefined = true := by
  rcases ofInt_cases integer with ⟨_, _, held⟩ | ⟨_, refused⟩
  · rw [held] at failed
    cases failed
  · rw [refused] at failed
    cases failed
    rw [Fault.isDefined, label_integerRange bounded]
    rfl

variable {first second : Value} {fault : Fault}

theorem isDefined_of_neg_error (failed : first.neg = .error fault) :
    fault.isDefined = true := by
  cases first with
  | boolean truth => cases failed
  | float number => cases failed
  | integer number => exact isDefined_of_ofInt_error number.natAbs_neg_lt failed
  | string text =>
      cases failed
      rfl

theorem isDefined_of_add_error (failed : first.add second = .error fault) :
    fault.isDefined = true := by
  unfold add at failed
  split at failed
  case h_2 left right =>
      exact isDefined_of_ofInt_error (left.natAbs_add_lt right) failed
  all_goals cases failed
  rfl

theorem isDefined_of_mul_error (failed : first.mul second = .error fault) :
    fault.isDefined = true := by
  unfold mul at failed
  split at failed
  case h_2 left right =>
      exact isDefined_of_ofInt_error (left.natAbs_mul_lt right) failed
  all_goals cases failed
  rfl

theorem isDefined_of_sub_error (failed : first.sub second = .error fault) :
    fault.isDefined = true := by
  unfold sub at failed
  split at failed
  · exact isDefined_of_add_error failed
  · next negationFailed =>
      cases failed
      exact isDefined_of_neg_error negationFailed

end Value

namespace Datum

/-- The datum is a script value. -/
def IsValue (datum : Datum) : Prop := ∃ value, datum = .value value

variable {first second : Datum}

/-- Values compute to a value or fail in a defined way. -/
def Sound : Except Fault Datum → Prop
  | .ok result => result.IsValue
  | .error fault => fault.isDefined = true

theorem sound_map {outcome : Except Fault Value}
    (defined : ∀ fault, outcome = .error fault → fault.isDefined = true) :
    Sound (outcome.map .value) := by
  cases outcome with
  | ok value => exact ⟨value, rfl⟩
  | error fault => exact defined fault rfl

theorem sound_binary {onValues : Value → Value → Except Fault Value}
    {onForeign : Foreign → Foreign → Except Fault Foreign}
    (defined : ∀ {first second fault}, onValues first second = .error fault →
      fault.isDefined = true)
    (firstIsValue : first.IsValue) (secondIsValue : second.IsValue) :
    Sound (binary onValues onForeign first second) := by
  obtain ⟨firstValue, rfl⟩ := firstIsValue
  obtain ⟨secondValue, rfl⟩ := secondIsValue
  exact sound_map fun _ => defined

theorem sound_neg (isValue : first.IsValue) : Sound first.neg := by
  obtain ⟨value, rfl⟩ := isValue
  exact sound_map fun _ => Value.isDefined_of_neg_error

end Datum

theorem Instruction.Computes.sound {known : Instruction} {taken : List Datum}
    {outcome : Except Fault Datum} (computes : known.Computes taken outcome)
    (areValues : ∀ datum ∈ taken, datum.IsValue) : Datum.Sound outcome := by
  cases computes with
  | add first second =>
      obtain ⟨firstIsValue, secondIsValue, _⟩ := by
        simpa only [List.forall_mem_cons] using areValues
      exact Datum.sound_binary Value.isDefined_of_add_error firstIsValue secondIsValue
  | mul first second =>
      obtain ⟨firstIsValue, secondIsValue, _⟩ := by
        simpa only [List.forall_mem_cons] using areValues
      exact Datum.sound_binary Value.isDefined_of_mul_error firstIsValue secondIsValue
  | sub first second =>
      obtain ⟨firstIsValue, secondIsValue, _⟩ := by
        simpa only [List.forall_mem_cons] using areValues
      exact Datum.sound_binary Value.isDefined_of_sub_error firstIsValue secondIsValue
  | equal first second => exact ⟨.boolean (first.same second), rfl⟩
  | not operand => exact Datum.sound_neg (areValues operand (List.mem_singleton_self _))

/-! ## Items -/

/-- The item is an instruction or brings a script value. -/
inductive Item.IsCalculation : Item → Prop where
  | instruction (known : Instruction) :
      IsCalculation (.operator (.instruction known))
  | value (held : Value) : IsCalculation (.datum (.value held))

instance : DecidablePred Item.IsCalculation
  | .operator (.instruction known) => .isTrue (.instruction known)
  | .datum (.value held) => .isTrue (.value held)
  | .operator (.command _) | .operator (.foreign _) | .operator (.record _ _)
  | .datum (.creature _) | .datum (.foreign _) => .isFalse nofun

/-- Both parts of the stack hold script values only. -/
def Stack.HoldsValues (stack : Stack Datum) : Prop :=
  ∀ datum ∈ stack.main ++ stack.alt, datum.IsValue

theorem Stack.holdsValues_iff {capacity : Option Int} {main alt : List Datum} :
    HoldsValues ⟨capacity, main, alt⟩ ↔
      (∀ datum ∈ main, datum.IsValue) ∧ ∀ datum ∈ alt, datum.IsValue := by
  simp only [HoldsValues, List.forall_mem_append]

/-- The stack has the given capacity and holds script values only. -/
def Stack.IsSound (capacity : Option Int) (stack : Stack Datum) : Prop :=
  stack.capacity = capacity ∧ stack.HoldsValues

/-- The move keeps to script values and fails only with a defined fault. -/
def Move.IsSound : Move → Prop
  | .fail fault rest => fault.isDefined = true ∧ ∀ datum ∈ rest, datum.IsValue
  | .put rest values aside =>
    (∀ datum ∈ rest, datum.IsValue) ∧ (∀ datum ∈ values, datum.IsValue) ∧
      ∀ datum ∈ aside, datum.IsValue

section Items

variable {active : Bool} {main alt : List Datum} {move : Move} {turn : Turn}

theorem Instruction.Acts.isSound {known : Instruction}
    (acts : known.Acts active main alt move turn)
    (mainHolds : ∀ datum ∈ main, datum.IsValue)
    (altHolds : ∀ datum ∈ alt, datum.IsValue) : move.IsSound := by
  cases acts with
  | skip plain | openHidden main alt | switch active main alt | close active main alt =>
      exact ⟨mainHolds, List.forall_mem_nil _, altHolds⟩
  | @compute _ taken outcome computes rest alt =>
      obtain ⟨takenHolds, restHolds⟩ := List.forall_mem_append.mp mainHolds
      have sound := computes.sound takenHolds
      cases outcome with
      | ok result => exact ⟨restHolds, List.forall_mem_singleton.mpr sound, altHolds⟩
      | error fault => exact ⟨sound, restHolds⟩
  | lack few | toAltOfNone alt => exact ⟨rfl, List.forall_mem_nil _⟩
  | fromAltOfNone main => exact ⟨rfl, mainHolds⟩
  | dup datum rest alt =>
      obtain ⟨isValue, restHolds⟩ := List.forall_mem_cons.mp mainHolds
      exact ⟨restHolds, by simp [isValue], altHolds⟩
  | drop datum rest alt | openTaken condition rest alt =>
      exact ⟨(List.forall_mem_cons.mp mainHolds).2, List.forall_mem_nil _, altHolds⟩
  | toAlt datum rest alt =>
      obtain ⟨isValue, restHolds⟩ := List.forall_mem_cons.mp mainHolds
      exact ⟨restHolds, List.forall_mem_nil _, List.forall_mem_cons.mpr ⟨isValue, altHolds⟩⟩
  | fromAlt datum main aside =>
      obtain ⟨isValue, asideHolds⟩ := List.forall_mem_cons.mp altHolds
      exact ⟨mainHolds, List.forall_mem_singleton.mpr isValue, asideHolds⟩

theorem Item.IsCalculation.isSound {item : Item} (calculation : item.IsCalculation)
    (acts : item.Acts active main alt move turn)
    (mainHolds : ∀ datum ∈ main, datum.IsValue)
    (altHolds : ∀ datum ∈ alt, datum.IsValue) : move.IsSound := by
  cases calculation with
  | instruction known =>
      cases acts with
      | unsupported unknown | skippedOperator unknown => cases unknown
      | instruction standsFor acts => exact acts.isSound mainHolds altHolds
  | value held =>
      cases acts with
      | datum => exact ⟨mainHolds, List.forall_mem_singleton.mpr ⟨held, rfl⟩, altHolds⟩
      | skippedDatum => exact ⟨mainHolds, List.forall_mem_nil _, altHolds⟩

end Items

/-! ## Machines -/

namespace Machine

/-- What calculations may fail with: a defined fault, or one that would have to show a
limit of too many digits. -/
def FailsSoundly (capacity maxSteps : Option Int) (fault : Fault) : Prop :=
  fault.isDefined = true ∨
    ∃ limit, Text.isLongInteger limit = true ∧
      (maxSteps = some limit ∧ fault = .stepLimit limit ∨
        capacity = some limit ∧ fault = .fullStack limit)

variable {capacity : Option Int}

theorem failsSoundly_fullStack (limit : Int) (maxSteps : Option Int) :
    FailsSoundly (some limit) maxSteps (.fullStack limit) := by
  cases long : Text.isLongInteger limit with
  | true => exact .inr ⟨limit, long, .inr ⟨rfl, rfl⟩⟩
  | false =>
      have labelEq : (Fault.fullStack limit).label = "StackOverflowError" :=
        Fault.label_of_shown long
      exact .inl (by rw [Fault.isDefined, labelEq]; rfl)

theorem failsSoundly_stepLimit (capacity : Option Int) (limit : Int) :
    FailsSoundly capacity (some limit) (.stepLimit limit) := by
  cases long : Text.isLongInteger limit with
  | true => exact .inr ⟨limit, long, .inl ⟨rfl, rfl⟩⟩
  | false =>
      exact .inl (by rw [Fault.isDefined, Fault.label_stepLimit_iff.mpr long]; rfl)

theorem FailsSoundly.label_cases {maxSteps : Option Int} {fault : Fault}
    (sound : FailsSoundly capacity maxSteps fault) :
    fault.label ∈ Fault.definedLabels ∨
      fault.label = "ValueError" ∧ ∃ limit, Text.isLongInteger limit = true ∧
        (maxSteps = some limit ∧ fault = .stepLimit limit ∨
          capacity = some limit ∧ fault = .fullStack limit) := by
  rcases sound with defined | ⟨limit, long, cause⟩
  · exact .inl (List.contains_iff_mem.mp defined)
  · refine .inr ⟨?_, limit, long, cause⟩
    rcases cause with ⟨_, rfl⟩ | ⟨_, rfl⟩ <;> exact Fault.label_of_long long

theorem endsIn_perform_of_isSound {move : Move} (sound : move.IsSound)
    {main alt : List Datum} (altHolds : ∀ datum ∈ alt, datum.IsValue)
    (maxSteps : Option Int) :
    EndsIn (Stack.IsSound capacity) (FailsSoundly capacity maxSteps)
      (move.perform ⟨capacity, main, alt⟩) := by
  cases move with
  | fail fault rest =>
      exact ⟨⟨rfl, Stack.holdsValues_iff.mpr ⟨sound.2, altHolds⟩⟩, .inl sound.1⟩
  | put rest values aside =>
      obtain ⟨restHolds, valuesHold, asideHolds⟩ := sound
      rcases Move.perform_put_cases capacity main alt rest values aside with
        succeeded | ⟨limit, pushed, rfl, isPrefix, failed⟩
      · have mainHolds : ∀ datum ∈ values.reverse ++ rest, datum.IsValue := by
          rw [List.forall_mem_append]
          exact ⟨fun datum member => valuesHold datum (List.mem_reverse.mp member),
            restHolds⟩
        rw [succeeded]
        exact ⟨rfl, Stack.holdsValues_iff.mpr ⟨mainHolds, asideHolds⟩⟩
      · have mainHolds : ∀ datum ∈ pushed.reverse ++ rest, datum.IsValue := by
          rw [List.forall_mem_append]
          exact ⟨fun datum member =>
            valuesHold datum (isPrefix.mem (List.mem_reverse.mp member)), restHolds⟩
        rw [failed]
        exact ⟨⟨rfl, Stack.holdsValues_iff.mpr ⟨mainHolds, altHolds⟩⟩,
          failsSoundly_fullStack limit maxSteps⟩

/-- A calculation keeps to script values, and if it fails, it fails soundly. -/
theorem endsIn_evaluate_of_isCalculation {item : Item}
    (calculation : item.IsCalculation) (maxSteps : Option Int) (workspace : Workspace)
    (sound : workspace.stack.IsSound capacity) :
    EndsIn (·.stack.IsSound capacity) (FailsSoundly capacity maxSteps)
      (evaluate Calculator.system item workspace) := by
  obtain ⟨⟨ownCapacity, main, alt⟩, conditions⟩ := workspace
  obtain ⟨capacityEq, holds⟩ := sound
  obtain ⟨mainHolds, altHolds⟩ := Stack.holdsValues_iff.mp holds
  dsimp only at capacityEq
  subst capacityEq
  obtain ⟨move, turn, acts⟩ := item.exists_acts conditions.allTrue main alt
  rw [acts.evaluate]
  apply Routine.endsIn_moveAndTurn
  · exact endsIn_perform_of_isSound (calculation.isSound acts mainHolds altHolds)
      altHolds maxSteps
  · intro fault labelEq
    exact .inl (by rw [Fault.isDefined, labelEq]; rfl)

theorem endsIn_operate_of_isCalculation {item : Item}
    (calculation : item.IsCalculation) (maxSteps : Option Int) (machine : Machine)
    (sound : machine.workspace.stack.IsSound capacity) :
    EndsIn (·.workspace.stack.IsSound capacity) (FailsSoundly capacity maxSteps)
      (operate ⟨Calculator.system, maxSteps⟩ item machine) := by
  refine endsIn_operate (·.stack.IsSound capacity) ?_
    (endsIn_evaluate_of_isCalculation calculation maxSteps) sound
  rintro limit rfl
  exact failsSoundly_stepLimit capacity limit

theorem isSound_start (capacity : Option Int) :
    (start capacity).workspace.stack.IsSound capacity :=
  ⟨rfl, fun _ member => nomatch member⟩

theorem isValue_of_top? {machine : Machine} {datum : Datum}
    (holds : machine.workspace.stack.HoldsValues)
    (topmost : machine.top? = some datum) : datum.IsValue :=
  holds datum (List.mem_append_left _ (List.mem_of_mem_head? topmost))

end Machine

end StackScript
