import StackScript.Proofs.MachineCalls

/-!
# Runs under a step limit

A step limit is looked at before an item is evaluated and never while it is, so it
does not change what the items do.  Up to the limit a run is the same as without one,
and the first item beyond it is refused before it does anything.  Since an item that
fails counts as well, the number of steps left is known before a run: it is the
distance of the machine's steps from the limit, whatever earlier calls have made of
the machine.

Nothing here depends on what operators do, so everything holds for every operator
system.
-/

namespace StackScript

namespace Machine

/-- The number of items that may still be evaluated: none beyond the limit. -/
def stepsLeft (limit : Int) (machine : Machine) : Nat :=
  (max 0 (limit - machine.steps)).toNat

section Steps

variable {system : OperatorSystem} {limit : Int} {machine : Machine}

/-! ## Single items -/

theorem operate_of_steps_lt (item : Item) (below : machine.steps < limit) :
    operate { system := system, maxSteps := some limit } item machine =
      operate { system := system } item machine := by
  have notReached : ¬limit ≤ machine.steps := Int.not_le.mpr below
  simp only [operate, limitReached?, if_neg notReached]

theorem steps_operate (item : Item) :
    (leftBy (operate { system := system } item machine)).steps =
      machine.steps + 1 := by
  simp only [operate, limitReached?]
  cases evaluate system item machine.workspace <;> rfl

/-! ## Scripts -/

theorem steps_of_run_ok {script : Script} {top : Option Datum} {reached : Machine}
    (succeeded : run { system := system } script machine = .ok top reached) :
    reached.steps = machine.steps + script.length := by
  induction script generalizing machine with
  | nil =>
      cases succeeded
      rfl
  | cons item rest ih =>
      simp only [run] at succeeded
      split at succeeded
      · next after operated =>
          have counted : after.steps = machine.steps + 1 := by
            rw [← steps_operate item, operated, leftBy]
          rw [ih succeeded, counted, List.length_cons]
          omega
      · cases succeeded

/-- A script that is no longer than the limit allows does not notice the limit. -/
theorem run_of_length_le {script : Script}
    (short : script.length ≤ machine.stepsLeft limit) :
    run { system := system, maxSteps := some limit } script machine =
      run { system := system } script machine := by
  induction script generalizing machine with
  | nil => rfl
  | cons item rest ih =>
      simp only [List.length_cons, stepsLeft] at short
      have below : machine.steps < limit := by omega
      simp only [run, operate_of_steps_lt item below]
      cases operated : operate { system := system } item machine with
      | error fault next => rfl
      | ok top next =>
          have counted : next.steps = machine.steps + 1 := by
            rw [← steps_operate item, operated, leftBy]
          apply ih
          simp only [stepsLeft]
          omega

theorem limit_le_of_stepsLeft {reached : Machine}
    (counted : reached.steps = machine.steps + machine.stepsLeft limit) :
    limit ≤ reached.steps := by
  simp only [stepsLeft] at counted
  omega

/-- A longer script is refused at the first item beyond the limit, if it gets there. -/
theorem run_of_lt_length {script : Script} {top : Option Datum} {reached : Machine}
    (long : machine.stepsLeft limit < script.length)
    (allowed : run { system := system } (script.take (machine.stepsLeft limit))
      machine = .ok top reached) :
    reached.steps = machine.steps + machine.stepsLeft limit ∧
      run { system := system, maxSteps := some limit } script machine =
        .error (.stepLimit limit) reached := by
  have takenLength :
      (script.take (machine.stepsLeft limit)).length = machine.stepsLeft limit := by
    rw [List.length_take]
    omega
  have counted : reached.steps = machine.steps + machine.stepsLeft limit := by
    rw [steps_of_run_ok allowed, takenLength]
  refine ⟨counted, ?_⟩
  obtain ⟨item, rest, dropped⟩ :
      ∃ item rest, script.drop (machine.stepsLeft limit) = item :: rest := by
    apply List.exists_cons_of_ne_nil
    rw [ne_eq, List.drop_eq_nil_iff]
    omega
  have refused : run { system := system, maxSteps := some limit } (item :: rest)
      reached = .error (.stepLimit limit) reached := by
    simp only [run, operate_of_le_steps item (limit_le_of_stepsLeft counted)]
  rw [← List.take_append_drop (machine.stepsLeft limit) script, run_append,
    run_of_length_le (Nat.le_of_eq takenLength), allowed, dropped]
  exact refused

/-- A script that fails within the limit fails in the same way under it. -/
theorem run_of_take_error {script : Script} {fault : Fault} {failed : Machine}
    (ended : run { system := system } (script.take (machine.stepsLeft limit))
      machine = .error fault failed) :
    run { system := system, maxSteps := some limit } script machine =
      .error fault failed := by
  have takenLength : (script.take (machine.stepsLeft limit)).length ≤
      machine.stepsLeft limit :=
    List.length_take_le _ _
  rw [← List.take_append_drop (machine.stepsLeft limit) script, run_append,
    run_of_length_le takenLength, ended]

/-! ## The life of a machine -/

/-- The steps of the machine do not exceed the limit, unless that is negative. -/
def KeepsLimit (limit : Int) (machine : Machine) : Prop :=
  (machine.steps : Int) ≤ max 0 limit

theorem keepsLimit_operate (system : OperatorSystem) (item : Item) (machine : Machine)
    (keeps : machine.KeepsLimit limit) :
    EndsIn (KeepsLimit limit) (fun _ => True)
      (operate { system := system, maxSteps := some limit } item machine) := by
  apply endsIn_of_leftBy
  by_cases below : machine.steps < limit
  · rw [operate_of_steps_lt item below, KeepsLimit, steps_operate]
    omega
  · rw [operate_of_le_steps item (Int.not_lt.mp below)]
    exact keeps

theorem keepsLimit_start (capacity : Option Int) (limit : Int) :
    (start capacity).KeepsLimit limit :=
  Int.le_max_left 0 limit

end Steps

/-- A step limit cuts a run off and changes nothing else.  The steps that are left are
those that the machine has not used up in earlier calls, failed ones included.  If the
items that they suffice for fail, the run fails with them.  Otherwise a script that
they suffice for runs as without a limit, and a longer one is refused where these items
have led.  The refusal goes by its name unless the limit is too long to be shown.  Hence
the machine never takes more steps than the limit allows. -/
theorem step_limit_cuts_off (system : OperatorSystem) (limit : Int)
    (capacity : Option Int) (calls : List Call) (script : Script) :
    let limited : Config := { system := system, maxSteps := some limit }
    let unlimited : Config := { system := system }
    let machine := afterCalls limited calls (start capacity)
    let left := (max 0 (limit - machine.steps)).toNat
    (match run unlimited (script.take left) machine with
      | .error fault failed => run limited script machine = .error fault failed
      | .ok _ reached =>
        if script.length ≤ left then
          run limited script machine = run unlimited script machine ∧
            run limited script machine = .ok reached.top? reached
        else
          run limited script machine = .error (.stepLimit limit) reached ∧
            reached.steps = machine.steps + left ∧
            ((Fault.stepLimit limit).label = "StepLimitExceeded" ↔
              Text.isLongInteger limit = false)) ∧
      (machine.steps : Int) ≤ max 0 limit := by
  intro limited unlimited machine left
  refine ⟨?_, holds_afterCalls (fun _ _ item _ => keepsLimit_operate system item)
    (keepsLimit_start capacity limit)⟩
  cases ended : run unlimited (script.take left) machine with
  | error fault failed => exact run_of_take_error ended
  | ok top reached =>
      dsimp only
      split
      · next short =>
          have same : run limited script machine = run unlimited script machine :=
            run_of_length_le short
          rw [List.take_of_length_le short] at ended
          refine ⟨same, ?_⟩
          rw [same, ended, top_of_run ended]
      · next long =>
          obtain ⟨counted, refused⟩ := run_of_lt_length (Nat.not_le.mp long) ended
          exact ⟨refused, counted, Fault.label_stepLimit_iff⟩

/-- A machine that may take no step refuses the first item, but not in the name of a
limit that is too long to be shown. -/
theorem step_limit_unnamed :
    let limit : Int := -10 ^ 4300
    let limited : Config := { system := OperatorSystem.idle, maxSteps := some limit }
    ∃ fault reached,
      run limited [.instruction .dup] (start none) = .error fault reached ∧
        fault.label ≠ "StepLimitExceeded" := by
  intro limit limited
  have reached : limit ≤ (start none).steps := by decide +kernel
  have long : Text.isLongInteger limit = true := by decide +kernel
  refine ⟨.stepLimit limit, start none, ?_, ?_⟩
  · simp only [run, limited, operate_of_le_steps _ reached]
  · rw [ne_eq, Fault.label_stepLimit_iff, long]
    decide

end Machine
end StackScript
