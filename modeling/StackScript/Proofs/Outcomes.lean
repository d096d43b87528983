/-!
# What a computation leaves behind

Machines, stacks and readers are changed by computations that can fail, and a failure
does not undo what was changed before it.  A caller may go on from there.  So what
counts is the state that a computation leaves, however it has ended.
-/

namespace StackScript

variable {ε σ α γ : Type}

/-- The state that a computation leaves, whether it has succeeded or failed. -/
def leftBy : EStateM.Result ε σ α → σ
  | .ok _ state => state
  | .error _ state => state

/-- The state after a sequence of calls, each on what the one before has left, also if
that one has failed. -/
def leftByAll (perform : γ → EStateM ε σ α) (calls : List γ) (state : σ) : σ :=
  calls.foldl (fun state call => leftBy (perform call state)) state

theorem leftByAll_append (perform : γ → EStateM ε σ α) (first second : List γ)
    (state : σ) :
    leftByAll perform (first ++ second) state =
      leftByAll perform second (leftByAll perform first state) :=
  List.foldl_append

/-- What every call preserves holds after every sequence of calls. -/
theorem holds_leftByAll (Holds : σ → Prop) {perform : γ → EStateM ε σ α} {calls : List γ}
    {state : σ} (holds : Holds state)
    (preserved : ∀ call ∈ calls, ∀ state, Holds state →
      Holds (leftBy (perform call state))) :
    Holds (leftByAll perform calls state) :=
  List.foldlRecOn calls _ holds fun state holds call member =>
    preserved call member state holds

/-- Wherever the computation fails, it has changed nothing. -/
def FailsInPlace (computation : EStateM ε σ α) : Prop :=
  ∀ before fault after, computation before = .error fault after → after = before

/-- The same end in another state. -/
def endingIn {τ : Type} (change : σ → τ) :
    EStateM.Result ε σ α → EStateM.Result ε τ α
  | .ok result state => .ok result (change state)
  | .error fault state => .error fault (change state)

/-- The computation has ended in such a state, and if it has failed, with such a
fault. -/
def EndsIn (Holds : σ → Prop) (Allowed : ε → Prop) : EStateM.Result ε σ α → Prop
  | .ok _ state => Holds state
  | .error fault state => Holds state ∧ Allowed fault

theorem EndsIn.holds {Holds : σ → Prop} {Allowed : ε → Prop}
    {ended : EStateM.Result ε σ α} (endsIn : EndsIn Holds Allowed ended) :
    Holds (leftBy ended) := by
  cases ended with
  | ok result state => exact endsIn
  | error fault state => exact endsIn.1

theorem endsIn_of_leftBy {Holds : σ → Prop} {ended : EStateM.Result ε σ α}
    (holds : Holds (leftBy ended)) : EndsIn Holds (fun _ => True) ended := by
  cases ended with
  | ok result state => exact holds
  | error fault state => exact ⟨holds, trivial⟩

theorem failsInPlace_of_leftBy {computation : EStateM ε σ α}
    (inPlace : ∀ before, leftBy (computation before) = before) :
    FailsInPlace computation := by
  intro before fault after failed
  have left := inPlace before
  rw [failed] at left
  exact left

end StackScript
