import StackScript.Proofs.Outcomes
import StackScript.Stack

/-!
# Values are neither lost nor doubled

Written bottom first, the main part followed by the values set aside in reverse order
is one line of values, cut in two.  Moving a value from one part to the other moves the
cut and nothing else.  Pushing and popping add and remove a value at the cut.

A value changes its part in two steps, and a failure undoes nothing.  Both steps are in
an order in which a failure comes before anything has changed: a value is taken off only
where there is one, and what is taken back is pushed before it is removed.
-/

namespace StackScript

namespace Stack

variable {α : Type}

/-- The main part, bottom first, and behind it the values set aside, topmost first. -/
def line (stack : Stack α) : List α :=
  stack.mainValues ++ stack.altValues.reverse

theorem take_length_line (stack : Stack α) :
    stack.line.take stack.length = stack.mainValues := by
  simp [line, length, mainValues]

theorem drop_length_line (stack : Stack α) :
    stack.line.drop stack.length = stack.altValues.reverse := by
  simp [line, length, mainValues]

theorem length_eq_length_mainValues (stack : Stack α) :
    stack.length = stack.mainValues.length := by
  rw [mainValues, List.length_reverse, length]

namespace Call

/-- The call can be made: it finds the value that it needs and the room for it. -/
def IsPossible : Call α → Stack α → Prop
  | .push _, stack => stack.HasRoom
  | .pop, stack => stack.mainValues ≠ []
  | .popIntoAlt, stack => stack.mainValues ≠ []
  | .pushFromAlt, stack => stack.altValues ≠ [] ∧ stack.HasRoom

/-- What a call that succeeds does to the two parts, bottom first. -/
inductive Effect (before next : Stack α) : Call α → Option α → Prop where
  | push (value : α) (main_eq : next.mainValues = before.mainValues ++ [value])
      (alt_eq : next.altValues = before.altValues) :
      Effect before next (.push value) none
  | pop (value : α) (main_eq : before.mainValues = next.mainValues ++ [value])
      (alt_eq : next.altValues = before.altValues) :
      Effect before next .pop (some value)
  | popIntoAlt (value : α) (main_eq : before.mainValues = next.mainValues ++ [value])
      (alt_eq : next.altValues = before.altValues ++ [value]) :
      Effect before next .popIntoAlt none
  | pushFromAlt (value : α) (main_eq : next.mainValues = before.mainValues ++ [value])
      (alt_eq : before.altValues = next.altValues ++ [value]) :
      Effect before next .pushFromAlt none

/-- The call moves a value from one part to the other. -/
def IsTransfer (call : Call α) : Prop :=
  call = .popIntoAlt ∨ call = .pushFromAlt

/-! ## Single calls -/

/-- A call that is possible has its effect and keeps the capacity. -/
theorem perform_of_isPossible {call : Call α} {stack : Stack α}
    (possible : call.IsPossible stack) :
    ∃ result next, call.perform stack = .ok result next ∧
      next.capacity = stack.capacity ∧ Effect stack next call result := by
  obtain ⟨capacity, main, alt⟩ := stack
  cases call with
  | push value =>
      refine ⟨none, ⟨capacity, value :: main, alt⟩, ?_, rfl, ?_⟩
      · simp only [perform, Bind.bind, EStateM.bind, push_of_hasRoom possible]
        rfl
      · exact .push value List.reverse_cons rfl
  | pop =>
      cases main with
      | nil => exact absurd rfl possible
      | cons value rest =>
          exact ⟨some value, ⟨capacity, rest, alt⟩, rfl, rfl,
            .pop value List.reverse_cons rfl⟩
  | popIntoAlt =>
      cases main with
      | nil => exact absurd rfl possible
      | cons value rest =>
          exact ⟨none, ⟨capacity, rest, value :: alt⟩, rfl, rfl,
            .popIntoAlt value List.reverse_cons List.reverse_cons⟩
  | pushFromAlt =>
      obtain ⟨notEmpty, room⟩ := possible
      cases alt with
      | nil => exact absurd rfl notEmpty
      | cons value rest =>
          refine ⟨none, ⟨capacity, value :: main, rest⟩, ?_, rfl, ?_⟩
          · simp only [perform, Bind.bind, EStateM.bind, pushFromAlt_of_hasRoom room]
            rfl
          · exact .pushFromAlt value List.reverse_cons List.reverse_cons

/-- A call that is not possible changes nothing. -/
theorem perform_of_not_isPossible {call : Call α} {stack : Stack α}
    (impossible : ¬call.IsPossible stack) :
    ∃ fault, call.perform stack = .error fault stack := by
  obtain ⟨capacity, main, alt⟩ := stack
  cases call with
  | push value =>
      rcases hasRoom_or_full ⟨capacity, main, alt⟩ with room | ⟨limit, capped, full⟩
      · exact absurd room impossible
      · have refused := push_of_le_length capped full value
        exact ⟨_, by simp only [perform, Bind.bind, EStateM.bind, refused]; rfl⟩
  | pop =>
      cases main with
      | nil => exact ⟨_, rfl⟩
      | cons value rest => exact absurd (by simp [IsPossible, mainValues]) impossible
  | popIntoAlt =>
      cases main with
      | nil => exact ⟨_, rfl⟩
      | cons value rest => exact absurd (by simp [IsPossible, mainValues]) impossible
  | pushFromAlt =>
      cases alt with
      | nil => exact ⟨_, rfl⟩
      | cons value rest =>
          rcases hasRoom_or_full ⟨capacity, main, value :: rest⟩ with
            room | ⟨limit, capped, full⟩
          · exact absurd ⟨by simp [altValues], room⟩ impossible
          · cases capped
            exact ⟨_, by
              simp only [perform, Bind.bind, EStateM.bind, pushFromAlt_of_le_length full]
              rfl⟩

/-- What a call can come to: nothing at all, or its effect. -/
theorem leftBy_cases (call : Call α) (stack : Stack α) :
    (¬call.IsPossible stack ∧ leftBy (call.perform stack) = stack) ∨
      (call.IsPossible stack ∧
        (leftBy (call.perform stack)).capacity = stack.capacity ∧
        ∃ result, Effect stack (leftBy (call.perform stack)) call result) := by
  by_cases possible : call.IsPossible stack
  · obtain ⟨result, next, succeeded, capacityEq, effect⟩ :=
      perform_of_isPossible possible
    rw [succeeded]
    exact .inr ⟨possible, capacityEq, result, effect⟩
  · obtain ⟨fault, failed⟩ := perform_of_not_isPossible possible
    exact .inl ⟨possible, by rw [failed]; rfl⟩

theorem capacity_leftBy (call : Call α) (stack : Stack α) :
    (leftBy (call.perform stack)).capacity = stack.capacity := by
  obtain ⟨_, unchanged⟩ | ⟨_, capacityEq, _⟩ := leftBy_cases call stack
  · rw [unchanged]
  · exact capacityEq

theorem line_leftBy {call : Call α} (transfer : call.IsTransfer) (stack : Stack α) :
    (leftBy (call.perform stack)).line = stack.line := by
  obtain ⟨_, unchanged⟩ | ⟨_, _, result, effect⟩ := leftBy_cases call stack
  · rw [unchanged]
  · generalize leftBy (call.perform stack) = next at effect
    rcases transfer with rfl | rfl
    · cases effect with
      | popIntoAlt value main_eq alt_eq => simp [line, main_eq, alt_eq]
    · cases effect with
      | pushFromAlt value main_eq alt_eq => simp [line, main_eq, alt_eq]

/-- Whatever adds a value to the main part has found room for it. -/
theorem length_leftBy_le {bound : Nat} {stack : Stack α} (call : Call α)
    (capped : stack.capacity = some (bound : Int)) (within : stack.length ≤ bound) :
    (leftBy (call.perform stack)).length ≤ bound := by
  obtain ⟨_, unchanged⟩ | ⟨possible, _, result, effect⟩ := leftBy_cases call stack
  · rwa [unchanged]
  · generalize leftBy (call.perform stack) = next at effect
    have lengthEq := length_eq_length_mainValues stack
    rw [length_eq_length_mainValues next]
    cases effect with
    | push value main_eq alt_eq =>
        have room := possible bound capped
        rw [main_eq, List.length_append, List.length_singleton]
        omega
    | pop value main_eq alt_eq | popIntoAlt value main_eq alt_eq =>
        rw [main_eq, List.length_append] at lengthEq
        omega
    | pushFromAlt value main_eq alt_eq =>
        have room := possible.2 bound capped
        rw [main_eq, List.length_append, List.length_singleton]
        omega

end Call

/-! ## Sequences of calls -/

/-- The stack after a sequence of calls, each on what the one before has left. -/
abbrev afterCalls (calls : List (Call α)) (stack : Stack α) : Stack α :=
  leftByAll Call.perform calls stack

theorem line_afterCalls {calls : List (Call α)}
    (transfers : ∀ call ∈ calls, call.IsTransfer) (stack : Stack α) :
    (afterCalls calls stack).line = stack.line := by
  apply holds_leftByAll (fun reached : Stack α => reached.line = stack.line) rfl
  intro call member reached lineEq
  exact (Call.line_leftBy (transfers call member) reached).trans lineEq

theorem length_afterCalls_le {bound : Nat} (calls : List (Call α)) {stack : Stack α}
    (capped : stack.capacity = some (bound : Int)) (within : stack.length ≤ bound) :
    (afterCalls calls stack).length ≤ bound := by
  let Keeps (stack : Stack α) : Prop :=
    stack.capacity = some (bound : Int) ∧ stack.length ≤ bound
  have keeps : Keeps (afterCalls calls stack) := by
    apply holds_leftByAll Keeps ⟨capped, within⟩
    rintro call _ reached ⟨cappedThen, withinThen⟩
    exact ⟨(call.capacity_leftBy reached).trans cappedThen,
      call.length_leftBy_le cappedThen withinThen⟩
  exact keeps.2

/-- A stack that may hold nothing stays empty, so nothing can be set aside either. -/
theorem afterCalls_of_capacity_zero (calls : List (Call α)) :
    afterCalls calls { capacity := some 0 } = { capacity := some 0 } := by
  apply holds_leftByAll (fun reached : Stack α => reached = { capacity := some 0 }) rfl
  rintro call _ _ rfl
  have impossible : ¬call.IsPossible { capacity := some 0 } := by
    cases call with
    | push value => exact fun room => absurd (room 0 rfl) (Int.lt_irrefl 0)
    | pop | popIntoAlt => exact fun notEmpty => notEmpty rfl
    | pushFromAlt => exact fun possible => possible.1 rfl
  obtain ⟨_, unchanged⟩ | ⟨possible, _⟩ := call.leftBy_cases { capacity := some 0 }
  · exact unchanged
  · exact absurd possible impossible

/-- Where there is room for one value, it can be pushed and set aside again and again. -/
theorem exists_afterCalls_altValues {bound : Nat} (positive : 0 < bound) (value : α)
    (count : Nat) :
    ∃ calls, afterCalls calls { capacity := some bound } =
      ⟨some bound, [], List.replicate count value⟩ := by
  induction count with
  | zero => exact ⟨[], rfl⟩
  | succ count ih =>
      obtain ⟨calls, reachedEq⟩ := ih
      have room : HasRoom ⟨some (bound : Int), [], List.replicate count value⟩ := by
        rintro limit ⟨⟩
        exact Int.natCast_pos.mpr positive
      refine ⟨calls ++ [.push value, .popIntoAlt], ?_⟩
      rw [afterCalls] at reachedEq ⊢
      rw [leftByAll_append, reachedEq]
      simp only [leftByAll, List.foldl_cons, List.foldl_nil, Call.perform, Bind.bind,
        EStateM.bind, push_of_hasRoom room]
      rfl

/-- After every sequence of calls a call either has its effect or fails, and a call
that fails changes nothing.  Transfers, also failing ones, keep the line of values and
move only the cut in it.  The main part never holds more than its capacity, if it did
not from the start; the values set aside can be any number, unless there may be no value
at all. -/
theorem calls_conserve_values (stack : Stack α) (calls : List (Call α)) :
    let reached := afterCalls calls stack
    (∀ (call : Call α) fault next,
      call.perform reached = .error fault next → next = reached) ∧
    (∀ call : Call α,
      (call.IsPossible reached →
        ∃ result next, call.perform reached = .ok result next ∧
          Call.Effect reached next call result) ∧
      (¬call.IsPossible reached → ∃ fault, call.perform reached = .error fault reached)) ∧
    (∀ transfers : List (Call α), (∀ call ∈ transfers, call.IsTransfer) →
      let moved := afterCalls transfers reached
      moved.line = reached.line ∧
        moved.mainValues = reached.line.take moved.length ∧
        moved.altValues.reverse = reached.line.drop moved.length) ∧
    (∀ bound : Nat, stack.capacity = some (bound : Int) → stack.length ≤ bound →
      reached.length ≤ bound) ∧
    ∀ (value : α) (bound count : Nat),
      (∃ others, (afterCalls others { capacity := some (bound : Int) }).altValues =
        List.replicate count value) ↔ count = 0 ∨ 0 < bound := by
  intro reached
  refine ⟨?_, ?_, ?_, ?_, ?_⟩
  · intro call fault next failed
    by_cases possible : call.IsPossible reached
    · obtain ⟨_, _, succeeded, _⟩ := Call.perform_of_isPossible possible
      rw [succeeded] at failed
      cases failed
    · obtain ⟨_, inPlace⟩ := Call.perform_of_not_isPossible possible
      rw [inPlace] at failed
      cases failed
      rfl
  · intro call
    refine ⟨?_, Call.perform_of_not_isPossible⟩
    intro possible
    obtain ⟨result, next, succeeded, _, effect⟩ := Call.perform_of_isPossible possible
    exact ⟨result, next, succeeded, effect⟩
  · intro transfers areTransfers moved
    have lineEq : moved.line = reached.line := line_afterCalls areTransfers reached
    rw [← lineEq]
    exact ⟨rfl, moved.take_length_line.symm, moved.drop_length_line.symm⟩
  · intro bound capped within
    exact length_afterCalls_le calls capped within
  · intro value bound count
    constructor
    · rintro ⟨others, altEq⟩
      rcases Nat.eq_zero_or_pos bound with rfl | positive
      · left
        rw [Int.natCast_zero, afterCalls_of_capacity_zero] at altEq
        simpa [altValues] using (congrArg List.length altEq).symm
      · exact .inr positive
    · rintro (rfl | positive)
      · exact ⟨[], rfl⟩
      · obtain ⟨others, reachedEq⟩ := exists_afterCalls_altValues positive value count
        refine ⟨others, ?_⟩
        rw [reachedEq, altValues, List.reverse_replicate]

/-- On a stack for one value, a value is set aside and another one pushed.  The first
cannot be taken back then, and both are still there. -/
theorem calls_conserve_values_full :
    let reached := afterCalls [.push 1, .popIntoAlt, .push 2]
      ({ capacity := some 1 } : Stack Nat)
    reached = ⟨some 1, [2], [1]⟩ ∧ reached.line = [2, 1] ∧ reached.length ≤ 1 ∧
      ¬Call.IsPossible .pushFromAlt reached ∧
      (∃ fault, Call.perform .pushFromAlt reached = .error fault reached) ∧
      (afterCalls [.pushFromAlt, .popIntoAlt] reached).line = [2, 1] := by
  intro reached
  have full : ¬Call.IsPossible .pushFromAlt reached :=
    fun possible => absurd (possible.2 1 rfl) (by decide)
  obtain ⟨_, outcomes, transfers, bounded, _⟩ := calls_conserve_values
    ({ capacity := some 1 } : Stack Nat) [.push 1, .popIntoAlt, .push 2]
  have areTransfers : ∀ call ∈ ([.pushFromAlt, .popIntoAlt] : List (Call Nat)),
      call.IsTransfer := by
    simp [Call.IsTransfer]
  exact ⟨rfl, rfl, bounded 1 rfl (by decide), full,
    (outcomes .pushFromAlt).2 full, (transfers _ areTransfers).1⟩

end Stack
end StackScript
