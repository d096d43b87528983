import StackScript.Fault

/-!
# Arithmetic on foreign objects

Foreign numbers compute without a bound, truth values counting as one and zero,
and become floating-point numbers next to one.  Texts, bytes and lists add by
joining and multiply with an integer by repetition.  Other operands are a fault
that carries no words.
-/

namespace StackScript
namespace Foreign

/-- An operation on two numbers: integers stay integers, and next to a
floating-point number an integer becomes the nearest one. -/
def arithmetic (onIntegers : Int → Int → Int)
    (onFloats : Binary64 → Binary64 → Binary64) (first second : Foreign) :
    Except Fault Foreign :=
  let asFloat (integer : Int) : Except Fault Binary64 :=
    match Binary64.ofInt? integer with
    | some number => .ok number
    | Option.none => .error .foreignIntegerBeyondFloat
  match first, second with
  | .float first, .float second => .ok (.float (onFloats first second))
  | .float first, second =>
    match second.toInt? with
    | some second =>
      (asFloat second).map fun second => .float (onFloats first second)
    | Option.none => .error .operandType
  | first, .float second =>
    match first.toInt? with
    | some first =>
      (asFloat first).map fun first => .float (onFloats first second)
    | Option.none => .error .operandType
  | first, second =>
    match first.toInt?, second.toInt? with
    | some first, some second => .ok (.integer (onIntegers first second))
    | _, _ => .error .operandType

/-- The greatest number of times that a sequence can be repeated. -/
def repetitionLimit : Int := 2 ^ 63 - 1

/-- A sequence joined with itself the given number of times. -/
def repeatSequence {α : Type} (sequence : List α) (times : Int)
    (build : List α → Foreign) : Except Fault Foreign :=
  if times < -repetitionLimit - 1 ∨ repetitionLimit < times then
    .error .foreignRepetition
  else if sequence.isEmpty then .ok (build [])
  else .ok (build (List.replicate times.toNat sequence).flatten)

def add : Foreign → Foreign → Except Fault Foreign
  | .string first, .string second => .ok (.string (first ++ second))
  | .bytes first, .bytes second => .ok (.bytes (first ++ second))
  | .list first, .list second => .ok (.list (first ++ second))
  | first, second => arithmetic (· + ·) Binary64.add first second

/-- A sequence times an integer. -/
def repeated? (sequence times : Foreign) : Option (Except Fault Foreign) :=
  match sequence, times.toInt? with
  | .string text, some times => some (repeatSequence text times .string)
  | .bytes data, some times => some (repeatSequence data times .bytes)
  | .list elements, some times => some (repeatSequence elements times .list)
  | _, _ => Option.none

def mul (first second : Foreign) : Except Fault Foreign :=
  match repeated? first second, repeated? second first with
  | some result, _ => result
  | Option.none, some result => result
  | Option.none, Option.none => arithmetic (· * ·) Binary64.mul first second

def sub (first second : Foreign) : Except Fault Foreign :=
  arithmetic (· - ·) Binary64.sub first second

def neg : Foreign → Except Fault Foreign
  | .float number => .ok (.float number.neg)
  | other =>
    match other.toInt? with
    | some number => .ok (.integer (-number))
    | Option.none => .error .operandType

end Foreign
end StackScript
