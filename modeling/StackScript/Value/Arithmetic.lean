import StackScript.Fault

/-!
# Arithmetic on script values

Truth values add by "or", multiply by "and" and negate.  Integers compute
exactly and fail beyond 128 bits.  An integer next to a floating-point number
becomes one.  A difference is the sum with the negation, so the negation of the
second operand comes first and can fail on its own.  Everything else is a fault.
-/

namespace StackScript
namespace Value

/-- The value that holds an integer. -/
def ofInt (integer : Int) : Except Fault Value :=
  match Int128.ofInt? integer with
  | some number => .ok (.integer number)
  | none => .error (.integerRange integer)

/-- The floating-point value nearest to an integer. -/
def floatOfInt (integer : Int) : Except Fault Value :=
  match Binary64.ofInt? integer with
  | some number => .ok (.float number)
  | none => .error (.integerBeyondFloat integer)

/-- The value of the given kind that holds a foreign object.  An integer may be
held as a floating-point number. -/
def ofForeign : Kind → Foreign → Except Fault Value
  | .boolean, .boolean truth => .ok (.boolean truth)
  | .float, .float number => .ok (.float number)
  | .float, .integer number => floatOfInt number
  | .integer, .integer number => ofInt number
  | .string, .string text => .ok (.string text)
  | kind, found => .error (.payload kind found)

end Value

/-- The floating-point number nearest to an integer of 128 bits, all of which
lie far inside the finite range. -/
def Int128.toBinary64 (number : Int128) : Binary64 :=
  Binary64.ofMagnitude (number.val < 0)
    (Binary64.nearestMagnitude number.val.natAbs 1)

namespace Value

def neg : Value → Except Fault Value
  | .boolean truth => .ok (.boolean !truth)
  | .float number => .ok (.float number.neg)
  | .integer number => ofInt (-number.val)
  | .string text => .error (.negation (.string text))

def add : Value → Value → Except Fault Value
  | .boolean first, .boolean second => .ok (.boolean (first || second))
  | .integer first, .integer second => ofInt (first.val + second.val)
  | .float first, .float second => .ok (.float (first.add second))
  | .integer first, .float second => .ok (.float (first.toBinary64.add second))
  | .float first, .integer second => .ok (.float (first.add second.toBinary64))
  | first, second => .error (.addition first second)

def mul : Value → Value → Except Fault Value
  | .boolean first, .boolean second => .ok (.boolean (first && second))
  | .integer first, .integer second => ofInt (first.val * second.val)
  | .float first, .float second => .ok (.float (first.mul second))
  | .integer first, .float second => .ok (.float (first.toBinary64.mul second))
  | .float first, .integer second => .ok (.float (first.mul second.toBinary64))
  | first, second => .error (.multiplication first second)

def sub (first second : Value) : Except Fault Value :=
  match second.neg with
  | .ok negated => first.add negated
  | .error fault => .error fault

/-- Equality of values.  Floating-point numbers are equal if they are close,
also to an integer; values of other different kinds never are. -/
def same : Value → Value → Bool
  | .boolean first, .boolean second => first == second
  | .integer first, .integer second => first.val == second.val
  | .float first, .float second => first.close second
  | .integer first, .float second => first.toBinary64.close second
  | .float first, .integer second => first.close second.toBinary64
  | .string first, .string second => first == second
  | _, _ => false

end Value
end StackScript
