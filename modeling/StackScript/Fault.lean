import StackScript.Datum
import StackScript.Operator.Basic
import StackScript.Text.Numeral

/-!
# What can go wrong in an evaluation

A fault names its cause.  Its wording is in `Fault.message?`, and `Fault.label`
is the word that a report puts in front of it.  Where the wording would show an
integer of too many digits, it cannot be put together, and another failure takes
the place of the one that was meant.
-/

namespace StackScript

/-- Why a value could not be built or a step of a machine failed. -/
inductive Fault where
  | emptyStack
  /-- A value is to be set aside, and the stack is empty. -/
  | emptyStackForAlt
  /-- A value is to be taken back, and none is set aside. -/
  | emptyAlt
  | fullStack (capacity : Int)
  | stepLimit (limit : Int)
  /-- A block is opened inside as many blocks as can be counted. -/
  | tooManyConditions
  | noConditionToPop
  | noConditionToToggle
  /-- A value of this kind does not hold such an object. -/
  | payload (kind : Value.Kind) (found : Foreign)
  | integerBeyondFloat (integer : Int)
  | integerRange (integer : Int)
  | negation (value : Value)
  | addition (first second : Value)
  | multiplication (first second : Value)
  | unsupported (operator : Operator)
  | operandType
  /-- A foreign integer is too large to meet a floating-point number. -/
  | foreignIntegerBeyondFloat
  /-- A sequence is to be repeated more often than can be counted. -/
  | foreignRepetition
  | halted

namespace Fault

/-- The object that a value of the given kind holds, with its article. -/
def payloadNoun : Value.Kind → String
  | .boolean => "a bool"
  | .float => "a float"
  | .integer => "an int"
  | .string => "a str"

/-- Whether the words for the cause cannot show an integer that belongs there. -/
def showsLongInteger : Fault → Bool
  | .fullStack integer | .stepLimit integer | .integerBeyondFloat integer
  | .integerRange integer => Text.isLongInteger integer
  | .unsupported operator => operator.showsLongInteger
  | _ => false

/-- The words for the cause; some causes have none. -/
def wording? : Fault → Option String
  | .emptyStack => some "Cannot pop from an empty stack"
  | .emptyStackForAlt =>
    some "Cannot move a value into alt from an empty stack"
  | .emptyAlt => some "Cannot move a value from an empty alt stack"
  | .fullStack capacity =>
    some ("Stack is full (" ++ toString capacity ++ " values)")
  | .stepLimit limit => some ("Step limit of " ++ toString limit ++ " reached")
  | .tooManyConditions => some "Condition stack is too deep"
  | .noConditionToPop => some "Cannot pop from an empty condition stack"
  | .noConditionToToggle => some "Cannot toggle an empty condition stack"
  | .payload kind found =>
    some (kind.title ++ " requires " ++ payloadNoun kind ++ ", got " ++
      found.typeName)
  | .integerBeyondFloat integer =>
    some ("Integer " ++ toString integer ++ " is too large for a Float")
  | .integerRange integer =>
    some ("Integer " ++ toString integer ++ " does not fit in 128 bits")
  | .negation value =>
    some ("Type of " ++ value.render ++ " cannot be negated")
  | .addition first second =>
    some ("Types of " ++ first.render ++ " and " ++ second.render ++
      " cannot be added together")
  | .multiplication first second =>
    some ("Types of " ++ first.render ++ " and " ++ second.render ++
      " cannot be multiplied together")
  | .unsupported operator => some ("Unsupported operator " ++ operator.render)
  | .operandType => none
  | .foreignIntegerBeyondFloat => some "int too large to convert to float"
  | .foreignRepetition =>
    some "cannot fit 'int' into an index-sized integer"
  | .halted => some "halted"

/-- The cause in words, or why there are none. -/
def message? (fault : Fault) : Option String :=
  if fault.showsLongInteger then some Text.longIntegerMessage
  else fault.wording?

def family : Fault → String
  | .emptyStack | .emptyStackForAlt | .emptyAlt => "StackUnderflowError"
  | .fullStack _ => "StackOverflowError"
  | .stepLimit _ => "StepLimitExceeded"
  | .tooManyConditions | .noConditionToPop | .noConditionToToggle =>
    "ConditionStackError"
  | .payload _ _ | .integerBeyondFloat _ | .negation _ | .addition _ _
  | .multiplication _ _ => "ValueTypeError"
  | .integerRange _ => "IntegerOverflowError"
  | .unsupported _ => "ValueError"
  | .operandType => "TypeError"
  | .foreignIntegerBeyondFloat | .foreignRepetition => "OverflowError"
  | .halted => "Halt"

/-- The word for the family of what is reported. -/
def label (fault : Fault) : String :=
  if fault.showsLongInteger then Text.longIntegerLabel else fault.family

theorem label_of_long {fault : Fault} (long : fault.showsLongInteger = true) :
    fault.label = Text.longIntegerLabel :=
  if_pos long

theorem label_of_shown {fault : Fault} (shown : fault.showsLongInteger = false) :
    fault.label = fault.family := by
  rw [label, shown]
  rfl

/-- What is reported belongs to the family of the cause, unless an integer could not be
shown. -/
theorem family_of_label {fault : Fault} {word : String} (labelEq : fault.label = word)
    (other : word ≠ Text.longIntegerLabel) : fault.family = word := by
  cases long : fault.showsLongInteger with
  | true => exact absurd (labelEq.symm.trans (label_of_long long)) other
  | false => exact (label_of_shown long).symm.trans labelEq

/-- What the fault is called that a step limit ends in. -/
theorem label_stepLimit_iff {limit : Int} :
    (stepLimit limit).label = "StepLimitExceeded" ↔
      Text.isLongInteger limit = false := by
  change (if Text.isLongInteger limit then "ValueError" else "StepLimitExceeded") = _ ↔ _
  cases Text.isLongInteger limit <;> decide

/-- The families of the defined failures of an evaluation. -/
def definedLabels : List String :=
  ["StackUnderflowError", "StackOverflowError", "StepLimitExceeded",
    "ValueTypeError", "IntegerOverflowError", "ConditionStackError"]

/-- Whether what is reported is a defined failure.  What else can go wrong is a matter of
the operators, the foreign objects and the limits that a caller brings along. -/
def isDefined (fault : Fault) : Bool := definedLabels.contains fault.label

end Fault
end StackScript
