import StackScript.Document.Basic

/-!
# What can be wrong with a script document

Every problem has a place in the document and a cause.  All problems of a
document are reported together.
-/

namespace StackScript
namespace Schema

/-- A step on the way from a document to one of its parts. -/
inductive Step where
  | element (position : Nat)
  | key (key : Text)
deriving DecidableEq

/-- The form in which a document was handed over.  Its array and its objects are
named accordingly. -/
inductive Form where
  | tree
  | text
deriving DecidableEq, Repr

/-- Why a part of a document is not accepted. -/
inductive Cause where
  | notADocument
  | notAnArray (form : Form)
  | notAnObject (form : Form)
  | notABoolean
  | notAnInteger
  | notANumber
  | notAText
  /-- A text or a key has surrogates outside of pairs. -/
  | notUnicode
  | integerRange (integer : Int)
  /-- The integer is too long to be shown in a message. -/
  | longInteger
  | noOperators
  | notAName (shown : String)
  | unknownName (name : Text) (family : String)
  | extraKey
  /-- An element holds exactly one operator or value. -/
  | notExactlyOne

namespace Cause

def code : Cause → String
  | .notADocument => "json_invalid"
  | .notAnArray _ => "list_type"
  | .notAnObject _ => "model_type"
  | .notABoolean => "bool_type"
  | .notAnInteger => "int_type"
  | .notANumber => "float_type"
  | .notAText => "string_type"
  | .notUnicode => "string_unicode"
  | .integerRange _ | .longInteger | .noOperators | .notAName _
  | .unknownName _ _ | .notExactlyOne => "value_error"
  | .extraKey => "extra_forbidden"

/-- The cause in words; what is wrong with a text that is no document is not
told. -/
def message? : Cause → Option String
  | .notADocument => none
  | .notAnArray .tree => some "Input should be a valid list"
  | .notAnArray .text => some "Input should be a valid array"
  | .notAnObject .tree =>
    some "Input should be a valid dictionary or instance of ItemModel"
  | .notAnObject .text => some "Input should be an object"
  | .notABoolean => some "Input should be a valid boolean"
  | .notAnInteger => some "Input should be a valid integer"
  | .notANumber => some "Input should be a valid number"
  | .notAText => some "Input should be a valid string"
  | .notUnicode =>
    some ("Input should be a valid string, unable to parse raw data as a " ++
      "unicode string")
  | .integerRange integer =>
    some ("Value error, integer " ++ toString integer ++
      " does not fit in 128 bits")
  | .longInteger => some ("Value error, " ++ Text.longIntegerMessage)
  | .noOperators =>
    some "Value error, no operator table to resolve operators with"
  | .notAName shown =>
    some ("Value error, operator must be a name, got " ++ shown)
  | .unknownName name family =>
    some ("Value error, unknown operator " ++ name.quoted ++ " for " ++ family)
  | .extraKey => some "Extra inputs are not permitted"
  | .notExactlyOne =>
    some ("Value error, each script element needs exactly one of bool, int, " ++
      "float, str, op")

end Cause

structure Problem where
  place : List Step
  cause : Cause

/-- A step of a place as it is shown.  Points divide the steps, so a key with a
point in it stands between backticks. -/
def Step.render : Step → String
  | .element position => toString position
  | .key name =>
    if name.contains (CodePoint.ofChar '.') then "`" ++ name.display ++ "`"
    else name.display

/-- The lines of a report on a problem: the place, unless it is the whole
document, and the cause with its code. -/
def Problem.lines (problem : Problem) : List String :=
  let place :=
    if problem.place.isEmpty then []
    else [".".intercalate (problem.place.map Step.render)]
  place ++ ["  " ++ problem.cause.message?.getD "Invalid JSON" ++ " [type=" ++
    problem.cause.code ++ "]"]

def report (problems : List Problem) : String :=
  let count := problems.length
  let noun := if count = 1 then " validation error" else " validation errors"
  "\n".intercalate ((toString count ++ noun ++ " for ScriptModel") ::
    problems.flatMap Problem.lines)

end Schema
end StackScript
