import StackScript.Arithmetic
import StackScript.Document.Reader
import StackScript.Schema.Problem

/-!
# Script documents

A script document is an array of objects, each with exactly one of the keys
`bool`, `int`, `float`, `str` and `op`, for instance

    [{"int": 1}, {"int": 2}, {"op": "Add"}, {"str": "Hello"}]

The keys of the values may also be written with an underscore behind them, and
null counts as absence of a value, though not of an operator.  Every element is
checked on its own, so all problems of a document are found at once.
-/

namespace StackScript
namespace Schema

/-- A family of operators that a document may name. -/
structure NameTable where
  family : String
  /-- The operator with the given name. -/
  find? : Text → Option Operator
  /-- Whether an operator belongs to the family. -/
  holds : Operator → Bool

def instructionNames : NameTable :=
  { family := Instruction.familyName
    find? := fun name => (Instruction.ofName? name).map .instruction
    holds := fun operator =>
      match operator with
      | .instruction _ => true
      | _ => false }

def commandNames : NameTable :=
  { family := Command.familyName
    find? := fun name => (Command.ofName? name).map .command
    holds := fun operator =>
      match operator with
      | .command _ => true
      | _ => false }

/-- What an element of a script holds once it is accepted.  A floating-point
number may be given as an integer of any size. -/
inductive Content where
  | operator (operator : Operator)
  | boolean (truth : Bool)
  | integer (number : Int128)
  | float (number : Binary64)
  | floatOfInteger (number : Int)
  | string (text : Text)

/-- A check finds problems or gives a result. -/
abbrev Check (α : Type) := Except (List Problem) α

/-! ## Fields of values -/

def fieldKey (kind : Value.Kind) : Text := Text.ofString kind.key

/-- The other spelling of the key of a kind of values. -/
def otherFieldKey (kind : Value.Kind) : Text :=
  Text.ofString (kind.key ++ "_")

/-- The key that counts for a kind of values, and what it holds. -/
def field? (kind : Value.Kind) (entries : List (Text × Document)) :
    Option (Text × Document) :=
  match Document.entry? (fieldKey kind) entries with
  | some document => some (fieldKey kind, document)
  | none =>
    (Document.entry? (otherFieldKey kind) entries).map (otherFieldKey kind, ·)

/-- What a document holds as a value of the given kind.  The place is that of the
document. -/
def checkValue (place : List Step) : Value.Kind → Document → Check Content
  | .boolean, .boolean truth => .ok (.boolean truth)
  | .boolean, _ => .error [⟨place, .notABoolean⟩]
  | .integer, .integer integer =>
    match Int128.ofInt? integer with
    | some number => .ok (.integer number)
    | none =>
      if Text.isLongInteger integer then .error [⟨place, .longInteger⟩]
      else .error [⟨place, .integerRange integer⟩]
  | .integer, _ => .error [⟨place, .notAnInteger⟩]
  | .float, .integer integer => .ok (.floatOfInteger integer)
  | .float, .float number => .ok (.float number)
  | .float, _ =>
    .error
      [⟨place ++ [.key (fieldKey .integer)], .notAnInteger⟩,
        ⟨place ++ [.key (fieldKey .float)], .notANumber⟩]
  | .string, .string text => .ok (.string text)
  | .string, _ => .error [⟨place, .notAText⟩]

/-- What an element holds as a value of the given kind, if anything. -/
def checkField (place : List Step) (entries : List (Text × Document))
    (kind : Value.Kind) : Check (Option Content) :=
  match field? kind entries with
  | none => .ok none
  | some (_, .null) => .ok none
  | some (key, document) =>
    (checkValue (place ++ [.key key]) kind document).map some

/-! ## Operators -/

def operatorKey : Text := Text.ofString "op"

def resolve (table : Option NameTable) (document : Document) :
    Except Cause Operator :=
  match table, document with
  | none, _ => .error .noOperators
  | some operators, .string name =>
    match operators.find? name with
    | some operator => .ok operator
    | none => .error (.unknownName name operators.family)
  | some _, document =>
    if document.hasLongInteger then .error .longInteger
    else .error (.notAName document.render)

/-- An operator in place of its name; it has to be of the family. -/
def accept (table : Option NameTable) (operator : Operator) :
    Except Cause Operator :=
  match table with
  | none => .error .noOperators
  | some operators =>
    if operators.holds operator then .ok operator
    else .error (.notAName operator.render)

/-- The operator that an element holds, if any.  One that the caller has resolved
takes the place of what is written. -/
def checkOperator (table : Option NameTable) (resolved : Option Operator)
    (place : List Step) (entries : List (Text × Document)) :
    Check (Option Content) :=
  let result? : Option (Except Cause Operator) :=
    match resolved with
    | some operator => some (accept table operator)
    | none => (Document.entry? operatorKey entries).map (resolve table)
  match result? with
  | none => .ok none
  | some (.ok operator) => .ok (some (.operator operator))
  | some (.error cause) => .error [⟨place ++ [.key operatorKey], cause⟩]

/-! ## Elements -/

/-- The kinds of values in the order in which they are checked. -/
def kinds : List Value.Kind := [.boolean, .integer, .float, .string]

/-- The keys that count in an element. -/
def usedKeys (entries : List (Text × Document)) : List Text :=
  kinds.filterMap (fun kind => (field? kind entries).map Prod.fst) ++
    [operatorKey]

/-- The keys that no element has, in the order of the document. -/
def extraKeys (entries : List (Text × Document)) : List Text :=
  (entries.map Prod.fst).filter fun key => !(usedKeys entries).contains key

def problems {α : Type} : Check α → List Problem
  | .ok _ => []
  | .error found => found

/-- What a check that found no problem has given. -/
def result? {α : Type} : Check (Option α) → Option α
  | .ok result => result
  | .error _ => none

/-- Whether a text has surrogates outside of pairs. -/
def hasSurrogate (text : Text) : Bool := text.any CodePoint.isSurrogate

/-- Checks the entries of an element.  A key that is no Unicode text is the only
problem reported of its element. -/
def checkEntries (table : Option NameTable) (resolved : Option Operator)
    (place : List Step) (entries : List (Text × Document)) : Check Content :=
  let checks :=
    kinds.map (checkField place entries) ++
      [checkOperator table resolved place entries]
  let extras := (extraKeys entries).map fun key =>
    Problem.mk (place ++ [.key key]) .extraKey
  let found := checks.flatMap problems ++ extras
  if entries.any fun (key, _) => hasSurrogate key then
    .error [⟨place, .notUnicode⟩]
  else if found.isEmpty then
    match checks.filterMap result? with
    | [content] => .ok content
    | _ => .error [⟨place, .notExactlyOne⟩]
  else .error found

def checkElement (table : Option NameTable) (form : Form)
    (resolved : Option Operator) (position : Nat) :
    Document → Check Content
  | .object entries =>
    checkEntries table resolved [.element position] entries
  | _ => .error [⟨[.element position], .notAnObject form⟩]

/-- Checks the elements of a script from the given position on.  `resolved` gives
the operators that the caller has put in place of names, by position. -/
def checkElements (table : Option NameTable) (form : Form)
    (resolved : Nat → Option Operator) :
    (position : Nat) → List Document → Check (List Content)
  | _, [] => .ok []
  | position, element :: rest =>
    let first := checkElement table form (resolved position) position element
    let others := checkElements table form resolved (position + 1) rest
    match first, others with
    | .ok content, .ok contents => .ok (content :: contents)
    | first, others => .error (problems first ++ problems others)

def check (table : Option NameTable) (form : Form)
    (resolved : Nat → Option Operator) : Document → Check (List Content)
  | .array elements => checkElements table form resolved 0 elements
  | _ => .error [⟨[], .notAnArray form⟩]

/-! ## Scripts -/

/-- The item that an element stands for.  An integer can be too large to be a
floating-point number. -/
def Content.toItem : Content → Except Fault Item
  | .operator known => .ok (.operator known)
  | .boolean truth => .ok (.value (.boolean truth))
  | .integer number => .ok (.value (.integer number))
  | .float number => .ok (.value (.float number))
  | .floatOfInteger number => (Value.floatOfInt number).map .value
  | .string text => .ok (.value (.string text))

/-- The items that elements stand for, up to the first that fails. -/
def toItems : List Content → Except Fault Script
  | [] => .ok []
  | content :: rest =>
    match content.toItem with
    | .error fault => .error fault
    | .ok item => (toItems rest).map (item :: ·)

/-- Why a document gives no script. -/
inductive Rejection where
  | problems (found : List Problem)
  | fault (fault : Fault)

/-- The script that elements stand for, once they are accepted. -/
def finish : Check (List Content) → Except Rejection Script
  | .error found => .error (.problems found)
  | .ok contents =>
    match toItems contents with
    | .ok script => .ok script
    | .error fault => .error (.fault fault)

def scriptOfStrict (table : Option NameTable) (document? : Option Document) :
    Except Rejection Script :=
  match document? with
  | some document => finish (check table .text (fun _ => none) document)
  | none => .error (.problems [⟨[], .notADocument⟩])

def scriptOfText (table : Option NameTable) (text : Text) :
    Except Rejection Script :=
  if hasSurrogate text then .error (.problems [⟨[], .notUnicode⟩])
  else scriptOfStrict table (Document.ofTextStrict? text)

def scriptOfBytes (table : Option NameTable) (bytes : List UInt8) :
    Except Rejection Script :=
  scriptOfStrict table (Document.ofBytesStrict? bytes)

/-- The script in a document, some of whose operators the caller has put in place
of names.  A text in place of an array is read as a document. -/
def scriptOfResolved (table : Option NameTable)
    (resolved : Nat → Option Operator) : Document → Except Rejection Script
  | .string text => scriptOfText table text
  | document => finish (check table .tree resolved document)

def scriptOf (table : Option NameTable) (document : Document) :
    Except Rejection Script :=
  scriptOfResolved table (fun _ => none) document

end Schema
end StackScript
