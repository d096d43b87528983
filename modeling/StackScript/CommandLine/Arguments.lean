import StackScript.CommandLine.Suggestion
import StackScript.Text.Numeral
import StackScript.Text.Quoted

/-!
# Arguments of a command

Arguments are options and operands.  An option starts with a dash, its value
stands behind an equals sign or is the next argument whatever that is, and two
dashes alone end the options.  Flags of one letter can be joined behind one dash.
-/

namespace StackScript
namespace CommandLine

/-- An option that a command knows. -/
structure Choice where
  name : String
  /-- The letter that stands for it behind a single dash. -/
  letter : Option Char := none
  takesValue : Bool := false

/-- An option that was given, by its full name, and its value. -/
structure Given where
  name : String
  value : String

/-- The options in the order of the command line, and the operands. -/
structure Arguments where
  options : List Given
  operands : List String

/-- Why the arguments of a command cannot be used. -/
inductive UsageFault where
  | valueMissing (name : String)
  | valueUnexpected (name : String)
  | unknownOption (name : String) (similar : List String)
  | unknownCommand (name : String) (similar : List String)
  | commandMissing
  | operandMissing (name : String)
  | operandsLeft (operands : List String)
  | notAnInteger (option value : String)
  | pathMissing (operand path : String)

namespace UsageFault

def quoted (string : String) : String := (Text.ofString string).quoted

/-- What may have been meant instead of an unknown name. -/
def hint : List String → String
  | [] => ""
  | [name] => " Did you mean " ++ quoted name ++ "?"
  | names =>
    " (Did you mean one of: " ++ ", ".intercalate (names.map quoted) ++ "?)"

def message : UsageFault → String
  | .valueMissing name => "Option '" ++ name ++ "' requires an argument."
  | .valueUnexpected name =>
    "Option '" ++ name ++ "' does not take a value."
  | .unknownOption name similar =>
    "No such option " ++ quoted name ++ "." ++ hint similar
  | .unknownCommand name similar =>
    "No such command " ++ quoted name ++ "." ++ hint similar
  | .commandMissing => "Missing command."
  | .operandMissing name => "Missing argument '" ++ name ++ "'."
  | .operandsLeft operands =>
    "Got unexpected extra argument" ++
      (if operands.length = 1 then "" else "s") ++ " (" ++
      " ".intercalate operands ++ ")"
  | .notAnInteger option value =>
    "Invalid value for '" ++ option ++ "': " ++ quoted value ++
      " is not a valid integer."
  | .pathMissing operand path =>
    "Invalid value for '" ++ operand ++ "': Path " ++ quoted path ++
      " does not exist."

/-- Whether the usage of the command is recalled before the cause. -/
def recallsUsage : UsageFault → Bool
  | .valueMissing _ | .valueUnexpected _ => false
  | _ => true

end UsageFault

/-- The text before and behind the first equals sign. -/
def splitValue (argument : String) : String × Option String :=
  let characters := argument.toList
  let name := characters.takeWhile (· != '=')
  if name.length = characters.length then (argument, none)
  else
    (String.ofList name,
      some (String.ofList (characters.drop (name.length + 1))))

def joinedFlags (choices : List Choice) :
    List Char → Except UsageFault (List Given)
  | [] => .ok []
  | letter :: rest =>
    match choices.find? fun choice => choice.letter == some letter with
    | some choice =>
      (joinedFlags choices rest).map (⟨choice.name, ""⟩ :: ·)
    | none => .error (.unknownOption (String.ofList ['-', letter]) [])

/-- The options whose names are similar to the given one.  Every command also
offers help. -/
def similarOptions (choices : List Choice) (name : String) : List String :=
  suggestions name (choices.map Choice.name ++ ["--help"])

def Arguments.withOptions (options : List Given) (arguments : Arguments) :
    Arguments :=
  { arguments with options := options ++ arguments.options }

def Arguments.withOperand (operand : String) (arguments : Arguments) :
    Arguments :=
  { arguments with operands := operand :: arguments.operands }

/-- Reads the arguments of a command that knows the given options.  If options
may not follow operands, the first operand ends them. -/
def readArguments (choices : List Choice) (mixed : Bool) :
    List String → Except UsageFault Arguments
  | [] => .ok ⟨[], []⟩
  | argument :: rest =>
    if argument = "--" then .ok ⟨[], rest⟩
    else if argument.startsWith "-" && argument != "-" then
      let (name, value?) := splitValue argument
      match choices.find? fun choice => choice.name == name with
      | some choice =>
        match choice.takesValue, value? with
        | false, none =>
          (readArguments choices mixed rest).map (·.withOptions [⟨name, ""⟩])
        | false, some _ => .error (.valueUnexpected name)
        | true, some value =>
          (readArguments choices mixed rest).map (·.withOptions [⟨name, value⟩])
        | true, none =>
          match rest with
          | [] => .error (.valueMissing name)
          | value :: rest =>
            (readArguments choices mixed rest).map
              (·.withOptions [⟨name, value⟩])
      | none =>
        if argument.startsWith "--" then
          .error (.unknownOption name (similarOptions choices name))
        else
          match joinedFlags choices (argument.toList.drop 1) with
          | .error fault => .error fault
          | .ok flags =>
            (readArguments choices mixed rest).map (·.withOptions flags)
    else if mixed then
      (readArguments choices mixed rest).map (·.withOperand argument)
    else .ok ⟨[], argument :: rest⟩

namespace Arguments

def has (arguments : Arguments) (name : String) : Bool :=
  arguments.options.any fun given => given.name == name

/-- The value that was given last to an option. -/
def value? (arguments : Arguments) (name : String) : Option String :=
  (arguments.options.reverse.find? fun given => given.name == name).map
    Given.value

def integer? (arguments : Arguments) (name : String) :
    Except UsageFault (Option Int) :=
  match arguments.value? name with
  | none => .ok none
  | some value =>
    match Text.readInteger? (Text.ofString value) with
    | some integer => .ok (some integer)
    | none => .error (.notAnInteger name value)

/-- The first of the given options, in the order of the command line, whose value
is no integer. -/
def integerFault? (arguments : Arguments) (names : List String) :
    Option UsageFault :=
  arguments.options.findSome? fun given =>
    if names.contains given.name then
      match arguments.integer? given.name with
      | .ok _ => none
      | .error fault => some fault
    else none

/-- The only operand, which has the given name. -/
def operand (arguments : Arguments) (name : String) :
    Except UsageFault String :=
  match arguments.operands with
  | [] => .error (.operandMissing name)
  | [operand] => .ok operand
  | _ :: others => .error (.operandsLeft others)

end Arguments
end CommandLine
end StackScript
