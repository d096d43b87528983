import StackScript.CommandLine.Arguments
import StackScript.CommandLine.Folder
import StackScript.Document.Writer
import StackScript.Hexadecimal
import StackScript.Schema.Printing
import StackScript.Schema.Validation
import StackScript.System.Calculator
import StackScript.Wire.Reader

/-!
# Commands

The program has three commands.  `encode` prints the bytes of a script document
as hexadecimal digits, `decode` goes the other way, and `run` evaluates a script
given in either form on the calculator.  A report says what was written to the
two output streams and with which code the program ends.
-/

namespace StackScript
namespace CommandLine

structure Report where
  code : Nat := 0
  output : String := ""
  errors : String := ""
  /-- The family of a fault that the command does not handle. -/
  unhandled : Option String := none

namespace Report

def success (lines : List String) : Report :=
  { output := String.join (lines.map (· ++ "\n")) }

def failure (message : String) : Report :=
  { code := 1, errors := "Error: " ++ message ++ "\n" }

def crash (label : String) : Report :=
  { code := 1, unhandled := some label }

/-- A report of wrong usage of the command with the given name and synopsis. -/
def usage (command synopsis : String) (fault : UsageFault) : Report :=
  let reminder :=
    if fault.recallsUsage then
      "Usage: " ++ command ++ " " ++ synopsis ++ "\nTry '" ++ command ++
        " --help' for help.\n\n"
    else ""
  { code := 2, errors := reminder ++ "Error: " ++ fault.message ++ "\n" }

/-- Puts the lines of a journal in front of the error stream. -/
def afterJournal (lines : List String) (report : Report) : Report :=
  { report with errors := String.join (lines.map (· ++ "\n")) ++ report.errors }

end Report

/-- A document with every element on a line of its own. -/
def prettyDocument (document : Document) : String :=
  document.write (.block 0)

/-! ## Scripts to work on -/

/-- Why there is no script to work on. -/
inductive ScriptFault where
  | digits (fault : Hexadecimal.Fault)
  | wire (fault : Wire.ReadFault)
  | file (fault : FileFault)
  | grammar (fault : Document.SyntaxFault)
  | problems (found : List Schema.Problem)
  | value (fault : Fault)

def ScriptFault.message : ScriptFault → String
  | .digits fault => fault.message
  | .wire fault => fault.message
  | .file fault => fault.message
  | .grammar fault => fault.message
  | .problems found => Schema.report found
  | .value fault => fault.message?.getD ""

def scriptInDigits (digits : Text) : Except ScriptFault Script :=
  match Hexadecimal.parse digits with
  | .error fault => .error (.digits fault)
  | .ok bytes =>
    match Wire.decode (some Wire.instructionTable) bytes.toArray with
    | .error fault => .error (.wire fault)
    | .ok script => .ok script

def scriptInDocument (document : Document) : Except ScriptFault Script :=
  match Schema.scriptOf (some Schema.instructionNames) document with
  | .error (.problems found) => .error (.problems found)
  | .error (.fault fault) => .error (.value fault)
  | .ok script => .ok script

def scriptInFile (entryAt : String → Entry) (path : String) :
    Except ScriptFault Script :=
  match readFile entryAt path with
  | .error fault => .error (.file fault)
  | .ok text =>
    match Document.ofText false text with
    | .error fault => .error (.grammar fault)
    | .ok document => scriptInDocument document

/-- Journal lines on the reading of hexadecimal bytes. -/
def readingLines (digits : Text) : List String :=
  match Hexadecimal.parse digits with
  | .error _ => []
  | .ok bytes =>
    (Wire.decodingJournal (some Wire.instructionTable) bytes.toArray).map
      ("DEBUG:scriptful.codecs.simple.dec:" ++ ·)

def runningLines (config : Machine.Config) (script : Script)
    (machine : Machine) : List String :=
  (machine.journal config script).map ("DEBUG:scriptful.core.machine:" ++ ·)

/-! ## Decoding -/

def decode (verbose : Bool) (digits : Text) : Report :=
  let report :=
    match scriptInDigits digits with
    | .error (.digits fault) =>
      Report.failure ("Invalid hex input: " ++ fault.message)
    | .error fault => .failure fault.message
    | .ok script =>
      match Schema.documentOf script with
      | .ok document => .success [prettyDocument document]
      | .error fault => .crash fault.label
  report.afterJournal (if verbose then readingLines digits else [])

/-! ## Encoding -/

/-- Prints the script in a file as hexadecimal bytes.  Files that cannot be read
and documents beyond the limits of reading, showing and writing are not handled. -/
def encode (entryAt : String → Entry) (path : String) : Report :=
  match scriptInFile entryAt path with
  | .error (.file fault) => .crash fault.label
  | .error (.grammar fault) =>
    if fault.defect.isLimit then .crash fault.label
    else .failure fault.message
  | .error (.value fault) =>
    if fault.isDefined then .failure (fault.message?.getD "")
    else .crash fault.label
  | .error fault => .failure fault.message
  | .ok script =>
    match Wire.encode script with
    | .ok bytes => .success [Hexadecimal.print bytes.toList]
    | .error fault =>
      if fault.isDefined then .failure fault.message else .crash fault.label

/-! ## Running -/

/-- How a script is run. -/
structure RunSettings where
  hexadecimal : Bool
  maxStackSize : Option Int
  maxSteps : Option Int
  asDocument : Bool
deriving DecidableEq

/-- The script to run, from its hexadecimal bytes or from a file. -/
def scriptToRun (entryAt : String → Entry) (settings : RunSettings)
    (operand : String) : Except ScriptFault Script :=
  if settings.hexadecimal then scriptInDigits (Text.ofString operand)
  else scriptInFile entryAt operand

def record (entries : List (String × Document)) : Document :=
  .object (entries.map fun (key, value) => (Text.ofString key, value))

def natural (number : Nat) : Document := .integer number

def topDocument : Option Datum → Except Schema.PrintFault Document
  | some datum => Schema.elementOf (.datum datum)
  | none => .ok .null

/-- The report on a run that has ended in the given way.  Only defined failures
are handled, and only a script value can be shown as the topmost datum. -/
def runReport (asDocument : Bool) :
    EStateM.Result Fault Machine (Option Datum) → Report
  | .error fault machine =>
    let cause := fault.label ++ ": " ++ fault.message?.getD ""
    if !fault.isDefined then .crash fault.label
    else if asDocument then
      { Report.success [prettyDocument (record
          [("success", .boolean false),
            ("error", .string (Text.ofString cause)),
            ("steps", natural machine.steps)])] with code := 1 }
    else
      .failure (cause ++ " (after " ++ toString machine.steps ++ " steps)")
  | .ok top machine =>
    let length := machine.workspace.stack.length
    match topDocument top with
    | .error fault => .crash fault.label
    | .ok element =>
      if asDocument then
        .success [prettyDocument (record
          [("success", .boolean true), ("top", element),
            ("stack_length", natural length),
            ("steps", natural machine.steps)])]
      else
        .success ["✓ Execution successful",
          "  Top: " ++ top.elim "None" Datum.render,
          "  Stack length: " ++ toString length]

/-- The report that there is no script to run.  Documents that are nested too
deep are not handled. -/
def noScriptReport : ScriptFault → Report
  | .grammar fault =>
    if fault.defect.isDepth then .crash fault.label
    else .failure fault.message
  | fault => .failure fault.message

def run (entryAt : String → Entry) (verbose : Bool) (settings : RunSettings)
    (operand : String) : Report :=
  let reading :=
    if verbose && settings.hexadecimal then
      readingLines (Text.ofString operand)
    else []
  match scriptToRun entryAt settings operand with
  | .error fault => (noScriptReport fault).afterJournal reading
  | .ok script =>
    let config : Machine.Config :=
      { system := Calculator.system, maxSteps := settings.maxSteps }
    let machine := Machine.start settings.maxStackSize
    let running := if verbose then runningLines config script machine else []
    let ended := Machine.run config script machine
    (runReport settings.asDocument ended).afterJournal (reading ++ running)

/-! ## The command line -/

def programName : String := "main"

def decodeCommand (verbose : Bool) (arguments : List String) :
    Except UsageFault Report := do
  let arguments ← readArguments [] true arguments
  let digits ← arguments.operand "DATA"
  pure (decode verbose (Text.ofString digits))

/-- Runs `encode` with the given arguments.  The file has to exist; that is found
out before further operands are refused.  A string that is no path is not
handled. -/
def encodeCommand (entryAt : String → Entry) (arguments : List String) :
    Except UsageFault Report := do
  let arguments ← readArguments [] true arguments
  match arguments.operands with
  | [] => throw (.operandMissing "SCRIPT")
  | path :: others =>
    match entryAt path with
    | .notAPath => pure (.crash FileFault.notAPath.label)
    | .missing | .notAFolder | .overlong => throw (.pathMissing "SCRIPT" path)
    | .folder | .file _ =>
      if others.isEmpty then pure (encode entryAt path)
      else throw (.operandsLeft others)

def runChoices : List Choice :=
  [{ name := "--hex" }, { name := "--max-stack-size", takesValue := true },
    { name := "--max-steps", takesValue := true },
    { name := "--json-output", letter := some 'j' }]

/-- The settings and the operand that the arguments of `run` give. -/
def readRunArguments (arguments : List String) :
    Except UsageFault (RunSettings × String) := do
  let arguments ← readArguments runChoices true arguments
  if let some fault :=
      arguments.integerFault? ["--max-stack-size", "--max-steps"] then
    throw fault
  let operand ← arguments.operand "SCRIPT"
  let maxStackSize ← arguments.integer? "--max-stack-size"
  let maxSteps ← arguments.integer? "--max-steps"
  let settings : RunSettings :=
    { hexadecimal := arguments.has "--hex", maxStackSize := maxStackSize
      maxSteps := maxSteps, asDocument := arguments.has "--json-output" }
  pure (settings, operand)

def runCommand (entryAt : String → Entry) (verbose : Bool)
    (arguments : List String) : Except UsageFault Report :=
  (readRunArguments arguments).map fun (settings, operand) =>
    run entryAt verbose settings operand

/-- Gives the report of a command, or one of its wrong usage. -/
def finish (command synopsis : String) : Except UsageFault Report → Report
  | .ok report => report
  | .error fault => .usage command synopsis fault

def synopsis : String := "[OPTIONS] COMMAND [ARGS]..."

def generalChoices : List Choice :=
  [{ name := "--verbose", letter := some 'v' }]

def commandNames : List String := ["decode", "encode", "run"]

/-- Why the given words do not start with a command.  If they could have been
options, their fault as such is reported. -/
def commandFault (command : String) (arguments : List String) : UsageFault :=
  match readArguments generalChoices false (command :: arguments) with
  | .error fault => fault
  | .ok _ => .unknownCommand command (suggestions command commandNames)

/-- Runs the program with the given arguments, where `entryAt` tells what stands
at a path. -/
def execute (entryAt : String → Entry) (arguments : List String) : Report :=
  match readArguments generalChoices false arguments with
  | .error fault => .usage programName synopsis fault
  | .ok general =>
    let verbose := general.has "--verbose"
    match general.operands with
    | [] => .usage programName synopsis .commandMissing
    | command :: arguments =>
      let name := programName ++ " " ++ command
      match command with
      | "run" =>
        finish name "[OPTIONS] SCRIPT" (runCommand entryAt verbose arguments)
      | "encode" =>
        finish name "[OPTIONS] SCRIPT" (encodeCommand entryAt arguments)
      | "decode" =>
        finish name "[OPTIONS] DATA" (decodeCommand verbose arguments)
      | other => .usage programName synopsis (commandFault other arguments)

end CommandLine
end StackScript
