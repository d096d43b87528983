import StackScript.CommandLine.Commands

/-!
# The program

Looks up the paths among the arguments, runs the command and prints its report.
-/

namespace StackScript

/-- What stands at a path of the file system.  A folder can be opened but not
read; a path through a file fails on opening, where the error names it. -/
def entryOnDisk (path : String) : IO CommandLine.Entry := do
  if CommandLine.hasNull path then return .notAPath
  try
    let bytes ← IO.FS.readBinFile path
    return .file bytes.toList
  catch fault =>
    match fault with
    | .inappropriateType (some _) .. => return .notAFolder
    | .inappropriateType .. => return .folder
    | .invalidArgument .. => return .overlong
    | _ => return .missing

end StackScript

open StackScript in
/-- Runs a command and ends with the code of its report. -/
def main (arguments : List String) : IO UInt32 := do
  let entries ← arguments.mapM fun path => do
    return (path, ← entryOnDisk path)
  let entryAt (path : String) : CommandLine.Entry :=
    (entries.lookup path).getD .missing
  let report := CommandLine.execute entryAt arguments
  IO.print report.output
  IO.eprint report.errors
  if let some label := report.unhandled then
    IO.eprintln label
  return report.code.toUInt32
