import StackScript.Text.Quoted
import StackScript.Text.Utf8

/-!
# Files on the command line

Commands read files by their paths.  What stands at a path is given from
outside, so that the commands themselves are functions.  A path is walked name by
name: every name but the last has to be that of a folder, and two points lead to
the folder outside.
-/

namespace StackScript
namespace CommandLine

/-- What stands at a path. -/
inductive Entry where
  | missing
  | folder
  | file (bytes : List UInt8)
  | notAFolder
  /-- The path or a name in it is longer than it can be. -/
  | overlong
  /-- The path has the null character in it, which no path has. -/
  | notAPath

def hasNull (string : String) : Bool := string.toList.contains '\x00'

/-- The files and folders inside a folder, by their paths from there. -/
structure Folder where
  files : List (String × List UInt8) := []
  folders : List String := []

/-- Where a walk along a path has come to. -/
inductive Place where
  /-- A folder inside the one in which the walk started, given by the names on
  the way, the last one first. -/
  | inside (names : List String)
  /-- A folder outside, of which nothing more is known. -/
  | outside

def Place.around : Place → Place
  | .inside (_ :: names) => .inside names
  | .inside [] | .outside => .outside

namespace Folder

def nameLimit : Nat := 255

def pathLimit : Nat := 4095

/-- Whether a folder stands at a path: one that is listed, or one on the way to
something that is listed. -/
def hasFolder (folder : Folder) (path : String) : Bool :=
  let listed := folder.folders ++ folder.files.map Prod.fst
  folder.folders.contains path ||
    listed.any fun other => other.startsWith (path ++ "/")

/-- What stands behind the given names.  An empty name, as behind a stroke at the
end, and a single point stay where they are. -/
def walk (folder : Folder) (place : Place) : List String → Entry
  | [] => .folder
  | name :: rest =>
    if name = "" || name = "." then folder.walk place rest
    else if name = ".." then folder.walk place.around rest
    else if nameLimit < name.utf8ByteSize then .overlong
    else
      match place with
      | .outside => .missing
      | .inside names =>
        let path := "/".intercalate (name :: names).reverse
        if folder.hasFolder path then
          folder.walk (.inside (name :: names)) rest
        else
          match folder.files.lookup path with
          | none => .missing
          | some bytes => if rest.isEmpty then .file bytes else .notAFolder

/-- What stands at a path that starts in the folder, or outside of it if it
starts with a stroke. -/
def entry (folder : Folder) (path : String) : Entry :=
  if hasNull path then .notAPath
  else if path = "" then .missing
  else if pathLimit < path.utf8ByteSize then .overlong
  else
    folder.walk (if path.startsWith "/" then .outside else .inside [])
      (path.splitOn "/")

end Folder

/-- Why a file gives no text. -/
inductive FileFault where
  | missing (path : String)
  | folder (path : String)
  | notAFolder (path : String)
  | overlong (path : String)
  | notAPath
  | notText (fault : Utf8.Fault)

namespace FileFault

def message : FileFault → String
  | .missing path =>
    "[Errno 2] No such file or directory: " ++ (Text.ofString path).quoted
  | .folder path => "[Errno 21] Is a directory: " ++ (Text.ofString path).quoted
  | .notAFolder path =>
    "[Errno 20] Not a directory: " ++ (Text.ofString path).quoted
  | .overlong path => "[Errno 36] File name too long: " ++
    (Text.ofString path).quoted
  | .notAPath => "embedded null byte"
  | .notText fault => fault.message

def label : FileFault → String
  | .missing _ => "FileNotFoundError"
  | .folder _ => "IsADirectoryError"
  | .notAFolder _ => "NotADirectoryError"
  | .overlong _ => "OSError"
  | .notAPath => "ValueError"
  | .notText _ => "UnicodeDecodeError"

end FileFault

/-- Ends every line with a line feed. -/
def uniformLines : Text → Text
  | [] => []
  | point :: rest =>
    if point = CodePoint.ofChar '\r' then
      match rest with
      | [] => [CodePoint.ofChar '\n']
      | next :: others =>
        if next = CodePoint.ofChar '\n' then next :: uniformLines others
        else CodePoint.ofChar '\n' :: uniformLines (next :: others)
    else point :: uniformLines rest

def readFile (entryAt : String → Entry) (path : String) :
    Except FileFault Text :=
  match entryAt path with
  | .missing => .error (.missing path)
  | .folder => .error (.folder path)
  | .notAFolder => .error (.notAFolder path)
  | .overlong => .error (.overlong path)
  | .notAPath => .error .notAPath
  | .file bytes =>
    match Utf8.decode bytes with
    | .ok text => .ok (uniformLines text)
    | .error fault => .error (.notText fault)

end CommandLine
end StackScript
