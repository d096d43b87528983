import StackScript.Binary64.Nearest
import StackScript.Document.Basic
import StackScript.Text.Numeral
import StackScript.Text.Utf8

/-!
# Reading documents

The grammar is that of JSON, with `NaN`, `Infinity` and `-Infinity` as further
numbers.  The reader works on the text that is left.  A failure says what was
expected and how much text was left there, from which the place in the whole
text follows.

A document can be read strictly.  Then surrogates stand in pairs only, the whole
part of every number is limited in length, not only that of an integer, and fewer
arrays and objects can be nested.
-/

namespace StackScript
namespace Document

/-- What is wrong with a text that is no document. -/
inductive Defect where
  | value
  | key
  | colon
  | comma
  | extraText
  | openText
  | control
  | escape
  | unitEscape
  | byteOrderMark
  | longInteger (digits : Nat)
  | deepArray
  | deepObject
deriving DecidableEq, Repr

/-- What is wrong, and how many code points are left from that place on. -/
structure Stop where
  defect : Defect
  left : Nat

/-- A step of reading gives what it has read and the text that is left. -/
abbrev Reading (α : Type) := Except Stop (α × Text)

def stopAt {α : Type} (defect : Defect) (text : Text) : Except Stop α :=
  .error ⟨defect, text.length⟩

/-- Blanks between the parts of a document. -/
def isBlank (point : CodePoint) : Bool :=
  point.val == 0x20 || point.val == 0x09 || point.val == 0x0A ||
    point.val == 0x0D

def skipBlanks (text : Text) : Text := text.dropWhile isBlank

def isChar (character : Char) (point : CodePoint) : Bool :=
  point == CodePoint.ofChar character

/-- The text behind the given words, if it starts with them. -/
def behind? (words : String) (text : Text) : Option Text :=
  let start := Text.ofString words
  if start.isPrefixOf text then some (text.drop start.length) else none

/-! ## Texts -/

/-- The code point of a 16-bit unit in four hexadecimal digits. -/
def unit? (first second third fourth : CodePoint) : Option CodePoint := do
  let first ← first.hexDigit?
  let second ← second.hexDigit?
  let third ← third.hexDigit?
  let fourth ← fourth.hexDigit?
  pure (Fin.ofNat 0x110000
    (first * 0x1000 + second * 0x100 + third * 0x10 + fourth))

/-- The code point of a letter behind a backslash. -/
def escaped? (letter : CodePoint) : Option CodePoint :=
  if isChar '"' letter || isChar '\\' letter || isChar '/' letter then
    some letter
  else if isChar 'b' letter then some 0x08
  else if isChar 'f' letter then some 0x0C
  else if isChar 'n' letter then some 0x0A
  else if isChar 'r' letter then some 0x0D
  else if isChar 't' letter then some 0x09
  else none

def consPoint (point : CodePoint) : Reading Text → Reading Text
  | .ok (text, rest) => .ok (point :: text, rest)
  | .error stop => .error stop

/-- Reads a text behind its opening quote; `opening` is the text from that quote
on.  The digits of a unit have to be followed by something. -/
def readUnits (opening : Text) : Text → Reading Text
  | [] => stopAt .openText opening
  | point :: rest =>
    if isChar '"' point then .ok ([], rest)
    else if point.val < 0x20 then .error ⟨.control, rest.length + 1⟩
    else if isChar '\\' point then
      match rest with
      | [] => stopAt .openText opening
      | letter :: rest =>
        if isChar 'u' letter then
          match rest with
          | first :: second :: third :: fourth :: next :: rest =>
            match unit? first second third fourth with
            | some unit => consPoint unit (readUnits opening (next :: rest))
            | none => .error ⟨.unitEscape, rest.length + 6⟩
          | _ => .error ⟨.unitEscape, rest.length + 1⟩
        else
          match escaped? letter with
          | some point => consPoint point (readUnits opening rest)
          | none => .error ⟨.escape, rest.length + 2⟩
    else consPoint point (readUnits opening rest)

def isHigh (point : CodePoint) : Bool :=
  0xD800 ≤ point.val && point.val < 0xDC00

def isLow (point : CodePoint) : Bool :=
  0xDC00 ≤ point.val && point.val < 0xE000

def joinPairs : Text → Text
  | high :: low :: rest =>
    if isHigh high && isLow low then
      Fin.ofNat 0x110000
        (0x10000 + (high.val - 0xD800) * 0x400 + (low.val - 0xDC00)) ::
        joinPairs rest
    else high :: joinPairs (low :: rest)
  | text => text

/-- Reads a text behind its opening quote.  Strict reading refuses surrogates
outside of pairs. -/
def readString (strict : Bool) (quote : CodePoint) (rest : Text) :
    Reading Text :=
  match readUnits (quote :: rest) rest with
  | .error stop => .error stop
  | .ok (units, behind) =>
    let text := joinPairs units
    if strict && text.any CodePoint.isSurrogate then stopAt .unitEscape rest
    else .ok (text, behind)

/-! ## Numbers -/

def decimalDigit? (point : CodePoint) : Option Nat :=
  if 0x30 ≤ point.val ∧ point.val ≤ 0x39 then some (point.val - 0x30)
  else none

def isDigit (point : CodePoint) : Bool := (decimalDigit? point).isSome

/-- The natural that decimal digits spell. -/
def natural (digits : Text) : Nat :=
  digits.foldl (fun value digit => 10 * value + (decimalDigit? digit).getD 0) 0

/-- Splits off the digits of a fraction behind its point; without digits the
point is not part of the number. -/
def splitFraction (text : Text) : Option (Text × Text) :=
  match text with
  | point :: rest =>
    let digits := rest.takeWhile isDigit
    if isChar '.' point && !digits.isEmpty then
      some (digits, rest.dropWhile isDigit)
    else none
  | [] => none

/-- Splits off an exponent; without digits its letter is not part of the
number. -/
def splitExponent (text : Text) : Option (Int × Text) :=
  match text with
  | letter :: rest =>
    if isChar 'e' letter || isChar 'E' letter then
      let (negative, rest) :=
        match rest with
        | sign :: behind =>
          if isChar '-' sign then (true, behind)
          else if isChar '+' sign then (false, behind)
          else (false, rest)
        | [] => (false, rest)
      let digits := rest.takeWhile isDigit
      if digits.isEmpty then none
      else
        let size : Int := natural digits
        some (if negative then -size else size, rest.dropWhile isDigit)
    else none
  | [] => none

/-- Whether the whole part of a number is too long.  Strict reading limits its
characters, where the sign is one of them. -/
def isLongWhole (strict negative isInteger : Bool) (whole : Text) : Bool :=
  if strict then Text.numeralLimit + 1 < negative.toNat + whole.length
  else isInteger && Text.numeralLimit < whole.length

/-- Reads what follows the whole part of a number.  `text` is the number from
its start, where a failure is reported. -/
def readRest (strict : Bool) (text : Text) (negative : Bool)
    (whole rest : Text) : Reading Document :=
  let (fraction, afterFraction) := (splitFraction rest).getD ([], rest)
  let exponent? := splitExponent afterFraction
  let isInteger := fraction.isEmpty && exponent?.isNone
  if isLongWhole strict negative isInteger whole then
    stopAt (.longInteger whole.length) text
  else if isInteger then
    let size : Int := natural whole
    .ok (.integer (if negative then -size else size), rest)
  else
    let (exponent, rest) := exponent?.getD (0, afterFraction)
    .ok (.float (Binary64.ofDecimal negative (natural (whole ++ fraction))
      (exponent - fraction.length)), rest)

/-- Reads a number.  Its whole part has no zero in front of other digits. -/
def readNumber (strict : Bool) (text : Text) : Reading Document :=
  let (negative, unsigned) :=
    match text with
    | sign :: rest => if isChar '-' sign then (true, rest) else (false, text)
    | [] => (false, text)
  match unsigned with
  | digit :: rest =>
    if isChar '0' digit then readRest strict text negative [digit] rest
    else if isDigit digit then
      readRest strict text negative (unsigned.takeWhile isDigit)
        (unsigned.dropWhile isDigit)
    else stopAt .value text
  | [] => stopAt .value text

/-! ## Documents -/

def words : List (String × Document) :=
  [("null", .null), ("true", .boolean true), ("false", .boolean false),
    ("NaN", .float Binary64.nan),
    ("Infinity", .float (Binary64.ofMagnitude false Binary64.infinityMagnitude)),
    ("-Infinity",
      .float (Binary64.ofMagnitude true Binary64.infinityMagnitude))]

def readScalar (strict : Bool) (text : Text) : Reading Document :=
  let word? := words.findSome? fun (word, document) =>
    (behind? word text).map fun rest => (document, rest)
  match word? with
  | some read => .ok read
  | none => readNumber strict text

/-- How many arrays and objects may be nested. -/
def depthLimit (strict : Bool) : Nat := if strict then 200 else 992

/-- Whether no further array or object can be opened where `room` of them may
still be nested.  Strict reading has room for an empty one everywhere. -/
def isFull (strict empty : Bool) (room : Nat) : Bool :=
  room == 0 && !(strict && empty)

mutual

/-- Reads a document.  The number of rounds bounds the reading; two for every code
point of the text are more than enough.  The room says how many arrays and
objects may still be nested. -/
def readDocument (strict : Bool) :
    (rounds room : Nat) → Text → Reading Document
  | 0, _, text => stopAt .value text
  | rounds + 1, room, text =>
    match text with
    | [] => stopAt .value text
    | point :: rest =>
      if isChar '"' point then
        (readString strict point rest).map fun (text, behind) =>
          (.string text, behind)
      else if isChar '[' point then
        let inside := skipBlanks rest
        if isFull strict (inside.head?.any (isChar ']')) room then
          stopAt .deepArray text
        else
          match inside with
          | next :: behind =>
            if isChar ']' next then .ok (.array [], behind)
            else
              (readElements strict rounds (room - 1) inside).map
                fun (elements, rest) => (.array elements, rest)
          | [] => stopAt .value inside
      else if isChar '\x7b' point then
        let inside := skipBlanks rest
        if isFull strict (inside.head?.any (isChar '\x7d')) room then
          stopAt .deepObject text
        else
          match inside with
          | next :: behind =>
            if isChar '\x7d' next then .ok (.object [], behind)
            else
              (readEntries strict rounds (room - 1) [] inside).map
                fun (entries, rest) => (.object entries, rest)
          | [] => stopAt .key inside
      else readScalar strict text

def readElements (strict : Bool) :
    (rounds room : Nat) → Text → Reading (List Document)
  | 0, _, text => stopAt .value text
  | rounds + 1, room, text =>
    match readDocument strict rounds room text with
    | .error stop => .error stop
    | .ok (element, rest) =>
      let rest := skipBlanks rest
      match rest with
      | point :: behind =>
        if isChar ']' point then .ok ([element], behind)
        else if isChar ',' point then
          (readElements strict rounds room (skipBlanks behind)).map
            fun (elements, rest) => (element :: elements, rest)
        else stopAt .comma rest
      | [] => stopAt .comma rest

/-- Reads the entries of an object up to its closing bracket, after those that
are given. -/
def readEntries (strict : Bool) :
    (rounds room : Nat) → List (Text × Document) → Text →
      Reading (List (Text × Document))
  | 0, _, _, text => stopAt .key text
  | rounds + 1, room, entries, text =>
    match text with
    | [] => stopAt .key text
    | quote :: rest =>
      if !isChar '"' quote then stopAt .key text
      else
        match readString strict quote rest with
        | .error stop => .error stop
        | .ok (key, rest) =>
          let rest := skipBlanks rest
          match rest with
          | [] => stopAt .colon rest
          | colon :: rest' =>
            if !isChar ':' colon then stopAt .colon rest
            else
              match readDocument strict rounds room (skipBlanks rest') with
              | .error stop => .error stop
              | .ok (value, rest) =>
                let entries := setEntry key value entries
                let rest := skipBlanks rest
                match rest with
                | [] => stopAt .comma rest
                | point :: behind =>
                  if isChar '\x7d' point then .ok (entries, behind)
                  else if isChar ',' point then
                    readEntries strict rounds room entries (skipBlanks behind)
                  else stopAt .comma rest

end

/-- Whether a defect is one of a limit, not of the grammar. -/
def Defect.isLimit : Defect → Bool
  | .longInteger _ | .deepArray | .deepObject => true
  | _ => false

def Defect.isDepth : Defect → Bool
  | .deepArray | .deepObject => true
  | _ => false

/-- Where a text is no document: the number of code points before that place,
and its line and column, counted from one. -/
structure SyntaxFault where
  defect : Defect
  position : Nat
  line : Nat
  column : Nat
deriving DecidableEq, Repr

namespace SyntaxFault

/-- The place at the given position of a text. -/
def locate (defect : Defect) (text : Text) (position : Nat) : SyntaxFault :=
  let before := text.take position
  let line := before.countP (isChar '\n')
  let lastLine := before.reverse.takeWhile fun point => !isChar '\n' point
  let column := lastLine.length
  ⟨defect, position, line + 1, column + 1⟩

def complaint : Defect → String
  | .value => "Expecting value"
  | .key => "Expecting property name enclosed in double quotes"
  | .colon => "Expecting ':' delimiter"
  | .comma => "Expecting ',' delimiter"
  | .extraText => "Extra data"
  | .openText => "Unterminated string starting at"
  | .control => "Invalid control character at"
  | .escape => "Invalid \\escape"
  | .unitEscape => "Invalid \\uXXXX escape"
  | .byteOrderMark => "Unexpected UTF-8 BOM (decode using utf-8-sig)"
  | .longInteger digits =>
    "Exceeds the limit (" ++ toString Text.numeralLimit ++
      " digits) for integer string conversion: value has " ++ toString digits ++
      " digits; use sys.set_int_max_str_digits() to increase the limit"
  | .deepArray =>
    "maximum recursion depth exceeded while decoding a JSON array from a " ++
      "unicode string"
  | .deepObject =>
    "maximum recursion depth exceeded while decoding a JSON object from a " ++
      "unicode string"

/-- What is wrong and where, in words.  A limit is reported without a place. -/
def message (fault : SyntaxFault) : String :=
  if fault.defect.isLimit then complaint fault.defect
  else
    complaint fault.defect ++ ": line " ++ toString fault.line ++ " column " ++
      toString fault.column ++ " (char " ++ toString fault.position ++ ")"

def label (fault : SyntaxFault) : String :=
  match fault.defect with
  | .longInteger _ => "ValueError"
  | .deepArray | .deepObject => "RecursionError"
  | _ => "JSONDecodeError"

end SyntaxFault

/-- Reads the document that a text is. -/
def ofText (strict : Bool) (text : Text) : Except SyntaxFault Document :=
  let fault (stop : Stop) : SyntaxFault :=
    SyntaxFault.locate stop.defect text (text.length - stop.left)
  if text.head?.any fun point => point.val == 0xFEFF then
    .error (SyntaxFault.locate .byteOrderMark text 0)
  else
    match readDocument strict (2 * text.length + 2) (depthLimit strict)
        (skipBlanks text) with
    | .error stop => .error (fault stop)
    | .ok (document, rest) =>
      let rest := skipBlanks rest
      if rest.isEmpty then .ok document
      else .error (fault ⟨.extraText, rest.length⟩)

/-- Reads a document strictly; a failure has no details. -/
def ofTextStrict? (text : Text) : Option Document :=
  (ofText true text).toOption

/-- Reads a document strictly from the bytes of its text. -/
def ofBytesStrict? (bytes : List UInt8) : Option Document :=
  match Utf8.decode bytes with
  | .ok text => ofTextStrict? text
  | .error _ => none

end Document
end StackScript
