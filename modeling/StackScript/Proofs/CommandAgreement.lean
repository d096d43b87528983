import StackScript.Proofs.DocumentLines
import StackScript.Proofs.DocumentRoundTrip
import StackScript.Proofs.HexadecimalSpelling
import StackScript.Proofs.WireRoundTrip

/-!
# Commands on documents and on digits

A script reaches the program as a document in a file or as hexadecimal digits.  Once
a document is accepted for a script and the script is encoded, the digits of its bytes
lead back to that script, however they are spelled.  So the commands cannot tell the
two apart: they run the same script, and what is decoded is printed as the document
of the script.
-/

namespace StackScript

namespace Wire

/-! ## Calculations on the wire -/

/-- The table of instructions knows whatever calculation has a form. -/
theorem portable_of_form {item : Item} {form : List UInt8} (isForm : Form item form)
    (calculation : item.IsCalculation) : Portable instructionTable item := by
  cases calculation with
  | instruction known => exact portable_instruction known
  | value held =>
      cases isForm with
      | boolean | float | integer => trivial
      | emptyText => exact ⟨by decide, by decide⟩
      | text nonempty encoded countable =>
          obtain ⟨wellFormed, rfl⟩ := Utf8.encode_eq_ok_iff.mp encoded
          exact ⟨wellFormed, countable⟩

theorem portable_of_forms {script : Script} {forms : List UInt8}
    (areForms : Concatenation Form script forms)
    (calculations : ∀ item ∈ script, item.IsCalculation) :
    ∀ item ∈ script, Portable instructionTable item := by
  induction areForms with
  | nil => simp
  | cons isForm others ih =>
      obtain ⟨first, rest⟩ := List.forall_mem_cons.mp calculations
      exact List.forall_mem_cons.mpr ⟨portable_of_form isForm first, ih rest⟩

/-- Calculations that can be encoded come back. -/
theorem decode_of_encode {script : Script} {bytes : Array UInt8}
    (calculations : ∀ item ∈ script, item.IsCalculation)
    (encoded : encode script = .ok bytes) :
    decode (some instructionTable) bytes = .ok script := by
  obtain ⟨forms, areForms, formChunks⟩ := exists_forms_of_portable
    (portable_of_forms (encode_eq_ok_iff.mp encoded) calculations)
  rw [encode_of_forms areForms] at encoded
  cases encoded
  exact decode_eq_ok_iff.mpr formChunks

end Wire

namespace CommandLine

variable {entryAt : String → Entry} {path operand : String} {document : Document}
  {script : Script} {bytes : Array UInt8} {settings : RunSettings}

/-- The file at the path holds the document. -/
def HoldsDocument (entryAt : String → Entry) (path : String)
    (document : Document) : Prop :=
  ∃ text, readFile entryAt path = .ok text ∧
    Document.ofText false text = .ok document

/-- The operand spells the bytes in hexadecimal digits. -/
abbrev SpellsBytes (operand : String) (bytes : Array UInt8) : Prop :=
  Hexadecimal.Spelling (Hexadecimal.print bytes.toList).toList
    (Text.ofString operand)

/-! ## The script to work on -/

theorem scriptInDigits_of_spellsBytes
    (calculations : ∀ item ∈ script, item.IsCalculation)
    (encoded : Wire.encode script = .ok bytes)
    (spells : SpellsBytes operand bytes) :
    scriptInDigits (Text.ofString operand) = .ok script := by
  have parsed := Hexadecimal.parse_of_spelling spells
  have decoded := Wire.decode_of_encode calculations encoded
  simp only [scriptInDigits, parsed, decoded, Array.toArray_toList]

theorem scriptInFile_of_holdsDocument (holds : HoldsDocument entryAt path document)
    (accepted : Schema.scriptOf (some Schema.instructionNames) document =
      .ok script) :
    scriptInFile entryAt path = .ok script := by
  obtain ⟨text, read, parsed⟩ := holds
  simp only [scriptInFile, read, parsed, scriptInDocument, accepted]

/-! ## Commands on a known script -/

/-- How a script ends under the limits of the settings. -/
def RunSettings.outcome (settings : RunSettings) (script : Script) :
    EStateM.Result Fault Machine (Option Datum) :=
  Machine.run { system := Calculator.system, maxSteps := settings.maxSteps }
    script (Machine.start settings.maxStackSize)

/-- The journal of a run under the limits of the settings. -/
def RunSettings.journal (settings : RunSettings) (script : Script) : List String :=
  runningLines { system := Calculator.system, maxSteps := settings.maxSteps }
    script (Machine.start settings.maxStackSize)

theorem run_of_scriptInFile (verbose : Bool)
    (fromFile : settings.hexadecimal = false)
    (found : scriptInFile entryAt path = .ok script) :
    run entryAt verbose settings path =
      (runReport settings.asDocument (settings.outcome script)).afterJournal
        (if verbose then settings.journal script else []) := by
  simp [run, scriptToRun, fromFile, found, RunSettings.outcome,
    RunSettings.journal]

theorem run_of_scriptInDigits (verbose : Bool)
    (fromDigits : settings.hexadecimal = true)
    (found : scriptInDigits (Text.ofString operand) = .ok script) :
    run entryAt verbose settings operand =
      (runReport settings.asDocument (settings.outcome script)).afterJournal
        (if verbose then
          readingLines (Text.ofString operand) ++ settings.journal script
        else []) := by
  cases verbose <;>
    simp [run, scriptToRun, fromDigits, found, RunSettings.outcome,
      RunSettings.journal]

/-- A document that is accepted for a script and any spelling of the bytes of the
script are interchangeable.  The spelling is read as the bytes, `encode` prints them
for a file with the document, and `run` reports the same end of the same script for
the file and for the spelling, whatever the limits; only the journal tells that digits
were read.  `decode` prints the document of the script line by line. -/
theorem document_and_digits_agree
    (accepted : Schema.scriptOf (some Schema.instructionNames) document =
      .ok script)
    (encoded : Wire.encode script = .ok bytes)
    (spells : SpellsBytes operand bytes) :
    Hexadecimal.parse (Text.ofString operand) = .ok bytes.toList ∧
    scriptInDigits (Text.ofString operand) = .ok script ∧
    scriptInDocument document = .ok script ∧
    (∀ entryAt path, HoldsDocument entryAt path document →
      encode entryAt path = .success [Hexadecimal.print bytes.toList] ∧
      ∀ (verbose : Bool) (settings : RunSettings),
        run entryAt verbose { settings with hexadecimal := false } path =
          (runReport settings.asDocument (settings.outcome script)).afterJournal
            (if verbose then settings.journal script else []) ∧
        run entryAt verbose { settings with hexadecimal := true } operand =
          (runReport settings.asDocument (settings.outcome script)).afterJournal
            (if verbose then
              readingLines (Text.ofString operand) ++ settings.journal script
            else [])) ∧
    ∃ printed, Schema.documentOf script = .ok printed ∧
      prettyDocument printed = "\n".intercalate printed.lines ∧
      (∀ line ∈ printed.lines, IsLine line) ∧
      ∀ verbose, decode verbose (Text.ofString operand) =
        (Report.success [prettyDocument printed]).afterJournal
          (if verbose then readingLines (Text.ofString operand) else []) := by
  have calculations := Schema.isCalculation_of_scriptOf accepted
  have inDigits := scriptInDigits_of_spellsBytes calculations encoded spells
  refine ⟨Hexadecimal.parse_of_spelling spells, inDigits, ?_, ?_, ?_⟩
  · simp only [scriptInDocument, accepted]
  · intro entryAt path holds
    have inFile := scriptInFile_of_holdsDocument holds accepted
    refine ⟨?_, ?_⟩
    · simp only [encode, inFile, encoded]
    · intro verbose settings
      exact ⟨run_of_scriptInFile verbose rfl inFile,
        run_of_scriptInDigits verbose rfl inDigits⟩
  · obtain ⟨printed, documentEq, _⟩ :=
      Schema.exists_document_of_calculations calculations
    refine ⟨printed, documentEq, printed.prettyDocument_eq, printed.isLine_lines, ?_⟩
    intro verbose
    simp only [decode, inDigits, documentEq]

/-- A file with the text `[{"float":2},{"str_":"€"},{"op":"Dup"}]`, where a
floating-point number is written as an integer and a key in its other spelling, and its
bytes in digits of both cases with blanks in front, behind, between and inside bytes. -/
theorem document_and_digits_agree_blanks :
    let text : Text :=
      [0x5B, 0x7B, 0x22, 0x66, 0x6C, 0x6F, 0x61, 0x74, 0x22, 0x3A, 0x32, 0x7D, 0x2C,
        0x7B, 0x22, 0x73, 0x74, 0x72, 0x5F, 0x22, 0x3A, 0x22, 0x20AC, 0x22, 0x7D,
        0x2C, 0x7B, 0x22, 0x6F, 0x70, 0x22, 0x3A, 0x22, 0x44, 0x75, 0x70, 0x22, 0x7D,
        0x5D]
    let entryAt : String → Entry := fun _ => .file (text.flatMap Utf8.encodePoint)
    let document : Document :=
      .array [.object [(Schema.fieldKey .float, .integer 2)],
        .object [(Schema.otherFieldKey .string, .string [0x20AC])],
        .object [(Schema.operatorKey, .string (Text.ofString "Dup"))]]
    let script : Script :=
      [.value (.float ⟨0x4000000000000000⟩), .value (.string [0x20AC]),
        .instruction .dup]
    let bytes : Array UInt8 :=
      #[0x02, 0, 0, 0, 0, 0, 0, 0, 0x40, 0x14, 0x03, 0xE2, 0x82, 0xAC, 0x8A]
    let operand := " 02 00000000000000 40\t1403E282A\u3000c 8a\n"
    Schema.scriptOf (some Schema.instructionNames) document = .ok script ∧
    Wire.encode script = .ok bytes ∧ SpellsBytes operand bytes ∧
    HoldsDocument entryAt "script" document ∧
    ∀ settings : RunSettings,
      run entryAt false { settings with hexadecimal := false } "script" =
        run entryAt false { settings with hexadecimal := true } operand := by
  intro text entryAt document script bytes operand
  have accepted : Schema.scriptOf (some Schema.instructionNames) document =
      .ok script := by
    have checked : Schema.check (some Schema.instructionNames) .tree
        (fun _ => none) document = .ok [.floatOfInteger 2, .string [0x20AC],
          .operator (.instruction .dup)] := rfl
    have built : Schema.toItems [.floatOfInteger 2, .string [0x20AC],
        .operator (.instruction .dup)] = .ok script := rfl
    calc Schema.scriptOf (some Schema.instructionNames) document
        = Schema.finish (Schema.check (some Schema.instructionNames) .tree
            (fun _ => none) document) := by
          simp only [Schema.scriptOf, document, Schema.scriptOfResolved]
      _ = .ok script := by rw [checked, Schema.finish, built]
  have encoded : Wire.encode script = .ok bytes := rfl
  have spells : SpellsBytes operand bytes := by decide +kernel
  have holds : HoldsDocument entryAt "script" document := ⟨text, rfl, rfl⟩
  obtain ⟨_, _, _, agree, _⟩ := document_and_digits_agree accepted encoded spells
  refine ⟨accepted, encoded, spells, holds, ?_⟩
  intro settings
  obtain ⟨fromFile, fromDigits⟩ := (agree entryAt "script" holds).2 false settings
  rw [fromFile, fromDigits]
  rfl

end CommandLine

end StackScript
