import StackScript.CommandLine.Commands

/-!
# The lines of a printed document

A printed document has its scalars, its empty arrays and its empty objects on one line
each.  Other arrays and objects have their brackets on lines of their own and the lines of
their parts between them, two blanks further in.  A comma ends every part but the last,
and the key of an entry stands on the first line of its value.

`Document.lines` says so line by line.  The writer never sees a line: it takes the level
of indentation along and puts a line break wherever a part starts.
-/

namespace StackScript
namespace Document

/-! ## Lines of parts -/

/-- Puts a mark in front of the first line. -/
def openWith (mark : String) : List String → List String
  | [] => []
  | line :: rest => (mark ++ line) :: rest

/-- Puts a mark behind the last line. -/
def closeWith (mark : String) : List String → List String
  | [] => []
  | [line] => [line ++ mark]
  | line :: next :: rest => line :: closeWith mark (next :: rest)

/-- The lines of all parts, with a comma behind every part but the last. -/
def separated : List (List String) → List String
  | [] => []
  | [part] => part
  | part :: next :: rest => closeWith "," part ++ separated (next :: rest)

def enclosed (left right : String) (parts : List (List String)) : List String :=
  if parts.isEmpty then [left ++ right]
  else left :: (separated parts).map ("  " ++ ·) ++ [right]

mutual

/-- The lines of a document. -/
def lines : Document → List String
  | .array elements => enclosed "[" "]" (linesOfAll elements)
  | .object entries => enclosed "\x7b" "\x7d" (linesOfEntries entries)
  | scalar => [scalar.write .line]

def linesOfAll : List Document → List (List String)
  | [] => []
  | element :: rest => element.lines :: linesOfAll rest

def linesOfEntries : List (Text × Document) → List (List String)
  | [] => []
  | (key, value) :: rest =>
    openWith (writeText key ++ ": ") value.lines :: linesOfEntries rest

end

/-! ## There is always a line -/

theorem openWith_ne_nil (mark : String) {lines : List String} (nonempty : lines ≠ []) :
    openWith mark lines ≠ [] := by
  cases lines with
  | nil => exact absurd rfl nonempty
  | cons line rest => exact List.cons_ne_nil _ _

theorem closeWith_ne_nil (mark : String) {lines : List String} (nonempty : lines ≠ []) :
    closeWith mark lines ≠ [] := by
  fun_cases closeWith mark lines with
  | case1 => exact absurd rfl nonempty
  | case2 | case3 => exact List.cons_ne_nil _ _

theorem separated_ne_nil {parts : List (List String)} (nonempty : parts ≠ [])
    (hasLines : ∀ part ∈ parts, part ≠ []) : separated parts ≠ [] := by
  fun_cases separated parts with
  | case1 => exact absurd rfl nonempty
  | case2 part => exact hasLines part (List.mem_singleton_self part)
  | case3 part next rest =>
      have closed := closeWith_ne_nil "," (hasLines part List.mem_cons_self)
      exact List.append_ne_nil_of_left_ne_nil closed _

theorem enclosed_ne_nil (left right : String) (parts : List (List String)) :
    enclosed left right parts ≠ [] := by
  rw [enclosed]
  split <;> exact List.cons_ne_nil _ _

theorem lines_ne_nil (document : Document) : document.lines ≠ [] := by
  cases document with
  | array elements => exact enclosed_ne_nil _ _ _
  | object entries => exact enclosed_ne_nil _ _ _
  | _ => exact List.cons_ne_nil _ _

theorem linesOfAll_ne_nil (elements : List Document) :
    ∀ part ∈ linesOfAll elements, part ≠ [] := by
  induction elements with
  | nil => exact List.forall_mem_nil _
  | cons element rest ih => exact List.forall_mem_cons.mpr ⟨element.lines_ne_nil, ih⟩

theorem linesOfEntries_ne_nil (entries : List (Text × Document)) :
    ∀ part ∈ linesOfEntries entries, part ≠ [] := by
  induction entries with
  | nil => exact List.forall_mem_nil _
  | cons entry rest ih =>
      exact List.forall_mem_cons.mpr ⟨openWith_ne_nil _ entry.2.lines_ne_nil, ih⟩

/-! ## Joining lines -/

section Joining

variable (separator : String) {lines : List String} {parts : List (List String)}

theorem intercalate_openWith (mark : String) (nonempty : lines ≠ []) :
    separator.intercalate (openWith mark lines) =
      mark ++ separator.intercalate lines := by
  cases lines with
  | nil => exact absurd rfl nonempty
  | cons line rest => exact String.intercalate_cons_append

theorem intercalate_closeWith (mark : String) (nonempty : lines ≠ []) :
    separator.intercalate (closeWith mark lines) =
      separator.intercalate lines ++ mark := by
  fun_induction closeWith mark lines with
  | case1 => exact absurd rfl nonempty
  | case2 line => simp only [String.intercalate_singleton]
  | case3 line next rest ih =>
      have closed := closeWith_ne_nil mark (List.cons_ne_nil next rest)
      rw [String.intercalate_cons_of_ne_nil closed, ih (List.cons_ne_nil _ _),
        String.intercalate_cons_cons, String.append_assoc, String.append_assoc,
        String.append_assoc]

theorem intercalate_separated (hasLines : ∀ part ∈ parts, part ≠ []) :
    separator.intercalate (separated parts) =
      ("," ++ separator).intercalate (parts.map separator.intercalate) := by
  fun_induction separated parts with
  | case1 => simp only [List.map_nil, String.intercalate_nil]
  | case2 part => simp only [List.map_cons, List.map_nil, String.intercalate_singleton]
  | case3 part next rest ih =>
      obtain ⟨partHas, restHave⟩ := List.forall_mem_cons.mp hasLines
      have closed := closeWith_ne_nil "," partHas
      have others := separated_ne_nil (List.cons_ne_nil next rest) restHave
      simp only [String.intercalate_append_of_ne_nil closed others,
        intercalate_closeWith separator "," partHas, ih restHave, List.map_cons,
        String.intercalate_cons_cons, String.append_assoc]

end Joining

theorem lineStart_succ (level : Nat) :
    Layout.lineStart (level + 1) = Layout.lineStart level ++ "  " := by
  have blanks : "  " = String.ofList (List.replicate 2 ' ') := rfl
  simp only [Layout.lineStart, blanks, Nat.mul_succ, ← List.replicate_append_replicate,
    String.ofList_append, String.append_assoc]

theorem intercalate_indented (level : Nat) {lines : List String} (nonempty : lines ≠ []) :
    (Layout.lineStart level).intercalate (lines.map ("  " ++ ·)) =
      "  " ++ (Layout.lineStart (level + 1)).intercalate lines := by
  induction lines with
  | nil => exact absurd rfl nonempty
  | cons line rest ih =>
      cases rest with
      | nil => simp only [List.map_cons, List.map_nil, String.intercalate_singleton]
      | cons next rest =>
          have others := ih (List.cons_ne_nil next rest)
          rw [List.map_cons] at others
          rw [List.map_cons, List.map_cons, String.intercalate_cons_cons, others,
            String.intercalate_cons_cons, lineStart_succ]
          simp only [String.append_assoc]

/-! ## The printed text -/

theorem enclose_eq_intercalate (level : Nat) (left right : String)
    {parts : List (List String)} (hasLines : ∀ part ∈ parts, part ≠ []) :
    (Layout.block level).enclose left right
        (parts.map (Layout.lineStart (level + 1)).intercalate) =
      (Layout.lineStart level).intercalate (enclosed left right parts) := by
  cases parts with
  | nil => exact String.intercalate_singleton.symm
  | cons part rest =>
      have inside := separated_ne_nil (List.cons_ne_nil part rest) hasLines
      have indented : (separated (part :: rest)).map ("  " ++ ·) ≠ [] := by
        simpa using inside
      have isCons : (part :: rest).isEmpty = false := rfl
      rw [enclosed, isCons, if_neg Bool.false_ne_true, List.cons_append,
        String.intercalate_cons_of_ne_nil (List.append_ne_nil_of_left_ne_nil indented _),
        String.intercalate_append_of_ne_nil indented (List.cons_ne_nil _ _),
        intercalate_indented level inside, intercalate_separated _ hasLines,
        String.intercalate_singleton]
      simp only [Layout.enclose, List.map_cons, List.isEmpty_cons, Bool.false_eq_true,
        if_false, lineStart_succ, String.append_assoc]

mutual

theorem write_block (level : Nat) : (document : Document) →
    document.write (.block level) =
      (Layout.lineStart level).intercalate document.lines
  | .array elements => by
      rw [write, lines, Layout.inner, writeAll_block,
        enclose_eq_intercalate level _ _ (linesOfAll_ne_nil elements)]
  | .object entries => by
      rw [write, lines, Layout.inner, writeEntries_block,
        enclose_eq_intercalate level _ _ (linesOfEntries_ne_nil entries)]
  | .null | .boolean _ | .integer _ | .float _ | .string _ =>
      String.intercalate_singleton.symm

theorem writeAll_block (level : Nat) : (elements : List Document) →
    writeAll (.block level) elements =
      (linesOfAll elements).map (Layout.lineStart level).intercalate
  | [] => rfl
  | element :: rest => by
      rw [writeAll, linesOfAll, List.map_cons, write_block, writeAll_block]

theorem writeEntries_block (level : Nat) : (entries : List (Text × Document)) →
    writeEntries (.block level) entries =
      (linesOfEntries entries).map (Layout.lineStart level).intercalate
  | [] => rfl
  | (key, value) :: rest => by
      rw [writeEntries, linesOfEntries, List.map_cons, write_block, writeEntries_block,
        intercalate_openWith _ _ value.lines_ne_nil]

end

end Document

/-! ## Line breaks -/

/-- The string stays on one line. -/
def IsLine (string : String) : Prop := '\n' ∉ string.toList

instance (string : String) : Decidable (IsLine string) :=
  inferInstanceAs (Decidable ('\n' ∉ string.toList))

section Lines

variable {first second : String}

theorem IsLine.append (firstHolds : IsLine first) (secondHolds : IsLine second) :
    IsLine (first ++ second) := by
  rw [IsLine, String.toList_append, List.mem_append, not_or]
  exact ⟨firstHolds, secondHolds⟩

theorem isLine_ofList {characters : List Char} (holds : '\n' ∉ characters) :
    IsLine (String.ofList characters) := by
  rwa [IsLine, String.toList_ofList]

theorem isLine_join {strings : List String} (hold : ∀ string ∈ strings, IsLine string) :
    IsLine (String.join strings) := by
  rw [IsLine, String.toList_join, List.mem_flatMap]
  rintro ⟨string, member, holds⟩
  exact hold string member holds

theorem isLine_ite {condition : Prop} [Decidable condition]
    (firstHolds : condition → IsLine first) (secondHolds : ¬condition → IsLine second) :
    IsLine (if condition then first else second) := by
  split
  · next holds => exact firstHolds holds
  · next fails => exact secondHolds fails

theorem newline_ne_digitChar (digit : Nat) : '\n' ≠ digit.digitChar := by
  rcases Nat.lt_or_ge digit 16 with small | large
  · exact (by decide : ∀ digit < 16, '\n' ≠ Nat.digitChar digit) digit small
  · have starred : digit.digitChar = '*' := by
      unfold Nat.digitChar
      repeat rw [if_neg (by omega)]
    rw [starred]
    decide

theorem newline_not_mem_toDigits {base : Nat} (binary : 1 < base) (number : Nat) :
    '\n' ∉ Nat.toDigits base number := by
  induction number using Nat.strongRecOn with
  | ind number ih =>
      rcases Nat.lt_or_ge number base with short | long
      · rw [Nat.toDigits_of_lt_base short, List.mem_singleton]
        exact newline_ne_digitChar number
      · have smaller : number / base < number := Nat.div_lt_self (by omega) binary
        rw [Nat.toDigits_of_base_le binary long, List.mem_append, List.mem_singleton,
          not_or]
        exact ⟨ih _ smaller, newline_ne_digitChar _⟩

theorem newline_not_mem_zeros (count : Nat) : '\n' ∉ List.replicate count '0' :=
  fun member => absurd (List.eq_of_mem_replicate member) (by decide)

theorem isLine_hexadecimal (width number : Nat) : IsLine (hexadecimal width number) := by
  apply isLine_ofList
  rw [List.mem_append, not_or]
  exact ⟨newline_not_mem_zeros _, newline_not_mem_toDigits (by decide) number⟩

theorem isLine_repr (number : Int) : IsLine (toString number) := by
  have digits (magnitude : Nat) : IsLine magnitude.repr := by
    rw [IsLine, Nat.toList_repr]
    exact newline_not_mem_toDigits (by decide) magnitude
  cases number with
  | ofNat magnitude => exact digits magnitude
  | negSucc magnitude => exact .append (by decide) (digits magnitude.succ)

theorem isLine_escapedUnit (unit : Nat) : IsLine (CodePoint.escapedUnit unit) :=
  .append (by decide) (isLine_hexadecimal 4 unit)

theorem isLine_printable {number : Nat} (printable : 0x20 ≤ number ∧ number < 0x7F) :
    IsLine (Char.ofNat number).toString := by
  have others : ∀ number < 0x7F, 0x20 ≤ number → '\n' ≠ Char.ofNat number := by decide
  rw [IsLine, Char.toString, String.toList_singleton, List.mem_singleton]
  exact others number printable.2 printable.1

theorem isLine_inDocument (point : CodePoint) : IsLine point.inDocument := by
  unfold CodePoint.inDocument
  refine isLine_ite (fun _ => by decide) fun _ => isLine_ite (fun _ => by decide) fun _ =>
    isLine_ite (fun _ => by decide) fun _ => isLine_ite (fun _ => by decide) fun _ =>
    isLine_ite (fun _ => by decide) fun _ => isLine_ite (fun _ => by decide) fun _ =>
    isLine_ite (fun _ => by decide) fun _ => isLine_ite isLine_printable fun _ =>
    isLine_ite (fun _ => isLine_escapedUnit _) fun _ => ?_
  exact .append (isLine_escapedUnit _) (isLine_escapedUnit _)

section Digits

variable {digits : List Char} (hold : '\n' ∉ digits) (exponent : Int)

include hold

theorem newline_not_mem_positional : '\n' ∉ Binary64.positional digits exponent := by
  unfold Binary64.positional
  split
  · simp [hold]
  · have padded (count : Nat) : '\n' ∉ digits ++ List.replicate count '0' := by
      simp [hold]
    dsimp only
    rw [List.mem_append, List.mem_append, not_or, not_or]
    refine ⟨⟨fun member => padded _ (List.mem_of_mem_take member), by decide⟩, ?_⟩
    split
    · decide
    · exact fun member => padded _ (List.mem_of_mem_drop member)

theorem newline_not_mem_scientific : '\n' ∉ Binary64.scientific digits exponent := by
  have first : '\n' ∉ digits.take 1 := fun member => hold (List.mem_of_mem_take member)
  have others : '\n' ∉ digits.drop 1 := fun member => hold (List.mem_of_mem_drop member)
  have fraction : '\n' ∉ if digits.length ≤ 1 then [] else '.' :: digits.drop 1 := by
    split
    · decide
    · simpa using others
  have sign : '\n' ∉ ['e', if exponent < 0 then '-' else '+'] := by
    split <;> decide
  have size := newline_not_mem_toDigits (by decide : 1 < 10) exponent.natAbs
  unfold Binary64.scientific
  simp only [List.mem_append, not_or]
  exact ⟨⟨⟨⟨first, fraction⟩, sign⟩, newline_not_mem_zeros _⟩, size⟩

end Digits

theorem isLine_text (number : Binary64) :
    IsLine (number.text Binary64.documentFormat) := by
  have signed : IsLine (if number.isNegative then "-" else "") :=
    isLine_ite (fun _ => by decide) fun _ => by decide
  have digits := newline_not_mem_toDigits (by decide : 1 < 10) number.shortest.digits
  refine isLine_ite (fun _ => by decide) fun _ =>
    isLine_ite (fun _ => signed.append (by decide)) fun _ =>
    signed.append (isLine_ofList ?_)
  split
  · exact newline_not_mem_positional digits _
  · exact newline_not_mem_scientific digits _

theorem Document.isLine_writeText (text : Text) : IsLine (writeText text) := by
  refine .append (.append (by decide) (isLine_join ?_)) (by decide)
  rw [List.forall_mem_map]
  exact fun point _ => isLine_inDocument point

end Lines

namespace Document

section Lines

variable {lines : List String} {parts : List (List String)}

theorem isLine_openWith {mark : String} (marked : IsLine mark)
    (hold : ∀ line ∈ lines, IsLine line) : ∀ line ∈ openWith mark lines, IsLine line := by
  cases lines with
  | nil => exact hold
  | cons first rest =>
      rw [openWith, List.forall_mem_cons]
      obtain ⟨firstHolds, restHold⟩ := List.forall_mem_cons.mp hold
      exact ⟨marked.append firstHolds, restHold⟩

theorem isLine_closeWith {mark : String} (marked : IsLine mark)
    (hold : ∀ line ∈ lines, IsLine line) : ∀ line ∈ closeWith mark lines, IsLine line := by
  fun_induction closeWith mark lines with
  | case1 => exact hold
  | case2 line =>
      rw [List.forall_mem_singleton] at hold ⊢
      exact hold.append marked
  | case3 line next rest ih =>
      obtain ⟨firstHolds, restHold⟩ := List.forall_mem_cons.mp hold
      exact List.forall_mem_cons.mpr ⟨firstHolds, ih restHold⟩

theorem isLine_separated (hold : ∀ part ∈ parts, ∀ line ∈ part, IsLine line) :
    ∀ line ∈ separated parts, IsLine line := by
  fun_induction separated parts with
  | case1 => exact List.forall_mem_nil _
  | case2 part => exact hold part (List.mem_singleton_self part)
  | case3 part next rest ih =>
      obtain ⟨firstHolds, restHold⟩ := List.forall_mem_cons.mp hold
      rw [List.forall_mem_append]
      exact ⟨isLine_closeWith (by decide) firstHolds, ih restHold⟩

theorem isLine_enclosed {left right : String} (leftHolds : IsLine left)
    (rightHolds : IsLine right) (hold : ∀ part ∈ parts, ∀ line ∈ part, IsLine line) :
    ∀ line ∈ enclosed left right parts, IsLine line := by
  rw [enclosed]
  split
  · rw [List.forall_mem_singleton]
    exact leftHolds.append rightHolds
  · rw [List.cons_append, List.forall_mem_cons, List.forall_mem_append,
      List.forall_mem_map, List.forall_mem_singleton]
    have blanks : IsLine "  " := by decide
    exact ⟨leftHolds, fun line member => blanks.append (isLine_separated hold line member),
      rightHolds⟩

end Lines

mutual

theorem isLine_lines : (document : Document) → ∀ line ∈ document.lines, IsLine line
  | .array elements => isLine_enclosed (by decide) (by decide) (isLine_linesOfAll elements)
  | .object entries =>
      isLine_enclosed (by decide) (by decide) (isLine_linesOfEntries entries)
  | .null => by decide
  | .boolean true => by decide
  | .boolean false => by decide
  | .integer number => List.forall_mem_singleton.mpr (isLine_repr number)
  | .float number => List.forall_mem_singleton.mpr (isLine_text number)
  | .string text => List.forall_mem_singleton.mpr (isLine_writeText text)

theorem isLine_linesOfAll : (elements : List Document) →
    ∀ part ∈ linesOfAll elements, ∀ line ∈ part, IsLine line
  | [] => List.forall_mem_nil _
  | element :: rest =>
      List.forall_mem_cons.mpr ⟨isLine_lines element, isLine_linesOfAll rest⟩

theorem isLine_linesOfEntries : (entries : List (Text × Document)) →
    ∀ part ∈ linesOfEntries entries, ∀ line ∈ part, IsLine line
  | [] => List.forall_mem_nil _
  | (key, value) :: rest =>
      List.forall_mem_cons.mpr
        ⟨isLine_openWith (.append (isLine_writeText key) (by decide)) (isLine_lines value),
          isLine_linesOfEntries rest⟩

end

/-- A document is printed line by line. -/
theorem prettyDocument_eq (document : Document) :
    CommandLine.prettyDocument document = "\n".intercalate document.lines := by
  have lineStart : Layout.lineStart 0 = "\n" := rfl
  rw [CommandLine.prettyDocument, write_block, lineStart]

end Document
end StackScript
