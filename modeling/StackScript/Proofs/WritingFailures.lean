import StackScript.Proofs.CanonicalForms

/-!
# Which items cannot be written, and what is left then

An item without a form is refused before any of its bytes is written, although the
bytes of an item are written in up to three parts.  A script is therefore written up
to its first item without a form, and what has been written before it are whole items.
The length of a text is the one thing that is found out too late, behind the
discriminant, so texts are assumed to have a length that can be counted.

The report on a refused item shows the item.  If an integer in it is too long to be shown,
the report is about that integer instead.
-/

namespace StackScript

/-- The number that an operator has as its opcode.  A record brings it along, an
instruction has one of its own, and an integer is one.  A truth value is none, though
it counts as an integer elsewhere. -/
inductive Operator.HasOpcode : Operator → Int → Prop where
  | instruction (known : Instruction) : HasOpcode (.instruction known) known.opcode
  | foreign (opcode : Int) : HasOpcode (.foreign (.integer opcode)) opcode
  | record (name : String) (opcode : Int) :
      HasOpcode (.record name (.integer opcode)) opcode

theorem Operator.opcode?_eq_some_iff {held : Operator} {opcode : Int} :
    held.opcode? = some opcode ↔ held.HasOpcode opcode := by
  constructor
  · intro found
    unfold opcode? at found
    split at found <;> cases found
    · exact .instruction _
    · exact .foreign _
    · exact .record _ _
  · rintro (known | opcode | ⟨name, opcode⟩) <;> rfl

/-- The item can be written: an operator with an opcode of seven bits, or a value that
is not a text with a surrogate or with a length that cannot be counted. -/
inductive Item.IsEncodable : Item → Prop where
  | operator {held : Operator} {opcode : Int} (carried : held.HasOpcode opcode)
      (lower : 0 ≤ opcode) (upper : opcode ≤ 127) : IsEncodable (.operator held)
  | boolean (truth : Bool) : IsEncodable (.value (.boolean truth))
  | float (number : Binary64) : IsEncodable (.value (.float number))
  | integer (number : Int128) : IsEncodable (.value (.integer number))
  | string {text : Text} (wellFormed : Utf8.IsWellFormed text)
      (countable : (text.flatMap Utf8.encodePoint).length < 2 ^ 128) :
      IsEncodable (.value (.string text))

/-! ## Integers that are shown -/

/-- The integer is the object, or it is held by an element of it. -/
inductive Foreign.Holds : Foreign → Int → Prop where
  | integer (number : Int) : Holds (.integer number) number
  | element {elements : List Foreign} {element : Foreign} {number : Int}
      (member : element ∈ elements) (held : element.Holds number) :
      Holds (.list elements) number

/-- The report that the item cannot be written has to show the integer.  Of a record it
shows the name, and the opcode if that is an integer. -/
inductive Item.Shows : Item → Int → Prop where
  | operator {object : Foreign} {number : Int} (held : object.Holds number) :
      Shows (.operator (.foreign object)) number
  | record (name : String) (opcode : Int) :
      Shows (.operator (.record name (.integer opcode))) opcode
  | datum {object : Foreign} {number : Int} (held : object.Holds number) :
      Shows (.datum (.foreign object)) number

@[simp] theorem Item.shows_foreign_operator_iff {object : Foreign} {number : Int} :
    (Item.operator (.foreign object)).Shows number ↔ object.Holds number :=
  ⟨fun (.operator held) => held, .operator⟩

@[simp] theorem Item.shows_foreign_datum_iff {object : Foreign} {number : Int} :
    (Item.datum (.foreign object)).Shows number ↔ object.Holds number :=
  ⟨fun (.datum held) => held, .datum⟩

namespace Foreign

mutual

theorem showsLongInteger_iff : (object : Foreign) →
    (object.showsLongInteger = true ↔
      ∃ number, object.Holds number ∧ Text.isLongInteger number = true)
  | .integer number => by
      constructor
      · intro long
        exact ⟨number, .integer number, long⟩
      · rintro ⟨_, ⟨_⟩, long⟩
        exact long
  | .list elements => by
      rw [showsLongInteger, anyShowsLongInteger_iff elements]
      constructor
      · rintro ⟨element, member, number, held, long⟩
        exact ⟨number, .element member held, long⟩
      · rintro ⟨number, _ | ⟨member, held⟩, long⟩
        exact ⟨_, member, number, held, long⟩
  | .none | .boolean _ | .float _ | .string _ | .bytes _ => by
      constructor
      · nofun
      · rintro ⟨_, ⟨_⟩, _⟩

theorem anyShowsLongInteger_iff : (elements : List Foreign) →
    (anyShowsLongInteger elements = true ↔ ∃ element ∈ elements,
      ∃ number, element.Holds number ∧ Text.isLongInteger number = true)
  | [] => by simp [anyShowsLongInteger]
  | element :: rest => by
      rw [anyShowsLongInteger, Bool.or_eq_true, showsLongInteger_iff element,
        anyShowsLongInteger_iff rest]
      simp only [List.mem_cons, exists_eq_or_imp]

end

end Foreign

namespace Wire

open Writer

/-- The length of every text among the items can be counted. -/
def HasCountableTexts (script : Script) : Prop :=
  ∀ text bytes, Item.value (.string text) ∈ script →
    Utf8.encode text = .ok bytes → bytes.length < 2 ^ 128

theorem HasCountableTexts.tail {item : Item} {rest : Script}
    (countable : HasCountableTexts (item :: rest)) : HasCountableTexts rest :=
  fun text bytes member => countable text bytes (List.mem_cons_of_mem item member)

/-! ## How a refused item is reported -/

theorem Refusal.showsLongInteger_iff {item : Item} {fault : WriteFault}
    (refusal : Refusal item fault) :
    fault.showsLongInteger = true ↔
      ∃ integer, item.Shows integer ∧ Text.isLongInteger integer = true := by
  cases refusal with
  | @noOpcode held missing =>
      cases held with
      | instruction known => cases missing
      | foreign object =>
          simp only [Item.shows_foreign_operator_iff]
          exact object.showsLongInteger_iff
      | command known => exact ⟨nofun, nofun⟩
      | record name opcode =>
          refine ⟨nofun, ?_⟩
          rintro ⟨_, ⟨_⟩, _⟩
          cases missing
  | @opcodeRange held opcode opcodeEq beyond =>
      cases Operator.opcode?_eq_some_iff.mp opcodeEq with
      | instruction known =>
          refine absurd ?_ beyond
          cases known <;> decide
      | foreign =>
          simp only [Item.shows_foreign_operator_iff, ← Foreign.showsLongInteger_iff,
            WriteFault.showsLongInteger, Operator.showsLongInteger,
            Foreign.showsLongInteger, Bool.or_self]
      | record name =>
          simp only [WriteFault.showsLongInteger, Operator.showsLongInteger,
            Bool.or_false]
          refine ⟨fun long => ⟨opcode, .record name opcode, long⟩, ?_⟩
          rintro ⟨_, ⟨_⟩, long⟩
          exact long
  | creature held => exact ⟨nofun, nofun⟩
  | foreign held =>
      simp only [Item.shows_foreign_datum_iff]
      exact held.showsLongInteger_iff
  | surrogates nonempty failed => exact ⟨nofun, nofun⟩

/-- A refused item is reported as such exactly if every integer can be shown that has to
be, and otherwise the report is about the integer. -/
theorem Refusal.label_cases {item : Item} {fault : WriteFault}
    (refusal : Refusal item fault) :
    (fault.label = "EncodingError" ∧
        ∀ integer, item.Shows integer → Text.isLongInteger integer = false) ∨
      fault.label = "ValueError" ∧
        ∃ integer, item.Shows integer ∧ Text.isLongInteger integer = true := by
  have familyEq : fault.family = "EncodingError" := by cases refusal <;> rfl
  cases long : fault.showsLongInteger with
  | true =>
      refine .inr ⟨?_, refusal.showsLongInteger_iff.mp long⟩
      rw [WriteFault.label, if_pos long]
      rfl
  | false =>
      refine .inl ⟨?_, ?_⟩
      · rw [WriteFault.label, long, familyEq]
        rfl
      · intro integer shown
        cases tooLong : Text.isLongInteger integer with
        | false => rfl
        | true =>
            rw [refusal.showsLongInteger_iff.mpr ⟨integer, shown, tooLong⟩] at long
            cases long

/-! ## Where writing stops -/

namespace Concatenation

variable {Part Other : Item → List UInt8 → Prop} {script : Script}
  {bytes : List UInt8}

end Concatenation

/-- At the given place stands the first item that cannot be written.  It is refused
with the given fault, and the items before it have the given forms. -/
structure StopsAt (script : Script) (index : Nat) (item : Item)
    (forms : List UInt8) (fault : WriteFault) : Prop where
  found : script[index]? = some item
  notEncodable : ¬item.IsEncodable
  areForms : Concatenation Form (script.take index) forms
  refusal : Refusal item fault

theorem StopsAt.cons {script : Script} {index : Nat} {item first : Item}
    {form forms : List UInt8} {fault : WriteFault} (isForm : Form first form)
    (stops : StopsAt script index item forms fault) :
    StopsAt (first :: script) (index + 1) item (form ++ forms) fault where
  found := stops.found
  notEncodable := stops.notEncodable
  areForms := .cons isForm stops.areForms
  refusal := stops.refusal

end Wire
end StackScript
