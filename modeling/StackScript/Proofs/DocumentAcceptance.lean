import Mathlib.Data.List.Forall2
import StackScript.Proofs.ElementAcceptance
import StackScript.Proofs.FloatRange

/-!
# Which documents are scripts

A document that is not a text is accepted exactly if it is an array of elements.  It
then stands for one item for each element, in order.  Only an integer in place of a
floating-point number can still be refused, and it is refused exactly if it is too
large.
-/

namespace StackScript

namespace Schema

/-! ## The rule -/

/-- The rule for a document. -/
def IsScript (document : Document) : Prop :=
  ∃ elements, document = .array elements ∧
    ∀ element ∈ elements, ∃ entries, element = .object entries ∧ IsElement entries

/-- The element stands for the item. -/
def ElementDenotes (element : Document) (item : Item) : Prop :=
  ∃ entries field document, element = .object entries ∧
    Gives entries field document ∧ field.Denotes document item

/-- The element gives a floating-point number as an integer that is too large. -/
def GivesTooLarge (element : Document) (integer : Int) : Prop :=
  ∃ entries, element = .object entries ∧
    Gives entries (.value .float) (.integer integer) ∧
    2 ^ 1024 - 2 ^ 970 ≤ integer.natAbs

/-! ## Elements in order -/

/-- The element is accepted with the content. -/
def ElementYields (element : Document) (content : Content) : Prop :=
  ∃ entries, element = .object entries ∧ IsElement entries ∧
    ∃ field document, Gives entries field document ∧
      field.Yields document (some content)

section Elements

variable {form : Form} {position : Nat} {element : Document}
  {elements : List Document} {content : Content} {contents : List Content}

theorem checkElement_eq_ok_iff :
    checkElement (some instructionNames) form none position element = .ok content ↔
      ElementYields element content := by
  cases element with
  | object entries =>
      simp only [checkElement, checkEntries_eq_ok_iff_isElement, ElementYields,
        Document.object.injEq, exists_eq_left']
  | _ => simp [checkElement, ElementYields]

theorem checkElements_eq_ok_iff :
    checkElements (some instructionNames) form (fun _ => none) position elements =
        .ok contents ↔
      List.Forall₂ ElementYields elements contents := by
  induction elements generalizing position contents with
  | nil => simp [checkElements, eq_comm]
  | cons element rest ih =>
      have restAccepted := fun others => @ih (position + 1) others
      rw [List.forall₂_cons_left_iff]
      simp only [← @checkElement_eq_ok_iff form position, ← restAccepted, checkElements]
      cases checkElement (some instructionNames) form none position element <;>
        cases checkElements (some instructionNames) form (fun _ => none) (position + 1)
          rest <;>
        simp [eq_comm]

theorem exists_elementYields_iff :
    (∃ content, ElementYields element content) ↔
      ∃ entries, element = .object entries ∧ IsElement entries := by
  constructor
  · rintro ⟨content, entries, isObject, isElement, _⟩
    exact ⟨entries, isObject, isElement⟩
  · rintro ⟨entries, isObject, isElement⟩
    obtain ⟨field, ⟨document, gives, given⟩, _⟩ := isElement.single
    obtain ⟨result, yields⟩ :=
      Field.exists_yields_iff.mpr (isElement.admitted field document gives)
    obtain ⟨content, rfl⟩ := Option.isSome_iff_exists.mp (yields.isSome_iff.mpr given)
    exact ⟨content, entries, isObject, isElement, field, document, gives, yields⟩

theorem exists_forall₂_iff {α β : Type} {relation : α → β → Prop} {list : List α} :
    (∃ results, List.Forall₂ relation list results) ↔
      ∀ element ∈ list, ∃ result, relation element result := by
  induction list with
  | nil => simp
  | cons element rest ih =>
      simp only [List.forall₂_cons_left_iff, List.forall_mem_cons, ← ih]
      constructor
      · rintro ⟨_, result, results, first, others, rfl⟩
        exact ⟨⟨result, first⟩, results, others⟩
      · rintro ⟨⟨result, first⟩, results, others⟩
        exact ⟨_, result, results, first, others, rfl⟩

end Elements

/-! ## Items -/

theorem toItem_floatOfInteger (integer : Int) :
    (Content.floatOfInteger integer).toItem =
      match Binary64.ofInt? integer with
      | some number => .ok (.value (.float number))
      | none => .error (.integerBeyondFloat integer) := by
  simp only [Content.toItem, Value.floatOfInt]
  cases Binary64.ofInt? integer <;> rfl

namespace Field.Yields

variable {field : Field} {document : Document} {content : Content}

theorem denotes_of_toItem {item : Item} (yields : field.Yields document (some content))
    (built : content.toItem = .ok item) : field.Denotes document item := by
  cases yields with
  | boolean truth =>
      cases built
      exact .boolean truth
  | integer number =>
      cases built
      exact .integer number
  | float number =>
      cases built
      exact .float number
  | floatOfInteger integer =>
      rw [toItem_floatOfInteger] at built
      split at built
      · next nearest =>
          cases built
          exact .floatOfInteger nearest
      · cases built
  | string text =>
      cases built
      exact .string text
  | operator known =>
      cases built
      exact .operator known

/-- Only an integer in place of a floating-point number can be refused. -/
theorem toItem_eq_error_iff {fault : Fault}
    (yields : field.Yields document (some content)) :
    content.toItem = .error fault ↔
      ∃ integer, field = .value .float ∧ document = .integer integer ∧
        Binary64.ofInt? integer = none ∧ fault = .integerBeyondFloat integer := by
  cases yields with
  | floatOfInteger integer =>
      rw [toItem_floatOfInteger]
      cases found : Binary64.ofInt? integer <;> simp [found, eq_comm]
  | _ => simp [Content.toItem]

end Field.Yields

section Items

variable {element : Document} {elements : List Document} {content : Content}
  {contents : List Content} {fault : Fault}

theorem ElementYields.denotes_of_toItem {item : Item}
    (yields : ElementYields element content) (built : content.toItem = .ok item) :
    ElementDenotes element item := by
  obtain ⟨entries, isObject, _, field, document, gives, fieldYields⟩ := yields
  exact ⟨entries, field, document, isObject, gives, fieldYields.denotes_of_toItem built⟩

theorem ElementYields.toItem_eq_error_iff (yields : ElementYields element content) :
    content.toItem = .error fault ↔
      ∃ integer, GivesTooLarge element integer ∧ fault = .integerBeyondFloat integer := by
  obtain ⟨entries, rfl, isElement, field, document, gives, fieldYields⟩ := yields
  rw [fieldYields.toItem_eq_error_iff]
  constructor
  · rintro ⟨integer, rfl, rfl, refused, rfl⟩
    exact ⟨integer, ⟨entries, rfl, gives, Binary64.ofInt?_eq_none_iff.mp refused⟩, rfl⟩
  · rintro ⟨integer, ⟨_, ⟨rfl⟩, givesInteger, large⟩, rfl⟩
    have given : document ≠ .null := fieldYields.isSome_iff.mp rfl
    obtain ⟨rfl, rfl⟩ := isElement.gives_unique gives given givesInteger nofun
    exact ⟨integer, rfl, rfl, Binary64.ofInt?_eq_none_iff.mpr large, rfl⟩

theorem toItems_eq_ok {script : Script}
    (yields : List.Forall₂ ElementYields elements contents)
    (built : toItems contents = .ok script) :
    List.Forall₂ ElementDenotes elements script ∧
      ∀ element ∈ elements, ∀ integer, ¬GivesTooLarge element integer := by
  induction yields generalizing script with
  | nil =>
      cases built
      exact ⟨.nil, nofun⟩
  | @cons element content elements contents first _ ih =>
      cases firstBuilt : content.toItem with
      | error fault => simp [toItems, firstBuilt] at built
      | ok item =>
          simp only [toItems, firstBuilt] at built
          obtain ⟨rest, restBuilt, rfl⟩ := exists_of_map_eq_ok built
          obtain ⟨restDenotes, restSmall⟩ := ih restBuilt
          refine ⟨.cons (first.denotes_of_toItem firstBuilt) restDenotes, ?_⟩
          rw [List.forall_mem_cons]
          refine ⟨?_, restSmall⟩
          intro integer tooLarge
          have refused := first.toItem_eq_error_iff.mpr ⟨integer, tooLarge, rfl⟩
          rw [firstBuilt] at refused
          cases refused

theorem toItems_eq_error (yields : List.Forall₂ ElementYields elements contents)
    (refused : toItems contents = .error fault) :
    ∃ element ∈ elements, ∃ integer, GivesTooLarge element integer ∧
      fault = .integerBeyondFloat integer := by
  induction yields with
  | nil => cases refused
  | @cons element content elements contents first _ ih =>
      rw [List.exists_mem_cons_iff]
      cases firstBuilt : content.toItem with
      | error found =>
          simp only [toItems, firstBuilt] at refused
          cases refused
          exact .inl (first.toItem_eq_error_iff.mp firstBuilt)
      | ok item =>
          cases restBuilt : toItems contents with
          | ok rest => simp [toItems, firstBuilt, restBuilt, Except.map] at refused
          | error found =>
              simp only [toItems, firstBuilt, restBuilt, Except.map] at refused
              cases refused
              exact .inr (ih restBuilt)

end Items

/-! ## Documents -/

section Documents

variable {document : Document}

theorem scriptOf_eq_finish (isTree : ∀ text, document ≠ .string text) :
    scriptOf (some instructionNames) document =
      finish (check (some instructionNames) .tree (fun _ => none) document) := by
  cases document with
  | string text => exact absurd rfl (isTree text)
  | _ => rfl

/-- A document that follows the rule has contents. -/
theorem isScript_iff_check :
    IsScript document ↔
      ∃ contents, check (some instructionNames) .tree (fun _ => none) document =
        .ok contents := by
  cases document with
  | array elements =>
      simp only [check, checkElements_eq_ok_iff, exists_forall₂_iff,
        exists_elementYields_iff, IsScript, Document.array.injEq, exists_eq_left']
  | _ => simp [check, IsScript]

theorem finish_ne_problems_iff {checked : Check (List Content)} :
    (∀ found, finish checked ≠ .error (.problems found)) ↔
      ∃ contents, checked = .ok contents := by
  cases checked with
  | error found => simp [finish]
  | ok contents =>
      simp only [finish]
      cases toItems contents <;> simp

end Documents

/-- A document that is not a text is accepted exactly if it follows the rule.  It then
stands for the items of its elements in order, unless one of them gives a floating-point
number as an integer that is too large. -/
theorem scriptOf_accepts_exactly (document : Document)
    (isTree : ∀ text, document ≠ .string text) :
    ((∀ found, scriptOf (some instructionNames) document ≠ .error (.problems found)) ↔
      IsScript document) ∧
    ∀ elements, document = .array elements → IsScript document →
      ((∀ element ∈ elements, ∀ integer, ¬GivesTooLarge element integer) →
        ∃ script, scriptOf (some instructionNames) document = .ok script ∧
          List.Forall₂ ElementDenotes elements script) ∧
      ((∃ element ∈ elements, ∃ integer, GivesTooLarge element integer) →
        ∃ element ∈ elements, ∃ integer, GivesTooLarge element integer ∧
          scriptOf (some instructionNames) document =
            .error (.fault (.integerBeyondFloat integer))) := by
  rw [scriptOf_eq_finish isTree]
  refine ⟨finish_ne_problems_iff.trans isScript_iff_check.symm, ?_⟩
  rintro elements rfl isScript
  obtain ⟨contents, accepted⟩ := isScript_iff_check.mp isScript
  have yields : List.Forall₂ ElementYields elements contents :=
    checkElements_eq_ok_iff.mp accepted
  rw [accepted, finish]
  cases built : toItems contents with
  | ok script =>
      obtain ⟨denotes, small⟩ := toItems_eq_ok yields built
      refine ⟨fun _ => ⟨script, rfl, denotes⟩, ?_⟩
      rintro ⟨element, member, integer, tooLarge⟩
      exact absurd tooLarge (small element member integer)
  | error fault =>
      obtain ⟨element, member, integer, tooLarge, rfl⟩ := toItems_eq_error yields built
      refine ⟨?_, fun _ => ⟨element, member, integer, tooLarge, rfl⟩⟩
      intro small
      exact absurd tooLarge (small element member integer)

/-- An element with the other spelling of a key and a null beside it is accepted, and so
is an operator.  The number next to the bound becomes an item, the bound itself not. -/
theorem scriptOf_accepts_exactly_bound :
    let elements (integer : Int) : List Document :=
      [.object [(Text.ofString "float_", .integer integer), (Text.ofString "int", .null)],
        .object [(Text.ofString "op", .string (Text.ofString "Add"))]]
    let bound : Int := 2 ^ 1024 - 2 ^ 970
    (∃ script, scriptOf (some instructionNames) (.array (elements (bound - 1))) =
        .ok script ∧
      List.Forall₂ ElementDenotes (elements (bound - 1)) script) ∧
    ∃ fault, scriptOf (some instructionNames) (.array (elements bound)) =
      .error (.fault fault) := by
  have numberYields : ∀ integer, ElementYields
      (.object [(Text.ofString "float_", .integer integer), (Text.ofString "int", .null)])
      (.floatOfInteger integer) :=
    fun integer => @checkElement_eq_ok_iff .tree 0 _ _ |>.mp rfl
  have additionYields : ElementYields
      (.object [(Text.ofString "op", .string (Text.ofString "Add"))])
      (.operator (.instruction .add)) :=
    @checkElement_eq_ok_iff .tree 1 _ _ |>.mp rfl
  have positive : (2 : Int) ^ 970 < 2 ^ 1024 := Int.pow_lt_pow_of_lt (by decide) (by decide)
  intro elements bound
  have isScript : ∀ integer, IsScript (.array (elements integer)) := by
    intro integer
    rw [isScript_iff_check]
    exact ⟨_, checkElements_eq_ok_iff.mpr
      (.cons (numberYields integer) (.cons additionYields .nil))⟩
  constructor
  · apply ((scriptOf_accepts_exactly (.array _) nofun).2 _ rfl (isScript _)).1
    simp only [elements, List.forall_mem_cons]
    refine ⟨?_, ?_, nofun⟩
    · intro other tooLarge
      have refused := (numberYields _).toItem_eq_error_iff.mpr ⟨other, tooLarge, rfl⟩
      rw [toItem_floatOfInteger] at refused
      split at refused
      · cases refused
      · next large =>
          rw [Binary64.ofInt?_eq_none_iff] at large
          omega
    · intro other tooLarge
      have refused := additionYields.toItem_eq_error_iff.mpr ⟨other, tooLarge, rfl⟩
      cases refused
  · have refused : (Content.floatOfInteger bound).toItem = .error (.integerBeyondFloat bound) := by
      have large : Binary64.ofInt? bound = none := by
        rw [Binary64.ofInt?_eq_none_iff]
        omega
      rw [toItem_floatOfInteger, large]
    obtain ⟨integer, tooLarge, _⟩ := (numberYields bound).toItem_eq_error_iff.mp refused
    obtain ⟨_, _, _, _, failed⟩ :=
      ((scriptOf_accepts_exactly (.array _) nofun).2 _ rfl (isScript bound)).2
        ⟨_, List.mem_cons_self, integer, tooLarge⟩
    exact ⟨_, failed⟩

end Schema

end StackScript
