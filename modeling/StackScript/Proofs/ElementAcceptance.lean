import Mathlib.Data.List.Basic
import StackScript.Proofs.DocumentRoundTrip

/-!
# Which objects are elements

The fields of an element are checked one by one, and all problems are collected, so
the rule that an element has to follow is nowhere written down as a whole.  Here it is.
An element gives some of five fields, each under one of its keys, every field holds what
it may hold, and exactly one of them holds something.
-/

namespace StackScript

namespace Schema

/-! ## The rule -/

/-- The fields of an element. -/
inductive Field where
  | value (kind : Value.Kind)
  | operator
deriving DecidableEq

namespace Field

/-- The keys that a field can be given under. -/
def spellings : Field → List Text
  | .value .boolean => [Text.ofString "bool", Text.ofString "bool_"]
  | .value .integer => [Text.ofString "int", Text.ofString "int_"]
  | .value .float => [Text.ofString "float", Text.ofString "float_"]
  | .value .string => [Text.ofString "str", Text.ofString "str_"]
  | .operator => [Text.ofString "op"]

/-- What a field may hold.  Null is allowed in place of a value, though not in place of
an operator. -/
inductive Admits : Field → Document → Prop where
  | null (kind : Value.Kind) : Admits (.value kind) .null
  | boolean (truth : Bool) : Admits (.value .boolean) (.boolean truth)
  | integer {number : Int} (range : Int128.InRange number) :
      Admits (.value .integer) (.integer number)
  | float (number : Binary64) : Admits (.value .float) (.float number)
  | floatOfInteger (number : Int) : Admits (.value .float) (.integer number)
  | string (text : Text) : Admits (.value .string) (.string text)
  | operator (known : Instruction) :
      Admits .operator (.string (Text.ofString known.name))

/-- The item that a field stands for if it holds the document. -/
inductive Denotes : Field → Document → Item → Prop where
  | boolean (truth : Bool) :
      Denotes (.value .boolean) (.boolean truth) (.value (.boolean truth))
  | integer (number : Int128) :
      Denotes (.value .integer) (.integer number.val) (.value (.integer number))
  | float (number : Binary64) :
      Denotes (.value .float) (.float number) (.value (.float number))
  | floatOfInteger {integer : Int} {number : Binary64}
      (nearest : Binary64.ofInt? integer = some number) :
      Denotes (.value .float) (.integer integer) (.value (.float number))
  | string (text : Text) :
      Denotes (.value .string) (.string text) (.value (.string text))
  | operator (known : Instruction) :
      Denotes .operator (.string (Text.ofString known.name)) (.instruction known)

end Field

section Rule

variable (entries : List (Text × Document))

/-- The keys of an element. -/
def keys : List Text := entries.map Prod.fst

/-- The element gives the field as the document, under one of its keys. -/
def Gives (field : Field) (document : Document) : Prop :=
  ∃ key ∈ field.spellings, Document.entry? key entries = some document

/-- The element gives the field as something. -/
def IsGiven (field : Field) : Prop :=
  ∃ document, Gives entries field document ∧ document ≠ .null

/-- The rule for the entries of an element. -/
structure IsElement : Prop where
  known : ∀ key ∈ keys entries, ∃ field : Field, key ∈ field.spellings
  once : ∀ field : Field, ∀ first ∈ field.spellings, ∀ second ∈ field.spellings,
    first ∈ keys entries → second ∈ keys entries → first = second
  admitted : ∀ field document, Gives entries field document → field.Admits document
  single : ∃ field, IsGiven entries field ∧
    ∀ other, IsGiven entries other → other = field

end Rule

/-! ## Keys -/

theorem spellings_value (kind : Value.Kind) :
    Field.spellings (.value kind) = [fieldKey kind, otherFieldKey kind] := by
  cases kind <;> decide

theorem spellings_operator : Field.spellings .operator = [operatorKey] := rfl

theorem otherFieldKey_inj {first second : Value.Kind} :
    otherFieldKey first = otherFieldKey second ↔ first = second := by
  cases first <;> cases second <;> decide

theorem hasSurrogate_of_mem_spellings {field : Field} {key : Text}
    (spells : key ∈ field.spellings) : hasSurrogate key = false := by
  have none : ∀ key ∈ field.spellings, hasSurrogate key = false := by
    cases field with
    | value kind => cases kind <;> decide
    | operator => decide
  exact none key spells

section Keys

variable {entries : List (Text × Document)} {kind : Value.Kind} {key : Text}
  {document : Document}

/-- No value has both of its keys. -/
def SpelledOnce (entries : List (Text × Document)) : Prop :=
  ∀ kind, fieldKey kind ∈ keys entries → otherFieldKey kind ∉ keys entries

theorem mem_keys_iff :
    key ∈ keys entries ↔ ∃ document, Document.entry? key entries = some document := by
  rw [← Option.isSome_iff_exists, Option.isSome_iff_ne_none, ne_eq, Document.entry?,
    List.lookup_eq_none_iff]
  simp [keys]

theorem entry?_eq_none_iff :
    Document.entry? key entries = none ↔ key ∉ keys entries := by
  rw [mem_keys_iff, ← Option.isSome_iff_exists, Option.not_isSome_iff_eq_none]

/-- The first spelling of a key hides the other. -/
theorem field?_eq_some_iff :
    field? kind entries = some (key, document) ↔
      Document.entry? key entries = some document ∧
        (key = fieldKey kind ∨
          key = otherFieldKey kind ∧ fieldKey kind ∉ keys entries) := by
  rw [← entry?_eq_none_iff, field?]
  cases found : Document.entry? (fieldKey kind) entries with
  | some first =>
      simp only [Option.some.injEq, Prod.mk.injEq, reduceCtorEq, and_false, or_false]
      constructor
      · rintro ⟨rfl, rfl⟩
        exact ⟨found, rfl⟩
      · rintro ⟨given, rfl⟩
        rw [found, Option.some_inj] at given
        exact ⟨rfl, given⟩
  | none =>
      simp only [Option.map_eq_some_iff, Prod.mk.injEq, and_true]
      constructor
      · rintro ⟨_, given, rfl, rfl⟩
        exact ⟨given, .inr rfl⟩
      · rintro ⟨given, rfl | rfl⟩
        · rw [found] at given
          cases given
        · exact ⟨document, given, rfl, rfl⟩

theorem mem_usedKeys_iff :
    key ∈ usedKeys entries ↔
      key = operatorKey ∨ ∃ kind document, field? kind entries = some (key, document) := by
  simp only [usedKeys, List.mem_append, List.mem_filterMap, List.mem_singleton,
    Option.map_eq_some_iff, Prod.exists, exists_and_right, exists_eq_right, mem_kinds,
    true_and]
  exact or_comm

/-- All keys count exactly if each belongs to a field and no field has two. -/
theorem forall_mem_usedKeys_iff :
    (∀ key ∈ keys entries, key ∈ usedKeys entries) ↔
      (∀ key ∈ keys entries, ∃ field : Field, key ∈ field.spellings) ∧
        SpelledOnce entries := by
  constructor
  · intro allCount
    constructor
    · intro key member
      rcases mem_usedKeys_iff.mp (allCount key member) with rfl | ⟨kind, document, found⟩
      · exact ⟨.operator, by simp [spellings_operator]⟩
      · refine ⟨.value kind, ?_⟩
        obtain ⟨_, rfl | ⟨rfl, _⟩⟩ := field?_eq_some_iff.mp found <;>
          simp [spellings_value]
    · intro kind first second
      rcases mem_usedKeys_iff.mp (allCount _ second) with isOperator | ⟨other, _, found⟩
      · exact otherFieldKey_ne_operatorKey kind isOperator
      · obtain ⟨_, isFirst | ⟨isOther, hidden⟩⟩ := field?_eq_some_iff.mp found
        · exact otherFieldKey_ne_fieldKey kind other isFirst
        · cases otherFieldKey_inj.mp isOther
          exact hidden first
  · rintro ⟨known, once⟩ key member
    obtain ⟨document, given⟩ := mem_keys_iff.mp member
    rw [mem_usedKeys_iff]
    obtain ⟨kind | _, spells⟩ := known key member
    · right
      refine ⟨kind, document, field?_eq_some_iff.mpr ⟨given, ?_⟩⟩
      rw [spellings_value, List.mem_pair] at spells
      rcases spells with rfl | rfl
      · exact .inl rfl
      · exact .inr ⟨rfl, fun first => once kind first member⟩
    · left
      exact List.mem_singleton.mp spells

theorem spelledOnce_iff :
    SpelledOnce entries ↔
      ∀ field : Field, ∀ first ∈ field.spellings, ∀ second ∈ field.spellings,
        first ∈ keys entries → second ∈ keys entries → first = second := by
  constructor
  · intro once field first spellsFirst second spellsSecond memberFirst memberSecond
    cases field with
    | operator =>
        exact (List.mem_singleton.mp spellsFirst).trans
          (List.mem_singleton.mp spellsSecond).symm
    | value kind =>
        rw [spellings_value, List.mem_pair] at spellsFirst spellsSecond
        rcases spellsFirst with rfl | rfl <;> rcases spellsSecond with rfl | rfl
        · rfl
        · exact absurd memberSecond (once kind memberFirst)
        · exact absurd memberFirst (once kind memberSecond)
        · rfl
  · intro once kind first second
    have same := once (.value kind) (fieldKey kind) (by simp [spellings_value])
      (otherFieldKey kind) (by simp [spellings_value]) first second
    exact otherFieldKey_ne_fieldKey kind kind same.symm

/-- The key that counts for a field, and what it holds. -/
def given? (entries : List (Text × Document)) : Field → Option (Text × Document)
  | .value kind => field? kind entries
  | .operator => (Document.entry? operatorKey entries).map (operatorKey, ·)

theorem gives_iff_given? {field : Field}
    (once : SpelledOnce entries) :
    Gives entries field document ↔
      ∃ key, given? entries field = some (key, document) := by
  cases field with
  | operator => simp [Gives, spellings_operator, given?]
  | value kind =>
      simp only [Gives, spellings_value, List.mem_pair, given?, field?_eq_some_iff]
      constructor
      · rintro ⟨key, spells, given⟩
        have member : key ∈ keys entries := mem_keys_iff.mpr ⟨document, given⟩
        refine ⟨key, given, ?_⟩
        rcases spells with rfl | rfl
        · exact .inl rfl
        · exact .inr ⟨rfl, fun first => once kind first member⟩
      · rintro ⟨key, given, isFirst | ⟨isOther, _⟩⟩
        · exact ⟨key, .inl isFirst, given⟩
        · exact ⟨key, .inr isOther, given⟩

end Keys

/-! ## Fields -/

namespace Field

/-- What is read from a field that holds the document: nothing from null. -/
inductive Yields : Field → Document → Option Content → Prop where
  | null (kind : Value.Kind) : Yields (.value kind) .null none
  | boolean (truth : Bool) :
      Yields (.value .boolean) (.boolean truth) (some (.boolean truth))
  | integer (number : Int128) :
      Yields (.value .integer) (.integer number.val) (some (.integer number))
  | float (number : Binary64) :
      Yields (.value .float) (.float number) (some (.float number))
  | floatOfInteger (number : Int) :
      Yields (.value .float) (.integer number) (some (.floatOfInteger number))
  | string (text : Text) :
      Yields (.value .string) (.string text) (some (.string text))
  | operator (known : Instruction) :
      Yields .operator (.string (Text.ofString known.name))
        (some (.operator (.instruction known)))

theorem exists_yields_iff {field : Field} {document : Document} :
    (∃ result, field.Yields document result) ↔ field.Admits document := by
  constructor
  · rintro ⟨result, yields⟩
    cases yields with
    | null kind => exact .null kind
    | boolean truth => exact .boolean truth
    | integer number => exact .integer number.inRange_val
    | float number => exact .float number
    | floatOfInteger number => exact .floatOfInteger number
    | string text => exact .string text
    | operator known => exact .operator known
  · intro admits
    cases admits with
    | null kind => exact ⟨_, .null kind⟩
    | boolean truth => exact ⟨_, .boolean truth⟩
    | integer range => exact ⟨_, .integer ⟨_, range.1, range.2⟩⟩
    | float number => exact ⟨_, .float number⟩
    | floatOfInteger number => exact ⟨_, .floatOfInteger number⟩
    | string text => exact ⟨_, .string text⟩
    | operator known => exact ⟨_, .operator known⟩

theorem Yields.isSome_iff {field : Field} {document : Document}
    {result : Option Content} (yields : field.Yields document result) :
    result.isSome = true ↔ document ≠ .null := by
  cases yields <;> simp

end Field

section Fields

variable {place : List Step} {entries : List (Text × Document)} {kind : Value.Kind}
  {document : Document} {field : Field}

theorem checkValue_eq_ok_iff {content : Content} :
    checkValue place kind document = .ok content ↔
      Field.Yields (.value kind) document (some content) := by
  constructor
  · intro accepted
    unfold checkValue at accepted
    split at accepted
    case h_1 =>
      cases accepted
      exact .boolean _
    case h_3 =>
      split at accepted
      · next found =>
          cases accepted
          rw [← Int128.ofInt?_eq_some_iff.mp found]
          exact .integer _
      · split at accepted <;> cases accepted
    case h_5 =>
      cases accepted
      exact .floatOfInteger _
    case h_6 =>
      cases accepted
      exact .float _
    case h_8 =>
      cases accepted
      exact .string _
    all_goals cases accepted
  · intro yields
    cases yields <;> simp [checkValue]

theorem resolve_eq_ok_iff {operator : Operator} :
    resolve (some instructionNames) document = .ok operator ↔
      Field.Yields .operator document (some (.operator operator)) := by
  constructor
  · intro resolved
    cases document with
    | string name =>
        simp only [resolve, instructionNames] at resolved
        cases named : Instruction.ofName? name with
        | none => simp [named] at resolved
        | some known =>
            rw [named] at resolved
            cases resolved
            have nameEq := List.find?_some named
            rw [← eq_of_beq nameEq]
            exact .operator known
    | _ =>
        simp only [resolve] at resolved
        split at resolved <;> cases resolved
  · intro yields
    cases yields with
    | operator known => exact resolve_name known

/-- The check of what a field holds, at the place of the document. -/
def readField (place : List Step) : Field → Document → Check (Option Content)
  | .value _, .null => .ok none
  | .value kind, document => (checkValue place kind document).map some
  | .operator, document =>
    match resolve (some instructionNames) document with
    | .ok operator => .ok (some (.operator operator))
    | .error cause => .error [⟨place, cause⟩]

theorem readField_eq_ok_iff {result : Option Content} :
    readField place field document = .ok result ↔ field.Yields document result := by
  constructor
  · intro read
    unfold readField at read
    split at read
    · cases read
      exact .null _
    · obtain ⟨content, checked, rfl⟩ := exists_of_map_eq_ok read
      exact checkValue_eq_ok_iff.mp checked
    · split at read
      · next resolved =>
          cases read
          exact resolve_eq_ok_iff.mp resolved
      · cases read
  · intro yields
    cases yields with
    | null kind => rfl
    | operator known => simp only [readField, resolve_name]
    | _ => simp [readField, checkValue, Except.map]

/-- The check of a field of an element. -/
def checkOf (place : List Step) (entries : List (Text × Document)) :
    Field → Check (Option Content)
  | .value kind => checkField place entries kind
  | .operator => checkOperator (some instructionNames) none place entries

theorem checkOf_eq_readField :
    checkOf place entries field =
      match given? entries field with
      | none => .ok none
      | some (key, document) => readField (place ++ [.key key]) field document := by
  cases field with
  | value kind =>
      simp only [checkOf, checkField, given?]
      cases field? kind entries with
      | none => rfl
      | some entry =>
          obtain ⟨key, document⟩ := entry
          cases document <;> rfl
  | operator =>
      simp only [checkOf, checkOperator, given?]
      cases Document.entry? operatorKey entries with
      | none => rfl
      | some document =>
          simp only [Option.map_some, readField]
          cases resolve (some instructionNames) document <;> rfl

/-- A field is read as what the document yields that it is given as. -/
theorem checkOf_eq_ok_iff {result : Option Content}
    (once : SpelledOnce entries) :
    checkOf place entries field = .ok result ↔
      (∃ document, Gives entries field document ∧ field.Yields document result) ∨
        (∀ document, ¬Gives entries field document) ∧ result = none := by
  simp only [gives_iff_given? once, checkOf_eq_readField]
  cases given? entries field with
  | none => simp [eq_comm]
  | some entry =>
      obtain ⟨key, document⟩ := entry
      simp [readField_eq_ok_iff]

theorem gives_unique {other : Document}
    (once : SpelledOnce entries)
    (gives : Gives entries field document) (givesOther : Gives entries field other) :
    document = other := by
  obtain ⟨key, given⟩ := (gives_iff_given? once).mp gives
  obtain ⟨otherKey, givenOther⟩ := (gives_iff_given? once).mp givesOther
  rw [given] at givenOther
  cases givenOther
  rfl

theorem exists_checkOf_iff
    (once : SpelledOnce entries) :
    (∃ result, checkOf place entries field = .ok result) ↔
      ∀ document, Gives entries field document → field.Admits document := by
  constructor
  · rintro ⟨result, ok⟩ document gives
    rcases (checkOf_eq_ok_iff once).mp ok with ⟨other, givesOther, yields⟩ | ⟨none, _⟩
    · cases gives_unique once gives givesOther
      exact Field.exists_yields_iff.mp ⟨result, yields⟩
    · exact absurd gives (none document)
  · intro admitted
    by_cases given : ∃ document, Gives entries field document
    · obtain ⟨document, gives⟩ := given
      obtain ⟨result, yields⟩ := Field.exists_yields_iff.mpr (admitted document gives)
      exact ⟨result, (checkOf_eq_ok_iff once).mpr (.inl ⟨document, gives, yields⟩)⟩
    · exact ⟨none, (checkOf_eq_ok_iff once).mpr (.inr ⟨not_exists.mp given, rfl⟩)⟩

theorem isGiven_iff {result : Option Content}
    (once : SpelledOnce entries)
    (ok : checkOf place entries field = .ok result) :
    IsGiven entries field ↔ result.isSome = true := by
  rcases (checkOf_eq_ok_iff once).mp ok with ⟨document, gives, yields⟩ | ⟨none, rfl⟩
  · rw [yields.isSome_iff]
    constructor
    · rintro ⟨other, givesOther, given⟩
      rwa [gives_unique once gives givesOther]
    · exact fun given => ⟨document, gives, given⟩
  · simp [IsGiven, none]

theorem checkValue_ne_error_nil : checkValue place kind document ≠ .error [] := by
  unfold checkValue
  split
  case h_3 =>
    split
    · exact nofun
    · split <;> exact nofun
  all_goals exact nofun

theorem map_ne_error_nil {α β : Type} {check : Check α} {change : α → β}
    (finds : check ≠ .error []) : check.map change ≠ .error [] := by
  cases check with
  | ok result => exact nofun
  | error found => simpa [Except.map] using finds

/-- A check that fails has found something. -/
theorem problems_checkOf_eq_nil_iff :
    problems (checkOf place entries field) = [] ↔
      ∃ result, checkOf place entries field = .ok result := by
  have readFinds : ∀ place document, readField place field document ≠ .error [] := by
    intro place document
    unfold readField
    split
    · exact nofun
    · exact map_ne_error_nil checkValue_ne_error_nil
    · split <;> exact nofun
  have finds : checkOf place entries field ≠ .error [] := by
    rw [checkOf_eq_readField]
    split
    · exact nofun
    · exact readFinds _ _
  cases checked : checkOf place entries field with
  | ok result => simp [problems]
  | error found =>
      rw [checked] at finds
      simpa [problems] using finds

end Fields

/-! ## Elements -/

/-- The fields in the order in which they are checked. -/
def fields : List Field := kinds.map .value ++ [.operator]

theorem mem_fields (field : Field) : field ∈ fields := by
  cases field with
  | value kind => cases kind <;> decide
  | operator => decide

theorem nodup_fields : fields.Nodup := by
  decide

/-- A single result comes from a single element. -/
theorem filterMap_eq_singleton_iff {α β : Type} {select : α → Option β}
    {list : List α} (nodup : list.Nodup) {result : β} :
    list.filterMap select = [result] ↔
      ∃ element ∈ list, select element = some result ∧
        ∀ other ∈ list, other ≠ element → select other = none := by
  constructor
  · intro selected
    obtain ⟨before, element, after, rfl, beforeNone, selects, afterNone⟩ :=
      List.filterMap_eq_cons_iff.mp selected
    refine ⟨element, by simp, selects, ?_⟩
    intro other member different
    rcases List.mem_append.mp member with inBefore | inRest
    · exact beforeNone other inBefore
    · rcases List.mem_cons.mp inRest with isElement | inAfter
      · exact absurd isElement different
      · exact List.filterMap_eq_nil_iff.mp afterNone other inAfter
  · rintro ⟨element, member, selects, others⟩
    obtain ⟨before, after, rfl⟩ := List.append_of_mem member
    obtain ⟨_, restNodup, apart⟩ := List.nodup_append.mp nodup
    have notAfter : element ∉ after := (List.nodup_cons.mp restNodup).1
    apply List.filterMap_eq_cons_iff.mpr
    refine ⟨before, element, after, rfl, ?_, selects, ?_⟩
    · intro other inBefore
      exact others other (by simp [inBefore]) (apart other inBefore element (by simp))
    · apply List.filterMap_eq_nil_iff.mpr
      intro other inAfter
      exact others other (by simp [inAfter]) (ne_of_mem_of_not_mem inAfter notAfter)

section Elements

variable {place : List Step} {entries : List (Text × Document)} {content : Content}

/-- An element is accepted if all keys count, no field has a problem and exactly one
field gives a result. -/
theorem checkEntries_eq_ok_iff :
    checkEntries (some instructionNames) none place entries = .ok content ↔
      (∀ key ∈ keys entries, hasSurrogate key = false) ∧
        (∀ key ∈ keys entries, key ∈ usedKeys entries) ∧
        (∀ field, ∃ result, checkOf place entries field = .ok result) ∧
        fields.filterMap (fun field => result? (checkOf place entries field)) =
          [content] := by
  have checksEq : kinds.map (checkField place entries) ++
      [checkOperator (some instructionNames) none place entries] =
        fields.map (checkOf place entries) := rfl
  have unicode : (entries.any fun entry => hasSurrogate entry.1) = false ↔
      ∀ key ∈ keys entries, hasSurrogate key = false := by
    simp [keys]
  have noExtras : extraKeys entries = [] ↔
      ∀ key ∈ keys entries, key ∈ usedKeys entries := by
    simp [extraKeys, keys]
  have noProblems : (fields.map (checkOf place entries)).flatMap problems = [] ↔
      ∀ field, ∃ result, checkOf place entries field = .ok result := by
    simp [List.flatMap_eq_nil_iff, problems_checkOf_eq_nil_iff, mem_fields]
  have resultsEq : (fields.map (checkOf place entries)).filterMap result? =
      fields.filterMap (fun field => result? (checkOf place entries field)) :=
    List.filterMap_map
  rw [← unicode, ← noExtras, ← noProblems]
  simp only [checkEntries, checksEq, resultsEq]
  cases entries.any fun entry => hasSurrogate entry.1 with
  | true => simp
  | false =>
      cases (fields.map (checkOf place entries)).flatMap problems with
      | cons problem found => simp
      | nil =>
          cases extraKeys entries with
          | cons key others => simp
          | nil =>
              generalize fields.filterMap (fun field =>
                result? (checkOf place entries field)) = results
              rcases results with _ | ⟨first, _ | ⟨second, others⟩⟩ <;> simp

/-- The element is accepted with what its only field yields. -/
theorem checkEntries_eq_ok_iff_isElement :
    checkEntries (some instructionNames) none place entries = .ok content ↔
      IsElement entries ∧ ∃ field document, Gives entries field document ∧
        field.Yields document (some content) := by
  rw [checkEntries_eq_ok_iff, filterMap_eq_singleton_iff nodup_fields,
    forall_mem_usedKeys_iff]
  constructor
  · rintro ⟨_, ⟨known, once⟩, checked, field, _, selected, others⟩
    have accepted := eq_ok_of_result? selected
    have yields := ((checkOf_eq_ok_iff once).mp accepted).resolve_right (by simp)
    refine ⟨⟨known, spelledOnce_iff.mp once, ?_, field, ?_, ?_⟩, field, yields⟩
    · intro field
      exact (exists_checkOf_iff once).mp (checked field)
    · exact (isGiven_iff once accepted).mpr rfl
    · intro other isGiven
      by_contra different
      obtain ⟨result, ok⟩ := checked other
      have nothing := others other (mem_fields other) different
      rw [ok, result?] at nothing
      rw [isGiven_iff once ok, nothing] at isGiven
      cases isGiven
  · rintro ⟨⟨known, onceFields, admitted, single, _, onlyOne⟩, field, yields⟩
    have once := spelledOnce_iff.mpr onceFields
    have checked : ∀ field, ∃ result, checkOf place entries field = .ok result :=
      fun field => (exists_checkOf_iff once).mpr (admitted field)
    have accepted : checkOf place entries field = .ok (some content) :=
      (checkOf_eq_ok_iff once).mpr (.inl yields)
    have isSingle : field = single := onlyOne field ((isGiven_iff once accepted).mpr rfl)
    refine ⟨?_, ⟨known, once⟩, checked, field, mem_fields field, by rw [accepted]; rfl, ?_⟩
    · intro key member
      obtain ⟨field, spells⟩ := known key member
      exact hasSurrogate_of_mem_spellings spells
    · intro other _ different
      obtain ⟨result, ok⟩ := checked other
      have notGiven : ¬IsGiven entries other :=
        fun isGiven => different ((onlyOne other isGiven).trans isSingle.symm)
      rw [isGiven_iff once ok] at notGiven
      rw [ok, result?]
      simpa using notGiven

theorem IsElement.gives_unique {field other : Field}
    {document otherDocument : Document} (isElement : IsElement entries)
    (gives : Gives entries field document) (given : document ≠ .null)
    (givesOther : Gives entries other otherDocument) (otherGiven : otherDocument ≠ .null) :
    field = other ∧ document = otherDocument := by
  obtain ⟨single, _, onlyOne⟩ := isElement.single
  have isSingle : field = single := onlyOne field ⟨document, gives, given⟩
  have otherIsSingle : other = single := onlyOne other ⟨otherDocument, givesOther, otherGiven⟩
  subst isSingle otherIsSingle
  exact ⟨rfl, Schema.gives_unique (spelledOnce_iff.mpr isElement.once) gives givesOther⟩

end Elements

end Schema

end StackScript
