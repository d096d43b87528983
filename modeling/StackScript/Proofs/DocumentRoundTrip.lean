import StackScript.Proofs.ProgramSoundness

/-!
# Scripts as documents and back

The element that stands for an item has a single entry, under the key of a value's
kind or the key of operators.  Of the five fields that are looked for in an element
only that one is found, so the element is accepted if what it holds is, whatever
that may be: a false truth value, a zero and the empty text are held like any other
value.  Hence every calculation survives being written as a document and read again.
-/

namespace StackScript

namespace Schema

/-! ## Keys -/

theorem fieldKey_inj {first second : Value.Kind} :
    fieldKey first = fieldKey second ↔ first = second := by
  cases first <;> cases second <;> decide

theorem otherFieldKey_ne_fieldKey (first second : Value.Kind) :
    otherFieldKey first ≠ fieldKey second := by
  cases first <;> cases second <;> decide

theorem fieldKey_ne_operatorKey (kind : Value.Kind) :
    fieldKey kind ≠ operatorKey := by
  cases kind <;> decide

theorem otherFieldKey_ne_operatorKey (kind : Value.Kind) :
    otherFieldKey kind ≠ operatorKey := by
  cases kind <;> decide

theorem hasSurrogate_fieldKey (kind : Value.Kind) :
    hasSurrogate (fieldKey kind) = false := by
  cases kind <;> decide

theorem hasSurrogate_operatorKey : hasSurrogate operatorKey = false := by
  decide

theorem mem_kinds (kind : Value.Kind) : kind ∈ kinds := by
  cases kind <;> decide

theorem entry?_single (key other : Text) (document : Document) :
    Document.entry? other [(key, document)] =
      if other = key then some document else none := by
  by_cases equal : other = key
  · simp [Document.entry?, equal]
  · simp [Document.entry?, List.lookup_cons, equal,
      beq_eq_false_iff_ne.mpr equal]

theorem field?_fieldKey (kind other : Value.Kind) (document : Document) :
    field? other [(fieldKey kind, document)] =
      if other = kind then some (fieldKey kind, document) else none := by
  by_cases equal : other = kind
  · simp [field?, entry?_single, equal]
  · simp [field?, entry?_single, equal, fieldKey_inj, otherFieldKey_ne_fieldKey]

theorem field?_operatorKey (kind : Value.Kind) (document : Document) :
    field? kind [(operatorKey, document)] = none := by
  simp [field?, entry?_single, fieldKey_ne_operatorKey,
    otherFieldKey_ne_operatorKey]

/-! ## Elements with a single entry -/

section Single

variable {table : Option NameTable} {place : List Step} {document : Document}
  {content : Content}

/-- An element is accepted if all keys count, all fields are accepted and exactly
one of them holds something. -/
theorem checkEntries_of_fields {entries : List (Text × Document)}
    (found : List (Option Content))
    (unicode : ∀ entry ∈ entries, hasSurrogate entry.1 = false)
    (allCount : ∀ entry ∈ entries, entry.1 ∈ usedKeys entries)
    (checked : kinds.map (checkField place entries) ++
      [checkOperator table none place entries] = found.map .ok)
    (single : found.filterMap id = [content]) :
    checkEntries table none place entries = .ok content := by
  have noSurrogate : (entries.any fun entry => hasSurrogate entry.1) = false := by
    simpa using unicode
  have noExtras : extraKeys entries = [] := by
    simpa [extraKeys] using allCount
  have noProblems : (found.map Except.ok).flatMap problems = [] := by
    simp [problems]
  have results : (found.map Except.ok).filterMap result? = [content] := by
    rw [List.filterMap_map]
    exact single
  simp only [checkEntries, noSurrogate, noExtras, checked, noProblems, results]
  rfl

/-- A single entry under the key of a kind is checked as a value of that kind. -/
theorem checkEntries_fieldKey {kind : Value.Kind} (given : document ≠ .null)
    (accepted : checkValue (place ++ [.key (fieldKey kind)]) kind document =
      .ok content) :
    checkEntries table none place [(fieldKey kind, document)] = .ok content := by
  have fields : ∀ other,
      checkField place [(fieldKey kind, document)] other =
        .ok (if other = kind then some content else none) := by
    intro other
    by_cases equal : other = kind
    · subst equal
      simp [checkField, field?_fieldKey, accepted, Except.map]
    · simp [checkField, field?_fieldKey, equal]
  have noOperator :
      checkOperator table none place [(fieldKey kind, document)] = .ok none := by
    simp [checkOperator, entry?_single, (fieldKey_ne_operatorKey kind).symm]
  have used : fieldKey kind ∈ usedKeys [(fieldKey kind, document)] := by
    apply List.mem_append_left
    exact List.mem_filterMap.mpr ⟨kind, mem_kinds kind, by simp [field?_fieldKey]⟩
  apply checkEntries_of_fields
    (kinds.map (fun other => if other = kind then some content else none) ++ [none])
  · simpa using hasSurrogate_fieldKey kind
  · simpa using used
  · simp [fields, noOperator]
  · cases kind <;> rfl

/-- A single entry under the key of operators is resolved as a name. -/
theorem checkEntries_operatorKey {operator : Operator}
    (resolved : resolve table document = .ok operator) :
    checkEntries table none place [(operatorKey, document)] =
      .ok (.operator operator) := by
  have fields : checkField place [(operatorKey, document)] =
      fun _ => .ok none := by
    funext kind
    simp only [checkField, field?_operatorKey]
  have named : checkOperator table none place [(operatorKey, document)] =
      .ok (some (.operator operator)) := by
    simp [checkOperator, entry?_single, resolved]
  apply checkEntries_of_fields
    (kinds.map (fun _ => none) ++ [some (.operator operator)])
  · simpa using hasSurrogate_operatorKey
  · simp [usedKeys]
  · rw [fields, named]
    rfl
  · rfl

end Single

/-! ## Items -/

/-- What the element of a value holds. -/
def contentOf : Value → Content
  | .boolean truth => .boolean truth
  | .float number => .float number
  | .integer number => .integer number
  | .string text => .string text

theorem toItem_contentOf (value : Value) :
    (contentOf value).toItem = .ok (.value value) := by
  cases value <;> rfl

theorem checkValue_documentOfPayload (place : List Step) (value : Value) :
    checkValue place value.kind (documentOfPayload value) =
      .ok (contentOf value) := by
  cases value <;> simp [checkValue, documentOfPayload, contentOf, Value.kind]

theorem documentOfPayload_ne_null (value : Value) :
    documentOfPayload value ≠ .null := by
  cases value <;> exact nofun

theorem resolve_name (instruction : Instruction) :
    resolve (some instructionNames) (.string (Text.ofString instruction.name)) =
      .ok (.instruction instruction) := by
  simp [resolve, instructionNames]

/-- Every calculation has an element, and that is accepted for the calculation. -/
theorem exists_element_of_isCalculation {item : Item}
    (calculation : item.IsCalculation) :
    ∃ element content, elementOf item = .ok element ∧
      content.toItem = .ok item ∧
      ∀ form position, checkElement (some instructionNames) form none position
        element = .ok content := by
  cases calculation with
  | instruction known =>
      exact ⟨_, .operator (.instruction known), rfl, rfl,
        fun form position => checkEntries_operatorKey (resolve_name known)⟩
  | value held =>
      exact ⟨_, contentOf held, rfl, toItem_contentOf held,
        fun form position => checkEntries_fieldKey (documentOfPayload_ne_null held)
          (checkValue_documentOfPayload _ held)⟩

/-! ## Scripts -/

theorem exists_elements_of_calculations {script : Script}
    (calculations : ∀ item ∈ script, item.IsCalculation) :
    ∃ elements contents, elementsOf script = .ok elements ∧
      toItems contents = .ok script ∧
      ∀ form position, checkElements (some instructionNames) form (fun _ => none)
        position elements = .ok contents := by
  induction script with
  | nil => exact ⟨[], [], rfl, rfl, fun _ _ => rfl⟩
  | cons item script ih =>
      obtain ⟨first, others⟩ := List.forall_mem_cons.mp calculations
      obtain ⟨element, content, printed, built, accepted⟩ :=
        exists_element_of_isCalculation first
      obtain ⟨elements, contents, othersPrinted, othersBuilt, othersAccepted⟩ :=
        ih others
      refine ⟨element :: elements, content :: contents, ?_, ?_, ?_⟩
      · simp [elementsOf, printed, othersPrinted, Except.map]
      · simp [toItems, built, othersBuilt, Except.map]
      · intro form position
        simp [checkElements, accepted, othersAccepted]

theorem firstOther?_eq_none {script : Script}
    (calculations : ∀ item ∈ script, item.IsCalculation) :
    firstOther? script = none := by
  apply List.findSome?_eq_none_iff.mpr
  intro item member
  cases calculations item member <;> rfl

/-- Calculations have a document, and reading it gives them back. -/
theorem exists_document_of_calculations {script : Script}
    (calculations : ∀ item ∈ script, item.IsCalculation) :
    ∃ document, documentOf script = .ok document ∧
      scriptOf (some instructionNames) document = .ok script := by
  obtain ⟨elements, contents, printed, built, accepted⟩ :=
    exists_elements_of_calculations calculations
  refine ⟨.array elements, ?_, ?_⟩
  · simp [documentOf, firstOther?_eq_none calculations, printed, Except.map]
  · simp [scriptOf, scriptOfResolved, check, accepted, finish, built]

/-- Every script of calculations has a document that is accepted for the script.
So what a document is accepted for can be written as a document again, and that is
accepted for the same. -/
theorem documents_round_trip :
    (∀ script : Script, (∀ item ∈ script, item.IsCalculation) →
      ∃ document, documentOf script = .ok document ∧
        scriptOf (some instructionNames) document = .ok script) ∧
    (∀ document script, scriptOf (some instructionNames) document = .ok script →
      ∃ printed, documentOf script = .ok printed ∧
        scriptOf (some instructionNames) printed = .ok script) := by
  refine ⟨fun script => exists_document_of_calculations, ?_⟩
  intro document script accepted
  exact exists_document_of_calculations (isCalculation_of_scriptOf accepted)

/-- False, zeros, the empty text, a text of a lone surrogate, a NaN with a payload
and the lowest integer come back.  A document that spells a key in the other way
and has a null beside it is accepted, and so is what is written in its place. -/
theorem documents_round_trip_falsy :
    let script : Script :=
      [.value (.boolean false), .value (.integer ⟨0, by decide, by decide⟩),
        .value (.float ⟨0x8000000000000000⟩), .value (.string []),
        .value (.string [0xD800]), .value (.float ⟨0xFFF8000000000001⟩),
        .value (.integer ⟨-2 ^ 127, by decide, by decide⟩), .instruction .ifTrue]
    let document : Document :=
      .array [.object [(otherFieldKey .string, .string []),
        (fieldKey .integer, .null)]]
    (∀ item ∈ script, item.IsCalculation) ∧
      (∃ printed, documentOf script = .ok printed ∧
        scriptOf (some instructionNames) printed = .ok script) ∧
      scriptOf (some instructionNames) document = .ok [.value (.string [])] ∧
      ∃ printed, documentOf [.value (.string [])] = .ok printed ∧
        scriptOf (some instructionNames) printed = .ok [.value (.string [])] := by
  intro script document
  have calculations : ∀ item ∈ script, item.IsCalculation := by decide
  have accepted : scriptOf (some instructionNames) document =
      .ok [.value (.string [])] := rfl
  exact ⟨calculations, documents_round_trip.1 script calculations, accepted,
    documents_round_trip.2 document _ accepted⟩

end Schema

end StackScript
