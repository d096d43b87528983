import StackScript.Proofs.CanonicalForms

/-!
# Encoding and decoding

Decoding gives back what was encoded, and encoding what was decoded gives the
shortest bytes that stand for it.  The first holds for every table of operators
that knows the operators of the script under their opcodes.  The second is stated
for the instructions of the calculator.
-/

namespace StackScript

namespace Wire

/-- The wire carries the item to a reader with the given operators: the operator
has an opcode of seven bits under which it is known, or the value is not a text
that holds a surrogate or whose length cannot be counted. -/
def Portable (operators : OpcodeTable) : Item → Prop
  | .operator held =>
    ∃ opcode, held.opcode? = some opcode ∧ 0 ≤ opcode ∧ opcode ≤ 0x7F ∧
      operators opcode = some held
  | .datum (.value (.string text)) =>
    Utf8.IsWellFormed text ∧
      (text.flatMap Utf8.encodePoint).length < 2 ^ 128
  | .datum (.value _) => True
  | .datum _ => False

theorem portable_instruction (instruction : Instruction) :
    Portable instructionTable (.instruction instruction) := by
  refine ⟨instruction.opcode, rfl, Int.natCast_nonneg _, ?_, ?_⟩
  · cases instruction <;> decide
  · rw [instructionTable, Instruction.ofOpcode?_opcode]
    rfl

theorem exists_form_of_portable {operators : OpcodeTable} {item : Item}
    (portable : Portable operators item) :
    ∃ form, Form item form ∧ Chunk (some operators) item form := by
  cases item with
  | operator held =>
      obtain ⟨opcode, opcodeEq, lower, upper, known⟩ := portable
      exact ⟨_, .operator opcodeEq lower upper,
        chunk_operator lower upper known⟩
  | datum datum =>
      cases datum with
      | creature held => exact portable.elim
      | foreign held => exact portable.elim
      | value value =>
          cases value with
          | boolean truth => exact ⟨_, .boolean truth, .boolean truth⟩
          | float number => exact ⟨_, .float number, chunk_float _ number⟩
          | integer number =>
              exact ⟨_, .integer number, chunk_integer _ number⟩
          | string text =>
              obtain ⟨wellFormed, countable⟩ := portable
              have encoded := Utf8.encode_eq_ok_iff.mpr ⟨wellFormed, rfl⟩
              by_cases empty : text = []
              · subst empty
                exact ⟨_, .emptyText, .emptyText⟩
              · exact ⟨_, .text empty encoded countable,
                  chunk_text _ encoded countable⟩

theorem exists_forms_of_portable {operators : OpcodeTable} {script : Script}
    (portable : ∀ item ∈ script, Portable operators item) :
    ∃ forms, Concatenation Form script forms ∧
      Chunks (some operators) script forms := by
  induction script with
  | nil => exact ⟨[], .nil, .nil⟩
  | cons item rest ih =>
      obtain ⟨itemPortable, restPortable⟩ := List.forall_mem_cons.mp portable
      obtain ⟨form, isForm, formChunk⟩ := exists_form_of_portable itemPortable
      obtain ⟨forms, areForms, formChunks⟩ := ih restPortable
      exact ⟨form ++ forms, .cons isForm areForms, .cons formChunk formChunks⟩

/-- Every script of portable items can be encoded, and decoding gives it back.
The instructions of the calculator are portable. -/
theorem decode_encode_of_portable :
    (∀ instruction,
      Portable instructionTable (.instruction instruction)) ∧
    ∀ (operators : OpcodeTable) (script : Script),
      (∀ item ∈ script, Portable operators item) →
        ∃ bytes, encode script = .ok bytes ∧
          decode (some operators) bytes = .ok script := by
  refine ⟨portable_instruction, ?_⟩
  intro operators script portable
  obtain ⟨forms, areForms, formChunks⟩ := exists_forms_of_portable portable
  exact ⟨forms.toArray, encode_of_forms areForms,
    decode_eq_ok_iff.mpr formChunks⟩

/-- A record that the caller's table lists under the opcode 127 comes back, as do
the least integer, a NaN with its sign and payload, and a text of all four
widths. -/
theorem decode_encode_of_portable_record :
    let mark : Operator := .record "mark" (.integer 0x7F)
    let operators : OpcodeTable := fun opcode =>
      if opcode = 0x7F then some mark else none
    let script : Script :=
      [.operator mark, .value (.integer ⟨-2 ^ 127, by decide, by decide⟩),
        .value (.float ⟨0xFFF8000000000123⟩),
        .value (.string [0x24, 0xA3, 0x20AC, 0x10348]), .value (.string [])]
    (∀ item ∈ script, Portable operators item) ∧
      ∃ bytes, encode script = .ok bytes ∧
        decode (some operators) bytes = .ok script := by
  intro mark operators script
  have portable : ∀ item ∈ script, Portable operators item := by
    simp only [script, List.forall_mem_cons]
    refine ⟨⟨0x7F, rfl, by decide, by decide, rfl⟩, trivial, trivial, ?_, ?_, ?_⟩
    · exact ⟨by decide, by decide⟩
    · exact ⟨by decide, by decide⟩
    · simp
  exact ⟨portable, decode_encode_of_portable.2 operators script portable⟩

/-! ## The shortest bytes -/

theorem faithful_instructionTable : Faithful instructionTable := by
  intro opcode held known
  obtain ⟨instruction, found, rfl⟩ := Option.map_eq_some_iff.mp known
  have matched := List.find?_some found
  rw [beq_iff_eq] at matched
  exact congrArg some matched

/-- What decoding accepts is encoded again in no more bytes, and in other bytes
only if they are fewer. -/
theorem encode_of_decode {data : Array UInt8} {script : Script}
    (countable : data.size < 2 ^ 128)
    (decoded : decode (some instructionTable) data = .ok script) :
    ∃ canonical, encode script = .ok canonical ∧
      decode (some instructionTable) canonical = .ok script ∧
      canonical.size ≤ data.size ∧
      (canonical.size = data.size → canonical = data) := by
  obtain ⟨forms, areForms, formChunks, atMost⟩ := exists_forms_of_chunks
    faithful_instructionTable (decode_eq_ok_iff.mp decoded) countable
  refine ⟨forms.toArray, encode_of_forms areForms,
    decode_eq_ok_iff.mpr formChunks, atMost.length_le, ?_⟩
  intro sizeEq
  rw [atMost.eq_of_length_eq sizeEq]

/-- Decodes and encodes again. -/
def recode (data : Array UInt8) : Option (Array UInt8) :=
  match decode (some instructionTable) data with
  | .ok script => (encode script).toOption
  | .error _ => none

theorem recode_eq_some {data canonical : Array UInt8} {script : Script}
    (decoded : decode (some instructionTable) data = .ok script)
    (encoded : encode script = .ok canonical) :
    recode data = some canonical := by
  simp only [recode, decoded, encoded, Except.toOption]

/-- What decoding accepts has one shortest form, and encoding gives it.  Decoding
and encoding again changes nothing after the first time, and nothing at all exactly
if no fewer bytes decode to the same script. -/
theorem encode_is_shortest {data : Array UInt8} {script : Script}
    (countable : data.size < 2 ^ 128)
    (decoded : decode (some instructionTable) data = .ok script) :
    ∃ canonical, encode script = .ok canonical ∧
      decode (some instructionTable) canonical = .ok script ∧
      canonical.size ≤ data.size ∧
      (canonical.size = data.size → canonical = data) ∧
      recode data = some canonical ∧ recode canonical = some canonical ∧
      (recode data = some data ↔
        ∀ other, decode (some instructionTable) other = .ok script →
          data.size ≤ other.size) := by
  obtain ⟨canonical, encoded, restored, sizeLe, eqOfSize⟩ :=
    encode_of_decode countable decoded
  have recoded := recode_eq_some decoded encoded
  refine ⟨canonical, encoded, restored, sizeLe, eqOfSize, recoded,
    recode_eq_some restored encoded, ?_⟩
  rw [recoded, Option.some_inj]
  constructor
  · rintro rfl other otherDecoded
    apply Nat.not_lt.mp
    intro shorter
    obtain ⟨otherCanonical, otherEncoded, _, otherSizeLe, _⟩ :=
      encode_of_decode (Nat.lt_trans shorter countable) otherDecoded
    rw [encoded] at otherEncoded
    cases otherEncoded
    omega
  · intro shortest
    exact eqOfSize (Nat.le_antisymm sizeLe (shortest canonical restored))

/-- The empty text with a length and an integer with a zero byte too many are
decoded, and they are encoded without. -/
theorem encode_is_shortest_padded :
    (#[0x14, 0x00, 0x04, 0x05, 0x00] : Array UInt8).size < 2 ^ 128 ∧
      decode (some instructionTable) #[0x14, 0x00, 0x04, 0x05, 0x00] =
        .ok [.value (.string []), .value (.integer ⟨5, by decide, by decide⟩)] ∧
      recode #[0x14, 0x00, 0x04, 0x05, 0x00] = some #[0x13, 0x03, 0x05] := by
  have countable : (#[0x14, 0x00, 0x04, 0x05, 0x00] : Array UInt8).size <
      2 ^ 128 := by
    decide
  have decoded : decode (some instructionTable)
      #[0x14, 0x00, 0x04, 0x05, 0x00] = .ok [.value (.string []),
        .value (.integer ⟨5, by decide, by decide⟩)] :=
    rfl
  obtain ⟨canonical, encoded, _, _, _, recoded, _⟩ :=
    encode_is_shortest countable decoded
  have canonicalEq : canonical = #[0x13, 0x03, 0x05] :=
    (Except.ok.inj encoded).symm
  rw [canonicalEq] at recoded
  exact ⟨countable, decoded, recoded⟩

end Wire
end StackScript
