import StackScript.Arithmetic
import StackScript.Proofs.WireRoundTrip

/-!
# Equal scripts have equal bytes

Bytes can start with the chunk of one item only, so a script can be told from any
other script by its bytes, and from the beginning of any longer one.  Encoding an
instruction writes nothing but its opcode.  That is also all that equality asks of
an instruction next to a number, so without floating-point numbers, which forgive
small differences, two scripts are equal exactly if their bytes are.
-/

namespace StackScript

namespace Wire

/-! ## Chunks are unambiguous -/

theorem Chunk.unambiguous {table : Option OpcodeTable} {item other : Item}
    {chunk otherChunk rest others : List UInt8} (held : Chunk table item chunk)
    (otherHeld : Chunk table other otherChunk)
    (sameBytes : chunk ++ rest = otherChunk ++ others) :
    item = other ∧ chunk = otherChunk := by
  have facing := Cursor.facing_start (chunk ++ rest).toArray
  have read := held.reads _ rest facing
  rw [sameBytes] at facing read
  rw [otherHeld.reads _ others facing] at read
  injection read with itemEq cursorEq
  have lengthEq : (otherChunk.length : Int) = chunk.length := by
    simpa [Cursor.moved] using cursorEq
  exact ⟨itemEq.symm, List.append_inj_left sameBytes (by omega)⟩

/-- If the chunks of one script start those of another, the script starts the
other. -/
theorem prefix_of_chunks {table : Option OpcodeTable} {first second : Script}
    {bytes others : List UInt8} (firstChunks : Chunks table first bytes)
    (secondChunks : Chunks table second others) (starts : bytes <+: others) :
    first <+: second := by
  induction firstChunks generalizing second others with
  | nil => exact List.nil_prefix
  | @cons item first chunk bytes held firstChunks ih =>
      obtain ⟨rest, bytesEq⟩ := starts
      rw [List.append_assoc] at bytesEq
      cases secondChunks with
      | nil =>
          have positive := held.length_pos
          simp at bytesEq
          simp [bytesEq] at positive
      | @cons other second otherChunk others otherHeld secondChunks =>
          obtain ⟨rfl, rfl⟩ := held.unambiguous otherHeld bytesEq
          rw [List.append_cancel_left_eq] at bytesEq
          exact List.cons_prefix_cons.mpr ⟨rfl, ih secondChunks ⟨rest, bytesEq⟩⟩

theorem Concatenation.exists_of_append {Part : Item → List UInt8 → Prop}
    {first second : Script} {bytes : List UInt8}
    (held : Concatenation Part (first ++ second) bytes) :
    ∃ start rest, bytes = start ++ rest ∧ Concatenation Part first start := by
  induction first generalizing bytes with
  | nil => exact ⟨[], bytes, rfl, .nil⟩
  | cons item first ih =>
      cases held with
      | @cons _ _ part others isPart held =>
          obtain ⟨start, rest, rfl, firstHeld⟩ := ih held
          exact ⟨part ++ start, rest, by simp, .cons isPart firstHeld⟩

/-- If a script starts another, its forms start those of the other. -/
theorem prefix_of_forms {first second : Script} {bytes others : List UInt8}
    (firstForms : Concatenation Form first bytes)
    (secondForms : Concatenation Form second others)
    (starts : first <+: second) : bytes <+: others := by
  obtain ⟨rest, rfl⟩ := starts
  obtain ⟨start, behind, rfl, startForms⟩ := secondForms.exists_of_append
  have encoded := encode_of_forms firstForms
  rw [encode_of_forms startForms] at encoded
  have startEq : start = bytes := by simpa using encoded
  exact ⟨behind, by rw [startEq]⟩

end Wire

/-! ## Items as they are on the wire -/

namespace Item

/-- The item as the wire carries it: an instruction is no more than its opcode. -/
def bare : Item → Item
  | .operator (.instruction known) => .operator (.foreign (.integer known.opcode))
  | item => item

/-- The item has a form on the wire, and only the same form equals it. -/
inductive IsExact : Item → Prop where
  | instruction (known : Instruction) : IsExact (.instruction known)
  | opcode {number : Int} (lower : 0 ≤ number) (upper : number ≤ 0x7F) :
      IsExact (.operator (.foreign (.integer number)))
  | boolean (truth : Bool) : IsExact (.value (.boolean truth))
  | integer (number : Int128) : IsExact (.value (.integer number))
  | string {text : Text} (wellFormed : Utf8.IsWellFormed text)
      (countable : (text.flatMap Utf8.encodePoint).length < 2 ^ 128) :
      IsExact (.value (.string text))

theorem bare_instruction_inj {first second : Instruction} :
    (Item.instruction first).bare = (Item.instruction second).bare ↔
      first = second := by
  constructor
  · intro bareEq
    injection bareEq with operatorEq
    injection operatorEq with objectEq
    injection objectEq with opcodeEq
    exact Instruction.opcode_inj.mp (Int.ofNat.inj opcodeEq)
  · rintro rfl
    rfl

theorem same_iff_bare_eq {first second : Item} (firstExact : first.IsExact)
    (secondExact : second.IsExact) :
    first.same second = true ↔ first.bare = second.bare := by
  cases firstExact <;> cases secondExact
  case instruction.instruction known other =>
      exact beq_iff_eq.trans bare_instruction_inj.symm
  all_goals
    simp [same, bare, value, instruction, Operator.same, Datum.same, Value.same,
      Foreign.same, Foreign.equalsInt, Foreign.toInt?, Int128.ext_iff]
  -- Next to a number, equality of operators is stated from the other side.
  all_goals exact eq_comm

end Item

namespace Script

theorem same_iff_map_bare_eq {first second : Script}
    (firstExact : ∀ item ∈ first, item.IsExact)
    (secondExact : ∀ item ∈ second, item.IsExact) :
    same first second = true ↔ first.map Item.bare = second.map Item.bare := by
  induction first generalizing second with
  | nil => cases second <;> simp [same]
  | cons item first ih =>
      cases second with
      | nil => simp [same]
      | cons other second =>
          obtain ⟨itemExact, restExact⟩ := List.forall_mem_cons.mp firstExact
          obtain ⟨otherExact, othersExact⟩ := List.forall_mem_cons.mp secondExact
          simp [same, Item.same_iff_bare_eq itemExact otherExact,
            ih restExact othersExact]

/-- Equality with the beginning of a script that is as long. -/
theorem same_take_iff_prefix {first second : Script}
    (firstExact : ∀ item ∈ first, item.IsExact)
    (secondExact : ∀ item ∈ second, item.IsExact) :
    same first (second.take first.length) = true ↔
      first.map Item.bare <+: second.map Item.bare := by
  have takenExact : ∀ item ∈ second.take first.length, item.IsExact :=
    fun item member => secondExact item (List.mem_of_mem_take member)
  rw [same_iff_map_bare_eq firstExact takenExact, List.map_take,
    List.prefix_iff_eq_take, List.length_map]

end Script

namespace Wire

open Writer

/-- The table in which every opcode is its own operator. -/
def bareTable : OpcodeTable := fun opcode => some (.foreign (.integer opcode))

theorem portable_bare {item : Item} (exact : item.IsExact) :
    Portable bareTable item.bare := by
  cases exact with
  | instruction known =>
      refine ⟨known.opcode, rfl, Int.natCast_nonneg _, ?_, rfl⟩
      cases known <;> decide
  | opcode lower upper => exact ⟨_, rfl, lower, upper, rfl⟩
  | boolean truth => trivial
  | integer number => trivial
  | string wellFormed countable => exact ⟨wellFormed, countable⟩

theorem writeItem_bare (item : Item) : writeItem item.bare = writeItem item := by
  unfold Item.bare
  split
  · next known => cases known <;> rfl
  · rfl

theorem encode_map_bare (script : Script) :
    encode (script.map Item.bare) = encode script := by
  have written : writeScript (script.map Item.bare) = writeScript script := by
    induction script with
    | nil => rfl
    | cons item rest ih => simp only [List.map_cons, writeScript, writeItem_bare, ih]
  rw [encode, encode, written]

theorem exists_bare_forms {script : Script}
    (exact : ∀ item ∈ script, item.IsExact) :
    ∃ bytes, Concatenation Form (script.map Item.bare) bytes ∧
      Chunks (some bareTable) (script.map Item.bare) bytes ∧
      encode script = .ok bytes.toArray := by
  obtain ⟨bytes, forms, chunks⟩ := exists_forms_of_portable
    (List.forall_mem_map.mpr fun item member => portable_bare (exact item member))
  refine ⟨bytes, forms, chunks, ?_⟩
  rw [← encode_map_bare]
  exact encode_of_forms forms

/-- Scripts without floating-point numbers are equal exactly if their bytes are.
The bytes of one start those of another exactly if it equals the beginning of the
other. -/
theorem encode_identifies_scripts {first second : Script}
    (firstExact : ∀ item ∈ first, item.IsExact)
    (secondExact : ∀ item ∈ second, item.IsExact) :
    ∃ bytes others, encode first = .ok bytes ∧ encode second = .ok others ∧
      (first.same second = true ↔ bytes = others) ∧
      (bytes.toList <+: others.toList ↔
        first.same (second.take first.length) = true) := by
  obtain ⟨bytes, firstForms, firstChunks, encoded⟩ := exists_bare_forms firstExact
  obtain ⟨others, secondForms, secondChunks, othersEncoded⟩ :=
    exists_bare_forms secondExact
  refine ⟨bytes.toArray, others.toArray, encoded, othersEncoded, ?_, ?_⟩
  · rw [Script.same_iff_map_bare_eq firstExact secondExact]
    constructor
    · intro bareEq
      have sameEncoded := encode_of_forms firstForms
      rw [bareEq, encode_of_forms secondForms] at sameEncoded
      exact (Except.ok.inj sameEncoded).symm
    · intro bytesEq
      cases bytesEq
      have decoded := decode_eq_ok_iff.mpr firstChunks
      rw [decode_eq_ok_iff.mpr secondChunks] at decoded
      exact (Except.ok.inj decoded).symm
  · rw [Script.same_take_iff_prefix firstExact secondExact]
    exact ⟨prefix_of_chunks firstChunks secondChunks,
      prefix_of_forms firstForms secondForms⟩

/-- An instruction and the number that is its opcode are the same on the wire, and
an integer behind them makes the difference. -/
theorem encode_identifies_scripts_opcode :
    let first : Script := [.instruction .add, .value (.string [0x20AC])]
    let second : Script :=
      [.operator (.foreign (.integer 0)), .value (.string [0x20AC]),
        .value (.integer ⟨-1, by decide, by decide⟩)]
    (∀ item ∈ first, item.IsExact) ∧ (∀ item ∈ second, item.IsExact) ∧
      ∃ bytes others, encode first = .ok bytes ∧ encode second = .ok others ∧
        bytes.toList <+: others.toList ∧ bytes ≠ others := by
  intro first second
  have textExact : (Item.value (.string [0x20AC])).IsExact :=
    .string (by decide) (by decide)
  have firstExact : ∀ item ∈ first, item.IsExact := by
    simp only [first, List.forall_mem_cons]
    exact ⟨.instruction .add, textExact, by simp⟩
  have secondExact : ∀ item ∈ second, item.IsExact := by
    simp only [second, List.forall_mem_cons]
    exact ⟨.opcode (by decide) (by decide), textExact, .integer _, by simp⟩
  obtain ⟨bytes, others, encoded, othersEncoded, sameIff, prefixIff⟩ :=
    encode_identifies_scripts firstExact secondExact
  refine ⟨firstExact, secondExact, bytes, others, encoded, othersEncoded,
    prefixIff.mpr rfl, ?_⟩
  intro bytesEq
  exact absurd (sameIff.mpr bytesEq) (by decide)

end Wire

end StackScript
