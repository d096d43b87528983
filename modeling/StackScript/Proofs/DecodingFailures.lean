import StackScript.Proofs.WireGrammar

/-!
# Which bytes are no script, and why

Decoding stops at the first place where no chunk starts, and what stands there
decides the fault.  This file proves that for every table of operators and then
spells it out for the instructions of the calculator, where the first byte tells
most of it: six of them start nothing, those from `8c` on are no opcode, and all
others fail only if the bytes end too early or a text is none.
-/

namespace StackScript

namespace Wire

open Reader

/-! ## The first place without a chunk -/

/-- Chunks up to some place, and then bytes that start with none. -/
def BrokenBehind (table : Option OpcodeTable) (bytes : List UInt8)
    (fault : ReadFault) : Prop :=
  ∃ script chunks rest, bytes = chunks ++ rest ∧ Chunks table script chunks ∧
    Broken table rest fault

theorem Broken.ne_nil {table : Option OpcodeTable} {bytes : List UInt8}
    {fault : ReadFault} (broken : Broken table bytes fault) : bytes ≠ [] := by
  cases broken <;> exact List.cons_ne_nil _ _

theorem BrokenBehind.cons {table : Option OpcodeTable} {item : Item}
    {chunk bytes : List UInt8} {fault : ReadFault}
    (held : Chunk table item chunk) (broken : BrokenBehind table bytes fault) :
    BrokenBehind table (chunk ++ bytes) fault := by
  obtain ⟨script, chunks, rest, rfl, areChunks, restBroken⟩ := broken
  exact ⟨item :: script, chunk ++ chunks, rest, by rw [List.append_assoc],
    .cons held areChunks, restBroken⟩

/-- All bytes are chunks up to their end or up to a place without one. -/
theorem chunks_or_brokenBehind (table : Option OpcodeTable)
    (bytes : List UInt8) :
    (∃ script, Chunks table script bytes) ∨
      ∃ fault, BrokenBehind table bytes fault := by
  -- Every chunk takes at least one byte, so the bytes behind it are fewer.
  induction lengthEq : bytes.length using Nat.strongRecOn
    generalizing bytes with
  | ind length ih =>
      by_cases empty : bytes = []
      · subst empty
        exact .inl ⟨[], .nil⟩
      rcases decided_of_ne_nil table empty with
        ⟨item, chunk, rest, held, rfl⟩ | ⟨fault, broken⟩
      · have positive := held.length_pos
        rw [List.length_append] at lengthEq
        rcases ih rest.length (by omega) rest rfl with
          ⟨script, chunks⟩ | ⟨fault, broken⟩
        · exact .inl ⟨item :: script, .cons held chunks⟩
        · exact .inr ⟨fault, broken.cons held⟩
      · exact .inr ⟨fault, [], [], bytes, rfl, .nil, broken⟩

/-- The reader gets through the chunks and fails behind them. -/
theorem readItems_of_broken {table : Option OpcodeTable} {script : Script}
    {chunks rest : List UInt8} {fault : ReadFault}
    (areChunks : Chunks table script chunks) (broken : Broken table rest fault)
    {rounds : Nat} (enough : (chunks ++ rest).length ≤ rounds)
    {cursor : Cursor} (facing : cursor.Facing (chunks ++ rest)) :
    ∃ last, readItems table rounds cursor = .error fault last := by
  induction areChunks generalizing rounds cursor with
  | nil =>
      have leftEq := facing.left_eq
      have positive := List.length_pos_iff.mpr broken.ne_nil
      rw [List.nil_append] at enough leftEq facing
      obtain ⟨taken, _, failed⟩ := broken.fails cursor facing
      cases rounds with
      | zero => omega
      | succ rounds =>
          rw [readItems_succ, if_neg (by omega), failed]
          exact ⟨_, rfl⟩
  | @cons item script chunk chunks first others ih =>
      have positive := first.length_pos
      rw [List.append_assoc] at enough facing
      rw [List.length_append] at enough
      cases rounds with
      | zero => omega
      | succ rounds =>
          have enoughLeft : (chunks ++ rest).length ≤ rounds := by omega
          obtain ⟨last, failed⟩ := ih enoughLeft facing.moved
          rw [readItems_cons first rounds facing, failed]
          exact ⟨last, rfl⟩

theorem decode_of_brokenBehind {table : Option OpcodeTable}
    {data : Array UInt8} {fault : ReadFault}
    (broken : BrokenBehind table data.toList fault) :
    decode table data = .error fault := by
  obtain ⟨script, chunks, rest, split, areChunks, restBroken⟩ := broken
  have facing := Cursor.facing_start data
  have leftEq := facing.left_eq
  rw [split] at facing leftEq
  have enough :
      (chunks ++ rest).length ≤ (Cursor.start data).left.toNat := by
    omega
  obtain ⟨last, failed⟩ :=
    readItems_of_broken areChunks restBroken enough facing
  rw [decode, readScript, failed]

/-- Decoding fails exactly where no chunk starts, with the fault of that place. -/
theorem decode_eq_error_iff {table : Option OpcodeTable}
    {data : Array UInt8} {fault : ReadFault} :
    decode table data = .error fault ↔
      BrokenBehind table data.toList fault := by
  constructor
  · intro failed
    rcases chunks_or_brokenBehind table data.toList with
      ⟨script, chunks⟩ | ⟨other, broken⟩
    · rw [decode_eq_ok_iff.mpr chunks] at failed
      cases failed
    · rw [decode_of_brokenBehind broken] at failed
      cases failed
      exact broken
  · exact decode_of_brokenBehind

/-- Broken bytes do not start with a chunk. -/
theorem Broken.not_chunk {table : Option OpcodeTable} {bytes : List UInt8}
    {fault : ReadFault} (broken : Broken table bytes fault) {item : Item}
    {chunk : List UInt8} (held : Chunk table item chunk)
    (rest : List UInt8) : bytes ≠ chunk ++ rest := by
  rintro rfl
  have facing := Cursor.facing_start (chunk ++ rest).toArray
  obtain ⟨taken, _, failed⟩ := broken.fails _ facing
  rw [held.reads _ rest facing] at failed
  cases failed

/-! ## The instructions of the calculator -/

/-- The width of the body that a first byte announces, for the kinds of values
that have no length of their own. -/
def bodyWidth? (lead : UInt8) : Option Nat :=
  if lead.toNat = 0x02 then some 8
  else if 0x03 ≤ lead.toNat ∧ lead.toNat ≤ 0x12 then some (lead.toNat - 0x02)
  else none

/-- The bytes end inside of what their first byte announces. -/
inductive Truncated : List UInt8 → Prop where
  | body {lead : UInt8} {rest : List UInt8} {width : Nat}
      (announced : bodyWidth? lead = some width) (short : rest.length < width) :
      Truncated (lead :: rest)
  | length {lead : UInt8} {rest : List UInt8} (lower : 0x14 ≤ lead.toNat)
      (upper : lead.toNat ≤ 0x79) (short : rest.length < lead.toNat - 0x13) :
      Truncated (lead :: rest)
  | payload {lead : UInt8} {lengthBytes rest : List UInt8}
      (positive : 1 ≤ lengthBytes.length) (narrow : lengthBytes.length ≤ 102)
      (leadEq : lead.toNat = 0x13 + lengthBytes.length)
      (short : rest.length < ofLittleEndian lengthBytes) :
      Truncated (lead :: (lengthBytes ++ rest))

/-- The bytes start with no chunk of a script for the calculator, and the word
for what is wrong with them. -/
inductive Mismatch : List UInt8 → String → Prop where
  | discriminant {lead : UInt8} {rest : List UInt8}
      (lower : 0x7A ≤ lead.toNat) (upper : lead.toNat ≤ 0x7F) :
      Mismatch (lead :: rest) "UnknownDiscriminantError"
  | opcode {lead : UInt8} {rest : List UInt8} (lower : 0x8C ≤ lead.toNat) :
      Mismatch (lead :: rest) "UnknownOpcodeError"
  | notText {lead : UInt8} {lengthBytes payload rest : List UInt8}
      (positive : 1 ≤ lengthBytes.length) (narrow : lengthBytes.length ≤ 102)
      (leadEq : lead.toNat = 0x13 + lengthBytes.length)
      (lengthEq : payload.length = ofLittleEndian lengthBytes)
      (noText : ∀ text, Utf8.encode text ≠ .ok payload) :
      Mismatch (lead :: (lengthBytes ++ (payload ++ rest))) "InvalidUtf8Error"
  | truncated {bytes : List UInt8} (cut : Truncated bytes) :
      Mismatch bytes "EofError"

/-- The twelve opcodes are those from zero to eleven. -/
theorem instructionTable_eq_none_iff {opcode : Int} (nonneg : 0 ≤ opcode) :
    instructionTable opcode = none ↔ 0x0C ≤ opcode := by
  simp [instructionTable, Instruction.ofOpcode?, Instruction.all,
    Instruction.opcode]
  omega

/-- An operator is the byte `80` with the opcode of an instruction added. -/
theorem chunk_operator_iff {held : Operator} {chunk : List UInt8} :
    Chunk (some instructionTable) (.operator held) chunk ↔
      ∃ instruction : Instruction, held = .instruction instruction ∧
        chunk = [UInt8.ofNat (0x80 + instruction.opcode)] := by
  constructor
  · rintro (_ | _ | _ | _ | _ | _ | @⟨lead, operators, _, high, tableEq, known⟩)
    cases tableEq
    obtain ⟨instruction, found, rfl⟩ := Option.map_eq_some_iff.mp known
    have opcodeEq := List.find?_some found
    rw [beq_iff_eq] at opcodeEq
    have leadEq : 0x80 + instruction.opcode = lead.toNat := by omega
    refine ⟨instruction, rfl, ?_⟩
    rw [leadEq, UInt8.ofNat_toNat]
  · rintro ⟨instruction, rfl, rfl⟩
    have leadEq : (UInt8.ofNat (0x80 + instruction.opcode)).toNat =
        0x80 + instruction.opcode := by
      cases instruction <;> rfl
    have opcodeEq :
        ((UInt8.ofNat (0x80 + instruction.opcode)).toNat : Int) - 0x80 =
          instruction.opcode := by
      omega
    refine .operator (by omega) rfl ?_
    rw [opcodeEq, instructionTable, Instruction.ofOpcode?_opcode]
    rfl

/-- No length that is announced on the wire is too long to be shown: that of a text takes
at most 102 bytes. -/
theorem label_shortData {needed left width : Nat} (narrow : width ≤ 102)
    (bounded : needed < 256 ^ width) (short : left < needed) :
    (ReadFault.shortData needed left).label = "EofError" := by
  have few : 8 * width ≤ Text.numeralLimit := by
    rw [Text.numeralLimit]
    omega
  have inBits : needed < 2 ^ (8 * width) := by
    rw [Nat.pow_mul]
    exact bounded
  have neededShown : Text.isLongInteger needed = false :=
    Text.isLongInteger_eq_false few inBits
  have leftShown : Text.isLongInteger left = false :=
    Text.isLongInteger_eq_false few (Nat.lt_trans short inBits)
  rw [ReadFault.label, ReadFault.showsLongInteger, neededShown, leftShown]
  rfl

/-- A length that the first byte itself announces can be shown. -/
theorem label_shortData_of_lt {needed left : Nat} (bounded : needed < 0x80)
    (short : left < needed) :
    (ReadFault.shortData needed left).label = "EofError" :=
  label_shortData (by decide) (Nat.lt_trans bounded (by decide : 0x80 < 256 ^ 1)) short

theorem Broken.mismatch {bytes : List UInt8} {fault : ReadFault}
    (broken : Broken (some instructionTable) bytes fault) :
    Mismatch bytes fault.label := by
  cases broken with
  | @float rest short =>
      have labelEq : (ReadFault.shortData 8 rest.length).label = "EofError" :=
        label_shortData_of_lt (by decide) short
      rw [labelEq]
      exact .truncated (.body rfl short)
  | @integer lead rest lower upper short =>
      have announced : bodyWidth? lead = some (lead.toNat - 0x02) := by
        rw [bodyWidth?, if_neg (by omega), if_pos (by omega)]
      rw [label_shortData_of_lt (by omega) short]
      exact .truncated (.body announced short)
  | textLength lower upper short =>
      rw [label_shortData_of_lt (by omega) short]
      exact .truncated (.length lower upper short)
  | textPayload positive narrow leadEq short =>
      rw [label_shortData narrow (ofLittleEndian_lt _) short]
      exact .truncated (.payload positive narrow leadEq short)
  | notText positive narrow leadEq lengthEq noText =>
      exact .notText positive narrow leadEq lengthEq noText
  | discriminant lower upper => exact .discriminant lower (by omega)
  | noTable high tableEq => cases tableEq
  | unknownOpcode high tableEq unknown =>
      cases tableEq
      rw [instructionTable_eq_none_iff (by omega)] at unknown
      exact .opcode (by omega)

theorem Truncated.broken (table : Option OpcodeTable) {bytes : List UInt8}
    (cut : Truncated bytes) :
    ∃ fault, Broken table bytes fault ∧ fault.label = "EofError" := by
  cases cut with
  | @body lead rest width announced short =>
      rw [bodyWidth?] at announced
      split at announced
      · next isFloat =>
          have leadEq : lead = 2 := UInt8.toNat_inj.mp isFloat
          cases announced
          subst leadEq
          exact ⟨_, .float short, label_shortData_of_lt (by decide) short⟩
      · split at announced
        · next isInteger =>
            cases announced
            exact ⟨_, .integer isInteger.1 (by omega) short,
              label_shortData_of_lt (by omega) short⟩
        · cases announced
  | length lower upper short =>
      exact ⟨_, .textLength lower upper short, label_shortData_of_lt (by omega) short⟩
  | payload positive narrow leadEq short =>
      exact ⟨_, .textPayload positive narrow leadEq short,
        label_shortData narrow (ofLittleEndian_lt _) short⟩

theorem Mismatch.broken {bytes : List UInt8} {label : String}
    (mismatch : Mismatch bytes label) :
    ∃ fault, Broken (some instructionTable) bytes fault ∧
      fault.label = label := by
  cases mismatch with
  | discriminant lower upper =>
      exact ⟨_, .discriminant lower (by omega), rfl⟩
  | opcode lower =>
      refine ⟨_, .unknownOpcode (by omega) rfl ?_, rfl⟩
      rw [instructionTable_eq_none_iff (by omega)]
      omega
  | notText positive narrow leadEq lengthEq noText =>
      exact ⟨_, .notText positive narrow leadEq lengthEq noText, rfl⟩
  | truncated cut => exact cut.broken _

theorem Mismatch.label_mem {bytes : List UInt8} {label : String}
    (mismatch : Mismatch bytes label) :
    label ∈ ["UnknownDiscriminantError", "UnknownOpcodeError",
      "InvalidUtf8Error", "EofError"] := by
  cases mismatch <;> simp

/-- Decoding accepts exactly the chunks of a script, where an operator is a byte
from `80` to `8b`.  It refuses all other bytes, and the first place where they
start with no chunk decides with which of four words. -/
theorem decode_classifies_bytes (data : Array UInt8) :
    (∀ script, decode (some instructionTable) data = .ok script ↔
      Chunks (some instructionTable) script data.toList) ∧
    (∀ held chunk, Chunk (some instructionTable) (.operator held) chunk ↔
      ∃ instruction : Instruction, held = .instruction instruction ∧
        chunk = [UInt8.ofNat (0x80 + instruction.opcode)]) ∧
    (∀ label,
      (∃ fault, decode (some instructionTable) data = .error fault ∧
        fault.label = label) ↔
      ∃ script chunks rest, data.toList = chunks ++ rest ∧
        Chunks (some instructionTable) script chunks ∧
        (∀ item chunk others, Chunk (some instructionTable) item chunk →
          rest ≠ chunk ++ others) ∧
        Mismatch rest label) ∧
    (∀ fault, decode (some instructionTable) data = .error fault →
      fault.label ∈ ["UnknownDiscriminantError", "UnknownOpcodeError",
        "InvalidUtf8Error", "EofError"]) := by
  refine ⟨fun _ => decode_eq_ok_iff, fun _ _ => chunk_operator_iff, ?_, ?_⟩
  · intro label
    constructor
    · rintro ⟨fault, failed, rfl⟩
      obtain ⟨script, chunks, rest, split, areChunks, broken⟩ :=
        decode_eq_error_iff.mp failed
      exact ⟨script, chunks, rest, split, areChunks,
        fun _ _ others held => broken.not_chunk held others, broken.mismatch⟩
    · rintro ⟨script, chunks, rest, split, areChunks, _, mismatch⟩
      obtain ⟨fault, broken, labelEq⟩ := mismatch.broken
      exact ⟨fault, decode_eq_error_iff.mpr
        ⟨script, chunks, rest, split, areChunks, broken⟩, labelEq⟩
  · intro fault failed
    obtain ⟨_, _, _, _, _, broken⟩ := decode_eq_error_iff.mp failed
    exact broken.mismatch.label_mem

/-- Behind an integer padded with a zero and an operator, a text of two bytes is
none, though the byte after it would start nothing either. -/
theorem decode_classifies_bytes_notText :
    ∃ fault, decode (some instructionTable)
        #[0x04, 0x05, 0x00, 0x8B, 0x14, 0x02, 0xC3, 0x28, 0x7A] =
          .error fault ∧
      fault.label = "InvalidUtf8Error" ∧
      fault.label ∈ ["UnknownDiscriminantError", "UnknownOpcodeError",
        "InvalidUtf8Error", "EofError"] := by
  have failed : decode (some instructionTable)
      #[0x04, 0x05, 0x00, 0x8B, 0x14, 0x02, 0xC3, 0x28, 0x7A] =
        .error .notText :=
    rfl
  exact ⟨.notText, failed, rfl, (decode_classifies_bytes _).2.2.2 _ failed⟩

end Wire
end StackScript
