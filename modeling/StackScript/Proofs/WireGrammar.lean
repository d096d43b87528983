import StackScript.Proofs.ByteWidths
import StackScript.Proofs.CursorReading
import StackScript.Proofs.Utf8Inverse

/-!
# The grammar of the wire

A script on the wire is a concatenation of chunks, one for each item.  `Chunk` says
which bytes an item may have, without a reader: the same integer or text can have
several chunks, because a body or a length may be padded with zeros.  `Broken` says
which bytes do not start with a chunk, and why.  Every list of bytes that is not
empty is one or the other, and the reader tells which, so that decoding accepts
exactly the concatenations of chunks.
-/

namespace StackScript

namespace Wire

/-- The bytes that stand for an item. -/
inductive Chunk (table : Option OpcodeTable) : Item → List UInt8 → Prop where
  /-- A truth value is a single byte. -/
  | boolean (truth : Bool) :
      Chunk table (.value (.boolean truth)) [if truth then 1 else 0]
  /-- Eight bytes give the bits of a floating-point number. -/
  | float {body : List UInt8} (width : body.length = 8) :
      Chunk table (.value (.float ⟨UInt64.ofNat (ofLittleEndian body)⟩))
        (2 :: body)
  /-- One to fifteen bytes give a natural. -/
  | natural {lead : UInt8} {body : List UInt8} {number : Int128}
      (positive : 0 < body.length) (short : body.length < integerWidth)
      (leadEq : lead.toNat = 0x02 + body.length)
      (holds : number.val = ofLittleEndian body) :
      Chunk table (.value (.integer number)) (lead :: body)
  /-- Sixteen bytes give an integer with its sign. -/
  | signed {lead : UInt8} {body : List UInt8} {number : Int128}
      (full : body.length = integerWidth)
      (leadEq : lead.toNat = 0x02 + body.length)
      (holds : number.val = ofTwosComplement body) :
      Chunk table (.value (.integer number)) (lead :: body)
  /-- The empty text is a single byte. -/
  | emptyText : Chunk table (.value (.string [])) [0x13]
  /-- A text comes behind its length, which takes 1 to 102 bytes. -/
  | text {lead : UInt8} {lengthBytes payload : List UInt8} {text : Text}
      (positive : 0 < lengthBytes.length) (narrow : lengthBytes.length ≤ 102)
      (leadEq : lead.toNat = 0x13 + lengthBytes.length)
      (lengthEq : payload.length = ofLittleEndian lengthBytes)
      (encoded : Utf8.encode text = .ok payload) :
      Chunk table (.value (.string text)) (lead :: (lengthBytes ++ payload))
  /-- An operator is a single byte with its opcode in the low seven bits. -/
  | operator {lead : UInt8} {operators : OpcodeTable} {held : Operator}
      (high : 0x80 ≤ lead.toNat) (tableEq : table = some operators)
      (known : operators ((lead.toNat : Int) - 0x80) = some held) :
      Chunk table (.operator held) [lead]

/-- The bytes of the items of a script, one after the other, where the bytes of a
single item are given. -/
inductive Concatenation (Part : Item → List UInt8 → Prop) :
    Script → List UInt8 → Prop where
  | nil : Concatenation Part [] []
  | cons {item : Item} {script : Script} {part bytes : List UInt8}
      (first : Part item part) (others : Concatenation Part script bytes) :
      Concatenation Part (item :: script) (part ++ bytes)

/-- The chunks of the items of a script, one after the other. -/
abbrev Chunks (table : Option OpcodeTable) : Script → List UInt8 → Prop :=
  Concatenation (Chunk table)

/-- The bytes do not start with a chunk, for the given reason. -/
inductive Broken (table : Option OpcodeTable) :
    List UInt8 → ReadFault → Prop where
  | float {rest : List UInt8} (short : rest.length < 8) :
      Broken table (2 :: rest) (.shortData 8 rest.length)
  | integer {lead : UInt8} {rest : List UInt8} (lower : 0x02 < lead.toNat)
      (upper : lead.toNat < 0x13) (short : rest.length < lead.toNat - 0x02) :
      Broken table (lead :: rest)
        (.shortData ((lead.toNat - 0x02 : Nat) : Int) rest.length)
  | textLength {lead : UInt8} {rest : List UInt8} (lower : 0x13 < lead.toNat)
      (upper : lead.toNat ≤ 0x79)
      (short : rest.length < lead.toNat - 0x13) :
      Broken table (lead :: rest)
        (.shortData ((lead.toNat - 0x13 : Nat) : Int) rest.length)
  | textPayload {lead : UInt8} {lengthBytes rest : List UInt8}
      (positive : 0 < lengthBytes.length) (narrow : lengthBytes.length ≤ 102)
      (leadEq : lead.toNat = 0x13 + lengthBytes.length)
      (short : rest.length < ofLittleEndian lengthBytes) :
      Broken table (lead :: (lengthBytes ++ rest))
        (.shortData (ofLittleEndian lengthBytes) rest.length)
  | notText {lead : UInt8} {lengthBytes payload rest : List UInt8}
      (positive : 0 < lengthBytes.length) (narrow : lengthBytes.length ≤ 102)
      (leadEq : lead.toNat = 0x13 + lengthBytes.length)
      (lengthEq : payload.length = ofLittleEndian lengthBytes)
      (noText : ∀ text, Utf8.encode text ≠ .ok payload) :
      Broken table (lead :: (lengthBytes ++ (payload ++ rest))) .notText
  | discriminant {lead : UInt8} {rest : List UInt8}
      (lower : 0x79 < lead.toNat) (upper : lead.toNat < 0x80) :
      Broken table (lead :: rest) (.discriminant lead)
  | noTable {lead : UInt8} {rest : List UInt8} (high : 0x80 ≤ lead.toNat)
      (tableEq : table = none) :
      Broken table (lead :: rest) (.noTable ((lead.toNat : Int) - 0x80))
  | unknownOpcode {lead : UInt8} {rest : List UInt8}
      {operators : OpcodeTable} (high : 0x80 ≤ lead.toNat)
      (tableEq : table = some operators)
      (unknown : operators ((lead.toNat : Int) - 0x80) = none) :
      Broken table (lead :: rest)
        (.unknownOpcode ((lead.toNat : Int) - 0x80))

theorem Chunk.length_pos {table : Option OpcodeTable} {item : Item}
    {chunk : List UInt8} (held : Chunk table item chunk) :
    0 < chunk.length := by
  cases held <;> exact Nat.succ_pos _

/-! ## Reading chunks -/

namespace Reader

theorem reads_readFloat (lead : UInt8) {body : List UInt8}
    (width : body.length = 8) :
    Reads readFloat (lead :: body)
      ⟨UInt64.ofNat (ofLittleEndian body)⟩ := by
  have lengthEq : (8 : Int) = body.length := by omega
  apply Reads.readByte_bind
  apply (reads_readBytes lengthEq).bind_nil
  rw [if_pos width]
  exact reads_pure _

/-- The width that an integer's discriminant tells. -/
theorem integerWidth_of_lead {lead : UInt8} {width : Nat}
    (leadEq : lead.toNat = 0x02 + width) :
    (lead.toNat : Int) - integerDiscriminant + 1 = width := by
  rw [leadEq, integerDiscriminant]
  omega

/-- The width of the length that a text's discriminant tells. -/
theorem lengthWidth_of_lead {lead : UInt8} {width : Nat}
    (leadEq : lead.toNat = 0x13 + width) :
    (lead.toNat : Int) - emptyTextDiscriminant = width := by
  rw [leadEq, emptyTextDiscriminant]
  omega

theorem reads_readInteger {lead : UInt8} {body : List UInt8}
    (leadEq : lead.toNat = 0x02 + body.length) :
    Reads readInteger (lead :: body)
      (ofTwosComplement (zeroFilled body)) := by
  apply Reads.readByte_bind
  apply (reads_readBytes (integerWidth_of_lead leadEq)).bind_nil
  exact reads_pure _

theorem reads_readText_empty : Reads readText [0x13] [] := by
  apply Reads.readByte_bind
  exact reads_pure []

theorem reads_readText {lead : UInt8} {lengthBytes payload : List UInt8}
    {text : Text} (positive : 0 < lengthBytes.length)
    (leadEq : lead.toNat = 0x13 + lengthBytes.length)
    (lengthEq : payload.length = ofLittleEndian lengthBytes)
    (encoded : Utf8.encode text = .ok payload) :
    Reads readText (lead :: (lengthBytes ++ payload)) text := by
  have widthEq := lengthWidth_of_lead leadEq
  have payloadEq : (ofLittleEndian lengthBytes : Int) = payload.length := by
    rw [lengthEq]
  apply Reads.readByte_bind
  rw [if_neg (by omega)]
  apply (reads_readBytes widthEq).bind
  apply (reads_readBytes payloadEq).bind_nil
  rw [Utf8.decode_eq_ok_iff.mpr encoded]
  exact reads_pure text

theorem reads_readOperator {lead : UInt8} {operators : OpcodeTable}
    {held : Operator}
    (known : operators ((lead.toNat : Int) - 0x80) = some held) :
    Reads (readOperator (some operators)) [lead] held := by
  apply Reads.readByte_bind
  have found : operators ((lead.toNat : Int) - operatorDiscriminant) =
      some held := known
  simp only [found]
  exact reads_pure held

/-! Which reader follows is a matter of the first byte. -/

section Dispatch

variable {lead : UInt8}

theorem readItem_value (table : Option OpcodeTable)
    (low : lead.toNat < 0x80) :
    SameAt lead (readItem table) (do
      let value ← readValue
      pure (.value value)) :=
  sameAt_peekByte_bind (if_pos low)

theorem readItem_operator (table : Option OpcodeTable)
    (high : 0x80 ≤ lead.toNat) :
    SameAt lead (readItem table) (do
      let operator ← readOperator table
      pure (.operator operator)) :=
  sameAt_peekByte_bind (if_neg (Nat.not_lt.mpr high))

theorem readValue_boolean (low : lead.toNat < 0x02) :
    SameAt lead readValue (do
      let _ ← readByte
      pure (.boolean (lead.toNat == 1))) :=
  sameAt_peekByte_bind (if_pos low)

theorem readValue_float :
    SameAt 2 readValue (do
      let number ← readFloat
      pure (.float number)) :=
  sameAt_peekByte_bind rfl

theorem readValue_integer (lower : 0x02 < lead.toNat)
    (upper : lead.toNat < 0x13) :
    SameAt lead readValue (do
      let integer ← readInteger
      match Int128.ofInt? integer with
      | some number => pure (.integer number)
      | none => throw (.integerRange integer)) := by
  have notBoolean : ¬lead.toNat < 0x02 := by omega
  have notFloat : ¬lead.toNat = 0x02 := by omega
  exact sameAt_peekByte_bind
    (((if_neg notBoolean).trans (if_neg notFloat)).trans (if_pos upper))

theorem readValue_text (lower : 0x13 ≤ lead.toNat)
    (upper : lead.toNat ≤ 0x79) :
    SameAt lead readValue (do
      let text ← readText
      pure (.string text)) := by
  have notBoolean : ¬lead.toNat < 0x02 := by omega
  have notFloat : ¬lead.toNat = 0x02 := by omega
  have notInteger : ¬lead.toNat < 0x13 := by omega
  exact sameAt_peekByte_bind
    (((if_neg notBoolean).trans (if_neg notFloat)).trans
      ((if_neg notInteger).trans (if_pos upper)))

theorem readValue_unknown (lower : 0x79 < lead.toNat) :
    SameAt lead readValue (throw (.discriminant lead)) := by
  have notBoolean : ¬lead.toNat < 0x02 := by omega
  have notFloat : ¬lead.toNat = 0x02 := by omega
  have notInteger : ¬lead.toNat < 0x13 := by omega
  have notText : ¬lead.toNat ≤ 0x79 := by omega
  exact sameAt_peekByte_bind
    (((if_neg notBoolean).trans (if_neg notFloat)).trans
      ((if_neg notInteger).trans (if_neg notText)))

end Dispatch

theorem reads_readItem_value (table : Option OpcodeTable) {lead : UInt8}
    {bytes : List UInt8} {value : Value} (low : lead.toNat < 0x80)
    (reads : Reads readValue (lead :: bytes) value) :
    Reads (readItem table) (lead :: bytes) (.value value) :=
  (readItem_value table low).reads (reads.bind_nil (reads_pure _))

theorem reads_readValue_integer {lead : UInt8} {body : List UInt8}
    {number : Int128} (positive : 0 < body.length)
    (fits : body.length ≤ integerWidth)
    (leadEq : lead.toNat = 0x02 + body.length)
    (holds : number.val = ofTwosComplement (zeroFilled body)) :
    Reads readValue (lead :: body) (.integer number) := by
  have lower : 0x02 < lead.toNat := by omega
  have upper : lead.toNat < 0x13 := by
    rw [integerWidth] at fits
    omega
  apply (readValue_integer lower upper).reads
  apply (reads_readInteger leadEq).bind_nil
  rw [← holds, Int128.ofInt?_val]
  exact reads_pure _

end Reader

open Reader

/-- The reader takes every chunk for its item. -/
theorem Chunk.reads {table : Option OpcodeTable} {item : Item}
    {chunk : List UInt8} (held : Chunk table item chunk) :
    Reads (readItem table) chunk item := by
  cases held with
  | boolean truth =>
      cases truth with
      | false =>
          apply reads_readItem_value table (by decide)
          apply (readValue_boolean (by decide)).reads
          exact Reads.readByte_bind (reads_pure _)
      | true =>
          apply reads_readItem_value table (by decide)
          apply (readValue_boolean (by decide)).reads
          exact Reads.readByte_bind (reads_pure _)
  | float width =>
      apply reads_readItem_value table (by decide)
      apply readValue_float.reads
      exact (reads_readFloat 2 width).bind_nil (reads_pure _)
  | natural positive short leadEq holds =>
      have low := short
      rw [integerWidth] at low
      apply reads_readItem_value table (by omega)
      apply reads_readValue_integer positive (Nat.le_of_lt short) leadEq
      rw [ofTwosComplement_zeroFilled_short short]
      exact holds
  | signed full leadEq holds =>
      have low := full
      rw [integerWidth] at low
      apply reads_readItem_value table (by omega)
      apply reads_readValue_integer (by omega) (Nat.le_of_eq full) leadEq
      rw [zeroFilled_full full]
      exact holds
  | emptyText =>
      apply reads_readItem_value table (by decide)
      apply (readValue_text (by decide) (by decide)).reads
      exact reads_readText_empty.bind_nil (reads_pure _)
  | text positive narrow leadEq lengthEq encoded =>
      apply reads_readItem_value table (by omega)
      apply (readValue_text (by omega) (by omega)).reads
      exact (reads_readText positive leadEq lengthEq encoded).bind_nil
        (reads_pure _)
  | operator high tableEq known =>
      subst tableEq
      apply (readItem_operator _ high).reads
      exact (reads_readOperator known).bind_nil (reads_pure _)

/-! ## Bytes that start with no chunk -/

namespace Reader

theorem fails_readItem_value (table : Option OpcodeTable) {lead : UInt8}
    {bytes : List UInt8} {fault : ReadFault} (low : lead.toNat < 0x80)
    (fails : Fails readValue (lead :: bytes) fault) :
    Fails (readItem table) (lead :: bytes) fault :=
  (readItem_value table low).fails (fails.bind _)

theorem fails_readText_payload {lead : UInt8}
    {lengthBytes rest : List UInt8} {fault : ReadFault}
    (positive : 0 < lengthBytes.length)
    (leadEq : lead.toNat = 0x13 + lengthBytes.length)
    (fails : Fails (do
      let bytes ← readBytes (ofLittleEndian lengthBytes)
      match Utf8.decode bytes with
      | .ok text => pure text
      | .error _ => throw .notText) rest fault) :
    Fails readText (lead :: (lengthBytes ++ rest)) fault := by
  have widthEq := lengthWidth_of_lead leadEq
  apply Fails.readByte_bind
  rw [if_neg (by omega)]
  exact (reads_readBytes widthEq).bind_fails fails

end Reader

/-- The reader fails on bytes that start with no chunk, for the same reason. -/
theorem Broken.fails {table : Option OpcodeTable} {bytes : List UInt8}
    {fault : ReadFault} (broken : Broken table bytes fault) :
    Fails (readItem table) bytes fault := by
  cases broken with
  | float short =>
      apply fails_readItem_value table (by decide)
      apply readValue_float.fails
      apply Fails.bind
      apply Fails.readByte_bind
      exact (fails_readBytes (by omega)).bind _
  | @integer lead rest lower upper short =>
      have leadEq : lead.toNat = 0x02 + (lead.toNat - 0x02) := by omega
      apply fails_readItem_value table (by omega)
      apply (readValue_integer lower upper).fails
      apply Fails.bind
      apply Fails.readByte_bind
      rw [integerWidth_of_lead leadEq]
      exact (fails_readBytes (by omega)).bind _
  | @textLength lead rest lower upper short =>
      have leadEq : lead.toNat = 0x13 + (lead.toNat - 0x13) := by omega
      apply fails_readItem_value table (by omega)
      apply (readValue_text (by omega) upper).fails
      apply Fails.bind
      apply Fails.readByte_bind
      rw [lengthWidth_of_lead leadEq, if_neg (by omega)]
      exact (fails_readBytes (by omega)).bind _
  | textPayload positive narrow leadEq short =>
      apply fails_readItem_value table (by omega)
      apply (readValue_text (by omega) (by omega)).fails
      apply Fails.bind
      apply fails_readText_payload positive leadEq
      exact (fails_readBytes (by omega)).bind _
  | @notText lead lengthBytes payload rest positive narrow leadEq lengthEq
      noText =>
      have payloadEq : (ofLittleEndian lengthBytes : Int) =
          payload.length := by
        rw [lengthEq]
      apply fails_readItem_value table (by omega)
      apply (readValue_text (by omega) (by omega)).fails
      apply Fails.bind
      apply fails_readText_payload positive leadEq
      apply (reads_readBytes payloadEq).bind_fails
      cases decoded : Utf8.decode payload with
      | ok text => exact absurd (Utf8.decode_eq_ok_iff.mp decoded) (noText text)
      | error fault => exact fails_throw rest _
  | discriminant lower upper =>
      apply fails_readItem_value table upper
      apply (readValue_unknown lower).fails
      exact fails_throw _ _
  | noTable high tableEq =>
      subst tableEq
      apply (readItem_operator _ high).fails
      apply Fails.bind
      apply Fails.readByte_bind
      exact fails_throw _ _
  | @unknownOpcode lead rest operators high tableEq unknown =>
      subst tableEq
      have notFound : operators
          ((lead.toNat : Int) - operatorDiscriminant) = none := unknown
      apply (readItem_operator _ high).fails
      apply Fails.bind
      apply Fails.readByte_bind
      simp only [notFound]
      exact fails_throw _ _

/-! ## All bytes -/

/-- The bytes start with a chunk, or they are broken. -/
def Decided (table : Option OpcodeTable) (bytes : List UInt8) : Prop :=
  (∃ item chunk rest, Chunk table item chunk ∧ bytes = chunk ++ rest) ∨
    ∃ fault, Broken table bytes fault

theorem Chunk.decided {table : Option OpcodeTable} {item : Item}
    {chunk : List UInt8} (held : Chunk table item chunk)
    (rest : List UInt8) : Decided table (chunk ++ rest) :=
  .inl ⟨item, chunk, rest, held, rfl⟩

theorem Broken.decided {table : Option OpcodeTable} {bytes : List UInt8}
    {fault : ReadFault} (broken : Broken table bytes fault) :
    Decided table bytes :=
  .inr ⟨fault, broken⟩

/-- Bytes behind a discriminant are too few, or they start with a body of the
width that is asked for. -/
theorem short_or_append (width : Nat) (bytes : List UInt8) :
    bytes.length < width ∨
      ∃ body rest, bytes = body ++ rest ∧ body.length = width := by
  by_cases short : bytes.length < width
  · exact .inl short
  · refine .inr ⟨bytes.take width, bytes.drop width,
      (List.take_append_drop width bytes).symm, ?_⟩
    exact List.length_take_of_le (Nat.not_lt.mp short)

section Decision

variable (table : Option OpcodeTable) {lead : UInt8} (rest : List UInt8)

theorem decided_boolean (low : lead.toNat < 0x02) :
    Decided table (lead :: rest) := by
  have cases : lead = 0 ∨ lead = 1 := by
    rw [← UInt8.toNat_inj, ← UInt8.toNat_inj]
    simp only [UInt8.reduceToNat]
    omega
  rcases cases with rfl | rfl
  · exact (Chunk.boolean false).decided rest
  · exact (Chunk.boolean true).decided rest

theorem decided_float : Decided table (2 :: rest) := by
  obtain short | ⟨body, others, rfl, width⟩ := short_or_append 8 rest
  · exact (Broken.float short).decided
  · exact (Chunk.float width).decided others

theorem decided_integer (lower : 0x02 < lead.toNat)
    (upper : lead.toNat < 0x13) : Decided table (lead :: rest) := by
  obtain short | ⟨body, others, rfl, width⟩ :=
    short_or_append (lead.toNat - 0x02) rest
  · exact (Broken.integer lower upper short).decided
  · have leadEq : lead.toNat = 0x02 + body.length := by omega
    have fits : body.length ≤ integerWidth := by
      rw [integerWidth]
      omega
    have range := inRange_ofTwosComplement_zeroFilled fits
    let number : Int128 :=
      ⟨ofTwosComplement (zeroFilled body), range.1, range.2⟩
    obtain short | full := Nat.lt_or_eq_of_le fits
    · have holds : number.val = ofLittleEndian body :=
        ofTwosComplement_zeroFilled_short short
      exact (Chunk.natural (by omega) short leadEq holds).decided others
    · have holds : number.val = ofTwosComplement body :=
        congrArg ofTwosComplement (zeroFilled_full full)
      exact (Chunk.signed full leadEq holds).decided others

theorem decided_text (lower : 0x13 < lead.toNat)
    (upper : lead.toNat ≤ 0x79) : Decided table (lead :: rest) := by
  obtain short | ⟨lengthBytes, others, rfl, width⟩ :=
    short_or_append (lead.toNat - 0x13) rest
  · exact (Broken.textLength lower upper short).decided
  · have leadEq : lead.toNat = 0x13 + lengthBytes.length := by omega
    have positive : 0 < lengthBytes.length := by omega
    have narrow : lengthBytes.length ≤ 102 := by omega
    obtain short | ⟨payload, others, rfl, lengthEq⟩ :=
      short_or_append (ofLittleEndian lengthBytes) others
    · exact (Broken.textPayload positive narrow leadEq short).decided
    · cases decoded : Utf8.decode payload with
      | ok text =>
          have encoded := Utf8.decode_eq_ok_iff.mp decoded
          have held : Chunk table (.value (.string text))
              (lead :: (lengthBytes ++ payload)) :=
            .text positive narrow leadEq lengthEq encoded
          have decided := held.decided others
          rw [List.cons_append, List.append_assoc] at decided
          exact decided
      | error fault =>
          have noText : ∀ text, Utf8.encode text ≠ .ok payload := by
            intro text encoded
            rw [Utf8.decode_eq_ok_iff.mpr encoded] at decoded
            cases decoded
          exact (Broken.notText positive narrow leadEq lengthEq noText).decided

theorem decided_operator (high : 0x80 ≤ lead.toNat) :
    Decided table (lead :: rest) := by
  cases tableEq : table with
  | none => exact (Broken.noTable high rfl).decided
  | some operators =>
      cases found : operators ((lead.toNat : Int) - 0x80) with
      | none => exact (Broken.unknownOpcode high rfl found).decided
      | some held => exact (Chunk.operator high rfl found).decided rest

end Decision

theorem decided_of_ne_nil (table : Option OpcodeTable) {bytes : List UInt8}
    (nonempty : bytes ≠ []) : Decided table bytes := by
  cases bytes with
  | nil => exact absurd rfl nonempty
  | cons lead rest =>
      by_cases boolean : lead.toNat < 0x02
      · exact decided_boolean table rest boolean
      by_cases float : lead.toNat = 0x02
      · have leadEq : lead = 2 := UInt8.toNat_inj.mp float
        rw [leadEq]
        exact decided_float table rest
      by_cases integer : lead.toNat < 0x13
      · exact decided_integer table rest (by omega) integer
      by_cases emptyText : lead.toNat = 0x13
      · have leadEq : lead = 0x13 := UInt8.toNat_inj.mp emptyText
        rw [leadEq]
        exact Chunk.emptyText.decided rest
      by_cases text : lead.toNat ≤ 0x79
      · exact decided_text table rest (by omega) text
      by_cases unknown : lead.toNat < 0x80
      · exact (Broken.discriminant (by omega) unknown).decided
      · exact decided_operator table rest (by omega)

/-! ## Whole scripts -/

theorem readItems_succ (table : Option OpcodeTable) (rounds : Nat)
    (cursor : Cursor) :
    readItems table (rounds + 1) cursor =
      if cursor.left ≤ 0 then .ok [] cursor
      else
        match readItem table cursor with
        | .error fault next => .error fault next
        | .ok item next =>
          match readItems table rounds next with
          | .ok items last => .ok (item :: items) last
          | .error fault last => .error fault last :=
  rfl

theorem readItems_nil (table : Option OpcodeTable) (rounds : Nat)
    {cursor : Cursor} (facing : cursor.Facing []) :
    readItems table rounds cursor = .ok [] cursor := by
  cases rounds with
  | zero => rfl
  | succ rounds =>
      have leftEq : cursor.left = 0 := facing.left_eq
      rw [readItems_succ, if_pos (by omega)]

theorem readItems_cons {table : Option OpcodeTable} {item : Item}
    {chunk rest : List UInt8} (held : Chunk table item chunk) (rounds : Nat)
    {cursor : Cursor} (facing : cursor.Facing (chunk ++ rest)) :
    readItems table (rounds + 1) cursor =
      match readItems table rounds (cursor.moved chunk.length) with
      | .ok items last => .ok (item :: items) last
      | .error fault last => .error fault last := by
  have leftEq := facing.left_eq
  have positive := held.length_pos
  have readEq := held.reads cursor rest facing
  rw [List.length_append] at leftEq
  rw [readItems_succ, if_neg (by omega), readEq]

/-- The reader takes the chunks of a script for the script. -/
theorem readItems_of_chunks {table : Option OpcodeTable} {script : Script}
    {bytes : List UInt8} (chunks : Chunks table script bytes)
    {rounds : Nat} (enough : bytes.length ≤ rounds) {cursor : Cursor}
    (facing : cursor.Facing bytes) :
    readItems table rounds cursor = .ok script (cursor.moved bytes.length) := by
  induction chunks generalizing rounds cursor with
  | nil =>
      rw [readItems_nil table rounds facing, List.length_nil,
        Cursor.moved_zero]
  | @cons item script chunk bytes first others ih =>
      have positive := first.length_pos
      rw [List.length_append] at enough
      cases rounds with
      | zero => omega
      | succ rounds =>
          rw [readItems_cons first rounds facing,
            ih (by omega) facing.moved, Cursor.moved_moved,
            List.length_append]

/-- What the reader takes for a script is the chunks of that script. -/
theorem chunks_of_readItems {table : Option OpcodeTable} {rounds : Nat}
    {script : Script} {bytes : List UInt8} {cursor last : Cursor}
    (enough : bytes.length ≤ rounds) (facing : cursor.Facing bytes)
    (succeeded : readItems table rounds cursor = .ok script last) :
    Chunks table script bytes := by
  induction rounds generalizing script bytes cursor with
  | zero =>
      cases List.eq_nil_of_length_eq_zero (Nat.le_zero.mp enough)
      rw [readItems_nil table 0 facing] at succeeded
      cases succeeded
      exact .nil
  | succ rounds ih =>
      by_cases empty : bytes = []
      · subst empty
        rw [readItems_nil table _ facing] at succeeded
        cases succeeded
        exact .nil
      obtain ⟨item, chunk, rest, held, rfl⟩ | ⟨fault, broken⟩ :=
        decided_of_ne_nil table empty
      · have positive := held.length_pos
        rw [List.length_append] at enough
        rw [readItems_cons held rounds facing] at succeeded
        cases readOthers :
            readItems table rounds (cursor.moved chunk.length) with
        | ok items reached =>
            rw [readOthers] at succeeded
            cases succeeded
            exact .cons held (ih (by omega) facing.moved readOthers)
        | error fault reached =>
            rw [readOthers] at succeeded
            cases succeeded
      · have leftEq := facing.left_eq
        have positive := List.length_pos_iff.mpr empty
        obtain ⟨taken, _, failed⟩ := broken.fails cursor facing
        rw [readItems_succ, if_neg (by omega), failed] at succeeded
        cases succeeded

/-- Decoding accepts exactly the concatenations of chunks. -/
theorem decode_eq_ok_iff {table : Option OpcodeTable} {data : Array UInt8}
    {script : Script} :
    decode table data = .ok script ↔ Chunks table script data.toList := by
  have facing := Cursor.facing_start data
  have enough : data.toList.length ≤ (Cursor.start data).left.toNat := by
    rw [facing.left_eq]
    omega
  rw [decode, readScript]
  constructor
  · intro decoded
    cases readAll : readItems table (Cursor.start data).left.toNat
        (Cursor.start data) with
    | ok items last =>
        rw [readAll] at decoded
        cases decoded
        exact chunks_of_readItems enough facing readAll
    | error fault last =>
        rw [readAll] at decoded
        cases decoded
  · intro chunks
    rw [readItems_of_chunks chunks enough facing]

end Wire
end StackScript
