import StackScript.Proofs.WireGrammar

/-!
# What the writer writes

Of all the chunks of an item the writer writes one, its form.  This file states the
forms without the writer, shows that the writer appends them to whatever it has
written before, and compares them with the other chunks of the same item: none is
shorter, and none of the same length is different.
-/

namespace StackScript

namespace Wire

/-- The bytes that are written for an item. -/
inductive Form : Item → List UInt8 → Prop where
  | boolean (truth : Bool) :
      Form (.value (.boolean truth)) [if truth then 1 else 0]
  | float (number : Binary64) :
      Form (.value (.float number)) (2 :: littleEndian 8 number.bits.toNat)
  | integer (number : Int128) :
      Form (.value (.integer number))
        (UInt8.ofNat (0x02 + (extraBytes number.val + 1)) ::
          (twosComplement integerWidth number.val).take
            (extraBytes number.val + 1))
  | emptyText : Form (.value (.string [])) [0x13]
  | text {text : Text} {payload : List UInt8} (nonempty : text ≠ [])
      (encoded : Utf8.encode text = .ok payload)
      (countable : payload.length < 256 ^ integerWidth) :
      Form (.value (.string text))
        (UInt8.ofNat (0x13 + (extraBytes payload.length + 1)) ::
          (littleEndian (extraBytes payload.length + 1) payload.length ++
            payload))
  | operator {held : Operator} {opcode : Int}
      (opcodeEq : held.opcode? = some opcode) (lower : 0 ≤ opcode)
      (upper : opcode ≤ 0x7F) :
      Form (.operator held) [UInt8.ofNat (0x80 + opcode).toNat]

/-! ## Writing forms -/

namespace Writer

/-- The writer appends the bytes, whatever it has written before. -/
def Writes (writer : Writer Unit) (bytes : List UInt8) : Prop :=
  ∀ written, writer written = .ok () (written ++ bytes)

theorem Writes.bind {first second : Writer Unit} {bytes others : List UInt8}
    (firstWrites : Writes first bytes) (secondWrites : Writes second others) :
    Writes (do first; second) (bytes ++ others) := by
  intro written
  have firstEq := firstWrites written
  have secondEq := secondWrites (written ++ bytes)
  have appended : written ++ bytes ++ others = written ++ (bytes ++ others) := by
    apply Array.ext'
    simp
  rw [appended] at secondEq
  simp only [Bind.bind, EStateM.bind, firstEq, secondEq]

theorem writes_writeBytes (bytes : List UInt8) :
    Writes (writeBytes bytes) bytes :=
  fun _ => rfl

theorem writes_writeByte {number : Int} (lower : 0 ≤ number)
    (upper : number ≤ 0xFF) :
    Writes (writeByte number) [UInt8.ofNat number.toNat] := by
  rw [writeByte, if_pos ⟨lower, upper⟩]
  exact writes_writeBytes _

theorem writes_writeInteger (number : Int128) :
    Writes (writeInteger number.val)
      (UInt8.ofNat (0x02 + (extraBytes number.val + 1)) ::
        (twosComplement integerWidth number.val).take
          (extraBytes number.val + 1)) := by
  have small := extraBytes_lt_integerWidth number.val
  rw [integerWidth] at small
  have leadEq : 0x02 + (extraBytes number.val + 1) =
      0x03 + extraBytes number.val := by
    omega
  rw [writeInteger, if_pos number.inRange_val, leadEq]
  apply (writes_writeByte _ _).bind (writes_writeBytes _)
  · omega
  · rw [integerDiscriminant]
    omega

theorem writes_writeLength {width length : Nat} (fits : length < 256 ^ width) :
    Writes (writeLength width length) (littleEndian width length) := by
  rw [writeLength, if_pos fits]
  exact writes_writeBytes _

theorem writes_writeText {text : Text} {payload : List UInt8}
    (nonempty : text ≠ []) (encoded : Utf8.encode text = .ok payload)
    (countable : payload.length < 256 ^ integerWidth) :
    Writes (writeText text)
      (UInt8.ofNat (0x13 + (extraBytes payload.length + 1)) ::
        (littleEndian (extraBytes payload.length + 1) payload.length ++
          payload)) := by
  have small := extraBytes_lt_integerWidth payload.length
  rw [integerWidth] at small
  rw [writeText, if_neg (by simpa using nonempty), encoded]
  apply (writes_writeByte _ _).bind
    ((writes_writeLength (lt_pow_extraBytes countable)).bind
      (writes_writeBytes _))
  · omega
  · rw [emptyTextDiscriminant]
    omega

theorem writes_writeOperator {held : Operator} {opcode : Int}
    (opcodeEq : held.opcode? = some opcode) (lower : 0 ≤ opcode)
    (upper : opcode ≤ 0x7F) :
    Writes (writeOperator held) [UInt8.ofNat (0x80 + opcode).toNat] := by
  have written : writeOperator held =
      writeByte (operatorDiscriminant + opcode) := by
    simp only [writeOperator, opcodeEq]
    exact if_pos ⟨lower, upper⟩
  rw [written]
  apply writes_writeByte
  · rw [operatorDiscriminant]
    omega
  · rw [operatorDiscriminant]
    omega

end Writer

open Writer

theorem Form.writes {item : Item} {form : List UInt8}
    (held : Form item form) : Writes (writeItem item) form := by
  cases held with
  | boolean truth => cases truth <;> exact fun _ => rfl
  | float number =>
      exact (writes_writeByte (by decide) (by decide)).bind
        (writes_writeBytes _)
  | integer number => exact writes_writeInteger number
  | emptyText => exact fun _ => rfl
  | text nonempty encoded countable =>
      exact writes_writeText nonempty encoded countable
  | operator opcodeEq lower upper =>
      exact writes_writeOperator opcodeEq lower upper

/-- A script is written as the forms of its items. -/
theorem writes_writeScript {script : Script} {forms : List UInt8}
    (held : Concatenation Form script forms) :
    Writes (writeScript script) forms := by
  induction held with
  | nil =>
      intro written
      rw [Array.appendList_nil]
      rfl
  | cons first others ih => exact first.writes.bind ih

theorem encode_of_forms {script : Script} {forms : List UInt8}
    (held : Concatenation Form script forms) :
    encode script = .ok forms.toArray := by
  rw [encode, writes_writeScript held #[]]
  simp

/-! ## Items without a form -/

namespace Writer

/-- The writer fails, whatever it has written before. -/
def Fails (writer : Writer Unit) : Prop :=
  ∀ written, ∃ fault left, writer written = .error fault left

/-- The writer fails and writes nothing, whatever it has written before. -/
def Refuses (writer : Writer Unit) (fault : WriteFault) : Prop :=
  ∀ written, writer written = .error fault written

theorem refuses_throw (fault : WriteFault) : Refuses (throw fault) fault :=
  fun _ => rfl

theorem Refuses.fails {writer : Writer Unit} {fault : WriteFault}
    (refuses : Refuses writer fault) : Fails writer :=
  fun written => ⟨fault, written, refuses written⟩

theorem Fails.bind {first : Writer Unit} (firstFails : Fails first)
    (second : Writer Unit) : Fails (do first; second) := by
  intro written
  obtain ⟨fault, left, failed⟩ := firstFails written
  refine ⟨fault, left, ?_⟩
  simp only [Bind.bind, EStateM.bind, failed]

theorem Writes.bind_fails {first second : Writer Unit} {bytes : List UInt8}
    (firstWrites : Writes first bytes) (secondFails : Fails second) :
    Fails (do first; second) := by
  intro written
  obtain ⟨fault, left, failed⟩ := secondFails (written ++ bytes)
  refine ⟨fault, left, ?_⟩
  simp only [Bind.bind, EStateM.bind, firstWrites written, failed]

theorem fails_writeLength {width length : Nat} (tooLong : 256 ^ width ≤ length) :
    Fails (writeLength width length) := by
  rw [writeLength, if_neg (Nat.not_lt.mpr tooLong)]
  exact (refuses_throw _).fails

/-- A text whose length cannot be counted fails behind its discriminant. -/
theorem fails_writeText {text : Text} {payload : List UInt8}
    (nonempty : text ≠ []) (encoded : Utf8.encode text = .ok payload)
    (uncountable : 256 ^ integerWidth ≤ payload.length) :
    Fails (writeText text) := by
  have small := extraBytes_lt_integerWidth payload.length
  have tooLong : 256 ^ (extraBytes payload.length + 1) ≤ payload.length :=
    Nat.le_trans (Nat.pow_le_pow_right (by decide) small) uncountable
  rw [integerWidth] at small
  rw [writeText, if_neg (by simpa using nonempty), encoded]
  apply (writes_writeByte _ _).bind_fails ((fails_writeLength tooLong).bind _)
  · omega
  · rw [emptyTextDiscriminant]
    omega

end Writer

/-- Why an item is refused as a whole. -/
inductive Refusal : Item → WriteFault → Prop where
  | noOpcode {held : Operator} (missing : held.opcode? = none) :
      Refusal (.operator held) (.noOpcode held)
  | opcodeRange {held : Operator} {opcode : Int} (opcodeEq : held.opcode? = some opcode)
      (beyond : ¬(0 ≤ opcode ∧ opcode ≤ 0x7F)) :
      Refusal (.operator held) (.opcodeRange opcode held)
  | creature (held : Creature) :
      Refusal (.datum (.creature held)) (.notAValue (.creature held))
  | foreign (held : Foreign) :
      Refusal (.datum (.foreign held)) (.notAValue (.foreign held))
  | surrogates {text : Text} {run : Utf8.SurrogateRun} (nonempty : text ≠ [])
      (failed : Utf8.encode text = .error run) :
      Refusal (.value (.string text)) (.surrogates run)

theorem Refusal.refuses {item : Item} {fault : WriteFault} (refusal : Refusal item fault) :
    Refuses (writeItem item) fault := by
  cases refusal with
  | noOpcode missing =>
      simp only [writeItem, writeOperator, missing]
      exact refuses_throw _
  | opcodeRange opcodeEq beyond =>
      simp only [writeItem, writeOperator, opcodeEq, if_neg beyond]
      exact refuses_throw _
  | creature held => exact refuses_throw _
  | foreign held => exact refuses_throw _
  | @surrogates text run nonempty failed =>
      have hasPoints : ¬text.isEmpty = true := by simpa using nonempty
      change Refuses (writeText text) _
      rw [writeText, if_neg hasPoints, failed]
      exact refuses_throw _

/-- An item has a form, or it is refused as a whole, or it is a text whose length
cannot be counted. -/
theorem form_or_refusal (item : Item) :
    (∃ form, Form item form) ∨ (∃ fault, Refusal item fault) ∨
      ∃ text payload, item = .value (.string text) ∧ text ≠ [] ∧
        Utf8.encode text = .ok payload ∧
        256 ^ integerWidth ≤ payload.length := by
  cases item with
  | operator held =>
      cases opcodeEq : held.opcode? with
      | none => exact .inr (.inl ⟨_, .noOpcode opcodeEq⟩)
      | some opcode =>
          by_cases sevenBits : 0 ≤ opcode ∧ opcode ≤ 0x7F
          · exact .inl ⟨_, .operator opcodeEq sevenBits.1 sevenBits.2⟩
          · exact .inr (.inl ⟨_, .opcodeRange opcodeEq sevenBits⟩)
  | datum datum =>
      cases datum with
      | creature held => exact .inr (.inl ⟨_, .creature held⟩)
      | foreign held => exact .inr (.inl ⟨_, .foreign held⟩)
      | value value =>
          cases value with
          | boolean truth => exact .inl ⟨_, .boolean truth⟩
          | float number => exact .inl ⟨_, .float number⟩
          | integer number => exact .inl ⟨_, .integer number⟩
          | string text =>
              by_cases empty : text = []
              · subst empty
                exact .inl ⟨_, .emptyText⟩
              · cases encoded : Utf8.encode text with
                | error run => exact .inr (.inl ⟨_, .surrogates empty encoded⟩)
                | ok payload =>
                    obtain countable | uncountable :=
                      Nat.lt_or_ge payload.length (256 ^ integerWidth)
                    · exact .inl ⟨_, .text empty encoded countable⟩
                    · exact .inr (.inr
                        ⟨text, payload, rfl, empty, encoded, uncountable⟩)

theorem exists_form_or_fails (item : Item) :
    (∃ form, Form item form) ∨ Fails (writeItem item) := by
  obtain isForm | ⟨fault, refusal⟩ |
    ⟨text, payload, rfl, nonempty, encoded, uncountable⟩ := form_or_refusal item
  · exact .inl isForm
  · exact .inr refusal.refuses.fails
  · exact .inr (fails_writeText nonempty encoded uncountable)

/-- Only the forms of the items can have been written. -/
theorem exists_forms_of_writeScript {script : Script}
    {written result : Array UInt8}
    (succeeded : writeScript script written = .ok () result) :
    ∃ forms, Concatenation Form script forms ∧ result = written ++ forms := by
  induction script generalizing written with
  | nil =>
      cases succeeded
      exact ⟨[], .nil, Array.appendList_nil.symm⟩
  | cons item rest ih =>
      obtain ⟨form, isForm⟩ | fails := exists_form_or_fails item
      · simp only [writeScript, Bind.bind, EStateM.bind,
          isForm.writes written] at succeeded
        obtain ⟨forms, areForms, resultEq⟩ := ih succeeded
        refine ⟨form ++ forms, .cons isForm areForms, ?_⟩
        rw [resultEq]
        apply Array.ext'
        simp
      · obtain ⟨fault, left, failed⟩ := fails.bind (writeScript rest) written
        cases failed.symm.trans succeeded

/-- Encoding succeeds exactly if every item has a form, and gives the forms. -/
theorem encode_eq_ok_iff {script : Script} {bytes : Array UInt8} :
    encode script = .ok bytes ↔ Concatenation Form script bytes.toList := by
  constructor
  · intro encoded
    rw [encode] at encoded
    split at encoded
    · next result succeeded =>
        cases encoded
        obtain ⟨forms, areForms, rfl⟩ := exists_forms_of_writeScript succeeded
        simpa using areForms
    · cases encoded
  · exact encode_of_forms

/-! ## Forms are chunks -/

theorem toNat_val_lt (number : Int128) :
    number.val.toNat < 256 ^ integerWidth := by
  have upper := number.upper
  rw [integerWidth]
  omega

/-- The bytes written for a natural hold it without a sign. -/
theorem take_twosComplement {number : Int128} (nonneg : 0 ≤ number.val) :
    (twosComplement integerWidth number.val).take
        (extraBytes number.val + 1) =
      littleEndian (extraBytes number.val + 1) number.val.toNat := by
  have valEq : number.val = (number.val.toNat : Int) := by omega
  rw [valEq, Int.toNat_natCast]
  exact take_twosComplement_natCast (extraBytes_lt_integerWidth _)
    (toNat_val_lt number)

theorem length_take_twosComplement (integer : Int) :
    ((twosComplement integerWidth integer).take
      (extraBytes integer + 1)).length = extraBytes integer + 1 := by
  have small := extraBytes_lt_integerWidth integer
  rw [List.length_take, length_twosComplement]
  omega

theorem chunk_integer (table : Option OpcodeTable) (number : Int128) :
    Chunk table (.value (.integer number))
      (UInt8.ofNat (0x02 + (extraBytes number.val + 1)) ::
        (twosComplement integerWidth number.val).take
          (extraBytes number.val + 1)) := by
  have lower := number.lower
  have upper := number.upper
  have small := extraBytes_lt_integerWidth number.val
  have lengthEq := length_take_twosComplement number.val
  have leadSmall : 0x02 + (extraBytes number.val + 1) < 0x100 := by
    rw [integerWidth] at small
    omega
  have leadEq : (UInt8.ofNat (0x02 + (extraBytes number.val + 1))).toNat =
      0x02 + ((twosComplement integerWidth number.val).take
        (extraBytes number.val + 1)).length := by
    rw [lengthEq, UInt8.toNat_ofNat_of_lt' leadSmall]
  obtain short | full := Nat.lt_or_eq_of_le small
  · have nonneg := nonneg_of_extraBytes short
    have valEq : number.val = (number.val.toNat : Int) := by omega
    have fits : number.val.toNat < 256 ^ (extraBytes number.val + 1) := by
      rw [valEq]
      exact lt_pow_extraBytes (toNat_val_lt number)
    apply Chunk.natural (by omega) (by omega) leadEq
    rw [take_twosComplement nonneg, ofLittleEndian_littleEndian fits]
    exact valEq
  · have taken : (twosComplement integerWidth number.val).take
        (extraBytes number.val + 1) =
          twosComplement integerWidth number.val := by
      apply List.take_of_length_le
      rw [length_twosComplement]
      exact Nat.le_of_eq full.symm
    apply Chunk.signed (lengthEq.trans full) leadEq
    rw [taken, ofTwosComplement_twosComplement]
    · rw [integerWidth]
      omega
    · rw [integerWidth]
      omega

theorem chunk_float (table : Option OpcodeTable) (number : Binary64) :
    Chunk table (.value (.float number))
      (2 :: littleEndian 8 number.bits.toNat) := by
  have held : Chunk table _ (2 :: littleEndian 8 number.bits.toNat) :=
    Chunk.float (length_littleEndian 8 number.bits.toNat)
  rw [ofLittleEndian_littleEndian number.bits.toNat_lt,
    UInt64.ofNat_toNat] at held
  exact held

theorem chunk_text (table : Option OpcodeTable) {text : Text}
    {payload : List UInt8} (encoded : Utf8.encode text = .ok payload)
    (countable : payload.length < 256 ^ integerWidth) :
    Chunk table (.value (.string text))
      (UInt8.ofNat (0x13 + (extraBytes payload.length + 1)) ::
        (littleEndian (extraBytes payload.length + 1) payload.length ++
          payload)) := by
  have small := extraBytes_lt_integerWidth payload.length
  rw [integerWidth] at small
  have lengthEq := length_littleEndian (extraBytes payload.length + 1)
    payload.length
  have leadSmall : 0x13 + (extraBytes payload.length + 1) < 0x100 := by omega
  apply Chunk.text (by omega) (by omega) _ _ encoded
  · rw [UInt8.toNat_ofNat_of_lt' leadSmall, lengthEq]
  · rw [ofLittleEndian_littleEndian (lt_pow_extraBytes countable)]

theorem chunk_operator {operators : OpcodeTable} {held : Operator}
    {opcode : Int} (lower : 0 ≤ opcode) (upper : opcode ≤ 0x7F)
    (known : operators opcode = some held) :
    Chunk (some operators) (.operator held)
      [UInt8.ofNat (0x80 + opcode).toNat] := by
  have leadSmall : (0x80 + opcode).toNat < 0x100 := by omega
  have leadEq := UInt8.toNat_ofNat_of_lt' leadSmall
  apply Chunk.operator (by omega) rfl
  have opcodeEq : ((UInt8.ofNat (0x80 + opcode).toNat).toNat : Int) - 0x80 =
      opcode := by
    omega
  rw [opcodeEq]
  exact known

/-! ## No chunk is shorter -/

/-- The first bytes are fewer than the second, or they are the same. -/
structure AtMost (first second : List UInt8) : Prop where
  length_le : first.length ≤ second.length
  eq_of_length_eq : first.length = second.length → first = second

theorem AtMost.refl (bytes : List UInt8) : AtMost bytes bytes :=
  ⟨Nat.le_refl _, fun _ => rfl⟩

theorem AtMost.append {first second firsts seconds : List UInt8}
    (atMost : AtMost first second) (atMosts : AtMost firsts seconds) :
    AtMost (first ++ firsts) (second ++ seconds) := by
  have lengthLe := atMost.length_le
  have lengthsLe := atMosts.length_le
  constructor
  · rw [List.length_append, List.length_append]
    omega
  · intro lengthEq
    rw [List.length_append, List.length_append] at lengthEq
    rw [atMost.eq_of_length_eq (by omega),
      atMosts.eq_of_length_eq (by omega)]

/-- A discriminant that tells the width of what follows is the same if the width
is. -/
theorem AtMost.cons {lead : UInt8} {base : Nat} {body other : List UInt8}
    (atMost : AtMost body other)
    (leadEq : lead.toNat = base + other.length) :
    AtMost (UInt8.ofNat (base + body.length) :: body) (lead :: other) := by
  constructor
  · exact Nat.succ_le_succ atMost.length_le
  · intro lengthEq
    have bodyEq := atMost.eq_of_length_eq (Nat.succ.inj lengthEq)
    rw [bodyEq, ← leadEq, UInt8.ofNat_toNat]

/-- Little-endian bytes that hold a natural are at least as many as it takes. -/
theorem atMost_littleEndian {bytes : List UInt8} {number : Nat}
    (positive : 0 < bytes.length) (holds : number = ofLittleEndian bytes) :
    AtMost (littleEndian (extraBytes number + 1) number) bytes := by
  subst holds
  have minimal := extraBytes_lt_of_lt positive (ofLittleEndian_lt bytes)
  constructor
  · rw [length_littleEndian]
    exact minimal
  · intro lengthEq
    rw [length_littleEndian] at lengthEq
    rw [lengthEq]
    exact littleEndian_ofLittleEndian bytes

/-- The bytes of an integer in full are at least as many as it takes. -/
theorem atMost_twosComplement {bytes : List UInt8} {number : Int128}
    (full : bytes.length = integerWidth)
    (holds : number.val = ofTwosComplement bytes) :
    AtMost ((twosComplement integerWidth number.val).take
      (extraBytes number.val + 1)) bytes := by
  have small := extraBytes_lt_integerWidth number.val
  constructor
  · rw [length_take_twosComplement, full]
    exact small
  · intro lengthEq
    rw [length_take_twosComplement] at lengthEq
    have restored := twosComplement_ofTwosComplement bytes
    rw [← holds, full] at restored
    rw [lengthEq, restored, List.take_length]

/-- The operators of the table have the opcodes under which it lists them. -/
def Faithful (operators : OpcodeTable) : Prop :=
  ∀ opcode held, operators opcode = some held → held.opcode? = some opcode

/-- Every chunk that is not too long to be counted has a form next to it that is
no longer. -/
theorem Chunk.exists_form {operators : OpcodeTable}
    (faithful : Faithful operators) {item : Item} {chunk : List UInt8}
    (held : Chunk (some operators) item chunk)
    (countable : chunk.length < 256 ^ integerWidth) :
    ∃ form, Form item form ∧ Chunk (some operators) item form ∧
      AtMost form chunk := by
  cases held with
  | boolean truth => exact ⟨_, .boolean truth, .boolean truth, .refl _⟩
  | @float body width =>
      have bodyLt := ofLittleEndian_lt body
      rw [width] at bodyLt
      have restored : littleEndian 8
          (UInt64.ofNat (ofLittleEndian body)).toNat = body := by
        rw [UInt64.toNat_ofNat_of_lt' bodyLt, ← width]
        exact littleEndian_ofLittleEndian body
      refine ⟨_, .float _, chunk_float _ _, ?_⟩
      rw [restored]
      exact .refl _
  | @natural lead body number positive short leadEq holds =>
      have nonneg : 0 ≤ number.val := by omega
      have toNatEq : number.val.toNat = ofLittleEndian body := by omega
      have valEq : number.val = (number.val.toNat : Int) := by omega
      have bodyAtMost := atMost_littleEndian positive toNatEq
      rw [← valEq, ← take_twosComplement nonneg] at bodyAtMost
      refine ⟨_, .integer number, chunk_integer _ number, ?_⟩
      have atMost := bodyAtMost.cons leadEq
      rw [length_take_twosComplement] at atMost
      exact atMost
  | signed full leadEq holds =>
      refine ⟨_, .integer _, chunk_integer _ _, ?_⟩
      have atMost := (atMost_twosComplement full holds).cons leadEq
      rw [length_take_twosComplement] at atMost
      exact atMost
  | emptyText => exact ⟨_, .emptyText, .emptyText, .refl _⟩
  | @text lead lengthBytes payload text positive narrow leadEq lengthEq
      encoded =>
      by_cases empty : text = []
      · subst empty
        refine ⟨_, .emptyText, .emptyText, ?_, ?_⟩
        · exact Nat.succ_le_succ (Nat.zero_le _)
        · intro sameLength
          simp only [List.length_cons, List.length_nil,
            List.length_append] at sameLength
          omega
      · have payloadCountable : payload.length < 256 ^ integerWidth := by
          rw [List.length_cons, List.length_append] at countable
          omega
        refine ⟨_, .text empty encoded payloadCountable,
          chunk_text _ encoded payloadCountable, ?_⟩
        have atMost := ((atMost_littleEndian positive lengthEq).cons
          leadEq).append (.refl payload)
        rw [length_littleEndian] at atMost
        exact atMost
  | @operator lead _ held high tableEq known =>
      cases tableEq
      have leadLt := lead.toNat_lt
      have lower : 0 ≤ (lead.toNat : Int) - 0x80 := by omega
      have upper : (lead.toNat : Int) - 0x80 ≤ 0x7F := by omega
      have leadEq : UInt8.ofNat (0x80 + ((lead.toNat : Int) - 0x80)).toNat =
          lead := by
        have toNatEq : (0x80 + ((lead.toNat : Int) - 0x80)).toNat =
            lead.toNat := by
          omega
        rw [toNatEq, UInt8.ofNat_toNat]
      refine ⟨_, .operator (faithful _ _ known) lower upper,
        chunk_operator lower upper known, ?_⟩
      rw [leadEq]
      exact .refl _

/-- Every concatenation of chunks has the forms of the same script next to it,
and they are no longer. -/
theorem exists_forms_of_chunks {operators : OpcodeTable}
    (faithful : Faithful operators) {script : Script} {bytes : List UInt8}
    (chunks : Chunks (some operators) script bytes)
    (countable : bytes.length < 256 ^ integerWidth) :
    ∃ forms, Concatenation Form script forms ∧
      Chunks (some operators) script forms ∧ AtMost forms bytes := by
  induction chunks with
  | nil => exact ⟨[], .nil, .nil, .refl []⟩
  | cons first others ih =>
      rw [List.length_append] at countable
      obtain ⟨form, isForm, formChunk, atMost⟩ :=
        first.exists_form faithful (by omega)
      obtain ⟨forms, areForms, formChunks, atMosts⟩ := ih (by omega)
      exact ⟨form ++ forms, .cons isForm areForms,
        .cons formChunk formChunks, atMost.append atMosts⟩

end Wire
end StackScript
