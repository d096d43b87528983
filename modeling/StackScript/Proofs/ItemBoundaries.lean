import StackScript.Proofs.DecodingFailures

/-!
# Where items end

Nothing on the wire says where a script ends, and nothing but its own bytes says where
an item does.  That is enough.  Behind the bytes of a script other bytes are read as
if they stood alone, and of the bytes of a script a part is read up to the last item
that is in it as a whole.  A part of an item is never mistaken for anything: the bytes
are too few for what its first byte announces, even where they break off inside a
character, because a text is not looked at before all of it is there.
-/

namespace StackScript

namespace Wire

open Reader

variable {table : Option OpcodeTable} {script : Script} {bytes rest : List UInt8}

/-! ## One script behind another -/

theorem Concatenation.append {Part : Item → List UInt8 → Prop}
    {first second : Script} {bytes others : List UInt8}
    (firstHeld : Concatenation Part first bytes)
    (secondHeld : Concatenation Part second others) :
    Concatenation Part (first ++ second) (bytes ++ others) := by
  induction firstHeld with
  | nil => exact secondHeld
  | cons isPart _ ih =>
      rw [List.append_assoc]
      exact .cons isPart ih

theorem BrokenBehind.append {fault : ReadFault}
    (chunks : Chunks table script bytes) (broken : BrokenBehind table rest fault) :
    BrokenBehind table (bytes ++ rest) fault := by
  obtain ⟨items, more, last, rfl, areChunks, lastBroken⟩ := broken
  exact ⟨script ++ items, bytes ++ more, last, by rw [List.append_assoc],
    chunks.append areChunks, lastBroken⟩

/-- As many items as a script has are read from its chunks, whatever comes behind. -/
theorem readItems_length_of_chunks (chunks : Chunks table script bytes)
    {cursor : Cursor} (facing : cursor.Facing (bytes ++ rest)) :
    readItems table script.length cursor =
      .ok script (cursor.moved bytes.length) := by
  induction chunks generalizing cursor with
  | nil =>
      change EStateM.Result.ok [] cursor = .ok [] (cursor.moved 0)
      rw [Cursor.moved_zero]
  | cons held _ ih =>
      rw [List.append_assoc] at facing
      rw [List.length_cons, readItems_cons held _ facing, ih facing.moved,
        Cursor.moved_moved, List.length_append]

/-- Bytes behind those of a script are read as if they stood alone: they add their own
script, or they fail with their own fault.  The items of the script stop where its
bytes do. -/
theorem decode_append_of_decode {first : Array UInt8}
    (decoded : decode table first = .ok script) (second : Array UInt8) :
    (∀ others, decode table second = .ok others →
      decode table (first ++ second) = .ok (script ++ others)) ∧
    (∀ fault, decode table second = .error fault →
      decode table (first ++ second) = .error fault) ∧
    readItems table script.length (Cursor.start (first ++ second)) =
      .ok script ⟨first ++ second, first.size⟩ := by
  have chunks := decode_eq_ok_iff.mp decoded
  refine ⟨?_, ?_, ?_⟩
  · intro others othersDecoded
    rw [decode_eq_ok_iff, Array.toList_append]
    exact chunks.append (decode_eq_ok_iff.mp othersDecoded)
  · intro fault failed
    rw [decode_eq_error_iff, Array.toList_append]
    exact .append chunks (decode_eq_error_iff.mp failed)
  · have facing := Cursor.facing_start (first ++ second)
    rw [Array.toList_append] at facing
    rw [readItems_length_of_chunks chunks facing]
    simp [Cursor.moved, Cursor.start]

/-- Behind a text whose length takes more bytes than it needs there comes an operator,
or a text that breaks off. -/
theorem decode_append_of_decode_padded :
    let first : Array UInt8 := #[0x01, 0x15, 0x02, 0x00, 0xC3, 0xA9]
    let script : Script := [.value (.boolean true), .value (.string [0xE9])]
    let torn : Array UInt8 := #[0x14, 0x04, 0x61]
    decode (some instructionTable) first = .ok script ∧
      decode (some instructionTable) (first ++ #[0x8B]) =
        .ok (script ++ [.instruction .drop]) ∧
      decode (some instructionTable) torn = .error (.shortData 4 1) ∧
      decode (some instructionTable) (first ++ torn) = .error (.shortData 4 1) ∧
      readItems (some instructionTable) 2 (Cursor.start (first ++ torn)) =
        .ok script ⟨first ++ torn, 6⟩ := by
  have decoded : decode (some instructionTable)
      #[0x01, 0x15, 0x02, 0x00, 0xC3, 0xA9] =
        .ok [.value (.boolean true), .value (.string [0xE9])] :=
    rfl
  have broken : decode (some instructionTable) #[0x14, 0x04, 0x61] =
      .error (.shortData 4 1) :=
    rfl
  obtain ⟨_, fails, stops⟩ := decode_append_of_decode decoded #[0x14, 0x04, 0x61]
  exact ⟨decoded, (decode_append_of_decode decoded #[0x8B]).1 _ rfl, broken,
    fails _ broken, stops⟩

/-! ## Parts of an item -/

theorem bodyWidth?_of_integer {lead : UInt8} {width : Nat} (positive : 0 < width)
    (narrow : width ≤ integerWidth) (leadEq : lead.toNat = 0x02 + width) :
    bodyWidth? lead = some width := by
  rw [integerWidth] at narrow
  rw [bodyWidth?, if_neg (by omega), if_pos (by omega), leadEq,
    Nat.add_sub_cancel_left]

/-- What is left of an item that is cut off says that something is missing. -/
theorem Chunk.truncated_take {item : Item} {chunk : List UInt8}
    (held : Chunk table item chunk) {cut : Nat} (positive : 0 < cut)
    (short : cut < chunk.length) : Truncated (chunk.take cut) := by
  obtain ⟨inside, rfl⟩ := Nat.exists_eq_add_of_lt positive
  cases held with
  | boolean truth => simp at short
  | emptyText => simp at short
  | operator high tableEq known => simp at short
  | float width =>
      rw [List.length_cons, width] at short
      refine .body rfl ?_
      rw [List.length_take]
      omega
  | natural bodyPositive bodyShort leadEq holds =>
      rw [List.length_cons] at short
      refine .body (bodyWidth?_of_integer bodyPositive (Nat.le_of_lt bodyShort) leadEq) ?_
      rw [List.length_take]
      omega
  | signed full leadEq holds =>
      rw [List.length_cons] at short
      refine .body (bodyWidth?_of_integer (by simp [full, integerWidth])
        (Nat.le_of_eq full) leadEq) ?_
      rw [List.length_take]
      omega
  | @text lead lengthBytes payload text lengthPositive narrow leadEq lengthEq encoded =>
      rw [List.length_cons, List.length_append] at short
      rw [Nat.zero_add, List.take_succ_cons]
      rcases Nat.lt_or_ge inside lengthBytes.length with before | behind
      · refine .length (by omega) (by omega) ?_
        rw [List.length_take, List.length_append]
        omega
      · obtain ⟨present, rfl⟩ := Nat.exists_eq_add_of_le behind
        rw [List.take_length_add_append]
        refine .payload lengthPositive narrow leadEq ?_
        rw [List.length_take]
        omega

/-! ## Boundaries -/

/-- Where the items of the script in the given bytes start, and where the last of them
ends. -/
def itemBoundaries (table : Option OpcodeTable) (data : Array UInt8) : List Int :=
  itemStarts table data.size (Cursor.start data) ++ [(data.size : Int)]

/-- The chunks of a script from a place on, with the places where they start and the
one where they end. -/
inductive Layout (table : Option OpcodeTable) :
    Int → Script → List UInt8 → List Int → Prop where
  | nil {origin : Int} : Layout table origin [] [] [origin]
  | cons {origin : Int} {item : Item} {script : Script} {chunk bytes : List UInt8}
      {places : List Int} (held : Chunk table item chunk)
      (others : Layout table (origin + chunk.length) script bytes places) :
      Layout table origin (item :: script) (chunk ++ bytes) (origin :: places)

theorem itemStarts_nil (rounds : Nat) {cursor : Cursor} (facing : cursor.Facing []) :
    itemStarts table rounds cursor = [] := by
  cases rounds with
  | zero => rfl
  | succ rounds =>
      have leftEq : cursor.left = 0 := facing.left_eq
      rw [itemStarts, if_pos (by omega)]

theorem itemStarts_cons {item : Item} {chunk : List UInt8}
    (held : Chunk table item chunk) (rounds : Nat) {cursor : Cursor}
    (facing : cursor.Facing (chunk ++ rest)) :
    itemStarts table (rounds + 1) cursor =
      cursor.position :: itemStarts table rounds (cursor.moved chunk.length) := by
  have leftEq := facing.left_eq
  have positive := held.length_pos
  have readEq := held.reads cursor rest facing
  rw [List.length_append] at leftEq
  rw [itemStarts, if_neg (by omega), readEq]

/-- The reader finds the items where the chunks are. -/
theorem layout_itemStarts (chunks : Chunks table script bytes) {rounds : Nat}
    (enough : bytes.length ≤ rounds) {cursor : Cursor}
    (facing : cursor.Facing bytes) :
    Layout table cursor.position script bytes
      (itemStarts table rounds cursor ++ [cursor.position + bytes.length]) := by
  induction chunks generalizing rounds cursor with
  | nil =>
      rw [itemStarts_nil rounds facing, List.length_nil, Int.natCast_zero, Int.add_zero]
      exact .nil
  | @cons item script chunk bytes held others ih =>
      have positive := held.length_pos
      rw [List.length_append] at enough
      cases rounds with
      | zero => omega
      | succ rounds =>
          have enoughLeft : bytes.length ≤ rounds := by omega
          have behind := ih enoughLeft facing.moved
          rw [itemStarts_cons held rounds facing, List.cons_append, List.length_append,
            Int.natCast_add, ← Int.add_assoc]
          exact .cons held behind

theorem layout_itemBoundaries {data : Array UInt8}
    (decoded : decode table data = .ok script) :
    Layout table 0 script data.toList (itemBoundaries table data) := by
  have layout := layout_itemStarts (decode_eq_ok_iff.mp decoded)
    (Nat.le_of_eq data.length_toList) (Cursor.facing_start data)
  have endEq : (Cursor.start data).position + data.toList.length = data.size := by
    rw [Array.length_toList]
    exact Int.zero_add _
  rw [endEq] at layout
  exact layout

namespace Layout

variable {origin : Int} {places : List Int}

theorem length_eq (layout : Layout table origin script bytes places) :
    places.length = script.length + 1 := by
  induction layout with
  | nil => rfl
  | cons held others ih => rw [List.length_cons, List.length_cons, ih]

theorem head?_eq (layout : Layout table origin script bytes places) :
    places.head? = some origin := by
  cases layout <;> rfl

theorem origin_le (layout : Layout table origin script bytes places) :
    ∀ place ∈ places, origin ≤ place := by
  induction layout with
  | nil => simp
  | cons held others ih =>
      rw [List.forall_mem_cons]
      refine ⟨Int.le_refl _, ?_⟩
      intro place member
      have further := ih place member
      omega

theorem increasing (layout : Layout table origin script bytes places) :
    places.Pairwise (· < ·) := by
  induction layout with
  | nil => exact List.pairwise_singleton _ _
  | cons held others ih =>
      have positive := held.length_pos
      refine List.pairwise_cons.mpr ⟨?_, ih⟩
      intro place member
      have further := others.origin_le place member
      omega

/-- Up to a boundary there are the chunks of the items before it. -/
theorem chunks_take (layout : Layout table origin script bytes places)
    {index cut : Nat} (boundary : places[index]? = some (origin + cut)) :
    Chunks table (script.take index) (bytes.take cut) := by
  induction layout generalizing index cut with
  | nil =>
      rw [List.take_nil, List.take_nil]
      exact .nil
  | @cons origin item script chunk bytes places held others ih =>
      cases index with
      | zero =>
          rw [List.getElem?_cons_zero, Option.some_inj] at boundary
          have atStart : cut = 0 := by omega
          rw [atStart]
          exact .nil
      | succ index =>
          rw [List.getElem?_cons_succ] at boundary
          have behind := others.origin_le _ (List.mem_of_getElem? boundary)
          obtain ⟨further, rfl⟩ : ∃ further, cut = chunk.length + further :=
            Nat.exists_eq_add_of_le (by omega)
          rw [Int.natCast_add, ← Int.add_assoc] at boundary
          rw [List.take_succ_cons, List.take_length_add_append]
          exact .cons held (ih boundary)

/-- Between two boundaries an item is cut off. -/
theorem brokenBehind_take (layout : Layout table origin script bytes places)
    {cut : Nat} (inside : cut < bytes.length) (between : origin + cut ∉ places) :
    ∃ fault, BrokenBehind table (bytes.take cut) fault ∧
      fault.label = "EofError" := by
  induction layout generalizing cut with
  | nil => simp at inside
  | @cons origin item script chunk bytes places held others ih =>
      rw [List.mem_cons, not_or] at between
      rw [List.length_append] at inside
      rcases Nat.lt_or_ge cut chunk.length with short | behind
      · have positive : 0 < cut := by omega
        obtain ⟨fault, broken, labelEq⟩ :=
          (held.truncated_take positive short).broken table
        refine ⟨fault, ⟨[], [], _, rfl, .nil, ?_⟩, labelEq⟩
        rw [List.take_append_of_le_length (Nat.le_of_lt short)]
        exact broken
      · obtain ⟨further, rfl⟩ := Nat.exists_eq_add_of_le behind
        rw [Int.natCast_add, ← Int.add_assoc] at between
        obtain ⟨fault, broken, labelEq⟩ := ih (by omega) between.2
        rw [List.take_length_add_append]
        exact ⟨fault, broken.cons held, labelEq⟩

end Layout

/-- A script cut off at a boundary between its items is read as the items before it.
Cut off anywhere else it is refused because data is missing. -/
theorem decode_take_of_decode {data : Array UInt8}
    (decoded : decode table data = .ok script) :
    let boundaries := itemBoundaries table data
    (boundaries.length = script.length + 1 ∧ boundaries.head? = some 0 ∧
      boundaries.getLast? = some (data.size : Int) ∧
      boundaries.Pairwise (· < ·)) ∧
    ∀ cut < data.size,
      (∀ index : Nat, boundaries[index]? = some (cut : Int) →
        decode table (data.take cut) = .ok (script.take index)) ∧
      ((cut : Int) ∉ boundaries →
        ∃ fault, decode table (data.take cut) = .error fault ∧
          fault.label = "EofError") := by
  intro boundaries
  have layout : Layout table 0 script data.toList boundaries :=
    layout_itemBoundaries decoded
  have takeEq (cut : Nat) : (data.take cut).toList = data.toList.take cut := by simp
  refine ⟨⟨layout.length_eq, layout.head?_eq, List.getLast?_concat, layout.increasing⟩,
    ?_⟩
  intro cut inside
  constructor
  · intro index boundary
    rw [decode_eq_ok_iff, takeEq]
    exact layout.chunks_take (by rwa [Int.zero_add])
  · intro between
    obtain ⟨fault, broken, labelEq⟩ :=
      layout.brokenBehind_take inside (by rwa [Int.zero_add])
    refine ⟨fault, ?_, labelEq⟩
    rw [decode_eq_error_iff, takeEq]
    exact broken

/-- Behind the text comes an operator.  Without it there are the two items before; if
the text is cut off in the midst of its only character, data is missing. -/
theorem decode_take_of_decode_character :
    let data : Array UInt8 := #[0x01, 0x15, 0x02, 0x00, 0xC3, 0xA9, 0x8B]
    let script : Script :=
      [.value (.boolean true), .value (.string [0xE9]), .instruction .drop]
    decode (some instructionTable) data = .ok script ∧
      itemBoundaries (some instructionTable) data = [0, 1, 6, 7] ∧
      decode (some instructionTable) (data.take 6) = .ok (script.take 2) ∧
      ∃ fault, decode (some instructionTable) (data.take 5) = .error fault ∧
        fault.label = "EofError" := by
  have decoded : decode (some instructionTable)
      #[0x01, 0x15, 0x02, 0x00, 0xC3, 0xA9, 0x8B] =
        .ok [.value (.boolean true), .value (.string [0xE9]), .instruction .drop] :=
    rfl
  have boundaries : itemBoundaries (some instructionTable)
      #[0x01, 0x15, 0x02, 0x00, 0xC3, 0xA9, 0x8B] = [0, 1, 6, 7] :=
    rfl
  have between : ((5 : Nat) : Int) ∉ itemBoundaries (some instructionTable)
      #[0x01, 0x15, 0x02, 0x00, 0xC3, 0xA9, 0x8B] := by
    rw [boundaries]
    decide
  obtain ⟨_, cuts⟩ := decode_take_of_decode decoded
  exact ⟨decoded, boundaries, (cuts 6 (by decide)).1 2 rfl,
    (cuts 5 (by decide)).2 between⟩

end Wire
end StackScript
