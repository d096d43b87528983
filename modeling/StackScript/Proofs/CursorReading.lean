import StackScript.Wire.Reader

/-!
# What a reader takes from the bytes ahead

A reader that starts inside its data sees only the bytes from its cursor on.  This
file describes readers by these bytes: a reader `Reads` a list of bytes as a result
if it gives that result wherever the list lies ahead, whatever follows, and moves
the cursor just behind it; a reader `Fails` on a list of bytes with a fault if it
does so wherever exactly that list lies ahead.  Both notions follow the composition
of readers, so that nothing else has to look at positions.
-/

namespace StackScript

namespace Wire

namespace Cursor

/-- The cursor lies in its data, and the given bytes are those from it on. -/
structure Facing (cursor : Cursor) (bytes : List UInt8) : Prop where
  nonneg : 0 ≤ cursor.position
  bounded : cursor.position ≤ cursor.data.size
  ahead_eq : cursor.data.toList.drop cursor.position.toNat = bytes

/-- The cursor moved towards the end of the data. -/
def moved (cursor : Cursor) (distance : Nat) : Cursor :=
  { cursor with position := cursor.position + distance }

@[simp]
theorem moved_zero (cursor : Cursor) : cursor.moved 0 = cursor := by
  simp [moved]

@[simp]
theorem moved_moved (cursor : Cursor) (first second : Nat) :
    (cursor.moved first).moved second = cursor.moved (first + second) := by
  simp only [moved, Int.natCast_add, Int.add_assoc]

theorem facing_start (data : Array UInt8) :
    (start data).Facing data.toList where
  nonneg := Int.le_refl 0
  bounded := Int.natCast_nonneg _
  ahead_eq := rfl

theorem Facing.left_eq {cursor : Cursor} {bytes : List UInt8}
    (facing : cursor.Facing bytes) :
    cursor.left = bytes.length := by
  have nonneg := facing.nonneg
  have bounded := facing.bounded
  rw [← facing.ahead_eq, List.length_drop, Array.length_toList, left]
  omega

theorem Facing.moved {cursor : Cursor} {taken rest : List UInt8}
    (facing : cursor.Facing (taken ++ rest)) :
    (cursor.moved taken.length).Facing rest := by
  have nonneg := facing.nonneg
  have leftEq := facing.left_eq
  rw [left, List.length_append] at leftEq
  refine ⟨?_, ?_, ?_⟩
  · simp only [Cursor.moved]
    omega
  · simp only [Cursor.moved]
    omega
  · have positionEq : (cursor.position + taken.length).toNat =
        cursor.position.toNat + taken.length := by
      omega
    simp only [Cursor.moved]
    rw [positionEq, ← List.drop_drop, facing.ahead_eq, List.drop_left]

/-- The bytes between the cursor and a position ahead. -/
theorem Facing.stretch_eq {cursor : Cursor} {taken rest : List UInt8}
    (facing : cursor.Facing (taken ++ rest)) :
    cursor.stretch cursor.position (cursor.position + taken.length) =
      taken := by
  have nonneg := facing.nonneg
  have bounded := facing.bounded
  have leftEq := facing.left_eq
  rw [left, List.length_append] at leftEq
  have firstEq : cursor.bound cursor.position = cursor.position.toNat := by
    rw [bound, if_neg (by omega)]
    omega
  have lastEq : cursor.bound (cursor.position + taken.length) =
      cursor.position.toNat + taken.length := by
    rw [bound, if_neg (by omega)]
    omega
  rw [stretch, firstEq, lastEq, Array.toList_extract,
    List.extract_eq_take_drop, Nat.add_sub_cancel_left, facing.ahead_eq,
    List.take_left]

end Cursor

namespace Reader

/-- Wherever the bytes lie ahead, the reader takes them for the result. -/
def Reads {α : Type} (reader : Reader α) (bytes : List UInt8) (result : α) :
    Prop :=
  ∀ cursor rest, Cursor.Facing cursor (bytes ++ rest) →
    reader cursor = .ok result (cursor.moved bytes.length)

/-- Where just these bytes are left, the reader fails, with its cursor still
among them. -/
def Fails {α : Type} (reader : Reader α) (bytes : List UInt8)
    (fault : ReadFault) : Prop :=
  ∀ cursor, Cursor.Facing cursor bytes →
    ∃ taken ≤ bytes.length, reader cursor = .error fault (cursor.moved taken)

/-! ## Composition -/

theorem reads_pure {α : Type} (result : α) : Reads (pure result) [] result := by
  intro cursor rest facing
  rw [List.length_nil, Cursor.moved_zero]
  rfl

theorem Reads.bind {α β : Type} {reader : Reader α} {next : α → Reader β}
    {taken bytes : List UInt8} {between : α} {result : β}
    (first : Reads reader taken between)
    (second : Reads (next between) bytes result) :
    Reads (reader >>= next) (taken ++ bytes) result := by
  intro cursor rest facing
  rw [List.append_assoc] at facing
  have firstEq := first cursor _ facing
  have secondEq := second _ rest facing.moved
  rw [Cursor.moved_moved] at secondEq
  simp only [Bind.bind, EStateM.bind, firstEq, secondEq, List.length_append]

/-- A reader that takes nothing more can come last. -/
theorem Reads.bind_nil {α β : Type} {reader : Reader α} {next : α → Reader β}
    {bytes : List UInt8} {between : α} {result : β}
    (first : Reads reader bytes between)
    (last : Reads (next between) [] result) :
    Reads (reader >>= next) bytes result := by
  have composed := first.bind last
  rw [List.append_nil] at composed
  exact composed

theorem fails_throw {α : Type} (bytes : List UInt8) (fault : ReadFault) :
    Fails (throw fault : Reader α) bytes fault := by
  intro cursor facing
  refine ⟨0, Nat.zero_le _, ?_⟩
  rw [Cursor.moved_zero]
  rfl

theorem Fails.bind {α β : Type} {reader : Reader α} {bytes : List UInt8}
    {fault : ReadFault} (fails : Fails reader bytes fault)
    (next : α → Reader β) :
    Fails (reader >>= next) bytes fault := by
  intro cursor facing
  obtain ⟨taken, within, failed⟩ := fails cursor facing
  refine ⟨taken, within, ?_⟩
  simp only [Bind.bind, EStateM.bind, failed]

theorem Reads.bind_fails {α β : Type} {reader : Reader α}
    {next : α → Reader β} {taken rest : List UInt8} {between : α}
    {fault : ReadFault} (first : Reads reader taken between)
    (second : Fails (next between) rest fault) :
    Fails (reader >>= next) (taken ++ rest) fault := by
  intro cursor facing
  have firstEq := first cursor rest facing
  obtain ⟨further, within, failed⟩ := second _ facing.moved
  rw [Cursor.moved_moved] at failed
  refine ⟨taken.length + further, ?_, ?_⟩
  · rw [List.length_append]
    omega
  · simp only [Bind.bind, EStateM.bind, firstEq, failed]

/-! ## Bytes -/

theorem peekByte_of_facing {cursor : Cursor} {byte : UInt8}
    {rest : List UInt8} (facing : cursor.Facing (byte :: rest)) :
    peekByte cursor = .ok byte cursor := by
  have nonneg := facing.nonneg
  have leftEq := facing.left_eq
  rw [Cursor.left, List.length_cons] at leftEq
  have found : cursor.data[cursor.position.toNat]? = some byte := by
    rw [← Array.getElem?_toList, ← List.head?_drop, facing.ahead_eq]
    rfl
  simp only [peekByte]
  rw [if_neg (by omega), if_neg (by omega), if_neg (by omega), found]

/-- Two readers do the same wherever the given byte lies ahead. -/
def SameAt {α : Type} (lead : UInt8) (first second : Reader α) : Prop :=
  ∀ cursor rest, Cursor.Facing cursor (lead :: rest) →
    first cursor = second cursor

/-- Looking at a byte does not take it. -/
theorem sameAt_peekByte_bind {α : Type} {lead : UInt8}
    {next : UInt8 → Reader α} {reader : Reader α}
    (chosen : next lead = reader) :
    SameAt lead (peekByte >>= next) reader := by
  intro cursor rest facing
  have peeked := peekByte_of_facing facing
  simp only [Bind.bind, EStateM.bind, peeked, chosen]

theorem SameAt.reads {α : Type} {lead : UInt8} {first second : Reader α}
    (same : SameAt lead first second) {bytes : List UInt8} {result : α}
    (reads : Reads second (lead :: bytes) result) :
    Reads first (lead :: bytes) result := by
  intro cursor rest facing
  rw [same cursor _ facing]
  exact reads cursor rest facing

theorem SameAt.fails {α : Type} {lead : UInt8} {first second : Reader α}
    (same : SameAt lead first second) {bytes : List UInt8}
    {fault : ReadFault} (fails : Fails second (lead :: bytes) fault) :
    Fails first (lead :: bytes) fault := by
  intro cursor facing
  rw [same cursor _ facing]
  exact fails cursor facing

theorem reads_readByte (byte : UInt8) : Reads readByte [byte] byte := by
  intro cursor rest facing
  have peeked := peekByte_of_facing facing
  simp only [readByte, Bind.bind, EStateM.bind, peeked]
  rfl

theorem Reads.readByte_bind {α : Type} {next : UInt8 → Reader α}
    {byte : UInt8} {bytes : List UInt8} {result : α}
    (reads : Reads (next byte) bytes result) :
    Reads (readByte >>= next) (byte :: bytes) result :=
  (reads_readByte byte).bind reads

theorem Fails.readByte_bind {α : Type} {next : UInt8 → Reader α}
    {byte : UInt8} {bytes : List UInt8} {fault : ReadFault}
    (fails : Fails (next byte) bytes fault) :
    Fails (readByte >>= next) (byte :: bytes) fault :=
  (reads_readByte byte).bind_fails fails

theorem reads_readBytes {length : Int} {bytes : List UInt8}
    (lengthEq : length = bytes.length) :
    Reads (readBytes length) bytes bytes := by
  intro cursor rest facing
  have leftEq := facing.left_eq
  rw [List.length_append] at leftEq
  subst lengthEq
  rw [readBytes, if_neg (by omega), facing.stretch_eq]
  rfl

theorem fails_readBytes {length : Int} {bytes : List UInt8}
    (short : bytes.length < length) :
    Fails (readBytes length) bytes (.shortData length bytes.length) := by
  intro cursor facing
  refine ⟨0, Nat.zero_le _, ?_⟩
  rw [readBytes, facing.left_eq, if_pos short, Cursor.moved_zero]

end Reader
end Wire
end StackScript
