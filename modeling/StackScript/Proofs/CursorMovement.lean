import Mathlib.Tactic.SplitIfs
import StackScript.Proofs.Outcomes
import StackScript.Proofs.WireGrammar

/-!
# How the cursor moves

The length of a body comes from the data, and a body of negative length would move the
cursor back.  No kind of item announces one, so reading values, operators, items and
scripts only ever moves the cursor towards the end of the data, and never beyond it.
That holds from every place in the data, also from the inside of an item, where a
failure may have left the cursor.

An item takes at least one byte and is determined by the bytes that it takes.  Reading
a script is therefore a loop that ends, after no more rounds than bytes were left.
-/

namespace StackScript

namespace Wire

namespace Cursor

/-- The cursor lies in its data or at the end of it. -/
def IsInside (cursor : Cursor) : Prop :=
  0 ≤ cursor.position ∧ cursor.position ≤ cursor.data.size

instance (cursor : Cursor) : Decidable cursor.IsInside :=
  inferInstanceAs (Decidable (_ ∧ _))

/-- The bytes from the cursor on. -/
def ahead (cursor : Cursor) : List UInt8 :=
  cursor.data.toList.drop cursor.position.toNat

/-- The next cursor lies in the same data, not before the first one and not behind the
end. -/
structure Follows (cursor next : Cursor) : Prop where
  data_eq : next.data = cursor.data
  forward : cursor.position ≤ next.position
  bounded : next.position ≤ next.data.size

variable {cursor next last : Cursor}

theorem IsInside.facing (inside : cursor.IsInside) : cursor.Facing cursor.ahead :=
  ⟨inside.1, inside.2, rfl⟩

theorem IsInside.left_nonneg (inside : cursor.IsInside) : 0 ≤ cursor.left :=
  Int.sub_nonneg.mpr inside.2

theorem IsInside.follows_self (inside : cursor.IsInside) : cursor.Follows cursor :=
  ⟨rfl, Int.le_refl _, inside.2⟩

theorem Follows.isInside (follows : cursor.Follows next) (inside : cursor.IsInside) :
    next.IsInside :=
  ⟨Int.le_trans inside.1 follows.forward, follows.bounded⟩

theorem Follows.trans (first : cursor.Follows next) (second : next.Follows last) :
    cursor.Follows last :=
  ⟨second.data_eq.trans first.data_eq, Int.le_trans first.forward second.forward,
    second.bounded⟩

theorem Facing.follows_moved {bytes : List UInt8} (facing : cursor.Facing bytes)
    {distance : Nat} (within : distance ≤ bytes.length) :
    cursor.Follows (cursor.moved distance) := by
  have leftEq := facing.left_eq
  rw [left] at leftEq
  refine ⟨rfl, ?_, ?_⟩
  · simp only [Cursor.moved]
    omega
  · simp only [Cursor.moved]
    omega

end Cursor

namespace Reader

variable {α β : Type}

/-- From every place in the data the reader leads to one that follows. -/
def MovesForward (reader : Reader α) : Prop :=
  ∀ cursor : Cursor, cursor.IsInside → cursor.Follows (leftBy (reader cursor))

theorem movesForward_pure (result : α) : MovesForward (pure result) :=
  fun _ inside => inside.follows_self

theorem movesForward_throw (fault : ReadFault) :
    MovesForward (throw fault : Reader α) :=
  fun _ inside => inside.follows_self

theorem MovesForward.bind {reader : Reader α} {next : α → Reader β}
    (first : MovesForward reader) (second : ∀ between, MovesForward (next between)) :
    MovesForward (reader >>= next) := by
  intro cursor inside
  have followed := first cursor inside
  simp only [Bind.bind, EStateM.bind]
  cases outcome : reader cursor with
  | error fault reached =>
      rw [outcome] at followed
      exact followed
  | ok between reached =>
      rw [outcome] at followed
      exact followed.trans (second between reached (followed.isInside inside))

theorem leftBy_bind_pure (reader : Reader α) (result : α → β) (cursor : Cursor) :
    leftBy ((reader >>= fun between => pure (result between)) cursor) =
      leftBy (reader cursor) := by
  simp only [Bind.bind, EStateM.bind]
  cases reader cursor <;> rfl

/-! ## Bytes -/

theorem leftBy_peekByte (cursor : Cursor) : leftBy (peekByte cursor) = cursor := by
  simp only [peekByte]
  split_ifs
  · rfl
  · rfl
  · split <;> rfl
  · split <;> rfl

theorem failsInPlace_peekByte : FailsInPlace peekByte :=
  failsInPlace_of_leftBy leftBy_peekByte

theorem failsInPlace_readByte : FailsInPlace readByte := by
  intro cursor fault next failed
  simp only [readByte, Bind.bind, EStateM.bind] at failed
  cases peeked : peekByte cursor with
  | ok byte reached =>
      rw [peeked] at failed
      cases failed
  | error other reached =>
      rw [peeked] at failed
      cases failed
      exact failsInPlace_peekByte cursor _ _ peeked

theorem failsInPlace_readBytes (length : Int) : FailsInPlace (readBytes length) := by
  intro cursor fault next failed
  rw [readBytes] at failed
  split at failed
  · cases failed
    rfl
  · cases failed

/-- Every reader that looks at a byte first fails in place where none is left. -/
theorem peekByte_bind_of_facing_nil {cursor : Cursor} (facing : cursor.Facing [])
    (next : UInt8 → Reader α) :
    (peekByte >>= next) cursor = .error .endOfData cursor := by
  have leftEq := facing.left_eq
  rw [Cursor.left, List.length_nil] at leftEq
  have atEnd : (cursor.data.size : Int) ≤ cursor.position := by omega
  have peeked : peekByte cursor = .error .endOfData cursor := if_pos atEnd
  simp only [Bind.bind, EStateM.bind, peeked]

theorem movesForward_peekByte : MovesForward peekByte := by
  intro cursor inside
  rw [leftBy_peekByte]
  exact inside.follows_self

theorem movesForward_readByte : MovesForward readByte := by
  intro cursor inside
  have facing := inside.facing
  cases bytesEq : cursor.ahead with
  | nil =>
      rw [bytesEq] at facing
      rw [readByte, peekByte_bind_of_facing_nil facing]
      exact inside.follows_self
  | cons byte rest =>
      rw [bytesEq] at facing
      rw [reads_readByte byte cursor rest facing]
      exact facing.follows_moved (by simp)

theorem movesForward_readBytes (length : Nat) : MovesForward (readBytes length) := by
  intro cursor inside
  rw [readBytes]
  split
  · exact inside.follows_self
  · next enough =>
      have facing := inside.facing
      have leftEq := facing.left_eq
      exact facing.follows_moved (by omega)

/-! ## Items -/

section Items

variable (table : Option OpcodeTable)

/-- What reading an item can come to: it takes the chunk of the item, or it fails
somewhere in the data. -/
theorem readItem_cases {cursor : Cursor} {bytes : List UInt8}
    (facing : cursor.Facing bytes) :
    (∃ item chunk rest, Chunk table item chunk ∧ bytes = chunk ++ rest ∧
      readItem table cursor = .ok item (cursor.moved chunk.length)) ∨
    ∃ fault, ∃ distance ≤ bytes.length,
      readItem table cursor = .error fault (cursor.moved distance) := by
  by_cases empty : bytes = []
  · subst empty
    refine .inr ⟨.endOfData, 0, Nat.le_refl 0, ?_⟩
    rw [Cursor.moved_zero]
    exact peekByte_bind_of_facing_nil facing _
  obtain ⟨item, chunk, rest, held, rfl⟩ | ⟨fault, broken⟩ :=
    decided_of_ne_nil table empty
  · exact .inl ⟨item, chunk, rest, held, rfl, held.reads cursor rest facing⟩
  · exact .inr ⟨fault, broken.fails cursor facing⟩

theorem movesForward_readItem : MovesForward (readItem table) := by
  intro cursor inside
  have facing := inside.facing
  obtain ⟨item, chunk, rest, _, bytesEq, succeeded⟩ | ⟨fault, distance, within, failed⟩ :=
    readItem_cases table facing
  · rw [succeeded]
    exact facing.follows_moved (by simp [bytesEq])
  · rw [failed]
    exact facing.follows_moved within

/-- A value is read as an item is.  What would be an operator is refused in place. -/
theorem movesForward_readValue : MovesForward readValue := by
  intro cursor inside
  have facing := inside.facing
  cases bytesEq : cursor.ahead with
  | nil =>
      rw [bytesEq] at facing
      rw [readValue, peekByte_bind_of_facing_nil facing]
      exact inside.follows_self
  | cons lead rest =>
      rw [bytesEq] at facing
      by_cases low : lead.toNat < 0x80
      · have followed := movesForward_readItem none cursor inside
        rw [readItem_value none low cursor rest facing, leftBy_bind_pure] at followed
        exact followed
      · rw [readValue_unknown (by omega) cursor rest facing]
        exact inside.follows_self

theorem movesForward_readOperator : MovesForward (readOperator table) := by
  refine movesForward_readByte.bind fun byte => ?_
  cases table with
  | none => exact movesForward_throw _
  | some operators =>
      dsimp only
      split
      · exact movesForward_pure _
      · exact movesForward_throw _

variable {table}

/-- An item that is read has taken bytes, and wherever the same bytes lie ahead the
same item is read. -/
theorem readItem_of_same_bytes {cursor next : Cursor} {item : Item}
    (inside : cursor.IsInside) (succeeded : readItem table cursor = .ok item next) :
    cursor.position < next.position ∧
      ∀ other rest,
        Cursor.Facing other (cursor.stretch cursor.position next.position ++ rest) →
          readItem table other = .ok item
            ⟨other.data, other.position + (next.position - cursor.position)⟩ := by
  have facing := inside.facing
  obtain ⟨_, chunk, rest, held, bytesEq, readEq⟩ | ⟨_, _, _, failed⟩ :=
    readItem_cases table facing
  · rw [readEq] at succeeded
    cases succeeded
    rw [bytesEq] at facing
    have positive := held.length_pos
    have distanceEq : (cursor.moved chunk.length).position - cursor.position =
        chunk.length := by
      simp only [Cursor.moved]
      omega
    refine ⟨by omega, ?_⟩
    intro other behind otherFacing
    rw [Cursor.moved, facing.stretch_eq] at otherFacing
    rw [held.reads other behind otherFacing, distanceEq]
    rfl
  · rw [failed] at succeeded
    cases succeeded

end Items

/-! ## Scripts -/

/-- Puts an item in front of the script that is read behind it. -/
def prepend (item : Item) :
    EStateM.Result ReadFault Cursor Script → EStateM.Result ReadFault Cursor Script
  | .ok script last => .ok (item :: script) last
  | .error fault last => .error fault last

theorem leftBy_prepend (item : Item)
    (result : EStateM.Result ReadFault Cursor Script) :
    leftBy (prepend item result) = leftBy result := by
  cases result <;> rfl

/-- Reading items for as long as bytes are left, and the number of items that are
looked at.  The loop itself does not count. -/
inductive ItemLoop (table : Option OpcodeTable) :
    Cursor → Nat → EStateM.Result ReadFault Cursor Script → Prop where
  | ends {cursor : Cursor} (atEnd : cursor.left ≤ 0) :
      ItemLoop table cursor 0 (.ok [] cursor)
  | fails {cursor next : Cursor} {fault : ReadFault} (bytesLeft : 0 < cursor.left)
      (failed : readItem table cursor = .error fault next) :
      ItemLoop table cursor 1 (.error fault next)
  | goesOn {cursor next : Cursor} {item : Item} {rounds : Nat}
      {result : EStateM.Result ReadFault Cursor Script} (bytesLeft : 0 < cursor.left)
      (read : readItem table cursor = .ok item next)
      (others : ItemLoop table next rounds result) :
      ItemLoop table cursor (rounds + 1) (prepend item result)

section Scripts

variable {table : Option OpcodeTable} {cursor : Cursor}

/-- As many rounds as there are bytes left are enough for the loop, because every item
takes bytes. -/
theorem itemLoop_readItems {rounds : Nat} (inside : cursor.IsInside)
    (enough : cursor.left ≤ rounds) :
    ∃ taken : Nat, taken ≤ cursor.left ∧
      ItemLoop table cursor taken (readItems table rounds cursor) := by
  induction rounds generalizing cursor with
  | zero => exact ⟨0, inside.left_nonneg, .ends enough⟩
  | succ rounds ih =>
      rw [readItems_succ]
      split
      · next atEnd => exact ⟨0, inside.left_nonneg, .ends atEnd⟩
      · next notAtEnd =>
          have bytesLeft : 0 < cursor.left := Int.not_le.mp notAtEnd
          cases outcome : readItem table cursor with
          | error fault next => exact ⟨1, by omega, .fails bytesLeft outcome⟩
          | ok item next =>
              have follows := movesForward_readItem table cursor inside
              rw [outcome, leftBy] at follows
              have advanced := (readItem_of_same_bytes inside outcome).1
              have fewerLeft : next.left < cursor.left := by
                rw [Cursor.left, Cursor.left, follows.data_eq]
                omega
              obtain ⟨taken, takenLe, loop⟩ := ih (follows.isInside inside) (by omega)
              exact ⟨taken + 1, by omega, .goesOn bytesLeft outcome loop⟩

theorem itemLoop_readScript (table : Option OpcodeTable)
    (inside : cursor.IsInside) :
    ∃ taken : Nat, taken ≤ cursor.left ∧
      ItemLoop table cursor taken (readScript table cursor) := by
  have leftNonneg := inside.left_nonneg
  exact itemLoop_readItems inside (by omega)

namespace ItemLoop

variable {rounds : Nat} {result : EStateM.Result ReadFault Cursor Script}

theorem follows (loop : ItemLoop table cursor rounds result)
    (inside : cursor.IsInside) : cursor.Follows (leftBy result) := by
  induction loop with
  | ends atEnd => exact inside.follows_self
  | @fails cursor next fault bytesLeft failed =>
      have followed := movesForward_readItem table cursor inside
      rw [failed] at followed
      exact followed
  | @goesOn cursor next item rounds result bytesLeft read others ih =>
      have followed := movesForward_readItem table cursor inside
      rw [read] at followed
      rw [leftBy_prepend]
      exact followed.trans (ih (followed.isInside inside))

/-- A loop that succeeds has found an item in every round and nothing behind the
last. -/
theorem of_ok {script : Script} {last : Cursor}
    (loop : ItemLoop table cursor rounds (.ok script last)) :
    script.length = rounds ∧ last.left ≤ 0 := by
  generalize resultEq : EStateM.Result.ok script last = result at loop
  induction loop generalizing script with
  | ends atEnd =>
      cases resultEq
      exact ⟨rfl, atEnd⟩
  | fails bytesLeft failed => cases resultEq
  | @goesOn cursor next item rounds result bytesLeft read others ih =>
      cases result with
      | error fault reached => cases resultEq
      | ok items reached =>
          cases resultEq
          obtain ⟨lengthEq, atEnd⟩ := ih rfl
          exact ⟨congrArg (· + 1) lengthEq, atEnd⟩

end ItemLoop

theorem movesForward_readScript (table : Option OpcodeTable) :
    MovesForward (readScript table) := by
  intro cursor inside
  obtain ⟨_, _, loop⟩ := itemLoop_readScript table inside
  exact loop.follows inside

end Scripts

/-! ## Sequences of calls -/

/-- What can be asked of a reader, one call after the other. -/
inductive Call where
  | peekByte
  | readByte
  | readBytes (length : Nat)
  | readValue
  | readOperator
  | readItem
  | readScript

/-- Makes a call; what it gives is of no interest. -/
def Call.perform (table : Option OpcodeTable) : Call → Reader Unit
  | .peekByte => Reader.peekByte >>= fun _ => pure ()
  | .readByte => Reader.readByte >>= fun _ => pure ()
  | .readBytes length => Reader.readBytes length >>= fun _ => pure ()
  | .readValue => Reader.readValue >>= fun _ => pure ()
  | .readOperator => Reader.readOperator table >>= fun _ => pure ()
  | .readItem => Reader.readItem table >>= fun _ => pure ()
  | .readScript => Reader.readScript table >>= fun _ => pure ()

/-- The cursor after a sequence of calls, each from where the one before has left it. -/
abbrev afterCalls (table : Option OpcodeTable) (calls : List Call) (cursor : Cursor) :
    Cursor :=
  leftByAll (Call.perform table) calls cursor

theorem Call.movesForward_perform (table : Option OpcodeTable) (call : Call) :
    MovesForward (call.perform table) := by
  have ends {α : Type} (_ : α) : MovesForward (pure ()) := movesForward_pure ()
  cases call with
  | peekByte => exact movesForward_peekByte.bind ends
  | readByte => exact movesForward_readByte.bind ends
  | readBytes length => exact (movesForward_readBytes length).bind ends
  | readValue => exact movesForward_readValue.bind ends
  | readOperator => exact (movesForward_readOperator table).bind ends
  | readItem => exact (movesForward_readItem table).bind ends
  | readScript => exact (movesForward_readScript table).bind ends

theorem follows_afterCalls (table : Option OpcodeTable) (calls : List Call)
    {cursor : Cursor} (inside : cursor.IsInside) :
    cursor.Follows (afterCalls table calls cursor) := by
  apply holds_leftByAll cursor.Follows inside.follows_self
  intro call _ reached follows
  exact follows.trans
    (call.movesForward_perform table reached (follows.isInside inside))

/-- Calls of a reader, also failing ones, move the cursor towards the end of the data
and not beyond it.  Bytes are read in full or not at all.  An item takes at least one
byte and depends on no byte that it does not take.  Reading a script ends, after no more
items than bytes were left, and if it succeeds, it ends at the end of the data. -/
theorem calls_move_forward (table : Option OpcodeTable) {cursor : Cursor}
    (inside : cursor.IsInside) (calls : List Call) :
    let reached := afterCalls table calls cursor
    cursor.Follows reached ∧
      (∀ call : Call, reached.Follows (leftBy (call.perform table reached))) ∧
      (∀ fault next, (peekByte reached = .error fault next ∨
          readByte reached = .error fault next ∨
          ∃ length : Nat, readBytes length reached = .error fault next) →
        next = reached) ∧
      (∀ item next, readItem table reached = .ok item next →
        reached.position + 1 ≤ next.position ∧
          ∀ other rest, Cursor.Facing other
              (reached.stretch reached.position next.position ++ rest) →
            readItem table other = .ok item
              ⟨other.data, other.position + (next.position - reached.position)⟩) ∧
      (∃ rounds : Nat, rounds ≤ reached.left ∧
        ItemLoop table reached rounds (readScript table reached)) ∧
      ∀ script last, readScript table reached = .ok script last →
        script.length ≤ reached.left ∧ last.position = last.data.size := by
  intro reached
  have follows : cursor.Follows reached := follows_afterCalls table calls inside
  have reachedInside := follows.isInside inside
  obtain ⟨rounds, roundsLe, loop⟩ := itemLoop_readScript table reachedInside
  refine ⟨follows, fun call => call.movesForward_perform table reached reachedInside, ?_,
    fun _ _ => readItem_of_same_bytes reachedInside, ⟨rounds, roundsLe, loop⟩, ?_⟩
  · rintro fault next (failed | failed | ⟨length, failed⟩)
    · exact failsInPlace_peekByte _ _ _ failed
    · exact failsInPlace_readByte _ _ _ failed
    · exact failsInPlace_readBytes _ _ _ _ failed
  · intro script last succeeded
    have bounded := (movesForward_readScript table reached reachedInside).bounded
    rw [succeeded] at loop bounded
    obtain ⟨lengthEq, atEnd⟩ := loop.of_ok
    rw [Cursor.left] at atEnd
    rw [leftBy] at bounded
    exact ⟨by omega, by omega⟩

/-- Behind a truth value a text breaks off.  Reading it fails inside of it, and from
there an operator can still be read, as anywhere else. -/
theorem calls_move_forward_torn :
    let start : Cursor := ⟨#[0x01, 0x14, 0x05, 0x8B], 0⟩
    let reached : Cursor := ⟨#[0x01, 0x14, 0x05, 0x8B], 3⟩
    start.IsInside ∧
      afterCalls (some instructionTable) [.readItem, .readItem] start = reached ∧
      start.Follows reached ∧
      (∃ rounds : Nat, rounds ≤ reached.left ∧
        ItemLoop (some instructionTable) reached rounds
          (readScript (some instructionTable) reached)) ∧
      readItem (some instructionTable) reached =
        .ok (.instruction .drop) ⟨#[0x01, 0x14, 0x05, 0x8B], 4⟩ ∧
      readItem (some instructionTable) ⟨#[0x8B, 0x7A], 0⟩ =
        .ok (.instruction .drop) ⟨#[0x8B, 0x7A], 1⟩ := by
  have inside : Cursor.IsInside ⟨#[0x01, 0x14, 0x05, 0x8B], 0⟩ := by decide
  have first : readItem (some instructionTable) ⟨#[0x01, 0x14, 0x05, 0x8B], 0⟩ =
      .ok (.value (.boolean true)) ⟨#[0x01, 0x14, 0x05, 0x8B], 1⟩ :=
    rfl
  have second : readItem (some instructionTable) ⟨#[0x01, 0x14, 0x05, 0x8B], 1⟩ =
      .error (.shortData 5 1) ⟨#[0x01, 0x14, 0x05, 0x8B], 3⟩ :=
    rfl
  have third : readItem (some instructionTable) ⟨#[0x01, 0x14, 0x05, 0x8B], 3⟩ =
      .ok (.instruction .drop) ⟨#[0x01, 0x14, 0x05, 0x8B], 4⟩ :=
    rfl
  have facing : Cursor.Facing ⟨#[0x8B, 0x7A], 0⟩
      (Cursor.stretch ⟨#[0x01, 0x14, 0x05, 0x8B], 3⟩ 3 4 ++ [0x7A]) :=
    ⟨by decide, by decide, rfl⟩
  have reachedEq : afterCalls (some instructionTable) [.readItem, .readItem]
      ⟨#[0x01, 0x14, 0x05, 0x8B], 0⟩ = ⟨#[0x01, 0x14, 0x05, 0x8B], 3⟩ := by
    have firstLeft : leftBy (Call.perform (some instructionTable) .readItem
        ⟨#[0x01, 0x14, 0x05, 0x8B], 0⟩) = ⟨#[0x01, 0x14, 0x05, 0x8B], 1⟩ := by
      rw [Call.perform, leftBy_bind_pure, first, leftBy]
    rw [afterCalls, leftByAll, List.foldl_cons, firstLeft, List.foldl_cons, Call.perform,
      leftBy_bind_pure, second, leftBy, List.foldl_nil]
  obtain ⟨follows, _, _, items, loop, _⟩ :=
    calls_move_forward (some instructionTable) inside [.readItem, .readItem]
  rw [reachedEq] at follows items loop
  exact ⟨inside, reachedEq, follows, loop, third, (items _ _ third).2 _ _ facing⟩

end Reader
end Wire
end StackScript
