import Mathlib.Tactic.SplitIfs
import StackScript.Text.Utf8

/-!
# Writing and reading text as bytes are inverse

A code point that is not a surrogate has one sequence of one to four bytes, and
these sequences are exactly the ones that reading accepts.  Each width has an
equation for the reader and a fact about the code point that the reader takes from
the bytes; reading and writing whole texts follow by induction.
-/

namespace StackScript

namespace Utf8

theorem toNat_byte (number : Nat) (small : number < 0x100) :
    (byte number).toNat = number := by
  rw [byte, UInt8.toNat_ofNat']
  exact Nat.mod_eq_of_lt small

theorem byte_eq {number : Nat} (held : UInt8) (equal : number = held.toNat) :
    byte number = held := by
  rw [byte, equal, UInt8.ofNat_toNat]

theorem val_point (number : Nat) (bounded : number < 0x110000) :
    (point number).val = number :=
  Nat.mod_eq_of_lt bounded

theorem point_eq {number : Nat} (held : CodePoint)
    (equal : number = held.val) : point number = held := by
  apply Fin.ext
  rw [val_point number (equal ▸ held.isLt), equal]

theorem isTrailing_iff {trailing : UInt8} :
    isTrailing trailing = true ↔
      0x80 ≤ trailing.toNat ∧ trailing.toNat ≤ 0xBF := by
  simp only [isTrailing, Bool.and_eq_true, decide_eq_true_eq]

/-- The range of a second byte in terms of numbers. -/
theorem followsLead_iff {lead second : UInt8} :
    followsLead lead second = true ↔
      (0x80 ≤ second.toNat ∧ second.toNat ≤ 0xBF) ∧
      (lead.toNat = 0xE0 → 0xA0 ≤ second.toNat) ∧
      (lead.toNat = 0xF0 → 0x90 ≤ second.toNat) ∧
      (lead.toNat = 0xED → second.toNat ≤ 0x9F) ∧
      (lead.toNat = 0xF4 → second.toNat ≤ 0x8F) := by
  simp only [followsLead, ← UInt8.toNat_inj, Bool.and_eq_true,
    decide_eq_true_eq, UInt8.reduceToNat]
  split_ifs <;> omega

/-! ## The reader, width by width -/

section Reader

variable (position : Nat) {lead second third fourth : UInt8}
  (rest : List UInt8)

theorem decodeFrom_one (small : lead.toNat < 0x80) :
    decodeFrom position (lead :: rest) =
      (decodeFrom (position + 1) rest).map (point lead.toNat :: ·) := by
  rw [decodeFrom.eq_def]
  simp only [small, if_true]

theorem decodeFrom_two (lower : 0xC2 ≤ lead.toNat)
    (upper : lead.toNat < 0xE0) (follows : followsLead lead second = true) :
    decodeFrom position (lead :: second :: rest) =
      (decodeFrom (position + 2) rest).map
        (point ((lead.toNat - 0xC0) * 0x40 + (second.toNat - 0x80)) :: ·) := by
  rw [decodeFrom.eq_def]
  simp only [if_neg (show ¬lead.toNat < 0x80 by omega),
    if_neg (show ¬lead.toNat < 0xC2 by omega), if_pos upper, follows,
    Bool.not_true, Bool.false_eq_true, if_false]

theorem decodeFrom_three (lower : 0xE0 ≤ lead.toNat)
    (upper : lead.toNat < 0xF0) (follows : followsLead lead second = true)
    (trails : isTrailing third = true) :
    decodeFrom position (lead :: second :: third :: rest) =
      (decodeFrom (position + 3) rest).map
        (point ((lead.toNat - 0xE0) * 0x1000 +
          (second.toNat - 0x80) * 0x40 + (third.toNat - 0x80)) :: ·) := by
  rw [decodeFrom.eq_def]
  simp only [if_neg (show ¬lead.toNat < 0x80 by omega),
    if_neg (show ¬lead.toNat < 0xC2 by omega),
    if_neg (show ¬lead.toNat < 0xE0 by omega), if_pos upper, follows, trails,
    Bool.not_true, Bool.false_eq_true, if_false]

theorem decodeFrom_four (lower : 0xF0 ≤ lead.toNat)
    (upper : lead.toNat < 0xF5) (follows : followsLead lead second = true)
    (thirdTrails : isTrailing third = true)
    (fourthTrails : isTrailing fourth = true) :
    decodeFrom position (lead :: second :: third :: fourth :: rest) =
      (decodeFrom (position + 4) rest).map
        (point ((lead.toNat - 0xF0) * 0x40000 +
          (second.toNat - 0x80) * 0x1000 +
          (third.toNat - 0x80) * 0x40 + (fourth.toNat - 0x80)) :: ·) := by
  rw [decodeFrom.eq_def]
  simp only [if_neg (show ¬lead.toNat < 0x80 by omega),
    if_neg (show ¬lead.toNat < 0xC2 by omega),
    if_neg (show ¬lead.toNat < 0xE0 by omega),
    if_neg (show ¬lead.toNat < 0xF0 by omega), if_pos upper, follows,
    thirdTrails, fourthTrails, Bool.not_true, Bool.false_eq_true, if_false]

end Reader

/-! ## Single code points -/

theorem isSurrogate_eq_false_iff {held : CodePoint} :
    held.isSurrogate = false ↔ held.val < 0xD800 ∨ 0xE000 ≤ held.val := by
  rw [← Bool.not_eq_true, CodePoint.isSurrogate, Bool.and_eq_true,
    decide_eq_true_eq, decide_eq_true_eq]
  omega

/-- The bytes of a code point that is not a surrogate are read as that code
point, whatever follows. -/
theorem decodeFrom_encodePoint {held : CodePoint}
    (character : held.isSurrogate = false) (position : Nat)
    (rest : List UInt8) :
    decodeFrom position (encodePoint held ++ rest) =
      (decodeFrom (position + (encodePoint held).length) rest).map
        (held :: ·) := by
  rw [isSurrogate_eq_false_iff] at character
  have bounded := held.isLt
  simp only [encodePoint]
  split_ifs with one two three
  · have leadNat := toNat_byte held.val (by omega)
    have small : (byte held.val).toNat < 0x80 := by omega
    have read := decodeFrom_one position rest small
    rw [point_eq held leadNat] at read
    exact read
  · have leadNat := toNat_byte (0xC0 + held.val / 0x40) (by omega)
    have secondNat := toNat_byte (0x80 + held.val % 0x40) (by omega)
    have follows : followsLead (byte (0xC0 + held.val / 0x40))
        (byte (0x80 + held.val % 0x40)) = true := by
      rw [followsLead_iff]
      omega
    have read := decodeFrom_two position rest (by omega) (by omega) follows
    rw [point_eq held (by omega)] at read
    exact read
  · have leadNat := toNat_byte (0xE0 + held.val / 0x1000) (by omega)
    have secondNat := toNat_byte (0x80 + held.val / 0x40 % 0x40)
      (by omega)
    have thirdNat := toNat_byte (0x80 + held.val % 0x40) (by omega)
    have follows : followsLead (byte (0xE0 + held.val / 0x1000))
        (byte (0x80 + held.val / 0x40 % 0x40)) = true := by
      rw [followsLead_iff]
      omega
    have trails : isTrailing (byte (0x80 + held.val % 0x40)) = true := by
      rw [isTrailing_iff]
      omega
    have read := decodeFrom_three position rest (by omega) (by omega) follows
      trails
    rw [point_eq held (by omega)] at read
    exact read
  · have leadNat := toNat_byte (0xF0 + held.val / 0x40000)
      (by omega)
    have secondNat := toNat_byte (0x80 + held.val / 0x1000 % 0x40)
      (by omega)
    have thirdNat := toNat_byte (0x80 + held.val / 0x40 % 0x40)
      (by omega)
    have fourthNat := toNat_byte (0x80 + held.val % 0x40) (by omega)
    have follows : followsLead (byte (0xF0 + held.val / 0x40000))
        (byte (0x80 + held.val / 0x1000 % 0x40)) = true := by
      rw [followsLead_iff]
      omega
    have thirdTrails :
        isTrailing (byte (0x80 + held.val / 0x40 % 0x40)) = true := by
      rw [isTrailing_iff]
      omega
    have fourthTrails : isTrailing (byte (0x80 + held.val % 0x40)) = true := by
      rw [isTrailing_iff]
      omega
    have read := decodeFrom_four position rest (by omega) (by omega) follows
      thirdTrails fourthTrails
    rw [point_eq held (by omega)] at read
    exact read

/-- The bytes are those of the code point of the given number, which is not a
surrogate. -/
def Spells (number : Nat) (bytes : List UInt8) : Prop :=
  (point number).isSurrogate = false ∧ encodePoint (point number) = bytes

section Spelling

variable {lead second third fourth : UInt8}

theorem spells_one (small : lead.toNat < 0x80) :
    Spells lead.toNat [lead] := by
  have valEq := val_point lead.toNat (by omega)
  refine ⟨isSurrogate_eq_false_iff.mpr (by omega), ?_⟩
  simp only [encodePoint, valEq, small, if_true]
  rw [byte_eq lead rfl]

theorem spells_two (lower : 0xC2 ≤ lead.toNat) (upper : lead.toNat < 0xE0)
    (follows : followsLead lead second = true) :
    Spells ((lead.toNat - 0xC0) * 0x40 + (second.toNat - 0x80))
      [lead, second] := by
  obtain ⟨secondRange, -⟩ := followsLead_iff.mp follows
  have valEq := val_point
    ((lead.toNat - 0xC0) * 0x40 + (second.toNat - 0x80)) (by omega)
  refine ⟨isSurrogate_eq_false_iff.mpr (by omega), ?_⟩
  simp only [encodePoint, valEq]
  rw [if_neg (by omega), if_pos (by omega), byte_eq lead (by omega),
    byte_eq second (by omega)]

theorem spells_three (lower : 0xE0 ≤ lead.toNat) (upper : lead.toNat < 0xF0)
    (follows : followsLead lead second = true)
    (trails : isTrailing third = true) :
    Spells ((lead.toNat - 0xE0) * 0x1000 + (second.toNat - 0x80) * 0x40 +
      (third.toNat - 0x80)) [lead, second, third] := by
  obtain ⟨secondRange, notShorter, -, notSurrogate, -⟩ :=
    followsLead_iff.mp follows
  have thirdRange := isTrailing_iff.mp trails
  have valEq := val_point
    ((lead.toNat - 0xE0) * 0x1000 + (second.toNat - 0x80) * 0x40 +
      (third.toNat - 0x80)) (by omega)
  refine ⟨isSurrogate_eq_false_iff.mpr (by omega), ?_⟩
  simp only [encodePoint, valEq]
  rw [if_neg (by omega), if_neg (by omega), if_pos (by omega),
    byte_eq lead (by omega), byte_eq second (by omega),
    byte_eq third (by omega)]

theorem spells_four (lower : 0xF0 ≤ lead.toNat) (upper : lead.toNat < 0xF5)
    (follows : followsLead lead second = true)
    (thirdTrails : isTrailing third = true)
    (fourthTrails : isTrailing fourth = true) :
    Spells ((lead.toNat - 0xF0) * 0x40000 + (second.toNat - 0x80) * 0x1000 +
      (third.toNat - 0x80) * 0x40 + (fourth.toNat - 0x80))
      [lead, second, third, fourth] := by
  obtain ⟨secondRange, -, notShorter, -, notBeyond⟩ :=
    followsLead_iff.mp follows
  have thirdRange := isTrailing_iff.mp thirdTrails
  have fourthRange := isTrailing_iff.mp fourthTrails
  have valEq := val_point
    ((lead.toNat - 0xF0) * 0x40000 +
      (second.toNat - 0x80) * 0x1000 + (third.toNat - 0x80) * 0x40 +
      (fourth.toNat - 0x80)) (by omega)
  refine ⟨isSurrogate_eq_false_iff.mpr (by omega), ?_⟩
  simp only [encodePoint, valEq]
  rw [if_neg (by omega), if_neg (by omega), if_neg (by omega),
    byte_eq lead (by omega), byte_eq second (by omega),
    byte_eq third (by omega), byte_eq fourth (by omega)]

end Spelling

/-! ## Whole texts -/

/-- The text holds no surrogate. -/
def IsWellFormed (text : Text) : Prop :=
  ∀ held ∈ text, held.isSurrogate = false

instance (text : Text) : Decidable (IsWellFormed text) :=
  List.decidableBAll _ text

theorem isWellFormed_cons {held : CodePoint} {rest : Text} :
    IsWellFormed (held :: rest) ↔
      held.isSurrogate = false ∧ IsWellFormed rest :=
  List.forall_mem_cons

theorem surrogateRun?_eq_none_iff (position : Nat) (text : Text) :
    surrogateRun? position text = none ↔ IsWellFormed text := by
  induction text generalizing position with
  | nil => simp [surrogateRun?, IsWellFormed]
  | cons held rest ih =>
      rw [surrogateRun?, isWellFormed_cons]
      cases surrogate : held.isSurrogate with
      | false => simpa using ih (position + 1)
      | true => simp

/-- Exactly the texts without surrogates can be written. -/
theorem encode_eq_ok_iff {text : Text} {bytes : List UInt8} :
    encode text = .ok bytes ↔
      IsWellFormed text ∧ text.flatMap encodePoint = bytes := by
  rw [encode, ← surrogateRun?_eq_none_iff 0 text]
  cases surrogateRun? 0 text <;> simp

theorem decodeFrom_flatMap {text : Text} (wellFormed : IsWellFormed text)
    (position : Nat) :
    decodeFrom position (text.flatMap encodePoint) = .ok text := by
  induction text generalizing position with
  | nil => rfl
  | cons held rest ih =>
      obtain ⟨character, restWellFormed⟩ := isWellFormed_cons.mp wellFormed
      rw [List.flatMap_cons, decodeFrom_encodePoint character,
        ih restWellFormed]
      rfl

/-- Reading a code point and the rest of a text undoes writing them, if it does
so for the rest. -/
theorem spells_map {number : Nat} {bytes rest : List UInt8} {text : Text}
    {outcome : Except Fault Text} (spells : Spells number bytes)
    (inverse : ∀ tail, outcome = .ok tail →
      IsWellFormed tail ∧ tail.flatMap encodePoint = rest)
    (decoded : outcome.map (point number :: ·) = .ok text) :
    IsWellFormed text ∧ text.flatMap encodePoint = bytes ++ rest := by
  cases outcome with
  | error fault => cases decoded
  | ok tail =>
      cases decoded
      obtain ⟨tailWellFormed, tailBytes⟩ := inverse tail rfl
      obtain ⟨character, pointBytes⟩ := spells
      refine ⟨isWellFormed_cons.mpr ⟨character, tailWellFormed⟩, ?_⟩
      rw [List.flatMap_cons, pointBytes, tailBytes]

theorem flatMap_of_decodeFrom {position : Nat} {bytes : List UInt8}
    {text : Text} (decoded : decodeFrom position bytes = .ok text) :
    IsWellFormed text ∧ text.flatMap encodePoint = bytes := by
  fun_induction decodeFrom position bytes generalizing text with
  | case1 position =>
      cases decoded
      exact ⟨fun held member => absurd member List.not_mem_nil, rfl⟩
  | case2 position lead rest small ih =>
      exact spells_map (spells_one small) (fun _ => ih) decoded
  | case6 position lead _ lower upper second rest follows ih =>
      exact spells_map
        (spells_two (by omega) upper (by simpa using follows))
        (fun _ => ih) decoded
  | case11 position lead _ _ lower upper second follows third rest trails ih =>
      exact spells_map
        (spells_three (by omega) upper (by simpa using follows)
          (by simpa using trails))
        (fun _ => ih) decoded
  | case18 position lead _ _ _ lower upper second follows third thirdTrails
      fourth rest fourthTrails ih =>
      exact spells_map
        (spells_four (by omega) upper (by simpa using follows)
          (by simpa using thirdTrails) (by simpa using fourthTrails))
        (fun _ => ih) decoded
  | _ => cases decoded

/-- Reading accepts exactly what writing produces. -/
theorem decode_eq_ok_iff {bytes : List UInt8} {text : Text} :
    decode bytes = .ok text ↔ encode text = .ok bytes := by
  rw [encode_eq_ok_iff]
  constructor
  · exact flatMap_of_decodeFrom
  · rintro ⟨wellFormed, rfl⟩
    exact decodeFrom_flatMap wellFormed 0

end Utf8
end StackScript
