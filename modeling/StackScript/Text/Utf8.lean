import StackScript.Text.Basic

/-!
# Text as bytes

The eight-bit form of a text gives every character one to four bytes.  Writing
refuses surrogates and says where the first run of them stands.  Reading refuses
every sequence that writing does not produce and says which bytes are at fault
and why, so that a reader of files can report it.
-/

namespace StackScript
namespace Utf8

/-! ## Writing -/

/-- The lead byte or trailing byte with the given number. -/
def byte (number : Nat) : UInt8 := UInt8.ofNat number

/-- The bytes of one code point: seven bits in a byte of its own, otherwise a
lead byte that tells the count and trailing bytes of six bits each. -/
def encodePoint (point : CodePoint) : List UInt8 :=
  let number := point.val
  if number < 0x80 then [byte number]
  else if number < 0x800 then
    [byte (0xC0 + number / 0x40), byte (0x80 + number % 0x40)]
  else if number < 0x10000 then
    [byte (0xE0 + number / 0x1000), byte (0x80 + number / 0x40 % 0x40),
      byte (0x80 + number % 0x40)]
  else
    [byte (0xF0 + number / 0x40000), byte (0x80 + number / 0x1000 % 0x40),
      byte (0x80 + number / 0x40 % 0x40), byte (0x80 + number % 0x40)]

/-- The first run of surrogates in a text that cannot be written: its position,
its length and its first code point. -/
structure SurrogateRun where
  position : Nat
  length : Nat
  first : CodePoint
deriving DecidableEq, Repr

/-- The first run of surrogates at or after the given position. -/
def surrogateRun? (position : Nat) : Text → Option SurrogateRun
  | [] => none
  | point :: rest =>
    if point.isSurrogate then
      let others := rest.takeWhile CodePoint.isSurrogate
      some ⟨position, 1 + others.length, point⟩
    else surrogateRun? (position + 1) rest

def encode (text : Text) : Except SurrogateRun (List UInt8) :=
  match surrogateRun? 0 text with
  | some run => .error run
  | none => .ok (text.flatMap encodePoint)

/-! ## Reading -/

/-- Why bytes are no text. -/
inductive Defect where
  /-- No character starts with this byte. -/
  | start
  /-- The character that was started does not go on like this. -/
  | continuation
  /-- The data ends inside a character. -/
  | truncated
deriving DecidableEq, Repr

/-- The faulty bytes: where they start, how many they are, and the first. -/
structure Fault where
  position : Nat
  length : Nat
  lead : UInt8
  defect : Defect
deriving DecidableEq, Repr

def Fault.message (fault : Fault) : String :=
  let place :=
    if fault.length ≤ 1 then
      "byte 0x" ++ hexadecimal 2 fault.lead.toNat ++ " in position " ++
        toString fault.position
    else
      "bytes in position " ++ toString fault.position ++ "-" ++
        toString (fault.position + fault.length - 1)
  let reason :=
    match fault.defect with
    | .start => "invalid start byte"
    | .continuation => "invalid continuation byte"
    | .truncated => "unexpected end of data"
  "'utf-8' codec can't decode " ++ place ++ ": " ++ reason

/-- Whether a byte may follow the lead byte directly: a trailing byte, and not
one that would give a number with a shorter form, a surrogate, or a number
beyond the last code point. -/
def followsLead (lead second : UInt8) : Bool :=
  let lowest : Nat :=
    if lead = 0xE0 then 0xA0 else if lead = 0xF0 then 0x90 else 0x80
  let highest : Nat :=
    if lead = 0xED then 0x9F else if lead = 0xF4 then 0x8F else 0xBF
  lowest ≤ second.toNat && second.toNat ≤ highest

/-- Whether a byte carries six bits of a character that has started. -/
def isTrailing (byte : UInt8) : Bool :=
  0x80 ≤ byte.toNat && byte.toNat ≤ 0xBF

/-- The code point of the given number, which the ranges of the bytes bound. -/
def point (number : Nat) : CodePoint := Fin.ofNat 0x110000 number

def decodeFrom (position : Nat) : List UInt8 → Except Fault Text
  | [] => .ok []
  | lead :: rest =>
    let fault (length : Nat) (defect : Defect) : Except Fault Text :=
      .error ⟨position, length, lead, defect⟩
    if lead.toNat < 0x80 then
      (decodeFrom (position + 1) rest).map (point lead.toNat :: ·)
    else if lead.toNat < 0xC2 then fault 1 .start
    else if lead.toNat < 0xE0 then
      match rest with
      | [] => fault 1 .truncated
      | second :: rest =>
        if !followsLead lead second then fault 1 .continuation
        else
          (decodeFrom (position + 2) rest).map
            (point ((lead.toNat - 0xC0) * 0x40 + (second.toNat - 0x80)) :: ·)
    else if lead.toNat < 0xF0 then
      match rest with
      | [] => fault 1 .truncated
      | second :: rest =>
        if !followsLead lead second then fault 1 .continuation
        else
          match rest with
          | [] => fault 2 .truncated
          | third :: rest =>
            if !isTrailing third then fault 2 .continuation
            else
              (decodeFrom (position + 3) rest).map
                (point ((lead.toNat - 0xE0) * 0x1000 +
                  (second.toNat - 0x80) * 0x40 + (third.toNat - 0x80)) :: ·)
    else if lead.toNat < 0xF5 then
      match rest with
      | [] => fault 1 .truncated
      | second :: rest =>
        if !followsLead lead second then fault 1 .continuation
        else
          match rest with
          | [] => fault 2 .truncated
          | third :: rest =>
            if !isTrailing third then fault 2 .continuation
            else
              match rest with
              | [] => fault 3 .truncated
              | fourth :: rest =>
                if !isTrailing fourth then fault 3 .continuation
                else
                  (decodeFrom (position + 4) rest).map
                    (point ((lead.toNat - 0xF0) * 0x40000 +
                      (second.toNat - 0x80) * 0x1000 +
                      (third.toNat - 0x80) * 0x40 + (fourth.toNat - 0x80)) :: ·)
    else fault 1 .start

def decode (bytes : List UInt8) : Except Fault Text :=
  decodeFrom 0 bytes

end Utf8
end StackScript
