import CodeGraph.Text.Numeral

/-!
# UTF-8

Decoding of byte sequences. A sequence is refused at the first byte that rules it out, and the
refusal covers the bytes of the character that was open: a byte that can start no character, a
character whose next byte does not continue it, or the end of the data inside a character.

Overlong forms, surrogates and code points above U+10FFFF are refused through the range that the
second byte must lie in.
-/
namespace CodeGraph.Text.Utf8

/-- Why bytes are not UTF-8. -/
inductive Reason where
  | invalidStart
  | invalidContinuation
  | truncated
  deriving DecidableEq, Repr

/-- The wording of a reason. -/
def Reason.message : Reason → String
  | .invalidStart => "invalid start byte"
  | .invalidContinuation => "invalid continuation byte"
  | .truncated => "unexpected end of data"

/-- Bytes that are not UTF-8: the reason, the first byte, and its first and last position. -/
structure Fault where
  reason : Reason
  lead : UInt8
  first : Nat
  last : Nat
  deriving DecidableEq, Repr

/-- The message of a fault. A single byte is shown, several are only located. -/
def Fault.message (f : Fault) : String :=
  let place :=
    if f.first = f.last then
      "byte 0x" ++ String.ofList (hexDigits 2 f.lead.toNat) ++ s!" in position {f.first}"
    else s!"bytes in position {f.first}-{f.last}"
  "'utf-8' codec can't decode " ++ place ++ ": " ++ f.reason.message

/-- The ranges of the bytes that must follow a first byte, and the value bits of the first byte. -/
def lead? (b : Nat) : Option (List (Nat × Nat) × Nat) :=
  if b < 0x80 then some ([], b)
  else if b < 0xC2 then none
  else if b < 0xE0 then some ([(0x80, 0xBF)], b - 0xC0)
  else if b = 0xE0 then some ([(0xA0, 0xBF), (0x80, 0xBF)], 0)
  else if b = 0xED then some ([(0x80, 0x9F), (0x80, 0xBF)], 0xD)
  else if b < 0xF0 then some ([(0x80, 0xBF), (0x80, 0xBF)], b - 0xE0)
  else if b = 0xF0 then some ([(0x90, 0xBF), (0x80, 0xBF), (0x80, 0xBF)], 0)
  else if b < 0xF4 then some ([(0x80, 0xBF), (0x80, 0xBF), (0x80, 0xBF)], b - 0xF0)
  else if b = 0xF4 then some ([(0x80, 0x8F), (0x80, 0xBF), (0x80, 0xBF)], 4)
  else none

/-- A character whose bytes are not all read: its first byte and that byte's position, the value so
far, and the ranges of the bytes still owed. -/
structure Pending where
  lead : UInt8
  first : Nat
  value : Nat
  owed : List (Nat × Nat)

/-- Decode from a position on, with a character that may be open and the characters read so far,
last one first. -/
def decodeFrom (pos : Nat) (pending : Option Pending) (done : List Char) :
    List UInt8 → Except Fault (List Char)
  | [] =>
    match pending with
    | none => .ok done.reverse
    | some p => .error ⟨.truncated, p.lead, p.first, pos - 1⟩
  | b :: bs =>
    match pending with
    | none =>
      match lead? b.toNat with
      | none => .error ⟨.invalidStart, b, pos, pos⟩
      | some ([], v) => decodeFrom (pos + 1) none (Char.ofNat v :: done) bs
      | some (owed, v) => decodeFrom (pos + 1) (some ⟨b, pos, v, owed⟩) done bs
    | some p =>
      match p.owed with
      | [] => .error ⟨.invalidContinuation, p.lead, p.first, pos - 1⟩
      | r :: rs =>
        if r.1 ≤ b.toNat ∧ b.toNat ≤ r.2 then
          let v := p.value * 64 + (b.toNat - 0x80)
          if rs.isEmpty then decodeFrom (pos + 1) none (Char.ofNat v :: done) bs
          else decodeFrom (pos + 1) (some { p with value := v, owed := rs }) done bs
        else .error ⟨.invalidContinuation, p.lead, p.first, pos - 1⟩

/-- The characters that a byte sequence encodes. -/
def decode (bytes : List UInt8) : Except Fault (List Char) := decodeFrom 0 none [] bytes

end CodeGraph.Text.Utf8
