import SpaServer.Text.Basic

/-!
# UTF-8

The encoding of a text, and a decoder that says where and why it stops. A lead byte fixes how many
bytes follow and between which bounds the first of them lies; those bounds rule out overlong forms,
surrogates and code points past the last. A fault covers the part of the sequence that was in order
so far, so its length tells how much of the input has to be given up.
-/

namespace SpaServer

def Text.utf8 (text : Text) : Bytes := text.flatMap String.utf8EncodeChar

namespace Utf8

/-- Why a sequence of bytes encodes no character. -/
inductive Reason
  | invalidStart
  | invalidContinuation
  | unexpectedEnd
  deriving DecidableEq

/-- A sequence that encodes no character: its first byte, where it stands and how long it is. -/
structure Fault where
  reason : Reason
  first : UInt8
  position : Nat
  length : Nat
  deriving DecidableEq

/-- What a lead byte says of its sequence: how many bytes follow, the bounds of the one right after
it, and its own bits of the code point. -/
structure Lead where
  more : Nat
  low : Nat
  high : Nat
  bits : Nat

/-- The sequence that the byte `b` starts, unless no sequence starts with it. -/
def lead? (b : Nat) : Option Lead :=
  if b < 0x80 then some ⟨0, 0x80, 0xbf, b⟩
  else if b < 0xc2 then none
  else if b < 0xe0 then some ⟨1, 0x80, 0xbf, b - 0xc0⟩
  else if b < 0xf0 then
    some ⟨2, if b = 0xe0 then 0xa0 else 0x80, if b = 0xed then 0x9f else 0xbf, b - 0xe0⟩
  else if b < 0xf5 then
    some ⟨3, if b = 0xf0 then 0x90 else 0x80, if b = 0xf4 then 0x8f else 0xbf, b - 0xf0⟩
  else none

/-- Adds `more` following bytes to the code point read so far, the first of them between `low` and
`high`. A fault comes with the number of following bytes that were in order. -/
def point (low high : Nat) : Nat → Nat → Bytes → Except (Reason × Nat) Nat
  | 0, bits, _ => .ok bits
  | _ + 1, _, [] => .error (.unexpectedEnd, 0)
  | more + 1, bits, b :: rest =>
    if low ≤ b.toNat ∧ b.toNat ≤ high then
      match point 0x80 0xbf more (bits * 64 + (b.toNat - 0x80)) rest with
      | .ok n => .ok n
      | .error (reason, length) => .error (reason, length + 1)
    else .error (.invalidContinuation, 0)

def decodeFrom (position : Nat) : Bytes → Except Fault Text
  | [] => .ok []
  | b :: rest =>
    match lead? b.toNat with
    | none => .error ⟨.invalidStart, b, position, 1⟩
    | some lead =>
      match point lead.low lead.high lead.more lead.bits rest with
      | .error (reason, length) => .error ⟨reason, b, position, length + 1⟩
      | .ok n =>
        match decodeFrom (position + lead.more + 1) (rest.drop lead.more) with
        | .ok text => .ok (Char.ofNat n :: text)
        | .error fault => .error fault
  termination_by bytes => bytes.length
  decreasing_by
    rw [List.length_drop, List.length_cons]
    exact Nat.lt_succ_of_le (Nat.sub_le _ _)

def decode (bytes : Bytes) : Except Fault Text := decodeFrom 0 bytes

def Reason.message : Reason → Text
  | .invalidStart => "invalid start byte".toList
  | .invalidContinuation => "invalid continuation byte".toList
  | .unexpectedEnd => "unexpected end of data".toList

def hexByte (b : UInt8) : Text :=
  [Nat.digitChar (b.toNat / 16), Nat.digitChar (b.toNat % 16)]

/-- The wording of a fault: a single byte is shown, a longer sequence is given by its first and its
last position. -/
def Fault.message (fault : Fault) : Text :=
  "'utf-8' codec can't decode ".toList ++
    (if fault.length = 1 then
      "byte 0x".toList ++ hexByte fault.first ++ " in position ".toList ++
        Text.ofNat fault.position
    else
      "bytes in position ".toList ++ Text.ofNat fault.position ++ '-' ::
        Text.ofNat (fault.position + fault.length - 1)) ++
    ": ".toList ++ fault.reason.message

end Utf8

end SpaServer
