import PascalScan.Text.DecodeFault

/-!
# UTF-8

Text as bytes and back. Decoding stops at the first fault, and says where it is, how many bytes
it spans (the longest start of a sequence that something could still follow) and what is wrong
there.
-/

namespace PascalScan.Utf8

/-- A text as bytes. -/
def encode (cs : List Char) : List UInt8 := cs.flatMap String.utf8EncodeChar

/-- What the first byte of a sequence announces. -/
structure Lead where
  /-- Its bits of the character. -/
  bits : Nat
  /-- How many bytes follow. -/
  count : Nat
  /-- The least and the greatest byte that may follow first; any later one is free within 0x80 and
  0xBF. -/
  low : Nat
  high : Nat

/-- The announcement of a first byte; none if no sequence starts with it. -/
def lead? (byte : UInt8) : Option Lead :=
  let b := byte.toNat
  if b < 0x80 then some ⟨b, 0, 0x80, 0xBF⟩
  else if b < 0xC2 then none
  else if b < 0xE0 then some ⟨b % 0x20, 1, 0x80, 0xBF⟩
  else if b < 0xF0 then
    some ⟨b % 0x10, 2, if b = 0xE0 then 0xA0 else 0x80, if b = 0xED then 0x9F else 0xBF⟩
  else if b < 0xF5 then
    some ⟨b % 0x08, 3, if b = 0xF0 then 0x90 else 0x80, if b = 0xF4 then 0x8F else 0xBF⟩
  else none

/-- The number that a sequence spells, from the bits so far, the range of the next byte and the
count of bytes to come. A fault comes with the count of bytes that were good. -/
def scalar (bits low high : Nat) : (count : Nat) → List UInt8 → Except (Nat × DecodeFault.Reason) Nat
  | 0, _ => .ok bits
  | _ + 1, [] => .error (0, .endOfData)
  | count + 1, byte :: rest =>
      if low ≤ byte.toNat ∧ byte.toNat ≤ high then
        match scalar (bits * 64 + byte.toNat % 64) 0x80 0xBF count rest with
        | .ok n => .ok n
        | .error (good, reason) => .error (good + 1, reason)
      else .error (0, .invalidContinuation)

/-- Decodes bytes of which the first has the given position. -/
def decodeFrom (position : Nat) : List UInt8 → Except DecodeFault (List Char)
  | [] => .ok []
  | byte :: rest =>
      match lead? byte with
      | none => .error ⟨.utf8, position, 1, byte, .invalidStart⟩
      | some l =>
          match scalar l.bits l.low l.high l.count rest with
          | .error (good, reason) => .error ⟨.utf8, position, good + 1, byte, reason⟩
          | .ok n => do
              let cs ← decodeFrom (position + 1 + l.count) (rest.drop l.count)
              return Char.ofNat n :: cs
termination_by bytes => bytes.length
decreasing_by simp only [List.length_drop, List.length_cons]; omega

/-- Bytes as text. -/
def decode (bytes : List UInt8) : Except DecodeFault (List Char) := decodeFrom 0 bytes

end PascalScan.Utf8
