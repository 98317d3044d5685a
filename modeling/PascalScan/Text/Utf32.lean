import PascalScan.Text.Utf16

/-!
# UTF-32

Bytes as text, four to a character. A number beyond those of the characters is a fault, and so are
bytes left over; half of a surrogate pair becomes the replacement character.
-/

namespace PascalScan.Utf32

/-- The number in four bytes. -/
def number (order : ByteOrder) (a b c d : UInt8) : Nat :=
  match order with
  | .big => ((a.toNat * 0x100 + b.toNat) * 0x100 + c.toNat) * 0x100 + d.toNat
  | .little => ((d.toNat * 0x100 + c.toNat) * 0x100 + b.toNat) * 0x100 + a.toNat

/-- Decodes bytes of which the first has the given position. -/
def decodeFrom (order : ByteOrder) (position : Nat) :
    List UInt8 → Except DecodeFault (List Char)
  | [] => .ok []
  | a :: b :: c :: d :: rest =>
      let n := number order a b c d
      if 0x110000 ≤ n then .error ⟨.utf32 order, position, 4, a, .outOfRange⟩
      else (decodeFrom order (position + 4) rest).map (Utf16.single n :: ·)
  | byte :: rest => .error ⟨.utf32 order, position, rest.length + 1, byte, .truncated⟩

/-- Bytes as text. -/
def decode (order : ByteOrder) (bytes : List UInt8) : Except DecodeFault (List Char) :=
  decodeFrom order 0 bytes

example : (decode .big [0x00, 0x01, 0xF6, 0x00]).toOption = some ['😀'] := by decide

end PascalScan.Utf32
