import PascalScan.Text.DecodeFault

/-!
# UTF-16

Bytes as text, two to a unit. A character takes one unit, or a pair of surrogates; a surrogate
without its other half becomes the replacement character. The one fault is a byte left over.
-/

namespace PascalScan.Utf16

/-- What stands for half of a surrogate pair that lacks the other. -/
def replacement : Char := '\ufffd'

/-- The unit in two bytes. -/
def unit (order : ByteOrder) (a b : UInt8) : Nat :=
  match order with
  | .big => a.toNat * 0x100 + b.toNat
  | .little => b.toNat * 0x100 + a.toNat

/-- The units in bytes of which the first has the given position. -/
def units (order : ByteOrder) (position : Nat) : List UInt8 → Except DecodeFault (List Nat)
  | [] => .ok []
  | [byte] => .error ⟨.utf16 order, position, 1, byte, .truncated⟩
  | a :: b :: rest => (units order (position + 2) rest).map (unit order a b :: ·)

def isHigh (u : Nat) : Bool := 0xD800 ≤ u && u < 0xDC00

def isLow (u : Nat) : Bool := 0xDC00 ≤ u && u < 0xE000

/-- The character of a unit that joins no pair. -/
def single (u : Nat) : Char := if isHigh u || isLow u then replacement else Char.ofNat u

/-- The character of a surrogate pair. -/
def pair (high low : Nat) : Char := Char.ofNat (0x10000 + (high - 0xD800) * 0x400 + (low - 0xDC00))

def characters : List Nat → List Char
  | [] => []
  | [u] => [single u]
  | u :: v :: rest =>
      if isHigh u && isLow v then pair u v :: characters rest
      else single u :: characters (v :: rest)

/-- Bytes as text. -/
def decode (order : ByteOrder) (bytes : List UInt8) : Except DecodeFault (List Char) :=
  (units order 0 bytes).map characters

example : (decode .little [0x3D, 0xD8, 0x00, 0xDE, 0x61, 0x00]).toOption = some ['😀', 'a'] := by
  decide

end PascalScan.Utf16
