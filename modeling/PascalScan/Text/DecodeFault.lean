import PascalScan.Text.Quoted

/-!
# Faults of decoding

Bytes that are no text in the encoding they are taken for: which encoding that is, where the fault
lies, and what is wrong there.
-/

namespace PascalScan

/-- The order in which the bytes of a number stand. -/
inductive ByteOrder where
  | big
  | little
  deriving DecidableEq, Repr

inductive Encoding where
  | utf8
  | utf16 (order : ByteOrder)
  | utf32 (order : ByteOrder)
  deriving DecidableEq, Repr

def ByteOrder.suffix : ByteOrder → String
  | big => "-be"
  | little => "-le"

def Encoding.name : Encoding → String
  | utf8 => "utf-8"
  | utf16 order => "utf-16" ++ order.suffix
  | utf32 order => "utf-32" ++ order.suffix

namespace DecodeFault

inductive Reason where
  | invalidStart
  | invalidContinuation
  | endOfData
  /-- Too few bytes are left for one unit. -/
  | truncated
  /-- A number beyond those of the characters. -/
  | outOfRange
  deriving DecidableEq, Repr

def Reason.text : Reason → String
  | invalidStart => "invalid start byte"
  | invalidContinuation => "invalid continuation byte"
  | endOfData => "unexpected end of data"
  | truncated => "truncated data"
  | outOfRange => "code point not in range(0x110000)"

end DecodeFault

structure DecodeFault where
  encoding : Encoding
  /-- Where the fault starts, counted in bytes. -/
  position : Nat
  /-- The bytes at fault. -/
  length : Nat
  /-- The first of them. -/
  lead : UInt8
  reason : DecodeFault.Reason
  deriving DecidableEq, Repr

def DecodeFault.message (f : DecodeFault) : String :=
  let place :=
    if f.length = 1 then
      "byte 0x" ++ String.ofList (Text.hex 2 f.lead.toNat) ++ " in position " ++
        toString f.position
    else "bytes in position " ++ toString f.position ++ "-" ++
        toString (f.position + f.length - 1)
  "'" ++ f.encoding.name ++ "' codec can't decode " ++ place ++ ": " ++ f.reason.text

end PascalScan
