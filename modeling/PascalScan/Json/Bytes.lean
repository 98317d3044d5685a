import PascalScan.Json.Reader
import PascalScan.Text.Utf8
import PascalScan.Text.Utf32

/-!
# JSON texts as bytes

A JSON text begins with two characters of ASCII, or is one of them alone, so zeros among its first
bytes tell its encoding. A byte-order mark of UTF-8 in front is passed over.
-/

namespace PascalScan.Json

/-- The encoding of a JSON text. -/
def encodingOf : List UInt8 → Encoding
  | [a, b] =>
      if a = 0 then .utf16 .big else if b = 0 then .utf16 .little else .utf8
  | a :: b :: c :: d :: _ =>
      if a = 0 then (if b = 0 then .utf32 .big else .utf16 .big)
      else if b = 0 then (if c = 0 ∧ d = 0 then .utf32 .little else .utf16 .little)
      else .utf8
  | _ => .utf8

/-- The characters of a JSON text. -/
def decodeBytes (bytes : List UInt8) : Except DecodeFault (List Char) :=
  match encodingOf bytes with
  | .utf8 => (Utf8.decode bytes).map fun
      | '\ufeff' :: cs => cs
      | cs => cs
  | .utf16 order => Utf16.decode order bytes
  | .utf32 order => Utf32.decode order bytes

/-- Why bytes are no JSON text. -/
inductive BytesFault where
  | undecodable (fault : DecodeFault)
  | malformed (fault : Fault)
  deriving DecidableEq, Repr

def BytesFault.message : BytesFault → String
  | undecodable fault => fault.message
  | malformed fault => fault.message

/-- Whether bytes are no JSON text at all, rather than beyond what is read. -/
def BytesFault.isSyntax : BytesFault → Bool
  | undecodable _ => false
  | malformed fault => fault.cause.isSyntax

/-- Reads bytes that hold one value. -/
def readBytes (bytes : List UInt8) : Except BytesFault Json :=
  match decodeBytes bytes with
  | .error fault => .error (.undecodable fault)
  | .ok cs =>
      match readNested maxNesting cs with
      | .error fault => .error (.malformed fault)
      | .ok value => .ok value

end PascalScan.Json
