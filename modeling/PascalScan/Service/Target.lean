import PascalScan.Service.Reference
import PascalScan.Text.Utf8

/-!
# Targets of requests

What a request asks for is named by a reference. Its path is taken from the root of the service
unless it names a host itself, and octets that are written in hexadecimal are put in last.
-/

namespace PascalScan.Service.Target

/-- The path of a reference as it is sent. -/
def sentPath (p : Reference.Parts) : List Char :=
  if p.scheme ≠ [] ∧ p.authority.host ≠ [] then p.path else '/' :: p.path.dropWhile (· == '/')

/-- The octets of a path: a percent sign and two hexadecimal digits are one. -/
def octets : List Char → List UInt8
  | '%' :: a :: b :: rest =>
      match Json.hexDigit? a, Json.hexDigit? b with
      | some m, some n => UInt8.ofNat (m * 16 + n) :: octets rest
      | _, _ => Utf8.encode ['%'] ++ octets (a :: b :: rest)
  | c :: rest => Utf8.encode [c] ++ octets rest
  | [] => []

/-- The path that a target asks for; none if its octets are no text. -/
def path? (target : String) : Except ReferenceFault (Option (List Char)) :=
  (Reference.read target).map fun p =>
    (Utf8.decode (octets (Reference.normal (sentPath p)))).toOption

example : path? "/a/../he%61lthz?x=1" = .ok (some "/healthz".toList) := by cbv
example : path? "/%zz/./%2F" = .ok (some "/%zz//".toList) := by cbv
example : path? "http://other/lex" = .ok (some "/lex".toList) := by cbv
example : path? "/\t" = .error (.unprintable '\t' 1) := by cbv

end PascalScan.Service.Target
