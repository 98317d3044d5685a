import PascalScan.Text.Printable

/-!
# Quoted text

Messages quote a text between apostrophes, or between double quotes if it holds an apostrophe and
no double quote. Backslashes, the surrounding quote and characters that are not printable are
written as escapes.
-/

namespace PascalScan.Text

/-- The last `width` hexadecimal digits of a number, in lower case. -/
def hex : (width : Nat) → Nat → List Char
  | 0, _ => []
  | width + 1, n => hex width (n / 16) ++ [Nat.digitChar (n % 16)]

/-- The escape that names a character by its number. -/
def numbered (c : Char) : List Char :=
  if c.toNat < 0x100 then '\\' :: 'x' :: hex 2 c.toNat
  else if c.toNat < 0x10000 then '\\' :: 'u' :: hex 4 c.toNat
  else '\\' :: 'U' :: hex 8 c.toNat

/-- One character inside the given quotes. -/
def escape (delimiter c : Char) : List Char :=
  if c = delimiter ∨ c = '\\' then ['\\', c]
  else if c = '\t' then ['\\', 't']
  else if c = '\n' then ['\\', 'n']
  else if c = '\r' then ['\\', 'r']
  else if isPrintable c then [c]
  else numbered c

/-- The quotes that a text is written between. -/
def delimiter (cs : List Char) : Char :=
  if '\'' ∈ cs ∧ '"' ∉ cs then '"' else '\''

/-- A text between quotes. -/
def quote (s : String) : String :=
  let cs := s.toList
  let q := delimiter cs
  String.ofList (q :: cs.flatMap (escape q) ++ [q])

end PascalScan.Text
