import PascalScan.Scan

/-!
# The layout of record files

A token file has one line per token: the value, right-aligned in sixteen columns, a space, and the
number of the kind in two digits. A diagnostic file has one line per diagnostic: its message.
-/

namespace PascalScan.Layout

/-- The columns that a value takes at least. -/
def valueWidth : Nat := 16

/-- A text with spaces put before it up to a width. -/
def alignRight (width : Nat) (cs : List Char) : List Char :=
  List.replicate (width - cs.length) ' ' ++ cs

/-- The number of a kind, in two digits. -/
def codeDigits (k : TokenKind) : List Char :=
  [Nat.digitChar (k.code / 10), Nat.digitChar (k.code % 10)]

def tokenLine (t : Token) : String :=
  String.ofList (alignRight valueWidth t.value.toList ++ ' ' :: codeDigits t.kind ++ ['\n'])

def diagnosticLine (d : Diagnostic) : String := d.msg ++ "\n"

/-- The text of a token file. -/
def tokenText (ts : List Token) : String := String.join (ts.map tokenLine)

/-- The text of a diagnostic file. -/
def diagnosticText (ds : List Diagnostic) : String := String.join (ds.map diagnosticLine)

example : tokenLine ⟨.constant, "42"⟩ = "              42 11\n" := by decide
example : tokenLine ⟨.keyword .ifWord, "If"⟩ = "              If 04\n" := by decide

end PascalScan.Layout
