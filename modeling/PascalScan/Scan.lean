import PascalScan.Delivery
import PascalScan.Text.Blank

/-!
# Scanning a text

The direct form of a scan: the tokens of a text, closed by the mark for its end, its diagnostics,
and whether it has none.
-/

namespace PascalScan

structure Scan where
  tokens : List Token
  diagnostics : List Diagnostic
  success : Bool
  deriving DecidableEq, Repr

/-- Scans a text as it stands. -/
def scan (text : List Char) : Scan :=
  let rs := sourceRecords (Element.ofText text) ++ [.endOfFile]
  ⟨Record.tokens rs, Record.diagnostics rs, (Record.diagnostics rs).isEmpty⟩

example : (scan "If x<=1\n:".toList).tokens.map (·.value) =
    ["If", "x", "<=", "1", "EOLN", "EOF"] := by
  decide +kernel

example : (scan "If x<=1\n:".toList).diagnostics =
    [Complaint.onLine .misusedColon 2] := by
  decide +kernel

/-- Scans a text without the blanks at its ends; lines are counted from the first one left. -/
def scanTrimmed (text : List Char) : Scan := scan (Text.trim text)

/-- What a scan of a text logs. -/
def scanLog (text : List Char) : List Logging.Entry :=
  (deliver (Sinks.recording none none) (Element.ofText text) .empty).log

end PascalScan
