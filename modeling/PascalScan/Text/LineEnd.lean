/-!
# Line ends

A text read from a file may end its lines in three ways. Reading turns each of them into a line
feed; writing changes nothing.
-/

namespace PascalScan.Text

/-- A text with every carriage return, alone or before a line feed, turned into a line feed. -/
def unifyLineEnds : List Char → List Char
  | [] => []
  | '\r' :: '\n' :: cs => '\n' :: unifyLineEnds cs
  | c :: cs => (if c = '\r' then '\n' else c) :: unifyLineEnds cs

example : unifyLineEnds "a\r\nb\rc\n\r\r\n".toList = "a\nb\nc\n\n\n".toList := by decide

end PascalScan.Text
