/-!
# Diagnostics

A diagnostic reports one fault of a source text: the line it is on, a code, and a message that
starts with the line. The scanner itself raises three complaints; a diagnostic that comes from
elsewhere may hold any code and message.
-/

namespace PascalScan

structure Diagnostic where
  line : Int
  code : String
  msg : String
  deriving DecidableEq, Repr

namespace Diagnostic

/-- A diagnostic on a line, its message led by the number of the line. -/
def onLine (line : Int) (code text : String) : Diagnostic :=
  ⟨line, code, "Line " ++ toString line ++ ": " ++ text⟩

end Diagnostic

/-- An identifier may have this many characters and no more. -/
def maxIdentifierLength : Nat := 16

/-- What the scanner complains about. -/
inductive Complaint where
  /-- A word that is no keyword and too long for an identifier. -/
  | wordTooLong (word : List Char)
  /-- A colon that no equals sign follows. -/
  | misusedColon
  /-- An element that starts nothing. -/
  | badCharacter (element : List Char)
  deriving DecidableEq, Repr

namespace Complaint

def code : Complaint → String
  | wordTooLong _ => "E_LEX_IDENT_TOO_LONG"
  | misusedColon => "E_LEX_MISUSED_COLON"
  | badCharacter _ => "E_LEX_BAD_CHAR"

def text : Complaint → String
  | wordTooLong word =>
      "Identifier name '" ++ String.ofList word ++ "' exceeds " ++
        toString maxIdentifierLength ++ " characters"
  | misusedColon => "Misused colon"
  | badCharacter element => "Invalid character '" ++ String.ofList element ++ "'"

def onLine (c : Complaint) (line : Int) : Diagnostic :=
  Diagnostic.onLine line c.code c.text

end Complaint

end PascalScan
