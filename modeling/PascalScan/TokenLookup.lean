import PascalScan.Token
import PascalScan.Json.Display

/-!
# Looking up token kinds

A kind is found by its number, where a truth value counts as one or zero and a text never does, or
by its name.
-/

namespace PascalScan.TokenKind

/-- A look-up that found no kind. -/
inductive LookupFault where
  | value (v : Json)
  | name (s : String)

def LookupFault.message : LookupFault → String
  | value v => v.display ++ " is not a valid TokenType"
  | name s => Text.quote s

def ofJson (v : Json) : Except LookupFault TokenKind :=
  match v.number?.bind ofCode? with
  | some k => .ok k
  | none => .error (.value v)

def named (s : String) : Except LookupFault TokenKind :=
  match ofName? s with
  | some k => .ok k
  | none => .error (.name s)

end PascalScan.TokenKind
