import PascalScan.Token
import PascalScan.Diagnostic

/-!
# Records

Scanning delivers a sequence of records: tokens and diagnostics, in the order in which their
text stands in the source.
-/

namespace PascalScan

inductive Record where
  | token (t : Token)
  | diagnostic (d : Diagnostic)
  deriving DecidableEq, Repr

namespace Record

def isToken : Record → Bool
  | token _ => true
  | diagnostic _ => false

def token? : Record → Option Token
  | token t => some t
  | diagnostic _ => none

def diagnostic? : Record → Option Diagnostic
  | token _ => none
  | diagnostic d => some d

/-- The mark that ends every scan. -/
def endOfFile : Record := token Token.endOfFile

/-- The tokens of a sequence, in their order. -/
def tokens (rs : List Record) : List Token := rs.filterMap token?

/-- The diagnostics of a sequence, in their order. -/
def diagnostics (rs : List Record) : List Diagnostic := rs.filterMap diagnostic?

@[simp] theorem tokens_append (rs ss : List Record) :
    tokens (rs ++ ss) = tokens rs ++ tokens ss := by
  simp [tokens]

@[simp] theorem diagnostics_append (rs ss : List Record) :
    diagnostics (rs ++ ss) = diagnostics rs ++ diagnostics ss := by
  simp [diagnostics]

end Record

end PascalScan
