import PascalScan.Tape
import PascalScan.Lexeme

/-!
# Scanners

A scanner owns a tape with a source on it and the number of the current line. `next` takes one
lexeme and answers its record; the other steps look at the tape, move it by one element, or set
the line. `run` performs any sequence of steps.
-/

namespace PascalScan

structure Scanner where
  tape : Tape Element
  line : Int

namespace Scanner

/-- A scanner before its source, on line 1. The sentinel is the empty element. -/
def ofSource (source : List Element) : Scanner := ⟨.ofList source [], 1⟩

/-- A diagnostic for the current line. -/
def diagnose (s : Scanner) (code text : String) : Diagnostic :=
  Diagnostic.onLine s.line code text

/-- The next record. None is left if only spaces are, which are then passed too. -/
def next (s : Scanner) : Option Record × Scanner :=
  match Lexeme.next? s.tape.rest with
  | none => (none, { s with tape := s.tape.advance s.tape.rest.length })
  | some (l, rest) =>
      (some (l.record s.line),
        { tape := s.tape.advance (s.tape.rest.length - rest.length)
          line := s.line + l.lineBreaks })

inductive Step where
  | next
  | take
  | peek
  | hasMore
  | setLine (line : Int)
  | diagnose (code text : String)
  deriving DecidableEq, Repr

/-- What a step answers. -/
inductive Answer where
  | nothing
  | record (r : Record)
  | element (e : Element)
  | flag (b : Bool)
  deriving DecidableEq, Repr

def step (s : Scanner) : Step → Answer × Scanner
  | .next =>
      match s.next with
      | (none, s') => (.nothing, s')
      | (some r, s') => (.record r, s')
  | .take => (.element s.tape.take.1, { s with tape := s.tape.take.2 })
  | .peek => (.element s.tape.peek, s)
  | .hasMore => (.flag s.tape.hasMore, s)
  | .setLine line => (.nothing, { s with line := line })
  | .diagnose code text => (.record (.diagnostic (s.diagnose code text)), s)

/-- The answers to a sequence of steps, each with the scanner after the step. -/
def run (s : Scanner) : List Step → List (Answer × Scanner)
  | [] => []
  | a :: steps =>
      let (answer, s') := s.step a
      (answer, s') :: s'.run steps

end Scanner

end PascalScan
