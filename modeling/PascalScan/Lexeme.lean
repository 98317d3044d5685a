import PascalScan.Record

/-!
# Lexemes

A source is a sequence of elements. Cutting it into lexemes goes from left to right: spaces are
skipped, then the longest word, number or symbol is taken, or else a single element. Each lexeme
makes exactly one record, which depends on the lexeme and on the line it stands on.

* `next?` takes one lexeme off a source; `next?_length_lt` says that what remains is shorter.
* `lexemes` takes them all.
* `elements` gives back the elements that a lexeme was made from.
-/

namespace PascalScan

/-- One unit of a source. Nearly always it is one character, but a caller may hand over any text
as a unit, the empty one included; only a unit of one character can be part of a longer lexeme. -/
abbrev Element := List Char

namespace Element

/-- The elements of a text are its characters. -/
def ofText (cs : List Char) : List Element := cs.map fun c => [c]

def isSpace (e : Element) : Bool := e == [' ']

end Element

inductive Lexeme where
  /-- A letter, then letters and digits. -/
  | word (letters : List Char)
  /-- Digits. -/
  | number (digits : List Char)
  | symbol (s : Symbol)
  | colon
  | lineBreak
  /-- An element that starts nothing else. -/
  | stray (e : Element)
  deriving DecidableEq, Repr

/-- The characters at the front of a source that satisfy a test, and what follows them. -/
def takeChars (p : Char → Bool) : List Element → List Char × List Element
  | [c] :: rest =>
      if p c then
        let (cs, rest') := takeChars p rest
        (c :: cs, rest')
      else ([], [c] :: rest)
  | rest => ([], rest)

namespace Lexeme

/-- The elements that a lexeme stands for. -/
def elements : Lexeme → List Element
  | word letters => Element.ofText letters
  | number digits => Element.ofText digits
  | symbol s => Element.ofText s.spelling.toList
  | colon => [[':']]
  | lineBreak => [['\n']]
  | stray e => [e]

/-- The lexeme of one character that is neither a letter nor a digit and that joins no symbol
of two. -/
def ofChar (c : Char) : Lexeme :=
  if c = '\n' then lineBreak
  else if c = ':' then colon
  else match Symbol.ofChar? c with
    | some s => symbol s
    | none => stray [c]

/-- The symbol that a character makes with the first element of what follows it. -/
def pair? (c : Char) : List Element → Option (Symbol × List Element)
  | [d] :: rest => (Symbol.ofPair? c d).map fun s => (s, rest)
  | _ => none

/-- The lexeme that an element starts, and what follows it. -/
def read : Element → List Element → Lexeme × List Element
  | [c], rest =>
      if c.isAlpha then
        let (cs, rest') := takeChars Char.isAlphanum rest
        (word (c :: cs), rest')
      else if c.isDigit then
        let (cs, rest') := takeChars Char.isDigit rest
        (number (c :: cs), rest')
      else match pair? c rest with
        | some (s, rest') => (symbol s, rest')
        | none => (ofChar c, rest)
  | e, rest => (stray e, rest)

/-- The first lexeme of a source and what follows it; none if only spaces are left. -/
def next? (source : List Element) : Option (Lexeme × List Element) :=
  match source.dropWhile Element.isSpace with
  | [] => none
  | e :: rest => some (read e rest)

theorem takeChars_length_le (p : Char → Bool) (source : List Element) :
    (takeChars p source).2.length ≤ source.length := by
  fun_induction takeChars p source with
  | case1 c rest h cs rest' heq ih =>
      rw [heq] at ih
      exact Nat.le_trans ih (Nat.le_succ _)
  | case2 => exact Nat.le_refl _
  | case3 => exact Nat.le_refl _

theorem pair?_length_lt {c : Char} {rest rest' : List Element} {s : Symbol}
    (h : pair? c rest = some (s, rest')) : rest'.length < rest.length := by
  revert h
  fun_cases pair? c rest with
  | case1 d tail =>
      simp only [Option.map_eq_some_iff, Prod.mk.injEq]
      rintro ⟨_, _, _, rfl⟩
      simp
  | case2 => simp

theorem read_length_le (e : Element) (rest : List Element) :
    (read e rest).2.length ≤ rest.length := by
  unfold read
  split
  · split
    · exact takeChars_length_le _ _
    · split
      · exact takeChars_length_le _ _
      · split
        · next heq => exact Nat.le_of_lt (pair?_length_lt heq)
        · exact Nat.le_refl _
  · exact Nat.le_refl _

theorem next?_length_lt {source rest : List Element} {l : Lexeme}
    (h : next? source = some (l, rest)) : rest.length < source.length := by
  have hle : (source.dropWhile Element.isSpace).length ≤ source.length :=
    (List.dropWhile_sublist _).length_le
  unfold next? at h
  split at h
  · cases h
  · next e tail heq =>
      have hread := read_length_le e tail
      rw [Option.some.inj h] at hread
      rw [heq, List.length_cons] at hle
      exact Nat.lt_of_le_of_lt hread hle

/-- All lexemes of a source, from left to right. -/
def lexemes (source : List Element) : List Lexeme :=
  match _h : next? source with
  | none => []
  | some (l, rest) => l :: lexemes rest
termination_by source.length
decreasing_by exact next?_length_lt _h

/-- How many lines a lexeme moves on. -/
def lineBreaks : Lexeme → Nat
  | lineBreak => 1
  | _ => 0

/-- The record of a word: a keyword in any case, or else an identifier if it is short enough. -/
def wordRecord (line : Int) (letters : List Char) : Record :=
  match Keyword.ofWord? letters with
  | some k => .token ⟨.keyword k, String.ofList letters⟩
  | none =>
      if letters.length ≤ maxIdentifierLength then .token ⟨.identifier, String.ofList letters⟩
      else .diagnostic (Complaint.onLine (.wordTooLong letters) line)

/-- The record that a lexeme makes on a line. -/
def record (line : Int) : Lexeme → Record
  | word letters => wordRecord line letters
  | number digits => .token ⟨.constant, String.ofList digits⟩
  | symbol s => .token ⟨.symbol s, s.spelling⟩
  | colon => .diagnostic (Complaint.onLine .misusedColon line)
  | lineBreak => .token ⟨.endOfLine, "EOLN"⟩
  | stray e => .diagnostic (Complaint.onLine (.badCharacter e) line)

/-- The records of a run of lexemes whose first one stands on the given line. -/
def records (line : Int) : List Lexeme → List Record
  | [] => []
  | l :: ls => l.record line :: records (line + l.lineBreaks) ls

end Lexeme

end PascalScan
