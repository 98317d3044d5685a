/-!
# Pieces of a text

A text cut at each place where one character stands. There is always one piece more than there are
cuts.
-/

namespace PascalScan.Text

/-- The pieces of a text between separators. -/
def pieces (separator : Char) : List Char → List (List Char)
  | [] => [[]]
  | c :: cs =>
      if c = separator then [] :: pieces separator cs
      else match pieces separator cs with
        | [] => [[c]]
        | p :: ps => (c :: p) :: ps

example : pieces '/' "a//b".toList = ["a".toList, [], "b".toList] := by decide

end PascalScan.Text
