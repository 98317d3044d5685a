/-!
# Blanks and trimming

White space is the Unicode property of that name; a blank is white space or one of the four
information separators. A source is trimmed of blanks, the text of a number of white space.
-/

namespace PascalScan.Text

/-- The characters with the Unicode property White_Space. -/
def isWhiteSpace (c : Char) : Bool :=
  let n := c.toNat
  (0x9 ≤ n && n ≤ 0xD) || n == 0x20 || n == 0x85 || n == 0xA0 || n == 0x1680 ||
    (0x2000 ≤ n && n ≤ 0x200A) || n == 0x2028 || n == 0x2029 || n == 0x202F || n == 0x205F ||
    n == 0x3000

/-- White space, or an information separator. -/
def isBlank (c : Char) : Bool :=
  isWhiteSpace c || (0x1C ≤ c.toNat && c.toNat ≤ 0x1F)

/-- Drops what satisfies a test at the end of a list. -/
def dropEndWhile (p : Char → Bool) (cs : List Char) : List Char :=
  (cs.reverse.dropWhile p).reverse

/-- Drops what satisfies a test at either end of a list. -/
def trimWhile (p : Char → Bool) (cs : List Char) : List Char :=
  dropEndWhile p (cs.dropWhile p)

/-- A text without the blanks at its ends. -/
def trim (cs : List Char) : List Char := trimWhile isBlank cs

example : trim "\x1c a b\u2003\n".toList = "a b".toList := by decide

end PascalScan.Text
