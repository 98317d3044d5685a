import PascalScan.Text.Quoted

/-!
# Text in ASCII

Some texts have room for the characters of ASCII only. A fault names the first characters in a row
that are none of them.
-/

namespace PascalScan

structure AsciiFault where
  /-- Where the fault starts, counted in characters. -/
  position : Nat
  /-- The first character at fault. -/
  first : Char
  /-- The characters at fault. -/
  length : Nat
  deriving DecidableEq, Repr

def AsciiFault.message (f : AsciiFault) : String :=
  let place :=
    if f.length = 1 then
      "character '" ++ String.ofList (Text.numbered f.first) ++ "' in position " ++
        toString f.position
    else
      "characters in position " ++ toString f.position ++ "-" ++
        toString (f.position + f.length - 1)
  "'ascii' codec can't encode " ++ place ++ ": ordinal not in range(128)"

namespace Ascii

def has (c : Char) : Bool := c.toNat < 0x80

/-- What keeps a text from being one in ASCII. -/
def fault? (cs : List Char) : Option AsciiFault :=
  let before := cs.takeWhile has
  let others := (cs.drop before.length).takeWhile (!has ·)
  others.head?.map fun c => ⟨before.length, c, others.length⟩

example : fault? "plain".toList = none := by decide
example : fault? "/é1é".toList = some ⟨1, 'é', 1⟩ := by decide

end Ascii

end PascalScan
