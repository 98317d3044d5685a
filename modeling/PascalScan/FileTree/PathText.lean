import PascalScan.Text.Pieces

/-!
# Paths as text

A path is written as names between slashes. Runs of slashes count as one, and a slash at the end
asks for a directory. Splitting and joining work on the text alone and look at no tree.
-/

namespace PascalScan.PathText

/-- The names in a path. -/
def names (path : String) : List String :=
  ((Text.pieces '/' path.toList).filter (· ≠ [])).map String.ofList

def endsInSlash (path : String) : Bool := path.toList.getLast? == some '/'

/-- The part of a path before its last name, without the slashes between, and the last name. The
name is empty if the path ends in a slash; slashes alone are kept. -/
def split (path : String) : String × String :=
  let cs := path.toList
  let name := (cs.reverse.takeWhile (· ≠ '/')).reverse
  let before := cs.take (cs.length - name.length)
  let parent := (before.reverse.dropWhile (· == '/')).reverse
  (String.ofList (if parent.isEmpty then before else parent), String.ofList name)

/-- The directory that has to be there first, and the name to make in it. A slash at the end makes
no difference. -/
def parentAndName (path : String) : String × String :=
  let (parent, name) := split path
  if name = "" then split parent else (parent, name)

/-- The path of a name in a directory. -/
def join (directory name : String) : String :=
  if directory = "" ∨ endsInSlash directory then directory ++ name
  else directory ++ "/" ++ name

example : parentAndName "x/y//z/" = ("x/y", "z") := by decide
example : parentAndName "/x" = ("/", "x") := by decide

end PascalScan.PathText
