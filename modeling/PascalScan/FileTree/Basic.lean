/-!
# File trees

A tree of directories and files below a working directory. A node is found by its path, the names
from the top down to it; the working directory itself has the empty path and is always there.
-/

namespace PascalScan

/-- Names from the top of a tree down to a node. -/
abbrev Path := List String

inductive Node where
  | directory
  | file (bytes : List UInt8)
  deriving DecidableEq, Repr

structure FileTree where
  nodes : List (Path × Node)

namespace FileTree

def empty : FileTree := ⟨[]⟩

def find? (t : FileTree) (p : Path) : Option Node :=
  if p = [] then some .directory else t.nodes.lookup p

/-- Puts a node at a path, in place of what was there. -/
def put (t : FileTree) (p : Path) (n : Node) : FileTree :=
  ⟨(p, n) :: t.nodes.filter fun entry => entry.1 ≠ p⟩

theorem lookup_filter_ne {p q : Path} (h : q ≠ p) (nodes : List (Path × Node)) :
    (nodes.filter fun entry => entry.1 ≠ p).lookup q = nodes.lookup q := by
  induction nodes with
  | nil => rfl
  | cons entry rest ih =>
      obtain ⟨r, n⟩ := entry
      by_cases hr : r = p
      · subst hr
        have : (q == r) = false := by simpa using h
        simp only [ne_eq, not_true_eq_false, decide_false, Bool.false_eq_true,
          not_false_eq_true, List.filter_cons_of_neg, List.lookup_cons, this]
        exact ih
      · rw [List.filter_cons_of_pos (by simpa using hr), List.lookup_cons, List.lookup_cons, ih]

theorem find?_put (t : FileTree) (p q : Path) (n : Node) :
    (t.put p n).find? q = if q = [] then some .directory else if q = p then some n
      else t.find? q := by
  unfold find? put
  by_cases hq : q = []
  · simp [hq]
  · by_cases hp : q = p
    · simp [hp]
    · have : (q == p) = false := by simpa using hp
      simp only [hq, hp, if_false, List.lookup_cons, this]
      exact lookup_filter_ne hp t.nodes

end FileTree

end PascalScan
