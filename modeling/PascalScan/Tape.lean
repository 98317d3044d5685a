/-!
# Tapes

A tape is a list that is read once, from front to back, with one item of lookahead. At its end it
yields its sentinel for ever; a sentinel may also be an item, so only `hasMore` tells whether the
end is reached.

`run` performs a sequence of steps and keeps every answer together with the position after it.
-/

namespace PascalScan

structure Tape (α : Type) where
  /-- How many items have been passed. -/
  position : Nat
  /-- The items ahead. -/
  rest : List α
  sentinel : α

namespace Tape

variable {α : Type}

def ofList (items : List α) (sentinel : α) : Tape α := ⟨0, items, sentinel⟩

/-- The item ahead, or the sentinel. -/
def peek (t : Tape α) : α := t.rest.headD t.sentinel

def hasMore (t : Tape α) : Bool := !t.rest.isEmpty

/-- Moves past `n` items, or past all that are left. -/
def advance (t : Tape α) (n : Nat) : Tape α :=
  ⟨t.position + min n t.rest.length, t.rest.drop n, t.sentinel⟩

/-- The item ahead and the tape beyond it. -/
def take (t : Tape α) : α × Tape α := (t.peek, t.advance 1)

inductive Step where
  | peek
  | take
  | hasMore
  | position
  deriving DecidableEq, Repr

/-- What a step answers: an item, a truth value or a position. -/
inductive Answer (α : Type) where
  | item (x : α)
  | flag (b : Bool)
  | place (n : Nat)
  deriving DecidableEq, Repr

def step (t : Tape α) : Step → Answer α × Tape α
  | .peek => (.item t.peek, t)
  | .take => (.item t.take.1, t.take.2)
  | .hasMore => (.flag t.hasMore, t)
  | .position => (.place t.position, t)

/-- The answers to a sequence of steps, each with the position after the step. -/
def run (t : Tape α) : List Step → List (Answer α × Nat)
  | [] => []
  | s :: steps =>
      let (a, t') := t.step s
      (a, t'.position) :: t'.run steps

end Tape

end PascalScan
