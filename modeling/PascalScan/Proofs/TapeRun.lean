import PascalScan.Tape
import Mathlib

/-!
# Runs of a tape

A tape may be read in any way: items taken, and the item ahead, the end and the position looked at,
in any order. This file says what each step of such a run answers. It depends on nothing but how
many items were taken before the step, also where an item is the sentinel, and beyond the end.

Shape of the argument: `laid` is the tape after a number of items were taken, and `step_laid` says
all that one step does to it. The laws of a run follow by induction on its steps.
-/

namespace PascalScan.Tape

variable {α : Type}

/-- What a step answers after a number of items were taken. -/
def answerAfter (items : List α) (sentinel : α) (taken : Nat) : Step → Answer α
  | .peek => .item (items[taken]?.getD sentinel)
  | .take => .item (items[taken]?.getD sentinel)
  | .hasMore => .flag (decide (taken < items.length))
  | .position => .place (min taken items.length)

/-- The tape after a number of items were taken, or after all of them. -/
def laid (items : List α) (sentinel : α) (taken : Nat) : Tape α :=
  ⟨min taken items.length, items.drop taken, sentinel⟩

theorem ofList_eq_laid (items : List α) (sentinel : α) :
    ofList items sentinel = laid items sentinel 0 := by
  rw [laid, Nat.zero_min]
  rfl

theorem peek_laid (items : List α) (sentinel : α) (taken : Nat) :
    (laid items sentinel taken).peek = items[taken]?.getD sentinel := by
  rw [peek, laid, List.headD_eq_head?_getD, List.head?_drop]

theorem advance_laid (items : List α) (sentinel : α) (taken : Nat) :
    (laid items sentinel taken).advance 1 = laid items sentinel (taken + 1) := by
  simp only [laid, advance, List.drop_drop, List.length_drop, mk.injEq, and_true]
  omega

theorem hasMore_laid (items : List α) (sentinel : α) (taken : Nat) :
    (laid items sentinel taken).hasMore = decide (taken < items.length) := by
  rw [Bool.eq_iff_iff, decide_eq_true_iff]
  simp [hasMore, laid]

/-- The step of a tape: its answer, and that only taking counts. -/
theorem step_laid (items : List α) (sentinel : α) (taken : Nat) (s : Step) :
    (laid items sentinel taken).step s =
      (answerAfter items sentinel taken s, laid items sentinel (taken + [s].count .take)) := by
  cases s with
  | peek => rw [step, peek_laid]; rfl
  | take => rw [step, take, peek_laid, advance_laid]; rfl
  | hasMore => rw [step, hasMore_laid]; rfl
  | position => rfl

/-! ## Whole runs -/

theorem run_laid_cons (items : List α) (sentinel : α) (taken : Nat) (s : Step)
    (steps : List Step) :
    (laid items sentinel taken).run (s :: steps) =
      (answerAfter items sentinel taken s, min (taken + [s].count .take) items.length) ::
        (laid items sentinel (taken + [s].count .take)).run steps := by
  rw [run, step_laid]
  rfl

theorem getElem?_run_laid (items : List α) (sentinel : α) (taken : Nat) (steps : List Step)
    (i : Nat) :
    ((laid items sentinel taken).run steps)[i]? = steps[i]?.map fun s =>
      (answerAfter items sentinel (taken + (steps.take i).count .take) s,
        min (taken + (steps.take (i + 1)).count .take) items.length) := by
  induction steps generalizing taken i with
  | nil => rfl
  | cons s steps ih =>
      have hcount : ∀ n, ((s :: steps).take (n + 1)).count .take =
          [s].count .take + (steps.take n).count .take := by
        intro n
        rw [← List.count_append]
        rfl
      rw [run_laid_cons]
      cases i with
      | zero => rw [hcount]; rfl
      | succ i =>
          rw [List.getElem?_cons_succ, List.getElem?_cons_succ, ih]
          simp only [hcount, Nat.add_assoc]

/-- The answers to the steps that take, in order. -/
def takenItems (steps : List Step) (outcomes : List (Answer α × Nat)) : List (Answer α) :=
  ((steps.zip outcomes).filter fun e => e.1 == .take).map fun e => e.2.1

theorem takenItems_run_laid (items : List α) (sentinel : α) (taken : Nat) (steps : List Step) :
    takenItems steps ((laid items sentinel taken).run steps) =
      (List.range' taken (steps.count .take)).map fun k => .item (items[k]?.getD sentinel) := by
  induction steps generalizing taken with
  | nil => rfl
  | cons s steps ih =>
      rw [run_laid_cons]
      cases s with
      | take =>
          have hcount : (Step.take :: steps).count .take = steps.count .take + 1 :=
            List.count_cons_self
          rw [hcount, List.range'_succ, List.map_cons, ← ih]
          rfl
      | peek => exact ih taken
      | hasMore => exact ih taken
      | position => exact ih taken

/-- Only taking moves a tape. -/
theorem step_of_ne_take (t : Tape α) {s : Step} (h : s ≠ .take) : (t.step s).2 = t := by
  cases s with
  | take => exact absurd rfl h
  | peek => rfl
  | hasMore => rfl
  | position => rfl

/-- Steps that only look can be left out, and the others are answered as before. -/
theorem run_filter (t : Tape α) (keep : Step → Bool) (hkeep : keep .take = true)
    (steps : List Step) :
    t.run (steps.filter keep) =
      ((steps.zip (t.run steps)).filter fun e => keep e.1).map Prod.snd := by
  induction steps generalizing t with
  | nil => rfl
  | cons s steps ih =>
      by_cases hs : keep s = true
      · simp only [run, List.zip_cons_cons, List.filter_cons, hs, if_true, List.map_cons, ih]
      · have hread : s ≠ .take := by
          rintro rfl
          exact hs hkeep
        simp only [run, List.zip_cons_cons, List.filter_cons, hs, step_of_ne_take t hread,
          Bool.false_eq_true, if_false, ih]

/-- The last step of a run is answered on the tape that the others lead to. -/
theorem run_concat (t : Tape α) (steps : List Step) (s : Step) :
    let last := steps.foldl (fun t s => (t.step s).2) t
    t.run (steps ++ [s]) = t.run steps ++ [((last.step s).1, (last.step s).2.position)] := by
  induction steps generalizing t with
  | nil => rfl
  | cons a steps ih => exact congrArg (((t.step a).1, (t.step a).2.position) :: ·) (ih _)

/-- **The law of a tape.** In every run over a list a step is answered by how many items were taken
before it, and the position after it is that number, up to the length of the list. So the takes
answer the items one after another, and the sentinel when there are no more. A take answers what a
look at the item ahead would have answered. Whichever looks are left out of a run, the other steps
are answered as before. -/
theorem run_ofList (items : List α) (sentinel : α) (steps : List Step) :
    let start := ofList items sentinel
    (∀ i, (start.run steps)[i]? = steps[i]?.map fun s =>
      (answerAfter items sentinel ((steps.take i).count .take) s,
        min ((steps.take (i + 1)).count .take) items.length)) ∧
    takenItems steps (start.run steps) =
      (List.range (steps.count .take)).map (fun k => .item (items[k]?.getD sentinel)) ∧
    (start.run (steps ++ [.take])).map Prod.fst = (start.run (steps ++ [.peek])).map Prod.fst ∧
    ∀ keep : Step → Bool,
      start.run (steps.filter fun s => s == .take || keep s) =
        ((steps.zip (start.run steps)).filter fun e => e.1 == .take || keep e.1).map Prod.snd := by
  intro start
  have hstart : start = laid items sentinel 0 := ofList_eq_laid items sentinel
  refine ⟨?_, ?_, ?_, ?_⟩
  · intro i
    rw [hstart, getElem?_run_laid]
    simp only [Nat.zero_add]
  · rw [hstart, takenItems_run_laid, List.range_eq_range']
  · rw [run_concat, run_concat, List.map_append, List.map_append]
    rfl
  · intro keep
    exact run_filter start _ (by rfl) steps

end PascalScan.Tape
