import PascalScan.Proofs.DiagnosticCount
import PascalScan.Scanner

/-!
# Runs of a scanner

A scanner may be driven in any way: records may be asked for, single elements taken, the tape looked
at, the line set and diagnostics made, in any order. This file says what holds in every state that
such a run leads to, and what asking for the next record does there, also in the middle of a lexeme
and on any line.

* `exists_advance` and `line_step` say all that one step can do to the tape and to the line.
* `Tape.Over` is the invariant of the tape, `line_after` the law of the line over a whole run.
* `next_eq_none_iff` and `takesRecord_of_next` are the two outcomes of `next`.
-/

namespace PascalScan

/-! ## The tape -/

namespace Tape

variable {α : Type}

/-- A tape that was laid over a list: what is ahead is the list from the position on. -/
structure Over (items : List α) (t : Tape α) : Prop where
  position_le : t.position ≤ items.length
  rest_eq : t.rest = items.drop t.position

theorem over_ofList (items : List α) (sentinel : α) : (ofList items sentinel).Over items :=
  ⟨Nat.zero_le _, rfl⟩

theorem Over.advance {items : List α} {t : Tape α} (h : t.Over items) (n : Nat) :
    (t.advance n).Over items := by
  have hlength : t.rest.length = items.length - t.position := by
    rw [h.rest_eq, List.length_drop]
  have hle := h.position_le
  refine ⟨?_, ?_⟩
  · simp only [Tape.advance]
    omega
  · simp only [Tape.advance]
    rcases Nat.le_total n t.rest.length with hn | hn
    · rw [Nat.min_eq_left hn, h.rest_eq, List.drop_drop]
    · rw [Nat.min_eq_right hn, List.drop_eq_nil_of_le hn, List.drop_eq_nil_of_le (by omega)]

end Tape

namespace Scanner

/-! ## One step -/

/-- No step does more to the tape than to move it on. -/
theorem exists_advance (s : Scanner) (a : Step) :
    ∃ n, (s.step a).2.tape = s.tape.advance n := by
  have hstay : s.tape = s.tape.advance 0 := by
    simp [Tape.advance]
  cases a with
  | next =>
      simp only [step, next]
      cases Lexeme.next? s.tape.rest with
      | none => exact ⟨_, rfl⟩
      | some taken => exact ⟨_, rfl⟩
  | take => exact ⟨1, rfl⟩
  | peek => exact ⟨0, hstay⟩
  | hasMore => exact ⟨0, hstay⟩
  | setLine line => exact ⟨0, hstay⟩
  | diagnose code text => exact ⟨0, hstay⟩

/-- Only asking for a record and taking an element move the tape. -/
theorem tape_step (s : Scanner) {a : Step} (hnext : a ≠ .next) (htake : a ≠ .take) :
    (s.step a).2.tape = s.tape := by
  cases a with
  | next => exact absurd rfl hnext
  | take => exact absurd rfl htake
  | peek => rfl
  | hasMore => rfl
  | setLine line => rfl
  | diagnose code text => rfl

/-- A step and its answer. -/
structure Event where
  step : Step
  answer : Answer

namespace Event

/-- The value that the line is set to. -/
def setting? : Event → Option Int
  | ⟨.setLine line, _⟩ => some line
  | _ => none

/-- The record that was asked for. -/
def record? : Event → Option Record
  | ⟨.next, .record r⟩ => some r
  | _ => none

end Event

/-- The records that were asked for in a sequence of events. -/
def asked (events : List Event) : List Record := events.filterMap Event.record?

theorem asked_append (es fs : List Event) : asked (es ++ fs) = asked es ++ asked fs :=
  List.filterMap_append

/-- The line after a step: the value that it sets, or else one more if it answers the end of a
line to whoever asked for a record. -/
theorem line_step (s : Scanner) (a : Step) :
    (s.step a).2.line =
      (Event.setting? ⟨a, (s.step a).1⟩).getD (s.line + lineEnds (asked [⟨a, (s.step a).1⟩])) := by
  cases a with
  | next =>
      simp only [step, next]
      cases Lexeme.next? s.tape.rest with
      | none => exact (Int.add_zero s.line).symm
      | some taken =>
          obtain ⟨l, rest⟩ := taken
          change s.line + l.lineBreaks = s.line + lineEnds [l.record s.line]
          rw [lineEnds_record]
  | take => exact (Int.add_zero s.line).symm
  | peek => exact (Int.add_zero s.line).symm
  | hasMore => exact (Int.add_zero s.line).symm
  | setLine line => rfl
  | diagnose code text => exact (Int.add_zero s.line).symm

/-! ## Runs -/

/-- The scanner that a sequence of steps leads to. -/
def after (s : Scanner) (steps : List Step) : Scanner := steps.foldl (fun s a => (s.step a).2) s

/-- The steps of a run, each with its answer. -/
def events (s : Scanner) (steps : List Step) : List Event :=
  List.zipWith (fun a outcome => ⟨a, outcome.1⟩) steps (s.run steps)

theorem after_append (s : Scanner) (steps more : List Step) :
    s.after (steps ++ more) = (s.after steps).after more :=
  List.foldl_append

theorem length_run (s : Scanner) (steps : List Step) : (s.run steps).length = steps.length := by
  induction steps generalizing s with
  | nil => rfl
  | cons a steps ih => exact congrArg (· + 1) (ih _)

/-- A run answers each step in the state that the steps before it lead to. -/
theorem run_concat (s : Scanner) (steps : List Step) (a : Step) :
    s.run (steps ++ [a]) = s.run steps ++ [(s.after steps).step a] := by
  induction steps generalizing s with
  | nil => rfl
  | cons b steps ih => exact congrArg (s.step b :: ·) (ih _)

theorem events_concat (s : Scanner) (steps : List Step) (a : Step) :
    s.events (steps ++ [a]) = s.events steps ++ [⟨a, ((s.after steps).step a).1⟩] := by
  rw [events, run_concat, List.zipWith_append (s.length_run steps).symm]
  rfl

/-- The tape stays over the source that the scanner began with. -/
theorem over_after (source : List Element) (steps : List Step) :
    ((ofSource source).after steps).tape.Over source := by
  induction steps using List.reverseRecOn with
  | nil => exact Tape.over_ofList source []
  | append_singleton steps a ih =>
      obtain ⟨n, hn⟩ := exists_advance ((ofSource source).after steps) a
      rw [after_append]
      exact hn ▸ ih.advance n

theorem position_le_after (s : Scanner) (steps : List Step) :
    s.tape.position ≤ (s.after steps).tape.position := by
  induction steps generalizing s with
  | nil => exact Nat.le_refl _
  | cons a steps ih =>
      obtain ⟨n, hn⟩ := s.exists_advance a
      have hstep : s.tape.position ≤ (s.step a).2.tape.position := by
        rw [hn]
        exact Nat.le_add_right _ _
      exact Nat.le_trans hstep (ih _)

/-- The value that the line was last set to; it is 1 at the start. -/
def lastSetting (events : List Event) : Int := (events.filterMap Event.setting?).getLast?.getD 1

/-- The events after the last one that set the line. -/
def sinceSetting (events : List Event) : List Event :=
  events.rtakeWhile fun e => e.setting?.isNone

/-- **The line of a scanner** is the value that it was last set to, and the ends of lines that have
been answered since. -/
theorem line_after (source : List Element) (steps : List Step) :
    let events := (ofSource source).events steps
    ((ofSource source).after steps).line =
      lastSetting events + lineEnds (asked (sinceSetting events)) := by
  intro events
  induction steps using List.reverseRecOn with
  | nil => rfl
  | append_singleton steps a ih =>
      have hline := line_step ((ofSource source).after steps) a
      have hevents := events_concat (ofSource source) steps a
      generalize (⟨a, (((ofSource source).after steps).step a).1⟩ : Event) = event at hline hevents
      change events = _ at hevents
      rw [hevents, after_append]
      refine hline.trans ?_
      -- Either the count starts again at the value set, or the event is one more to be counted.
      cases hset : event.setting? with
      | some line =>
          rw [sinceSetting, List.rtakeWhile_concat_neg _ _ _ (by simp [hset])]
          simp [lastSetting, hset, asked, lineEnds, Record.tokens]
      | none =>
          have hsince : sinceSetting ((ofSource source).events steps ++ [event]) =
              sinceSetting ((ofSource source).events steps) ++ [event] :=
            List.rtakeWhile_concat_pos _ _ _ (by simp [hset])
          have hlast : lastSetting ((ofSource source).events steps ++ [event]) =
              lastSetting ((ofSource source).events steps) := by
            simp [lastSetting, hset]
          rw [hsince, hlast, asked_append, lineEnds_append, Option.getD_none, ih, Int.natCast_add,
            Int.add_assoc]

/-! ## The next record -/

/-- What is answered depends on the elements ahead and on the line, and on nothing else. -/
theorem next_fst (s : Scanner) :
    s.next.1 = (Lexeme.next? s.tape.rest).map fun taken => taken.1.record s.line := by
  unfold next
  cases Lexeme.next? s.tape.rest with
  | none => rfl
  | some taken => rfl

theorem next_eq_none_iff (s : Scanner) : s.next.1 = none ↔ ∀ e ∈ s.tape.rest, e = [' '] := by
  rw [next_fst, Option.map_eq_none_iff, Lexeme.next?_eq_none_iff]
  constructor
  · rintro ⟨n, hn⟩ e he
    rw [hn] at he
    exact List.eq_of_mem_replicate he
  · intro hspaces
    exact ⟨_, List.eq_replicate_iff.mpr ⟨rfl, hspaces⟩⟩

/-- If there is no record left, the end of the tape is reached, on the same line. -/
theorem next_of_none {s : Scanner} (h : s.next.1 = none) :
    s.next.2 = { s with tape := s.tape.advance s.tape.rest.length } := by
  unfold next at h ⊢
  cases hnext : Lexeme.next? s.tape.rest with
  | none => rfl
  | some taken =>
      rw [hnext] at h
      cases h

/-- What it is to take a record off the elements ahead, on a line. -/
structure TakesRecord (ahead passed : List Element) (line : Int) (r : Record) : Prop where
  /-- All the spaces in front are passed and then the longest piece there that may be a lexeme,
  which is never empty. The record is the one of that piece. -/
  piece : ∃ piece rest, ahead = passed ++ rest ∧ passed = ahead.takeWhile Element.isSpace ++ piece ∧
    piece ≠ [] ∧ LongestLexical piece (piece ++ rest) ∧ PieceRecord line piece r
  /-- An end of a line is passed last only. -/
  lineEnd_last : ['\n'] ∉ passed.dropLast
  /-- An end of a line is passed exactly if it is answered. -/
  lineEnd_iff : passed.getLast? = some ['\n'] ↔ r = .token ⟨.endOfLine, "EOLN"⟩
  onLine : ∀ d, r = .diagnostic d →
    d.line = line ∧ ∃ text, d.msg = "Line " ++ toString line ++ ": " ++ text

/-- The record of a lexeme is taken by passing the spaces before it and its elements. -/
theorem takesRecord_lexeme (n : Nat) {l : Lexeme} {rest : List Element} (hl : l.Proper)
    (ha : l.Apart rest) (line : Int) :
    TakesRecord (Element.spaces n ++ (l.elements ++ rest)) (Element.spaces n ++ l.elements) line
      (l.record line) where
  piece := by
    obtain ⟨e, es, hes, he, -⟩ := Lexeme.read_of_proper hl ha
    have hspaces : (Element.spaces n ++ (l.elements ++ rest)).takeWhile Element.isSpace =
        Element.spaces n := by
      have hhead : Element.isSpace e = false := Element.isSpace_eq_false_iff.mpr he
      rw [hes, Element.spaces, List.takeWhile_append_of_pos (by simp), List.cons_append,
        List.takeWhile_cons_of_neg (by simp [hhead]), List.append_nil]
    refine ⟨l.elements, rest, (List.append_assoc _ _ _).symm, by rw [hspaces], ?_, ?_, ?_⟩
    · exact Lexeme.elements_ne_nil hl
    · exact longestLexical_of_apart hl ha
    · exact (pieceRecord_iff hl).mpr rfl
  lineEnd_last := by
    rw [List.dropLast_append_of_ne_nil (Lexeme.elements_ne_nil hl), List.mem_append, not_or]
    refine ⟨?_, ?_⟩
    · intro hmem
      exact absurd (List.eq_of_mem_replicate hmem) (by decide)
    · intro hmem
      obtain ⟨-, rfl⟩ := Lexeme.eq_lineBreak_of_blank hl (.inr rfl) (List.mem_of_mem_dropLast hmem)
      cases hmem
  lineEnd_iff := by
    rw [List.getLast?_append_of_ne_nil _ (Lexeme.elements_ne_nil hl)]
    constructor
    · intro hlast
      obtain ⟨-, rfl⟩ := Lexeme.eq_lineBreak_of_blank hl (.inr rfl) (List.mem_of_getLast? hlast)
      rfl
    · intro hr
      have hbreaks : l.lineBreaks = 1 := by
        rw [← lineEnds_record l line, hr]
        rfl
      obtain rfl : l = .lineBreak := by
        by_contra hne
        rw [Lexeme.lineBreaks_eq, if_neg hne] at hbreaks
        cases hbreaks
      rfl
  onLine := by
    intro d hd
    have hcomplaint := Lexeme.diagnostic?_record l line
    rw [hd] at hcomplaint
    obtain ⟨c, -, rfl⟩ := Option.map_eq_some_iff.mp hcomplaint.symm
    exact ⟨rfl, c.text, rfl⟩

theorem takesRecord_of_next {s : Scanner} {r : Record} (h : s.next.1 = some r) :
    ∃ passed, s.next.2.tape.position = s.tape.position + passed.length ∧
      TakesRecord s.tape.rest passed s.line r := by
  unfold next at h ⊢
  cases hnext : Lexeme.next? s.tape.rest with
  | none =>
      rw [hnext] at h
      cases h
  | some taken =>
      obtain ⟨l, rest⟩ := taken
      rw [hnext] at h
      obtain rfl : l.record s.line = r := Option.some.inj h
      obtain ⟨hl, ha, n, hrest⟩ := Lexeme.next?_eq_some_iff.mp hnext
      refine ⟨Element.spaces n ++ l.elements, ?_, ?_⟩
      · simp only [Tape.advance, hrest, List.length_append]
        omega
      · rw [hrest]
        exact takesRecord_lexeme n hl ha s.line

/-- **What holds in every state of a scanner**, whatever steps led there. The position stays in the
source and never goes back, and only asking for a record or taking an element moves it. The line is
the value that it was last set to, and the ends of lines answered since; one that is passed as a
single element does not count. No record is left exactly if only spaces are ahead. Any other time
a record is taken off what is ahead, and what is ahead and the line determine it. -/
theorem run_invariant (source : List Element) (steps : List Step) :
    let start := ofSource source
    let s := start.after steps
    let ahead := source.drop s.tape.position
    (∀ a, start.run (steps ++ [a]) = start.run steps ++ [s.step a]) ∧
    s.tape.position ≤ source.length ∧
    (∀ more, s.tape.position ≤ (start.after (steps ++ more)).tape.position) ∧
    (∀ a, a ≠ .next → a ≠ .take → (s.step a).2.tape = s.tape) ∧
    s.line = lastSetting (start.events steps) +
      lineEnds (asked (sinceSetting (start.events steps))) ∧
    (s.next.1 = none ↔ ∀ e ∈ ahead, e = [' ']) ∧
    (s.next.1 = none → s.next.2.tape.position = source.length ∧ s.next.2.line = s.line) ∧
    (∀ r, s.next.1 = some r →
      ∃ passed, s.next.2.tape.position = s.tape.position + passed.length ∧
        TakesRecord ahead passed s.line r) ∧
    ∀ (source' : List Element) (steps' : List Step),
      let s' := (ofSource source').after steps'
      source'.drop s'.tape.position = ahead → s'.line = s.line → s'.next.1 = s.next.1 := by
  intro start s ahead
  have hover : s.tape.Over source := over_after source steps
  have hahead : ahead = s.tape.rest := hover.rest_eq.symm
  refine ⟨start.run_concat steps, hover.position_le, ?_, ?_, ?_, ?_, ?_, ?_, ?_⟩
  · intro more
    rw [after_append]
    exact position_le_after s more
  · exact fun a hnext htake => s.tape_step hnext htake
  · exact line_after source steps
  · rw [hahead]
    exact s.next_eq_none_iff
  · intro hnone
    rw [next_of_none hnone]
    refine ⟨?_, rfl⟩
    have hle := hover.position_le
    simp only [Tape.advance, hover.rest_eq, List.length_drop]
    omega
  · intro r hr
    rw [hahead]
    exact takesRecord_of_next hr
  · intro source' steps' s' hrest hline
    rw [hahead, ← (over_after source' steps').rest_eq] at hrest
    rw [next_fst, next_fst, hrest, hline]

/-- A line end is taken as a single element in the middle of one run, and the line does not move with
it; the record that follows is the one that a shorter run finds at its place on the same line. In
another run only spaces are left. -/
theorem run_invariant_lineEnd :
    let s := (ofSource (Element.ofText "ab\n :".toList)).after [.take, .setLine (-3), .next, .take]
    let s' := (ofSource (Element.ofText " :".toList)).after [.peek, .setLine (-3)]
    let last := (ofSource (Element.ofText "a  ".toList)).after [.hasMore, .take]
    let r : Record := .diagnostic (Complaint.onLine .misusedColon (-3))
    (s.line = -3 ∧ s.next.1 = some r ∧ s'.next.1 = some r ∧
      ∃ passed, s.next.2.tape.position = s.tape.position + passed.length ∧
        TakesRecord (Element.ofText " :".toList) passed (-3) r) ∧
    last.next.1 = none ∧ last.next.2.tape.position = 3 ∧ last.next.2.line = 1 := by
  intro s s' last r
  obtain ⟨-, -, -, -, -, -, -, htakes, hsame⟩ := run_invariant (Element.ofText "ab\n :".toList)
    [.take, .setLine (-3), .next, .take]
  obtain ⟨-, -, -, -, -, hspaces, hend, -⟩ := run_invariant (Element.ofText "a  ".toList)
    [.hasMore, .take]
  have hnext : s.next.1 = some r := by
    decide +kernel
  refine ⟨⟨rfl, hnext, ?_, htakes r hnext⟩, ?_⟩
  · exact (hsame _ [.peek, .setLine (-3)] (by decide) rfl).trans hnext
  · have hnone : last.next.1 = none := hspaces.mpr (by decide)
    exact ⟨hnone, hend hnone⟩

end Scanner

end PascalScan
