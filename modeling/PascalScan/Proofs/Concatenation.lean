import PascalScan.Proofs.MaximalMunch

/-!
# Sources one after the other

The scan of two sources put together passes through the state in which the scan of the first one
ends, unless the last lexeme of the first goes on into the second (`Merges`). Then that lexeme
becomes a longer one, and its record always changes.

* `Cut.append` and `Cut.append_merged` are the two cases for lexemes.
* `deliveredBeforeEnd_append` is the law for records, with its exact side condition.
-/

namespace PascalScan

namespace Lexeme

/-! ## Cuts side by side -/

/-- A source that ends with a lexeme ends with no space. -/
theorem getLast?_elements {l : Lexeme} (hl : l.Proper) (front : List Element) :
    (front ++ l.elements).getLast? ≠ some [' '] := by
  rw [List.getLast?_append_of_ne_nil _ (elements_ne_nil hl)]
  intro hlast
  exact ne_space_of_mem_elements hl (List.mem_of_getLast? hlast) rfl

/-- Two cuts join if what follows the last lexeme of the first is nothing that it goes on with.
A space at the end of the first source keeps them apart by itself. -/
theorem Cut.append {u v : List Element} {ls ms : List Lexeme} (hu : Cut u ls) (hv : Cut v ms)
    (hjoint : u.getLast? ≠ some [' '] → ∀ l ∈ ls.getLast?, l.Apart v) :
    Cut (u ++ v) (ls ++ ms) := by
  induction hu with
  | spaces n => exact hv.spaces_append n
  | @lexeme n l rest ls hl ha hrest ih =>
      -- Only the last lexeme of the first source sees the second.
      rw [List.append_assoc, List.append_assoc, List.cons_append]
      rcases eq_or_ne rest [] with rfl | hne
      · obtain rfl := hrest.eq_nil
        rw [List.append_nil] at hjoint
        exact .lexeme n hl (hjoint (getLast?_elements hl _) l rfl) hv
      · refine .lexeme n hl (ha.append hne v) (ih ?_)
        intro hlast m hm
        refine hjoint ?_ m ?_
        · rwa [← List.append_assoc, List.getLast?_append_of_ne_nil _ hne]
        · rw [← List.singleton_append, List.getLast?_append, hm]
          rfl

/-- A source that does not end with a space ends with its last lexeme, and whatever may begin with
that lexeme may stand in its place. -/
theorem Cut.exists_front {u : List Element} {init : List Lexeme} {l : Lexeme}
    (hu : Cut u (init ++ [l])) (hend : u.getLast? ≠ some [' ']) :
    ∃ front, u = front ++ l.elements ∧ ∀ more ms,
      Cut (l.elements ++ more) ms → Cut (front ++ (l.elements ++ more)) (init ++ ms) := by
  induction init generalizing u with
  | nil =>
      cases hu with
      | @lexeme n l rest ls hl _ hrest =>
          obtain ⟨k, rfl⟩ : ∃ k, rest = Element.spaces k := by
            cases hrest
            exact ⟨_, rfl⟩
          -- Spaces after the last lexeme would be at the end of the source.
          obtain rfl : k = 0 := by
            by_contra hk
            refine hend ?_
            rw [← List.append_assoc, List.getLast?_append_of_ne_nil _ (by simpa [Element.spaces])]
            simp [Element.spaces, List.getLast?_replicate, hk]
          refine ⟨Element.spaces n, by simp [Element.spaces], ?_⟩
          intro more ms hcut
          exact hcut.spaces_append n
  | cons k init ih =>
      cases hu with
      | @lexeme n k rest ls hk ha hrest =>
          have hne : rest ≠ [] := by
            rintro rfl
            exact absurd hrest.eq_nil (by simp)
          rw [← List.append_assoc, List.getLast?_append_of_ne_nil _ hne] at hend
          obtain ⟨front, rfl, hfront⟩ := ih hrest hend
          refine ⟨Element.spaces n ++ (k.elements ++ front), by simp only [List.append_assoc], ?_⟩
          intro more ms hcut
          have ha' := ha.append hne more
          rw [List.append_assoc] at ha'
          rw [List.append_assoc, List.append_assoc]
          exact .lexeme n hk ha' (hfront more ms hcut)

/-- A lexeme and an element that it goes on with start a longer lexeme. -/
theorem exists_longer {l : Lexeme} {e : Element} (hl : l.Proper) (h : l.joins e = true)
    (tail : List Element) :
    ∃ m ms more, m.elements = l.elements ++ e :: more ∧
      Cut (l.elements ++ e :: tail) (m :: ms) := by
  obtain ⟨c, cs, hcs, hc, -⟩ := read_of_proper hl (apart_nil l)
  obtain ⟨hm, ha, hcut⟩ := read_spec (cs ++ e :: tail) hc
  generalize read c (cs ++ e :: tail) = step at hm ha hcut
  obtain ⟨m, rest⟩ := step
  rw [← List.cons_append, ← hcs] at hcut
  -- What is read is longest, and the lexeme with the element is a candidate.
  have hlonger : l.elements ++ [e] <+: m.elements ++ rest :=
    ⟨tail, by rw [← hcut, List.append_assoc, List.singleton_append]⟩
  have hlength := (longestLexical_of_apart hm ha).longest _ (lexical_of_joins hl h) hlonger
  obtain ⟨more, hmore⟩ :=
    List.prefix_of_prefix_length_le hlonger (List.prefix_append _ _) hlength
  refine ⟨m, lexemes rest, more, ?_, ?_⟩
  · rw [← hmore, List.append_assoc, List.singleton_append]
  · rw [hcut]
    exact .lexeme 0 hm ha (cut_lexemes rest)

/-- If the last lexeme of the first source goes on into the second, it becomes a longer one; what
was cut before it stays. -/
theorem Cut.append_merged {u v : List Element} {e : Element} {init : List Lexeme} {l : Lexeme}
    (hu : Cut u (init ++ [l])) (hend : u.getLast? ≠ some [' ']) (hv : v.head? = some e)
    (hjoin : l.joins e = true) :
    ∃ m ms more, m.elements = l.elements ++ e :: more ∧ Cut (u ++ v) (init ++ m :: ms) := by
  obtain ⟨tail, rfl⟩ := List.head?_eq_some_iff.mp hv
  have hl : l.Proper := hu.proper l (by simp)
  obtain ⟨front, rfl, hfront⟩ := hu.exists_front hend
  obtain ⟨m, ms, more, hm, hcut⟩ := exists_longer hl hjoin tail
  refine ⟨m, ms, more, hm, ?_⟩
  rw [List.append_assoc]
  exact hfront _ _ hcut

/-- Blanks are cut into line ends. -/
theorem cut_blanks {gap : List Element} (h : ∀ e ∈ gap, e = [' '] ∨ e = ['\n']) :
    Cut gap (List.replicate (gap.count ['\n']) lineBreak) := by
  induction gap with
  | nil => exact .spaces 0
  | cons e gap ih =>
      obtain ⟨he, hgap⟩ := List.forall_mem_cons.mp h
      rcases he with rfl | rfl
      · exact (ih hgap).spaces_append 1
      · rw [List.count_cons_self, List.replicate_succ]
        exact .lexeme 0 (l := lineBreak) trivial (fun x _ => rfl) (ih hgap)

end Lexeme

/-! ## Records side by side -/

/-- What the sinks get before the mark for the end. -/
def deliveredBeforeEnd (source : List Element) : List Record := (delivered source).dropLast

theorem deliveredBeforeEnd_eq (source : List Element) :
    deliveredBeforeEnd source = sourceRecords source := by
  rw [deliveredBeforeEnd, delivered_eq, List.dropLast_concat]

/-- The first source ends with a lexeme, no space after it, and that lexeme goes on with the first
element of the second. -/
def Merges (u v : List Element) : Prop :=
  u.getLast? ≠ some [' '] ∧
    ∃ l e, (Lexeme.lexemes u).getLast? = some l ∧ v.head? = some e ∧ l.joins e = true

instance (u v : List Element) : Decidable (Merges u v) :=
  decidable_of_iff (u.getLast? ≠ some [' '] ∧
      ∃ l ∈ (Lexeme.lexemes u).getLast?, ∃ e ∈ v.head?, l.joins e = true) (by
    simp only [Merges, Option.mem_def, exists_and_left])

theorem sourceRecords_append {u v : List Element} (h : ¬Merges u v) :
    sourceRecords (u ++ v) =
      sourceRecords u ++ (sourceRecords v).map (Record.shift (u.count ['\n'])) := by
  have hjoint : u.getLast? ≠ some [' '] → ∀ l ∈ (Lexeme.lexemes u).getLast?, l.Apart v := by
    intro hend l hl e he
    by_contra hjoin
    exact h ⟨hend, l, e, hl, he, by simpa using hjoin⟩
  have hcut := (Lexeme.cut_lexemes u).append (Lexeme.cut_lexemes v) hjoint
  rw [sourceRecords, Lexeme.cut_iff.mp hcut, Lexeme.records_append, Lexeme.count_lineBreak,
    ← Lexeme.map_shift_records]
  rfl

/-- Where two sources merge, the record of the lexeme that goes on is another one afterwards; the
records before it stay. -/
theorem exists_records_of_merges {u v : List Element} (h : Merges u v) :
    ∃ before r r' after, sourceRecords u = before ++ [r] ∧
      sourceRecords (u ++ v) = before ++ r' :: after ∧ r' ≠ r := by
  obtain ⟨hend, l, e, hl, he, hjoin⟩ := h
  obtain ⟨init, hinit⟩ := List.getLast?_eq_some_iff.mp hl
  obtain ⟨m, ms, more, hm, hcut⟩ :=
    (Lexeme.cut_iff.mpr hinit).append_merged hend he hjoin
  let line : Int := 1 + init.count .lineBreak
  refine ⟨Lexeme.records 1 init, l.record line, m.record line,
    Lexeme.records (line + m.lineBreaks) ms, ?_, ?_, ?_⟩
  · rw [sourceRecords, hinit, Lexeme.records_append]
    rfl
  · rw [sourceRecords, Lexeme.cut_iff.mp hcut, Lexeme.records_append]
    rfl
  · intro hsame
    -- The texts of the two records differ in length, whatever kinds the records are of.
    obtain ⟨c, rfl⟩ := Lexeme.exists_of_joins hjoin
    have htext := congrArg (fun r => (Record.text r).length) hsame
    simp [Lexeme.text_record, hm] at htext

/-- Where a source ends or begins with a blank, nothing merges. -/
theorem not_merges_of_isBlank {u v : List Element} {c : Char} (hc : Text.isBlank c = true)
    (h : u.getLast? = some [c] ∨ v.head? = some [c]) : ¬Merges u v := by
  rintro ⟨hend, l, e, hl, he, hjoin⟩
  rcases h with hu | hv
  · obtain ⟨init, hinit⟩ := List.getLast?_eq_some_iff.mp hl
    have hcut := Lexeme.cut_iff.mpr hinit
    have hproper : l.Proper := hcut.proper l (by simp)
    obtain ⟨front, rfl, -⟩ := hcut.exists_front hend
    rw [List.getLast?_append_of_ne_nil _ (Lexeme.elements_ne_nil hproper)] at hu
    rcases Lexeme.eq_of_mem_blank hproper hc (List.mem_of_getLast? hu) with ⟨-, rfl⟩ | rfl
    · exact Bool.noConfusion hjoin
    · exact Bool.noConfusion hjoin
  · obtain rfl : [c] = e := by simpa [hv] using he
    rw [Lexeme.joins_of_isBlank l hc] at hjoin
    exact Bool.noConfusion hjoin

theorem not_merges_of_blank {u v : List Element} {c : Char} (hc : c = ' ' ∨ c = '\n')
    (h : u.getLast? = some [c] ∨ v.head? = some [c]) : ¬Merges u v := by
  have hblank : Text.isBlank c = true := by
    rcases hc with rfl | rfl <;> decide
  exact not_merges_of_isBlank hblank h

theorem sourceRecords_blanks {gap : List Element} (h : ∀ e ∈ gap, e = [' '] ∨ e = ['\n']) :
    sourceRecords gap =
      List.replicate (gap.count ['\n']) (.token ⟨.endOfLine, "EOLN"⟩) := by
  have hrecords : ∀ (n : Nat) (line : Int), Lexeme.records line (List.replicate n .lineBreak) =
      List.replicate n (.token ⟨.endOfLine, "EOLN"⟩) := by
    intro n
    induction n with
    | zero => exact fun line => rfl
    | succ n ih => exact fun line => congrArg _ (ih _)
  rw [sourceRecords, Lexeme.cut_iff.mp (Lexeme.cut_blanks h), hrecords]

/-- A gap of blanks between two sources keeps them apart, and gives the records of its line
ends. -/
theorem sourceRecords_gap (u v : List Element) {gap : List Element} (hne : gap ≠ [])
    (hgap : ∀ e ∈ gap, e = [' '] ∨ e = ['\n']) :
    sourceRecords (u ++ gap ++ v) =
      sourceRecords u ++ List.replicate (gap.count ['\n']) (.token ⟨.endOfLine, "EOLN"⟩) ++
        (sourceRecords v).map (Record.shift ((u ++ gap).count ['\n'])) := by
  have hhead : ¬Merges u gap := by
    obtain ⟨e, tail, rfl⟩ := List.exists_cons_of_ne_nil hne
    rcases hgap e (by simp) with rfl | rfl
    · exact not_merges_of_blank (.inl rfl) (.inr rfl)
    · exact not_merges_of_blank (.inr rfl) (.inr rfl)
  have hlast : ¬Merges (u ++ gap) v := by
    have hu : (u ++ gap).getLast? = some (gap.getLast hne) := by
      rw [List.getLast?_append_of_ne_nil _ hne, List.getLast?_eq_some_getLast hne]
    rcases hgap _ (List.getLast_mem hne) with he | he
    · exact not_merges_of_blank (.inl rfl) (.inl (hu.trans (congrArg some he)))
    · exact not_merges_of_blank (.inr rfl) (.inl (hu.trans (congrArg some he)))
  rw [sourceRecords_append hlast, sourceRecords_append hhead, sourceRecords_blanks hgap,
    List.map_replicate]
  rfl

/-- Where nothing merges, spaces put in between change nothing. -/
theorem sourceRecords_insert_spaces {u v : List Element} (h : ¬Merges u v) (n : Nat) :
    sourceRecords (u ++ Element.spaces n ++ v) = sourceRecords (u ++ v) := by
  have hspaces : ∀ e ∈ Element.spaces n, e = [' '] ∨ e = ['\n'] := fun e he =>
    .inl (List.eq_of_mem_replicate he)
  have hcount : (Element.spaces n).count ['\n'] = 0 := by
    simp [Element.spaces, List.count_replicate]
  by_cases hnil : Element.spaces n = []
  · rw [hnil, List.append_nil]
  · rw [sourceRecords_gap u v hnil hspaces, sourceRecords_append h, List.count_append, hcount,
      Nat.add_zero, List.replicate_zero, List.append_nil]

/-- **Concatenation.** The records of two sources together are those of the first and then those
of the second, so many lines further down as the first has, exactly when the two do not merge.
Only the last record of the first is ever lost. A gap of blanks between two sources adds the
records of its line ends and no more. With a blank at the joint nothing merges, and more spaces
there change nothing. -/
theorem deliveredBeforeEnd_append (u v : List Element) :
    (deliveredBeforeEnd (u ++ v) =
        deliveredBeforeEnd u ++ (deliveredBeforeEnd v).map (Record.shift (u.count ['\n'])) ↔
      ¬Merges u v) ∧
    (deliveredBeforeEnd u).dropLast <+: deliveredBeforeEnd (u ++ v) ∧
    (∀ gap, gap ≠ [] → (∀ e ∈ gap, e = [' '] ∨ e = ['\n']) →
      deliveredBeforeEnd (u ++ gap ++ v) =
        deliveredBeforeEnd u ++
          List.replicate (gap.count ['\n']) (.token ⟨.endOfLine, "EOLN"⟩) ++
          (deliveredBeforeEnd v).map (Record.shift ((u ++ gap).count ['\n']))) ∧
    (∀ blank, blank = [' '] ∨ blank = ['\n'] → u.getLast? = some blank ∨ v.head? = some blank →
      ¬Merges u v ∧
        ∀ n, deliveredBeforeEnd (u ++ Element.spaces n ++ v) = deliveredBeforeEnd (u ++ v)) := by
  simp only [deliveredBeforeEnd_eq]
  refine ⟨⟨?_, sourceRecords_append⟩, ?_, ?_, ?_⟩
  · intro hlaw hmerges
    obtain ⟨before, r, r', after, hu, huv, hne⟩ := exists_records_of_merges hmerges
    rw [hlaw, hu, List.append_assoc] at huv
    exact hne (List.cons.inj (List.append_cancel_left huv)).1.symm
  · by_cases hmerges : Merges u v
    · obtain ⟨before, r, r', after, hu, huv, -⟩ := exists_records_of_merges hmerges
      rw [hu, huv, List.dropLast_concat]
      exact List.prefix_append _ _
    · rw [sourceRecords_append hmerges]
      exact (List.dropLast_prefix _).trans (List.prefix_append _ _)
  · exact fun gap hne hgap => sourceRecords_gap u v hne hgap
  · intro blank hblank hjoint
    have hapart : ¬Merges u v := by
      rcases hblank with rfl | rfl
      · exact not_merges_of_blank (.inl rfl) hjoint
      · exact not_merges_of_blank (.inr rfl) hjoint
    exact ⟨hapart, fun n => sourceRecords_insert_spaces hapart n⟩

/-- The condition is on the last lexeme and not on the last character: the second of two less
signs goes on, the greater sign of an inequality does not. -/
theorem deliveredBeforeEnd_append_symbols :
    deliveredBeforeEnd (Element.ofText "<<".toList ++ Element.ofText ">".toList) ≠
        deliveredBeforeEnd (Element.ofText "<<".toList) ++
          (deliveredBeforeEnd (Element.ofText ">".toList)).map (Record.shift 0) ∧
      deliveredBeforeEnd (Element.ofText "<>".toList ++ Element.ofText "=".toList) =
        deliveredBeforeEnd (Element.ofText "<>".toList) ++
          (deliveredBeforeEnd (Element.ofText "=".toList)).map (Record.shift 0) := by
  constructor
  · intro hlaw
    exact (deliveredBeforeEnd_append _ _).1.mp hlaw (by decide +kernel)
  · exact (deliveredBeforeEnd_append _ _).1.mpr (by decide +kernel)

end PascalScan
