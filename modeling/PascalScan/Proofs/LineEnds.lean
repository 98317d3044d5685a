import PascalScan.Proofs.DiagnosticCount
import PascalScan.Layout
import PascalScan.Text.LineEnd

/-!
# Line ends and the blanks around a text

A source that comes from a file has had its line ends made one before it is trimmed. This file says
when that makes a difference to what is scanned, and how the difference shows.

* `unifyLineEnds_eq` gives the line ends by two replacements, one after the other.
* `trim_unifyLineEnds` says that carriage returns in the blanks around a text do not count.
* `Layout.mem_diagnosticText_scan` says that any other is seen in the diagnostic file.
-/

namespace PascalScan

namespace Text

/-! ## Two replacements -/

/-- A text with every occurrence of an old piece replaced by a new one. The occurrences are found
from the left and do not overlap; the old piece is not empty. -/
def replaceAll (old new : List Char) : List Char → List Char
  | [] => []
  | c :: cs =>
      if old.isPrefixOf (c :: cs) then new ++ replaceAll old new (cs.drop (old.length - 1))
      else c :: replaceAll old new cs
termination_by cs => cs.length
decreasing_by
  · rw [List.length_drop, List.length_cons]
    omega
  · exact Nat.lt_succ_self _

theorem replaceAll_append (c : Char) (old new rest : List Char) :
    replaceAll (c :: old) new (c :: (old ++ rest)) = new ++ replaceAll (c :: old) new rest := by
  have hprefix : (c :: old).isPrefixOf (c :: (old ++ rest)) = true := by
    simp
  rw [replaceAll, if_pos hprefix, List.length_cons, Nat.add_sub_cancel, List.drop_left]

theorem replaceAll_cons {old : List Char} {c : Char} {cs : List Char}
    (h : ¬old <+: c :: cs) (new : List Char) :
    replaceAll old new (c :: cs) = c :: replaceAll old new cs := by
  have hprefix : ¬old.isPrefixOf (c :: cs) = true := fun hp => h (List.isPrefixOf_iff_prefix.mp hp)
  rw [replaceAll, if_neg hprefix]

theorem unifyLineEnds_pair (cs : List Char) :
    unifyLineEnds ('\r' :: '\n' :: cs) = '\n' :: unifyLineEnds cs :=
  rfl

theorem unifyLineEnds_cons {c : Char} {cs : List Char}
    (h : c = '\r' → cs.head? ≠ some '\n') :
    unifyLineEnds (c :: cs) = (if c = '\r' then '\n' else c) :: unifyLineEnds cs := by
  apply unifyLineEnds.eq_3
  intro tail hc hcs
  exact h hc (by rw [hcs]; rfl)

/-- **Line ends are made one by two replacements**: first of each carriage return with a line feed
behind it, then of each that is left. -/
theorem unifyLineEnds_eq (cs : List Char) :
    unifyLineEnds cs = replaceAll ['\r'] ['\n'] (replaceAll ['\r', '\n'] ['\n'] cs) := by
  fun_induction unifyLineEnds cs with
  | case1 => simp [replaceAll]
  | case2 cs ih =>
      have hpair := replaceAll_append '\r' ['\n'] ['\n'] cs
      have hsingle : ¬['\r'] <+: '\n' :: replaceAll ['\r', '\n'] ['\n'] cs := by
        simp
      rw [List.singleton_append] at hpair
      rw [hpair, List.singleton_append, replaceAll_cons hsingle, ih]
  | case3 c cs hpair ih =>
      have hleft : ¬['\r', '\n'] <+: c :: cs := by
        rintro ⟨tail, htail⟩
        obtain ⟨hc, hcs⟩ := List.cons.inj htail
        exact hpair tail hc.symm hcs.symm
      rw [replaceAll_cons hleft, ih]
      by_cases hc : c = '\r'
      · have hsingle := replaceAll_append '\r' [] ['\n'] (replaceAll ['\r', '\n'] ['\n'] cs)
        rw [List.nil_append] at hsingle
        rw [if_pos hc, hc, hsingle, List.singleton_append]
      · have hsingle : ¬['\r'] <+: c :: replaceAll ['\r', '\n'] ['\n'] cs := by
          simpa using fun h : '\r' = c => hc h.symm
        rw [if_neg hc, replaceAll_cons hsingle]

/-! ## Line ends in pieces of a text -/

theorem return_not_mem_unifyLineEnds (cs : List Char) : '\r' ∉ unifyLineEnds cs := by
  fun_induction unifyLineEnds cs with
  | case1 => exact List.not_mem_nil
  | case2 cs ih =>
      rw [List.mem_cons, not_or]
      exact ⟨by decide, ih⟩
  | case3 c cs hpair ih =>
      rw [List.mem_cons, not_or]
      refine ⟨?_, ih⟩
      by_cases hc : c = '\r'
      · rw [if_pos hc]
        decide
      · rw [if_neg hc]
        exact fun h => hc h.symm

/-- A piece without carriage returns stays as it is. -/
theorem unifyLineEnds_append_of_not_mem {cs : List Char} (h : '\r' ∉ cs) (rest : List Char) :
    unifyLineEnds (cs ++ rest) = cs ++ unifyLineEnds rest := by
  induction cs with
  | nil => rfl
  | cons c cs ih =>
      rw [List.mem_cons, not_or] at h
      obtain ⟨hc, hcs⟩ := h
      have hne : c ≠ '\r' := fun heq => hc heq.symm
      rw [List.cons_append, unifyLineEnds_cons fun heq => absurd heq hne, if_neg hne, ih hcs]
      rfl

/-- A text may be taken apart anywhere but before a line feed. -/
theorem unifyLineEnds_append {rest : List Char} (h : rest.head? ≠ some '\n') (cs : List Char) :
    unifyLineEnds (cs ++ rest) = unifyLineEnds cs ++ unifyLineEnds rest := by
  fun_induction unifyLineEnds cs with
  | case1 => rfl
  | case2 cs ih =>
      change unifyLineEnds ('\r' :: '\n' :: (cs ++ rest)) = _
      rw [unifyLineEnds_pair, ih, List.cons_append]
  | case3 c cs hpair ih =>
      have hfront : c = '\r' → (cs ++ rest).head? ≠ some '\n' := by
        intro hc
        cases cs with
        | nil => exact h
        | cons d ds =>
            intro hd
            exact hpair ds hc (congrArg (· :: ds) (Option.some.inj hd))
      rw [List.cons_append, unifyLineEnds_cons hfront, ih, List.cons_append]

/-! ## Trimming -/

/-- Nothing but blanks. -/
def AllBlank (cs : List Char) : Prop := ∀ c ∈ cs, isBlank c = true

theorem AllBlank.unifyLineEnds {cs : List Char} (h : AllBlank cs) :
    AllBlank (unifyLineEnds cs) := by
  fun_induction Text.unifyLineEnds cs with
  | case1 => exact h
  | case2 cs ih =>
      have hcs : AllBlank cs := fun c hc => h c (List.mem_cons_of_mem _ (List.mem_cons_of_mem _ hc))
      exact List.forall_mem_cons.mpr ⟨by decide, ih hcs⟩
  | case3 c cs hpair ih =>
      obtain ⟨hc, hcs⟩ := List.forall_mem_cons.mp h
      refine List.forall_mem_cons.mpr ⟨?_, ih hcs⟩
      by_cases heq : c = '\r'
      · rw [if_pos heq]
        decide
      · rw [if_neg heq]
        exact hc

/-- The blanks in front of a text. -/
def leadingBlanks (cs : List Char) : List Char := cs.takeWhile isBlank

/-- The blanks at the end of a text, other than those in front of it. -/
def trailingBlanks (cs : List Char) : List Char := (cs.dropWhile isBlank).rtakeWhile isBlank

theorem allBlank_leadingBlanks (cs : List Char) : AllBlank (leadingBlanks cs) := fun _ hc =>
  List.mem_takeWhile_imp hc

theorem allBlank_trailingBlanks (cs : List Char) : AllBlank (trailingBlanks cs) := fun _ hc =>
  List.mem_rtakeWhile_imp hc

/-- Trimming takes the blanks at the two ends, and no more. -/
theorem leadingBlanks_append_trim (cs : List Char) :
    leadingBlanks cs ++ trim cs ++ trailingBlanks cs = cs := by
  have hback : trim cs ++ trailingBlanks cs = cs.dropWhile isBlank :=
    List.rdropWhile_append_rtakeWhile
  rw [List.append_assoc, hback]
  exact List.takeWhile_append_dropWhile

/-- Nothing is left of a text exactly if all of it is blanks in front. -/
theorem trim_eq_nil_iff (cs : List Char) : trim cs = [] ↔ leadingBlanks cs = cs := by
  have hcs := leadingBlanks_append_trim cs
  constructor
  · intro h
    have hblank : ∀ c ∈ cs, isBlank c = true := by
      rw [← hcs, h, List.append_nil]
      exact List.forall_mem_append.mpr ⟨allBlank_leadingBlanks cs, allBlank_trailingBlanks cs⟩
    exact List.takeWhile_eq_self_iff.mpr hblank
  · intro h
    rw [h, List.append_assoc] at hcs
    exact (List.append_eq_nil_iff.mp (List.append_right_eq_self.mp hcs)).1

theorem exists_trim (cs : List Char) :
    ∃ before after, cs = before ++ trim cs ++ after ∧ AllBlank before ∧ AllBlank after :=
  ⟨leadingBlanks cs, trailingBlanks cs, (leadingBlanks_append_trim cs).symm,
    allBlank_leadingBlanks cs, allBlank_trailingBlanks cs⟩

theorem mem_of_mem_trim {cs : List Char} {c : Char} (h : c ∈ trim cs) : c ∈ cs := by
  obtain ⟨before, after, hcs, -, -⟩ := exists_trim cs
  rw [hcs, List.append_assoc]
  exact List.mem_append_right _ (List.mem_append_left _ h)

/-- A trimmed text has no blank in front. -/
theorem head?_trim {cs : List Char} {c : Char} (h : (trim cs).head? = some c) :
    isBlank c = false := by
  have hprefix : trim cs <+: cs.dropWhile isBlank := List.rdropWhile_prefix isBlank _
  have hfront := List.head?_dropWhile_not isBlank cs
  obtain ⟨tail, htail⟩ := List.head?_eq_some_iff.mp h
  obtain ⟨after, hafter⟩ := hprefix
  rw [← hafter, htail] at hfront
  exact hfront

theorem dropEndWhile_append {after : List Char} (h : AllBlank after) (cs : List Char) :
    dropEndWhile isBlank (cs ++ after) = dropEndWhile isBlank cs := by
  unfold dropEndWhile
  rw [List.reverse_append, List.dropWhile_append_of_pos]
  intro c hc
  exact h c (List.mem_reverse.mp hc)

theorem trim_append {before after : List Char} (hbefore : AllBlank before)
    (hafter : AllBlank after) (cs : List Char) : trim (before ++ cs ++ after) = trim cs := by
  unfold trim trimWhile
  rw [List.append_assoc, List.dropWhile_append_of_pos hbefore, List.dropWhile_append]
  by_cases hempty : cs.dropWhile isBlank = []
  · have hdrop : after.dropWhile isBlank = [] := List.dropWhile_eq_nil_iff.mpr hafter
    rw [hempty, hdrop]
    rfl
  · rw [if_neg (by simpa using hempty), dropEndWhile_append hafter]

/-- A trimmed text has nothing left to trim. -/
theorem trim_trim (cs : List Char) : trim (trim cs) = trim cs := by
  obtain ⟨before, after, hcs, hbefore, hafter⟩ := exists_trim cs
  have h := trim_append hbefore hafter (trim cs)
  rw [← hcs] at h
  exact h.symm

/-- **Carriage returns around a text do not count**: if there is none in the text, then trimming
comes to the same before and after line ends are made one. -/
theorem trim_unifyLineEnds {cs : List Char} (h : '\r' ∉ trim cs) :
    trim (unifyLineEnds cs) = trim cs := by
  obtain ⟨before, after, hcs, hbefore, hafter⟩ := exists_trim cs
  by_cases hempty : trim cs = []
  · have hblank : AllBlank cs := by
      rw [hcs, hempty, List.append_nil]
      exact List.forall_mem_append.mpr ⟨hbefore, hafter⟩
    have hunified := trim_append hblank.unifyLineEnds (fun _ h => absurd h List.not_mem_nil) []
    rw [List.append_nil, List.append_nil] at hunified
    rw [hunified, hempty]
    rfl
  · have hhead : (trim cs ++ after).head? ≠ some '\n' := by
      rw [List.head?_append_of_ne_nil _ hempty]
      intro hhead
      exact absurd (head?_trim hhead) (by decide)
    have hunified : unifyLineEnds cs =
        unifyLineEnds before ++ trim cs ++ unifyLineEnds after := by
      conv_lhs => rw [hcs]
      rw [List.append_assoc, unifyLineEnds_append hhead, unifyLineEnds_append_of_not_mem h,
        List.append_assoc]
    rw [hunified, trim_append hbefore.unifyLineEnds hafter.unifyLineEnds, trim_trim]

end Text

/-! ## Characters that diagnostics quote -/

/-- A character that neither a lexeme without a complaint nor the fixed part of a message has. -/
def Telling (c : Char) : Prop := inAlphabet c = false ∧ c ≠ '\''

theorem Telling.not_mem {c : Char} (h : Telling c) {cs : List Char}
    (hcs : cs.all (fun d => inAlphabet d || d == '\'') = true) : c ∉ cs := by
  intro hmem
  have hc := List.all_eq_true.mp hcs c hmem
  rw [h.1, Bool.false_or, beq_iff_eq] at hc
  exact h.2 hc

theorem Telling.ne {c : Char} (h : Telling c) {d : Char}
    (hd : (inAlphabet d || d == '\'') = true) : c ≠ d := by
  have hmem : c ∉ [d] := h.not_mem (by rw [List.all_cons, hd]; rfl)
  exact fun heq => hmem (heq ▸ List.mem_singleton_self d)

namespace Complaint

theorem mem_text {c : Char} (h : Telling c) (k : Complaint) :
    c ∈ k.text.toList ↔ c ∈ k.subject := by
  cases k with
  | wordTooLong word =>
      have hfront : c ∉ "Identifier name ".toList := h.not_mem (by decide)
      have hback : c ∉ '\'' :: " exceeds 16 characters".toList := h.not_mem (by decide)
      rw [toList_text_wordTooLong, List.mem_append, or_iff_right hfront, List.mem_cons,
        or_iff_right h.2, List.mem_append, or_iff_left hback]
      rfl
  | misusedColon =>
      have htext : c ∉ "Misused colon".toList := h.not_mem (by decide)
      have hcolon : c ∉ [':'] := h.not_mem (by decide)
      exact iff_of_false htext hcolon
  | badCharacter element =>
      have hfront : c ∉ "Invalid character ".toList := h.not_mem (by decide)
      have hback : c ∉ ['\''] := h.not_mem (by decide)
      rw [toList_text_badCharacter, List.mem_append, or_iff_right hfront, List.mem_cons,
        or_iff_right h.2, List.mem_append, or_iff_left hback]
      rfl

theorem mem_msg_onLine {c : Char} (h : Telling c) (k : Complaint) (line : Int) :
    c ∈ (k.onLine line).msg.toList ↔ c ∈ k.subject := by
  have hdigit : c.isDigit = false := by
    by_contra hd
    rw [Bool.not_eq_false] at hd
    exact absurd h.1 (by simp [inAlphabet, Char.isAlphanum, hd])
  have hlead : c ∉ ("Line " ++ toString line ++ ": ").toList := by
    simp only [String.toList_append, List.mem_append, not_or]
    refine ⟨⟨h.not_mem (by decide), not_mem_toString hdigit (h.ne (by decide))⟩,
      h.not_mem (by decide)⟩
  rw [onLine, Diagnostic.msg_onLine, List.mem_append, or_iff_right hlead]
  exact mem_text h k

end Complaint

namespace Lexeme

theorem flatten_elements_of_complaint {l : Lexeme} {k : Complaint} (h : l.complaint? = some k) :
    l.elements.flatten = k.subject := by
  have hrecord := diagnostic?_record l 1
  rw [h] at hrecord
  cases hr : l.record 1 with
  | token t =>
      rw [hr] at hrecord
      cases hrecord
  | diagnostic d =>
      rw [hr] at hrecord
      obtain rfl : d = k.onLine 1 := Option.some.inj hrecord
      rw [← text_record l 1, hr, Complaint.text_onLine]

/-- A lexeme with a telling character is complained about. -/
theorem exists_complaint {c : Char} (h : Telling c) {l : Lexeme} (hl : l.Proper)
    (hmem : c ∈ l.elements.flatten) : ∃ k, l.complaint? = some k := by
  have hall : ∀ cs : List Char, c ∈ (Element.ofText cs).flatten →
      ¬∀ d ∈ cs, d.isAlphanum = true := by
    intro cs hcs hletters
    rw [Element.flatten_ofText] at hcs
    exact absurd h.1 (by simp [inAlphabet, hletters c hcs])
  cases l with
  | word letters => exact absurd (IsWord.isAlphanum hl) (hall letters hmem)
  | number digits =>
      refine absurd (fun d hd => ?_) (hall digits hmem)
      simp [Char.isAlphanum, hl.2 d hd]
  | symbol s =>
      rw [elements, Element.flatten_ofText] at hmem
      exact absurd hmem (h.not_mem (by cases s <;> decide))
  | colon => exact ⟨_, rfl⟩
  | lineBreak => exact absurd hmem (h.not_mem (by decide))
  | stray e => exact ⟨_, rfl⟩

/-- What is in a source and is no space is in one of its lexemes. -/
theorem mem_flatten_lexemes {c : Char} (h : c ≠ ' ') (source : List Element) :
    c ∈ source.flatten ↔ ∃ l ∈ lexemes source, c ∈ l.elements.flatten := by
  have hspaces : ∀ n, c ∉ (Element.spaces n).flatten := by
    intro n hmem
    obtain ⟨e, he, hc⟩ := List.mem_flatten.mp hmem
    obtain rfl := (List.mem_replicate.mp he).2
    exact h (List.mem_singleton.mp hc)
  have hcut := cut_lexemes source
  generalize lexemes source = ls at hcut ⊢
  induction hcut with
  | spaces n => simp [hspaces n]
  | @lexeme n l rest ls _ _ _ ih =>
      rw [List.flatten_append, List.flatten_append, List.mem_append, List.mem_append]
      simp [hspaces n, ih]

/-- The diagnostic of a lexeme has its telling characters. -/
theorem mem_msg_record {c : Char} (h : Telling c) {l : Lexeme} (hl : l.Proper) (line : Int) :
    (∃ d, (l.record line).diagnostic? = some d ∧ c ∈ d.msg.toList) ↔ c ∈ l.elements.flatten := by
  rw [diagnostic?_record]
  cases hk : l.complaint? with
  | none =>
      have hnot : c ∉ l.elements.flatten := by
        intro hmem
        obtain ⟨k, hsome⟩ := exists_complaint h hl hmem
        rw [hk] at hsome
        cases hsome
      exact iff_of_false (by rintro ⟨d, hd, -⟩; cases hd) hnot
  | some k =>
      rw [flatten_elements_of_complaint hk, ← Complaint.mem_msg_onLine h k line]
      constructor
      · rintro ⟨d, hd, hc⟩
        obtain rfl := Option.some.inj hd
        exact hc
      · intro hc
        exact ⟨_, rfl, hc⟩

theorem mem_msg_records {c : Char} (h : Telling c) {ls : List Lexeme} (hls : ∀ l ∈ ls, l.Proper)
    (line : Int) :
    (∃ d ∈ Record.diagnostics (records line ls), c ∈ d.msg.toList) ↔
      ∃ l ∈ ls, c ∈ l.elements.flatten := by
  induction ls generalizing line with
  | nil => simp [records, Record.diagnostics]
  | cons l ls ih =>
      obtain ⟨hl, hrest⟩ := List.forall_mem_cons.mp hls
      rw [List.exists_mem_cons_iff, ← mem_msg_record h hl line,
        ← ih hrest (line + l.lineBreaks)]
      cases hd : (l.record line).diagnostic? with
      | none => simp [records, Record.diagnostics, hd]
      | some d => simp [records, Record.diagnostics, hd]

end Lexeme

namespace Layout

theorem mem_diagnosticText {c : Char} (h : c ≠ '\n') (ds : List Diagnostic) :
    c ∈ (diagnosticText ds).toList ↔ ∃ d ∈ ds, c ∈ d.msg.toList := by
  induction ds with
  | nil => simp [diagnosticText]
  | cons d ds ih =>
      unfold diagnosticText at ih ⊢
      rw [List.map_cons, String.join_cons, String.toList_append, List.mem_append, ih]
      simp [diagnosticLine, h]

/-- **Telling characters are told**: a diagnostic file has those that the scanned text has. -/
theorem mem_diagnosticText_scan {c : Char} (h : Telling c) (text : List Char) :
    c ∈ (diagnosticText (scan text).diagnostics).toList ↔ c ∈ text := by
  rw [mem_diagnosticText (h.ne (by decide)), diagnostics_scan, sourceRecords,
    Lexeme.mem_msg_records h (Lexeme.cut_lexemes _).proper,
    ← Lexeme.mem_flatten_lexemes (h.ne (by decide)), Element.flatten_ofText]

/-- A text with a carriage return in it has other diagnostics than one without. -/
theorem diagnosticText_scan_ne {text other : List Char} (htext : '\r' ∈ text)
    (hother : '\r' ∉ other) :
    diagnosticText (scan other).diagnostics ≠ diagnosticText (scan text).diagnostics := by
  have htelling : Telling '\r' := ⟨by decide, by decide⟩
  intro heq
  apply hother
  rw [← mem_diagnosticText_scan htelling, heq, mem_diagnosticText_scan htelling]
  exact htext

end Layout

end PascalScan
