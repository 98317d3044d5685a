import PascalScan.Proofs.Pipeline
import PascalScan.Proofs.Recovery
import PascalScan.Proofs.LineEnds

/-!
# What trimming does to a scan

The scanning service trims a source before it scans it. Most blanks are no spaces to the scanner: it
takes a line feed for an end of a line, and complains about any other. This file says how the records
of a source and those of the trimmed source are related.

Shape of the argument: no lexeme goes on with a blank, and one with a blank in it goes on with
nothing. So nothing merges where the blanks are cut off (`not_merges_of_isBlank`), and the records of
the whole are those of its three parts (`sourceRecords_between`).
-/

namespace PascalScan

open Text (isBlank AllBlank)

/-! ## Blanks around a source -/

/-- The only blanks in the alphabet are the space and the line feed. -/
theorem inAlphabet_of_isBlank {c : Char} (h : isBlank c = true) :
    inAlphabet c = true ↔ c = ' ' ∨ c = '\n' := by
  rw [inAlphabet, isAlphanum_of_isBlank h, Bool.false_or, List.contains_iff_mem]
  constructor
  · intro hmem
    have hall : " =-*();<>:\n".toList.all fun d => !isBlank d || (d == ' ' || d == '\n') := by
      decide
    simpa [h] using List.all_eq_true.mp hall c hmem
  · rintro (rfl | rfl)
    · decide
    · decide

theorem not_merges_of_blank_left {w : List Char} (h : AllBlank w) (v : List Element) :
    ¬Merges (Element.ofText w) v := by
  rcases List.eq_nil_or_concat w with rfl | ⟨front, c, rfl⟩
  · rintro ⟨-, l, e, hl, -⟩
    rw [Element.ofText_nil, (Lexeme.cut_lexemes []).eq_nil] at hl
    cases hl
  · refine not_merges_of_isBlank (h c (by simp)) (.inl ?_)
    rw [List.concat_eq_append, Element.ofText_append]
    exact List.getLast?_concat

theorem not_merges_of_blank_right (u : List Element) {w : List Char} (h : AllBlank w) :
    ¬Merges u (Element.ofText w) := by
  cases w with
  | nil =>
      rintro ⟨-, l, e, -, he, -⟩
      cases he
  | cons c cs => exact not_merges_of_isBlank (h c (by simp)) (.inr rfl)

/-- A text between blanks makes its own records, after those of the blanks in front and before
those of the blanks at the end. -/
theorem sourceRecords_between {before after : List Char} (hbefore : AllBlank before)
    (hafter : AllBlank after) (cs : List Char) :
    sourceRecords (Element.ofText (before ++ cs ++ after)) =
      sourceRecords (Element.ofText before) ++
        (sourceRecords (Element.ofText cs)).map (Record.shift (before.count '\n')) ++
        (sourceRecords (Element.ofText after)).map (Record.shift ((before ++ cs).count '\n')) := by
  rw [Element.ofText_append, sourceRecords_append (not_merges_of_blank_right _ hafter),
    Element.count_ofText, Element.ofText_append,
    sourceRecords_append (not_merges_of_blank_left hbefore _), Element.count_ofText]

theorem diagnostics_map_shift (k : Int) (rs : List Record) :
    Record.diagnostics (rs.map (Record.shift k)) =
      (Record.diagnostics rs).map (Diagnostic.shift k) := by
  induction rs with
  | nil => rfl
  | cons r rs ih =>
      cases r with
      | token t => exact ih
      | diagnostic d => exact congrArg (d.shift k :: ·) ih

theorem success_scan_iff (text : List Char) :
    (scan text).success = true ↔
      Record.diagnostics (sourceRecords (Element.ofText text)) = [] := by
  rw [scan_eq, deliveredBeforeEnd_eq]
  exact List.isEmpty_iff

/-- A scan succeeds if it does so on all three parts. -/
theorem success_between {before after : List Char} (hbefore : AllBlank before)
    (hafter : AllBlank after) (cs : List Char) :
    (scan (before ++ cs ++ after)).success = true ↔
      (scan before).success = true ∧ (scan cs).success = true ∧ (scan after).success = true := by
  simp only [success_scan_iff, sourceRecords_between hbefore hafter, Record.diagnostics_append,
    diagnostics_map_shift, List.append_eq_nil_iff, List.map_eq_nil_iff, and_assoc]

/-- Blanks are scanned without a complaint if there are only spaces and line feeds. -/
theorem success_of_allBlank {w : List Char} (h : AllBlank w) :
    (scan w).success = true ↔ ∀ c ∈ w, c = ' ' ∨ c = '\n' := by
  have hcolon : loneColonCount w = 0 := by
    have hmem : ':' ∉ w := fun hmem => absurd (h ':' hmem) (by decide)
    rw [← List.append_nil w, loneColonCount_append hmem]
    rfl
  have hrun : longRunCount w = 0 := by
    have halpha : ∀ c ∈ w, c.isAlpha = false := fun c hc =>
      (Bool.or_eq_false_iff.mp (isAlphanum_of_isBlank (h c hc))).1
    rw [← List.append_nil w, longRunCount_append halpha]
    rfl
  have hlength := length_diagnostics_scan w
  rw [countP_badCharacter, countP_misusedColon, countP_wordTooLong, hcolon, hrun] at hlength
  rw [success_scan_iff, ← diagnostics_scan, ← List.length_eq_zero_iff, hlength, Nat.add_zero,
    foreignCount, List.countP_eq_zero]
  refine forall₂_congr fun c hc => ?_
  rw [← inAlphabet_of_isBlank (h c hc)]
  simp

/-! ## The scanning service -/

/-- The reply of the scanning service to a source: the records of the trimmed source. -/
theorem Service.Scanning.handle_trimmed (source : String) :
    let rs := deliveredBeforeEnd (Element.ofText (Text.trim source.toList))
    let tokens : List Token := Record.tokens rs ++ [.endOfFile]
    let diagnostics := Record.diagnostics rs
    (handle ⟨"POST", "/lex", some (Json.write (.object (requestFields source)))⟩).1 =
      .ok ⟨200, .json (.object [("ok", .bool true), ("data", .object
        [("tokens", .array (tokens.map fun t => .object t.toFields)),
          ("errors", .array (diagnostics.map fun d => .object d.toFields)),
          ("success", .bool diagnostics.isEmpty)])])⟩ := by
  intro rs tokens diagnostics
  have hpath : Target.path? "/lex" = .ok (some "/lex".toList) := by
    cbv
  rw [handle_lex hpath (readBody_write source), answer, scanTrimmed, scan_eq]
  rfl

/-- **What trimming does to a scan.** A text is the blanks in front of it, the trimmed text and the
blanks at its end, and its records are those of the three parts, each as many lines further down as
the parts before it have. The scanning service replies with the records of the trimmed text, whose
lines are counted from its own first one, and the mark for the end. The text as a whole has no
diagnostic exactly if the reply tells of none and there are only spaces and line feeds around the
trimmed text. -/
theorem scan_trim (source : String) :
    let text := source.toList
    let before := Text.leadingBlanks text
    let inner := Text.trim text
    let after := Text.trailingBlanks text
    let rs := deliveredBeforeEnd (Element.ofText inner)
    let tokens : List Token := Record.tokens rs ++ [⟨.endOfFile, "EOF"⟩]
    let diagnostics := Record.diagnostics rs
    text = before ++ inner ++ after ∧ AllBlank before ∧ AllBlank after ∧
    (inner = [] ↔ before = text) ∧
    deliveredBeforeEnd (Element.ofText text) =
      deliveredBeforeEnd (Element.ofText before) ++ rs.map (Record.shift (before.count '\n')) ++
        (deliveredBeforeEnd (Element.ofText after)).map
          (Record.shift ((before ++ inner).count '\n')) ∧
    (Service.Scanning.handle
        ⟨"POST", "/lex", some (Json.write (.object (requestFields source)))⟩).1 =
      .ok ⟨200, .json (.object [("ok", .bool true), ("data", .object
        [("tokens", .array (tokens.map fun t => .object t.toFields)),
          ("errors", .array (diagnostics.map fun d => .object d.toFields)),
          ("success", .bool diagnostics.isEmpty)])])⟩ ∧
    ((scan text).success = true ↔
      diagnostics.isEmpty = true ∧ ∀ c ∈ before ++ after, c = ' ' ∨ c = '\n') := by
  intro text before inner after rs tokens diagnostics
  have htext : before ++ inner ++ after = text := Text.leadingBlanks_append_trim text
  have hbefore : AllBlank before := Text.allBlank_leadingBlanks text
  have hafter : AllBlank after := Text.allBlank_trailingBlanks text
  refine ⟨htext.symm, hbefore, hafter, ?_, ?_, ?_, ?_⟩
  · exact Text.trim_eq_nil_iff text
  · have hrecords := sourceRecords_between hbefore hafter inner
    rw [htext] at hrecords
    simp only [rs, deliveredBeforeEnd_eq]
    exact hrecords
  · exact Service.Scanning.handle_trimmed source
  · have hsuccess := success_between hbefore hafter inner
    rw [htext, success_of_allBlank hbefore, success_of_allBlank hafter] at hsuccess
    have hinner : (scan inner).success = diagnostics.isEmpty := by
      rw [scan_eq]
    rw [hsuccess, hinner, List.forall_mem_append]
    tauto

end PascalScan
