import PascalScan.Proofs.DiagnosticCount

/-!
# The text of a source in its records

A scan loses nothing of a text but its spaces, in whatever way the text is wrong, and a fault has no
effect beyond its own piece of the text.

* `Cut.flatMap_text` puts the texts of the records together again.
* `replacePieces` goes through a text along its records and changes the piece of each. With a space
  for each piece that is complained about the text is `mended`, and `Spaced.mended` says that the
  other pieces stay apart.
* `scan_mended` compares the two scans.
-/

namespace PascalScan

/-! ## The texts of all records -/

/-- However a source is cut, the texts of the records, put together, are its elements without the
spaces. -/
theorem Lexeme.Cut.flatMap_text {source : List Element} {ls : List Lexeme} (h : Cut source ls)
    (line : Int) :
    (records line ls).flatMap Record.text = (source.filter fun e => !e.isSpace).flatten := by
  induction h generalizing line with
  | spaces n => simp [records, Element.spaces]
  | @lexeme n l rest ls hl _ _ ih =>
      have hspaces : (Element.spaces n).filter (fun e => !e.isSpace) = [] := by
        simp [Element.spaces]
      have helements : l.elements.filter (fun e => !e.isSpace) = l.elements := by
        refine List.filter_eq_self.mpr fun e he => ?_
        rw [Element.isSpace_eq_false_iff.mpr (ne_space_of_mem_elements hl he)]
        rfl
      rw [records, List.flatMap_cons, ih, text_record, List.filter_append, List.filter_append,
        hspaces, helements, List.nil_append, List.flatten_append]

/-- No record of a text is the mark for its end. -/
theorem kind_ne_endOfFile {text : List Char} {t : Token}
    (h : .token t ∈ sourceRecords (Element.ofText text)) : t.kind ≠ .endOfFile := by
  intro hkind
  have hscan : t.Scannable := (wellFormed_sourceRecords text).token t h
  rw [Token.Scannable, hkind] at hscan
  exact hscan

/-- **Nothing but spaces is lost.** Put together, the texts of all records are the text without its
spaces, and each text is read from its record alone. There are as many ends of lines among the
records as in the text. The mark for the end comes last, and only there. -/
theorem delivered_text (text : List Char) :
    let rs := delivered (Element.ofText text)
    (deliveredBeforeEnd (Element.ofText text)).flatMap Record.text = text.filter (· != ' ') ∧
    ((Record.tokens rs).countP fun t => t.kind == .endOfLine) = text.count '\n' ∧
    rs.getLast? = some (.token ⟨.endOfFile, "EOF"⟩) ∧
    ((Record.tokens rs).countP fun t => t.kind == .endOfFile) = 1 := by
  intro rs
  have hrs : rs = sourceRecords (Element.ofText text) ++ [.endOfFile] := delivered_eq _
  rw [deliveredBeforeEnd_eq, hrs]
  refine ⟨?_, ?_, ?_, ?_⟩
  · have hspace : (fun e => !Element.isSpace e) ∘ (fun c => [c]) = (· != ' ') := by
      funext c
      simp [Element.isSpace, bne]
    rw [sourceRecords, (Lexeme.cut_lexemes _).flatMap_text, Element.ofText, List.filter_map, hspace]
    exact Element.flatten_ofText _
  · change lineEnds (sourceRecords (Element.ofText text) ++ [.endOfFile]) = _
    rw [lineEnds_append, sourceRecords, lineEnds_records, Lexeme.count_lineBreak,
      Element.count_ofText]
    rfl
  · exact List.getLast?_concat
  · rw [Record.tokens_append, List.countP_append]
    have hnone : (Record.tokens (sourceRecords (Element.ofText text))).countP
        (fun t => t.kind == .endOfFile) = 0 := by
      refine List.countP_eq_zero.mpr fun t ht => ?_
      obtain ⟨r, hr, htoken⟩ := List.mem_filterMap.mp ht
      cases r with
      | token u =>
          obtain rfl : u = t := Option.some.inj htoken
          simpa using kind_ne_endOfFile hr
      | diagnostic d => cases htoken
    rw [hnone]
    rfl

/-! ## Pieces of a text -/

/-- A text gone through along its records: the spaces before the piece of each record stay, and the
piece is replaced. -/
def replacePieces (piece : Record → List Char) : List Record → List Char → List Char
  | [], text => text
  | r :: rs, text =>
      let gap := text.takeWhile (· == ' ')
      gap ++ (piece r ++ replacePieces piece rs (text.drop (gap.length + r.text.length)))

/-- The text of a token, and a space for any diagnostic. -/
def Record.mendedText (r : Record) : List Char := if r.isToken then r.text else [' ']

/-- A text with one space for each piece that its scan complains about. -/
def mended (text : List Char) : List Char :=
  replacePieces Record.mendedText (deliveredBeforeEnd (Element.ofText text)) text

theorem Record.Scannable.exists_text {line : Int} {r : Record} (h : r.Scannable line) :
    ∃ c cs, r.text = c :: cs ∧ c ≠ ' ' := by
  obtain ⟨l, hl, rfl⟩ := Lexeme.scannable_iff.mp h
  have helements := hl.elements_eq line
  cases htext : (l.record line).text with
  | nil =>
      rw [htext] at helements
      exact absurd helements (Lexeme.elements_ne_nil hl.1)
  | cons c cs =>
      refine ⟨c, cs, rfl, ?_⟩
      rintro rfl
      rw [htext] at helements
      exact Lexeme.ne_space_of_mem_elements hl.1 (by simp [helements]) rfl

theorem replacePieces_cons (piece : Record → List Char) {line : Int} {r : Record}
    (h : r.Scannable line) (n : Nat) (rs : List Record) (rest : List Char) :
    replacePieces piece (r :: rs) (List.replicate n ' ' ++ (r.text ++ rest)) =
      List.replicate n ' ' ++ (piece r ++ replacePieces piece rs rest) := by
  obtain ⟨c, cs, htext, hc⟩ := h.exists_text
  have hgap : (List.replicate n ' ' ++ (r.text ++ rest)).takeWhile (· == ' ') =
      List.replicate n ' ' := by
    rw [htext, List.takeWhile_append_of_pos (by simp), List.cons_append,
      List.takeWhile_cons_of_neg (by simpa using hc), List.append_nil]
  have hrest : (List.replicate n ' ' ++ (r.text ++ rest)).drop
      ((List.replicate n ' ').length + r.text.length) = rest := by
    rw [← List.append_assoc, ← List.length_append, List.drop_left]
  rw [replacePieces]
  simp only [hgap, hrest]

/-- The pieces are where they are looked for: with its own text for each, a text stays as it is. -/
theorem Spaced.replacePieces_text {line : Int} {rs : List Record} {text : List Char}
    (h : Spaced rs text) (hrs : WellFormed line rs) :
    replacePieces Record.text rs text = text := by
  induction h generalizing line with
  | last n => rfl
  | @record n r rs rest _ _ ih =>
      obtain ⟨hr, hrest⟩ := wellFormed_cons.mp hrs
      rw [replacePieces_cons Record.text hr, ih hrest]

/-! ## Mending -/

theorem Spaced.spaces_append {rs : List Record} {text : List Char} (h : Spaced rs text) (n : Nat) :
    Spaced rs (List.replicate n ' ' ++ text) := by
  cases h with
  | last m =>
      rw [List.replicate_append_replicate]
      exact .last _
  | record m hmerges hrest =>
      rw [← List.append_assoc, List.replicate_append_replicate]
      exact .record _ hmerges hrest

/-- Whether two sources merge depends on the first element of the second. -/
theorem Merges.of_head? {u v w : List Element} (h : Merges u w) (hhead : w.head? = v.head?) :
    Merges u v := by
  obtain ⟨hend, l, e, hl, he, hjoin⟩ := h
  exact ⟨hend, l, e, hl, hhead ▸ he, hjoin⟩

/-- Mending a text begins it with the same character or with a space, so that no piece that is left
merges with what stands after it now. -/
theorem Spaced.mended {line : Int} {rs : List Record} {text : List Char} (h : Spaced rs text)
    (hrs : WellFormed line rs) :
    Spaced (rs.filter Record.isToken) (replacePieces Record.mendedText rs text) ∧
      ((replacePieces Record.mendedText rs text).head? = text.head? ∨
        (replacePieces Record.mendedText rs text).head? = some ' ') := by
  induction h generalizing line with
  | last n => exact ⟨.last n, .inl rfl⟩
  | @record n r rs rest hmerges _ ih =>
      obtain ⟨hr, hrest⟩ := wellFormed_cons.mp hrs
      obtain ⟨hspaced, hhead⟩ := ih hrest
      rw [replacePieces_cons Record.mendedText hr]
      cases r with
      | token t =>
          obtain ⟨c, cs, htext, -⟩ := hr.exists_text
          refine ⟨.record n ?_ hspaced, .inl ?_⟩
          · rcases hhead with hsame | hspace
            · intro hmerges'
              refine hmerges (hmerges'.of_head? ?_)
              simp only [Element.ofText, List.head?_map, hsame]
            · refine not_merges_of_blank (.inl rfl) (.inr ?_)
              simp only [Element.ofText, List.head?_map, hspace, Option.map_some]
          · simp only [Record.mendedText, Record.isToken, if_true, htext, List.head?_append,
              List.cons_append, List.head?_cons]
      | diagnostic d =>
          refine ⟨(hspaced.spaces_append 1).spaces_append n, .inr ?_⟩
          cases n <;> rfl

theorem tokens_filter_isToken (rs : List Record) :
    Record.tokens (rs.filter Record.isToken) = Record.tokens rs := by
  induction rs with
  | nil => rfl
  | cons r rs ih =>
      cases r with
      | token t => exact congrArg (t :: ·) ih
      | diagnostic d => exact ih

theorem diagnostics_filter_isToken (rs : List Record) :
    Record.diagnostics (rs.filter Record.isToken) = [] := by
  induction rs with
  | nil => rfl
  | cons r rs ih =>
      cases r with
      | token t => exact ih
      | diagnostic d => exact ih

theorem WellFormed.filter_isToken {line : Int} {rs : List Record} (h : WellFormed line rs) :
    WellFormed line (rs.filter Record.isToken) where
  token t ht := h.token t (List.mem_of_mem_filter ht)
  diagnostic d hd := by
    cases List.of_mem_filter hd
  onLine before d after hsplit := by
    have hd : Record.diagnostic d ∈ rs.filter Record.isToken := by simp [hsplit]
    cases List.of_mem_filter hd

/-- The records of a mended text are the tokens of the text. -/
theorem deliveredBeforeEnd_mended (text : List Char) :
    deliveredBeforeEnd (Element.ofText (mended text)) =
      (deliveredBeforeEnd (Element.ofText text)).filter Record.isToken := by
  obtain ⟨hrs, hspaced⟩ := (delivered_ofText_iff text _).mp (delivered_eq _)
  have hdelivered := (delivered_ofText_iff _ _).mpr ⟨hrs.filter_isToken, (hspaced.mended hrs).1⟩
  rw [mended, deliveredBeforeEnd_eq (Element.ofText text), deliveredBeforeEnd, hdelivered,
    List.dropLast_concat]

/-- **A fault stays in its place.** The pieces of a text that belong to its records are where they
are looked for. With one space for each piece that is complained about, the scan of the text has no
diagnostic, and its tokens are exactly those of the scan before. -/
theorem scan_mended (text : List Char) :
    replacePieces Record.text (deliveredBeforeEnd (Element.ofText text)) text = text ∧
      scan (mended text) = ⟨(scan text).tokens, [], true⟩ := by
  constructor
  · obtain ⟨hrs, hspaced⟩ := (delivered_ofText_iff text _).mp (delivered_eq _)
    rw [deliveredBeforeEnd_eq]
    exact hspaced.replacePieces_text hrs
  · rw [scan_eq, scan_eq, deliveredBeforeEnd_mended, tokens_filter_isToken,
      diagnostics_filter_isToken]
    rfl

example : mended "x::=1abcdefghijklmnopq?\n?".toList = "x :=1  \n ".toList := by decide +kernel

end PascalScan
