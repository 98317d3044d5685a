import PascalScan.Proofs.Rescan
import PascalScan.Layout
import PascalScan.Text.Ascii

/-!
# Reading record files

The record files lose nothing. A reader cuts a file where its lines end. In a line of a token file
the number of the kind stands last, a space before it, and the value before that, behind spaces
that do not belong to it. In a line of a diagnostic file the number of the line comes first, and
the form of the text behind it tells the code.

* `exists_lines` is the argument for any file of lines.
* `readTokenLine_tokenLine` and `readDiagnosticLine_onLine` read one line.
* `scan_tokens` and `scan_diagnostics` say which values and messages a scan puts in the files.
-/

namespace PascalScan

/-! ## Plain characters -/

/-- A character that needs no care in a token file. -/
def isPlain (c : Char) : Bool := Ascii.has c && (c != ' ' && c != '\n')

theorem isPlain_iff {c : Char} : isPlain c = true ↔ Ascii.has c = true ∧ c ≠ ' ' ∧ c ≠ '\n' := by
  simp [isPlain]

theorem has_of_isAlphanum {c : Char} (h : c.isAlphanum = true) : Ascii.has c = true := by
  rw [isAlphanum_iff_toNat] at h
  simp only [Ascii.has, decide_eq_true_eq]
  omega

theorem isPlain_of_isAlphanum {c : Char} (h : c.isAlphanum = true) : isPlain c = true := by
  refine isPlain_iff.mpr ⟨has_of_isAlphanum h, ?_, ?_⟩
  · rintro rfl
    exact absurd h (by decide)
  · rintro rfl
    exact absurd h (by decide)

namespace Layout

/-! ## Readers -/

/-- A line of a token file, without its end: the number of the kind is its last two characters, a
space stands before them, and the spaces at its front are none of the value's. -/
def readTokenLine (line : List Char) : Option Token :=
  match line.reverse with
  | unit :: ten :: ' ' :: front =>
      (TokenKind.ofCode? (Nat.ofDigitChars 10 [ten, unit] 0)).map fun kind =>
        ⟨kind, String.ofList (front.reverse.dropWhile (· == ' '))⟩
  | _ => none

/-- How the texts of the complaints begin, and their codes. -/
def messageForms : List (String × String) :=
  [("Identifier name '", "E_LEX_IDENT_TOO_LONG"), ("Misused colon", "E_LEX_MISUSED_COLON"),
    ("Invalid character '", "E_LEX_BAD_CHAR")]

/-- The code that the text of a message tells. -/
def codeOfText? (text : List Char) : Option String :=
  (messageForms.find? fun form => form.1.toList.isPrefixOf text).map Prod.snd

/-- A line of a diagnostic file, without its end: the number of the line stands behind the first
word, and the text of the message behind a colon and a space. -/
def readDiagnosticLine (line : List Char) : Option Diagnostic :=
  let rest := line.drop "Line ".length
  let digits := rest.takeWhile Char.isDigit
  let text := rest.drop (digits.length + ": ".length)
  (codeOfText? text).map fun code => ⟨Nat.ofDigitChars 10 digits 0, code, String.ofList line⟩

/-- A file of ended lines, each of them read. -/
def readFile {α : Type} (read : List Char → Option α) (file : String) : Option (List α) :=
  let pieces := file.toList.splitOn '\n'
  if pieces.getLast? = some [] then pieces.dropLast.mapM read else none

/-! ## Files of lines -/

section

variable {α : Type} {read : List Char → Option α}

/-- If each value is written as a line that is read back, then a file of them has exactly one
ended line for each, in order. -/
theorem exists_lines {write : α → String} {xs : List α}
    (h : ∀ x ∈ xs, ∃ line, (write x).toList = line ++ ['\n'] ∧ '\n' ∉ line ∧ read line = some x) :
    ∃ lines, (String.join (xs.map write)).toList.splitOn '\n' = lines ++ [[]] ∧
      lines.map read = xs.map some := by
  induction xs with
  | nil => exact ⟨[], List.splitOn_nil _, rfl⟩
  | cons x xs ih =>
      obtain ⟨⟨line, hwrite, hline, hread⟩, hxs⟩ := List.forall_mem_cons.mp h
      obtain ⟨lines, hsplit, hlines⟩ := ih hxs
      refine ⟨line :: lines, ?_, ?_⟩
      · rw [List.map_cons, String.join_cons, String.toList_append, hwrite, List.append_assoc,
          List.singleton_append, List.splitOn_append_cons_self_of_not_mem hline, hsplit,
          List.cons_append]
      · rw [List.map_cons, List.map_cons, hread, hlines]

theorem readFile_eq {file : String} {lines : List (List Char)} {xs : List α}
    (hsplit : file.toList.splitOn '\n' = lines ++ [[]]) (hlines : lines.map read = xs.map some) :
    readFile read file = some xs := by
  have hmap : lines.mapM read = some xs := by
    clear hsplit
    induction lines generalizing xs with
    | nil =>
        obtain rfl : xs = [] := by simpa using hlines.symm
        rfl
    | cons line lines ih =>
        match xs with
        | [] => simp at hlines
        | x :: xs =>
            obtain ⟨hline, htail⟩ := List.cons.inj hlines
            simp [List.mapM_cons, hline, ih htail]
  simp [readFile, hsplit, hmap]

end

/-! ## One line -/

theorem ofCode?_codeDigits (k : TokenKind) :
    TokenKind.ofCode? (Nat.ofDigitChars 10 (codeDigits k) 0) = some k := by
  cases k with
  | keyword w => cases w <;> decide
  | symbol s => cases s <;> decide
  | identifier => decide
  | constant => decide
  | endOfLine => decide
  | endOfFile => decide

theorem all_plain_codeDigits (k : TokenKind) : (codeDigits k).all isPlain = true := by
  cases k with
  | keyword w => cases w <;> decide
  | symbol s => cases s <;> decide
  | _ => decide

theorem dropWhile_alignRight (width : Nat) {cs : List Char} (h : cs.head? ≠ some ' ') :
    (alignRight width cs).dropWhile (· == ' ') = cs := by
  rw [alignRight, List.dropWhile_append_of_pos (by simp)]
  cases cs with
  | nil => rfl
  | cons c cs =>
      have hc : (c == ' ') = false := by simpa using h
      simp [hc]

/-- What a value may be for its line to be read back: it ends no line, and no space stands at its
front. -/
def FitsLine (t : Token) : Prop := '\n' ∉ t.value.toList ∧ t.value.toList.head? ≠ some ' '

instance : DecidablePred FitsLine := fun t =>
  inferInstanceAs (Decidable ('\n' ∉ t.value.toList ∧ t.value.toList.head? ≠ some ' '))

theorem readTokenLine_tokenLine {t : Token} (h : FitsLine t) :
    ∃ line, (tokenLine t).toList = line ++ ['\n'] ∧ '\n' ∉ line ∧
      readTokenLine line = some t := by
  obtain ⟨hbreak, hhead⟩ := h
  refine ⟨alignRight valueWidth t.value.toList ++ ' ' :: codeDigits t.kind, ?_, ?_, ?_⟩
  · rw [tokenLine, String.toList_ofList]
  · have hdigits : '\n' ∉ codeDigits t.kind := fun hmem =>
      (isPlain_iff.mp (List.all_eq_true.mp (all_plain_codeDigits t.kind) _ hmem)).2.2 rfl
    simp [alignRight, hbreak, hdigits]
  · have hkind := ofCode?_codeDigits t.kind
    rw [codeDigits] at hkind ⊢
    simp [readTokenLine, hkind, dropWhile_alignRight _ hhead]

/-- The text of a complaint tells its code, whatever it complains about. -/
theorem codeOfText?_text (c : Complaint) : codeOfText? c.text.toList = some c.code := by
  -- The forms differ in their first letters or, where these agree, in the ones after them.
  cases c with
  | wordTooLong word =>
      rw [Complaint.toList_text_wordTooLong]
      rfl
  | misusedColon => decide
  | badCharacter element =>
      rw [Complaint.toList_text_badCharacter]
      rfl

/-- The message of a complaint on a line that is counted from the front of a source. -/
theorem toList_msg_onLine (c : Complaint) (n : Nat) :
    (c.onLine n).msg.toList =
      "Line ".toList ++ (Nat.toDigits 10 n ++ (": ".toList ++ c.text.toList)) := by
  have hdigits : (toString (n : Int)).toList = Nat.toDigits 10 n := by
    rw [Int.toString_eq_repr, Int.repr_eq_if, if_pos (Int.natCast_nonneg n), Int.toNat_natCast,
      Nat.repr_eq_ofList_toDigits, String.toList_ofList]
  rw [Complaint.onLine, Diagnostic.msg_onLine]
  simp only [String.toList_append, hdigits, List.append_assoc]

theorem readDiagnosticLine_onLine {c : Complaint} (h : '\n' ∉ c.text.toList) (n : Nat) :
    ∃ line, (diagnosticLine (c.onLine n)).toList = line ++ ['\n'] ∧ '\n' ∉ line ∧
      readDiagnosticLine line = some (c.onLine n) := by
  have hdigit : ∀ d ∈ Nat.toDigits 10 n, d.isDigit = true := fun d hd =>
    Nat.isDigit_of_mem_toDigits (by decide) (by decide) hd
  refine ⟨(c.onLine n).msg.toList, ?_, ?_, ?_⟩
  · rw [diagnosticLine, String.toList_append]
    rfl
  · have hnumber : '\n' ∉ Nat.toDigits 10 n := fun hmem => absurd (hdigit _ hmem) (by decide)
    rw [toList_msg_onLine]
    simp only [List.mem_append, not_or]
    exact ⟨by decide, hnumber, by decide, h⟩
  · have hrest : (c.onLine n).msg.toList.drop "Line ".length =
        Nat.toDigits 10 n ++ (": ".toList ++ c.text.toList) := by
      rw [toList_msg_onLine]
      exact List.drop_left
    -- The colon is no digit, so the number ends where its digits do.
    have htake : (Nat.toDigits 10 n ++ (": ".toList ++ c.text.toList)).takeWhile Char.isDigit =
        Nat.toDigits 10 n := by
      rw [List.takeWhile_append_of_pos hdigit]
      exact List.append_nil _
    have htext : (Nat.toDigits 10 n ++ (": ".toList ++ c.text.toList)).drop
        ((Nat.toDigits 10 n).length + ": ".length) = c.text.toList := by
      rw [List.drop_append, List.drop_eq_nil_of_le (Nat.le_add_right _ _),
        Nat.add_sub_cancel_left, List.nil_append]
      exact List.drop_left
    simp only [readDiagnosticLine, hrest, htake, htext, codeOfText?_text,
      Nat.ofDigitChars_ten_toDigits, String.ofList_toList]
    rfl

end Layout

/-! ## What a scan puts in the files -/

/-- The values of the tokens of a scan are made of plain characters. -/
theorem Token.Scannable.all_plain {t : Token} (h : t.Scannable) :
    t.value.toList.all isPlain = true := by
  obtain ⟨kind, value⟩ := t
  cases kind with
  | keyword k =>
      refine List.all_eq_true.mpr fun c hc => isPlain_of_isAlphanum ?_
      exact (isWord_of_lower h).isAlphanum c hc
  | identifier =>
      refine List.all_eq_true.mpr fun c hc => isPlain_of_isAlphanum ?_
      exact h.1.isAlphanum c hc
  | constant =>
      refine List.all_eq_true.mpr fun c hc => isPlain_of_isAlphanum ?_
      have hdigit : c.isDigit = true := h.2 c hc
      simp [Char.isAlphanum, hdigit]
  | symbol s =>
      obtain rfl : value = s.spelling := h
      cases s <;> decide
  | endOfLine =>
      obtain rfl : value = "EOLN" := h
      decide
  | endOfFile => exact h.elim

/-- Only a constant may be wider than the columns of a value. -/
theorem Token.Scannable.length_le {t : Token} (h : t.Scannable) (hkind : t.kind ≠ .constant) :
    t.value.toList.length ≤ 16 := by
  obtain ⟨kind, value⟩ := t
  cases kind with
  | keyword k =>
      by_contra hlt
      exact ne_word_of_length (Nat.lt_of_not_le hlt) k h
  | identifier => exact h.2.1
  | constant => exact absurd rfl hkind
  | symbol s =>
      obtain rfl : value = s.spelling := h
      cases s <;> decide
  | endOfLine =>
      obtain rfl : value = "EOLN" := h
      decide
  | endOfFile => exact h.elim

theorem scan_tokens {text : List Char} {t : Token} (h : t ∈ (scan text).tokens) :
    t.Scannable ∨ t = .endOfFile := by
  have hmem : t ∈ Record.tokens (sourceRecords (Element.ofText text) ++ [.endOfFile]) := h
  rw [Record.tokens_append, List.mem_append] at hmem
  rcases hmem with hrecord | hend
  · obtain ⟨r, hr, ht⟩ := List.mem_filterMap.mp hrecord
    cases r with
    | token u =>
        obtain rfl : u = t := Option.some.inj ht
        exact .inl ((wellFormed_sourceRecords text).token u hr)
    | diagnostic d => cases ht
  · exact .inr (List.mem_singleton.mp hend)

theorem scan_diagnostics {text : List Char} {d : Diagnostic} (h : d ∈ (scan text).diagnostics) :
    ∃ (c : Complaint) (n : Nat), c.Scannable ∧ d = c.onLine n := by
  have hmem : d ∈ Record.diagnostics (sourceRecords (Element.ofText text) ++ [.endOfFile]) := h
  rw [Record.diagnostics_append, List.mem_append] at hmem
  rcases hmem with hrecord | hend
  · obtain ⟨r, hr, hd⟩ := List.mem_filterMap.mp hrecord
    cases r with
    | token t => cases hd
    | diagnostic e =>
        obtain rfl : e = d := Option.some.inj hd
        have hrecords := wellFormed_sourceRecords text
        obtain ⟨c, hc, he⟩ := hrecords.diagnostic e hr
        obtain ⟨before, after, hsplit⟩ := List.append_of_mem hr
        have hline := hrecords.onLine before e after hsplit
        refine ⟨c, 1 + lineEnds before, hc, ?_⟩
        rw [he, hline]
        simp only [Int.natCast_add, Int.cast_ofNat_Int]
  · cases hend

theorem Complaint.Scannable.not_mem_text {c : Complaint} (h : c.Scannable) :
    '\n' ∉ c.text.toList := by
  cases c with
  | wordTooLong word =>
      have hword : '\n' ∉ word := fun hmem => absurd (h.1.isAlphanum _ hmem) (by decide)
      rw [toList_text_wordTooLong]
      simp [hword]
  | misusedColon => decide
  | badCharacter element =>
      obtain ⟨c, rfl, hc⟩ := h
      have hbreak : '\n' ≠ c := by
        rintro rfl
        exact (hc '\n' rfl).2 (by decide)
      rw [toList_text_badCharacter]
      simp [hbreak]

theorem all_plain_of_scan {text : List Char} {t : Token} (h : t ∈ (scan text).tokens) :
    t.value.toList.all isPlain = true := by
  rcases scan_tokens h with hscan | rfl
  · exact hscan.all_plain
  · decide

namespace Layout

theorem fitsLine_of_scan {text : List Char} {t : Token} (h : t ∈ (scan text).tokens) :
    FitsLine t := by
  have hplain := List.all_eq_true.mp (all_plain_of_scan h)
  refine ⟨fun hmem => (isPlain_iff.mp (hplain _ hmem)).2.2 rfl, ?_⟩
  intro hhead
  exact (isPlain_iff.mp (hplain _ (List.mem_of_head? hhead))).2.1 rfl

theorem readDiagnosticLine_of_scan {text : List Char} {d : Diagnostic}
    (h : d ∈ (scan text).diagnostics) :
    ∃ line, (diagnosticLine d).toList = line ++ ['\n'] ∧ '\n' ∉ line ∧
      readDiagnosticLine line = some d := by
  obtain ⟨c, n, hc, rfl⟩ := scan_diagnostics h
  exact readDiagnosticLine_onLine hc.not_mem_text n

theorem has_of_tokenText {text : List Char} {c : Char}
    (h : c ∈ (tokenText (scan text).tokens).toList) : Ascii.has c = true := by
  rw [tokenText, String.toList_join, List.mem_flatMap] at h
  obtain ⟨line, hline, hc⟩ := h
  obtain ⟨t, ht, rfl⟩ := List.mem_map.mp hline
  have hvalue := List.all_eq_true.mp (all_plain_of_scan ht)
  have hdigits := List.all_eq_true.mp (all_plain_codeDigits t.kind)
  rw [tokenLine, String.toList_ofList, alignRight] at hc
  simp only [List.mem_append, List.mem_cons, List.not_mem_nil, or_false] at hc
  rcases hc with ((hspace | hmem) | rfl | hmem) | rfl
  · rw [List.eq_of_mem_replicate hspace]
    rfl
  · exact (isPlain_iff.mp (hvalue c hmem)).1
  · rfl
  · exact (isPlain_iff.mp (hdigits c hmem)).1
  · rfl

theorem length_tokenLine (t : Token) :
    (tokenLine t).length = max valueWidth t.value.length + 4 := by
  rw [← String.length_toList, ← String.length_toList, tokenLine, String.toList_ofList]
  simp only [alignRight, codeDigits, List.length_append, List.length_replicate, List.length_cons,
    List.length_nil]
  omega

/-- Every line of the tokens of a scan has twenty characters with its end, but for the constants
that are wider than the columns of a value. -/
theorem length_tokenLine_of_scan {text : List Char} {t : Token} (h : t ∈ (scan text).tokens) :
    (tokenLine t).length =
      if t.kind = .constant ∧ 16 < t.value.length then t.value.length + 4 else 20 := by
  have hwidth : valueWidth = 16 := rfl
  have hshort : t.kind ≠ .constant → t.value.length ≤ 16 := by
    intro hkind
    rcases scan_tokens h with hscan | rfl
    · exact String.length_toList ▸ hscan.length_le hkind
    · decide
  rw [length_tokenLine, hwidth]
  split
  · omega
  · next hcond =>
      have hle : t.value.length ≤ 16 := by
        by_cases hkind : t.kind = .constant
        · exact Nat.le_of_not_lt fun hlt => hcond ⟨hkind, hlt⟩
        · exact hshort hkind
      omega

/-- **The record files lose nothing.** Cut where its lines end, a token file has exactly one ended
line for each token, in order, and each line is read back, if the values end no line and start with
no space. A file of diagnostics that scans of texts came to is read back likewise. The tokens of
every scan are such tokens, so both files of a scan are read back whole. The token file is in
ASCII, and its lines have twenty characters, but for long constants. -/
theorem readFile_render :
    (∀ ts : List Token, (∀ t ∈ ts, FitsLine t) →
      ∃ lines, (tokenText ts).toList.splitOn '\n' = lines ++ [[]] ∧
        lines.map readTokenLine = ts.map some) ∧
    (∀ ds : List Diagnostic, (∀ d ∈ ds, ∃ text, d ∈ (scan text).diagnostics) →
      ∃ lines, (diagnosticText ds).toList.splitOn '\n' = lines ++ [[]] ∧
        lines.map readDiagnosticLine = ds.map some) ∧
    ∀ text,
      (∀ t ∈ (scan text).tokens, FitsLine t) ∧
      readFile readTokenLine (tokenText (scan text).tokens) = some (scan text).tokens ∧
      readFile readDiagnosticLine (diagnosticText (scan text).diagnostics) =
        some (scan text).diagnostics ∧
      (∀ c ∈ (tokenText (scan text).tokens).toList, Ascii.has c = true) ∧
      ∀ t ∈ (scan text).tokens, (tokenLine t).length =
        if t.kind = .constant ∧ 16 < t.value.length then t.value.length + 4 else 20 := by
  have htokens : ∀ ts : List Token, (∀ t ∈ ts, FitsLine t) →
      ∃ lines, (tokenText ts).toList.splitOn '\n' = lines ++ [[]] ∧
        lines.map readTokenLine = ts.map some := by
    intro ts hts
    exact exists_lines fun t ht => readTokenLine_tokenLine (hts t ht)
  have hdiagnostics : ∀ ds : List Diagnostic, (∀ d ∈ ds, ∃ text, d ∈ (scan text).diagnostics) →
      ∃ lines, (diagnosticText ds).toList.splitOn '\n' = lines ++ [[]] ∧
        lines.map readDiagnosticLine = ds.map some := by
    intro ds hds
    refine exists_lines fun d hd => ?_
    obtain ⟨text, hscan⟩ := hds d hd
    exact readDiagnosticLine_of_scan hscan
  refine ⟨htokens, hdiagnostics, fun text => ⟨?_, ?_, ?_, ?_, ?_⟩⟩
  · exact fun t ht => fitsLine_of_scan ht
  · obtain ⟨lines, hsplit, hlines⟩ := htokens (scan text).tokens fun t ht => fitsLine_of_scan ht
    exact readFile_eq hsplit hlines
  · obtain ⟨lines, hsplit, hlines⟩ := hdiagnostics _ fun d hd => ⟨text, hd⟩
    exact readFile_eq hsplit hlines
  · exact fun c hc => has_of_tokenText hc
  · exact fun t ht => length_tokenLine_of_scan ht

/-- A value may have spaces in it, or be empty; diagnostics may come from several scans. -/
theorem readFile_render_mixed :
    (∃ lines,
      (tokenText [⟨.identifier, "two words "⟩, ⟨.constant, ""⟩]).toList.splitOn '\n' =
        lines ++ [[]] ∧
      lines.map readTokenLine = [some ⟨.identifier, "two words "⟩, some ⟨.constant, ""⟩]) ∧
    ∃ lines,
      (diagnosticText [Complaint.onLine .misusedColon 2,
        Complaint.onLine (.badCharacter ['\'']) 1]).toList.splitOn '\n' = lines ++ [[]] ∧
      lines.map readDiagnosticLine =
        [some (Complaint.onLine .misusedColon 2),
          some (Complaint.onLine (.badCharacter ['\'']) 1)] := by
  refine ⟨readFile_render.1 _ (by decide), readFile_render.2.1 _ ?_⟩
  intro d hd
  simp only [List.mem_cons, List.not_mem_nil, or_false] at hd
  rcases hd with rfl | rfl
  · exact ⟨"\n:".toList, by decide +kernel⟩
  · exact ⟨"'".toList, by decide +kernel⟩

end Layout

end PascalScan
