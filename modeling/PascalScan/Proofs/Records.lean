import PascalScan.Proofs.Cut
import PascalScan.Delivery

/-!
# The records of a scan

What is handed to the sinks of a scan that nothing stops, on which line each record stands, and
which text of the source it came from.

* `delivered` is the sequence of records that the sinks get, and `delivered_eq` says which.
* `records_append` and `count_lineBreak` number the lines.
* `Record.text` reads the text of a record back from the record alone, and `text_record` says that
  it is the text of the lexeme.
-/

namespace PascalScan

/-! ## Hand-over to sinks that refuse nothing -/

/-- All that a scan hands to its sinks, in order, when neither of them refuses. -/
def delivered (source : List Element) : List Record :=
  (deliver (Sinks.recording none none) source .empty).state.records

theorem feed_recording (rs : List Record) (st : Recording) :
    ((Sinks.recording none none).feed rs st).state.records = st.records ++ rs ∧
      ((Sinks.recording none none).feed rs st).fault = none := by
  induction rs generalizing st with
  | nil => simp [Sinks.feed]
  | cons r rs ih =>
      cases r with
      | token t =>
          obtain ⟨hrecords, hfault⟩ := ih
            { st with latestFirst := .token t :: st.latestFirst, tokens := st.tokens + 1 }
          exact ⟨hrecords.trans (by simp [Recording.records]), hfault⟩
      | diagnostic d =>
          obtain ⟨hrecords, hfault⟩ := ih
            { st with
              latestFirst := .diagnostic d :: st.latestFirst, diagnostics := st.diagnostics + 1 }
          exact ⟨hrecords.trans (by simp [Recording.records]), hfault⟩

/-- The sinks get the records of the source and then the mark for its end. -/
theorem delivered_eq (source : List Element) :
    delivered source = sourceRecords source ++ [.endOfFile] := by
  obtain ⟨hrecords, hfault⟩ := feed_recording (sourceRecords source ++ [.endOfFile]) .empty
  simp only [delivered, deliver, hfault]
  exact hrecords

/-! ## Words -/

namespace Keyword

theorem word_injective {j k : Keyword} (h : j.word.toList = k.word.toList) : j = k := by
  cases j <;> cases k <;> first | rfl | exact absurd h (by decide)

theorem ofWord?_eq_some_iff {letters : List Char} {k : Keyword} :
    ofWord? letters = some k ↔ letters.map Char.toLower = k.word.toList := by
  constructor
  · intro h
    have hword := List.find?_some h
    rw [beq_iff_eq] at hword
    exact hword.symm
  · intro h
    obtain ⟨j, hj⟩ : ∃ j, ofWord? letters = some j := by
      rw [← Option.isSome_iff_exists, ofWord?, List.find?_isSome]
      exact ⟨k, by cases k <;> decide, by simpa using h.symm⟩
    have hword := List.find?_some hj
    rw [beq_iff_eq] at hword
    rw [hj, word_injective (hword.trans h)]

theorem ofWord?_eq_none_iff {letters : List Char} :
    ofWord? letters = none ↔ ∀ k : Keyword, letters.map Char.toLower ≠ k.word.toList := by
  rw [Option.eq_none_iff_forall_ne_some]
  exact forall_congr' fun k => not_congr ofWord?_eq_some_iff

end Keyword

namespace Lexeme

variable {line : Int} {letters : List Char}

theorem record_keyword {k : Keyword} (h : letters.map Char.toLower = k.word.toList) :
    (word letters).record line = .token ⟨.keyword k, String.ofList letters⟩ := by
  rw [record, wordRecord, Keyword.ofWord?_eq_some_iff.mpr h]

theorem record_identifier (h : ∀ k : Keyword, letters.map Char.toLower ≠ k.word.toList)
    (hle : letters.length ≤ maxIdentifierLength) :
    (word letters).record line = .token ⟨.identifier, String.ofList letters⟩ := by
  rw [record, wordRecord, Keyword.ofWord?_eq_none_iff.mpr h]
  exact if_pos hle

theorem record_tooLong (h : ∀ k : Keyword, letters.map Char.toLower ≠ k.word.toList)
    (hlt : maxIdentifierLength < letters.length) :
    (word letters).record line = .diagnostic (Complaint.onLine (.wordTooLong letters) line) := by
  rw [record, wordRecord, Keyword.ofWord?_eq_none_iff.mpr h]
  exact if_neg (Nat.not_le_of_lt hlt)

/-- A word is a keyword, an identifier or too long, on every line alike. -/
theorem record_word (letters : List Char) :
    (∃ k : Keyword, letters.map Char.toLower = k.word.toList ∧
      ∀ line, (word letters).record line = .token ⟨.keyword k, String.ofList letters⟩) ∨
    ((∀ k : Keyword, letters.map Char.toLower ≠ k.word.toList) ∧
      letters.length ≤ maxIdentifierLength ∧
        ∀ line, (word letters).record line = .token ⟨.identifier, String.ofList letters⟩) ∨
    ((∀ k : Keyword, letters.map Char.toLower ≠ k.word.toList) ∧
      maxIdentifierLength < letters.length ∧
        ∀ line, (word letters).record line =
          .diagnostic (Complaint.onLine (.wordTooLong letters) line)) := by
  cases hkey : Keyword.ofWord? letters with
  | some k =>
      have hk := Keyword.ofWord?_eq_some_iff.mp hkey
      exact .inl ⟨k, hk, fun line => record_keyword hk⟩
  | none =>
      have hnone := Keyword.ofWord?_eq_none_iff.mp hkey
      rcases Nat.lt_or_ge maxIdentifierLength letters.length with hlt | hle
      · exact .inr (.inr ⟨hnone, hlt, fun line => record_tooLong hnone hlt⟩)
      · exact .inr (.inl ⟨hnone, hle, fun line => record_identifier hnone hle⟩)

/-! ## Lines -/

theorem lineBreaks_eq (l : Lexeme) : l.lineBreaks = if l = lineBreak then 1 else 0 := by
  cases l <;> rfl

/-- The lines of a second run of lexemes go on where those of the first end. -/
theorem records_append (line : Int) (ls ms : List Lexeme) :
    records line (ls ++ ms) = records line ls ++ records (line + ls.count lineBreak) ms := by
  induction ls generalizing line with
  | nil => simp [records]
  | cons l ls ih =>
      have hline : line + l.lineBreaks + ls.count lineBreak =
          line + (l :: ls).count lineBreak := by
        rw [lineBreaks_eq, List.count_cons]
        by_cases h : l = lineBreak <;> simp [h]
        omega
      rw [List.cons_append, records, records, ih, hline, List.cons_append]

theorem count_elements {l : Lexeme} (hl : l.Proper) :
    l.elements.count ['\n'] = if l = lineBreak then 1 else 0 := by
  by_cases h : l = lineBreak
  · subst h
    rfl
  · rw [if_neg h, List.count_eq_zero]
    intro hmem
    exact h (eq_lineBreak_of_blank hl (.inr rfl) hmem).2

/-- Every line end of a source is a lexeme of its own. -/
theorem count_lineBreak (source : List Element) :
    (lexemes source).count lineBreak = source.count ['\n'] := by
  have hcut := cut_lexemes source
  generalize lexemes source = ls at hcut
  induction hcut with
  | spaces n => simp [Element.spaces, List.count_replicate]
  | @lexeme n l rest ls hl _ _ ih =>
      rw [List.count_cons, ih, List.count_append, List.count_append, count_elements hl]
      simp [Element.spaces, List.count_replicate, Nat.add_comm]

end Lexeme

/-! ## The same records further down -/

theorem Diagnostic.msg_onLine (line : Int) (code text : String) :
    (onLine line code text).msg.toList =
      ("Line " ++ toString line ++ ": ").toList ++ text.toList := by
  simp only [onLine, String.toList_append]

/-- A diagnostic moved down by a number of lines; the number in its message moves with it. -/
def Diagnostic.shift (k : Int) (d : Diagnostic) : Diagnostic :=
  let lead := ("Line " ++ toString d.line ++ ": ").toList
  onLine (d.line + k) d.code (String.ofList (d.msg.toList.drop lead.length))

theorem Diagnostic.shift_onLine (k line : Int) (code text : String) :
    (onLine line code text).shift k = onLine (line + k) code text := by
  rw [shift, msg_onLine]
  change onLine (line + k) code _ = _
  rw [show (onLine line code text).line = line from rfl, List.drop_left, String.ofList_toList]

/-- A record moved down by a number of lines. -/
def Record.shift (k : Int) : Record → Record
  | token t => token t
  | diagnostic d => diagnostic (d.shift k)

namespace Lexeme

theorem shift_record (l : Lexeme) (line k : Int) :
    (l.record line).shift k = l.record (line + k) := by
  cases l with
  | word letters =>
      rcases record_word letters with ⟨k, -, hr⟩ | ⟨-, -, hr⟩ | ⟨-, -, hr⟩
      · rw [hr, hr]
        rfl
      · rw [hr, hr]
        rfl
      · rw [hr, hr]
        exact congrArg Record.diagnostic (Diagnostic.shift_onLine _ _ _ _)
  | number digits => rfl
  | symbol s => rfl
  | colon => exact congrArg Record.diagnostic (Diagnostic.shift_onLine _ _ _ _)
  | lineBreak => rfl
  | stray e => exact congrArg Record.diagnostic (Diagnostic.shift_onLine _ _ _ _)

theorem map_shift_records (line k : Int) (ls : List Lexeme) :
    (records line ls).map (Record.shift k) = records (line + k) ls := by
  induction ls generalizing line with
  | nil => rfl
  | cons l ls ih =>
      rw [records, List.map_cons, shift_record, ih, records, Int.add_right_comm]

end Lexeme

/-! ## The text of a record -/

namespace Record

/-- What stands between the first quotation mark and the last. -/
def quoted (cs : List Char) : List Char :=
  let inner := (cs.dropWhile (· != '\'')).tail
  (inner.reverse.dropWhile (· != '\'')).tail.reverse

/-- The text of the source that a record stands for, read from the record alone. -/
def text : Record → List Char
  | token t => if t.kind = .endOfLine then ['\n'] else t.value.toList
  | diagnostic d => if d.code = "E_LEX_MISUSED_COLON" then [':'] else quoted d.msg.toList

theorem quoted_append {before inside after : List Char} (hbefore : '\'' ∉ before)
    (hafter : '\'' ∉ after) :
    quoted (before ++ '\'' :: (inside ++ '\'' :: after)) = inside := by
  have hskip : ∀ cs ds : List Char, '\'' ∉ cs →
      (cs ++ '\'' :: ds).dropWhile (· != '\'') = '\'' :: ds := by
    intro cs ds hcs
    rw [List.dropWhile_append_of_pos]
    · rfl
    · intro c hc
      simpa using fun h : c = '\'' => hcs (h ▸ hc)
  rw [quoted, hskip _ _ hbefore, List.tail_cons, List.reverse_append, List.reverse_cons,
    List.append_assoc, List.singleton_append, hskip _ _ (by simpa using hafter), List.tail_cons,
    List.reverse_reverse]

end Record

theorem not_mem_toString {n : Int} {c : Char} (hdigit : c.isDigit = false) (hminus : c ≠ '-') :
    c ∉ (toString n).toList := by
  have hnat : ∀ m : Nat, c ∉ m.repr.toList := by
    intro m hmem
    rw [Nat.repr_eq_ofList_toDigits, String.toList_ofList] at hmem
    have := Nat.isDigit_of_mem_toDigits (by decide) (by decide) hmem
    rw [hdigit] at this
    exact Bool.noConfusion this
  rw [Int.toString_eq_repr, Int.repr_eq_if]
  split
  · exact hnat _
  · rw [String.toList_append, List.mem_append]
    rintro (h | h)
    · exact hminus (by simpa using h)
    · exact hnat _ h

/-- A quotation in a message is found again behind the number of the line. -/
theorem Diagnostic.quoted_onLine {line : Int} {code text : String}
    {before inside after : List Char}
    (htext : text.toList = before ++ '\'' :: (inside ++ '\'' :: after))
    (hbefore : '\'' ∉ before) (hafter : '\'' ∉ after) :
    Record.quoted (onLine line code text).msg.toList = inside := by
  have hnumber : '\'' ∉ (toString line).toList := not_mem_toString (by decide) (by decide)
  have hlead : '\'' ∉ ("Line " ++ toString line ++ ": ").toList ++ before := by
    simp only [String.toList_append, List.mem_append, not_or]
    exact ⟨⟨⟨by decide, hnumber⟩, by decide⟩, hbefore⟩
  rw [msg_onLine, htext, ← List.append_assoc, Record.quoted_append hlead hafter]

namespace Complaint

/-- The text of the source that is complained about. -/
def subject : Complaint → List Char
  | wordTooLong word => word
  | misusedColon => [':']
  | badCharacter element => element

theorem text_wordTooLong (word : List Char) :
    (wordTooLong word).text =
      "Identifier name '" ++ String.ofList word ++ "' exceeds 16 characters" := by
  have hclose : "' exceeds 16 characters" =
      "' exceeds " ++ (toString maxIdentifierLength ++ " characters") := by decide
  rw [hclose, ← String.append_assoc, ← String.append_assoc]
  rfl

theorem toList_text_wordTooLong (word : List Char) :
    (wordTooLong word).text.toList =
      "Identifier name ".toList ++ '\'' :: (word ++ '\'' :: " exceeds 16 characters".toList) := by
  have hopen : "Identifier name '".toList = "Identifier name ".toList ++ ['\''] := by decide
  have hclose : "' exceeds 16 characters".toList = '\'' :: " exceeds 16 characters".toList := by
    decide
  simp only [text_wordTooLong, String.toList_append, String.toList_ofList, hclose]
  rw [hopen, List.append_assoc, List.append_assoc, List.singleton_append]

theorem toList_text_badCharacter (element : List Char) :
    (badCharacter element).text.toList =
      "Invalid character ".toList ++ '\'' :: (element ++ '\'' :: []) := by
  have hopen : "Invalid character '".toList = "Invalid character ".toList ++ ['\''] := by decide
  have hclose : "'".toList = ['\''] := by decide
  change ("Invalid character '" ++ String.ofList element ++ "'").toList = _
  simp only [String.toList_append, String.toList_ofList, hclose]
  rw [hopen, List.append_assoc, List.append_assoc, List.singleton_append]

/-- The subject of a complaint is read back from its diagnostic, whatever characters it has. -/
theorem text_onLine (c : Complaint) (line : Int) :
    (Record.diagnostic (c.onLine line)).text = c.subject := by
  cases c with
  | wordTooLong word =>
      have hcode : ((wordTooLong word).onLine line).code ≠ "E_LEX_MISUSED_COLON" :=
        (by decide : "E_LEX_IDENT_TOO_LONG" ≠ "E_LEX_MISUSED_COLON")
      rw [Record.text, if_neg hcode]
      exact Diagnostic.quoted_onLine (toList_text_wordTooLong word) (by decide) (by decide)
  | misusedColon => rfl
  | badCharacter element =>
      have hcode : ((badCharacter element).onLine line).code ≠ "E_LEX_MISUSED_COLON" :=
        (by decide : "E_LEX_BAD_CHAR" ≠ "E_LEX_MISUSED_COLON")
      rw [Record.text, if_neg hcode]
      exact Diagnostic.quoted_onLine (toList_text_badCharacter element) (by decide) (by simp)

end Complaint

namespace Lexeme

/-- **Nothing of a lexeme is lost in its record.** -/
theorem text_record (l : Lexeme) (line : Int) : (l.record line).text = l.elements.flatten := by
  cases l with
  | word letters =>
      rw [elements, Element.flatten_ofText]
      rcases record_word letters with ⟨k, -, hr⟩ | ⟨-, -, hr⟩ | ⟨-, -, hr⟩
      · rw [hr]
        exact String.toList_ofList
      · rw [hr]
        exact String.toList_ofList
      · rw [hr]
        exact Complaint.text_onLine _ line
  | number digits =>
      rw [elements, Element.flatten_ofText]
      exact String.toList_ofList
  | symbol s =>
      rw [elements, Element.flatten_ofText]
      rfl
  | colon => rfl
  | lineBreak => rfl
  | stray e =>
      rw [elements, List.flatten_singleton]
      exact Complaint.text_onLine (.badCharacter e) line

end Lexeme

end PascalScan
