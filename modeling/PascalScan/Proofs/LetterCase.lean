import PascalScan.Proofs.DiagnosticCount

/-!
# Letters in either case

Two texts that differ in nothing but the case of their letters are scanned alike: the records stand
in the same places, on the same lines, and differ in the case of letters only. No value is changed
by this: a word or a number comes out as it was written.

Shape of the argument: what a text is cut into does not depend on the case of its letters, so the
cut of a text in lower case is its cut, in lower case (`Lexeme.Cut.lower`). Two lexemes with one
lower case make records that are alike (`alike_record`), so two such texts make alike sequences
(`alike_sourceRecords`).
-/

namespace PascalScan

/-- A text in lower case, as far as it has letters. -/
def lowered (s : String) : List Char := s.toList.map Char.toLower

/-- Two records that are the same but for the case of letters in a value or a message. -/
inductive Record.Alike : Record → Record → Prop where
  | token {t u : Token} : t.kind = u.kind → lowered t.value = lowered u.value →
      Alike (.token t) (.token u)
  | diagnostic {d e : Diagnostic} : d.line = e.line → d.code = e.code →
      lowered d.msg = lowered e.msg → Alike (.diagnostic d) (.diagnostic e)

/-! ## Characters -/

theorem toLower_of_not_isAlpha {c : Char} (h : c.isAlpha = false) : c.toLower = c := by
  refine Char.toLower_eq_of_not_isUpper ?_
  rw [Char.isAlpha, Bool.or_eq_false_iff] at h
  simp [h.1]

/-- Only a letter is a letter in lower case. -/
theorem toLower_eq_iff {c d : Char} (hd : d.isAlpha = false) : c.toLower = d ↔ c = d := by
  constructor
  · intro h
    have hc : c.isAlpha = false := by
      rw [← Char.isAlpha_toLower_eq_isAlpha, h, hd]
    rwa [toLower_of_not_isAlpha hc] at h
  · rintro rfl
    exact toLower_of_not_isAlpha hd

theorem isDigit_toLower (c : Char) : c.toLower.isDigit = c.isDigit := by
  cases h : c.isAlpha with
  | false => rw [toLower_of_not_isAlpha h]
  | true =>
      have hplain : ∀ d : Char, d.isAlpha = true → d.isDigit = false := by
        intro d hd
        cases hdigit : d.isDigit with
        | false => rfl
        | true => rw [isAlpha_eq_false_of_isDigit hdigit] at hd; exact hd.symm
      rw [hplain c h, hplain _ (by rw [Char.isAlpha_toLower_eq_isAlpha, h])]

theorem isAlphanum_toLower (c : Char) : c.toLower.isAlphanum = c.isAlphanum := by
  rw [Char.isAlphanum, Char.isAlphanum, Char.isAlpha_toLower_eq_isAlpha, isDigit_toLower]

theorem beq_toLower (c : Char) {d : Char} (hd : d.isAlpha = false) :
    (c.toLower == d) = (c == d) := by
  rw [Bool.eq_iff_iff, beq_iff_eq, beq_iff_eq, toLower_eq_iff hd]

/-! ## Lexemes -/

/-- An element in lower case. -/
def Element.lower (e : Element) : Element := e.map Char.toLower

theorem Element.map_lower_ofText (cs : List Char) :
    (ofText cs).map lower = ofText (cs.map Char.toLower) := by
  simp [ofText, lower]

theorem Element.map_lower_spaces (n : Nat) : (spaces n).map lower = spaces n := by
  rw [spaces, List.map_replicate]
  rfl

theorem map_toLower_of_not_isAlpha {cs : List Char} (h : ∀ c ∈ cs, c.isAlpha = false) :
    cs.map Char.toLower = cs := by
  rw [List.map_congr_left fun c hc => toLower_of_not_isAlpha (h c hc), List.map_id']

theorem Element.StartsNothing.lower {e : Element} (h : e.StartsNothing) :
    e.lower.StartsNothing := by
  intro d hd
  obtain ⟨c, rfl, rfl⟩ := List.map_eq_singleton_iff.mp hd
  obtain ⟨hc, hmem⟩ := h c rfl
  rw [toLower_of_not_isAlpha (Bool.or_eq_false_iff.mp hc).1]
  exact ⟨hc, hmem⟩

namespace Lexeme

/-- A lexeme in lower case. -/
def lower : Lexeme → Lexeme
  | word letters => word (letters.map Char.toLower)
  | stray e => stray e.lower
  | l => l

theorem elements_lower {l : Lexeme} (hl : l.Proper) :
    l.lower.elements = l.elements.map Element.lower := by
  cases l with
  | word letters => exact (Element.map_lower_ofText letters).symm
  | number digits =>
      show Element.ofText digits = (Element.ofText digits).map Element.lower
      rw [Element.map_lower_ofText, map_toLower_of_not_isAlpha]
      exact fun c hc => isAlpha_eq_false_of_isDigit (hl.2 c hc)
  | symbol s =>
      show Element.ofText s.spelling.toList = (Element.ofText s.spelling.toList).map Element.lower
      rw [Element.map_lower_ofText, map_toLower_of_not_isAlpha]
      exact fun c hc => (Bool.or_eq_false_iff.mp (Symbol.mem_spelling hc).1).1
  | colon => rfl
  | lineBreak => rfl
  | stray e => rfl

theorem Proper.lower {l : Lexeme} (hl : l.Proper) : l.lower.Proper := by
  cases l with
  | word letters =>
      obtain ⟨c, cs, rfl, hc, hcs⟩ := hl
      refine ⟨c.toLower, cs.map Char.toLower, rfl, ?_, ?_⟩
      · rw [Char.isAlpha_toLower_eq_isAlpha, hc]
      · intro d hd
        obtain ⟨b, hb, rfl⟩ := List.mem_map.mp hd
        rw [isAlphanum_toLower, hcs b hb]
  | number digits => exact hl
  | symbol s => trivial
  | colon => trivial
  | lineBreak => trivial
  | stray e => exact Element.StartsNothing.lower hl

/-- Whether a lexeme goes on does not depend on the case of letters. -/
theorem joins_lower (l : Lexeme) (c : Char) : l.lower.joins [c.toLower] = l.joins [c] := by
  cases l with
  | word letters => exact isAlphanum_toLower c
  | number digits => exact isDigit_toLower c
  | symbol s =>
      cases s with
      | less =>
          show (c.toLower == '=' || c.toLower == '>') = (c == '=' || c == '>')
          rw [beq_toLower c (by decide), beq_toLower c (by decide)]
      | greater => exact beq_toLower c (by decide)
      | _ => rfl
  | colon => exact beq_toLower c (by decide)
  | lineBreak => rfl
  | stray e => rfl

theorem Apart.lower {l : Lexeme} {rest : List Element} (ha : l.Apart rest) :
    l.lower.Apart (rest.map Element.lower) := by
  refine apart_iff.mpr fun d hd => ?_
  rw [List.head?_map, Option.map_eq_some_iff] at hd
  obtain ⟨e, he, hlower⟩ := hd
  obtain ⟨c, rfl, rfl⟩ := List.map_eq_singleton_iff.mp hlower
  rw [joins_lower]
  exact ha [c] he

/-- **The cut of a source in lower case** is its cut, in lower case. -/
theorem Cut.lower {source : List Element} {ls : List Lexeme} (h : Cut source ls) :
    Cut (source.map Element.lower) (ls.map Lexeme.lower) := by
  induction h with
  | spaces n =>
      rw [Element.map_lower_spaces]
      exact .spaces n
  | @lexeme n l rest ls hl ha _ ih =>
      rw [List.map_append, List.map_append, Element.map_lower_spaces, ← elements_lower hl]
      exact .lexeme n hl.lower ha.lower ih

theorem lexemes_lower (source : List Element) :
    lexemes (source.map Element.lower) = (lexemes source).map lower :=
  cut_iff.mp (cut_lexemes source).lower

/-! ## Records -/

theorem lineBreaks_lower (l : Lexeme) : l.lower.lineBreaks = l.lineBreaks := by
  cases l <;> rfl

theorem lowered_between (before after : String) {inner other : String}
    (h : lowered inner = lowered other) :
    lowered (before ++ inner ++ after) = lowered (before ++ other ++ after) := by
  simp only [lowered, String.toList_append, List.map_append] at h ⊢
  rw [h]

theorem alike_onLine {a b : Complaint} (line : Int) (hcode : a.code = b.code)
    (htext : lowered a.text = lowered b.text) :
    Record.Alike (.diagnostic (a.onLine line)) (.diagnostic (b.onLine line)) := by
  refine .diagnostic rfl hcode ?_
  have hmsg := lowered_between ("Line " ++ toString line ++ ": ") "" htext
  rwa [String.append_empty, String.append_empty] at hmsg

/-- Words with one lower case make alike records. -/
theorem alike_wordRecord (line : Int) {letters others : List Char}
    (h : letters.map Char.toLower = others.map Char.toLower) :
    Record.Alike (wordRecord line letters) (wordRecord line others) := by
  have hkeyword : Keyword.ofWord? letters = Keyword.ofWord? others := by
    rw [Keyword.ofWord?, h, Keyword.ofWord?]
  have hlength : letters.length = others.length := by
    simpa using congrArg List.length h
  have hvalue : lowered (String.ofList letters) = lowered (String.ofList others) := by
    simpa [lowered] using h
  unfold wordRecord
  rw [hkeyword, hlength]
  cases Keyword.ofWord? others with
  | some k => exact .token rfl hvalue
  | none =>
      by_cases hle : others.length ≤ maxIdentifierLength
      · simp only [if_pos hle]
        exact .token rfl hvalue
      · simp only [if_neg hle]
        have htext : lowered (Complaint.wordTooLong letters).text =
            lowered (Complaint.wordTooLong others).text := by
          rw [Complaint.text_wordTooLong, Complaint.text_wordTooLong]
          exact lowered_between _ _ hvalue
        exact alike_onLine line rfl htext

/-- Lexemes with one lower case make alike records. -/
theorem alike_record (line : Int) {l m : Lexeme} (h : l.lower = m.lower) :
    Record.Alike (l.record line) (m.record line) := by
  have hsame : ∀ r : Record, r.Alike r := by
    rintro (t | d)
    · exact .token rfl rfl
    · exact .diagnostic rfl rfl rfl
  cases l with
  | word letters =>
      cases m with
      | word others => exact alike_wordRecord line (Lexeme.word.inj h)
      | _ => cases h
  | stray e =>
      cases m with
      | stray f =>
          have hvalue : lowered (String.ofList e) = lowered (String.ofList f) := by
            simpa [lowered, Element.lower] using Lexeme.stray.inj h
          have htext : lowered (Complaint.badCharacter e).text =
              lowered (Complaint.badCharacter f).text :=
            lowered_between "Invalid character '" "'" hvalue
          exact alike_onLine line rfl htext
      | _ => cases h
  | _ =>
      cases m with
      | word others => cases h
      | stray f => cases h
      | _ => first | cases h; exact hsame _ | cases h

theorem alike_records (line : Int) {ls ms : List Lexeme} (h : ls.map lower = ms.map lower) :
    List.Forall₂ Record.Alike (records line ls) (records line ms) := by
  induction ls generalizing line ms with
  | nil =>
      obtain rfl := List.map_eq_nil_iff.mp h.symm
      exact .nil
  | cons l ls ih =>
      obtain ⟨m, others, rfl, hm, hothers⟩ := List.map_eq_cons_iff.mp h.symm
      refine .cons (alike_record line hm.symm) ?_
      rw [← lineBreaks_lower l, ← hm, lineBreaks_lower]
      exact ih _ hothers.symm

end Lexeme

theorem alike_sourceRecords {source other : List Element}
    (h : source.map Element.lower = other.map Element.lower) :
    List.Forall₂ Record.Alike (sourceRecords source) (sourceRecords other) := by
  refine Lexeme.alike_records 1 ?_
  rw [← Lexeme.lexemes_lower, h, Lexeme.lexemes_lower]

theorem length_diagnostics_of_alike {rs ss : List Record} (h : List.Forall₂ Record.Alike rs ss) :
    (Record.diagnostics rs).length = (Record.diagnostics ss).length := by
  induction h with
  | nil => rfl
  | cons hr _ ih =>
      cases hr with
      | token _ _ => exact ih
      | diagnostic _ _ _ => exact congrArg (· + 1) ih

/-- The value of a token is the piece of the source that the token was made from. Only the end of a
line has a name for its value. -/
def Record.KeepsPiece (p : List Element) (r : Record) : Prop :=
  ∀ t, r = .token t → t.kind ≠ .endOfLine → p = Element.ofText t.value.toList

theorem keepsPiece_records {ls : List Lexeme} (h : ∀ l ∈ ls, l.InText) (line : Int) :
    List.Forall₂ Record.KeepsPiece (ls.map Lexeme.elements) (Lexeme.records line ls) := by
  induction ls generalizing line with
  | nil => exact .nil
  | cons l ls ih =>
      obtain ⟨hl, hls⟩ := List.forall_mem_cons.mp h
      refine .cons ?_ (ih hls _)
      intro t ht hkind
      rw [hl.elements_eq line, ht, Record.text, if_neg hkind]

/-- **The case of letters makes no difference to a scan.** Two texts that are the same in lower case
make as many records, in the same order and for the same sinks. Tokens in the same place are of one
kind, diagnostics have one code and one line, and values and messages are the same in lower case. So
one scan succeeds if the other does. In every scan the value of a token is its own piece of the
source, in the case in which it stands there. -/
theorem delivered_letterCase {cs ds : List Char} (h : cs.map Char.toLower = ds.map Char.toLower) :
    List.Forall₂ Record.Alike (delivered (Element.ofText cs)) (delivered (Element.ofText ds)) ∧
    (scan cs).success = (scan ds).success ∧
    ∀ text, ∃ d : Decomposition, MaximalMunch (Element.ofText text) d ∧
      List.Forall₂ Record.KeepsPiece d.lexemes (deliveredBeforeEnd (Element.ofText text)) := by
  have halike : List.Forall₂ Record.Alike (sourceRecords (Element.ofText cs))
      (sourceRecords (Element.ofText ds)) := by
    apply alike_sourceRecords
    rw [Element.map_lower_ofText, Element.map_lower_ofText, h]
  refine ⟨?_, ?_, ?_⟩
  · rw [delivered_eq, delivered_eq]
    exact List.rel_append halike (.cons (.token rfl rfl) .nil)
  · have hlength := length_diagnostics_of_alike halike
    rw [scan_eq, scan_eq, deliveredBeforeEnd_eq, deliveredBeforeEnd_eq, Bool.eq_iff_iff,
      List.isEmpty_iff_length_eq_zero, List.isEmpty_iff_length_eq_zero, hlength]
  · intro text
    have hcut := Lexeme.cut_lexemes (Element.ofText text)
    obtain ⟨d, hd, hlexemes⟩ := exists_maximalMunch hcut
    refine ⟨d, hd, ?_⟩
    rw [hlexemes, deliveredBeforeEnd_eq]
    exact keepsPiece_records (hcut.spaced rfl 1).1 1

/-- A keyword, an identifier with a digit, and a word that is too long. -/
theorem delivered_letterCase_words :
    let cs := "BeGiN x9Y\nabcdefghijklmnopq".toList
    let ds := "begin X9y\nABCDEFGHIJKLMNOPQ".toList
    cs.map Char.toLower = ds.map Char.toLower ∧ cs ≠ ds ∧
    List.Forall₂ Record.Alike (delivered (Element.ofText cs)) (delivered (Element.ofText ds)) ∧
    (scan cs).success = (scan ds).success ∧ (scan ds).success = false := by
  intro cs ds
  have h : cs.map Char.toLower = ds.map Char.toLower := by
    decide
  obtain ⟨halike, hsuccess, -⟩ := delivered_letterCase h
  refine ⟨h, by decide, halike, hsuccess, ?_⟩
  decide +kernel

end PascalScan
