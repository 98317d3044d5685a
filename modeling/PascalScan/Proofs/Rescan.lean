import PascalScan.Proofs.Concatenation

/-!
# What a scan may deliver, and scanning it again

The records of a source can be written out as a source again: each record stands for a text, and
texts that do not merge are put one after the other. This file says which sequences of records a
scan of a text delivers at all (`WellFormed`), and from which texts it delivers them (`Spaced`).

* `wellFormed_cons` ties well-formed sequences to lexemes, one record at a time.
* `exists_lexemes` and `Cut.spaced` are the two directions over whole sequences.
* `delivered_ofText_iff` puts them together.
-/

namespace PascalScan

/-! ## Well-formed sequences -/

/-- A token that a scan can make. -/
def Token.Scannable (t : Token) : Prop :=
  match t.kind with
  | .keyword k => t.value.toList.map Char.toLower = k.word.toList
  | .identifier =>
      IsWord t.value.toList ∧ t.value.toList.length ≤ 16 ∧
        ∀ k : Keyword, t.value.toList.map Char.toLower ≠ k.word.toList
  | .constant => IsNumber t.value.toList
  | .symbol s => t.value = s.spelling
  | .endOfLine => t.value = "EOLN"
  | .endOfFile => False

/-- A complaint that a scan of a text can raise. -/
def Complaint.Scannable : Complaint → Prop
  | wordTooLong word => IsWord word ∧ 16 < word.length
  | misusedColon => True
  | badCharacter element => ∃ c, element = [c] ∧ Element.StartsNothing [c]

/-- How many of the records are ends of lines. -/
def lineEnds (rs : List Record) : Nat :=
  (Record.tokens rs).countP fun t => t.kind == .endOfLine

/-- A sequence of records, the first of which stands on the given line: tokens and complaints that
a scan can make, each complaint on the line that the ends of lines before it lead to. -/
structure WellFormed (line : Int) (rs : List Record) : Prop where
  token : ∀ t, .token t ∈ rs → t.Scannable
  diagnostic : ∀ d, .diagnostic d ∈ rs → ∃ c : Complaint, c.Scannable ∧ d = c.onLine d.line
  onLine : ∀ before d after, rs = before ++ .diagnostic d :: after → d.line = line + lineEnds before

/-! ## Texts of records, spaced out -/

/-- The texts of records one after the other, with any number of spaces before each and at the
end. No text merges with what stands after it. -/
inductive Spaced : List Record → List Char → Prop where
  | last (n : Nat) : Spaced [] (List.replicate n ' ')
  | record (n : Nat) {r : Record} {rs : List Record} {rest : List Char} :
      ¬Merges (Element.ofText r.text) (Element.ofText rest) → Spaced rs rest →
        Spaced (r :: rs) (List.replicate n ' ' ++ (r.text ++ rest))

/-- The texts of records with a given number of spaces before each; the number after those of the
records is for the spaces at the end. -/
def spaced : List Record → (Nat → Nat) → List Char
  | [], gap => List.replicate (gap 0) ' '
  | r :: rs, gap => List.replicate (gap 0) ' ' ++ (r.text ++ spaced rs fun i => gap (i + 1))

@[simp] theorem Element.ofText_replicate (n : Nat) :
    ofText (List.replicate n ' ') = spaces n :=
  List.map_replicate

/-- A text that begins with elements of a source begins with their characters. -/
theorem Element.ofText_eq_spaces_append {text : List Char} {n : Nat} {es rest : List Element}
    (h : ofText text = spaces n ++ (es ++ rest)) :
    ∃ cs after, text = List.replicate n ' ' ++ (cs ++ after) ∧ es = ofText cs ∧
      rest = ofText after := by
  obtain ⟨lead, tail, rfl, hlead, htail⟩ := List.map_eq_append_iff.mp h
  obtain ⟨cs, after, rfl, hcs, hafter⟩ := List.map_eq_append_iff.mp htail
  obtain rfl : lead = List.replicate n ' ' :=
    ofText_injective (hlead.trans (ofText_replicate n).symm)
  exact ⟨cs, after, rfl, hcs.symm, hafter.symm⟩

theorem not_merges_spaces (u : List Element) (n : Nat) : ¬Merges u (Element.spaces n) := by
  rintro ⟨-, l, e, -, he, hjoin⟩
  rw [Lexeme.apart_spaces l n e he] at hjoin
  exact Bool.noConfusion hjoin

/-- With a space between any two records nothing merges. -/
theorem spaced_of_pos (rs : List Record) (gap : Nat → Nat)
    (h : ∀ i, 0 < i → i < rs.length → 0 < gap i) : Spaced rs (spaced rs gap) := by
  induction rs generalizing gap with
  | nil => exact .last _
  | cons r rs ih =>
      refine .record (gap 0) ?_ (ih _ fun i _ hi => h (i + 1) (by omega) (by simpa using hi))
      cases rs with
      | nil =>
          rw [spaced, Element.ofText_replicate]
          exact not_merges_spaces _ _
      | cons s rs =>
          -- The first character of the rest is a space.
          obtain ⟨n, hn⟩ := Nat.exists_eq_succ_of_ne_zero (h 1 (by omega) (by simp)).ne'
          refine not_merges_of_blank (.inl rfl) (.inr ?_)
          simp [spaced, hn, List.replicate_succ, -Element.ofText_replicate]

/-! ## Records and lexemes -/

/-- A word in any case has the letters of the word. -/
theorem isWord_of_lower {letters : List Char} {k : Keyword}
    (h : letters.map Char.toLower = k.word.toList) : IsWord letters := by
  have hall : ∀ c ∈ letters, c.isAlpha = true := by
    intro c hc
    have hlower : c.toLower ∈ k.word.toList := h ▸ List.mem_map_of_mem hc
    have halpha : k.word.toList.all Char.isAlpha = true := by
      cases k <;> decide
    rw [← Char.isAlpha_toLower_eq_isAlpha]
    exact List.all_eq_true.mp halpha _ hlower
  cases letters with
  | nil => cases k <;> exact absurd h (by decide)
  | cons c cs =>
      refine ⟨c, cs, rfl, hall c (by simp), ?_⟩
      intro d hd
      simp [Char.isAlphanum, hall d (by simp [hd])]

/-- No keyword is too long for an identifier. -/
theorem ne_word_of_length {letters : List Char} (h : 16 < letters.length) (k : Keyword) :
    letters.map Char.toLower ≠ k.word.toList := by
  intro hk
  have hlength := congrArg List.length hk
  have hshort : k.word.toList.length ≤ 16 := by
    cases k <;> decide
  rw [List.length_map] at hlength
  omega

/-- A record that a scan can make on a line. -/
def Record.Scannable (line : Int) : Record → Prop
  | token t => t.Scannable
  | diagnostic d => ∃ c : Complaint, c.Scannable ∧ d = c.onLine line

namespace Lexeme

/-- A lexeme that can stand in a text, where every element is one character. -/
def InText (l : Lexeme) : Prop := l.Proper ∧ l.elements = Element.ofText l.elements.flatten

theorem InText.of_eq {l : Lexeme} (hl : l.Proper) {cs : List Char}
    (h : l.elements = Element.ofText cs) : l.InText :=
  ⟨hl, by rw [h, Element.flatten_ofText]⟩

/-- The text of its record gives back the elements of a lexeme. -/
theorem InText.elements_eq {l : Lexeme} (h : l.InText) (line : Int) :
    l.elements = Element.ofText (l.record line).text := by
  rw [text_record]
  exact h.2

theorem scannable_record {l : Lexeme} (h : l.InText) (line : Int) :
    (l.record line).Scannable line := by
  obtain ⟨hl, helements⟩ := h
  cases l with
  | word letters =>
      rcases record_word letters with ⟨k, hk, hr⟩ | ⟨hnone, hle, hr⟩ | ⟨hnone, hlt, hr⟩
      · rw [hr]
        simpa [Record.Scannable, Token.Scannable] using hk
      · rw [hr]
        have hword : IsWord letters := hl
        simpa [Record.Scannable, Token.Scannable] using ⟨hword, hle, hnone⟩
      · rw [hr]
        exact ⟨.wordTooLong letters, ⟨hl, hlt⟩, rfl⟩
  | number digits =>
      have hnumber : IsNumber digits := hl
      simpa [record, Record.Scannable, Token.Scannable] using hnumber
  | symbol s => exact rfl
  | colon => exact ⟨.misusedColon, trivial, rfl⟩
  | lineBreak => exact rfl
  | stray e =>
      refine ⟨.badCharacter e, ?_, rfl⟩
      -- In a text the element is a single character.
      rcases e with _ | ⟨c, _ | ⟨d, cs⟩⟩
      · simp [elements] at helements
      · exact ⟨c, rfl, hl⟩
      · simp [elements] at helements

theorem exists_of_token {t : Token} (h : t.Scannable) (line : Int) :
    ∃ l : Lexeme, l.InText ∧ l.record line = .token t := by
  obtain ⟨kind, value⟩ := t
  cases kind with
  | keyword k =>
      have hk : value.toList.map Char.toLower = k.word.toList := h
      refine ⟨.word value.toList, .of_eq (isWord_of_lower hk) rfl, ?_⟩
      rw [record_keyword hk, String.ofList_toList]
  | identifier =>
      obtain ⟨hword, hle, hnone⟩ := h
      refine ⟨.word value.toList, .of_eq hword rfl, ?_⟩
      rw [record_identifier hnone hle, String.ofList_toList]
  | constant =>
      refine ⟨.number value.toList, .of_eq (l := .number _) h rfl, ?_⟩
      rw [record, String.ofList_toList]
  | symbol s =>
      obtain rfl : value = s.spelling := h
      exact ⟨.symbol s, .of_eq (l := .symbol s) trivial rfl, rfl⟩
  | endOfLine =>
      obtain rfl : value = "EOLN" := h
      have helements : Lexeme.lineBreak.elements = Element.ofText ['\n'] := rfl
      exact ⟨.lineBreak, .of_eq trivial helements, rfl⟩
  | endOfFile => exact h.elim

theorem exists_of_complaint {c : Complaint} (h : c.Scannable) (line : Int) :
    ∃ l : Lexeme, l.InText ∧ l.record line = .diagnostic (c.onLine line) := by
  cases c with
  | wordTooLong word =>
      obtain ⟨hword, hlt⟩ := h
      exact ⟨.word word, .of_eq hword rfl, record_tooLong (ne_word_of_length hlt) hlt⟩
  | misusedColon =>
      have helements : Lexeme.colon.elements = Element.ofText [':'] := rfl
      exact ⟨.colon, .of_eq trivial helements, rfl⟩
  | badCharacter element =>
      obtain ⟨c, rfl, hc⟩ := h
      have helements : (Lexeme.stray [c]).elements = Element.ofText [c] := rfl
      exact ⟨.stray [c], .of_eq hc helements, rfl⟩

theorem scannable_iff {line : Int} {r : Record} :
    r.Scannable line ↔ ∃ l : Lexeme, l.InText ∧ l.record line = r := by
  constructor
  · intro h
    cases r with
    | token t => exact exists_of_token h line
    | diagnostic d =>
        obtain ⟨c, hc, rfl⟩ := h
        exact exists_of_complaint hc line
  · rintro ⟨l, hl, rfl⟩
    exact scannable_record hl line

end Lexeme

/-! ## Sequences of records and of lexemes -/

theorem lineEnds_append (rs ss : List Record) : lineEnds (rs ++ ss) = lineEnds rs + lineEnds ss := by
  rw [lineEnds, Record.tokens_append, List.countP_append]
  rfl

theorem lineEnds_cons (r : Record) (rs : List Record) :
    lineEnds (r :: rs) = lineEnds [r] + lineEnds rs :=
  lineEnds_append [r] rs

theorem lineEnds_record (l : Lexeme) (line : Int) : lineEnds [l.record line] = l.lineBreaks := by
  cases l with
  | word letters =>
      rcases Lexeme.record_word letters with ⟨k, -, hr⟩ | ⟨-, -, hr⟩ | ⟨-, -, hr⟩
      · rw [hr]
        rfl
      · rw [hr]
        rfl
      · rw [hr]
        rfl
  | _ => rfl

theorem lineEnds_records (line : Int) (ls : List Lexeme) :
    lineEnds (Lexeme.records line ls) = ls.count .lineBreak := by
  induction ls generalizing line with
  | nil => rfl
  | cons l ls ih =>
      rw [Lexeme.records, lineEnds_cons, lineEnds_record, ih, Lexeme.lineBreaks_eq,
        List.count_cons, Nat.add_comm]
      simp

theorem wellFormed_cons {line : Int} {r : Record} {rs : List Record} :
    WellFormed line (r :: rs) ↔ r.Scannable line ∧ WellFormed (line + lineEnds [r]) rs := by
  constructor
  · intro h
    refine ⟨?_, ?_, ?_, ?_⟩
    · cases r with
      | token t => exact h.token t (by simp)
      | diagnostic d =>
          obtain ⟨c, hc, hd⟩ := h.diagnostic d (by simp)
          have hline : d.line = line + lineEnds [] := h.onLine [] d rs rfl
          refine ⟨c, hc, ?_⟩
          rw [hd, hline]
          simp [lineEnds, Record.tokens]
    · exact fun t ht => h.token t (by simp [ht])
    · exact fun d hd => h.diagnostic d (by simp [hd])
    · intro before d after hrs
      have hline := h.onLine (r :: before) d after (by rw [hrs, List.cons_append])
      rw [hline, lineEnds_cons, Int.natCast_add, Int.add_assoc]
  · rintro ⟨hr, hrs⟩
    refine ⟨?_, ?_, ?_⟩
    · intro t ht
      rcases List.mem_cons.mp ht with rfl | ht
      · exact hr
      · exact hrs.token t ht
    · intro d hd
      rcases List.mem_cons.mp hd with rfl | hd
      · obtain ⟨c, hc, rfl⟩ := hr
        exact ⟨c, hc, rfl⟩
      · exact hrs.diagnostic d hd
    · intro before d after heq
      -- The diagnostic is the first record or stands behind it.
      cases before with
      | nil =>
          obtain ⟨rfl, -⟩ := List.cons.inj heq
          obtain ⟨c, -, rfl⟩ := hr
          exact (Int.add_zero line).symm
      | cons s before =>
          obtain ⟨rfl, htail⟩ := List.cons.inj heq
          rw [hrs.onLine before d after htail, lineEnds_cons r before, Int.natCast_add,
            Int.add_assoc]

theorem wellFormed_records {ls : List Lexeme} (h : ∀ l ∈ ls, l.InText) (line : Int) :
    WellFormed line (Lexeme.records line ls) := by
  induction ls generalizing line with
  | nil => exact ⟨by simp [Lexeme.records], by simp [Lexeme.records], by simp [Lexeme.records]⟩
  | cons l ls ih =>
      obtain ⟨hl, hls⟩ := List.forall_mem_cons.mp h
      refine wellFormed_cons.mpr ⟨Lexeme.scannable_record hl line, ?_⟩
      rw [lineEnds_record]
      exact ih hls _

theorem WellFormed.exists_lexemes {line : Int} {rs : List Record} (h : WellFormed line rs) :
    ∃ ls : List Lexeme, (∀ l ∈ ls, l.InText) ∧ Lexeme.records line ls = rs := by
  induction rs generalizing line with
  | nil => exact ⟨[], by simp, rfl⟩
  | cons r rs ih =>
      obtain ⟨hr, hrs⟩ := wellFormed_cons.mp h
      obtain ⟨l, hl, rfl⟩ := Lexeme.scannable_iff.mp hr
      rw [lineEnds_record] at hrs
      obtain ⟨ls, hls, rfl⟩ := ih hrs
      exact ⟨l :: ls, List.forall_mem_cons.mpr ⟨hl, hls⟩, rfl⟩

/-- A lexeme by itself merges with exactly what it is not apart from. -/
theorem not_merges_elements {l : Lexeme} (hl : l.Proper) {v : List Element} :
    ¬Merges l.elements v ↔ l.Apart v := by
  have hself : (Lexeme.lexemes l.elements).getLast? = some l := by
    rw [Lexeme.cut_iff.mp (Lexeme.cut_elements hl)]
    rfl
  constructor
  · intro h e he
    by_contra hjoin
    have hend : l.elements.getLast? ≠ some [' '] := Lexeme.getLast?_elements hl []
    exact h ⟨hend, l, e, hself, he, by simpa using hjoin⟩
  · rintro ha ⟨-, m, e, hm, he, hjoin⟩
    obtain rfl : l = m := Option.some.inj (hself.symm.trans hm)
    rw [ha e he] at hjoin
    exact Bool.noConfusion hjoin

/-- How a text is cut says how the texts of its records are spaced in it. -/
theorem Lexeme.Cut.spaced {source : List Element} {ls : List Lexeme} (h : Cut source ls)
    {text : List Char} (htext : Element.ofText text = source) (line : Int) :
    (∀ l ∈ ls, l.InText) ∧ Spaced (records line ls) text := by
  induction h generalizing text line with
  | spaces n =>
      obtain rfl : text = List.replicate n ' ' :=
        Element.ofText_injective (htext.trans (Element.ofText_replicate n).symm)
      exact ⟨by simp, .last n⟩
  | @lexeme n l rest ls hl ha _ ih =>
      -- The text falls into characters where the source falls into elements.
      obtain ⟨cs, after, rfl, hcs, rfl⟩ := Element.ofText_eq_spaces_append htext
      have hl' : l.InText := .of_eq hl hcs
      obtain ⟨hls, hspaced⟩ := ih rfl (line + l.lineBreaks)
      have hrecord : (l.record line).text = cs :=
        Element.ofText_injective ((hl'.elements_eq line).symm.trans hcs)
      refine ⟨List.forall_mem_cons.mpr ⟨hl', hls⟩, ?_⟩
      rw [← hrecord]
      refine .record n ?_ hspaced
      rw [← hl'.elements_eq line]
      exact (not_merges_elements hl).mpr ha

/-- The texts of records, spaced out, are cut into the lexemes of the records. -/
theorem Spaced.cut {ls : List Lexeme} (h : ∀ l ∈ ls, l.InText) {text : List Char} {line : Int}
    (hspaced : Spaced (Lexeme.records line ls) text) :
    Lexeme.Cut (Element.ofText text) ls := by
  induction ls generalizing text line with
  | nil =>
      cases hspaced with
      | last n =>
          rw [Element.ofText_replicate]
          exact .spaces n
  | cons l ls ih =>
      obtain ⟨hl, hls⟩ := List.forall_mem_cons.mp h
      cases hspaced with
      | record n hmerges hrest =>
          rw [← hl.elements_eq line, not_merges_elements hl.1] at hmerges
          rw [Element.ofText_append, Element.ofText_append, Element.ofText_replicate,
            ← hl.elements_eq line]
          exact .lexeme n hl.1 hmerges (ih hls hrest)

/-! ## Scanning again -/

/-- The texts from which a scan delivers a sequence of records: the sequence is well formed, and
the text is made of the texts of its records and spaces. -/
theorem delivered_ofText_iff (text : List Char) (rs : List Record) :
    delivered (Element.ofText text) = rs ++ [.endOfFile] ↔ WellFormed 1 rs ∧ Spaced rs text := by
  rw [delivered_eq, List.append_left_inj]
  constructor
  · rintro rfl
    obtain ⟨hls, hspaced⟩ := (Lexeme.cut_lexemes (Element.ofText text)).spaced rfl 1
    exact ⟨wellFormed_records hls 1, hspaced⟩
  · rintro ⟨hrs, hspaced⟩
    obtain ⟨ls, hls, rfl⟩ := hrs.exists_lexemes
    rw [sourceRecords, Lexeme.cut_iff.mp (Spaced.cut hls hspaced)]

theorem wellFormed_sourceRecords (text : List Char) :
    WellFormed 1 (sourceRecords (Element.ofText text)) :=
  ((delivered_ofText_iff text _).mp (delivered_eq _)).1

/-- **Round trip.** The sequences that a scan of some text delivers are the well-formed ones. From
the texts of such a sequence, with any numbers of spaces between them that are not zero, a scan
delivers the sequence again. And every text is written in this way: it is the texts of the records
that its own scan delivers, spaced out so that none merges with what follows. -/
theorem delivered_wellFormed (rs : List Record) :
    ((∃ text, delivered (Element.ofText text) = rs ++ [.endOfFile]) ↔ WellFormed 1 rs) ∧
    (WellFormed 1 rs → ∀ gap : Nat → Nat, (∀ i, 0 < i → i < rs.length → 0 < gap i) →
      delivered (Element.ofText (spaced rs gap)) = rs ++ [.endOfFile]) ∧
    (∀ text, delivered (Element.ofText text) = rs ++ [.endOfFile] ↔
      WellFormed 1 rs ∧ Spaced rs text) := by
  refine ⟨⟨?_, ?_⟩, ?_, fun text => delivered_ofText_iff text rs⟩
  · rintro ⟨text, h⟩
    exact ((delivered_ofText_iff text rs).mp h).1
  · intro hrs
    have hspaced := spaced_of_pos rs (fun _ => 1) fun _ _ _ => Nat.one_pos
    exact ⟨_, (delivered_ofText_iff _ rs).mpr ⟨hrs, hspaced⟩⟩
  · intro hrs gap hgap
    exact (delivered_ofText_iff _ rs).mpr ⟨hrs, spaced_of_pos rs gap hgap⟩

theorem delivered_wellFormed_colon :
    let rs : List Record :=
      [.token ⟨.keyword .ifWord, "If"⟩, .diagnostic (Complaint.onLine .misusedColon 1),
        .token ⟨.endOfLine, "EOLN"⟩, .diagnostic (Complaint.onLine (.badCharacter ['?']) 2)]
    WellFormed 1 rs ∧ delivered (Element.ofText (spaced rs fun _ => 2)) = rs ++ [.endOfFile] := by
  intro rs
  have hscan : delivered (Element.ofText "If:\n?".toList) = rs ++ [.endOfFile] := by
    decide +kernel
  have hrs : WellFormed 1 rs := (delivered_wellFormed rs).1.mp ⟨_, hscan⟩
  exact ⟨hrs, (delivered_wellFormed rs).2.1 hrs (fun _ => 2) fun _ _ _ => Nat.two_pos⟩

end PascalScan
