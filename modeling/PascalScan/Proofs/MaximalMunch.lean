import PascalScan.Proofs.Records

/-!
# Maximal munch

The rules of the language say nothing of a scanner. They say which pieces may be lexemes
(`Lexical`), that the longest one is taken at each place after all the spaces there
(`MaximalMunch`), and which record a piece makes (`PieceRecord`).

Shape of the result: every source is taken apart by these rules in exactly one way, the records of
its pieces are determined, and the sinks get just these and then the mark for the end.
-/

namespace PascalScan

open Lexeme (Proper)

/-! ## The rules -/

/-- The pieces that may be lexemes. -/
inductive Lexical : List Element → Prop where
  | word {letters : List Char} : IsWord letters → Lexical (Element.ofText letters)
  | number {digits : List Char} : IsNumber digits → Lexical (Element.ofText digits)
  | pair {t : String} : t ∈ ["<=", "<>", ">=", ":="] → Lexical (Element.ofText t.toList)
  | single (e : Element) : Lexical [e]

/-- The longest piece at the front of a source that may be a lexeme. -/
structure LongestLexical (p source : List Element) : Prop where
  lexical : Lexical p
  isPrefix : p <+: source
  longest : ∀ q, Lexical q → q <+: source → q.length ≤ p.length

/-- A source as spaces and pieces in turn. -/
structure Decomposition where
  /-- The pieces, each with the spaces before it. -/
  pieces : List (List Element × List Element)
  /-- The spaces at the end. -/
  last : List Element

/-- The pieces without the spaces. -/
def Decomposition.lexemes (d : Decomposition) : List (List Element) := d.pieces.map Prod.snd

/-- A source taken apart greedily: at each place all the spaces, then the longest lexeme. -/
inductive MaximalMunch : List Element → Decomposition → Prop where
  | done {w : List Element} : (∀ e ∈ w, e = [' ']) → MaximalMunch w ⟨[], w⟩
  | piece {w p rest : List Element} {pieces : List (List Element × List Element)}
      {last : List Element} :
      (∀ e ∈ w, e = [' ']) → (p ++ rest).head? ≠ some [' '] → LongestLexical p (p ++ rest) →
        MaximalMunch rest ⟨pieces, last⟩ →
          MaximalMunch (w ++ (p ++ rest)) ⟨(w, p) :: pieces, last⟩

/-- The record of a piece that stands on a line. -/
inductive PieceRecord (line : Int) : List Element → Record → Prop where
  | keyword {letters : List Char} {k : Keyword} :
      IsWord letters → letters.map Char.toLower = k.word.toList →
        PieceRecord line (Element.ofText letters) (.token ⟨.keyword k, String.ofList letters⟩)
  | identifier {letters : List Char} :
      IsWord letters → (∀ k : Keyword, letters.map Char.toLower ≠ k.word.toList) →
        letters.length ≤ 16 →
          PieceRecord line (Element.ofText letters) (.token ⟨.identifier, String.ofList letters⟩)
  | tooLong {letters : List Char} :
      IsWord letters → (∀ k : Keyword, letters.map Char.toLower ≠ k.word.toList) →
        16 < letters.length →
          PieceRecord line (Element.ofText letters)
            (.diagnostic (.onLine line "E_LEX_IDENT_TOO_LONG"
              ("Identifier name '" ++ String.ofList letters ++ "' exceeds 16 characters")))
  | constant {digits : List Char} :
      IsNumber digits →
        PieceRecord line (Element.ofText digits) (.token ⟨.constant, String.ofList digits⟩)
  | symbol (s : Symbol) :
      PieceRecord line (Element.ofText s.spelling.toList) (.token ⟨.symbol s, s.spelling⟩)
  | colon :
      PieceRecord line [[':']] (.diagnostic (.onLine line "E_LEX_MISUSED_COLON" "Misused colon"))
  | lineBreak : PieceRecord line [['\n']] (.token ⟨.endOfLine, "EOLN"⟩)
  | badCharacter {e : Element} :
      e.StartsNothing →
        PieceRecord line [e] (.diagnostic (.onLine line "E_LEX_BAD_CHAR"
          ("Invalid character '" ++ String.ofList e ++ "'")))

/-- The records of pieces, the first of which stands on the given line; a line ends at each piece
that is a line end. -/
inductive Recorded : Int → List (List Element) → List Record → Prop where
  | nil (line : Int) : Recorded line [] []
  | cons {line : Int} {p : List Element} {r : Record} {ps : List (List Element)}
      {rs : List Record} :
      PieceRecord line p r → Recorded (line + if p = [['\n']] then 1 else 0) ps rs →
        Recorded line (p :: ps) (r :: rs)

/-! ## A lexeme that is apart is longest -/

theorem lexical_elements {l : Lexeme} (hl : l.Proper) : Lexical l.elements := by
  cases l with
  | word letters => exact .word hl
  | number digits => exact .number hl
  | symbol s => cases s <;> first | exact .single _ | exact .pair (by decide)
  | colon => exact .single _
  | lineBreak => exact .single _
  | stray e => exact .single e

theorem exists_symbol_of_pair {t : String} (ht : t ∈ ["<=", "<>", ">=", ":="]) :
    ∃ (s : Symbol) (c d : Char), s.spelling.toList = [c, d] ∧ t.toList = [c, d] := by
  simp only [List.mem_cons, List.not_mem_nil, or_false] at ht
  rcases ht with rfl | rfl | rfl | rfl
  · exact ⟨.lessOrEqual, '<', '=', by decide, by decide⟩
  · exact ⟨.notEqual, '<', '>', by decide, by decide⟩
  · exact ⟨.greaterOrEqual, '>', '=', by decide, by decide⟩
  · exact ⟨.assign, ':', '=', by decide, by decide⟩

/-- If more than a lexeme may be a lexeme, then the lexeme goes on. -/
theorem joins_of_lexical {l : Lexeme} {e : Element} {more q : List Element} (hl : l.Proper)
    (hq : Lexical q) (heq : q = l.elements ++ e :: more) : l.joins e = true := by
  cases hq with
  | @word letters hletters =>
      obtain ⟨before, d, after, rfl, hbefore, rfl⟩ := Element.ofText_eq_append_cons heq
      obtain ⟨c, cs, hcons, hc, hcs⟩ := hletters
      -- The front of a word is a word, so the lexeme is one, and the next character belongs to it.
      match before with
      | [] => exact absurd hbefore (Lexeme.elements_ne_nil hl)
      | b :: bs =>
          obtain ⟨rfl, rfl⟩ := List.cons.inj hcons
          have hword : IsWord (b :: bs) := ⟨b, bs, rfl, hc, fun x hx => hcs x (by simp [hx])⟩
          rw [Lexeme.elements_injective (m := .word (b :: bs)) hl hword hbefore]
          exact hcs d (by simp)
  | @number digits hdigits =>
      obtain ⟨before, d, after, rfl, hbefore, rfl⟩ := Element.ofText_eq_append_cons heq
      have hne : before ≠ [] := by
        rintro rfl
        exact Lexeme.elements_ne_nil hl hbefore
      have hnumber : IsNumber before := ⟨hne, fun x hx => hdigits.2 x (by simp [hx])⟩
      rw [Lexeme.elements_injective (m := .number before) hl hnumber hbefore]
      exact hdigits.2 d (by simp)
  | @pair t ht =>
      obtain ⟨s, c, d, hs, htext⟩ := exists_symbol_of_pair ht
      rw [htext, Element.ofText_cons, Element.ofText_cons] at heq
      -- A front of a pair is one character of a symbol, which is no letter and no digit.
      match hes : l.elements, Lexeme.elements_ne_nil hl with
      | [x], _ =>
          rw [hes] at heq
          obtain ⟨rfl, hrest⟩ := List.cons.inj heq
          obtain ⟨rfl, -⟩ := List.cons.inj hrest
          obtain ⟨hc, hspace, -⟩ := Symbol.mem_spelling (s := s) (c := c) (by simp [hs])
          have hsame : l.elements = (Lexeme.ofChar c).elements := by
            rw [hes, Lexeme.elements_ofChar]
          rw [Lexeme.elements_injective hl (Lexeme.proper_ofChar hc hspace) hsame]
          exact Lexeme.joins_ofChar.mpr ⟨s, hs⟩
      | x :: y :: es, _ =>
          rw [hes] at heq
          simp at heq
  | single x =>
      have hlength := congrArg List.length heq
      have hpos := List.length_pos_iff.mpr (Lexeme.elements_ne_nil hl)
      simp only [List.length_append, List.length_cons, List.length_nil] at hlength
      omega

/-- A lexeme that goes on with an element makes a longer one with it. -/
theorem lexical_of_joins {l : Lexeme} {e : Element} (hl : l.Proper) (h : l.joins e = true) :
    Lexical (l.elements ++ [e]) := by
  obtain ⟨c, rfl⟩ := Lexeme.exists_of_joins h
  cases l with
  | word letters =>
      obtain ⟨d, ds, rfl, hd, hds⟩ := hl
      have hc : c.isAlphanum = true := h
      have hword : IsWord (d :: (ds ++ [c])) :=
        ⟨d, ds ++ [c], rfl, hd, List.forall_mem_append.mpr ⟨hds, by simpa using hc⟩⟩
      simpa [Lexeme.elements] using Lexical.word hword
  | number digits =>
      have hc : c.isDigit = true := h
      have hnumber : IsNumber (digits ++ [c]) :=
        ⟨by simp, List.forall_mem_append.mpr ⟨hl.2, by simpa using hc⟩⟩
      simpa [Lexeme.elements] using Lexical.number hnumber
  | symbol s =>
      have hs : (s = .less ∧ (c = '=' ∨ c = '>')) ∨ (s = .greater ∧ c = '=') := by
        cases s <;> simp_all [Lexeme.joins]
      rcases hs with ⟨rfl, rfl | rfl⟩ | ⟨rfl, rfl⟩
      · exact .pair (t := "<=") (by decide)
      · exact .pair (t := "<>") (by decide)
      · exact .pair (t := ">=") (by decide)
  | colon =>
      obtain rfl : c = '=' := by simpa [Lexeme.joins] using h
      exact .pair (t := ":=") (by decide)
  | lineBreak => exact Bool.noConfusion h
  | stray e => exact Bool.noConfusion h

theorem longestLexical_of_apart {l : Lexeme} {rest : List Element} (hl : l.Proper)
    (ha : l.Apart rest) : LongestLexical l.elements (l.elements ++ rest) where
  lexical := lexical_elements hl
  isPrefix := List.prefix_append _ _
  longest := by
    intro q hq hprefix
    by_contra hlong
    have hle : l.elements.length ≤ q.length := by omega
    obtain ⟨more, rfl⟩ := List.prefix_of_prefix_length_le (List.prefix_append _ _) hprefix hle
    match more with
    | [] => simp at hlong
    | e :: more =>
        obtain ⟨tail, htail⟩ := (List.prefix_append_right_inj _).mp hprefix
        have hjoin := joins_of_lexical hl hq rfl
        rw [ha e (by simp [← htail])] at hjoin
        exact Bool.noConfusion hjoin

theorem Lexical.ne_nil {p : List Element} (hp : Lexical p) : p ≠ [] := by
  cases hp with
  | word hletters =>
      obtain ⟨c, cs, rfl, -⟩ := hletters
      exact List.cons_ne_nil _ _
  | number hdigits => simpa [Element.ofText] using hdigits.1
  | pair ht =>
      obtain ⟨s, c, d, -, htext⟩ := exists_symbol_of_pair ht
      simp [htext]
  | single e => exact List.cons_ne_nil _ _

theorem LongestLexical.unique {p q source : List Element} (hp : LongestLexical p source)
    (hq : LongestLexical q source) : p = q :=
  (List.prefix_of_prefix_length_le hp.isPrefix hq.isPrefix
    (hq.longest p hp.lexical hp.isPrefix)).eq_of_length_le (hp.longest q hq.lexical hq.isPrefix)

/-! ## One way to take a source apart -/

/-- The scanner takes a source apart greedily. -/
theorem exists_maximalMunch {source : List Element} {ls : List Lexeme}
    (hcut : Lexeme.Cut source ls) :
    ∃ d, MaximalMunch source d ∧ d.lexemes = ls.map Lexeme.elements := by
  induction hcut with
  | spaces n => exact ⟨⟨[], Element.spaces n⟩, .done fun e he => List.eq_of_mem_replicate he, rfl⟩
  | @lexeme n l rest ls hl ha _ ih =>
      obtain ⟨⟨pieces, last⟩, hd, hlexemes⟩ := ih
      obtain ⟨e, es, hes, he, -⟩ := Lexeme.read_of_proper hl ha
      refine ⟨⟨(Element.spaces n, l.elements) :: pieces, last⟩, ?_, ?_⟩
      · refine .piece (fun e he => List.eq_of_mem_replicate he) ?_ (longestLexical_of_apart hl ha) hd
        simpa [hes] using he
      · rw [List.map_cons, ← hlexemes]
        rfl

/-- Two runs of spaces at the front are the same if nothing more can be taken into either. -/
theorem spaces_unique {v w s t : List Element} (hv : ∀ e ∈ v, e = [' ']) (hw : ∀ e ∈ w, e = [' '])
    (hs : s.head? ≠ some [' ']) (ht : t.head? ≠ some [' ']) (h : v ++ s = w ++ t) :
    v = w ∧ s = t := by
  have hskip : ∀ {u r : List Element}, (∀ e ∈ u, e = [' ']) → r.head? ≠ some [' '] →
      (u ++ r).dropWhile Element.isSpace = r := by
    intro u r hu hr
    have hrun : u = Element.spaces u.length := List.eq_replicate_iff.mpr ⟨rfl, hu⟩
    rw [hrun, Element.dropWhile_spaces _ _ hr]
  have hst : s = t := by rw [← hskip hv hs, h, hskip hw ht]
  subst hst
  exact ⟨List.append_cancel_right h, rfl⟩

theorem head?_of_spaces {w p rest : List Element} (h : ∀ e ∈ w ++ (p ++ rest), e = [' '])
    (hp : p ≠ []) : ¬(p ++ rest).head? ≠ some [' '] := by
  obtain ⟨e, es, rfl⟩ := List.exists_cons_of_ne_nil hp
  have he : e = [' '] := h e (by simp)
  simp [he]

theorem MaximalMunch.unique {source : List Element} {d d' : Decomposition}
    (h : MaximalMunch source d) (h' : MaximalMunch source d') : d' = d := by
  induction h generalizing d' with
  | done hw =>
      cases h' with
      | done => rfl
      | piece hw' hhead hp' hrest => exact absurd hhead (head?_of_spaces hw hp'.lexical.ne_nil)
  | @piece w p rest pieces last hw hhead hp _ ih =>
      generalize hsource : w ++ (p ++ rest) = source at h'
      cases h' with
      | done hw' =>
          subst hsource
          exact absurd hhead (head?_of_spaces hw' hp.lexical.ne_nil)
      | @piece w' p' rest' pieces' last' hw' hhead' hp' hrest' =>
          -- The spaces agree first; then the longest pieces do; then the induction goes on.
          obtain ⟨rfl, hsame⟩ := spaces_unique hw hw' hhead hhead' hsource
          obtain rfl : p = p' := hp.unique (hsame ▸ hp')
          obtain rfl : rest = rest' := List.append_cancel_left hsame
          cases ih hrest'
          rfl

/-! ## Records -/

/-- The rule for pieces gives the record of the lexeme that has their elements. -/
theorem pieceRecord_iff {line : Int} {l : Lexeme} (hl : l.Proper) {r : Record} :
    PieceRecord line l.elements r ↔ r = l.record line := by
  constructor
  · intro h
    generalize hp : l.elements = p at h
    cases h with
    | @keyword letters k hletters hk =>
        obtain rfl := Lexeme.elements_injective (m := .word letters) hl hletters hp
        exact (Lexeme.record_keyword hk).symm
    | @identifier letters hletters hnone hle =>
        obtain rfl := Lexeme.elements_injective (m := .word letters) hl hletters hp
        exact (Lexeme.record_identifier hnone hle).symm
    | @tooLong letters hletters hnone hlt =>
        obtain rfl := Lexeme.elements_injective (m := .word letters) hl hletters hp
        rw [Lexeme.record_tooLong hnone hlt, Complaint.onLine, Complaint.text_wordTooLong]
        rfl
    | @constant digits hdigits =>
        obtain rfl := Lexeme.elements_injective (m := .number digits) hl hdigits hp
        rfl
    | symbol s =>
        obtain rfl := Lexeme.elements_injective (m := .symbol s) hl trivial hp
        rfl
    | colon =>
        obtain rfl := Lexeme.elements_injective (m := .colon) hl trivial hp
        rfl
    | lineBreak =>
        obtain rfl := Lexeme.elements_injective (m := .lineBreak) hl trivial hp
        rfl
    | @badCharacter e he =>
        obtain rfl := Lexeme.elements_injective (m := .stray e) hl he hp
        rfl
  · rintro rfl
    cases l with
    | word letters =>
        rcases Lexeme.record_word letters with ⟨k, hk, hr⟩ | ⟨hnone, hle, hr⟩ | ⟨hnone, hlt, hr⟩
        · rw [hr]
          exact .keyword hl hk
        · rw [hr]
          exact .identifier hl hnone hle
        · rw [hr, Complaint.onLine, Complaint.text_wordTooLong]
          exact .tooLong hl hnone hlt
    | number digits => exact .constant hl
    | symbol s => exact .symbol s
    | colon => exact .colon
    | lineBreak => exact .lineBreak
    | stray e => exact .badCharacter hl

theorem recorded_iff {ls : List Lexeme} (hls : ∀ l ∈ ls, l.Proper) {line : Int}
    {rs : List Record} :
    Recorded line (ls.map Lexeme.elements) rs ↔ rs = Lexeme.records line ls := by
  induction ls generalizing line rs with
  | nil =>
      constructor
      · rintro ⟨⟩
        rfl
      · rintro rfl
        exact .nil line
  | cons l ls ih =>
      obtain ⟨hl, hls⟩ := List.forall_mem_cons.mp hls
      -- A piece is a line end exactly if its lexeme is.
      have hbreak : (if l.elements = [['\n']] then 1 else 0 : Int) = l.lineBreaks := by
        rw [Lexeme.lineBreaks_eq]
        by_cases h : l = .lineBreak
        · subst h
          rfl
        · have hne : l.elements ≠ [['\n']] := fun he =>
            h (Lexeme.elements_injective (m := .lineBreak) hl trivial he)
          simp [h, hne]
      constructor
      · rintro (_ | ⟨hr, hrs⟩)
        rw [hbreak, ih hls] at hrs
        rw [(pieceRecord_iff hl).mp hr, hrs]
        rfl
      · rintro rfl
        refine .cons ((pieceRecord_iff hl).mpr rfl) ?_
        rw [hbreak]
        exact (ih hls).mpr rfl

theorem Recorded.kind {line : Int} {ps : List (List Element)} {rs : List Record}
    (h : Recorded line ps rs) : ∀ t, Record.token t ∈ rs → t.kind ≠ .endOfFile := by
  induction h with
  | nil => simp
  | cons hr _ ih =>
      intro t ht
      rcases List.mem_cons.mp ht with rfl | ht
      · cases hr <;> simp
      · exact ih t ht

/-- **Maximal munch.** A source is taken apart greedily in exactly one way, the rules give its
pieces exactly one sequence of records, none of them an end of the source, and the sinks get these
records and then the mark for the end. -/
theorem delivered_maximalMunch (source : List Element) :
    ∃ (d : Decomposition) (rs : List Record),
      MaximalMunch source d ∧ (∀ d', MaximalMunch source d' → d' = d) ∧
      (∀ rs', Recorded 1 d.lexemes rs' ↔ rs' = rs) ∧
      (∀ t, Record.token t ∈ rs → t.kind ≠ .endOfFile) ∧
      delivered source = rs ++ [.token ⟨.endOfFile, "EOF"⟩] := by
  have hcut := Lexeme.cut_lexemes source
  obtain ⟨d, hd, hlexemes⟩ := exists_maximalMunch hcut
  have hrecorded : ∀ rs', Recorded 1 d.lexemes rs' ↔ rs' = sourceRecords source := by
    intro rs'
    rw [hlexemes]
    exact recorded_iff hcut.proper
  refine ⟨d, sourceRecords source, hd, fun d' hd' => hd.unique hd', hrecorded, ?_, ?_⟩
  · exact ((hrecorded _).mpr rfl).kind
  · exact delivered_eq source

end PascalScan
