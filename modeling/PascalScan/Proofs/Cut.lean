import PascalScan.Lexeme
import PascalScan.Text.Blank
import Mathlib

/-!
# Cutting a source

A second description of how a source falls into lexemes, by what stands where and not by how it is
found: a lexeme is made of the right characters (`Proper`), and what follows it is nothing that it
would go on with (`Apart`).

* `next?_eq_some_iff` and `next?_eq_none_iff` say all that one step of the scanner can do.
* `Cut` is the same for a whole source, and `cut_iff` ties it to `lexemes`. Later modules take
  cuts apart and put them together, and never open `read` again.
-/

namespace PascalScan

namespace Element

/-- A run of spaces. -/
def spaces (n : Nat) : List Element := List.replicate n [' ']

/-- An element that no word, number, symbol, colon or line break starts with, and no space. -/
def StartsNothing (e : Element) : Prop :=
  ∀ c, e = [c] → c.isAlphanum = false ∧ c ∉ " =-*();<>:\n".toList

@[simp] theorem isSpace_iff {e : Element} : e.isSpace = true ↔ e = [' '] := by
  simp [isSpace]

theorem isSpace_eq_false_iff {e : Element} : e.isSpace = false ↔ e ≠ [' '] := by
  simp [isSpace]

@[simp] theorem ofText_nil : ofText [] = [] := rfl

@[simp] theorem ofText_cons (c : Char) (cs : List Char) : ofText (c :: cs) = [c] :: ofText cs := rfl

@[simp] theorem ofText_append (cs ds : List Char) : ofText (cs ++ ds) = ofText cs ++ ofText ds :=
  List.map_append

@[simp] theorem flatten_ofText (cs : List Char) : (ofText cs).flatten = cs := by
  induction cs with
  | nil => rfl
  | cons c cs ih => simp [ih]

@[simp] theorem mem_ofText {c : Char} {cs : List Char} : [c] ∈ ofText cs ↔ c ∈ cs := by
  simp [ofText]

theorem count_ofText (c : Char) (cs : List Char) : (ofText cs).count [c] = cs.count c :=
  List.count_map_of_injective cs _ (fun _ _ h => (List.cons.inj h).1) c

theorem ofText_injective {cs ds : List Char} (h : ofText cs = ofText ds) : cs = ds := by
  rw [← flatten_ofText cs, h, flatten_ofText]

theorem ofText_eq_append_cons {cs : List Char} {p more : List Element} {e : Element}
    (h : ofText cs = p ++ e :: more) :
    ∃ before c after, cs = before ++ c :: after ∧ p = ofText before ∧ e = [c] := by
  obtain ⟨before, tail, rfl, rfl, htail⟩ := List.map_eq_append_iff.mp h
  obtain ⟨c, after, rfl, rfl, -⟩ := List.map_eq_cons_iff.mp htail
  exact ⟨before, c, after, rfl, rfl, rfl⟩

/-- Skipping takes all the spaces that stand at the front. -/
theorem dropWhile_spaces (n : Nat) (rest : List Element) (h : rest.head? ≠ some [' ']) :
    (spaces n ++ rest).dropWhile isSpace = rest := by
  rw [spaces, List.dropWhile_append_of_pos (by simp)]
  cases rest with
  | nil => rfl
  | cons e es =>
      have he : e.isSpace = false := isSpace_eq_false_iff.mpr (by simpa using h)
      simp [he]

/-- A source is a run of spaces and what is left when they are skipped. -/
theorem eq_spaces_append (source : List Element) :
    ∃ n, source = spaces n ++ source.dropWhile isSpace := by
  refine ⟨(source.takeWhile isSpace).length, ?_⟩
  have h : source.takeWhile isSpace = spaces (source.takeWhile isSpace).length :=
    List.eq_replicate_iff.mpr ⟨rfl, fun e he => isSpace_iff.mp (List.mem_takeWhile_imp he)⟩
  rw [← h, List.takeWhile_append_dropWhile]

theorem ne_space_of_dropWhile {source rest : List Element} {e : Element}
    (h : source.dropWhile isSpace = e :: rest) : e ≠ [' '] := by
  have hhead := List.head?_dropWhile_not isSpace source
  rw [h] at hhead
  exact isSpace_eq_false_iff.mp hhead

end Element

/-! ## Characters, words and symbols -/

theorem isAlpha_iff_toNat {c : Char} :
    c.isAlpha = true ↔ (65 ≤ c.toNat ∧ c.toNat ≤ 90) ∨ (97 ≤ c.toNat ∧ c.toNat ≤ 122) := by
  simp only [Char.isAlpha, Char.isUpper, Char.isLower, ge_iff_le, UInt32.le_iff_toNat_le,
    Bool.or_eq_true, Bool.and_eq_true, decide_eq_true_eq]
  rfl

theorem isAlphanum_iff_toNat {c : Char} :
    c.isAlphanum = true ↔ (65 ≤ c.toNat ∧ c.toNat ≤ 90) ∨ (97 ≤ c.toNat ∧ c.toNat ≤ 122) ∨
      (48 ≤ c.toNat ∧ c.toNat ≤ 57) := by
  rw [Char.isAlphanum, Bool.or_eq_true, isAlpha_iff_toNat, Char.isDigit_iff_toNat, or_assoc]
  rfl

theorem isAlpha_eq_false_of_isDigit {c : Char} (h : c.isDigit = true) : c.isAlpha = false := by
  have hc : 48 ≤ c.toNat ∧ c.toNat ≤ 57 := Char.isDigit_iff_toNat.mp h
  rw [← Bool.not_eq_true, isAlpha_iff_toNat]
  omega

theorem isAlphanum_of_isBlank {c : Char} (h : Text.isBlank c = true) : c.isAlphanum = false := by
  simp only [Text.isBlank, Text.isWhiteSpace, Bool.or_eq_true, Bool.and_eq_true, decide_eq_true_eq,
    beq_iff_eq] at h
  rw [← Bool.not_eq_true, isAlphanum_iff_toNat]
  omega

/-- A letter, then letters and digits. -/
def IsWord (letters : List Char) : Prop :=
  ∃ c cs, letters = c :: cs ∧ c.isAlpha = true ∧ ∀ d ∈ cs, d.isAlphanum = true

/-- One digit or more. -/
def IsNumber (digits : List Char) : Prop := digits ≠ [] ∧ ∀ d ∈ digits, d.isDigit = true

theorem IsWord.isAlphanum {letters : List Char} (h : IsWord letters) :
    ∀ c ∈ letters, c.isAlphanum = true := by
  obtain ⟨c, cs, rfl, hc, hcs⟩ := h
  exact List.forall_mem_cons.mpr ⟨by simp [Char.isAlphanum, hc], hcs⟩

namespace Symbol

theorem spelling_injective {s t : Symbol} (h : s.spelling.toList = t.spelling.toList) : s = t := by
  cases s <;> cases t <;> first | rfl | exact absurd h (by decide)

theorem mem_all (s : Symbol) : s ∈ all := by
  cases s <;> decide

/-- A spelling is looked up rightly, since no two symbols share one. -/
theorem find?_spelling {cs : List Char} {s : Symbol} :
    all.find? (fun t => t.spelling.toList == cs) = some s ↔ s.spelling.toList = cs := by
  constructor
  · intro h
    simpa using List.find?_some h
  · intro h
    obtain ⟨t, ht⟩ : ∃ t, all.find? (fun t => t.spelling.toList == cs) = some t := by
      rw [← Option.isSome_iff_exists, List.find?_isSome]
      exact ⟨s, mem_all s, by simpa using h⟩
    have hspell : t.spelling.toList = cs := by simpa using List.find?_some ht
    rw [ht, spelling_injective (hspell.trans h.symm)]

theorem ofPair?_eq_some_iff {c d : Char} {s : Symbol} :
    ofPair? c d = some s ↔ s.spelling.toList = [c, d] :=
  find?_spelling

theorem ofChar?_eq_some_iff {c : Char} {s : Symbol} :
    ofChar? c = some s ↔ s.spelling.toList = [c] :=
  find?_spelling

theorem ofChar?_eq_none_iff {c : Char} : ofChar? c = none ↔ c ∉ "=-*();<>".toList := by
  simp [ofChar?, all, spelling, @eq_comm _ _ c]
  tauto

/-- The symbols of two characters, and their characters. -/
theorem spelling_eq_pair_iff {s : Symbol} {c d : Char} :
    s.spelling.toList = [c, d] ↔
      (s = notEqual ∧ c = '<' ∧ d = '>') ∨ (s = lessOrEqual ∧ c = '<' ∧ d = '=') ∨
        (s = greaterOrEqual ∧ c = '>' ∧ d = '=') ∨ (s = assign ∧ c = ':' ∧ d = '=') := by
  cases s <;> simp [spelling, eq_comm]

theorem spelling_length (s : Symbol) :
    (∃ c, s.spelling.toList = [c]) ∨ ∃ c d, s.spelling.toList = [c, d] := by
  cases s <;> simp [spelling]

/-- No symbol is made of letters, digits, spaces or line ends. -/
theorem mem_spelling {s : Symbol} {c : Char} (h : c ∈ s.spelling.toList) :
    c.isAlphanum = false ∧ c ≠ ' ' ∧ c ≠ '\n' := by
  have hall : s.spelling.toList.all fun d => !d.isAlphanum && (d != ' ' && d != '\n') := by
    cases s <;> decide
  simpa using List.all_eq_true.mp hall c h

end Symbol

theorem Element.startsNothing_singleton {c : Char} :
    StartsNothing [c] ↔
      c.isAlphanum = false ∧ c ≠ ' ' ∧ c ≠ '\n' ∧ c ≠ ':' ∧ Symbol.ofChar? c = none := by
  simp [StartsNothing, Symbol.ofChar?_eq_none_iff]
  tauto

/-! ## One lexeme -/

/-- The characters at the front are taken up to the first element that fails the test. -/
theorem takeChars_append {p : Char → Bool} {cs : List Char} {rest : List Element}
    (hcs : ∀ c ∈ cs, p c = true) (hrest : ∀ c, rest.head? = some [c] → p c = false) :
    takeChars p (Element.ofText cs ++ rest) = (cs, rest) := by
  induction cs with
  | nil =>
      rw [Element.ofText_nil, List.nil_append]
      fun_cases takeChars p rest with
      | case1 c tail hc => exact absurd hc (by simp [hrest c rfl])
      | case2 c tail hc => rfl
      | case3 => rfl
  | cons c cs ih =>
      rw [List.forall_mem_cons] at hcs
      simp [takeChars, hcs.1, ih hcs.2]

theorem takeChars_spec (p : Char → Bool) (source : List Element) :
    source = Element.ofText (takeChars p source).1 ++ (takeChars p source).2 ∧
      (∀ c ∈ (takeChars p source).1, p c = true) ∧
      ∀ c, (takeChars p source).2.head? = some [c] → p c = false := by
  fun_induction takeChars p source with
  | case1 c rest hc cs rest' heq ih =>
      rw [heq] at ih
      obtain ⟨hsource, hcs, hrest⟩ := ih
      refine ⟨?_, ?_, hrest⟩
      · simp [← hsource]
      · exact List.forall_mem_cons.mpr ⟨hc, hcs⟩
  | case2 c rest hc => simpa using hc
  | case3 rest hrest =>
      refine ⟨by simp, by simp, ?_⟩
      intro c hc
      cases rest with
      | nil => simp at hc
      | cons e es => exact (hrest c es (by simpa using hc)).elim

namespace Lexeme

/-- What a lexeme is made of. -/
def Proper : Lexeme → Prop
  | word letters => IsWord letters
  | number digits => IsNumber digits
  | stray e => e.StartsNothing
  | _ => True

/-- Whether a lexeme would go on with an element that follows it. -/
def joins : Lexeme → Element → Bool
  | word _, [c] => c.isAlphanum
  | number _, [c] => c.isDigit
  | symbol .less, [c] => c == '=' || c == '>'
  | symbol .greater, [c] => c == '='
  | colon, [c] => c == '='
  | _, _ => false

/-- What follows a lexeme is nothing that it would go on with. -/
def Apart (l : Lexeme) (rest : List Element) : Prop := ∀ e ∈ rest.head?, l.joins e = false

theorem pair?_eq_some_iff {c : Char} {rest rest' : List Element} {s : Symbol} :
    pair? c rest = some (s, rest') ↔
      ∃ d, rest = [d] :: rest' ∧ s.spelling.toList = [c, d] := by
  fun_cases pair? c rest with
  | case1 d tail =>
      simp only [Option.map_eq_some_iff, Prod.mk.injEq, Symbol.ofPair?_eq_some_iff]
      constructor
      · rintro ⟨t, ht, rfl, rfl⟩
        exact ⟨d, rfl, ht⟩
      · rintro ⟨d', hd, hs⟩
        obtain ⟨hd, rfl⟩ := List.cons.inj hd
        obtain rfl : d = d' := by simpa using hd
        exact ⟨s, hs, rfl, rfl⟩
  | case2 rest h =>
      simp only [reduceCtorEq, false_iff]
      rintro ⟨d, rfl, _⟩
      exact h d rest' rfl

/-- Only an element of one character is ever joined. -/
theorem exists_of_joins {l : Lexeme} {e : Element} (h : l.joins e = true) : ∃ c, e = [c] := by
  revert h
  fun_cases joins l e <;> simp

theorem apart_iff {l : Lexeme} {rest : List Element} :
    l.Apart rest ↔ ∀ c, rest.head? = some [c] → l.joins [c] = false := by
  constructor
  · intro ha c hc
    exact ha [c] hc
  · intro h e he
    by_contra hjoin
    obtain ⟨c, rfl⟩ := exists_of_joins (by simpa using hjoin)
    exact hjoin (h c he)

theorem apart_nil (l : Lexeme) : l.Apart [] := fun e he => by simp at he

/-- No lexeme goes on with a blank. -/
theorem joins_of_isBlank (l : Lexeme) {c : Char} (hc : Text.isBlank c = true) :
    l.joins [c] = false := by
  have halnum := isAlphanum_of_isBlank hc
  have hne : ∀ d, Text.isBlank d = false → (c == d) = false := by
    intro d hd
    refine beq_eq_false_iff_ne.mpr ?_
    rintro rfl
    rw [hd] at hc
    exact Bool.noConfusion hc
  cases l with
  | word letters => exact halnum
  | number digits => exact (Bool.or_eq_false_iff.mp halnum).2
  | symbol s =>
      cases s with
      | less => exact Bool.or_eq_false_iff.mpr ⟨hne '=' (by decide), hne '>' (by decide)⟩
      | greater => exact hne '=' (by decide)
      | _ => rfl
  | colon => exact hne '=' (by decide)
  | lineBreak => rfl
  | stray e => rfl

theorem Apart.append {l : Lexeme} {rest : List Element} (ha : l.Apart rest) (h : rest ≠ [])
    (v : List Element) : l.Apart (rest ++ v) := by
  obtain ⟨e, es, rfl⟩ := List.exists_cons_of_ne_nil h
  exact ha

theorem apart_spaces (l : Lexeme) (n : Nat) : l.Apart (Element.spaces n) := by
  cases n with
  | zero => exact apart_nil l
  | succ n =>
      intro e he
      obtain rfl : [' '] = e := by simpa [Element.spaces, List.replicate_succ] using he
      exact joins_of_isBlank l (by decide)

theorem joins_two {s : Symbol} {c d : Char} (h : s.spelling.toList = [c, d]) (e : Element) :
    (symbol s).joins e = false := by
  rcases Symbol.spelling_eq_pair_iff.mp h with ⟨rfl, _⟩ | ⟨rfl, _⟩ | ⟨rfl, _⟩ | ⟨rfl, _⟩ <;> rfl

theorem ofChar_of_spelling {s : Symbol} {c : Char} (h : s.spelling.toList = [c]) :
    ofChar c = symbol s := by
  have hne : c ≠ '\n' ∧ c ≠ ':' := by
    cases s <;> simp_all [Symbol.spelling, eq_comm]
  simp [ofChar, hne, Symbol.ofChar?_eq_some_iff.mpr h]

/-- A lexeme of one character goes on exactly with what makes a symbol of two. -/
theorem joins_ofChar {c d : Char} :
    (ofChar c).joins [d] = true ↔ ∃ s : Symbol, s.spelling.toList = [c, d] := by
  simp only [Symbol.spelling_eq_pair_iff, exists_or, exists_eq_left]
  unfold ofChar
  split
  · next hc => simp [joins, hc]
  · split
    · next hc => simp [joins, hc]
    · split
      · next _ hcolon _ s hs =>
          rw [Symbol.ofChar?_eq_some_iff] at hs
          have hc : ∀ x, c = x ↔ s.spelling.toList = [x] := by simp [hs]
          cases s <;> simp [hc, joins, Symbol.spelling, or_comm]
      · next _ hcolon _ hs =>
          have hless : c ≠ '<' := fun h => by subst h; exact absurd hs (by decide)
          have hgreater : c ≠ '>' := fun h => by subst h; exact absurd hs (by decide)
          simp [joins, hcolon, hless, hgreater]

theorem ofChar_apart_iff {c : Char} {rest : List Element} :
    (ofChar c).Apart rest ↔ pair? c rest = none := by
  rw [Option.eq_none_iff_forall_ne_some]
  constructor
  · rintro ha ⟨s, rest'⟩ hp
    obtain ⟨d, rfl, hs⟩ := pair?_eq_some_iff.mp hp
    have hd : (ofChar c).joins [d] = true := joins_ofChar.mpr ⟨s, hs⟩
    rw [ha [d] rfl] at hd
    exact Bool.noConfusion hd
  · intro hp
    refine apart_iff.mpr fun d hd => ?_
    by_contra hjoin
    obtain ⟨s, hs⟩ := joins_ofChar.mp (by simpa using hjoin)
    obtain ⟨tail, rfl⟩ := List.head?_eq_some_iff.mp hd
    exact hp (s, tail) (pair?_eq_some_iff.mpr ⟨d, rfl, hs⟩)

theorem elements_ofChar (c : Char) : (ofChar c).elements = [[c]] := by
  unfold ofChar
  split
  · next h => simp [elements, h]
  · split
    · next h => simp [elements, h]
    · split
      · next s hs => simp [elements, Symbol.ofChar?_eq_some_iff.mp hs]
      · rfl

theorem proper_ofChar {c : Char} (hc : c.isAlphanum = false) (hs : c ≠ ' ') :
    (ofChar c).Proper := by
  unfold ofChar
  split
  · trivial
  · split
    · trivial
    · split
      · trivial
      · next hn hcolon _ hnone =>
          exact Element.startsNothing_singleton.mpr ⟨hc, hs, hn, hcolon, hnone⟩

/-- An element of one character that is neither letter nor digit is a lexeme by itself if it
makes no symbol with what follows. -/
theorem read_ofChar {c : Char} {rest : List Element} (hc : c.isAlphanum = false)
    (ha : (ofChar c).Apart rest) : read [c] rest = (ofChar c, rest) := by
  obtain ⟨halpha, hdigit⟩ : c.isAlpha = false ∧ c.isDigit = false := by
    simpa [Char.isAlphanum] using hc
  simp [read, halpha, hdigit, ofChar_apart_iff.mp ha]

/-- A proper lexeme is read off a source that goes on with nothing it would take. -/
theorem read_of_proper {l : Lexeme} {rest : List Element} (hl : l.Proper) (ha : l.Apart rest) :
    ∃ e es, l.elements = e :: es ∧ e ≠ [' '] ∧ read e (es ++ rest) = (l, rest) := by
  cases l with
  | word letters =>
      obtain ⟨c, cs, rfl, hc, hcs⟩ := hl
      refine ⟨[c], Element.ofText cs, rfl, ?_, ?_⟩
      · rintro h
        obtain rfl : c = ' ' := by simpa using h
        exact absurd hc (by decide)
      · have hrest : ∀ d, rest.head? = some [d] → d.isAlphanum = false := fun d hd => ha [d] hd
        simp [read, hc, takeChars_append hcs hrest]
  | number digits =>
      obtain ⟨hne, hdigits⟩ := hl
      obtain ⟨c, cs, rfl⟩ := List.exists_cons_of_ne_nil hne
      obtain ⟨hc, hcs⟩ := List.forall_mem_cons.mp hdigits
      refine ⟨[c], Element.ofText cs, rfl, ?_, ?_⟩
      · rintro h
        obtain rfl : c = ' ' := by simpa using h
        exact absurd hc (by decide)
      · have hrest : ∀ d, rest.head? = some [d] → d.isDigit = false := fun d hd => ha [d] hd
        simp [read, hc, isAlpha_eq_false_of_isDigit hc, takeChars_append hcs hrest]
  | symbol s =>
      rcases s.spelling_length with ⟨c, hs⟩ | ⟨c, d, hs⟩
      · obtain ⟨hc, hspace, _⟩ := Symbol.mem_spelling (s := s) (c := c) (by simp [hs])
        refine ⟨[c], [], by simp [elements, hs], by simpa using hspace, ?_⟩
        rw [← ofChar_of_spelling hs] at ha ⊢
        exact read_ofChar hc ha
      · obtain ⟨hc, hspace, _⟩ := Symbol.mem_spelling (s := s) (c := c) (by simp [hs])
        obtain ⟨halpha, hdigit⟩ : c.isAlpha = false ∧ c.isDigit = false := by
          simpa [Char.isAlphanum] using hc
        refine ⟨[c], [[d]], by simp [elements, hs], by simpa using hspace, ?_⟩
        have hpair : pair? c ([d] :: rest) = some (s, rest) := pair?_eq_some_iff.mpr ⟨d, rfl, hs⟩
        simp [read, halpha, hdigit, hpair]
  | colon => exact ⟨[':'], [], rfl, by decide, read_ofChar rfl ha⟩
  | lineBreak => exact ⟨['\n'], [], rfl, by decide, read_ofChar rfl ha⟩
  | stray e =>
      match e, hl with
      | [c], hl =>
          obtain ⟨hc, hspace, hn, hcolon, hnone⟩ := Element.startsNothing_singleton.mp hl
          refine ⟨[c], [], rfl, by simpa using hspace, ?_⟩
          have hstray : ofChar c = stray [c] := by simp [ofChar, hn, hcolon, hnone]
          rw [← hstray] at ha ⊢
          exact read_ofChar hc ha
      | [], _ => exact ⟨[], [], rfl, by decide, rfl⟩
      | c :: d :: cs, _ => exact ⟨c :: d :: cs, [], rfl, by simp, rfl⟩

/-- What is read off a source is a proper lexeme, and goes as far as it can. -/
theorem read_spec {e : Element} (rest : List Element) (he : e ≠ [' ']) :
    (read e rest).1.Proper ∧ (read e rest).1.Apart (read e rest).2 ∧
      e :: rest = (read e rest).1.elements ++ (read e rest).2 := by
  fun_cases read e rest with
  | case1 c rest hc cs rest' heq =>
      obtain ⟨hrest, hcs, hend⟩ := takeChars_spec Char.isAlphanum rest
      rw [heq] at hrest hcs hend
      exact ⟨⟨c, cs, rfl, hc, hcs⟩, apart_iff.mpr hend, by simp [elements, ← hrest]⟩
  | case2 c rest hc hd cs rest' heq =>
      obtain ⟨hrest, hcs, hend⟩ := takeChars_spec Char.isDigit rest
      rw [heq] at hrest hcs hend
      refine ⟨⟨List.cons_ne_nil c cs, ?_⟩, apart_iff.mpr hend, by simp [elements, ← hrest]⟩
      exact List.forall_mem_cons.mpr ⟨hd, hcs⟩
  | case3 c rest hc hd s rest' hpair =>
      obtain ⟨d, rfl, hs⟩ := pair?_eq_some_iff.mp hpair
      exact ⟨trivial, fun x _ => joins_two hs x, by simp [elements, hs]⟩
  | case4 c rest hc hd hpair =>
      have halnum : c.isAlphanum = false := by simp [Char.isAlphanum, hc, hd]
      refine ⟨proper_ofChar halnum (by simpa using he), ofChar_apart_iff.mpr hpair, ?_⟩
      simp [elements_ofChar]
  | case5 e rest hlong =>
      exact ⟨fun c hc => (hlong c hc).elim, fun x _ => rfl, rfl⟩

/-- **The step of the scanner.** It answers a lexeme and a rest exactly when the source is spaces,
then the elements of that lexeme, then that rest, and the rest does not lengthen the lexeme. -/
theorem next?_eq_some_iff {source rest : List Element} {l : Lexeme} :
    next? source = some (l, rest) ↔
      l.Proper ∧ l.Apart rest ∧ ∃ n, source = Element.spaces n ++ (l.elements ++ rest) := by
  constructor
  · intro h
    unfold next? at h
    split at h
    · cases h
    · next e tail heq =>
        obtain ⟨hl, ha, hcut⟩ := read_spec tail (Element.ne_space_of_dropWhile heq)
        rw [Option.some.inj h] at hl ha hcut
        obtain ⟨n, hn⟩ := Element.eq_spaces_append source
        exact ⟨hl, ha, n, by rw [hn, heq, hcut]⟩
  · rintro ⟨hl, ha, n, rfl⟩
    -- No lexeme starts with a space, so skipping stops at the first element of this one.
    obtain ⟨e, es, hes, he, hread⟩ := read_of_proper hl ha
    have hskip := Element.dropWhile_spaces n (e :: (es ++ rest)) (by simpa using he)
    rw [hes, List.cons_append, next?, hskip]
    exact congrArg some hread

/-- No lexeme is left exactly when only spaces are. -/
theorem next?_eq_none_iff {source : List Element} :
    next? source = none ↔ ∃ n, source = Element.spaces n := by
  obtain ⟨n, hn⟩ := Element.eq_spaces_append source
  constructor
  · intro h
    unfold next? at h
    split at h
    · next heq => exact ⟨n, by rw [hn, heq, List.append_nil]⟩
    · cases h
  · rintro ⟨m, rfl⟩
    have hskip := Element.dropWhile_spaces m [] (by simp)
    rw [List.append_nil] at hskip
    rw [next?, hskip]

/-! ## All lexemes -/

/-- A source cut into lexemes from left to right. Spaces may stand before each lexeme and at the
end, and no lexeme is followed by what it would go on with. -/
inductive Cut : List Element → List Lexeme → Prop where
  | spaces (n : Nat) : Cut (Element.spaces n) []
  | lexeme (n : Nat) {l : Lexeme} {rest : List Element} {ls : List Lexeme} :
      l.Proper → l.Apart rest → Cut rest ls →
        Cut (Element.spaces n ++ (l.elements ++ rest)) (l :: ls)

theorem lexemes_of_next?_eq_none {source : List Element} (h : next? source = none) :
    lexemes source = [] := by
  rw [lexemes]
  split
  · rfl
  · next heq => simp [h] at heq

theorem lexemes_of_next?_eq_some {source rest : List Element} {l : Lexeme}
    (h : next? source = some (l, rest)) : lexemes source = l :: lexemes rest := by
  rw [lexemes]
  split
  · next heq => simp [h] at heq
  · next heq =>
      rw [h] at heq
      obtain ⟨rfl, rfl⟩ := Prod.mk.inj (Option.some.inj heq)
      rfl

theorem cut_lexemes (source : List Element) : Cut source (lexemes source) := by
  fun_induction lexemes source with
  | case1 source h =>
      obtain ⟨n, rfl⟩ := next?_eq_none_iff.mp h
      exact .spaces n
  | case2 source l rest h ih =>
      obtain ⟨hl, ha, n, rfl⟩ := next?_eq_some_iff.mp h
      exact .lexeme n hl ha ih

/-- A source is cut in one way only, and the scanner finds it. -/
theorem cut_iff {source : List Element} {ls : List Lexeme} :
    Cut source ls ↔ lexemes source = ls := by
  constructor
  · intro h
    induction h with
    | spaces n => exact lexemes_of_next?_eq_none (next?_eq_none_iff.mpr ⟨n, rfl⟩)
    | lexeme n hl ha _ ih =>
        rw [lexemes_of_next?_eq_some (next?_eq_some_iff.mpr ⟨hl, ha, n, rfl⟩), ih]
  · rintro rfl
    exact cut_lexemes source

theorem Cut.proper {source : List Element} {ls : List Lexeme} (h : Cut source ls) :
    ∀ l ∈ ls, l.Proper := by
  induction h with
  | spaces n => simp
  | lexeme n hl _ _ ih => exact List.forall_mem_cons.mpr ⟨hl, ih⟩

theorem Cut.eq_nil {ls : List Lexeme} (h : Cut [] ls) : ls = [] := by
  rw [← cut_iff.mp h]
  exact lexemes_of_next?_eq_none (next?_eq_none_iff.mpr ⟨0, rfl⟩)

theorem Cut.spaces_append (n : Nat) {source : List Element} {ls : List Lexeme}
    (h : Cut source ls) : Cut (Element.spaces n ++ source) ls := by
  have hjoin : ∀ m, Element.spaces n ++ Element.spaces m = Element.spaces (n + m) := fun m =>
    List.replicate_append_replicate
  cases h with
  | spaces m =>
      rw [hjoin]
      exact .spaces _
  | lexeme m hl ha hrest =>
      rw [← List.append_assoc, hjoin]
      exact .lexeme _ hl ha hrest

/-- A proper lexeme by itself is cut into itself. -/
theorem cut_elements {l : Lexeme} (hl : l.Proper) : Cut l.elements [l] := by
  have h := Cut.lexeme 0 hl (apart_spaces l 0) (Cut.spaces 0)
  simpa [Element.spaces] using h

/-- Its elements fix a proper lexeme. -/
theorem elements_injective {l m : Lexeme} (hl : l.Proper) (hm : m.Proper)
    (h : l.elements = m.elements) : l = m := by
  have hcut := cut_iff.mp (cut_elements hl)
  rw [h, cut_iff.mp (cut_elements hm)] at hcut
  exact (List.singleton_inj.mp hcut).symm

/-- A blank stands in no lexeme but the line break, unless it is a stray element. -/
theorem eq_of_mem_blank {l : Lexeme} (hl : l.Proper) {c : Char} (hc : Text.isBlank c = true)
    (h : [c] ∈ l.elements) : (c = '\n' ∧ l = lineBreak) ∨ l = stray [c] := by
  have hplain := isAlphanum_of_isBlank hc
  cases l with
  | word letters =>
      have hword := hl.isAlphanum c (Element.mem_ofText.mp h)
      rw [hplain] at hword
      exact Bool.noConfusion hword
  | number digits =>
      have hdigit : c.isDigit = true := hl.2 c (Element.mem_ofText.mp h)
      simp [Char.isAlphanum, hdigit] at hplain
  | symbol s =>
      have hall : s.spelling.toList.all (!Text.isBlank ·) := by
        cases s <;> decide
      have hnot := List.all_eq_true.mp hall c (Element.mem_ofText.mp h)
      rw [hc] at hnot
      exact Bool.noConfusion hnot
  | colon =>
      obtain rfl : c = ':' := by simpa [elements] using h
      exact absurd hc (by decide)
  | lineBreak => exact .inl ⟨by simpa [elements] using h, rfl⟩
  | stray e => exact .inr (congrArg stray (List.mem_singleton.mp h).symm)

/-- A space stands in no lexeme, and a line end in none but the line break. -/
theorem eq_lineBreak_of_blank {l : Lexeme} (hl : l.Proper) {c : Char} (hc : c = ' ' ∨ c = '\n')
    (h : [c] ∈ l.elements) : c = '\n' ∧ l = lineBreak := by
  have hblank : Text.isBlank c = true := by
    rcases hc with rfl | rfl <;> decide
  rcases eq_of_mem_blank hl hblank h with hbreak | rfl
  · exact hbreak
  · have hnot := (hl c rfl).2
    rcases hc with rfl | rfl <;> exact absurd (by decide) hnot

theorem ne_space_of_mem_elements {l : Lexeme} (hl : l.Proper) {e : Element}
    (he : e ∈ l.elements) : e ≠ [' '] := by
  rintro rfl
  exact absurd (eq_lineBreak_of_blank hl (.inl rfl) he).1 (by decide)

theorem elements_ne_nil {l : Lexeme} (hl : l.Proper) : l.elements ≠ [] := by
  obtain ⟨e, es, hes, -⟩ := read_of_proper hl (apart_nil l)
  simp [hes]

end Lexeme

end PascalScan
