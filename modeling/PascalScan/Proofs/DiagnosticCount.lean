import PascalScan.Proofs.Rescan
import PascalScan.Scan

/-!
# Counting the diagnostics of a text

How many diagnostics a text has, and of which codes, can be read off the text without cutting it
into lexemes: each count looks at a character and its neighbours, or at a run of letters and digits.

* `foreignCount`, `loneColonCount` and `longRunCount` are the counts.
* `countP_lexemes` compares a count over a text with one over its lexemes, given that the two agree
  at each lexeme; the three lemmas on steps say that they do.
* `scan_diagnosticCount` ties the counts to the scan, and its success to all of them being zero.
-/

namespace PascalScan

/-! ## Counts over a text -/

/-- The characters that lexemes are made of, and the space. -/
def inAlphabet (c : Char) : Bool := c.isAlphanum || " =-*();<>:\n".toList.contains c

/-- How many characters of a text are outside the alphabet. -/
def foreignCount (text : List Char) : Nat := text.countP fun c => !inAlphabet c

/-- How many colons of a text are not directly followed by an equals sign. -/
def loneColonCount (text : List Char) : Nat :=
  text.tails.countP fun rest => rest.head? == some ':' && rest[1]? != some '='

/-- The longest runs of letters and digits in a text: what stands between one character that is
neither and the next. Some may be empty. -/
def runs (text : List Char) : List (List Char) := text.splitOnP fun c => !c.isAlphanum

/-- How many runs go on for more than sixteen characters from their first letter. -/
def longRunCount (text : List Char) : Nat :=
  (runs text).countP fun run => 16 < (run.dropWhile fun c => !c.isAlpha).length

example : loneColonCount "a::=:".toList = 2 := by decide
example : longRunCount "12345678901234567a abcdefghijklmnopq1-a".toList = 1 := by decide +kernel

theorem foreignCount_append (cs ds : List Char) :
    foreignCount (cs ++ ds) = foreignCount cs + foreignCount ds :=
  List.countP_append

theorem foreignCount_of_all {cs : List Char} (h : cs.all inAlphabet = true) :
    foreignCount cs = 0 := by
  rw [foreignCount, List.countP_eq_zero]
  intro c hc
  simp [List.all_eq_true.mp h c hc]

theorem loneColonCount_cons (c : Char) (rest : List Char) :
    loneColonCount (c :: rest) =
      loneColonCount rest + if c = ':' ∧ rest.head? ≠ some '=' then 1 else 0 := by
  simp [loneColonCount, List.tails, List.countP_cons, List.head?_eq_getElem?]

theorem loneColonCount_append {cs : List Char} (h : ':' ∉ cs) (rest : List Char) :
    loneColonCount (cs ++ rest) = loneColonCount rest := by
  induction cs with
  | nil => rfl
  | cons c cs ih =>
      rw [List.mem_cons, not_or] at h
      obtain ⟨hc, hcs⟩ := h
      rw [List.cons_append, loneColonCount_cons, ih hcs, if_neg fun hcolon => hc hcolon.1.symm]
      rfl

/-- A character that is no letter makes no run longer: it ends one or stands before its first
letter. -/
theorem longRunCount_cons {c : Char} (h : c.isAlpha = false) (rest : List Char) :
    longRunCount (c :: rest) = longRunCount rest := by
  unfold longRunCount runs
  rw [List.splitOnP_cons_eq_if_modifyHead]
  split
  · simp
  · obtain ⟨run, more, hruns⟩ :=
      List.exists_cons_of_ne_nil (List.splitOnP_ne_nil (fun c => !c.isAlphanum) rest)
    simp [hruns, h, List.countP_cons]

theorem longRunCount_append {cs : List Char} (h : ∀ c ∈ cs, c.isAlpha = false)
    (rest : List Char) : longRunCount (cs ++ rest) = longRunCount rest := by
  induction cs with
  | nil => rfl
  | cons c cs ih =>
      obtain ⟨hc, hcs⟩ := List.forall_mem_cons.mp h
      rw [List.cons_append, longRunCount_cons hc, ih hcs]

/-- A word that nothing goes on with is the rest of a run from its first letter. -/
theorem longRunCount_word {letters : List Char} (h : IsWord letters) {rest : List Char}
    (hrest : ∀ c, rest.head? = some c → c.isAlphanum = false) :
    longRunCount (letters ++ rest) =
      longRunCount rest + if 16 < letters.length then 1 else 0 := by
  have hall : ∀ c ∈ letters, (!c.isAlphanum) = false := fun c hc => by simp [h.isAlphanum c hc]
  obtain ⟨c, cs, rfl, hc, -⟩ := h
  unfold longRunCount runs
  cases rest with
  | nil =>
      rw [List.append_nil, List.splitOnP_eq_singleton hall]
      simp [hc, List.countP_cons]
  | cons d ds =>
      have hd : (!d.isAlphanum) = true := by simp [hrest d rfl]
      rw [List.splitOnP_append_cons_of_forall_mem hall d hd,
        List.splitOnP_cons_eq_if_modifyHead, if_pos hd]
      simp [hc, List.countP_cons]

/-! ## Counts over lexemes -/

namespace Lexeme

/-- What there is to complain about in a lexeme. No keyword is too long. -/
def complaint? : Lexeme → Option Complaint
  | word letters =>
      if maxIdentifierLength < letters.length then some (.wordTooLong letters) else none
  | colon => some .misusedColon
  | stray e => some (.badCharacter e)
  | _ => none

theorem diagnostic?_record (l : Lexeme) (line : Int) :
    (l.record line).diagnostic? = l.complaint?.map fun c => c.onLine line := by
  cases l with
  | word letters =>
      rcases record_word letters with ⟨k, hk, hr⟩ | ⟨-, hle, hr⟩ | ⟨-, hlt, hr⟩
      · have hle : ¬maxIdentifierLength < letters.length := fun hlt => ne_word_of_length hlt k hk
        rw [hr, complaint?, if_neg hle]
        rfl
      · rw [hr, complaint?, if_neg (Nat.not_lt_of_le hle)]
        rfl
      · rw [hr, complaint?, if_pos hlt]
        rfl
  | _ => rfl

/-- The diagnostics of a run of lexemes have the codes of its complaints, in order. -/
theorem codes_diagnostics (line : Int) (ls : List Lexeme) :
    (Record.diagnostics (records line ls)).map Diagnostic.code =
      (ls.filterMap complaint?).map Complaint.code := by
  induction ls generalizing line with
  | nil => rfl
  | cons l ls ih =>
      have hl := diagnostic?_record l line
      cases hc : l.complaint? with
      | none =>
          rw [hc] at hl
          simpa [records, Record.diagnostics, hl, hc] using ih _
      | some c =>
          rw [hc] at hl
          have hcode : (c.onLine line).code = c.code := rfl
          simpa [records, Record.diagnostics, hl, hc, hcode] using ih _

/-- Whether a lexeme gives a diagnostic of a code. -/
def raises (code : String) (l : Lexeme) : Bool := l.complaint?.any fun c => c.code == code

/-- A count over texts that agrees with a count over lexemes at every space and at every lexeme
agrees with it everywhere. -/
theorem countP_lexemes {f : List Char → Nat} {p : Lexeme → Bool} (hnil : f [] = 0)
    (hspace : ∀ rest, f (' ' :: rest) = f rest)
    (hlexeme : ∀ (l : Lexeme) (cs rest : List Char), l.Proper → l.elements = Element.ofText cs →
      l.Apart (Element.ofText rest) → f (cs ++ rest) = f rest + if p l then 1 else 0)
    (text : List Char) : (lexemes (Element.ofText text)).countP p = f text := by
  have hspaces : ∀ (n : Nat) (rest : List Char), f (List.replicate n ' ' ++ rest) = f rest := by
    intro n rest
    induction n with
    | zero => rfl
    | succ n ih => rw [List.replicate_succ, List.cons_append, hspace, ih]
  have hcut := cut_lexemes (Element.ofText text)
  generalize lexemes (Element.ofText text) = ls at hcut ⊢
  generalize hsource : Element.ofText text = source at hcut
  induction hcut generalizing text with
  | spaces n =>
      obtain rfl : text = List.replicate n ' ' :=
        Element.ofText_injective (hsource.trans (Element.ofText_replicate n).symm)
      have h := hspaces n []
      rw [List.append_nil, hnil] at h
      rw [List.countP_nil, h]
  | @lexeme n l rest ls hl ha _ ih =>
      obtain ⟨cs, after, rfl, hcs, rfl⟩ := Element.ofText_eq_spaces_append hsource
      rw [List.countP_cons, ih after rfl, hspaces, hlexeme l cs after hl hcs ha]

/-! ## One lexeme of a text -/

theorem raises_word (code : String) (letters : List Char) :
    raises code (word letters) =
      (decide (16 < letters.length) && "E_LEX_IDENT_TOO_LONG" == code) := by
  unfold raises complaint?
  by_cases h : 16 < letters.length
  · simp [h, maxIdentifierLength, Complaint.code]
  · simp [h, maxIdentifierLength]

/-- In a text a stray element is one character. -/
theorem exists_of_stray {e : Element} {cs : List Char}
    (h : (stray e).elements = Element.ofText cs) : ∃ c, cs = [c] ∧ e = [c] := by
  obtain ⟨c, rfl, hc⟩ := List.map_eq_singleton_iff.mp h.symm
  exact ⟨c, rfl, hc.symm⟩

section

variable {l : Lexeme} {cs rest : List Char}

theorem foreignCount_step (hl : l.Proper) (hcs : l.elements = Element.ofText cs) :
    foreignCount (cs ++ rest) =
      foreignCount rest + if raises "E_LEX_BAD_CHAR" l then 1 else 0 := by
  rw [foreignCount_append, Nat.add_comm]
  congr 1
  cases l with
  | word letters =>
      obtain rfl := Element.ofText_injective hcs
      have hall : letters.all inAlphabet = true := by
        refine List.all_eq_true.mpr fun c hc => ?_
        simp [inAlphabet, IsWord.isAlphanum hl c hc]
      rw [foreignCount_of_all hall, raises_word]
      simp
  | number digits =>
      obtain rfl := Element.ofText_injective hcs
      have hall : digits.all inAlphabet = true := by
        refine List.all_eq_true.mpr fun c hc => ?_
        simp [inAlphabet, Char.isAlphanum, hl.2 c hc]
      exact foreignCount_of_all hall
  | symbol s =>
      obtain rfl := Element.ofText_injective hcs
      have hall : s.spelling.toList.all inAlphabet = true := by
        cases s <;> decide
      exact foreignCount_of_all hall
  | colon =>
      obtain rfl : [':'] = cs := Element.ofText_injective hcs
      rfl
  | lineBreak =>
      obtain rfl : ['\n'] = cs := Element.ofText_injective hcs
      rfl
  | stray e =>
      obtain ⟨c, rfl, rfl⟩ := exists_of_stray hcs
      obtain ⟨hletter, hother⟩ := hl c rfl
      have hforeign : inAlphabet c = false := by
        simpa [inAlphabet, hletter] using hother
      simp [foreignCount, hforeign, raises, complaint?, Complaint.code]

theorem loneColonCount_step (hl : l.Proper) (hcs : l.elements = Element.ofText cs)
    (ha : l.Apart (Element.ofText rest)) :
    loneColonCount (cs ++ rest) =
      loneColonCount rest + if raises "E_LEX_MISUSED_COLON" l then 1 else 0 := by
  cases l with
  | word letters =>
      obtain rfl := Element.ofText_injective hcs
      have hcolon : ':' ∉ letters := fun h => absurd (IsWord.isAlphanum hl _ h) (by decide)
      rw [loneColonCount_append hcolon, raises_word]
      simp
  | number digits =>
      obtain rfl := Element.ofText_injective hcs
      have hcolon : ':' ∉ digits := fun h => absurd (hl.2 _ h) (by decide)
      exact loneColonCount_append hcolon rest
  | symbol s =>
      obtain rfl := Element.ofText_injective hcs
      by_cases hs : s = .assign
      · -- The colon of an assignment is followed by its own equals sign.
        subst hs
        change loneColonCount (':' :: '=' :: rest) = loneColonCount rest
        rw [loneColonCount_cons, loneColonCount_cons]
        simp
      · have hcolon : ':' ∉ s.spelling.toList := by
          cases s <;> first | decide | exact absurd rfl hs
        exact loneColonCount_append hcolon rest
  | colon =>
      obtain rfl : [':'] = cs := Element.ofText_injective hcs
      have hequal : rest.head? ≠ some '=' := by
        intro hhead
        obtain ⟨tail, rfl⟩ := List.head?_eq_some_iff.mp hhead
        exact Bool.noConfusion (ha ['='] rfl)
      change loneColonCount (':' :: rest) = loneColonCount rest + 1
      rw [loneColonCount_cons, if_pos ⟨rfl, hequal⟩]
  | lineBreak =>
      obtain rfl : ['\n'] = cs := Element.ofText_injective hcs
      exact loneColonCount_append (by decide) rest
  | stray e =>
      obtain ⟨c, rfl, rfl⟩ := exists_of_stray hcs
      have hcolon : ':' ∉ [c] := by
        intro h
        obtain rfl := List.mem_singleton.mp h
        exact (hl ':' rfl).2 (by decide)
      exact loneColonCount_append hcolon rest

theorem longRunCount_step (hl : l.Proper) (hcs : l.elements = Element.ofText cs)
    (ha : l.Apart (Element.ofText rest)) :
    longRunCount (cs ++ rest) =
      longRunCount rest + if raises "E_LEX_IDENT_TOO_LONG" l then 1 else 0 := by
  have hplain : ∀ {c : Char}, c.isAlphanum = false → c.isAlpha = false := fun h => by
    simp_all [Char.isAlphanum]
  cases l with
  | word letters =>
      obtain rfl := Element.ofText_injective hcs
      have hrest : ∀ c, rest.head? = some c → c.isAlphanum = false := by
        intro c hc
        obtain ⟨tail, rfl⟩ := List.head?_eq_some_iff.mp hc
        exact ha [c] rfl
      rw [longRunCount_word hl hrest, raises_word]
      simp
  | number digits =>
      obtain rfl := Element.ofText_injective hcs
      exact longRunCount_append (fun c hc => isAlpha_eq_false_of_isDigit (hl.2 c hc)) rest
  | symbol s =>
      obtain rfl := Element.ofText_injective hcs
      exact longRunCount_append (fun c hc => hplain (Symbol.mem_spelling hc).1) rest
  | colon =>
      obtain rfl : [':'] = cs := Element.ofText_injective hcs
      exact longRunCount_cons (by decide) rest
  | lineBreak =>
      obtain rfl : ['\n'] = cs := Element.ofText_injective hcs
      exact longRunCount_cons (by decide) rest
  | stray e =>
      obtain ⟨c, rfl, rfl⟩ := exists_of_stray hcs
      exact longRunCount_cons (hplain (hl c rfl).1) rest

end

end Lexeme

/-! ## Counts and scans -/

/-- A scan in terms of what the sinks get before the mark for the end, which is no diagnostic. -/
theorem scan_eq (text : List Char) :
    let rs := deliveredBeforeEnd (Element.ofText text)
    scan text = ⟨Record.tokens rs ++ [.endOfFile], Record.diagnostics rs,
      (Record.diagnostics rs).isEmpty⟩ := by
  intro rs
  have hdiagnostics : Record.diagnostics (rs ++ [.endOfFile]) = Record.diagnostics rs := by
    rw [Record.diagnostics_append]
    exact List.append_nil _
  have hrs : rs = sourceRecords (Element.ofText text) := deliveredBeforeEnd_eq _
  simp only [scan, ← hrs, hdiagnostics, Record.tokens_append]
  rfl

theorem diagnostics_scan (text : List Char) :
    (scan text).diagnostics = Record.diagnostics (sourceRecords (Element.ofText text)) := by
  rw [scan_eq, deliveredBeforeEnd_eq]

theorem codes_scan (text : List Char) :
    (scan text).diagnostics.map Diagnostic.code =
      ((Lexeme.lexemes (Element.ofText text)).filterMap Lexeme.complaint?).map Complaint.code := by
  rw [diagnostics_scan]
  exact Lexeme.codes_diagnostics 1 _

theorem countP_code_scan (text : List Char) (code : String) :
    ((scan text).diagnostics.countP fun d => d.code == code) =
      (Lexeme.lexemes (Element.ofText text)).countP (Lexeme.raises code) := by
  have hmap : ((scan text).diagnostics.countP fun d => d.code == code) =
      ((scan text).diagnostics.map Diagnostic.code).countP (· == code) := by
    rw [List.countP_map]
    rfl
  rw [hmap, codes_scan, List.countP_map, List.countP_filterMap]
  congr 1
  funext l
  unfold Lexeme.raises
  cases l.complaint? <;> rfl

/-- Every diagnostic of a scan has one of the three codes. -/
theorem length_diagnostics_scan (text : List Char) :
    (scan text).diagnostics.length =
      ((scan text).diagnostics.countP fun d => d.code == "E_LEX_BAD_CHAR") +
      ((scan text).diagnostics.countP fun d => d.code == "E_LEX_MISUSED_COLON") +
      ((scan text).diagnostics.countP fun d => d.code == "E_LEX_IDENT_TOO_LONG") := by
  have hcode : ∀ d ∈ (scan text).diagnostics, ∃ c : Complaint, d.code = c.code := by
    intro d hd
    have hmem := List.mem_map_of_mem (f := Diagnostic.code) hd
    rw [codes_scan] at hmem
    obtain ⟨c, -, hc⟩ := List.mem_map.mp hmem
    exact ⟨c, hc.symm⟩
  generalize (scan text).diagnostics = ds at hcode ⊢
  induction ds with
  | nil => rfl
  | cons d ds ih =>
      obtain ⟨⟨c, hc⟩, hds⟩ := List.forall_mem_cons.mp hcode
      have hlength := ih hds
      simp only [List.length_cons, List.countP_cons, hc]
      cases c <;> simp [Complaint.code] <;> omega

theorem countP_badCharacter (text : List Char) :
    ((scan text).diagnostics.countP fun d => d.code == "E_LEX_BAD_CHAR") = foreignCount text := by
  rw [countP_code_scan]
  have hspace : ∀ rest, foreignCount (' ' :: rest) = foreignCount rest := by
    intro rest
    rw [← List.singleton_append, foreignCount_append]
    exact Nat.zero_add _
  apply Lexeme.countP_lexemes rfl hspace
  intro l cs rest hl hcs _
  exact Lexeme.foreignCount_step hl hcs

theorem countP_misusedColon (text : List Char) :
    ((scan text).diagnostics.countP fun d => d.code == "E_LEX_MISUSED_COLON") =
      loneColonCount text := by
  rw [countP_code_scan]
  have hspace : ∀ rest, loneColonCount (' ' :: rest) = loneColonCount rest := by
    intro rest
    rw [← List.singleton_append, loneColonCount_append (by decide)]
  apply Lexeme.countP_lexemes rfl hspace
  intro l cs rest hl hcs ha
  exact Lexeme.loneColonCount_step hl hcs ha

theorem countP_wordTooLong (text : List Char) :
    ((scan text).diagnostics.countP fun d => d.code == "E_LEX_IDENT_TOO_LONG") =
      longRunCount text := by
  rw [countP_code_scan]
  apply Lexeme.countP_lexemes rfl (longRunCount_cons (by decide))
  intro l cs rest hl hcs ha
  exact Lexeme.longRunCount_step hl hcs ha

/-- **The diagnostics of a text, counted on the text.** There are as many bad characters as
characters outside the alphabet, as many misused colons as colons that no equals sign follows, and
as many words too long as runs of letters and digits that are too long from their first letter. A
scan has no other diagnostics, and succeeds exactly if all three counts are zero. -/
theorem scan_diagnosticCount (text : List Char) :
    ((scan text).diagnostics.countP fun d => d.code == "E_LEX_BAD_CHAR") = foreignCount text ∧
    ((scan text).diagnostics.countP fun d => d.code == "E_LEX_MISUSED_COLON") =
      loneColonCount text ∧
    ((scan text).diagnostics.countP fun d => d.code == "E_LEX_IDENT_TOO_LONG") =
      longRunCount text ∧
    (scan text).diagnostics.length =
      foreignCount text + loneColonCount text + longRunCount text ∧
    ((scan text).success = true ↔
      foreignCount text = 0 ∧ loneColonCount text = 0 ∧ longRunCount text = 0) := by
  have hlength := length_diagnostics_scan text
  rw [countP_badCharacter, countP_misusedColon, countP_wordTooLong] at hlength
  refine ⟨countP_badCharacter text, countP_misusedColon text, countP_wordTooLong text, hlength, ?_⟩
  have hsuccess : (scan text).success = true ↔ (scan text).diagnostics.length = 0 := by
    rw [List.length_eq_zero_iff, ← List.isEmpty_iff]
    rfl
  rw [hsuccess, hlength]
  omega

end PascalScan
