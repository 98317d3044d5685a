import PascalScan.Proofs.Records

/-!
# Deliveries that a sink cuts short

A sink may refuse any of its calls. This file says what the hand-over comes to then: everything
before the refused call is done, nothing after it is, and the log stops where the calls stop.

Shape of the results: one step of a hand-over (`feed_of_ok`, `feed_of_error`), a run of accepted
records (`feed_of_accepts`), and a whole delivery, which is either refused at one place or not at
all (`Sinks.deliver_of_error`, `Sinks.deliver_of_accepts`). The sinks that refuse a call of a given
number are the last section.
-/

namespace PascalScan

namespace Sinks

variable {σ ε : Type} {k : Sinks σ ε}

/-- The call that a record makes, of the one sink or the other. -/
def call (k : Sinks σ ε) : Record → σ → Except ε σ
  | .token t => k.token t
  | .diagnostic d => k.diagnostic d

/-- The log of a hand-over: one entry for each diagnostic, in order. -/
def entries (rs : List Record) : List Logging.Entry := (Record.diagnostics rs).map diagnosticEntry

@[simp] theorem entries_append (rs ss : List Record) :
    entries (rs ++ ss) = entries rs ++ entries ss := by
  simp [entries]

/-- Records that the sinks accept one after the other, and the state before and after. -/
inductive Accepts (k : Sinks σ ε) : List Record → σ → σ → Prop where
  | nil (st : σ) : Accepts k [] st st
  | cons {r : Record} {rs : List Record} {st st' st'' : σ} :
      k.call r st = .ok st' → Accepts k rs st' st'' → Accepts k (r :: rs) st st''

/-! ## Hand-over -/

/-- An accepted record is logged, and the hand-over goes on with the rest. -/
theorem feed_of_ok {r : Record} {st st' : σ} (h : k.call r st = .ok st') (rs : List Record) :
    k.feed (r :: rs) st =
      ⟨(k.feed rs st').state, entries [r] ++ (k.feed rs st').log, (k.feed rs st').fault⟩ := by
  cases r with
  | token t =>
      have htoken : k.token t st = .ok st' := h
      simp only [feed, htoken]
      rfl
  | diagnostic d =>
      have hdiagnostic : k.diagnostic d st = .ok st' := h
      simp only [feed, hdiagnostic]
      rfl

/-- A refused record is logged too, and ends the hand-over. -/
theorem feed_of_error {r : Record} {st : σ} {e : ε} (h : k.call r st = .error e)
    (rs : List Record) : k.feed (r :: rs) st = ⟨st, entries [r], some e⟩ := by
  cases r with
  | token t =>
      have htoken : k.token t st = .error e := h
      simp only [feed, htoken]
      rfl
  | diagnostic d =>
      have hdiagnostic : k.diagnostic d st = .error e := h
      simp only [feed, hdiagnostic]
      rfl

theorem feed_of_accepts {rs : List Record} {st st' : σ} (h : Accepts k rs st st')
    (ss : List Record) :
    k.feed (rs ++ ss) st =
      ⟨(k.feed ss st').state, entries rs ++ (k.feed ss st').log, (k.feed ss st').fault⟩ := by
  induction h with
  | nil st => rfl
  | @cons r rs st st' st'' hr _ ih =>
      rw [List.cons_append, feed_of_ok hr, ih, ← List.append_assoc, ← entries_append]
      rfl

/-! ## Delivery -/

/-- A delivery whose records are all accepted logs its summary and says whether there was a
diagnostic. -/
theorem deliver_of_accepts {source : List Element} {st st' : σ}
    (h : Accepts k (delivered source) st st') :
    deliver k source st =
      ⟨st', entries (delivered source) ++
          [summaryEntry source.length (Record.tokens (delivered source)).length
            (Record.diagnostics (delivered source)).length],
        .ok ((Record.diagnostics (delivered source)).length == 0)⟩ := by
  have hfeed := feed_of_accepts h []
  rw [List.append_nil] at hfeed
  rw [delivered_eq] at hfeed ⊢
  simp [deliver, hfeed, feed]

/-- A delivery ends at the first record that is refused, and hands on the fault of the sink. -/
theorem deliver_of_error {source : List Element} {before after : List Record} {r : Record}
    {st st' : σ} {e : ε} (hsource : delivered source = before ++ r :: after)
    (hbefore : Accepts k before st st') (hr : k.call r st' = .error e) :
    deliver k source st = ⟨st', entries (before ++ [r]), .error e⟩ := by
  have hfeed := feed_of_accepts hbefore (r :: after)
  rw [feed_of_error hr, ← entries_append, ← hsource, delivered_eq] at hfeed
  simp [deliver, hfeed]

end Sinks

/-! ## Calls refused by their number -/

/-- The sink that a record is for. -/
def Record.sink : Record → SinkFault
  | token _ => .token
  | diagnostic _ => .diagnostic

/-- Whether the call of a record, behind the calls of others, has the number that its sink is set
to refuse. Each sink counts its own calls, from one. -/
def RefusesAfter (failToken failDiagnostic : Option Nat) (before : List Record) : Record → Prop
  | .token _ => failToken = some ((Record.tokens before).length + 1)
  | .diagnostic _ => failDiagnostic = some ((Record.diagnostics before).length + 1)

/-- The place of the first refused call in a sequence: no call before it is refused. -/
structure FirstRefused (failToken failDiagnostic : Option Nat) (rs before : List Record)
    (r : Record) (after : List Record) : Prop where
  split : rs = before ++ r :: after
  refused : RefusesAfter failToken failDiagnostic before r
  first : ∀ before' r' after', rs = before' ++ r' :: after' →
    RefusesAfter failToken failDiagnostic before' r' → before.length ≤ before'.length

namespace Recording

/-- What sinks hold that have kept a sequence of records. -/
def ofRecords (rs : List Record) : Recording :=
  ⟨rs.reverse, (Record.tokens rs).length, (Record.diagnostics rs).length⟩

theorem records_ofRecords (rs : List Record) : (ofRecords rs).records = rs :=
  List.reverse_reverse rs

end Recording

variable {failToken failDiagnostic : Option Nat}

theorem call_recording_of_refuses {before : List Record} {r : Record}
    (h : RefusesAfter failToken failDiagnostic before r) :
    (Sinks.recording failToken failDiagnostic).call r (.ofRecords before) = .error r.sink := by
  cases r with
  | token t => exact if_pos h
  | diagnostic d => exact if_pos h

theorem call_recording_of_not_refuses {before : List Record} {r : Record}
    (h : ¬RefusesAfter failToken failDiagnostic before r) :
    (Sinks.recording failToken failDiagnostic).call r (.ofRecords before) =
      .ok (.ofRecords (before ++ [r])) := by
  cases r with
  | token t =>
      refine (if_neg h).trans ?_
      simp [Recording.ofRecords, Record.tokens, Record.diagnostics, Record.token?,
        Record.diagnostic?]
  | diagnostic d =>
      refine (if_neg h).trans ?_
      simp [Recording.ofRecords, Record.tokens, Record.diagnostics, Record.token?,
        Record.diagnostic?]

/-- Records of which none is refused are all kept. -/
theorem accepts_recording (before : List Record) {rs : List Record}
    (h : ∀ pre r post, rs = pre ++ r :: post →
      ¬RefusesAfter failToken failDiagnostic (before ++ pre) r) :
    (Sinks.recording failToken failDiagnostic).Accepts rs (.ofRecords before)
      (.ofRecords (before ++ rs)) := by
  induction rs generalizing before with
  | nil =>
      rw [List.append_nil]
      exact .nil _
  | cons r rs ih =>
      have hr : ¬RefusesAfter failToken failDiagnostic before r := by
        simpa using h [] r rs rfl
      have hrs := ih (before ++ [r]) fun pre s post hsplit => by
        rw [List.append_assoc]
        exact h (r :: pre) s post (congrArg (r :: ·) hsplit)
      rw [List.append_assoc, List.singleton_append] at hrs
      exact .cons (call_recording_of_not_refuses hr) hrs

/-- A sequence has a first refused call or none that is refused. -/
theorem exists_firstRefused (failToken failDiagnostic : Option Nat) (rs : List Record) :
    (∃ before r after, FirstRefused failToken failDiagnostic rs before r after) ∨
      ∀ before r after, rs = before ++ r :: after →
        ¬RefusesAfter failToken failDiagnostic before r := by
  classical
  by_cases hex : ∃ n before r after, before.length = n ∧ rs = before ++ r :: after ∧
      RefusesAfter failToken failDiagnostic before r
  · obtain ⟨before, r, after, hlength, hsplit, hr⟩ := Nat.find_spec hex
    refine .inl ⟨before, r, after, hsplit, hr, ?_⟩
    intro before' r' after' hsplit' hr'
    rw [hlength]
    exact Nat.find_min' hex ⟨before', r', after', rfl, hsplit', hr'⟩
  · refine .inr fun before r after hsplit hr => hex ?_
    exact ⟨before.length, before, r, after, rfl, hsplit, hr⟩

/-- What stands before the first refused call is not refused. -/
theorem FirstRefused.accepts {rs before after : List Record} {r : Record}
    (h : FirstRefused failToken failDiagnostic rs before r after) :
    (Sinks.recording failToken failDiagnostic).Accepts before (.ofRecords [])
      (.ofRecords before) := by
  refine accepts_recording [] fun pre s post hsplit hs => ?_
  have hrs : rs = pre ++ s :: (post ++ r :: after) := by
    rw [h.split, hsplit, List.append_assoc, List.cons_append]
  have hle := h.first pre s _ hrs hs
  rw [hsplit, List.length_append, List.length_cons] at hle
  omega

/-- **A refusal cuts the delivery at its call.** Let the sinks be set to refuse a call each, or one
of them, or none. If one of these calls comes up among those of a free delivery, then the delivery
ends at the first that does, with the fault of its sink: just the records before it were kept, and
the log has an entry for each diagnostic among them and for the refused record, if it is one, and no
summary. If none of these calls comes up, the delivery is the free one: all records are kept, and
the log has an entry for each diagnostic and then a summary with the numbers of the elements and of
the calls of each sink. -/
theorem deliver_recording (source : List Element) (failToken failDiagnostic : Option Nat) :
    (∃ before r after,
      FirstRefused failToken failDiagnostic (delivered source) before r after ∧
      (deliver (Sinks.recording failToken failDiagnostic) source .empty).outcome = .error r.sink ∧
      (deliver (Sinks.recording failToken failDiagnostic) source .empty).state.records = before ∧
      (deliver (Sinks.recording failToken failDiagnostic) source .empty).log =
        (Record.diagnostics (before ++ [r])).map fun d =>
          ⟨"lexer-svc", .debug, "diagnostic: " ++ d.msg⟩) ∨
    ((∀ before r after, delivered source = before ++ r :: after →
        ¬RefusesAfter failToken failDiagnostic before r) ∧
      (deliver (Sinks.recording failToken failDiagnostic) source .empty).outcome =
        .ok ((Record.diagnostics (delivered source)).length == 0) ∧
      (deliver (Sinks.recording failToken failDiagnostic) source .empty).state.records =
        delivered source ∧
      (deliver (Sinks.recording failToken failDiagnostic) source .empty).log =
        ((Record.diagnostics (delivered source)).map fun d =>
          ⟨"lexer-svc", .debug, "diagnostic: " ++ d.msg⟩) ++
        [⟨"lexer-svc", .info,
          "scanned " ++ toString source.length ++ " chars: " ++
            toString (Record.tokens (delivered source)).length ++ " tokens, " ++
            toString (Record.diagnostics (delivered source)).length ++ " diagnostics"⟩]) := by
  rcases exists_firstRefused failToken failDiagnostic (delivered source) with
    ⟨before, r, after, hfirst⟩ | hnone
  · have hdeliver := Sinks.deliver_of_error hfirst.split hfirst.accepts
      (call_recording_of_refuses hfirst.refused)
    refine .inl ⟨before, r, after, hfirst, ?_, ?_, ?_⟩
    · exact congrArg Delivery.outcome hdeliver
    · rw [show Recording.empty = .ofRecords [] from rfl, hdeliver]
      exact Recording.records_ofRecords before
    · exact congrArg Delivery.log hdeliver
  · have haccepts := accepts_recording [] hnone
    rw [List.nil_append] at haccepts
    have hdeliver := Sinks.deliver_of_accepts haccepts
    refine .inr ⟨hnone, ?_, ?_, ?_⟩
    · exact congrArg Delivery.outcome hdeliver
    · rw [show Recording.empty = .ofRecords [] from rfl, hdeliver]
      exact Recording.records_ofRecords _
    · exact congrArg Delivery.log hdeliver

end PascalScan
