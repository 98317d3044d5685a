import PascalScan.Proofs.Forwarding

/-!
# Record files from an answer, all or nothing

An answer that reports a success may still lack a part, or hold records that are none. This file
says when the gateway makes the record files from it, and which of several defects it breaks off at.

Shape of the argument: the defects of an answer are stated each by itself (`Present`), and ordered
(`Defect.Before`). Either an answer is complete or one of its defects is the first, and there is an
equation of `rebuild` for both (`rebuild_cases`).
-/

namespace PascalScan.Service.Gateway

/-! ## Records up to the first that is none -/

section Records

variable {α : Type} {form : Form} {ofFields : Json.Fields → Checked α}
  {entries : List Json.Fields}

/-- Each entry is a record, and these are the records. -/
def Valid (ofFields : Json.Fields → Checked α) (entries : List Json.Fields) (as : List α) : Prop :=
  List.Forall₂ (fun entry a => ofFields entry = .ok a) entries as

/-- The entry at a place is no record, for these faults, and every one before it is. -/
structure FirstInvalid (ofFields : Json.Fields → Checked α) (entries : List Json.Fields)
    (place : Nat) (faults : List FieldFault) : Prop where
  invalid : ∃ entry, entries[place]? = some entry ∧ ofFields entry = .error faults
  before : ∀ i < place, ∀ entry, entries[i]? = some entry → ∃ a, ofFields entry = .ok a

theorem readRecords_of_valid {as : List α} (h : Valid ofFields entries as) :
    readRecords form ofFields (entries.map .object) = .ok as := by
  induction h with
  | nil => rfl
  | @cons entry a entries as hentry _ ih =>
      have hrecord : readRecord form ofFields (.object entry) = .ok a := by
        rw [readRecord, hentry]
      rw [List.map_cons, readRecords, hrecord, ih]
      rfl

/-- What stands behind an entry that is no record is not looked at. -/
theorem readRecords_of_firstInvalid {place : Nat} {faults : List FieldFault}
    (h : FirstInvalid ofFields entries place faults) :
    readRecords form ofFields (entries.map .object) = .error (.invalid faults) := by
  obtain ⟨⟨entry, hentry, hfaults⟩, hbefore⟩ := h
  induction entries generalizing place with
  | nil => cases hentry
  | cons e entries ih =>
      cases place with
      | zero =>
          obtain rfl : e = entry := Option.some.inj hentry
          have hrecord : readRecord form ofFields (.object e) = .error (.invalid faults) := by
            rw [readRecord, hfaults]
          rw [List.map_cons, readRecords, hrecord]
          rfl
      | succ place =>
          obtain ⟨a, ha⟩ := hbefore 0 (Nat.succ_pos _) e rfl
          have hrecord : readRecord form ofFields (.object e) = .ok a := by
            rw [readRecord, ha]
          have hrest := ih (fun i hi => hbefore (i + 1) (Nat.succ_lt_succ hi)) hentry
          rw [List.map_cons, readRecords, hrecord, hrest]
          rfl

/-- Either every entry is a record, or one is the first that is none. -/
theorem exists_valid_or_firstInvalid (ofFields : Json.Fields → Checked α)
    (entries : List Json.Fields) :
    (∃ as, Valid ofFields entries as) ∨
      ∃ place faults, FirstInvalid ofFields entries place faults := by
  induction entries with
  | nil => exact .inl ⟨[], .nil⟩
  | cons entry entries ih =>
      cases hentry : ofFields entry with
      | error faults =>
          refine .inr ⟨0, faults, ⟨entry, rfl, hentry⟩, ?_⟩
          intro i hi
          exact absurd hi (Nat.not_lt_zero i)
      | ok a =>
          rcases ih with ⟨as, has⟩ | ⟨place, faults, hbad, hbefore⟩
          · exact .inl ⟨a :: as, .cons hentry has⟩
          · refine .inr ⟨place + 1, faults, hbad, ?_⟩
            intro i hi e he
            cases i with
            | zero =>
                obtain rfl : entry = e := Option.some.inj he
                exact ⟨a, hentry⟩
            | succ i => exact hbefore i (Nat.lt_of_succ_lt_succ hi) e he

theorem Valid.exists_ok {as : List α} (h : Valid ofFields entries as) {place : Nat}
    {entry : Json.Fields} (hentry : entries[place]? = some entry) :
    ∃ a, ofFields entry = .ok a := by
  induction h generalizing place with
  | nil => cases hentry
  | @cons e a entries as he _ ih =>
      cases place with
      | zero =>
          obtain rfl : e = entry := Option.some.inj hentry
          exact ⟨a, he⟩
      | succ place => exact ih hentry

end Records

/-! ## What an answer may lack -/

/-- What can be wrong with an answer that reports a success. -/
inductive Defect where
  | noData
  | noTokens
  | noDiagnostics
  /-- The entry at a place is no token, for these faults. -/
  | badToken (place : Nat) (faults : List FieldFault)
  /-- The entry at a place is no diagnostic, for these faults. -/
  | badDiagnostic (place : Nat) (faults : List FieldFault)
  | noSuccess

namespace Defect

/-- The fault that the gateway breaks off with. -/
def fault : Defect → Fault
  | noData => .missingKey "data"
  | noTokens => .missingKey "tokens"
  | noDiagnostics => .missingKey "errors"
  | badToken _ faults => .invalid faults
  | badDiagnostic _ faults => .invalid faults
  | noSuccess => .missingKey "success"

/-- The containers come first, then the records, then the success. -/
def rank : Defect → Nat
  | noData => 0
  | noTokens => 1
  | noDiagnostics => 2
  | badToken _ _ => 3
  | badDiagnostic _ _ => 4
  | noSuccess => 5

/-- The place among the records of one kind. -/
def place : Defect → Nat
  | badToken place _ => place
  | badDiagnostic place _ => place
  | _ => 0

/-- The order in which defects show; faulty records of one kind show in the order of the list. -/
def Before (d d' : Defect) : Prop := d.rank < d'.rank ∨ d.rank = d'.rank ∧ d.place < d'.place

end Defect

/-- The entries of a list in an object. -/
def HasEntries (data : Json.Fields) (name : String) (entries : List Json.Fields) : Prop :=
  data.lookup name = some (.array (entries.map .object))

/-- The data of an answer have a defect, whatever else is wrong with them. -/
inductive DefectOfData (data : Json.Fields) : Defect → Prop where
  | noTokens : data.lookup "tokens" = none → DefectOfData data .noTokens
  | noDiagnostics : data.lookup "errors" = none → DefectOfData data .noDiagnostics
  | badToken {entries : List Json.Fields} {entry : Json.Fields} {place : Nat}
      {faults : List FieldFault} : HasEntries data "tokens" entries →
      entries[place]? = some entry → Token.ofFields entry = .error faults →
        DefectOfData data (.badToken place faults)
  | badDiagnostic {entries : List Json.Fields} {entry : Json.Fields} {place : Nat}
      {faults : List FieldFault} : HasEntries data "errors" entries →
      entries[place]? = some entry → Diagnostic.ofFields entry = .error faults →
        DefectOfData data (.badDiagnostic place faults)
  | noSuccess : data.lookup "success" = none → DefectOfData data .noSuccess

/-- An answer has a defect, whatever else is wrong with it. -/
inductive Present (fields : Json.Fields) : Defect → Prop where
  | noData : fields.lookup "data" = none → Present fields .noData
  | ofData {data : Json.Fields} {d : Defect} : fields.lookup "data" = some (.object data) →
      DefectOfData data d → Present fields d

/-- A defect that no other one of the answer comes before. -/
structure First (fields : Json.Fields) (d : Defect) : Prop where
  present : Present fields d
  first : ∀ d', Present fields d' → ¬d'.Before d

/-- An answer with all parts, of which each entry is a record; the records stand in the order of
the entries. -/
inductive Complete (fields : Json.Fields) : List Token → List Diagnostic → Json → Prop where
  | intro {data : Json.Fields} {tokenEntries diagnosticEntries : List Json.Fields}
      {tokens : List Token} {diagnostics : List Diagnostic} {success : Json} :
      fields.lookup "data" = some (.object data) →
      HasEntries data "tokens" tokenEntries → HasEntries data "errors" diagnosticEntries →
      Valid Token.ofFields tokenEntries tokens →
      Valid Diagnostic.ofFields diagnosticEntries diagnostics →
      data.lookup "success" = some success → Complete fields tokens diagnostics success

/-- The parts of an answer, as far as they are there, are an object with two lists of objects. -/
structure Shaped (fields : Json.Fields) : Prop where
  data : ∀ value, fields.lookup "data" = some value → ∃ data, value = .object data
  entries : ∀ data, fields.lookup "data" = some (.object data) → ∀ name ∈ ["tokens", "errors"],
    data.lookup name = none ∨ ∃ entries, HasEntries data name entries

variable {fields : Json.Fields}

/-! ## Rebuilding -/

theorem HasEntries.unique {data : Json.Fields} {name : String} {entries others : List Json.Fields}
    (h : HasEntries data name entries) (h' : HasEntries data name others) : entries = others := by
  have hmap := Json.array.inj (Option.some.inj (h.symm.trans h'))
  exact List.map_injective_iff.mpr (fun _ _ => Json.object.inj) hmap

theorem index_of_some {data : Json.Fields} {name : String} {value : Json}
    (h : data.lookup name = some value) : index (.object data) name = .ok value := by
  rw [index, h]

theorem index_of_none {data : Json.Fields} {name : String} (h : data.lookup name = none) :
    index (.object data) name = .error (.missingKey name) := by
  rw [index, h]

/-- The lists are looked up before any record is read, and the success after all of them. -/
theorem rebuild_of_entries {data : Json.Fields} {tokenEntries diagnosticEntries : List Json.Fields}
    (hdata : fields.lookup "data" = some (.object data))
    (htokens : HasEntries data "tokens" tokenEntries)
    (hdiagnostics : HasEntries data "errors" diagnosticEntries) :
    rebuild fields = (do
      let tokens ← readRecords .token Token.ofFields (tokenEntries.map .object)
      let diagnostics ← readRecords .diagnostic Diagnostic.ofFields
        (diagnosticEntries.map .object)
      let success ← index (.object data) "success"
      return .scanned (Layout.tokenText tokens) (Layout.diagnosticText diagnostics) success) := by
  unfold rebuild
  simp only [bind, Except.bind, index_of_some hdata, index_of_some htokens,
    index_of_some hdiagnostics, parts]

/-- The files of a complete answer. -/
theorem rebuild_of_complete {tokens : List Token} {diagnostics : List Diagnostic} {success : Json}
    (h : Complete fields tokens diagnostics success) :
    rebuild fields = .ok (.scanned (Layout.tokenText tokens)
      (Layout.diagnosticText diagnostics) success) := by
  obtain ⟨hdata, htokens, hdiagnostics, hvalid, hvalid', hsuccess⟩ := h
  rw [rebuild_of_entries hdata htokens hdiagnostics, readRecords_of_valid hvalid,
    readRecords_of_valid hvalid', index_of_some hsuccess]
  rfl

/-! ## The first defect -/

theorem present_iff_of_data {data : Json.Fields}
    (hdata : fields.lookup "data" = some (.object data))
    {d : Defect} : Present fields d ↔ DefectOfData data d := by
  constructor
  · rintro (hnone | ⟨hother, hd⟩)
    · rw [hdata] at hnone
      cases hnone
    · obtain rfl := Json.object.inj (Option.some.inj (hdata.symm.trans hother))
      exact hd
  · exact .ofData hdata

theorem Defect.not_before_iff {d d' : Defect} :
    ¬d'.Before d ↔ d.rank < d'.rank ∨ d.rank = d'.rank ∧ d.place ≤ d'.place := by
  unfold Before
  omega

theorem HasEntries.lookup_ne_none {data : Json.Fields} {name : String}
    {entries : List Json.Fields} (h : HasEntries data name entries) : data.lookup name ≠ none := by
  rw [h]
  exact Option.some_ne_none _

/-- Where each entry is a record, none is faulty. -/
theorem Valid.not_error {α : Type} {ofFields : Json.Fields → Checked α} {data : Json.Fields}
    {name : String} {entries others : List Json.Fields} {as : List α}
    (h : Valid ofFields entries as) (hentries : HasEntries data name entries)
    (hothers : HasEntries data name others) {place : Nat} {entry : Json.Fields}
    (hentry : others[place]? = some entry) {faults : List FieldFault} :
    ofFields entry ≠ .error faults := by
  obtain rfl := hentries.unique hothers
  obtain ⟨a, ha⟩ := h.exists_ok hentry
  rw [ha]
  exact fun herror => by cases herror

/-- A faulty entry does not stand before the first one. -/
theorem FirstInvalid.le {α : Type} {ofFields : Json.Fields → Checked α} {data : Json.Fields}
    {name : String} {entries others : List Json.Fields} {place other : Nat}
    {faults otherFaults : List FieldFault} (h : FirstInvalid ofFields entries place faults)
    (hentries : HasEntries data name entries) (hothers : HasEntries data name others)
    {entry : Json.Fields} (hentry : others[other]? = some entry)
    (hfaults : ofFields entry = .error otherFaults) : place ≤ other := by
  obtain rfl := hentries.unique hothers
  by_contra hlt
  obtain ⟨a, ha⟩ := h.before other (Nat.lt_of_not_le hlt) entry hentry
  rw [ha] at hfaults
  cases hfaults

theorem first_noData (h : fields.lookup "data" = none) : First fields .noData := by
  refine ⟨.noData h, ?_⟩
  intro d' hd'
  rw [Defect.not_before_iff]
  cases hd' with
  | noData => exact .inr ⟨rfl, Nat.le_refl _⟩
  | ofData hdata =>
      rw [h] at hdata
      cases hdata

section Data

variable {data : Json.Fields}

theorem first_noTokens (h : data.lookup "tokens" = none)
    (hdata : fields.lookup "data" = some (.object data)) : First fields .noTokens := by
  refine ⟨.ofData hdata (.noTokens h), ?_⟩
  intro d' hd'
  rw [Defect.not_before_iff]
  cases (present_iff_of_data hdata).mp hd' with
  | noTokens => exact .inr ⟨rfl, Nat.le_refl _⟩
  | _ => exact .inl (by simp [Defect.rank])

theorem first_noDiagnostics {entries : List Json.Fields}
    (htokens : HasEntries data "tokens" entries) (h : data.lookup "errors" = none)
    (hdata : fields.lookup "data" = some (.object data)) :
    First fields .noDiagnostics := by
  refine ⟨.ofData hdata (.noDiagnostics h), ?_⟩
  intro d' hd'
  rw [Defect.not_before_iff]
  cases (present_iff_of_data hdata).mp hd' with
  | noTokens hnone => exact absurd hnone htokens.lookup_ne_none
  | noDiagnostics => exact .inr ⟨rfl, Nat.le_refl _⟩
  | _ => exact .inl (by simp [Defect.rank])

variable {tokenEntries diagnosticEntries : List Json.Fields} {tokens : List Token}
  {diagnostics : List Diagnostic}

theorem first_badToken {place : Nat} {faults : List FieldFault}
    (htokens : HasEntries data "tokens" tokenEntries)
    (hdiagnostics : HasEntries data "errors" diagnosticEntries)
    (h : FirstInvalid Token.ofFields tokenEntries place faults)
    (hdata : fields.lookup "data" = some (.object data)) :
    First fields (.badToken place faults) := by
  obtain ⟨entry, hentry, hfaults⟩ := h.invalid
  refine ⟨.ofData hdata (.badToken htokens hentry hfaults), ?_⟩
  intro d' hd'
  rw [Defect.not_before_iff]
  cases (present_iff_of_data hdata).mp hd' with
  | noTokens hnone => exact absurd hnone htokens.lookup_ne_none
  | noDiagnostics hnone => exact absurd hnone hdiagnostics.lookup_ne_none
  | badToken hothers hother hotherFaults =>
      exact .inr ⟨rfl, h.le htokens hothers hother hotherFaults⟩
  | _ => exact .inl (by simp [Defect.rank])

theorem first_badDiagnostic {place : Nat} {faults : List FieldFault}
    (htokens : HasEntries data "tokens" tokenEntries)
    (hdiagnostics : HasEntries data "errors" diagnosticEntries)
    (hvalid : Valid Token.ofFields tokenEntries tokens)
    (h : FirstInvalid Diagnostic.ofFields diagnosticEntries place faults)
    (hdata : fields.lookup "data" = some (.object data)) :
    First fields (.badDiagnostic place faults) := by
  obtain ⟨entry, hentry, hfaults⟩ := h.invalid
  refine ⟨.ofData hdata (.badDiagnostic hdiagnostics hentry hfaults), ?_⟩
  intro d' hd'
  rw [Defect.not_before_iff]
  cases (present_iff_of_data hdata).mp hd' with
  | noTokens hnone => exact absurd hnone htokens.lookup_ne_none
  | noDiagnostics hnone => exact absurd hnone hdiagnostics.lookup_ne_none
  | badToken hothers hother hotherFaults =>
      exact absurd hotherFaults (hvalid.not_error htokens hothers hother)
  | badDiagnostic hothers hother hotherFaults =>
      exact .inr ⟨rfl, h.le hdiagnostics hothers hother hotherFaults⟩
  | noSuccess => exact .inl (by simp [Defect.rank])

theorem first_noSuccess (htokens : HasEntries data "tokens" tokenEntries)
    (hdiagnostics : HasEntries data "errors" diagnosticEntries)
    (hvalid : Valid Token.ofFields tokenEntries tokens)
    (hvalid' : Valid Diagnostic.ofFields diagnosticEntries diagnostics)
    (h : data.lookup "success" = none) (hdata : fields.lookup "data" = some (.object data)) :
    First fields .noSuccess := by
  refine ⟨.ofData hdata (.noSuccess h), ?_⟩
  intro d' hd'
  rw [Defect.not_before_iff]
  cases (present_iff_of_data hdata).mp hd' with
  | noTokens hnone => exact absurd hnone htokens.lookup_ne_none
  | noDiagnostics hnone => exact absurd hnone hdiagnostics.lookup_ne_none
  | badToken hothers hother hfaults =>
      exact absurd hfaults (hvalid.not_error htokens hothers hother)
  | badDiagnostic hothers hother hfaults =>
      exact absurd hfaults (hvalid'.not_error hdiagnostics hothers hother)
  | noSuccess => exact .inr ⟨rfl, Nat.le_refl _⟩

end Data

/-- A complete answer has no defect. -/
theorem Complete.not_present {tokens : List Token} {diagnostics : List Diagnostic} {success : Json}
    (h : Complete fields tokens diagnostics success) (d : Defect) : ¬Present fields d := by
  obtain ⟨hdata, htokens, hdiagnostics, hvalid, hvalid', hsuccess⟩ := h
  rw [present_iff_of_data hdata]
  rintro (hnone | hnone | ⟨hothers, hother, hfaults⟩ | ⟨hothers, hother, hfaults⟩ | hnone)
  · exact htokens.lookup_ne_none hnone
  · exact hdiagnostics.lookup_ne_none hnone
  · exact hvalid.not_error htokens hothers hother hfaults
  · exact hvalid'.not_error hdiagnostics hothers hother hfaults
  · rw [hsuccess] at hnone
    cases hnone

/-- Defects of one rank and place show as the same fault. -/
theorem Present.fault_eq {d d' : Defect} (h : Present fields d) (h' : Present fields d')
    (hrank : d.rank = d'.rank) (hplace : d.place = d'.place) : d.fault = d'.fault := by
  cases h with
  | noData hnone =>
      cases h' with
      | noData => rfl
      | ofData hdata =>
          rw [hnone] at hdata
          cases hdata
  | ofData hdata hd =>
      rw [present_iff_of_data hdata] at h'
      cases hd with
      | badToken hentries hentry hfaults =>
          cases h' with
          | badToken hothers hother hotherFaults =>
              obtain rfl := hentries.unique hothers
              obtain rfl : _ = _ := hplace
              obtain rfl := Option.some.inj (hentry.symm.trans hother)
              obtain rfl := Except.error.inj (hfaults.symm.trans hotherFaults)
              rfl
          | _ => exact absurd hrank (by simp [Defect.rank])
      | badDiagnostic hentries hentry hfaults =>
          cases h' with
          | badDiagnostic hothers hother hotherFaults =>
              obtain rfl := hentries.unique hothers
              obtain rfl : _ = _ := hplace
              obtain rfl := Option.some.inj (hentry.symm.trans hother)
              obtain rfl := Except.error.inj (hfaults.symm.trans hotherFaults)
              rfl
          | _ => exact absurd hrank (by simp [Defect.rank])
      | _ =>
          cases h' with
          | badToken => exact absurd hrank (by simp [Defect.rank])
          | badDiagnostic => exact absurd hrank (by simp [Defect.rank])
          | _ => first | rfl | exact absurd hrank (by simp [Defect.rank])

theorem First.fault_eq {d d' : Defect} (h : First fields d) (h' : First fields d') :
    d.fault = d'.fault := by
  have hle := Defect.not_before_iff.mp (h.first d' h'.present)
  have hge := Defect.not_before_iff.mp (h'.first d h.present)
  exact h.present.fault_eq h'.present (by omega) (by omega)

theorem rebuild_cases_of_entries {data : Json.Fields}
    {tokenEntries diagnosticEntries : List Json.Fields}
    (hdata : fields.lookup "data" = some (.object data))
    (htokens : HasEntries data "tokens" tokenEntries)
    (hdiagnostics : HasEntries data "errors" diagnosticEntries) :
    (∃ tokens diagnostics success, Complete fields tokens diagnostics success) ∨
      ∃ d, First fields d ∧ rebuild fields = .error d.fault := by
  rw [rebuild_of_entries hdata htokens hdiagnostics]
  rcases exists_valid_or_firstInvalid Token.ofFields tokenEntries with
    ⟨tokens, hvalid⟩ | ⟨place, faults, hbad⟩
  · rw [readRecords_of_valid hvalid]
    rcases exists_valid_or_firstInvalid Diagnostic.ofFields diagnosticEntries with
      ⟨diagnostics, hvalid'⟩ | ⟨place, faults, hbad⟩
    · rw [readRecords_of_valid hvalid']
      cases hsuccess : data.lookup "success" with
      | none =>
          refine .inr ⟨.noSuccess,
            first_noSuccess htokens hdiagnostics hvalid hvalid' hsuccess hdata, ?_⟩
          rw [index_of_none hsuccess]
          rfl
      | some success =>
          exact .inl ⟨tokens, diagnostics, success,
            .intro hdata htokens hdiagnostics hvalid hvalid' hsuccess⟩
    · refine .inr ⟨.badDiagnostic place faults,
        first_badDiagnostic htokens hdiagnostics hvalid hbad hdata, ?_⟩
      rw [readRecords_of_firstInvalid hbad]
      rfl
  · refine .inr ⟨.badToken place faults, first_badToken htokens hdiagnostics hbad hdata, ?_⟩
    rw [readRecords_of_firstInvalid hbad]
    rfl

/-- An answer is complete, or it breaks off at its first defect. -/
theorem rebuild_cases (h : Shaped fields) :
    (∃ tokens diagnostics success, Complete fields tokens diagnostics success) ∨
      ∃ d, First fields d ∧ rebuild fields = .error d.fault := by
  cases hlookup : fields.lookup "data" with
  | none =>
      refine .inr ⟨.noData, first_noData hlookup, ?_⟩
      rw [rebuild, index_of_none hlookup]
      rfl
  | some value =>
      obtain ⟨data, rfl⟩ := h.data value hlookup
      rcases h.entries data hlookup "tokens" (by simp) with hnone | ⟨tokenEntries, htokens⟩
      · refine .inr ⟨.noTokens, first_noTokens hnone hlookup, ?_⟩
        unfold rebuild
        simp only [bind, Except.bind, index_of_some hlookup, index_of_none hnone]
        rfl
      · rcases h.entries data hlookup "errors" (by simp) with hnone | ⟨entries, hdiagnostics⟩
        · refine .inr ⟨.noDiagnostics, first_noDiagnostics htokens hnone hlookup, ?_⟩
          unfold rebuild
          simp only [bind, Except.bind, index_of_some hlookup, index_of_some htokens, parts,
            index_of_none hnone]
          rfl
        · exact rebuild_cases_of_entries hlookup htokens hdiagnostics

/-- **An answer that reports a success is rebuilt wholly or not at all.** Let the parts of the
answer that are there be an object with two lists of objects. Then the gateway has the record files
exactly if nothing is missing and each entry is a record: the files have a line for each record, in
order, and the success is as it came. Otherwise it breaks off, and of all defects the first shows:
the data, the tokens and the diagnostics that are not there, then the first entry that is no token,
then the first that is no diagnostic, and the success last. -/
theorem forward_rebuilt (backend : Backend) (requestId source : String)
    (hanswers : (backend source).1.Answers fields)
    (hsuccess : ∃ value, fields.lookup "ok" = some value ∧ value.isTruthy = true)
    (hshaped : Shaped fields) :
    let result := (forward backend requestId source).result
    (∀ tokenText diagnosticText success,
      result = .ok (.scanned tokenText diagnosticText success) ↔
        ∃ tokens diagnostics, Complete fields tokens diagnostics success ∧
          tokenText = String.join (tokens.map Layout.tokenLine) ∧
          diagnosticText = String.join (diagnostics.map Layout.diagnosticLine)) ∧
    (∀ fault, result = .error fault ↔ ∃ d, First fields d ∧ d.fault = fault) ∧
    ((∃ tokens diagnostics success, Complete fields tokens diagnostics success) ∨
      ∃ d, First fields d) ∧
    ((∃ tokens diagnostics success, Complete fields tokens diagnostics success) ↔
      ∀ d, ¬Present fields d) := by
  intro result
  have hresult : result = rebuild fields := by
    have hbody : result = ofBody (.object fields) := result_of_answers requestId hanswers
    rw [hbody, ofBody_of_success ((reportsSuccess_iff fields).mpr hsuccess)]
  rw [hresult]
  have hcases := rebuild_cases hshaped
  refine ⟨?_, ?_, ?_, ?_⟩
  · intro tokenText diagnosticText success
    constructor
    · intro h
      rcases hcases with ⟨tokens, diagnostics, other, hcomplete⟩ | ⟨d, -, herror⟩
      · rw [rebuild_of_complete hcomplete] at h
        cases h
        exact ⟨tokens, diagnostics, hcomplete, rfl, rfl⟩
      · rw [herror] at h
        cases h
    · rintro ⟨tokens, diagnostics, hcomplete, rfl, rfl⟩
      exact rebuild_of_complete hcomplete
  · intro fault
    rcases hcases with ⟨tokens, diagnostics, success, hcomplete⟩ | ⟨d, hfirst, herror⟩
    · rw [rebuild_of_complete hcomplete]
      refine iff_of_false (fun h => by cases h) ?_
      rintro ⟨d, hfirst, -⟩
      exact hcomplete.not_present d hfirst.present
    · rw [herror]
      constructor
      · intro h
        exact ⟨d, hfirst, Except.error.inj h⟩
      · rintro ⟨d', hfirst', rfl⟩
        rw [hfirst.fault_eq hfirst']
  · rcases hcases with hcomplete | ⟨d, hfirst, -⟩
    · exact .inl hcomplete
    · exact .inr ⟨d, hfirst⟩
  · constructor
    · rintro ⟨tokens, diagnostics, success, hcomplete⟩ d
      exact hcomplete.not_present d
    · intro hnone
      rcases hcases with hcomplete | ⟨d, hfirst, -⟩
      · exact hcomplete
      · exact absurd hfirst.present (hnone d)

/-- An answer whose second token, third token and diagnostic are faulty, and without a success. -/
theorem forward_rebuilt_faulty :
    let tokenEntries : List Json.Fields :=
      [[("type", .int 4), ("value", .text "If")], [("type", .int 99)], []]
    let data : Json.Fields :=
      [("tokens", .array (tokenEntries.map .object)), ("errors", .array [.object []])]
    let fields : Json.Fields := [("data", .object data), ("ok", .text "yes")]
    let outcome : Outcome := .response ⟨200, none, .ok (.object fields)⟩
    outcome.Answers fields ∧ (∃ value, fields.lookup "ok" = some value ∧ value.isTruthy = true) ∧
    Shaped fields ∧
    (forward (.fixed outcome) "id" "x").result =
      .error (.invalid [⟨"type", .notTokenKind⟩, ⟨"value", .missing⟩]) := by
  intro tokenEntries data fields outcome
  have hanswers : outcome.Answers fields := .object (by decide) rfl
  have hsuccess : ∃ value, fields.lookup "ok" = some value ∧ value.isTruthy = true :=
    ⟨_, rfl, rfl⟩
  have hdata : fields.lookup "data" = some (.object data) := rfl
  have htokens : HasEntries data "tokens" tokenEntries := rfl
  have hdiagnostics : HasEntries data "errors" [[]] := rfl
  have hshaped : Shaped fields := by
    refine ⟨?_, ?_⟩
    · intro value hvalue
      cases hvalue
      exact ⟨data, rfl⟩
    · intro other hother name hname
      cases hother
      simp only [List.mem_cons, List.not_mem_nil, or_false] at hname
      rcases hname with rfl | rfl
      · exact .inr ⟨_, htokens⟩
      · exact .inr ⟨_, hdiagnostics⟩
  have hinvalid : FirstInvalid Token.ofFields tokenEntries 1
      [⟨"type", .notTokenKind⟩, ⟨"value", .missing⟩] := by
    refine ⟨⟨_, rfl, rfl⟩, ?_⟩
    intro i hi entry hentry
    obtain rfl : i = 0 := by omega
    cases hentry
    exact ⟨⟨.keyword .ifWord, "If"⟩, rfl⟩
  obtain ⟨-, hfault, -, -⟩ :=
    forward_rebuilt (.fixed outcome) "id" "x" hanswers hsuccess hshaped
  exact ⟨hanswers, hsuccess, hshaped,
    (hfault _).mpr ⟨_, first_badToken htokens hdiagnostics hinvalid hdata, rfl⟩⟩

end PascalScan.Service.Gateway
