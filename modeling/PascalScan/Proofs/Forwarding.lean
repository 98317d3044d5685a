import PascalScan.Proofs.Checking
import PascalScan.Proofs.Transport
import PascalScan.Service.Gateway

/-!
# What forwarding comes to

The gateway sends a source on, and anything may come of it: the client may fail, and a response may
have any status and any body. This file says what becomes a refusal of the gateway, what breaks off,
and what is taken for an answer.

Shape of the argument: an outcome is of one of three sorts (`Outcome.sorts`), an exchange that
failed, an outcome that nobody can use, or an object that answers, and there is one equation of
`ofOutcome` for each of them.
-/

namespace PascalScan.Service

theorem Status.isSuccess_iff (status : Int) :
    Status.isSuccess status = true ↔ 200 ≤ status ∧ status < 300 := by
  unfold Status.isSuccess
  rw [beq_iff_eq]
  omega

namespace Outcome

/-- The exchange failed: the other side was not reached, or its status is none of a success. The
text tells how. -/
inductive Unreached : Outcome → String → Prop where
  | exchange (message : String) : Unreached (.failed (.exchange message)) message
  | status {r : Response} : ¬(200 ≤ r.status ∧ r.status < 300) →
      Unreached (.response r) (Status.report r.status lexerUrl r.location?)

/-- The exchange did not fail, and yet there is no object: the client was misused, or the body of a
success is no JSON text or the text of another value. The fault tells which. -/
inductive Unusable : Outcome → Gateway.Fault → Prop where
  | misuse (kind : ClientMisuse) (message : String) :
      Unusable (.failed (.misuse kind message)) (.client kind message)
  | notJson {r : Response} {fault : Json.BytesFault} : 200 ≤ r.status ∧ r.status < 300 →
      r.body = .error fault → Unusable (.response r) (.notJson fault)
  | notObject {r : Response} {value : Json} : 200 ≤ r.status ∧ r.status < 300 →
      r.body = .ok value → (∀ fields, value ≠ .object fields) →
        Unusable (.response r) (.notObject value.kindName)

/-- The body of a success is an object with these fields. -/
inductive Answers : Outcome → Json.Fields → Prop where
  | object {r : Response} {fields : Json.Fields} : 200 ≤ r.status ∧ r.status < 300 →
      r.body = .ok (.object fields) → Answers (.response r) fields

/-- An outcome is of one of the three sorts. -/
theorem sorts (o : Outcome) :
    (∃ message, o.Unreached message) ∨ (∃ fault, o.Unusable fault) ∨
      ∃ fields, o.Answers fields := by
  rcases o with ⟨message | ⟨kind, message⟩⟩ | r
  · exact .inl ⟨_, .exchange message⟩
  · exact .inr (.inl ⟨_, .misuse kind message⟩)
  · by_cases hstatus : 200 ≤ r.status ∧ r.status < 300
    · rcases hbody : r.body with fault | value
      · exact .inr (.inl ⟨_, .notJson hstatus hbody⟩)
      · by_cases hobject : ∃ fields, value = .object fields
        · obtain ⟨fields, rfl⟩ := hobject
          exact .inr (.inr ⟨_, .object hstatus hbody⟩)
        · rw [not_exists] at hobject
          exact .inr (.inl ⟨_, .notObject hstatus hbody hobject⟩)
    · exact .inl ⟨_, .status hstatus⟩

end Outcome

namespace Gateway

/-! ## Reading an answer -/

/-- An object reports a success if its "ok" is there and counts as yes. -/
theorem reportsSuccess_iff (fields : Json.Fields) :
    reportsSuccess fields = true ↔
      ∃ value, fields.lookup "ok" = some value ∧ value.isTruthy = true := by
  unfold reportsSuccess
  cases fields.lookup "ok" with
  | none => simp [Json.isTruthy]
  | some value => simp

/-- It reports none if its "ok" is not there or counts as no. -/
theorem reportsSuccess_eq_false_iff (fields : Json.Fields) :
    reportsSuccess fields = false ↔
      ∀ value, fields.lookup "ok" = some value → value.isTruthy = false := by
  rw [Bool.eq_false_iff, ne_eq, reportsSuccess_iff]
  simp only [not_exists, not_and, Bool.not_eq_true]

/-- What comes out of two steps, one after the other, comes out of the second. -/
theorem exists_of_bind_eq_ok {α β : Type} {x : Except Fault α} {f : α → Except Fault β} {b : β}
    (h : (x >>= f) = .ok b) : ∃ a, x = .ok a ∧ f a = .ok b := by
  cases x with
  | error fault => cases h
  | ok a => exact ⟨a, rfl, h⟩

theorem index_eq_ok {value v : Json} {key : String} (h : index value key = .ok v) :
    ∃ fields, value = .object fields ∧ fields.lookup key = some v := by
  cases value with
  | object fields =>
      rw [index] at h
      cases hlookup : fields.lookup key with
      | none =>
          rw [hlookup] at h
          cases h
      | some found =>
          rw [hlookup] at h
          cases h
          exact ⟨fields, rfl, hlookup⟩
  | _ => cases h

/-- What is rebuilt are the files of some records, with the success that is in the data. -/
theorem exists_of_rebuild {fields : Json.Fields} {a : Answer} (h : rebuild fields = .ok a) :
    ∃ data tokens diagnostics success, fields.lookup "data" = some (.object data) ∧
      data.lookup "success" = some success ∧
      a = .scanned (Layout.tokenText tokens) (Layout.diagnosticText diagnostics) success := by
  unfold rebuild at h
  obtain ⟨value, hvalue, h⟩ := exists_of_bind_eq_ok h
  obtain ⟨tokenValue, -, h⟩ := exists_of_bind_eq_ok h
  obtain ⟨tokenParts, -, h⟩ := exists_of_bind_eq_ok h
  obtain ⟨diagnosticValue, -, h⟩ := exists_of_bind_eq_ok h
  obtain ⟨diagnosticParts, -, h⟩ := exists_of_bind_eq_ok h
  obtain ⟨tokens, -, h⟩ := exists_of_bind_eq_ok h
  obtain ⟨diagnostics, -, h⟩ := exists_of_bind_eq_ok h
  obtain ⟨success, hsuccess, h⟩ := exists_of_bind_eq_ok h
  obtain rfl := Except.ok.inj h
  obtain ⟨others, hothers, hdata⟩ := index_eq_ok hvalue
  obtain rfl := Json.object.inj hothers
  obtain ⟨data, rfl, hfound⟩ := index_eq_ok hsuccess
  exact ⟨data, tokens, diagnostics, success, hdata, hfound, rfl⟩

/-- The files that are rebuilt are no refusal. -/
theorem rebuild_ne_refused (fields : Json.Fields) (r : Refusal) :
    rebuild fields ≠ .ok (.refused r) := by
  intro h
  obtain ⟨_, _, _, _, -, -, hfiles⟩ := exists_of_rebuild h
  cases hfiles

variable {fields : Json.Fields}

theorem ofBody_of_success (h : reportsSuccess fields = true) :
    ofBody (.object fields) = rebuild fields := by
  rw [ofBody, if_pos h]

theorem ofBody_of_refusal {r : Refusal} (h : reportsSuccess fields = false)
    (hr : Refusal.ofFields fields = .ok r) : ofBody (.object fields) = .ok (.refused r) := by
  rw [ofBody, if_neg (Bool.eq_false_iff.mp h), hr]

theorem ofBody_of_invalid {faults : List FieldFault} (h : reportsSuccess fields = false)
    (hfaults : Refusal.ofFields fields = .error faults) :
    ofBody (.object fields) = .error (.invalid faults) := by
  rw [ofBody, if_neg (Bool.eq_false_iff.mp h), hfaults]

/-- Nobody looks at the data of an object that reports no success. -/
theorem ofBody_congr {other : Json.Fields} (h : reportsSuccess fields = false)
    (hother : ∀ name, name ≠ "data" → other.lookup name = fields.lookup name) :
    ofBody (.object other) = ofBody (.object fields) := by
  have hsuccess : reportsSuccess other = false := by
    unfold reportsSuccess at h ⊢
    rw [hother "ok" (by decide), h]
  have hrefusal : Refusal.ofFields other = Refusal.ofFields fields := by
    apply Refusal.ofFields_congr
    intro name hname
    apply hother
    rintro rfl
    exact absurd hname (by decide)
  cases hr : Refusal.ofFields fields with
  | ok r => rw [ofBody_of_refusal h hr, ofBody_of_refusal hsuccess (hrefusal.trans hr)]
  | error faults => rw [ofBody_of_invalid h hr, ofBody_of_invalid hsuccess (hrefusal.trans hr)]

/-! ## The three sorts of outcome -/

variable {o : Outcome} (requestId : String)

theorem ofOutcome_of_unreached {message : String} (h : o.Unreached message) :
    ofOutcome requestId o =
      ([unreachableEntry requestId message], .ok (.refused (unreachable message))) := by
  cases h with
  | exchange => rfl
  | status hstatus =>
      have hsuccess := mt (Status.isSuccess_iff _).mp hstatus
      rw [ofOutcome, if_neg hsuccess]

theorem ofOutcome_of_unusable {fault : Fault} (h : o.Unusable fault) :
    ofOutcome requestId o = ([], .error fault) := by
  cases h with
  | misuse => rfl
  | notJson hstatus hbody =>
      rw [ofOutcome, if_pos ((Status.isSuccess_iff _).mpr hstatus), hbody]
  | @notObject r value hstatus hbody hobject =>
      rw [ofOutcome, if_pos ((Status.isSuccess_iff _).mpr hstatus), hbody]
      cases value with
      | object fields => exact absurd rfl (hobject fields)
      | _ => rfl

theorem ofOutcome_of_answers (h : o.Answers fields) :
    ofOutcome requestId o = ([], ofBody (.object fields)) := by
  cases h with
  | object hstatus hbody =>
      rw [ofOutcome, if_pos ((Status.isSuccess_iff _).mpr hstatus), hbody]

/-- The gateway's own refusal, with a warning, tells of a failed exchange and of nothing else. -/
theorem ofOutcome_eq_unreachable_iff {message : String} :
    (ofOutcome requestId o).2 = .ok (.refused (unreachable message)) ∧
      (ofOutcome requestId o).1.countP (fun entry => entry.level == Logging.Level.warning) = 1 ↔
      o.Unreached message := by
  constructor
  · rintro ⟨hrefused, hwarning⟩
    rcases o.sorts with ⟨text, h⟩ | ⟨fault, h⟩ | ⟨fields, h⟩
    · rw [ofOutcome_of_unreached requestId h] at hrefused
      have hmsg : "Failed to contact lexer: " ++ text = "Failed to contact lexer: " ++ message :=
        congrArg Refusal.msg (Answer.refused.inj (Except.ok.inj hrefused))
      rw [String.append_right_inj] at hmsg
      exact hmsg ▸ h
    · rw [ofOutcome_of_unusable requestId h] at hwarning
      cases hwarning
    · -- An object may be taken for the same refusal, but there is no warning then.
      rw [ofOutcome_of_answers requestId h] at hwarning
      cases hwarning
  · intro h
    rw [ofOutcome_of_unreached requestId h]
    exact ⟨rfl, rfl⟩

/-- What forwarding comes to when an object answers. -/
theorem result_of_answers {backend : Backend} {source : String}
    (h : (backend source).1.Answers fields) :
    (forward backend requestId source).result = ofBody (.object fields) :=
  congrArg Prod.snd (ofOutcome_of_answers requestId h)

/-- **What forwarding comes to, whatever the outcome.** One request goes out, and its body carries
the source as it is. The result is the gateway's own refusal, with a warning, exactly if the
exchange failed. Otherwise there is no warning. An outcome that cannot be used breaks the way off.
An object without a success is taken for a refusal, or breaks the way off if it is none; its data
makes no difference. An object with a success never comes to a refusal. -/
theorem forward_outcome (backend : Backend) (requestId source : String) :
    let outcome := (backend source).1
    let e := forward backend requestId source
    (∃ sent, e.requests = [sent] ∧ sent.body = .object [("source", .text source)] ∧
      readBody (some (Json.write sent.body)) = .ok source) ∧
    ((∃ message, outcome.Unreached message) ∨ (∃ fault, outcome.Unusable fault) ∨
      ∃ fields, outcome.Answers fields) ∧
    ∃ own, e.log = (backend source).2 ++ own ∧
      (∀ message,
        (e.result = .ok (.refused
            ⟨.gateway, none, "E_FORWARD_LEX", "Failed to contact lexer: " ++ message⟩) ∧
          own.countP (fun entry => entry.level == Logging.Level.warning) = 1) ↔
        outcome.Unreached message) ∧
      (∀ fault, outcome.Unusable fault → own = [] ∧ e.result = .error fault) ∧
      ∀ fields, outcome.Answers fields → own = [] ∧
        ((∀ value, fields.lookup "ok" = some value → value.isTruthy = false) →
          (∀ r, Refusal.ofFields fields = .ok r → e.result = .ok (.refused r)) ∧
          (∀ faults, Refusal.ofFields fields = .error faults →
            e.result = .error (.invalid faults) ∧ faults ≠ [] ∧
            (faults.map (·.field)).Sublist ["ok", "phase", "line", "code", "msg"]) ∧
          ∀ other : Backend, ∀ otherFields, (other source).1.Answers otherFields →
            (∀ name, name ≠ "data" → otherFields.lookup name = fields.lookup name) →
              (forward other requestId source).result = e.result) ∧
        ((∃ value, fields.lookup "ok" = some value ∧ value.isTruthy = true) →
          ∀ r, e.result ≠ .ok (.refused r)) := by
  intro outcome e
  refine ⟨⟨_, rfl, rfl, readBody_write source⟩, outcome.sorts,
    (ofOutcome requestId outcome).1, rfl, ?_, ?_, ?_⟩
  · intro message
    exact ofOutcome_eq_unreachable_iff requestId
  · intro fault h
    have houtcome := ofOutcome_of_unusable requestId h
    exact ⟨congrArg Prod.fst houtcome, congrArg Prod.snd houtcome⟩
  · intro fields h
    have hresult : e.result = ofBody (.object fields) := result_of_answers requestId h
    rw [hresult]
    refine ⟨congrArg Prod.fst (ofOutcome_of_answers requestId h), ?_, ?_⟩
    · intro hfalsy
      have hsuccess := (reportsSuccess_eq_false_iff fields).mpr hfalsy
      refine ⟨fun r => ofBody_of_refusal hsuccess, ?_, ?_⟩
      · intro faults hfaults
        exact ⟨ofBody_of_invalid hsuccess hfaults, Refusal.reportsOn_ofFields fields faults hfaults⟩
      · intro other otherFields hother hagree
        rw [result_of_answers requestId hother]
        exact ofBody_congr hsuccess hagree
    · intro htruthy r
      rw [ofBody_of_success ((reportsSuccess_iff fields).mpr htruthy)]
      exact rebuild_ne_refused fields r

/-- A response without content in its status whose object counts zero as no success. -/
theorem forward_outcome_zero :
    let fields : Json.Fields := [("ok", .int 0), ("phase", .text "lex"), ("code", .text "E"),
      ("msg", .text "m"), ("data", .int 7)]
    let outcome : Outcome := .response ⟨204, none, .ok (.object fields)⟩
    outcome.Answers fields ∧
    (∀ value, fields.lookup "ok" = some value → value.isTruthy = false) ∧
    Refusal.ofFields fields = .ok ⟨.lex, none, "E", "m"⟩ ∧
    (forward (.fixed outcome) "id" "x").result = .ok (.refused ⟨.lex, none, "E", "m"⟩) := by
  intro fields outcome
  have hanswers : outcome.Answers fields := .object (by decide) rfl
  have hfalsy : ∀ value, fields.lookup "ok" = some value → value.isTruthy = false := by
    intro value hvalue
    cases hvalue
    rfl
  have hrefusal : Refusal.ofFields fields = .ok ⟨.lex, none, "E", "m"⟩ := rfl
  obtain ⟨-, -, own, -, -, -, hobject⟩ := forward_outcome (.fixed outcome) "id" "x"
  exact ⟨hanswers, hfalsy, hrefusal, ((hobject fields hanswers).2.1 hfalsy).1 _ hrefusal⟩

end Gateway

end PascalScan.Service
