import PascalScan.Proofs.Transport
import PascalScan.Service.Gateway

/-!
# The two services together

A source that is posted to the gateway goes to the scanning service and comes back as records, from
which the gateway makes the record files again. This file says that the way makes no difference: the
files are those of a scan of the trimmed source.

Shape of the argument: every record is read back from its fields (`Token.ofFields_toFields`,
`Diagnostic.ofFields_toFields`), so a list of them is (`readRecords_map`), and `rebuild_answer` has
the files. `Backend.ofService_eq` says what the scanning service answers to the request that the
gateway sends.
-/

namespace PascalScan

/-! ## Records as fields -/

theorem TokenKind.code_le (k : TokenKind) : k.code ≤ 25 := by
  cases k with
  | keyword w => cases w <;> decide
  | symbol s => cases s <;> decide
  | _ => decide

theorem Field.tokenKind_code (k : TokenKind) : tokenKind (.int k.code) = .ok k := by
  have hword : isWord (k.code : Int) = true := by
    have hle := k.code_le
    simp only [isWord, Bool.and_eq_true, decide_eq_true_eq]
    omega
  unfold tokenKind integer
  simp [hword, TokenKind.ofCode?_code]

/-- **A token is read back from its fields**, whatever its kind and its value. -/
theorem Token.ofFields_toFields (t : Token) : Token.ofFields t.toFields = .ok t := by
  have hkind : Field.required t.toFields "type" Field.tokenKind = .ok t.kind := by
    change Field.check "type" Field.tokenKind (.int t.kind.code) = _
    rw [Field.check, Field.tokenKind_code]
  have hvalue : Field.required t.toFields "value" Field.text = .ok t.value := rfl
  rw [Token.ofFields, hkind, hvalue]
  rfl

/-- **A diagnostic is read back from its fields**, on any line and with any texts. -/
theorem Diagnostic.ofFields_toFields (d : Diagnostic) :
    Diagnostic.ofFields d.toFields = .ok d :=
  rfl

namespace Service

namespace Gateway

/-- Records that are each read back from their fields are read back together, in order. -/
theorem readRecords_map {α : Type} (form : Form) {ofFields : Json.Fields → Checked α}
    {toFields : α → Json.Fields} (h : ∀ a, ofFields (toFields a) = .ok a) (as : List α) :
    readRecords form ofFields (as.map fun a => .object (toFields a)) = .ok as := by
  induction as with
  | nil => rfl
  | cons a as ih =>
      have ha : readRecord form ofFields (.object (toFields a)) = .ok a := by
        rw [readRecord, h]
      rw [List.map_cons, readRecords, ha, ih]
      rfl

/-- The files of a scan are made again from its answer. -/
theorem rebuild_answer (s : Scan) :
    rebuild (successFields (Scanning.scanData s)) =
      .ok (.scanned (Layout.tokenText s.tokens) (Layout.diagnosticText s.diagnostics)
        (.bool s.success)) := by
  have htokens := readRecords_map .token Token.ofFields_toFields s.tokens
  have hdiagnostics := readRecords_map .diagnostic Diagnostic.ofFields_toFields s.diagnostics
  change (do
    let tokens ← readRecords .token Token.ofFields
      (s.tokens.map fun t : Token => .object t.toFields)
    let diagnostics ← readRecords .diagnostic Diagnostic.ofFields
      (s.diagnostics.map fun d : Diagnostic => .object d.toFields)
    return Answer.scanned (Layout.tokenText tokens) (Layout.diagnosticText diagnostics)
      (.bool s.success)) = _
  rw [htokens, hdiagnostics]
  rfl

theorem ofBody_answer (source : String) :
    ofBody (.object (Scanning.answer source)) =
      .ok (.scanned (Layout.tokenText (scanTrimmed source.toList).tokens)
        (Layout.diagnosticText (scanTrimmed source.toList).diagnostics)
        (.bool (scanTrimmed source.toList).success)) := by
  have hsuccess : reportsSuccess (Scanning.answer source) = true := rfl
  rw [ofBody, if_pos hsuccess]
  exact rebuild_answer (scanTrimmed source.toList)

/-- What the gateway makes of a source with the scanning service behind it. -/
theorem forward_lexer (requestId source : String) :
    forward Backend.lexer requestId source =
      ⟨[.ofSource requestId source], Scanning.answerLog source,
        .ok (.scanned (Layout.tokenText (scanTrimmed source.toList).tokens)
          (Layout.diagnosticText (scanTrimmed source.toList).diagnostics)
          (.bool (scanTrimmed source.toList).success))⟩ := by
  have houtcome : ofOutcome requestId
      (.response ⟨200, none, .ok (.object (Scanning.answer source))⟩) =
        ([], ofBody (.object (Scanning.answer source))) := rfl
  rw [forward]
  simp only [Backend.lexer, houtcome, ofBody_answer, List.append_nil]

/-- An answer with a truth value for the success is sent as it is. -/
theorem scanReply_scanned (tokenText diagnosticText : String) (success : Bool) :
    scanReply (.scanned tokenText diagnosticText (.bool success)) =
      .ok ⟨200, .json (.object [("ok", .bool true), ("data",
        .object [("dyd", .text tokenText), ("err", .text diagnosticText),
          ("success", .bool success)])])⟩ := by
  rfl

end Gateway

/-! ## The request on its way -/

theorem endpoint_scan (body : Option String) :
    Request.endpoint Gateway.routes ⟨"POST", "/scan", body⟩ = .ok (.ok .scan) := by
  have hpath : Target.path? "/scan" = .ok (some "/scan".toList) := by
    cbv
  have hfind : findEndpoint Gateway.routes "POST" "/scan".toList = .ok .scan := by
    cbv
  rw [Request.endpoint, hpath]
  exact congrArg Except.ok hfind

theorem path?_lexerUrl : Target.path? lexerUrl = .ok (some "/lex".toList) := by
  cbv

theorem endpoint_lex {target : String} (hpath : Target.path? target = .ok (some "/lex".toList))
    (body : Option String) :
    Request.endpoint Scanning.routes ⟨"POST", target, body⟩ = .ok (.ok .lex) := by
  have hfind : findEndpoint Scanning.routes "POST" "/lex".toList = .ok .lex := by
    cbv
  rw [Request.endpoint, hpath]
  exact congrArg Except.ok hfind

/-- The value that a client finds in a content that it receives as it was sent. -/
def Content.value : Content → Except Json.BytesFault Json
  | json value => .ok value
  | attachment _ text => Json.readBytes (Utf8.encode text.toList)
  | empty => Json.readBytes []

/-- What a client makes of a reply that it receives as it was sent. -/
def Outcome.ofReply : Except RequestFault Reply → Outcome
  | .ok reply => .response ⟨reply.status, none, reply.content.value⟩
  | .error fault => .failed (.exchange fault.message)

/-- The scanning service behind the gateway: it deals with the request that the gateway sends, whose
body is a JSON text. -/
def Backend.ofService (requestId : String) : Backend := fun source =>
  let sent := Forwarded.ofSource requestId source
  let (reply, log) := Scanning.handle ⟨sent.method, sent.url, some (Json.write sent.body)⟩
  (.ofReply reply, log)

theorem handle_lex {target : String} (hpath : Target.path? target = .ok (some "/lex".toList))
    {body : Option String} {source : String} (h : readBody body = .ok source) :
    Scanning.handle ⟨"POST", target, body⟩ =
      (.ok ⟨200, .json (.object (Scanning.answer source))⟩, Scanning.answerLog source) := by
  rw [Scanning.handle, endpoint_lex hpath]
  simp only [h]

theorem Backend.ofService_eq (requestId : String) : ofService requestId = lexer := by
  funext source
  have hhandle := handle_lex path?_lexerUrl (readBody_write source)
  simp only [ofService, Forwarded.ofSource, Forwarded.body, hhandle]
  rfl

namespace Gateway

/-- The reply to a source in whatever JSON text it comes. -/
theorem handle_scan (requestId : String) {body : Option String} {source : String}
    (h : readBody body = .ok source) :
    let s := scan (Text.trim source.toList)
    handle (Backend.ofService requestId) requestId ⟨"POST", "/scan", body⟩ =
      ⟨[.ofSource requestId source], scanLog (Text.trim source.toList),
        .ok ⟨200, .json (.object [("ok", .bool true), ("data",
          .object [("dyd", .text (Layout.tokenText s.tokens)),
            ("err", .text (Layout.diagnosticText s.diagnostics)),
            ("success", .bool s.success)])])⟩⟩ := by
  intro s
  rw [Backend.ofService_eq, handle, endpoint_scan]
  simp only [handleSource, h, forward_lexer]
  exact congrArg _ (scanReply_scanned _ _ _)

/-- **The pipeline is a scan.** Every source can be posted to the gateway, and in whatever JSON text
it is, it goes to the scanning service in one request. The reply has the files of a scan of the
trimmed source and its success: no source is refused, and none breaks the way off. Every token and
every diagnostic that goes over as an object is the same on the other side. -/
theorem handle_scan_eq_scan (requestId source : String) :
    readBody (some (Json.write (.object (requestFields source)))) = .ok source ∧
    (∀ body, readBody body = .ok source →
      let s := scan (Text.trim source.toList)
      handle (Backend.ofService requestId) requestId ⟨"POST", "/scan", body⟩ =
        ⟨[.ofSource requestId source], scanLog (Text.trim source.toList),
          .ok ⟨200, .json (.object [("ok", .bool true), ("data",
            .object [("dyd", .text (Layout.tokenText s.tokens)),
              ("err", .text (Layout.diagnosticText s.diagnostics)),
              ("success", .bool s.success)])])⟩⟩) ∧
    (∀ t : Token, readRecord .token Token.ofFields (.object t.toFields) = .ok t) ∧
    ∀ d : Diagnostic, readRecord .diagnostic Diagnostic.ofFields (.object d.toFields) = .ok d := by
  refine ⟨readBody_write source, ?_, ?_, fun d => rfl⟩
  · intro body h
    exact handle_scan requestId h
  · intro t
    rw [readRecord, Token.ofFields_toFields]

/-- A source with blanks around it and a fault in it. -/
theorem handle_scan_eq_scan_colon :
    readBody (some "\x7b\"source\":\"\\tIf:\\u000a\"\x7d") = .ok "\tIf:\n" ∧
    (handle (Backend.ofService "id") "id"
      ⟨"POST", "/scan", some "\x7b\"source\":\"\\tIf:\\u000a\"\x7d"⟩).reply =
        .ok ⟨200, .json (.object [("ok", .bool true), ("data",
          .object [("dyd", .text "              If 04\n             EOF 25\n"),
            ("err", .text "Line 1: Misused colon\n"), ("success", .bool false)])])⟩ := by
  have hbody : readBody (some "\x7b\"source\":\"\\tIf:\\u000a\"\x7d") = .ok "\tIf:\n" := by
    cbv
  have htokens : Layout.tokenText (scan (Text.trim "\tIf:\n".toList)).tokens =
      "              If 04\n             EOF 25\n" := by
    decide +kernel
  have hdiagnostics : Layout.diagnosticText (scan (Text.trim "\tIf:\n".toList)).diagnostics =
      "Line 1: Misused colon\n" := by
    decide +kernel
  have hsuccess : (scan (Text.trim "\tIf:\n".toList)).success = false := by
    decide +kernel
  refine ⟨hbody, ?_⟩
  rw [(handle_scan_eq_scan "id" "\tIf:\n").2.1 _ hbody]
  simp only [htokens, hdiagnostics, hsuccess]

end Gateway

end Service

end PascalScan
