import PascalScan.Layout
import PascalScan.Service.Backend
import PascalScan.Text.Quoted

/-!
# The gateway

`POST /scan` and `POST /download` send the source on to the scanning service and rebuild the
record files from its answer: the first replies both as JSON, the second the token file as an
attachment. When the service cannot be reached or answers with a failure, both reply a refusal.

* `rebuild` makes the files from an answer that reports a success, all or nothing.
* `forward` sends a source on and makes an answer of what comes of it.
* `handle` replies to a request.
-/

namespace PascalScan.Service.Gateway

/-- What makes a request break off without a reply. -/
inductive Fault where
  | client (kind : ClientMisuse) (message : String)
  | notJson (fault : Json.BytesFault)
  /-- The body is a value of the given kind in place of an object. -/
  | notObject (kind : String)
  | missingKey (key : String)
  | notIndexable (value : Json)
  | notIterable (kind : String)
  /-- A record is a value of the given kind in place of an object. -/
  | notRecord (form : Form) (kind : String)
  | invalid (faults : List FieldFault)
  | request (fault : RequestFault)

def Fault.message : Fault → String
  | client _ message => message
  | notJson fault => fault.message
  | notObject kind => "'" ++ kind ++ "' object has no attribute 'get'"
  | missingKey key => Text.quote key
  | notIndexable (.array _) => "list indices must be integers or slices, not str"
  | notIndexable (.text _) => "string indices must be integers, not 'str'"
  | notIndexable value => "'" ++ value.kindName ++ "' object is not subscriptable"
  | notIterable kind => "'" ++ kind ++ "' object is not iterable"
  | notRecord form kind =>
      "models." ++ form.label ++ "() argument after ** must be a mapping, not " ++ kind
  | invalid _ => ""
  | request fault => fault.message

/-- What the gateway makes of an exchange. -/
inductive Answer where
  | refused (r : Refusal)
  /-- The texts of the record files, and the success as the service reported it. -/
  | scanned (tokenText diagnosticText : String) (success : Json)

/-- The fields of an answer. -/
def Answer.toFields : Answer → Json.Fields
  | refused r => r.toFields
  | scanned tokenText diagnosticText success =>
      successFields (.object [("dyd", .text tokenText), ("err", .text diagnosticText),
        ("success", success)])

/-! ## Rebuilding the record files -/

/-- The value of a key. -/
def index (value : Json) (key : String) : Except Fault Json :=
  match value with
  | .object fields =>
      match fields.lookup key with
      | some v => .ok v
      | none => .error (.missingKey key)
  | other => .error (.notIndexable other)

/-- The parts of a value, one after another: the characters of a text, the keys of an object. -/
def parts : Json → Except Fault (List Json)
  | .array items => .ok items
  | .text s => .ok (s.toList.map fun c => .text (String.ofList [c]))
  | .object fields => .ok (fields.map fun field => .text field.1)
  | other => .error (.notIterable other.kindName)

/-- Reads a record. -/
def readRecord {α : Type} (form : Form) (ofFields : Json.Fields → Checked α) :
    Json → Except Fault α
  | .object fields =>
      match ofFields fields with
      | .ok a => .ok a
      | .error faults => .error (.invalid faults)
  | other => .error (.notRecord form other.kindName)

/-- Reads records up to the first that is none. -/
def readRecords {α : Type} (form : Form) (ofFields : Json.Fields → Checked α) :
    List Json → Except Fault (List α)
  | [] => .ok []
  | v :: vs => do
      let a ← readRecord form ofFields v
      let as ← readRecords form ofFields vs
      return a :: as

/-- The record files from the fields of an answer that reports a success. -/
def rebuild (fields : Json.Fields) : Except Fault Answer := do
  let data ← index (.object fields) "data"
  let tokenParts ← parts (← index data "tokens")
  let diagnosticParts ← parts (← index data "errors")
  let tokens ← readRecords .token Token.ofFields tokenParts
  let diagnostics ← readRecords .diagnostic Diagnostic.ofFields diagnosticParts
  let success ← index data "success"
  return .scanned (Layout.tokenText tokens) (Layout.diagnosticText diagnostics) success

/-- Whether an answer reports a success. -/
def reportsSuccess (fields : Json.Fields) : Bool :=
  ((fields.lookup "ok").getD .null).isTruthy

/-- An answer from the body of a response. -/
def ofBody : Json → Except Fault Answer
  | .object fields =>
      if reportsSuccess fields then rebuild fields
      else match Refusal.ofFields fields with
        | .ok r => .ok (.refused r)
        | .error faults => .error (.invalid faults)
  | other => .error (.notObject other.kindName)

/-! ## Forwarding -/

/-- The refusal that reports a failed exchange. -/
def unreachable (message : String) : Refusal :=
  ⟨.gateway, none, "E_FORWARD_LEX", "Failed to contact lexer: " ++ message⟩

/-- The warning about a failed exchange. -/
def unreachableEntry (requestId message : String) : Logging.Entry :=
  ⟨Logging.gateway, .warning, "lexer-svc unreachable (request " ++ requestId ++ "): " ++ message⟩

/-- What forwarding a source came to. -/
structure Exchange where
  requests : List Forwarded
  log : List Logging.Entry
  result : Except Fault Answer

/-- The answer to an outcome, and what it makes the gateway log. -/
def ofOutcome (requestId : String) : Outcome → List Logging.Entry × Except Fault Answer
  | .failed (.exchange message) =>
      ([unreachableEntry requestId message], .ok (.refused (unreachable message)))
  | .failed (.misuse kind message) => ([], .error (.client kind message))
  | .response r =>
      if Status.isSuccess r.status then
        match r.body with
        | .error fault => ([], .error (.notJson fault))
        | .ok body => ([], ofBody body)
      else
        let message := Status.report r.status lexerUrl r.location?
        ([unreachableEntry requestId message], .ok (.refused (unreachable message)))

/-- Sends a source on and makes an answer of what comes of it. -/
def forward (backend : Backend) (requestId source : String) : Exchange :=
  let (outcome, backendLog) := backend source
  let (log, result) := ofOutcome requestId outcome
  ⟨[.ofSource requestId source], backendLog ++ log, result⟩

/-! ## Replies -/

inductive Endpoint where
  | health
  | scan
  | download
  deriving DecidableEq, Repr

def routes : List (Route Endpoint) :=
  [⟨"GET", "/healthz", .health⟩, ⟨"POST", "/scan", .scan⟩, ⟨"POST", "/download", .download⟩]

/-- The reply of `/scan`: the answer, as far as it can be sent. -/
def scanReply (a : Answer) : Except Fault Reply :=
  match dump a.toFields with
  | .ok fields => .ok ⟨200, .json (Json.object fields).unreserved⟩
  | .error fault => .error (.request (.unsent fault))

/-- The reply of `/download`: the token file, or the refusal. -/
def downloadReply : Answer → Except Fault Reply
  | .scanned tokenText _ _ => .ok ⟨200, .attachment "source.dyd" tokenText⟩
  | .refused r => .ok ⟨200, .json (.object r.toFields)⟩

/-- How a request was dealt with. -/
structure Handled where
  requests : List Forwarded
  log : List Logging.Entry
  reply : Except Fault Reply

/-- A reply that needed nobody else. -/
def Handled.alone (reply : Reply) : Handled := ⟨[], [], .ok reply⟩

/-- Forwards the source of a request, and replies as the endpoint does. -/
def handleSource (backend : Backend) (requestId : String) (r : Request)
    (toReply : Answer → Except Fault Reply) : Handled :=
  match readBody r.body with
  | .error fault => ⟨[], [], fault.reply.mapError fun f => .request (.unsent f)⟩
  | .ok source =>
      let e := forward backend requestId source
      ⟨e.requests, e.log, e.result.bind toReply⟩

def handle (backend : Backend) (requestId : String) (r : Request) : Handled :=
  match r.endpoint routes with
  | .error fault => ⟨[], [], .error (.request fault)⟩
  | .ok (.error reply) => .alone reply
  | .ok (.ok .health) => .alone healthReply
  | .ok (.ok .scan) => handleSource backend requestId r scanReply
  | .ok (.ok .download) => handleSource backend requestId r downloadReply

end PascalScan.Service.Gateway
