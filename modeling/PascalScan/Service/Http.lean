import PascalScan.Message
import PascalScan.Json.Bytes
import PascalScan.Service.Target

/-!
# Requests and replies

The part of HTTP that both services share: finding the endpoint for a method and a path, reading
the source out of a request's body, and the replies to requests that no endpoint takes.
-/

namespace PascalScan.Service

structure Request where
  method : String
  /-- A reference to what is asked for. -/
  target : String
  body : Option String
  deriving DecidableEq, Repr

inductive Content where
  | json (value : Json)
  /-- A file to be kept by the client. -/
  | attachment (fileName : String) (text : String)
  | empty

structure Reply where
  status : Nat
  content : Content

namespace Content

def mediaType? : Content → Option String
  | json _ => some "application/json"
  | attachment _ _ => some "application/octet-stream"
  | empty => none

/-- How a client is told to keep an attachment. -/
def disposition? : Content → Option String
  | json _ => none
  | attachment fileName _ => some ("attachment; filename=" ++ fileName)
  | empty => none

end Content

/-- A reply whose body says what the matter is. -/
def Reply.detail (status : Nat) (detail : Json) : Reply :=
  ⟨status, .json (.object [("detail", detail)])⟩

/-- A reply that sends the client to another path. -/
def Reply.redirect : Reply := ⟨307, .empty⟩

/-! ## Endpoints -/

structure Route (α : Type) where
  method : String
  path : String
  endpoint : α

/-- Whether a route has a path; a line break at the end of the path is passed over. -/
def Route.takes {α : Type} (r : Route α) (path : List Char) : Bool :=
  path == r.path.toList || path == r.path.toList ++ ['\n']

/-- The other spelling of a path: without the slashes at its end, or with one if it has none. -/
def respelled (path : List Char) : List Char :=
  if path.getLast? = some '/' then (path.reverse.dropWhile (· == '/')).reverse else path ++ ['/']

/-- The endpoint for a method and a path, or the reply to a request that there is none for. A path
that differs from a route's only in the slashes at its end is sent there. -/
def findEndpoint {α : Type} (routes : List (Route α)) (method : String) (path : List Char) :
    Except Reply α :=
  match routes.filter (·.takes path) with
  | [] =>
      if path ≠ ['/'] ∧ routes.any (·.takes (respelled path)) then .error .redirect
      else .error (.detail 404 (.text "Not Found"))
  | here =>
      match here.find? fun route => route.method == method.map Char.toUpper with
      | some route => .ok route.endpoint
      | none => .error (.detail 405 (.text "Method Not Allowed"))

/-- Why a request has no reply. -/
inductive RequestFault where
  | target (fault : ReferenceFault)
  /-- The reply cannot be sent. -/
  | unsent (fault : Json.SendFault)
  deriving DecidableEq, Repr

def RequestFault.message : RequestFault → String
  | target fault => fault.message
  | unsent fault => fault.message

/-- The endpoint for a request, where a path that is no text is found nowhere. -/
def Request.endpoint {α : Type} (routes : List (Route α)) (r : Request) :
    Except RequestFault (Except Reply α) :=
  match Target.path? r.target with
  | .error fault => .error (.target fault)
  | .ok path? => .ok (findEndpoint routes r.method (path?.getD []))

/-- The reply of a service that is well. -/
def healthReply : Reply := ⟨200, .json (.object [("ok", .bool true)])⟩

/-! ## Bodies -/

/-- Why a body holds no source. -/
inductive BodyFault where
  | missing
  | notJson
  /-- It is in no known encoding, or something in it is beyond what is read. -/
  | unreadable
  | notObject (value : Json)
  /-- The faults of its fields, and the value that the report on them is about. -/
  | fields (faults : List FieldFault) (value : Json)

/-- The source that a body asks to have scanned. -/
def readBody (body : Option String) : Except BodyFault String :=
  match body with
  | none => .error .missing
  | some text =>
      if text = "" then .error .missing
      else match Json.readBytes (Utf8.encode text.toList) with
        | .error fault => .error (if fault.isSyntax then .notJson else .unreadable)
        | .ok (.object fields) =>
            match requestOfFields fields with
            | .ok source => .ok source
            | .error faults =>
                .error (.fields faults ((fields.lookup "source").getD (.object fields)))
        | .ok value => .error (.notObject value)

/-- One entry of a report on a body: where in it, and what. -/
def reportEntry (location : List String) (tag message : String) : Json :=
  .object [("type", .text tag), ("loc", .array (location.map .text)), ("msg", .text message)]

/-- A report about a value, which is part of the whole report and so has to have a JSON text. -/
def reportOn (value : Json) (entries : List Json) : Except Json.SendFault Reply :=
  if value.unreserved.isFinite then .ok (.detail 422 (.array entries)) else .error .notFinite

def BodyFault.reply : BodyFault → Except Json.SendFault Reply
  | missing => reportOn .null [reportEntry ["body"] Flaw.missing.tag Flaw.missing.message]
  | notJson => reportOn .null [reportEntry ["body"] "json_invalid" "JSON decode error"]
  | unreadable => .ok (.detail 400 (.text "There was an error parsing the body"))
  | notObject value =>
      reportOn value [reportEntry ["body"] "model_attributes_type"
        "Input should be a valid dictionary or object to extract fields from"]
  | fields faults value =>
      reportOn value (faults.map fun f =>
        reportEntry ["body", f.field] f.flaw.tag f.flaw.message)

end PascalScan.Service
