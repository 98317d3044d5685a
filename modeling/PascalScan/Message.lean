import PascalScan.Record
import PascalScan.Field
import PascalScan.Json.Plain

/-!
# Messages

What the services send each other, as types and as the fields of JSON objects: tokens and
diagnostics, requests, and the two answers, a success with its data or a refusal. For each,
`toFields` writes it and `ofFields` reads it.

`Form` names the six kinds of message; it reads fields into the fields of a message, and assigns
single fields. `dump` gives the fields as they are sent.
-/

namespace PascalScan

/-- The part of the pipeline that refused. -/
inductive Phase where
  | lex
  | gateway
  deriving DecidableEq, Repr

namespace Phase

def name : Phase → String
  | lex => "lex"
  | gateway => "gateway"

def ofJson : Json → Except Flaw Phase
  | .text s =>
      if s = lex.name then .ok lex else if s = gateway.name then .ok gateway else .error .notPhase
  | _ => .error .notPhase

end Phase

/-- An answer that reports a failure. -/
structure Refusal where
  phase : Phase
  line : Option Int
  code : String
  msg : String
  deriving DecidableEq, Repr

namespace Token

def toFields (t : Token) : Json.Fields := [("type", .int t.kind.code), ("value", .text t.value)]

def ofFields (fields : Json.Fields) : Checked Token :=
  ((Field.required fields "type" Field.tokenKind).map Token.mk).ap
    (Field.required fields "value" Field.text)

end Token

namespace Diagnostic

def toFields (d : Diagnostic) : Json.Fields :=
  [("line", .int d.line), ("code", .text d.code), ("msg", .text d.msg)]

def ofFields (fields : Json.Fields) : Checked Diagnostic :=
  (((Field.required fields "line" Field.integer).map Diagnostic.mk).ap
    (Field.required fields "code" Field.text)).ap
    (Field.required fields "msg" Field.text)

end Diagnostic

namespace Refusal

def toFields (r : Refusal) : Json.Fields :=
  [("ok", .bool false), ("phase", .text r.phase.name),
    ("line", match r.line with
      | some n => .int n
      | none => .null),
    ("code", .text r.code), ("msg", .text r.msg)]

def ofFields (fields : Json.Fields) : Checked Refusal :=
  (((((Field.withDefault fields "ok" () Field.isFalse).map fun _ => Refusal.mk).ap
    (Field.required fields "phase" Phase.ofJson)).ap
    (Field.withDefault fields "line" none Field.integerOrNull)).ap
    (Field.required fields "code" Field.text)).ap
    (Field.required fields "msg" Field.text)

end Refusal

/-- The fields of an answer that reports a success. -/
def successFields (data : Json) : Json.Fields := [("ok", .bool true), ("data", data)]

/-- The data of an answer that reports a success. -/
def successOfFields (fields : Json.Fields) : Checked Json :=
  ((Field.withDefault fields "ok" () Field.isTrue).map fun _ data => data).ap
    (Field.required fields "data" .ok)

/-- The fields of a request. -/
def requestFields (source : String) : Json.Fields := [("source", .text source)]

/-- The source of a request. -/
def requestOfFields (fields : Json.Fields) : Checked String :=
  Field.required fields "source" Field.text

/-- The fields of a message as they are sent. -/
def dump (fields : Json.Fields) : Except Json.SendFault Json.Fields :=
  fields.mapM fun (name, value) => value.plain.map fun v => (name, v)

/-- The kinds of message. -/
inductive Form where
  | token
  | diagnostic
  | refusal
  | success
  | lexRequest
  | scanRequest
  deriving DecidableEq, Repr

namespace Form

/-- The name of a form in messages about it. -/
def label : Form → String
  | token => "Token"
  | diagnostic => "ScanError"
  | refusal => "ApiErr"
  | success => "ApiOk"
  | lexRequest => "LexReq"
  | scanRequest => "ScanReq"

/-- Reads fields and gives those of the message that they make. -/
def read (form : Form) (fields : Json.Fields) : Checked Json.Fields :=
  match form with
  | token => (Token.ofFields fields).map Token.toFields
  | diagnostic => (Diagnostic.ofFields fields).map Diagnostic.toFields
  | refusal => (Refusal.ofFields fields).map Refusal.toFields
  | success => (successOfFields fields).map successFields
  | lexRequest => (requestOfFields fields).map requestFields
  | scanRequest => (requestOfFields fields).map requestFields

/-- Records never change once they are made. -/
def isFrozen : Form → Bool
  | token => true
  | diagnostic => true
  | _ => false

/-- Why a field was not assigned. -/
inductive AssignFault where
  | frozen (name : String)
  | unknownField (form : Form) (name : String)
  | readOnly (form : Form) (name : String)
  deriving DecidableEq, Repr

/-- What every message tells about itself and nobody can set. -/
def views : List String := ["model_fields_set", "model_extra"]

/-- Older names of such views; they are hidden. -/
def hiddenViews : List String := ["__fields__", "__fields_set__"]

/-- A name with an underscore in front is hidden: it is no field of any message. -/
def isHidden (name : String) : Bool := name.toList.head? == some '_'

/-- The value that a field keeps: a truth value put as the line of a refusal is its number. -/
def kept (form : Form) (name : String) (value : Json) : Json :=
  match value with
  | .bool b => if form = refusal ∧ name = "line" then .int (if b then 1 else 0) else .bool b
  | v => v

/-- Assigns a field of a message. The new value is not checked. A hidden name can be given a value
on every message, frozen or not, and the fields stay as they are. -/
def assign (form : Form) (message : Json.Fields) (name : String) (value : Json) :
    Except AssignFault Json.Fields :=
  if isHidden name then
    if hiddenViews.contains name then .error (.readOnly form name) else .ok message
  else if form.isFrozen then .error (.frozen name)
  else if views.contains name then .error (.readOnly form name)
  else if message.any (·.1 == name) then .ok (Json.put message name (form.kept name value))
  else .error (.unknownField form name)

/-- Assigns fields one after another; those that fail change nothing. -/
def assignAll (form : Form) (message : Json.Fields) :
    List (String × Json) → List (Option AssignFault) × Json.Fields
  | [] => ([], message)
  | (name, value) :: rest =>
      match form.assign message name value with
      | .ok message' =>
          let (faults, last) := form.assignAll message' rest
          (none :: faults, last)
      | .error fault =>
          let (faults, last) := form.assignAll message rest
          (some fault :: faults, last)

end Form

end PascalScan
