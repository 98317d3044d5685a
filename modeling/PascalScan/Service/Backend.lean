import PascalScan.Service.Scanning
import PascalScan.Service.Status
import PascalScan.Service.Location
import PascalScan.Service.Headers

/-!
# The service behind the gateway

The gateway sends each source on in one request. Either the client that sends it fails, or a
response comes back, of which the status, a location and the body matter.

* `Outcome.ofText` says what the client makes of a response.
-/

namespace PascalScan.Service

/-- Where the gateway sends sources. -/
def lexerUrl : String := "http://lexer-svc:8000/lex"

/-- A request that the gateway sends. -/
structure Forwarded where
  method : String
  url : String
  source : String
  requestId : String
  /-- How many seconds each phase of the exchange may take. -/
  timeouts : List (String × Nat)
  deriving DecidableEq, Repr

/-- The request that carries a source. -/
def Forwarded.ofSource (requestId source : String) : Forwarded :=
  ⟨"POST", lexerUrl, source, requestId,
    [("connect", 10), ("pool", 10), ("read", 10), ("write", 10)]⟩

/-- The body of a forwarded request. -/
def Forwarded.body (f : Forwarded) : Json := .object (requestFields f.source)

/-- Failures of the client that are no failures of the exchange. -/
inductive ClientMisuse where
  | invalidUrl
  | cookieConflict
  | badValue
  /-- A header has a character that it cannot have. -/
  | badHeader
  deriving DecidableEq, Repr

inductive ClientFault where
  /-- The exchange with the other side failed. -/
  | exchange (message : String)
  | misuse (kind : ClientMisuse) (message : String)
  deriving DecidableEq, Repr

structure Response where
  status : Int
  location? : Option String
  body : Except Json.BytesFault Json

/-- What comes of a forwarded request. -/
inductive Outcome where
  | failed (fault : ClientFault)
  | response (r : Response)

/-- What the client makes of a response with a text as its body. It reads the headers first, and of
a response that redirects the location. -/
def Outcome.ofText (status : Int) (headers : Headers) (body : String) : Outcome :=
  match headers.fault? with
  | some fault => .failed (.misuse .badHeader fault.message)
  | none =>
      let location? := headers.value? "location"
      let obstacle? := if Status.isRedirect status then location?.bind Location.obstacle? else none
      match obstacle? with
      | some (.malformed fault) =>
          .failed (.exchange ("Invalid URL in location header: " ++ fault.message ++ "."))
      | some (.noAddress fault) => .failed (.misuse .invalidUrl fault.message)
      | none => .response ⟨status, location?, Json.readBytes (Utf8.encode body.toList)⟩

/-- What a service makes of a forwarded source: the outcome and its own log. -/
abbrev Backend := String → Outcome × List Logging.Entry

namespace Backend

/-- The scanning service itself; its answer comes back as it was sent. -/
def lexer : Backend := fun source =>
  (.response ⟨200, none, .ok (.object (Scanning.answer source))⟩, Scanning.answerLog source)

/-- A service that has one outcome whatever the source. -/
def fixed (outcome : Outcome) : Backend := fun _ => (outcome, [])

end Backend

end PascalScan.Service
