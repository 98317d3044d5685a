import PascalScan.Scan
import PascalScan.Service.Http

/-!
# The scanning service

`POST /lex` scans the trimmed source of a request, and answers the records as JSON.
-/

namespace PascalScan.Service.Scanning

/-- The records of a scan as the data of an answer. -/
def scanData (s : Scan) : Json :=
  .object [("tokens", .array (s.tokens.map fun t => .object t.toFields)),
    ("errors", .array (s.diagnostics.map fun d => .object d.toFields)),
    ("success", .bool s.success)]

/-- The answer to a source. -/
def answer (source : String) : Json.Fields := successFields (scanData (scanTrimmed source.toList))

/-- What answering a source logs. -/
def answerLog (source : String) : List Logging.Entry := scanLog (Text.trim source.toList)

inductive Endpoint where
  | health
  | lex
  deriving DecidableEq, Repr

def routes : List (Route Endpoint) := [⟨"GET", "/healthz", .health⟩, ⟨"POST", "/lex", .lex⟩]

/-- The reply to a request, and what it logs. -/
def handle (r : Request) : Except RequestFault Reply × List Logging.Entry :=
  match r.endpoint routes with
  | .error fault => (.error fault, [])
  | .ok (.error reply) => (.ok reply, [])
  | .ok (.ok .health) => (.ok healthReply, [])
  | .ok (.ok .lex) =>
      match readBody r.body with
      | .error fault => (fault.reply.mapError .unsent, [])
      | .ok source => (.ok ⟨200, .json (.object (answer source))⟩, answerLog source)

end PascalScan.Service.Scanning
