/-!
# Status codes

The standard phrases of HTTP status codes, and the text that reports a status which is no success.
-/

namespace PascalScan.Service.Status

/-- The phrases of the codes that have one. -/
def phrases : List (Int × String) := [
  (100, "Continue"), (101, "Switching Protocols"), (102, "Processing"), (103, "Early Hints"),
  (200, "OK"), (201, "Created"), (202, "Accepted"), (203, "Non-Authoritative Information"),
  (204, "No Content"), (205, "Reset Content"), (206, "Partial Content"), (207, "Multi-Status"),
  (208, "Already Reported"), (226, "IM Used"),
  (300, "Multiple Choices"), (301, "Moved Permanently"), (302, "Found"), (303, "See Other"),
  (304, "Not Modified"), (305, "Use Proxy"), (307, "Temporary Redirect"),
  (308, "Permanent Redirect"),
  (400, "Bad Request"), (401, "Unauthorized"), (402, "Payment Required"), (403, "Forbidden"),
  (404, "Not Found"), (405, "Method Not Allowed"), (406, "Not Acceptable"),
  (407, "Proxy Authentication Required"), (408, "Request Timeout"), (409, "Conflict"),
  (410, "Gone"), (411, "Length Required"), (412, "Precondition Failed"),
  (413, "Request Entity Too Large"), (414, "Request-URI Too Long"),
  (415, "Unsupported Media Type"), (416, "Requested Range Not Satisfiable"),
  (417, "Expectation Failed"), (418, "I'm a teapot"), (421, "Misdirected Request"),
  (422, "Unprocessable Entity"), (423, "Locked"), (424, "Failed Dependency"), (425, "Too Early"),
  (426, "Upgrade Required"), (428, "Precondition Required"), (429, "Too Many Requests"),
  (431, "Request Header Fields Too Large"), (451, "Unavailable For Legal Reasons"),
  (500, "Internal Server Error"), (501, "Not Implemented"), (502, "Bad Gateway"),
  (503, "Service Unavailable"), (504, "Gateway Timeout"), (505, "HTTP Version Not Supported"),
  (506, "Variant Also Negotiates"), (507, "Insufficient Storage"), (508, "Loop Detected"),
  (510, "Not Extended"), (511, "Network Authentication Required")]

/-- The phrase of a code, empty if it has none. -/
def phrase (code : Int) : String := (phrases.lookup code).getD ""

def isSuccess (code : Int) : Bool := code / 100 == 2

/-- Codes that send the client to the location in the reply. -/
def isRedirect (code : Int) : Bool := [301, 302, 303, 307, 308].contains code

/-- What a code that is no success is called, by its first digit. -/
def className (code : Int) : String :=
  if code / 100 = 1 then "Informational response"
  else if code / 100 = 3 then "Redirect response"
  else if code / 100 = 4 then "Client error"
  else if code / 100 = 5 then "Server error"
  else "Invalid status code"

/-- The report on a status that is no success, for a request to a URL. -/
def report (code : Int) (url : String) (location? : Option String) : String :=
  let redirect := match location? with
    | some location =>
        if isRedirect code then "Redirect location: '" ++ location ++ "'\n" else ""
    | none => ""
  className code ++ " '" ++ toString code ++ " " ++ phrase code ++ "' for url '" ++ url ++ "'\n" ++
    redirect ++
    "For more information check: https://developer.mozilla.org/en-US/docs/Web/HTTP/Status/" ++
    toString code

end PascalScan.Service.Status
