/-!
# Status codes

A response status is a three-digit code. Its text is the code and its canonical reason phrase,
such as `404 Not Found`, or `<unknown status code>` for a code without one.
-/

namespace CiClient.Http

/-- A response status code. -/
structure Status where
  code : Nat
  deriving DecidableEq, Repr, Inhabited

/-- The canonical reason phrases. -/
def reasonTable : List (Nat × String) :=
  [(100, "Continue"), (101, "Switching Protocols"), (102, "Processing"), (103, "Early Hints"),
   (200, "OK"), (201, "Created"), (202, "Accepted"), (203, "Non Authoritative Information"),
   (204, "No Content"), (205, "Reset Content"), (206, "Partial Content"),
   (207, "Multi-Status"), (208, "Already Reported"), (226, "IM Used"),
   (300, "Multiple Choices"), (301, "Moved Permanently"), (302, "Found"), (303, "See Other"),
   (304, "Not Modified"), (305, "Use Proxy"), (307, "Temporary Redirect"),
   (308, "Permanent Redirect"), (400, "Bad Request"), (401, "Unauthorized"),
   (402, "Payment Required"), (403, "Forbidden"), (404, "Not Found"),
   (405, "Method Not Allowed"), (406, "Not Acceptable"), (407, "Proxy Authentication Required"),
   (408, "Request Timeout"), (409, "Conflict"), (410, "Gone"), (411, "Length Required"),
   (412, "Precondition Failed"), (413, "Payload Too Large"), (414, "URI Too Long"),
   (415, "Unsupported Media Type"), (416, "Range Not Satisfiable"),
   (417, "Expectation Failed"), (418, "I'm a teapot"), (421, "Misdirected Request"),
   (422, "Unprocessable Entity"), (423, "Locked"), (424, "Failed Dependency"),
   (425, "Too Early"), (426, "Upgrade Required"), (428, "Precondition Required"),
   (429, "Too Many Requests"), (431, "Request Header Fields Too Large"),
   (451, "Unavailable For Legal Reasons"), (500, "Internal Server Error"),
   (501, "Not Implemented"), (502, "Bad Gateway"), (503, "Service Unavailable"),
   (504, "Gateway Timeout"), (505, "HTTP Version Not Supported"),
   (506, "Variant Also Negotiates"), (507, "Insufficient Storage"), (508, "Loop Detected"),
   (510, "Not Extended"), (511, "Network Authentication Required")]

/-- The canonical reason phrase of a code. -/
def Status.reason? (s : Status) : Option String := (reasonTable.lookup s.code)

/-- The text of a status: code and reason. -/
def Status.text (s : Status) : String :=
  toString s.code ++ " " ++ (s.reason?.getD "<unknown status code>")

/-- A status from 400 to 599. -/
def Status.isError (s : Status) : Bool := 400 ≤ s.code && s.code ≤ 599

/-- The class of a status for metrics: `1xx` to `5xx`, else `other`. -/
def Status.classLabel (s : Status) : String :=
  if 100 ≤ s.code ∧ s.code ≤ 199 then "1xx"
  else if 200 ≤ s.code ∧ s.code ≤ 299 then "2xx"
  else if 300 ≤ s.code ∧ s.code ≤ 399 then "3xx"
  else if 400 ≤ s.code ∧ s.code ≤ 499 then "4xx"
  else if 500 ≤ s.code ∧ s.code ≤ 599 then "5xx"
  else "other"

end CiClient.Http
