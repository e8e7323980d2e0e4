import CiClient.Http.Method
import CiClient.Http.Status
import CiClient.Url.Basic
/-!
# Errors

Every failure of the client is one `Error`: a refused response (classed by its status), a
failure to reach the server, a body that does not decode, a bad configuration, or a bad job
name. Each has a one-line message; a refused response names its status, method, path and
service, with the server's message and request id when it gave them.
-/

namespace CiClient

open Http

/-- The kinds of error. -/
inductive ErrorKind where
  | auth
  | notFound
  | conflict
  | rateLimited
  | api
  | transport
  | decode
  | invalidConfig
  | invalidName
  deriving DecidableEq, Repr

/-- The name of a kind of error. -/
def ErrorKind.name : ErrorKind → String
  | .auth => "Auth"
  | .notFound => "NotFound"
  | .conflict => "Conflict"
  | .rateLimited => "RateLimited"
  | .api => "Api"
  | .transport => "Transport"
  | .decode => "Decode"
  | .invalidConfig => "InvalidConfig"
  | .invalidName => "InvalidName"

/-- The label of a kind of error in metrics. -/
def ErrorKind.label : ErrorKind → String
  | .auth => "auth"
  | .notFound => "not_found"
  | .conflict => "conflict"
  | .rateLimited => "rate_limited"
  | .api => "api"
  | .transport => "transport"
  | .decode => "decode"
  | .invalidConfig => "invalid_config"
  | .invalidName => "invalid_name"

/-- The classes of a refused response. -/
inductive Refusal where
  | auth
  | notFound
  | conflict
  | rateLimited
  | api
  deriving DecidableEq, Repr

/-- The class of a refused response by its status: 401 and 403 deny access, 404 finds
nothing, 409 and 412 conflict, 429 asks to slow down, and anything else is a plain refusal. -/
def Refusal.ofStatus (s : Status) : Refusal :=
  if s.code = 401 || s.code = 403 then .auth
  else if s.code = 404 then .notFound
  else if s.code = 409 || s.code = 412 then .conflict
  else if s.code = 429 then .rateLimited
  else .api

/-- The kind of error of a class of refused response. -/
def Refusal.kind : Refusal → ErrorKind
  | .auth => .auth
  | .notFound => .notFound
  | .conflict => .conflict
  | .rateLimited => .rateLimited
  | .api => .api

/-- How the server could not be reached. -/
inductive TransportKind where
  | timeout
  | connect
  | other
  deriving DecidableEq, Repr

/-- The name of a way of not reaching the server. -/
def TransportKind.name : TransportKind → String
  | .timeout => "Timeout"
  | .connect => "Connect"
  | .other => "Other"

/-- A response the server refused with. The URL carries no query, fragment or credentials. -/
structure HttpFailure where
  status : Status
  method : Method
  service : String
  url : Url
  message : Option String
  requestId : Option String
  bodySnippet : Option String
  deriving DecidableEq, Repr

/-- The path of the refused request. -/
def HttpFailure.path (f : HttpFailure) : String := f.url.path

/-- The one-line message of a refused response. -/
def HttpFailure.text (f : HttpFailure) : String :=
  "HTTP " ++ f.status.text ++ " (" ++ f.method.name ++ " " ++ f.path ++ " on service `" ++
    f.service ++ "`)" ++
    (match f.message with | some m => ": " ++ m | none => "") ++
    (match f.requestId with | some r => " [request-id: " ++ r ++ "]" | none => "")

/-- A failure of the client. -/
inductive Error where
  | refused (cls : Refusal) (failure : HttpFailure)
  | transport (method : Method) (service path : String) (kind : TransportKind) (source : String)
  | decode (status : Status) (method : Method) (service path : String)
      (requestId bodySnippet : Option String) (source : String)
  | invalidConfig (message : String) (source : Option String)
  | invalidName (name reason : String)
  deriving DecidableEq, Repr

namespace Error

/-- The error of a refused response, classed by its status. -/
def ofHttp (f : HttpFailure) : Error := .refused (Refusal.ofStatus f.status) f

/-- The kind of an error. -/
def kind : Error → ErrorKind
  | .refused c _ => c.kind
  | .transport .. => .transport
  | .decode .. => .decode
  | .invalidConfig .. => .invalidConfig
  | .invalidName .. => .invalidName

/-- The one-line message of an error. -/
def message : Error → String
  | .refused _ f => f.text
  | .transport m service path _ source =>
    "Transport error during " ++ m.name ++ " " ++ path ++ " on service `" ++ service ++ "`: " ++
      source
  | .decode status m service path _ _ source =>
    "Decode error (HTTP " ++ status.text ++ ") during " ++ m.name ++ " " ++ path ++
      " on service `" ++ service ++ "`: " ++ source
  | .invalidConfig msg _ => "Invalid configuration: " ++ msg
  | .invalidName name reason => "Invalid name `" ++ name ++ "`: " ++ reason

/-- The status of the response behind an error, if there was one. -/
def status? : Error → Option Status
  | .refused _ f => some f.status
  | .decode status .. => some status
  | _ => none

/-- The request id the server gave, if any. -/
def requestId? : Error → Option String
  | .refused _ f => f.requestId
  | .decode _ _ _ _ rid _ _ => rid
  | _ => none

/-- Whether the error is a timeout. -/
def isTimeout : Error → Bool
  | .transport _ _ _ .timeout _ => true
  | _ => false

/-- The message of the cause of an error, if it has one. -/
def source? : Error → Option String
  | .transport _ _ _ _ s => some s
  | .decode _ _ _ _ _ _ s => some s
  | .invalidConfig _ s => s
  | _ => none

end Error

/-- A result whose option is `some a` is `.ok a`. Errors have no decidable equality, so a
result computed by `decide` is read back through its option. -/
theorem eq_ok_of_toOption {ε α : Type} {x : Except ε α} {a : α} (h : x.toOption = some a) :
    x = .ok a := by
  cases x with
  | error e => cases h
  | ok b =>
    cases h
    rfl

end CiClient
