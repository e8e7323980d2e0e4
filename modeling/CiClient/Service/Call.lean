import CiClient.Error
import CiClient.Http.Header
import CiClient.Json.Reader
/-!
# Service calls

A call names a method, a service, a request path relative to the service's base URL, headers,
and a timeout in milliseconds. A transport answers a call with a response, an error, or a crash
(a fault that ends the whole operation); it may keep a state between calls, and it takes note
of the client's own telemetry events so that they stand in order with its own.
-/

namespace CiClient.Service

open Http

/-- A call to a service. -/
structure ServiceCall where
  method : Method
  service : String
  path : String
  headers : HeaderMap
  timeoutMs : Nat
  deriving DecidableEq, Repr

/-- A call with no headers. -/
def ServiceCall.make (method : Method) (service path : String) (timeoutMs : Nat) : ServiceCall :=
  ⟨method, service, path, HeaderMap.empty, timeoutMs⟩

/-- A response: status, headers and the body's octets. -/
structure Response where
  status : Status
  headers : HeaderMap
  body : List UInt8
  deriving DecidableEq, Repr

/-- The body as text, with U+FFFD for octets that are not UTF-8. -/
def Response.textLossy (r : Response) : String := Text.Utf8.decodeLossy r.body

/-- The body read as one JSON value. -/
def Response.json (r : Response) : Except Json.Error Json.Value := Json.Value.decode r.body

/-- The answer of a transport: a result, or a crash with its message. -/
inductive Reply where
  | answer (result : Except Error Response)
  | crash (message : String)

/-- A value that the telemetry shows. -/
inductive FieldValue where
  | text (s : String)
  | int (n : Int)
  deriving DecidableEq, Repr

/-- What the telemetry shows, in order: spans opened, fields recorded on them, events, and
metric updates. Metric keys carry their labels, as `name{l1=v1,l2=v2}`. -/
inductive Entry where
  | span (name level : String) (fields : List (String × FieldValue))
  | record (field : String) (value : FieldValue)
  | event (level : String) (fields : List (String × FieldValue))
  | counter (key : String) (increment : Nat)
  /-- A gauge moved up or down by one. -/
  | gauge (key : String) (up : Bool)
  | histogram (key : String)
  deriving DecidableEq, Repr

/-- The key of a metric with labels. -/
def metricKey (name : String) (labels : List (String × String)) : String :=
  name ++ "\x7b" ++ ",".intercalate (labels.map fun (k, v) => k ++ "=" ++ v) ++ "\x7d"

/-- A transport keeping a state of type `σ`. -/
structure Transport (σ : Type) where
  /-- Answers a call. -/
  send : ServiceCall → σ → Reply × σ
  /-- Takes note of a telemetry entry of the client. -/
  note : Entry → σ → σ

end CiClient.Service
