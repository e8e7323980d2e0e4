import CiClient.Service.Crumb
import CiClient.Service.Directory
import CiClient.Service.Diagnostics
import CiClient.Service.Hook
/-!
# Calls over HTTP

The HTTP transport resolves a call's service and path to a URL, sends the call with the default
headers under its own (name by name, the call's values win), and classes the response: a status
from 400 to 599 is an error that keeps the server's message, request id and a body snippet,
with the URL stripped of query, fragment and credentials; any other status is the answer. Only
GET and POST are sent.

Each call leaves telemetry, in this order: the in-flight gauge goes up; a span names the method,
service and URL path; the outcome is counted with its status class (`transport` when no response
came) and timed, errors also by kind; the span records the status and latency, or the error's
kind; the gauge goes down. A call whose URL cannot be resolved only moves the gauge.

The network itself is a parameter: it delivers a request and gives a response or a failure.

A service client sends its calls through layers over the HTTP transport: the request hook sees
every call that reaches the wire, crumb fetches included, and the crumb layer, when a crumb time
to live is set, stands above the hook.
-/

namespace CiClient.Service

open Http Url

/-- A request as it goes out. -/
structure Request where
  method : Method
  url : Url
  headers : HeaderMap
  timeoutMs : Nat

/-- What the network gives for a request. -/
inductive Delivery where
  | response (r : Response)
  | failure (kind : TransportKind) (message : String)

/-- A network with a state of type `ν`. -/
structure Network (ν : Type) where
  deliver : Request → ν → Delivery × ν

/-- A network that reaches no server and keeps the requests a server received: none. A zero
timeout expires before anything is sent. -/
def Network.unreachable : Network (List Request) :=
  ⟨fun req received =>
    if req.timeoutMs = 0 then (.failure .timeout "timeout: global", received)
    else (.failure .other "io: Network is unreachable (os error 101)", received)⟩

/-- How the HTTP transport sends: where services are, the default headers, and how much of a
refused body errors keep. -/
structure WireConfig where
  directory : Directory
  defaultHeaders : HeaderMap
  snippet : SnippetConfig

/-- The state of the HTTP transport: the network's, and the telemetry log. -/
structure WireState (ν : Type) where
  net : ν
  log : List Entry

/-- The name of the in-flight gauge. -/
def inflightKey : String := metricKey "jenkins_service_inflight" []

/-- The telemetry of an outcome: the request counter and the latency histogram with the status
class, and the error counter with the error's kind. -/
def outcomeEntries (method : Method) (statusClass : String) (kind : Option ErrorKind) :
    List Entry :=
  let labels := [("method", method.name), ("status_class", statusClass)]
  [.counter (metricKey "jenkins_service_requests_total" labels) 1,
   .histogram (metricKey "jenkins_service_request_duration_seconds" labels)] ++
  match kind with
  | some k =>
    [.counter (metricKey "jenkins_service_errors_total" [("method", method.name), ("kind", k.label)]) 1]
  | none => []

/-- The latency as the telemetry shows it: its value is left out. -/
def latencyEntry : Entry := .record "latency_ms" (.text "_")

/-- Sends a request through the network: only GET and POST are sent. -/
def sendRequest (net : Network ν) (call : ServiceCall) (url : Url) (headers : HeaderMap)
    (s : ν) : Except Error Response × ν :=
  match call.method with
  | .get | .post =>
    match net.deliver ⟨call.method, url, headers, call.timeoutMs⟩ s with
    | (.response r, s) => (.ok r, s)
    | (.failure kind message, s) =>
      (.error (.transport call.method call.service url.path kind message), s)
  | .other name =>
    (.error (.invalidConfig ("unsupported HTTP method for service requests: " ++ name) none), s)

/-- The error of a refused response, or none for a response that is an answer. -/
def refusalOf (cfg : WireConfig) (call : ServiceCall) (url : Url) (r : Response) :
    Option Error :=
  if r.status.isError then
    some (Error.ofHttp ⟨r.status, call.method, call.service, url.sanitize,
      extractMessage r.body, requestId r.headers, bodySnippet r.body cfg.snippet⟩)
  else none

/-- The HTTP transport over a network. -/
def wire (cfg : WireConfig) (net : Network ν) : Transport (WireState ν) where
  send call st :=
    let up : Entry := .gauge inflightKey true
    let down : Entry := .gauge inflightKey false
    match cfg.directory.resolve call.service call.path with
    | .error e => (.answer (.error e), { st with log := st.log ++ [up, down] })
    | .ok url =>
      let span : Entry := .span "jenkins.service_request" "INFO"
        [("http.method", .text call.method.name), ("service", .text call.service),
         ("http.path", .text url.path)]
      let headers := cfg.defaultHeaders.extend call.headers
      let (sent, s) := sendRequest net call url headers st.net
      match sent with
      | .error e =>
        let entries := [up, span] ++ outcomeEntries call.method "transport" (some e.kind) ++
          [.record "error_kind" (.text e.kind.name), latencyEntry, down]
        (.answer (.error e), ⟨s, st.log ++ entries⟩)
      | .ok r =>
        let rid := requestId r.headers
        let recorded := [.record "http.status" (.int r.status.code), latencyEntry] ++
          match rid with
          | some v => [.record "request_id" (.text v)]
          | none => []
        match refusalOf cfg call url r with
        | some e =>
          let entries := [up, span] ++ recorded ++
            outcomeEntries call.method r.status.classLabel (some e.kind) ++
            [.record "error_kind" (.text e.kind.name),
             .event "DEBUG" [("message", .text "service request failed"),
               ("status", .int r.status.code)], down]
          (.answer (.error e), ⟨s, st.log ++ entries⟩)
        | none =>
          let entries := [up, span] ++ recorded ++
            outcomeEntries call.method r.status.classLabel none ++ [down]
          (.answer (.ok r), ⟨s, st.log ++ entries⟩)
  note e st := { st with log := st.log ++ [e] }

/-- The transport of a service client: the HTTP transport, the request hook over it, and the
crumb layer over both when a crumb time to live is set. -/
def clientTransport (cfg : WireConfig) (net : Network ν) (hook : Hook ρ)
    (crumb : Option CrumbConfig) : Transport (CrumbState × (ρ × WireState ν)) :=
  crumbLayer? crumb (hookLayer hook (wire cfg net))

end CiClient.Service
