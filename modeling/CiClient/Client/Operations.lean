import CiClient.Client.Exchange
import CiClient.Service.Diagnostics
import CiClient.Job.Document
import CiClient.Job.Path
/-!
# Client operations

The client talks to one service with one timeout. Each operation checks the job names it is
given before any call (a refused name is an `InvalidName` error), then makes its calls in a
fixed order and stops at the first that fails:

- copying a job posts the copy request, then disables and enables the copy;
- enabling and disabling post to the job;
- reading the job list, a job or a build gets its document and decodes it;
- the first or last build reads the job, then that build if the job names one.

A document that does not decode is a `Decode` error with the response's status and request id
and a snippet of its body.
-/

namespace CiClient

/-- A client of one service. -/
structure Client where
  service : String
  timeoutMs : Nat
  longTimeoutMs : Nat
  snippet : Service.SnippetConfig
  deriving DecidableEq, Repr

end CiClient

namespace CiClient.Client

open Service Job Http

/-- The default timeout: thirty seconds. -/
def defaultTimeoutMs : Nat := 30000

/-- The default long timeout: fifteen minutes. -/
def defaultLongTimeoutMs : Nat := 900000

/-- A client with the default timeouts and snippets. -/
def ofService (service : String) : Client :=
  ⟨service, defaultTimeoutMs, defaultLongTimeoutMs, SnippetConfig.default⟩

/-- The error of a refused name. -/
def NameRefusal.toError (r : NameRefusal) : Error := .invalidName r.name r.issue.reason

/-- A checked endpoint, or the error of its refused name. -/
def checked (r : Except NameRefusal Endpoint) : Exchange Endpoint :=
  .ofExcept (r.mapError NameRefusal.toError)

/-- The client with another timeout. -/
def withTimeout (c : Client) (ms : Nat) : Client := { c with timeoutMs := ms }

/-- A call of this client. -/
def callOf (c : Client) (method : Method) (path : String) : ServiceCall :=
  ServiceCall.make method c.service path c.timeoutMs

/-- Posts to a path. -/
def post (c : Client) (path : String) : Exchange Response := .send (c.callOf .post path)

/-- The value the body of a response to a GET of `path` decodes to, or the `Decode` error that
names the call. -/
def decodeResponse (c : Client) (reader : Nat → Json.Reader α) (path : String) (resp : Response) :
    Except Error α :=
  match Json.decodeWith reader resp.body with
  | .ok v => .ok v
  | .error je =>
    .error (.decode resp.status .get c.service path (requestId resp.headers)
      (bodySnippet resp.body c.snippet) je.message)

/-- Gets a path and decodes its body. -/
def getJson (c : Client) (reader : Nat → Json.Reader α) (path : String) : Exchange α :=
  .call (c.callOf .get path) fun
    | .error e => .fail e
    | .ok resp => .ofExcept (c.decodeResponse reader path resp)

/-- Enables a job. -/
def enableJob (c : Client) (job : String) : Exchange Response := do
  c.post (← checked (buildablePath job .enable)).path

/-- Disables a job. -/
def disableJob (c : Client) (job : String) : Exchange Response := do
  c.post (← checked (buildablePath job .disable)).path

/-- Copies job `src` to `dst`, then disables and enables the copy. -/
def copyJob (c : Client) (src dst : String) : Exchange Unit := do
  let ep ← checked (copyPath src dst)
  Exchange.emit (.event "DEBUG" [("message", .text "copying job"), ("service", .text c.service),
    ("src", .text src), ("dst", .text dst)])
  let _ ← c.post ep.path
  let _ ← c.disableJob dst
  let _ ← c.enableJob dst
  return ()

/-- The job list. -/
def getJobs (c : Client) : Exchange (List JobSummary) :=
  c.getJson readJobList Endpoint.root.path

/-- A job document. -/
def getJob (c : Client) (job : String) : Exchange Job := do
  c.getJson Job.read (← checked (jobPath job)).path

/-- The builds of a job. -/
def getBuilds (c : Client) (job : String) : Exchange (List BuildRef) := do
  return (← c.getJob job).builds

/-- A build document, as it is. -/
def getBuild (c : Client) (job : String) (number : Nat) : Exchange Json.Value := do
  c.getJson Json.Reader.value (← checked (buildPath job number)).path

/-- The first or last build of a job, if the job names one. -/
def namedBuild (c : Client) (job : String) (which : BuildSelector) :
    Exchange (Option Json.Value) := do
  match (← c.getJob job).buildRef which with
  | some b => return some (← c.getBuild job b.number)
  | none =>
    Exchange.emit (.event "DEBUG" [("message", .text "no build"), ("service", .text c.service),
      ("job", .text job), ("field", .text which.field)])
    return none

/-- Sends a call as it is. -/
def request (call : ServiceCall) : Exchange Response := .send call

end CiClient.Client
