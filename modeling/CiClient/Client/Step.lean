import CiClient.Client.Operations
import CiClient.Service.Directory
/-!
# Steps of a session

A session runs steps on one client over one transport: the client's operations, changing its
timeout, reading its settings, sending a call as it is, or resolving a request path with the
transport's directory. Each step answers with a value of its own kind, or fails.
-/

namespace CiClient.Client

open Service Job Http

/-- A step of a session. -/
inductive Step where
  | copyJob (src dst : String)
  | enableJob (job : String)
  | disableJob (job : String)
  | getJobs
  | getJob (job : String)
  | getBuilds (job : String)
  | getBuild (job : String) (number : Nat)
  | namedBuild (job : String) (which : BuildSelector)
  | withTimeout (ms : Nat)
  | info
  /-- A call sent as it is; the service and timeout default to the client's. -/
  | request (method : Method) (path : String) (service : Option String)
      (timeoutMs : Option Nat) (headers : List (String × List UInt8))
  | resolve (path : String) (service : Option String)

/-- What a step answers. -/
inductive Answer where
  | unit
  | response (r : Response)
  | jobs (l : List JobSummary)
  | job (j : Job)
  | builds (l : List BuildRef)
  | document (v : Json.Value)
  | named (build : Option Json.Value)
  | settings (c : Client)
  | url (u : Url)

/-- The call of a request step. -/
def requestCall (c : Client) (method : Method) (path : String) (service : Option String)
    (timeoutMs : Option Nat) (headers : List (String × List UInt8)) : ServiceCall :=
  ⟨method, service.getD c.service, path,
    headers.foldl (fun h (n, v) => h.append n v) HeaderMap.empty, timeoutMs.getD c.timeoutMs⟩

/-- The exchange of a step that talks to the service. -/
def Step.exchange (c : Client) (directory : Option Directory) : Step → Exchange Answer
  | .copyJob src dst => do c.copyJob src dst; return .unit
  | .enableJob job => return .response (← c.enableJob job)
  | .disableJob job => return .response (← c.disableJob job)
  | .getJobs => return .jobs (← c.getJobs)
  | .getJob job => return .job (← c.getJob job)
  | .getBuilds job => return .builds (← c.getBuilds job)
  | .getBuild job n => return .document (← c.getBuild job n)
  | .namedBuild job which => return .named (← c.namedBuild job which)
  | .withTimeout _ => return .unit
  | .info => return .settings c
  | .request m path service t headers =>
    return .response (← Client.request (requestCall c m path service t headers))
  | .resolve path service =>
    match directory with
    | some d => .ofExcept (.url <$> d.resolve (service.getD c.service) path)
    | none => .fail (.invalidConfig "no directory to resolve with" none)

/-- The client after a step. -/
def Step.nextClient (c : Client) : Step → Client
  | .withTimeout ms => c.withTimeout ms
  | _ => c

/-- Runs a step: its outcome, the client after it, and the transport's state after it. -/
def Step.run (t : Transport σ) (directory : Option Directory) (c : Client) (step : Step)
    (s : σ) : Exchange.Outcome Answer × Client × σ :=
  let (outcome, s) := (step.exchange c directory).run t s
  (outcome, step.nextClient c, s)

end CiClient.Client
