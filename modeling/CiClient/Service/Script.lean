import CiClient.Service.Hook
/-!
# Scripted services

A scripted service answers calls from a list of routes, for testing a client without a server.
A route answers the calls of one method and path: the first matching call gets the first route
of that method and path, the second the second, and the last route repeats. A GET with no route
is not found; any other call with no route is answered `200` with an empty body. The service
keeps every call that reaches it, and a log of telemetry entries.

A scripted hook sets fixed headers on every call, refuses calls to some paths, and crashes on
calls to others, for the first so many of them or always.
-/

namespace CiClient.Service

open Http

/-- The URL that scripted refusals name. -/
def scriptUrl : Url :=
  ⟨"http", "", none, some (.domain "fake"), none, "/", none, none⟩

/-- A scripted failure, made into an error for the call it answers. -/
inductive ScriptedFailure where
  | transport (kind : TransportKind) (message : String)
  | invalidConfig (message : String)
  | refused (cls : Refusal) (status : Status) (message requestId : Option String)
  deriving DecidableEq, Repr

/-- The error a scripted failure gives for a call. -/
def ScriptedFailure.toError (call : ServiceCall) : ScriptedFailure → Error
  | .transport kind message => .transport call.method call.service call.path kind message
  | .invalidConfig message => .invalidConfig message none
  | .refused cls status message rid =>
    .refused cls ⟨status, call.method, call.service, scriptUrl, message, rid, none⟩

/-- What a route answers. -/
inductive RouteAnswer where
  | respond (r : Response)
  | fail (f : ScriptedFailure)

/-- A route: the calls it answers, and its answer. -/
structure Route where
  method : Method
  path : String
  answer : RouteAnswer

/-- The state of a scripted service: how many calls each method and path had, the calls that
reached it, and the telemetry log. -/
structure ScriptState where
  served : List ((Method × String) × Nat)
  calls : List ServiceCall
  log : List Entry

/-- A scripted service before any call. -/
def ScriptState.empty : ScriptState := ⟨[], [], []⟩

/-- The route for the `n`-th call of a method and path (counting from zero): the `n`-th
matching route, or the last one. -/
def routeFor (routes : List Route) (method : Method) (path : String) (n : Nat) :
    Option RouteAnswer :=
  let matching := routes.filter (fun r => r.method = method && r.path = path)
  (matching[n]? <|> matching.getLast?).map (·.answer)

/-- The answer to a call that no route matches. -/
def unrouted (call : ServiceCall) : Except Error Response :=
  if call.method = .get then
    .error (.refused .notFound ⟨⟨404⟩, call.method, call.service, scriptUrl, none, none, none⟩)
  else .ok ⟨⟨200⟩, HeaderMap.empty, []⟩

/-- A scripted service. -/
def scripted (routes : List Route) : Transport ScriptState where
  send call st :=
    let key := (call.method, call.path)
    let n := (st.served.lookup key).getD 0
    let st := { st with
      calls := st.calls ++ [call]
      served := (st.served.filter (·.1 != key)) ++ [(key, n + 1)] }
    let result := match routeFor routes call.method call.path n with
      | some (.respond r) => .ok r
      | some (.fail f) => .error (f.toError call)
      | none => unrouted call
    (.answer result, st)
  note e st := { st with log := st.log ++ [e] }

/-- A scripted hook. -/
structure ScriptedHook where
  /-- Headers set on every call, replacing earlier values. -/
  headers : List (String × List UInt8)
  /-- Paths whose calls are refused. -/
  failPaths : List String
  /-- Paths whose calls crash the hook. -/
  panicPaths : List String
  /-- How many calls to those paths crash it; all of them when none. -/
  panicTimes : Option Nat

/-- A scripted hook that does nothing. -/
def ScriptedHook.empty : ScriptedHook := ⟨[], [], [], none⟩

/-- The hook a scripted hook describes; its state counts the crashes so far. A crash is
checked before a refusal. -/
def ScriptedHook.toHook (h : ScriptedHook) : Hook Nat :=
  ⟨fun call n =>
    if h.panicPaths.contains call.path && h.panicTimes.all (n < ·) then
      (.crash ("hook panicked on " ++ call.method.name ++ " " ++ call.path), n + 1)
    else if h.failPaths.contains call.path then
      (.refuse (.invalidConfig ("hook rejected " ++ call.method.name ++ " " ++ call.path ++
        " on " ++ call.service) none), n)
    else
      (.proceed (h.headers.foldl (fun m (k, v) => m.insert k v) call.headers), n)⟩

end CiClient.Service
