import CiClient.Service.Diagnostics
import CiClient.Json.Decode
/-!
# Crumbs

A server that guards against cross-site requests wants a crumb header on every call that is not
a GET. The crumb layer fetches one per service from `crumbIssuer/api/json`, keeps it, and sets
it on each such call; GET calls pass through untouched.

A kept crumb serves until it is older than the time to live, a duration in nanoseconds. The
layer's clock advances one nanosecond per checked call, so a time to live of zero fetches a new
crumb for every call, and one of `n` nanoseconds serves the `n` checked calls after the fetch.
A fetch that fails, crashes, or gives a document that is not a crumb ends the call with that
failure and leaves the cache as it was.
-/

namespace CiClient.Service

open Http Json Json.Decode

/-- The request path of the crumb document. -/
def crumbPath : String := "crumbIssuer/api/json"

/-- Reads the crumb document: the header name under `crumbRequestField`, the value under
`crumb`; an array holds the two in that order. -/
def readCrumb (fuel : Nat) : Reader (String × String) :=
  struct "struct CrumbResp"
    (do
      let st ← entries (fun (st : Option String × Option String) k =>
        if k = "crumbRequestField" then do
          return (some (← once "crumbRequestField" st.1 string), st.2)
        else if k = "crumb" then do
          return (st.1, some (← once "crumb" st.2 string))
        else do Reader.colon; Reader.skip fuel; return st) fuel true (none, none)
      match st with
      | (none, _) => missing (.missingField "crumbRequestField")
      | (_, none) => missing (.missingField "crumb")
      | (some f, some c) => return (f, c))
    (do
      match ← element string true with
      | none => missing (.invalidLength 0 "struct CrumbResp with 2 elements")
      | some f =>
        match ← element string false with
        | none => missing (.invalidLength 1 "struct CrumbResp with 2 elements")
        | some c => return (f, c))

/-- A kept crumb: the header to set and when it was fetched. -/
structure CrumbEntry where
  name : String
  value : List UInt8
  fetchedAt : Nat
  deriving DecidableEq, Repr

/-- The state of the crumb layer: crumbs by service, and the clock. -/
structure CrumbState where
  cache : List (String × CrumbEntry)
  clock : Nat
  deriving DecidableEq, Repr

/-- No crumb kept yet. -/
def CrumbState.empty : CrumbState := ⟨[], 0⟩

/-- How the crumb layer works: the time to live of a crumb, in nanoseconds as the clock counts
them, and how much of a bad crumb document an error keeps. -/
structure CrumbConfig where
  ttlNs : Nat
  snippet : SnippetConfig
  deriving DecidableEq, Repr

/-- The crumb header of a crumb response, or the error that the response gives. -/
def crumbOfResponse (cfg : CrumbConfig) (service : String) (resp : Response) :
    Except Error (String × List UInt8) := do
  let (field, crumb) ← match decodeWith readCrumb resp.body with
    | .ok p => pure p
    | .error e =>
      throw (Error.decode resp.status .get service crumbPath (requestId resp.headers)
        (bodySnippet resp.body cfg.snippet) e.message)
  let some name := headerName? field
    | throw (Error.invalidConfig "invalid crumb header name" (some "invalid HTTP header name"))
  let value := Text.Utf8.encode crumb
  if !isValidValue value then
    throw (Error.invalidConfig "invalid crumb header value" (some "failed to parse header value"))
  return (name, value)

/-- Whether a kept crumb must be fetched again at time `now`. -/
def CrumbConfig.expired (cfg : CrumbConfig) (now : Nat) : Option CrumbEntry → Bool
  | some e => now - e.fetchedAt > cfg.ttlNs
  | none => true

/-- The call with a crumb header set, replacing any value it had. -/
def ServiceCall.withCrumb (call : ServiceCall) (e : CrumbEntry) : ServiceCall :=
  { call with headers := call.headers.insert e.name e.value }

/-- The call that fetches a crumb for a call: a GET of the crumb document of the call's service,
with the call's timeout. -/
def ServiceCall.crumbFetch (call : ServiceCall) : ServiceCall :=
  ServiceCall.make .get call.service crumbPath call.timeoutMs

/-- The cache with `entry` kept for `service`, in place of any earlier one. -/
def putCrumb (cache : List (String × CrumbEntry)) (service : String) (entry : CrumbEntry) :
    List (String × CrumbEntry) :=
  (cache.filter (·.1 != service)) ++ [(service, entry)]

/-- One call through the crumb layer at time `now`, in nanoseconds: the reply, the cache after it,
and the inner transport's state after it. A GET passes through. Any other call gets the kept
crumb of its service, fetched first when there is none or it has expired. -/
def crumbSend (cfg : CrumbConfig) (inner : Transport σ) (now : Nat) (call : ServiceCall)
    (cache : List (String × CrumbEntry)) (s : σ) : Reply × List (String × CrumbEntry) × σ :=
  if call.method = .get then
    let (r, s) := inner.send call s
    (r, cache, s)
  else
    let kept := cache.lookup call.service
    if cfg.expired now kept then
      match inner.send call.crumbFetch s with
      | (.crash m, s) => (.crash m, cache, s)
      | (.answer (.error e), s) => (.answer (.error e), cache, s)
      | (.answer (.ok resp), s) =>
        match crumbOfResponse cfg call.service resp with
        | .error e => (.answer (.error e), cache, s)
        | .ok (name, value) =>
          let entry : CrumbEntry := ⟨name, value, now⟩
          let (r, s) := inner.send (call.withCrumb entry) s
          (r, putCrumb cache call.service entry, s)
    else
      let call := match kept with
        | some e => call.withCrumb e
        | none => call
      let (r, s) := inner.send call s
      (r, cache, s)

/-- The crumb layer over a transport: its clock advances one nanosecond for each call that is
not a GET, and each call goes through `crumbSend` at the clock's time. -/
def crumbLayer (cfg : CrumbConfig) (inner : Transport σ) : Transport (CrumbState × σ) where
  send call st :=
    let now := if call.method = .get then st.1.clock else st.1.clock + 1
    let (r, cache, s) := crumbSend cfg inner now call st.1.cache st.2
    (r, (⟨cache, now⟩, s))
  note e st := (st.1, inner.note e st.2)

/-- The crumb layer when configured, else the transport itself with an unused cache. -/
def crumbLayer? : Option CrumbConfig → Transport σ → Transport (CrumbState × σ)
  | some cfg, inner => crumbLayer cfg inner
  | none, inner => ⟨fun call st => let (r, s) := inner.send call st.2; (r, (st.1, s)),
      fun e st => (st.1, inner.note e st.2)⟩

end CiClient.Service
