import CiClient.Error
import CiClient.Url.Edit
/-!
# Service directory

A service is reached at a base URL: one pinned for it, or else the cluster's URL with
`service/` and the segments of the service name under it. A base URL has no query or fragment
and its path ends with `/`, so that a request path joins below it. A request URL is the request
path, without leading slashes, resolved against the base.
-/

namespace CiClient.Service

open Url

/-- The segments of a service name: its parts between slashes, empty ones left out. -/
def nameSegments (service : String) : List String :=
  ((service.toList.splitOn '/').map String.ofList).filter (!·.isEmpty)

/-- A base URL read from a text: it must have no query or fragment, and its path is given a
trailing slash. -/
def normalizeBase (raw : String) : Except Error Url := do
  let u ← match Url.parse raw with
    | .ok u => pure u
    | .error e => throw (Error.invalidConfig "invalid base URL" (some e.text))
  if u.query.isSome || u.fragment.isSome then
    throw (Error.invalidConfig "base URL must not include query or fragment" none)
  let path := u.path
  if path != "/" && !path.endsWith "/" then return u.setPath (path ++ "/")
  return u

/-- A base URL with segments pushed below it, after its empty last segment is dropped. -/
def endpointUrl (base : Url) (segments : List String) : Except Error Url :=
  if base.cannotBeABase then
    throw (Error.invalidConfig "base URL must be a hierarchical URL" none)
  else return segments.foldl Url.pushSegment base.popIfEmpty

/-- Where services are reached: an optional cluster URL and URLs pinned per service. -/
structure Directory where
  cluster : Option Url
  endpoints : List (String × Url)
  deriving DecidableEq

namespace Directory

/-- A directory with no cluster and no pinned URL. -/
def empty : Directory := ⟨none, []⟩

/-- A directory that reaches every service through a cluster. -/
def ofCluster (base : String) : Except Error Directory := do
  return ⟨some (← normalizeBase base), []⟩

/-- The directory with a service pinned to a base URL, replacing an earlier one. -/
def insert (d : Directory) (service base : String) : Except Error Directory := do
  let u ← normalizeBase base
  return { d with endpoints := (d.endpoints.filter (·.1 != service)) ++ [(service, u)] }

/-- A directory from an optional cluster URL and pinned URLs, in order. -/
def build (cluster : Option String) (endpoints : List (String × String)) :
    Except Error Directory := do
  let d ← match cluster with
    | some c => ofCluster c
    | none => pure empty
  endpoints.foldlM (fun d (service, base) => d.insert service base) d

/-- The base URL of a service. -/
def baseUrl (d : Directory) (service : String) : Except Error Url := do
  match d.endpoints.lookup service with
  | some u => return u
  | none =>
    let some cluster := d.cluster
      | throw (Error.invalidConfig ("no endpoint configured for service `" ++ service ++ "`") none)
    let segs := nameSegments service
    if segs.isEmpty then throw (Error.invalidConfig "service name must not be empty" none)
    let u ← endpointUrl cluster ("service" :: segs)
    -- the trailing slash needs a hierarchical URL again, which `endpointUrl` already ensured
    if u.cannotBeABase then
      throw (Error.invalidConfig "cluster URL must be a hierarchical URL" none)
    return u.pushSegment ""

/-- The URL of a request path on a service. -/
def resolve (d : Directory) (service path : String) : Except Error Url := do
  let base ← d.baseUrl service
  match base.join (String.ofList (path.toList.dropWhile (· = '/'))) with
  | .ok u => return u
  | .error e =>
    throw (Error.invalidConfig ("invalid request path `" ++ path ++ "`") (some e.text))

end Directory

end CiClient.Service
