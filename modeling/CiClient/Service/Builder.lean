import CiClient.Service.Wire
/-!
# Building a service client

A service client is put together by a builder. It starts from a directory, one that reaches
every service through a cluster or one given whole, and collects the endpoints to pin in it,
the default headers, how much of a refused body errors keep, the crumb time to live and the
request hook. A default header set by name replaces the values of that name; a whole map of
defaults extends them name by name.

Building pins the endpoints in order, the first base URL that does not normalize ending it with
that error, and stacks the transport: the HTTP transport with the pinned directory, the default
headers and the snippet; the request hook over it; and the crumb layer over both when a time to
live is set, keeping the same snippet. A builder that was given no request hook has
`Hook.none`, which lets every call through as it is (`hookLayer_none_send`).

The agent's own settings (user agent, timeouts, proxy and certificate checks) belong to the
network a client is built over, which is a parameter here.
-/

namespace CiClient.Service

open Http

/-- A service client being configured: the directory and the endpoints to pin in it, the
default headers, the body snippet of refusals, the crumb time to live in nanoseconds when
crumbs are fetched, and the request hook. -/
structure ClientBuilder (ρ : Type) where
  directory : Directory
  endpoints : List (String × String)
  defaultHeaders : HeaderMap
  snippet : SnippetConfig
  crumbTtlNs : Option Nat
  hook : Hook ρ

namespace ClientBuilder

/-- A builder that resolves services only through `directory`. -/
def new (directory : Directory) : ClientBuilder Unit :=
  ⟨directory, [], HeaderMap.empty, SnippetConfig.default, none, Hook.none⟩

/-- A builder that routes services through `<cluster>/service/<name>/`. -/
def ofCluster (cluster : String) : Except Error (ClientBuilder Unit) := do
  return new (← Directory.ofCluster cluster)

variable {ρ : Type}

/-- Pins `service` to `base`; the URL is checked when the client is built. -/
def endpoint (b : ClientBuilder ρ) (service base : String) : ClientBuilder ρ :=
  { b with endpoints := b.endpoints ++ [(service, base)] }

/-- Sets one default header, replacing the values of its name. -/
def defaultHeader (b : ClientBuilder ρ) (name : String) (value : List UInt8) : ClientBuilder ρ :=
  { b with defaultHeaders := b.defaultHeaders.insert name value }

/-- Extends the default headers with a map: each name it has takes exactly its values. -/
def extendDefaultHeaders (b : ClientBuilder ρ) (headers : HeaderMap) : ClientBuilder ρ :=
  { b with defaultHeaders := b.defaultHeaders.extend headers }

/-- Whether refusals keep a snippet of the body. -/
def captureBodySnippet (b : ClientBuilder ρ) (enabled : Bool) : ClientBuilder ρ :=
  { b with snippet := { b.snippet with enabled } }

/-- How many bytes of a refused body a snippet keeps at most. -/
def maxBodySnippetBytes (b : ClientBuilder ρ) (maxBytes : Nat) : ClientBuilder ρ :=
  { b with snippet := { b.snippet with maxBytes } }

/-- Fetches a crumb per service and sets it on calls that are not GETs; a kept crumb serves for
`ttlNs` nanoseconds. -/
def withCrumb (b : ClientBuilder ρ) (ttlNs : Nat) : ClientBuilder ρ :=
  { b with crumbTtlNs := some ttlNs }

/-- Sets the hook run on every call, crumb fetches included. -/
def requestHook {ρ' : Type} (b : ClientBuilder ρ) (hook : Hook ρ') : ClientBuilder ρ' :=
  ⟨b.directory, b.endpoints, b.defaultHeaders, b.snippet, b.crumbTtlNs, hook⟩

/-- The directory with the endpoints pinned in order. -/
def pinned (b : ClientBuilder ρ) : Except Error Directory :=
  b.endpoints.foldlM (fun d (service, base) => d.insert service base) b.directory

/-- The crumb layer's configuration, when a time to live is set. -/
def crumbConfig (b : ClientBuilder ρ) : Option CrumbConfig :=
  b.crumbTtlNs.map fun ttlNs => ⟨ttlNs, b.snippet⟩

/-- The service client over a network. -/
def build (b : ClientBuilder ρ) (net : Network ν) :
    Except Error (Transport (CrumbState × (ρ × WireState ν))) := do
  let directory ← b.pinned
  return clientTransport ⟨directory, b.defaultHeaders, b.snippet⟩ net b.hook b.crumbConfig

/-- Pinning one more endpoint checks it after the ones before. -/
theorem pinned_endpoint (b : ClientBuilder ρ) (service base : String) :
    (b.endpoint service base).pinned = b.pinned >>= fun d => d.insert service base := by
  simp [pinned, endpoint, List.foldlM_append]

/-- A client is built exactly when the endpoints pin; it is then the stack over the pinned
directory. -/
theorem build_eq_ok_iff {b : ClientBuilder ρ} {net : Network ν}
    {T : Transport (CrumbState × (ρ × WireState ν))} :
    b.build net = .ok T ↔ ∃ directory, b.pinned = .ok directory ∧
      T = clientTransport ⟨directory, b.defaultHeaders, b.snippet⟩ net b.hook b.crumbConfig := by
  unfold build
  cases b.pinned with
  | error e => simp [bind, Except.bind]
  | ok d =>
    simp only [bind, Except.bind, pure, Except.pure, Except.ok.injEq]
    exact ⟨fun h => ⟨d, rfl, h.symm⟩, fun ⟨_, hd, hT⟩ => by cases hd; exact hT.symm⟩

end ClientBuilder

/-- The plain client of a cluster: every service routed through it, with no hook and no
crumbs. -/
def clusterClient (cluster : String) (net : Network ν) :
    Except Error (Transport (CrumbState × (Unit × WireState ν))) := do
  (← ClientBuilder.ofCluster cluster).build net

end CiClient.Service
