import CiClient.Service.Crumb
/-!
# One crumb cache shared by concurrent callers

Clones of a crumb layer share one cache behind one lock. A caller with a call that is not a GET
takes the lock and looks at its service's crumb; when it has to fetch one it keeps the lock until
the fetch has come back and the crumb is kept. It then lets the lock go, with the crumb set on
its call, and sends the call beneath on its own. A GET takes no lock and passes as it is.

Callers run side by side, so their steps interleave in any order; each step below is atomic:

- `enter`: the caller takes the lock and looks at the cache, asking for the crumb document when
  its service's crumb is missing or has expired (a GET only goes on);
- `answer`: the reply to the caller's fetch comes back; a crumb it gives is kept, and the lock is
  let go;
- `forward`: the caller sends its call beneath, holding no lock.

The transport beneath is seen through the list of what it received, in order. A step that cannot
happen now (the lock is held by another caller, or the caller is not at that point) gives `none`.
-/

namespace CiClient.Service

open Http

/-- Where a caller of the shared layer stands. -/
inductive Phase where
  /-- has not entered the layer yet -/
  | start
  /-- holds the lock and waits for the crumb document it asked for -/
  | fetching
  /-- past the lock, about to send this call beneath -/
  | ready (call : ServiceCall)
  /-- finished: the call it sent beneath, or none when its fetch failed -/
  | done (sent : Option ServiceCall)
  deriving DecidableEq, Repr

/-- A call that reached the transport beneath: a crumb fetch, or a caller's own call. -/
inductive Sent where
  | fetch (call : ServiceCall)
  | forward (call : ServiceCall)
  deriving DecidableEq, Repr

/-- An atomic step of one caller of the shared layer. -/
inductive CrumbAction where
  /-- caller `i` enters the layer at time `now` -/
  | enter (i now : Nat)
  /-- the reply to caller `i`'s fetch comes back at time `now` -/
  | answer (i : Nat) (reply : Reply) (now : Nat)
  /-- caller `i` sends its call beneath -/
  | forward (i : Nat)

/-- The crumb header that the reply to a fetch for `service` gives, if it gives one. -/
def crumbOfReply (cfg : CrumbConfig) (service : String) :
    Reply → Option (String × List UInt8)
  | .answer (.ok resp) => (crumbOfResponse cfg service resp).toOption
  | _ => none

/-- What the callers of one crumb layer share: the cache, the caller holding the lock, where each
caller stands, and what the transport beneath has received. -/
structure SharedCrumbs where
  cache : List (String × CrumbEntry)
  holder : Option Nat
  phase : Nat → Phase
  sent : List Sent

namespace SharedCrumbs

/-- Nobody has entered, the cache is empty and the lock free. -/
def init : SharedCrumbs := ⟨[], none, fun _ => .start, []⟩

/-- Caller `i` moves to phase `p`. -/
def setPhase (st : SharedCrumbs) (i : Nat) (p : Phase) : SharedCrumbs :=
  { st with phase := fun j => if j = i then p else st.phase j }

/-- One atomic step of the callers of `calls` (caller `i` sends `calls[i]`). -/
def step (cfg : CrumbConfig) (calls : List ServiceCall) (st : SharedCrumbs) :
    CrumbAction → Option SharedCrumbs
  | .enter i now =>
    match calls[i]?, st.phase i with
    | some call, .start =>
      if call.method = .get then some (st.setPhase i (.ready call))
      else if st.holder.isSome then none
      else if cfg.expired now (st.cache.lookup call.service) then
        some { st.setPhase i .fetching with
          holder := some i
          sent := st.sent ++ [.fetch call.crumbFetch] }
      else
        let call := match st.cache.lookup call.service with
          | some e => call.withCrumb e
          | none => call
        some (st.setPhase i (.ready call))
    | _, _ => none
  | .answer i reply now =>
    match calls[i]?, st.phase i with
    | some call, .fetching =>
      match crumbOfReply cfg call.service reply with
      | some (name, value) =>
        some { st.setPhase i (.ready (call.withCrumb ⟨name, value, now⟩)) with
          holder := none
          cache := putCrumb st.cache call.service ⟨name, value, now⟩ }
      | none => some { st.setPhase i (.done none) with holder := none }
    | _, _ => none
  | .forward i =>
    match st.phase i with
    | .ready call =>
      some { st.setPhase i (.done (some call)) with sent := st.sent ++ [.forward call] }
    | _ => none

/-- The steps one after another; `none` as soon as one cannot happen. -/
def run (cfg : CrumbConfig) (calls : List ServiceCall) :
    SharedCrumbs → List CrumbAction → Option SharedCrumbs
  | st, [] => some st
  | st, a :: rest =>
    match st.step cfg calls a with
    | some st' => run cfg calls st' rest
    | none => none

end SharedCrumbs

end CiClient.Service
