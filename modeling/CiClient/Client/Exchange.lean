import CiClient.Service.Call
/-!
# Exchanges

An exchange is what an operation of the client does, written out as a tree: finish with a result,
make a call and go on with what it answers, or note a telemetry entry and go on. An exchange is
run over a transport, which answers its calls one after the other; a crash of the transport ends
the run at once.

Keeping an operation as data lets one state what it calls, in which order, and what it makes of
the answers, for every transport at once.
-/

namespace CiClient.Client

open Service

/-- An operation of the client with a result of type `α`. -/
inductive Exchange (α : Type) where
  | done (result : Except Error α)
  | call (c : ServiceCall) (next : Except Error Response → Exchange α)
  | note (e : Entry) (next : Exchange α)

namespace Exchange

/-- The exchange that goes on with `f` after a success and ends after a failure. -/
def bind : Exchange α → (α → Exchange β) → Exchange β
  | .done (.ok a), f => f a
  | .done (.error e), _ => .done (.error e)
  | .call c next, f => .call c fun r => (next r).bind f
  | .note e next, f => .note e (next.bind f)

instance : Monad Exchange where
  pure a := .done (.ok a)
  bind := Exchange.bind

/-- The exchange that fails at once. -/
def fail (e : Error) : Exchange α := .done (.error e)

/-- One call; a failure answer fails the exchange. -/
def send (c : ServiceCall) : Exchange Response := .call c fun r => .done r

/-- Notes a telemetry entry. -/
def emit (e : Entry) : Exchange Unit := .note e (.done (.ok ()))

/-- A result or failure computed without calls. -/
def ofExcept (r : Except Error α) : Exchange α := .done r

/-- How a run ends: with the exchange's result, or with a crash of the transport. -/
inductive Outcome (α : Type) where
  | finished (result : Except Error α)
  | crashed (message : String)

/-- Runs an exchange over a transport from a state. -/
def run (t : Transport σ) : Exchange α → σ → Outcome α × σ
  | .done r, s => (.finished r, s)
  | .call c next, s =>
    match t.send c s with
    | (.crash m, s) => (.crashed m, s)
    | (.answer r, s) => run t (next r) s
  | .note e next, s => run t next (t.note e s)

/-- The calls an exchange makes when each call is answered by `answer`, in order. -/
def calls (answer : ServiceCall → Except Error Response) : Exchange α → List ServiceCall
  | .done _ => []
  | .call c next => c :: calls answer (next (answer c))
  | .note _ next => calls answer next

end Exchange

end CiClient.Client
