import CiClient.Service.Call
/-!
# Request hooks

A request hook sees every call before it is sent: its method, service and path, and its headers,
which it may change. It may also refuse the call with an error, which then is the call's answer,
or crash. A hook may keep a state of its own between calls.
-/

namespace CiClient.Service

open Http

/-- What a hook does with a call. -/
inductive HookVerdict where
  /-- Send the call with these headers. -/
  | proceed (headers : HeaderMap)
  | refuse (e : Error)
  | crash (message : String)

/-- A request hook with a state of type `ρ`. -/
structure Hook (ρ : Type) where
  run : ServiceCall → ρ → HookVerdict × ρ

/-- The hook layer over a transport. -/
def hookLayer (h : Hook ρ) (inner : Transport σ) : Transport (ρ × σ) where
  send call st :=
    let (verdict, r) := h.run call st.1
    match verdict with
    | .proceed headers =>
      let (reply, s) := inner.send { call with headers } st.2
      (reply, (r, s))
    | .refuse e => (.answer (.error e), (r, st.2))
    | .crash m => (.crash m, (r, st.2))
  note e st := (st.1, inner.note e st.2)

/-- A hook that lets every call through as it is. -/
def Hook.none : Hook Unit := ⟨fun call _ => (.proceed call.headers, ())⟩

/-- The layer of `Hook.none` sends every call as the transport under it does. -/
theorem hookLayer_none_send (inner : Transport σ) (call : ServiceCall) (s : σ) :
    (hookLayer Hook.none inner).send call ((), s) =
      ((inner.send call s).1, ((), (inner.send call s).2)) := rfl

end CiClient.Service
