import CiClient.Proofs.CrumbCache
import CiClient.Service.Wire
/-!
# Headers through the layers of a service client

A service client sends a call through the crumb layer, then the request hook, then the HTTP
transport, which sends the default headers overridden name by name by the call's. What goes out
is watched at the network through `Network.logged`, which keeps the requests delivered to it.

The header maps first: `insert` gives a name exactly the one value (`getAll_insert`), and
`extend` gives every name the other map's values when it has any and its own otherwise
(`getAll_extend`).

Then the stack (`clientTransport_headers`): a GET goes out once, with the defaults overridden by
what the hook made of its headers. A call that is not a GET and has to fetch its crumb first
shows the hook the fetch (a GET of the crumb document with no headers, the call's service and
timeout); a refusal ends the call with nothing sent, and otherwise the fetch goes out with the
defaults overridden by the hook's headers. With a crumb fetched, the hook sees the call with the
crumb header set, and the call goes out with the defaults overridden by what the hook made of
that, right after the fetch; a refusal there ends the call with only the fetch sent. A kept crumb
that has not expired is set on the call in the same way.
-/

namespace CiClient.Http.HeaderMap

/-! ## Values of a name -/

theorem getAll_append (h : HeaderMap) (n : String) (v : List UInt8) (m : String) :
    (h.append n v).getAll m = h.getAll m ++ if n = m then [v] else [] := by
  by_cases hn : n = m <;> simp [append, getAll, hn]

theorem getAll_cons (p : String × List UInt8) (l : List (String × List UInt8)) (m : String) :
    (⟨p :: l⟩ : HeaderMap).getAll m =
      (if p.1 = m then [p.2] else []) ++ (⟨l⟩ : HeaderMap).getAll m := by
  obtain ⟨k, w⟩ := p
  by_cases hk : k = m <;> simp [getAll, hk]

theorem getAll_eq_nil_of_not_any {h : HeaderMap} {n : String}
    (hany : ¬ h.entries.any (fun e => e.1 = n) = true) : h.getAll n = [] := by
  simp only [List.any_eq_true, decide_eq_true_eq, not_exists, not_and] at hany
  simp only [getAll, List.filterMap_eq_nil_iff]
  rintro ⟨k, w⟩ hkw
  simp [hany _ hkw]

theorem exists_mem_of_getAll_ne_nil {h : HeaderMap} {m : String} (hm : h.getAll m ≠ []) :
    ∃ v, (m, v) ∈ h.entries := by
  refine Classical.byContradiction fun hno => hm ?_
  simp only [getAll, List.filterMap_eq_nil_iff]
  rintro ⟨k, w⟩ hkw
  by_cases hkm : k = m
  · exact absurd ⟨w, hkm ▸ hkw⟩ hno
  · simp [hkm]

/-! ## Replacing the values of a name -/

/-- The pass of `insert` over the entries leaves every other name's values. -/
theorem getAll_insertGo_of_ne {name m : String} {value : List UInt8} (hm : name ≠ m)
    (l : List (String × List UInt8)) (done : Bool) :
    (⟨insert.go name value l done⟩ : HeaderMap).getAll m = (⟨l⟩ : HeaderMap).getAll m := by
  induction l generalizing done with
  | nil => rfl
  | cons p rest ih =>
    obtain ⟨k, w⟩ := p
    by_cases hk : k = name
    · subst hk
      cases done
      · simp [insert.go, getAll_cons, ih, hm]
      · simp [insert.go, getAll_cons, ih, hm]
    · simp [insert.go, getAll_cons, ih, hk]

/-- The pass of `insert` puts the new value at the first entry of the name, if it has not done
so yet, and drops the others. -/
theorem getAll_insertGo_self (name : String) (value : List UInt8) (l : List (String × List UInt8))
    (done : Bool) :
    (⟨insert.go name value l done⟩ : HeaderMap).getAll name =
      if !done && l.any (fun e => e.1 = name) then [value] else [] := by
  induction l generalizing done with
  | nil => simp [insert.go, getAll]
  | cons p rest ih =>
    obtain ⟨k, w⟩ := p
    by_cases hk : k = name
    · subst hk
      cases done
      · simp [insert.go, getAll_cons, ih]
      · simp [insert.go, ih]
    · simp only [List.any_cons, decide_eq_false hk, Bool.false_or]
      simp [insert.go, getAll_cons, ih, hk]

theorem getAll_insert (h : HeaderMap) (n : String) (v : List UInt8) (m : String) :
    (h.insert n v).getAll m = if m = n then [v] else h.getAll m := by
  unfold insert
  split
  · next hany =>
    by_cases hm : m = n
    · subst hm
      simp [getAll_insertGo_self, hany]
    · simp [getAll_insertGo_of_ne (Ne.symm hm), hm]
  · next hany =>
    rw [getAll_append]
    by_cases hm : m = n
    · subst hm
      simp [getAll_eq_nil_of_not_any hany]
    · simp [hm, Ne.symm hm]

/-! ## Overriding name by name -/

theorem getAll_foldl_append (n m : String) (vs : List (List UInt8)) (acc : HeaderMap) :
    (vs.foldl (fun a w => a.append n w) acc).getAll m =
      acc.getAll m ++ if n = m then vs else [] := by
  induction vs generalizing acc with
  | nil => simp
  | cons w ws ih =>
    rw [List.foldl_cons, ih, getAll_append]
    split <;> simp

/-- A fold that, name by name, gives a name `M`'s values when it has any: after it, the names
folded over have `M`'s values and the others keep theirs. -/
theorem getAll_foldl {f : HeaderMap → String → HeaderMap} {M : HeaderMap} {m : String}
    (hf : ∀ acc k, (f acc k).getAll m =
      if m = k ∧ M.getAll m ≠ [] then M.getAll m else acc.getAll m)
    (ks : List String) (acc : HeaderMap) :
    (ks.foldl f acc).getAll m =
      if m ∈ ks ∧ M.getAll m ≠ [] then M.getAll m else acc.getAll m := by
  induction ks generalizing acc with
  | nil => simp
  | cons k ks ih =>
    rw [List.foldl_cons, ih, hf]
    by_cases hm : M.getAll m = []
    · simp [hm]
    · by_cases hks : m ∈ ks
      · simp [hm, hks]
      · by_cases hk : m = k
        · subst hk
          simp [hm, hks]
        · simp [hm, hks, hk]

theorem mem_names {h : HeaderMap} {x : String} : x ∈ h.names ↔ ∃ v, (x, v) ∈ h.entries := by
  -- `names` collects first components left to right, from any list of names found so far
  suffices hacc : ∀ (l : List (String × List UInt8)) (acc : List String), x ∈ l.foldl
      (fun acc (p : String × List UInt8) => if acc.contains p.1 then acc else acc ++ [p.1]) acc ↔
        x ∈ acc ∨ ∃ v, (x, v) ∈ l by
    simpa [names] using hacc h.entries []
  intro l
  induction l with
  | nil => simp
  | cons p rest ih =>
    intro acc
    rw [List.foldl_cons, ih]
    obtain ⟨k, w⟩ := p
    by_cases hp : k ∈ acc
    · simp [hp]
      grind
    · simp [hp]
      grind

/-- `D.extend M` gives every name `M`'s values when it has any, and `D`'s otherwise. -/
theorem getAll_extend (D M : HeaderMap) (m : String) :
    (D.extend M).getAll m = if M.getAll m = [] then D.getAll m else M.getAll m := by
  unfold extend
  rw [@getAll_foldl _ M m (fun acc k => ?_) M.names D]
  · -- a name with values is one of `M`'s names
    by_cases hm : M.getAll m = []
    · simp [hm]
    · have hmem : m ∈ M.names := mem_names.mpr (exists_mem_of_getAll_ne_nil hm)
      simp [hm, hmem]
  · -- one name of `M`: its first value replaces the others', the rest follow it
    split
    · next hk =>
      by_cases hmk : m = k
      · subst hmk
        simp [hk]
      · simp [hmk]
    · next v vs hk =>
      rw [getAll_foldl_append, getAll_insert]
      by_cases hmk : m = k
      · subst hmk
        simp [hk]
      · simp [hmk, Ne.symm hmk]

end CiClient.Http.HeaderMap

namespace CiClient.Service

open Http

variable {ν ρ σ : Type}

/-! ## The network and the HTTP transport -/

/-- The network `net` that also keeps the list of requests delivered to it. -/
def Network.logged (net : Network ν) : Network (List Request × ν) where
  deliver req st := ((net.deliver req st.2).1, (st.1 ++ [req], (net.deliver req st.2).2))

section Wire

variable {cfg : WireConfig} {net : Network ν} {call : ServiceCall} {url : Url}

/-- A GET or a POST is delivered once, as it is. -/
theorem sendRequest_logged (hm : call.method = .get ∨ call.method = .post) (headers : HeaderMap)
    (log : List Request) (n : ν) :
    (sendRequest net.logged call url headers (log, n)).2 =
      (log ++ [⟨call.method, url, headers, call.timeoutMs⟩],
        (net.deliver ⟨call.method, url, headers, call.timeoutMs⟩ n).2) := by
  rcases hd : net.deliver ⟨call.method, url, headers, call.timeoutMs⟩ n with ⟨d, n₁⟩
  rcases hm with hm | hm <;>
  · unfold sendRequest
    rw [hm] at hd ⊢
    cases d <;> simp [Network.logged, hd]

theorem sendRequest_of_response (hm : call.method = .get ∨ call.method = .post)
    {headers : HeaderMap} {n n₁ : ν} {r : Response}
    (hd : net.deliver ⟨call.method, url, headers, call.timeoutMs⟩ n = (.response r, n₁)) :
    sendRequest net call url headers n = (.ok r, n₁) := by
  rcases hm with hm | hm <;>
  · unfold sendRequest
    rw [hm] at hd ⊢
    simp [hd]

/-- Whatever the network and the transport's answer, the network's state after a resolved call is
the one `sendRequest` leaves. -/
theorem wire_send_net (hu : cfg.directory.resolve call.service call.path = .ok url)
    (st : WireState ν) :
    ((wire cfg net).send call st).2.net =
      (sendRequest net call url (cfg.defaultHeaders.extend call.headers) st.net).2 := by
  rcases hs : sendRequest net call url (cfg.defaultHeaders.extend call.headers) st.net with
    ⟨sent, s⟩
  cases sent with
  | error e => simp [wire, hu, hs]
  | ok r =>
    cases hr : refusalOf cfg call url r <;> simp [wire, hu, hs, hr]

theorem refusalOf_eq_none {r : Response} (h : r.status.isError = false) :
    refusalOf cfg call url r = none := by
  simp [refusalOf, h]

theorem wire_send_answer (hu : cfg.directory.resolve call.service call.path = .ok url)
    {st : WireState ν} {r : Response} {n₁ : ν}
    (hs : sendRequest net call url (cfg.defaultHeaders.extend call.headers) st.net = (.ok r, n₁))
    (hr : r.status.isError = false) :
    ((wire cfg net).send call st).1 = .answer (.ok r) := by
  simp [wire, hu, hs, refusalOf_eq_none hr]

/-- A resolved GET or POST reaches the network once, with the default headers overridden by the
call's. -/
theorem wire_delivers (hm : call.method = .get ∨ call.method = .post)
    (hu : cfg.directory.resolve call.service call.path = .ok url) (st : WireState (List Request × ν)) :
    ((wire cfg net.logged).send call st).2.net.1 =
      st.net.1 ++ [⟨call.method, url, cfg.defaultHeaders.extend call.headers, call.timeoutMs⟩] := by
  rw [wire_send_net hu, sendRequest_logged hm]

/-- The HTTP transport only adds to the list of delivered requests. -/
theorem wire_delivered_grows (call : ServiceCall) (st : WireState (List Request × ν)) :
    ∃ more, ((wire cfg net.logged).send call st).2.net.1 = st.net.1 ++ more := by
  cases hu : cfg.directory.resolve call.service call.path with
  | error e => exact ⟨[], by simp [wire, hu]⟩
  | ok url =>
    rw [wire_send_net hu]
    cases hm : call.method with
    | get => exact ⟨_, by rw [sendRequest_logged (.inl hm)]⟩
    | post => exact ⟨_, by rw [sendRequest_logged (.inr hm)]⟩
    | other name => exact ⟨[], by simp [sendRequest, hm]⟩

end Wire

/-! ## The request hook -/

section Hook

variable {hook : Hook ρ} {T : Transport σ} {call : ServiceCall} {r r' : ρ}

theorem hookLayer_send_proceed {H : HeaderMap} (h : hook.run call r = (.proceed H, r'))
    (s : σ) :
    (hookLayer hook T).send call (r, s) =
      ((T.send { call with headers := H } s).1, (r', (T.send { call with headers := H } s).2)) := by
  simp [hookLayer, h]

theorem hookLayer_send_refuse {e : Error} (h : hook.run call r = (.refuse e, r')) (s : σ) :
    (hookLayer hook T).send call (r, s) = (.answer (.error e), (r', s)) := by
  simp [hookLayer, h]

/-- The hook over the HTTP transport only adds to the list of delivered requests. -/
theorem hookWire_delivered_grows {cfg : WireConfig} {net : Network ν} (call : ServiceCall)
    (r : ρ) (st : WireState (List Request × ν)) :
    ∃ more, ((hookLayer hook (wire cfg net.logged)).send call (r, st)).2.2.net.1 =
      st.net.1 ++ more := by
  rcases hv : hook.run call r with ⟨verdict, r₁⟩
  cases verdict with
  | proceed H =>
    rw [hookLayer_send_proceed hv]
    exact wire_delivered_grows _ st
  | refuse e => exact ⟨[], by simp [hookLayer_send_refuse hv]⟩
  | crash m => exact ⟨[], by simp [hookLayer, hv]⟩

end Hook

/-! ## The crumb layer -/

section Crumb

variable {cfg : CrumbConfig} {T : Transport σ} {call : ServiceCall}

theorem crumbLayer_send_of_get (h : call.method = .get) (cs : CrumbState) (s : σ) :
    (crumbLayer cfg T).send call (cs, s) = ((T.send call s).1, (cs, (T.send call s).2)) := by
  simp [crumbLayer, h, crumbSend_of_get h]

/-- Any other call advances the layer's clock by one and goes through `crumbSend` at that time. -/
theorem crumbLayer_send_of_ne_get (h : call.method ≠ .get) (cs : CrumbState) (s : σ) :
    (crumbLayer cfg T).send call (cs, s) =
      let out := crumbSend cfg T (cs.clock + 1) call cs.cache s
      (out.1, (⟨out.2.1, cs.clock + 1⟩, out.2.2)) := by
  simp [crumbLayer, h]

end Crumb

/-! ## The stack -/

section Stack

variable {cfg : WireConfig} {net : Network ν} {hook : Hook ρ} {ccfg : CrumbConfig}
  {call : ServiceCall} {cs : CrumbState} {r : ρ} {ws : WireState (List Request × ν)}

theorem clientTransport_some :
    clientTransport cfg net hook (some ccfg) = crumbLayer ccfg (hookLayer hook (wire cfg net)) :=
  rfl

/-- A call the hook lets through, when it is a GET or a POST and resolves, goes out once with the
default headers overridden by the hook's. -/
theorem hookWire_delivers {c : ServiceCall} {H : HeaderMap} {r' : ρ} {url : Url}
    (hv : hook.run c r = (.proceed H, r')) (hm : c.method = .get ∨ c.method = .post)
    (hu : cfg.directory.resolve c.service c.path = .ok url) :
    ((hookLayer hook (wire cfg net.logged)).send c (r, ws)).2.2.net.1 =
      ws.net.1 ++ [⟨c.method, url, cfg.defaultHeaders.extend H, c.timeoutMs⟩] := by
  rw [hookLayer_send_proceed hv]
  exact @wire_delivers ν cfg net { c with headers := H } url hm hu ws

/-- A crumb fetch that the hook lets through and the server answers with a response that is not
an error: the fetch goes out with the hook's headers over the defaults, and the response comes
back. -/
theorem hookWire_fetch {H₁ : HeaderMap} {r₁ : ρ} {url : Url} {resp : Response} {n₁ : ν}
    (hv : hook.run call.crumbFetch r = (.proceed H₁, r₁))
    (hu : cfg.directory.resolve call.service crumbPath = .ok url)
    (hd : net.deliver ⟨.get, url, cfg.defaultHeaders.extend H₁, call.timeoutMs⟩ ws.net.2 =
      (.response resp, n₁))
    (hok : resp.status.isError = false) :
    ∃ ws₁ : WireState (List Request × ν),
      (hookLayer hook (wire cfg net.logged)).send call.crumbFetch (r, ws) =
        (.answer (.ok resp), (r₁, ws₁)) ∧
      ws₁.net.1 = ws.net.1 ++ [⟨.get, url, cfg.defaultHeaders.extend H₁, call.timeoutMs⟩] := by
  have hdl : net.logged.deliver ⟨.get, url, cfg.defaultHeaders.extend H₁, call.timeoutMs⟩ ws.net =
      (.response resp,
        (ws.net.1 ++ [⟨.get, url, cfg.defaultHeaders.extend H₁, call.timeoutMs⟩], n₁)) := by
    simp [Network.logged, hd]
  have hs := @sendRequest_of_response _ net.logged { call.crumbFetch with headers := H₁ } url
    (.inl rfl) _ _ _ _ hdl
  refine ⟨((wire cfg net.logged).send { call.crumbFetch with headers := H₁ } ws).2, ?_, ?_⟩
  · rw [hookLayer_send_proceed hv,
      @wire_send_answer _ cfg net.logged { call.crumbFetch with headers := H₁ } url hu ws resp _ hs
        hok]
  · exact @wire_delivers ν cfg net { call.crumbFetch with headers := H₁ } url (.inl rfl) hu ws

/-- A GET goes out once, with the default headers overridden by what the hook made of its
headers. -/
theorem clientTransport_get {H : HeaderMap} {r' : ρ} {url : Url} (hg : call.method = .get)
    (hv : hook.run call r = (.proceed H, r'))
    (hu : cfg.directory.resolve call.service call.path = .ok url) :
    ((clientTransport cfg net.logged hook (some ccfg)).send call (cs, r, ws)).2.2.2.net.1 =
      ws.net.1 ++ [⟨.get, url, cfg.defaultHeaders.extend H, call.timeoutMs⟩] := by
  rw [clientTransport_some, crumbLayer_send_of_get hg, hookWire_delivers hv (.inl hg) hu, hg]

section Expired

variable (hg : call.method ≠ .get)
  (hx : ccfg.expired (cs.clock + 1) (cs.cache.lookup call.service) = true)
include hg hx

/-- A crumb fetch the hook refuses ends the call with the hook's error: nothing goes out and the
cache stays. -/
theorem clientTransport_fetch_refused {e : Error} {r' : ρ} {w : WireState ν}
    (hv : hook.run call.crumbFetch r = (.refuse e, r')) :
    (clientTransport cfg net hook (some ccfg)).send call (cs, r, w) =
      (.answer (.error e), (⟨cs.cache, cs.clock + 1⟩, (r', w))) := by
  rw [clientTransport_some, crumbLayer_send_of_ne_get hg,
    crumbSend_of_fetch_error hg hx (hookLayer_send_refuse hv w)]

/-- A crumb fetch the hook lets through is the first request to go out, with the hook's headers
over the defaults. -/
theorem clientTransport_fetch_first {H₁ : HeaderMap} {r₁ : ρ} {url : Url}
    (hv : hook.run call.crumbFetch r = (.proceed H₁, r₁))
    (hu : cfg.directory.resolve call.service crumbPath = .ok url) :
    ∃ more, ((clientTransport cfg net.logged hook (some ccfg)).send call (cs, r, ws)).2.2.2.net.1 =
      ws.net.1 ++ ⟨.get, url, cfg.defaultHeaders.extend H₁, call.timeoutMs⟩ :: more := by
  rw [clientTransport_some, crumbLayer_send_of_ne_get hg]
  rcases hX : (hookLayer hook (wire cfg net.logged)).send call.crumbFetch (r, ws) with
    ⟨reply, r₁', ws₁⟩
  have hfetch : ws₁.net.1 =
      ws.net.1 ++ [⟨.get, url, cfg.defaultHeaders.extend H₁, call.timeoutMs⟩] := by
    have h := @hookWire_delivers ν ρ cfg net hook r ws _ _ _ _ hv (.inl rfl) hu
    rw [hX] at h
    exact h
  -- the fetch's request is all there is, or the call's own follow it
  rcases crumbSend_of_expired hg hx (U := hookLayer hook (wire cfg net.logged)) (s := (r, ws)) with
    ⟨m, -, he⟩ | ⟨err, he⟩ | ⟨resp, name, value, -, -, he⟩
  · exact ⟨[], by simp only [he, hX, hfetch]⟩
  · exact ⟨[], by simp only [he, hX, hfetch]⟩
  · obtain ⟨more, hmore⟩ : ∃ more, ((hookLayer hook (wire cfg net.logged)).send
        (call.withCrumb ⟨name, value, cs.clock + 1⟩) (r₁', ws₁)).2.2.net.1 = ws₁.net.1 ++ more :=
      hookWire_delivered_grows _ r₁' ws₁
    exact ⟨more, by simp only [he, hX, hmore, hfetch, List.append_assoc, List.singleton_append]⟩

section Fetched

variable {H₁ : HeaderMap} {r₁ : ρ} {uf : Url} {resp : Response} {n₁ : ν} {name : String}
  {value : List UInt8}
  (hv₁ : hook.run call.crumbFetch r = (.proceed H₁, r₁))
  (huf : cfg.directory.resolve call.service crumbPath = .ok uf)
  (hd : net.deliver ⟨.get, uf, cfg.defaultHeaders.extend H₁, call.timeoutMs⟩ ws.net.2 =
    (.response resp, n₁))
  (hok : resp.status.isError = false)
  (hc : crumbOfResponse ccfg call.service resp = .ok (name, value))
include hv₁ huf hd hok hc

/-- With a crumb fetched, the hook sees the call with the crumb header set; what it lets through
goes out right after the fetch, with its headers over the defaults. -/
theorem clientTransport_call_after_fetch {H₂ : HeaderMap} {r₂ : ρ} {uc : Url}
    (hp : call.method = .post)
    (hv₂ : hook.run (call.withCrumb ⟨name, value, cs.clock + 1⟩) r₁ = (.proceed H₂, r₂))
    (huc : cfg.directory.resolve call.service call.path = .ok uc) :
    ((clientTransport cfg net.logged hook (some ccfg)).send call (cs, r, ws)).2.2.2.net.1 =
      ws.net.1 ++ [⟨.get, uf, cfg.defaultHeaders.extend H₁, call.timeoutMs⟩,
        ⟨.post, uc, cfg.defaultHeaders.extend H₂, call.timeoutMs⟩] := by
  obtain ⟨ws₁, hT, hws₁⟩ := hookWire_fetch hv₁ huf hd hok
  rw [clientTransport_some, crumbLayer_send_of_ne_get hg]
  simp only [crumbSend_of_fetched hg hx hT hc]
  rw [hookWire_delivers hv₂ (.inr hp) huc, hws₁]
  simp [ServiceCall.withCrumb, hp]

/-- With a crumb fetched, a call the hook refuses ends with the hook's error, after the fetch
alone has gone out. -/
theorem clientTransport_call_refused {e : Error} {r₂ : ρ}
    (hv₂ : hook.run (call.withCrumb ⟨name, value, cs.clock + 1⟩) r₁ = (.refuse e, r₂)) :
    let out := (clientTransport cfg net.logged hook (some ccfg)).send call (cs, r, ws)
    out.1 = .answer (.error e) ∧
      out.2.2.2.net.1 = ws.net.1 ++ [⟨.get, uf, cfg.defaultHeaders.extend H₁, call.timeoutMs⟩] := by
  obtain ⟨ws₁, hT, hws₁⟩ := hookWire_fetch hv₁ huf hd hok
  rw [clientTransport_some, crumbLayer_send_of_ne_get hg]
  simp only [crumbSend_of_fetched hg hx hT hc, hookLayer_send_refuse hv₂ ws₁, hws₁, and_self]

end Fetched

end Expired

/-- A kept crumb that has not expired is set on the call; what the hook lets through goes out
alone, with its headers over the defaults. -/
theorem clientTransport_call_kept {e : CrumbEntry} {H : HeaderMap} {r' : ρ} {url : Url}
    (hp : call.method = .post) (hk : cs.cache.lookup call.service = some e)
    (hf : ccfg.expired (cs.clock + 1) (some e) = false)
    (hv : hook.run (call.withCrumb e) r = (.proceed H, r'))
    (hu : cfg.directory.resolve call.service call.path = .ok url) :
    ((clientTransport cfg net.logged hook (some ccfg)).send call (cs, r, ws)).2.2.2.net.1 =
      ws.net.1 ++ [⟨.post, url, cfg.defaultHeaders.extend H, call.timeoutMs⟩] := by
  have hg : call.method ≠ .get := by simp [hp]
  rw [clientTransport_some, crumbLayer_send_of_ne_get hg]
  simp only [crumbSend_of_fresh hg hk hf]
  rw [hookWire_delivers hv (.inr hp) hu]
  simp [ServiceCall.withCrumb, hp]

end Stack

/-! ## The headers a service client sends -/

/-- Every call through a service client with a request hook and a crumb time to live, watched at
the network. The defaults `D` are overridden name by name: a name the map that reaches the wire
has takes exactly its values, any other name keeps `D`'s; setting a header replaces all values of
its name. A GET goes out once with `D` overridden by what the hook made of its headers. A call
that is not a GET and must fetch its crumb shows the hook the fetch, a GET of
`crumbIssuer/api/json` with the call's service and timeout and no headers: a refusal ends the
call with nothing sent and the cache kept; otherwise the fetch goes out first, with `D` overridden
by the hook's headers. With a crumb read from the fetch's answer, the hook sees the call with the
crumb header set; a POST it lets through goes out right after the fetch with `D` overridden by
its headers, and a refusal ends the call with the fetch alone sent. A kept crumb that has not
expired is set on a POST the same way, which then goes out alone. -/
theorem clientTransport_headers (cfg : WireConfig) (net : Network ν) (hook : Hook ρ)
    (ccfg : CrumbConfig) :
    let T := clientTransport cfg net.logged hook (some ccfg)
    let D := cfg.defaultHeaders
    (∀ (M : HeaderMap) (m : String),
      (D.extend M).getAll m = if M.getAll m = [] then D.getAll m else M.getAll m) ∧
    (∀ (H : HeaderMap) (n : String) (v : List UInt8) (m : String),
      (H.insert n v).getAll m = if m = n then [v] else H.getAll m) ∧
    (∀ (call : ServiceCall) (cs : CrumbState) (r : ρ) (ws : WireState (List Request × ν))
        (H : HeaderMap) (r' : ρ) (url : Url),
      call.method = .get → hook.run call r = (.proceed H, r') →
      cfg.directory.resolve call.service call.path = .ok url →
      (T.send call (cs, r, ws)).2.2.2.net.1 =
        ws.net.1 ++ [⟨.get, url, D.extend H, call.timeoutMs⟩]) ∧
    (∀ (call : ServiceCall) (cs : CrumbState) (r : ρ) (ws : WireState (List Request × ν)),
      call.method ≠ .get → ccfg.expired (cs.clock + 1) (cs.cache.lookup call.service) = true →
      let fetch : ServiceCall :=
        ⟨.get, call.service, "crumbIssuer/api/json", HeaderMap.empty, call.timeoutMs⟩
      (∀ (e : Error) (r' : ρ), hook.run fetch r = (.refuse e, r') →
        T.send call (cs, r, ws) = (.answer (.error e), (⟨cs.cache, cs.clock + 1⟩, (r', ws)))) ∧
      (∀ (H₁ : HeaderMap) (r₁ : ρ) (uf : Url), hook.run fetch r = (.proceed H₁, r₁) →
        cfg.directory.resolve call.service "crumbIssuer/api/json" = .ok uf →
        (∃ more, (T.send call (cs, r, ws)).2.2.2.net.1 =
          ws.net.1 ++ ⟨.get, uf, D.extend H₁, call.timeoutMs⟩ :: more) ∧
        ∀ (resp : Response) (n₁ : ν) (name : String) (value : List UInt8),
          net.deliver ⟨.get, uf, D.extend H₁, call.timeoutMs⟩ ws.net.2 = (.response resp, n₁) →
          resp.status.isError = false → crumbOfResponse ccfg call.service resp = .ok (name, value) →
          let withCrumb : ServiceCall := { call with headers := call.headers.insert name value }
          (∀ (H₂ : HeaderMap) (r₂ : ρ) (uc : Url), call.method = .post →
            hook.run withCrumb r₁ = (.proceed H₂, r₂) →
            cfg.directory.resolve call.service call.path = .ok uc →
            (T.send call (cs, r, ws)).2.2.2.net.1 =
              ws.net.1 ++ [⟨.get, uf, D.extend H₁, call.timeoutMs⟩,
                ⟨.post, uc, D.extend H₂, call.timeoutMs⟩]) ∧
          (∀ (e : Error) (r₂ : ρ), hook.run withCrumb r₁ = (.refuse e, r₂) →
            (T.send call (cs, r, ws)).1 = .answer (.error e) ∧
              (T.send call (cs, r, ws)).2.2.2.net.1 =
                ws.net.1 ++ [⟨.get, uf, D.extend H₁, call.timeoutMs⟩]))) ∧
    (∀ (call : ServiceCall) (cs : CrumbState) (r : ρ) (ws : WireState (List Request × ν))
        (e : CrumbEntry) (H : HeaderMap) (r' : ρ) (url : Url),
      call.method = .post → cs.cache.lookup call.service = some e →
      ccfg.expired (cs.clock + 1) (some e) = false →
      hook.run { call with headers := call.headers.insert e.name e.value } r = (.proceed H, r') →
      cfg.directory.resolve call.service call.path = .ok url →
      (T.send call (cs, r, ws)).2.2.2.net.1 =
        ws.net.1 ++ [⟨.post, url, D.extend H, call.timeoutMs⟩]) := by
  intro T D
  refine ⟨HeaderMap.getAll_extend D, HeaderMap.getAll_insert, ?get, ?expired, ?kept⟩
  case get =>
    intro call cs r ws H r' url hg hv hu
    exact clientTransport_get hg hv hu
  case expired =>
    intro call cs r ws hg hx
    refine ⟨fun e r' hv => clientTransport_fetch_refused hg hx hv, ?_⟩
    intro H₁ r₁ uf hv₁ huf
    refine ⟨clientTransport_fetch_first hg hx hv₁ huf, ?_⟩
    intro resp n₁ name value hd hok hc
    exact ⟨fun H₂ r₂ uc hp hv₂ huc =>
        clientTransport_call_after_fetch hg hx hv₁ huf hd hok hc hp hv₂ huc,
      fun e r₂ hv₂ => clientTransport_call_refused hg hx hv₁ huf hd hok hc hv₂⟩
  case kept =>
    intro call cs r ws e H r' url hp hk hf hv hu
    exact clientTransport_call_kept hp hk hf hv hu

/-- A POST through a client whose hook stamps `x-trace` on every call, over a network that answers
every request with the crumb document: the crumb fetch goes out first, then the POST with the
crumb header, each with the default `x-team` under what the hook made of its headers. -/
theorem post_sends_fetch_then_crumbed_call :
    let B : Url :=
      ⟨"http", "", none, some (.ipv6 [0, 0, 0, 0, 0, 0, 0, 1]), none, "/ci/", none, none⟩
    let D : HeaderMap := ⟨[("x-team", Text.Utf8.encode "ci")]⟩
    let doc : Response := ⟨⟨200⟩, HeaderMap.empty,
      Text.Utf8.encode "\x7b\"crumbRequestField\":\"Jenkins-Crumb\",\"crumb\":\"abc\"\x7d"⟩
    let net : Network Unit := ⟨fun _ s => (.response doc, s)⟩
    let hook : Hook Nat :=
      ⟨fun call n => (.proceed (call.headers.insert "x-trace" (Text.Utf8.encode "1")), n + 1)⟩
    let T := clientTransport ⟨⟨none, [("jenkins", B)]⟩, D, SnippetConfig.default⟩ net.logged hook
      (some ⟨0, SnippetConfig.default⟩)
    (T.send (ServiceCall.make .post "jenkins" "job/nightly/enable" 30000)
        (CrumbState.empty, 0, ⟨([], ()), []⟩)).2.2.2.net.1 =
      [⟨.get, { B with path := "/ci/crumbIssuer/api/json" },
          D.extend ⟨[("x-trace", Text.Utf8.encode "1")]⟩, 30000⟩,
        ⟨.post, { B with path := "/ci/job/nightly/enable" },
          D.extend ⟨[("jenkins-crumb", Text.Utf8.encode "abc"), ("x-trace", Text.Utf8.encode "1")]⟩,
          30000⟩] := by
  intro B D doc net hook T
  have huf : (⟨none, [("jenkins", B)]⟩ : Directory).resolve "jenkins" "crumbIssuer/api/json" =
      .ok { B with path := "/ci/crumbIssuer/api/json" } := eq_ok_of_toOption (by decide +kernel)
  have huc : (⟨none, [("jenkins", B)]⟩ : Directory).resolve "jenkins" "job/nightly/enable" =
      .ok { B with path := "/ci/job/nightly/enable" } := eq_ok_of_toOption (by decide +kernel)
  have hc : crumbOfResponse ⟨0, SnippetConfig.default⟩ "jenkins" doc =
      .ok ("jenkins-crumb", Text.Utf8.encode "abc") := eq_ok_of_toOption (by decide +kernel)
  -- the clause of calls that are not GETs and must fetch: the fetch, then the crumbed POST
  have hfetch := ((clientTransport_headers ⟨⟨none, [("jenkins", B)]⟩, D, SnippetConfig.default⟩
    net hook ⟨0, SnippetConfig.default⟩).2.2.2.1 (ServiceCall.make .post "jenkins"
      "job/nightly/enable" 30000) CrumbState.empty 0 ⟨([], ()), []⟩ (by decide) rfl).2
  -- what the hook made of each call's headers, evaluated
  have hH₁ : HeaderMap.empty.insert "x-trace" (Text.Utf8.encode "1") =
      ⟨[("x-trace", Text.Utf8.encode "1")]⟩ := by decide +kernel
  have hH₂ : (HeaderMap.empty.insert "jenkins-crumb" (Text.Utf8.encode "abc")).insert "x-trace"
      (Text.Utf8.encode "1") =
      ⟨[("jenkins-crumb", Text.Utf8.encode "abc"), ("x-trace", Text.Utf8.encode "1")]⟩ := by
    decide +kernel
  rw [((hfetch _ 1 _ rfl huf).2 doc () "jenkins-crumb" (Text.Utf8.encode "abc") rfl rfl hc).1
    _ 2 _ rfl rfl huc]
  simp only [ServiceCall.make, hH₁, hH₂, List.nil_append]

end CiClient.Service
