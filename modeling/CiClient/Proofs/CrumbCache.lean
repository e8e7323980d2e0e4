import CiClient.Service.Crumb
/-!
# The crumb cache

What one call through the crumb layer does, seen from the transport beneath it and from the
cache of crumbs. The transport beneath is watched through `Transport.logged`, which keeps the
list of calls sent to it, so "no other call" is a statement about that list.

For every cache, time and transport: a GET passes through alone and the cache stays; any other
call fetches a crumb first exactly when its service has none kept or the kept one has outlived
the time to live; a fetch that fails, crashes or gives no valid crumb ends the call with that
failure and leaves the cache as it was; a fetched crumb is kept and set on the call; a fresh one
is set on the call.

Over runs (`crumbRun`): the cache stays a map of valid headers fetched no later than now
(`CacheInv`), and a crumb that has expired stays expired until a call for its own service
replaces it, so after a failed fetch the next call for that service fetches again
(`crumb_layer_contract`).
-/

namespace CiClient.Service

open Http Json

variable {σ : Type}

/-- The transport `T` that also keeps the list of calls sent to it. -/
def Transport.logged (T : Transport σ) : Transport (List ServiceCall × σ) where
  send call st := ((T.send call st.2).1, (st.1 ++ [call], (T.send call st.2).2))
  note e st := (st.1, T.note e st.2)

@[simp] theorem Transport.logged_send (T : Transport σ) (call : ServiceCall)
    (log : List ServiceCall) (s : σ) :
    T.logged.send call (log, s) = ((T.send call s).1, (log ++ [call], (T.send call s).2)) := rfl

theorem Transport.logged_send_of_eq {T : Transport σ} {call : ServiceCall} {s s₁ : σ}
    {r : Reply} (log : List ServiceCall) (h : T.send call s = (r, s₁)) :
    T.logged.send call (log, s) = (r, (log ++ [call], s₁)) := by
  simp [h]

/-- The cache and the inner state after a sequence of calls, each sent at its time. -/
def crumbRun (cfg : CrumbConfig) (T : Transport σ) :
    List (Nat × ServiceCall) → List (String × CrumbEntry) → σ →
      List (String × CrumbEntry) × σ
  | [], cache, s => (cache, s)
  | (now, call) :: rest, cache, s =>
    let out := crumbSend cfg T now call cache s
    crumbRun cfg T rest out.2.1 out.2.2

/-! ## The cache as a map -/

section Cache

variable {cache : List (String × CrumbEntry)} {S S' : String} {e : CrumbEntry}

theorem lookup_filter_of_ne (h : S' ≠ S) (cache : List (String × CrumbEntry)) :
    (cache.filter (·.1 != S)).lookup S' = cache.lookup S' := by
  induction cache with
  | nil => rfl
  | cons p rest ih =>
    obtain ⟨k, v⟩ := p
    by_cases hk : k = S
    · -- the dropped pair has another key than the one looked up
      subst hk
      simp [List.lookup_cons, beq_eq_false_iff_ne.2 h, ih]
    · simp [List.lookup_cons, hk, ih]

@[simp] theorem lookup_putCrumb :
    (putCrumb cache S e).lookup S' = if S' = S then some e else cache.lookup S' := by
  rw [putCrumb, List.lookup_append]
  by_cases h : S' = S
  · subst h
    -- every pair the filter keeps has another key
    have hnone : (cache.filter (·.1 != S')).lookup S' = none := by
      rw [List.lookup_eq_none_iff]
      intro p hp
      simp only [List.mem_filter, bne_iff_ne, ne_eq] at hp
      simpa using Ne.symm hp.2
    simp [hnone]
  · simp [lookup_filter_of_ne h, List.lookup_cons, beq_eq_false_iff_ne.2 h, h]

theorem mem_putCrumb {p : String × CrumbEntry} :
    p ∈ putCrumb cache S e ↔ (p ∈ cache ∧ p.1 ≠ S) ∨ p = (S, e) := by
  simp [putCrumb]

theorem nodup_putCrumb (h : (cache.map Prod.fst).Nodup) :
    ((putCrumb cache S e).map Prod.fst).Nodup := by
  have hkept : ((cache.filter (·.1 != S)).map Prod.fst).Nodup :=
    (List.filter_sublist.map Prod.fst).nodup h
  rw [putCrumb, List.map_append, List.nodup_append]
  refine ⟨hkept, by simp, ?_⟩
  intro a ha b hb
  simp only [List.map_cons, List.map_nil, List.mem_singleton] at hb
  obtain ⟨p, hp, rfl⟩ := List.mem_map.1 ha
  simp only [List.mem_filter, bne_iff_ne, ne_eq] at hp
  exact hb ▸ hp.2

end Cache

/-! ## Expiry -/

/-- A kept crumb has expired when the time to live, in nanoseconds, has passed since its fetch. -/
theorem expired_iff {cfg : CrumbConfig} {now : Nat} {kept : Option CrumbEntry} :
    cfg.expired now kept = true ↔
      kept = none ∨ ∃ e, kept = some e ∧ e.fetchedAt + cfg.ttlNs < now := by
  cases kept with
  | none => simp [CrumbConfig.expired]
  | some e => simp [CrumbConfig.expired]; omega

theorem exists_kept_of_not_expired {cfg : CrumbConfig} {now : Nat} {kept : Option CrumbEntry}
    (h : cfg.expired now kept = false) : ∃ e, kept = some e := by
  cases kept with
  | none => simp [CrumbConfig.expired] at h
  | some e => exact ⟨e, rfl⟩

theorem expired_mono {cfg : CrumbConfig} {t now : Nat} {kept : Option CrumbEntry}
    (h : cfg.expired t kept = true) (ht : t ≤ now) : cfg.expired now kept = true := by
  rw [expired_iff] at h ⊢
  rcases h with h | ⟨e, rfl, he⟩
  · exact .inl h
  · exact .inr ⟨e, rfl, by omega⟩

/-! ## Reading a crumb response -/

section Response

variable {cfg : CrumbConfig} {S : String} {resp : Response}

/-- The four ends of reading a crumb response: the body does not read as a crumb document, its
field is no header name, its crumb is no header value, or it gives the crumb header. -/
theorem crumbOfResponse_cases (cfg : CrumbConfig) (S : String) (resp : Response) :
    (∃ je, decodeWith readCrumb resp.body = .error je ∧
      crumbOfResponse cfg S resp = .error (Error.decode resp.status .get S crumbPath
        (requestId resp.headers) (bodySnippet resp.body cfg.snippet) je.message)) ∨
    (∃ field crumb, decodeWith readCrumb resp.body = .ok (field, crumb) ∧
      headerName? field = none ∧ crumbOfResponse cfg S resp =
        .error (Error.invalidConfig "invalid crumb header name"
          (some "invalid HTTP header name"))) ∨
    (∃ field crumb name, decodeWith readCrumb resp.body = .ok (field, crumb) ∧
      headerName? field = some name ∧ isValidValue (Text.Utf8.encode crumb) = false ∧
      crumbOfResponse cfg S resp =
        .error (Error.invalidConfig "invalid crumb header value"
          (some "failed to parse header value"))) ∨
    (∃ field crumb name, decodeWith readCrumb resp.body = .ok (field, crumb) ∧
      headerName? field = some name ∧ isValidValue (Text.Utf8.encode crumb) = true ∧
      crumbOfResponse cfg S resp = .ok (name, Text.Utf8.encode crumb)) := by
  unfold crumbOfResponse
  cases hd : decodeWith readCrumb resp.body with
  | error je =>
    refine .inl ⟨je, rfl, ?_⟩
    simp [bind, Except.bind, throw, throwThe, MonadExceptOf.throw]
  | ok p =>
    obtain ⟨field, crumb⟩ := p
    cases hn : headerName? field with
    | none =>
      refine .inr (.inl ⟨field, crumb, rfl, hn, ?_⟩)
      simp [hn, bind, Except.bind, throw, throwThe, MonadExceptOf.throw, pure, Except.pure]
    | some name =>
      cases hv : isValidValue (Text.Utf8.encode crumb)
      · refine .inr (.inr (.inl ⟨field, crumb, name, rfl, hn, hv, ?_⟩))
        simp [hn, hv, bind, Except.bind, throw, throwThe, MonadExceptOf.throw, pure, Except.pure]
      · refine .inr (.inr (.inr ⟨field, crumb, name, rfl, hn, hv, ?_⟩))
        simp [hn, hv, bind, Except.bind, pure, Except.pure]

/-- A response gives a crumb exactly when its body reads as a crumb document whose field is a
header name and whose crumb's octets are a header value. -/
theorem crumbOfResponse_eq_ok_iff {name : String} {value : List UInt8} :
    crumbOfResponse cfg S resp = .ok (name, value) ↔
      ∃ field crumb, decodeWith readCrumb resp.body = .ok (field, crumb) ∧
        headerName? field = some name ∧ isValidValue (Text.Utf8.encode crumb) = true ∧
        value = Text.Utf8.encode crumb := by
  constructor
  · intro h
    rcases crumbOfResponse_cases cfg S resp with
      ⟨_, _, he⟩ | ⟨_, _, _, _, he⟩ | ⟨_, _, _, _, _, _, he⟩ |
      ⟨field, crumb, n, hd, hn, hv, he⟩
    all_goals rw [he] at h
    · cases h
    · cases h
    · cases h
    · cases h
      exact ⟨field, crumb, hd, hn, hv, rfl⟩
  · rintro ⟨field, crumb, hd, hn, hv, rfl⟩
    simp [crumbOfResponse, hd, hn, hv, bind, Except.bind, pure, Except.pure]

/-- A response that gives no crumb gives a decoding error or a configuration error. -/
theorem crumbOfResponse_error_kind {err : Error} (h : crumbOfResponse cfg S resp = .error err) :
    err.kind = .decode ∨ err.kind = .invalidConfig := by
  rcases crumbOfResponse_cases cfg S resp with
    ⟨_, _, he⟩ | ⟨_, _, _, _, he⟩ | ⟨_, _, _, _, _, _, he⟩ | ⟨_, _, _, _, _, _, he⟩
  all_goals rw [he] at h; cases h
  · exact .inl rfl
  · exact .inr rfl
  · exact .inr rfl

end Response

/-! ## One call -/

section Step

variable {cfg : CrumbConfig} {U : Transport σ} {now : Nat} {call : ServiceCall}
  {cache : List (String × CrumbEntry)} {s s₁ : σ}

theorem crumbSend_of_get (h : call.method = .get) :
    crumbSend cfg U now call cache s = ((U.send call s).1, cache, (U.send call s).2) := by
  rcases hT : U.send call s with ⟨r, s₁⟩
  simp [crumbSend, h, hT]

/-- Any other call, with a crumb kept that has not expired, carries that crumb. -/
theorem crumbSend_of_fresh {e : CrumbEntry} (h : call.method ≠ .get)
    (hk : cache.lookup call.service = some e) (hf : cfg.expired now (some e) = false) :
    crumbSend cfg U now call cache s =
      ((U.send (call.withCrumb e) s).1, cache, (U.send (call.withCrumb e) s).2) := by
  rcases hT : U.send (call.withCrumb e) s with ⟨r, s₁⟩
  simp [crumbSend, h, hk, hf, hT]

section Expired

variable (h : call.method ≠ .get) (hx : cfg.expired now (cache.lookup call.service) = true)
include h hx

theorem crumbSend_of_fetch_crash {m : String} (hT : U.send call.crumbFetch s = (.crash m, s₁)) :
    crumbSend cfg U now call cache s = (.crash m, cache, s₁) := by
  simp [crumbSend, h, hx, hT]

theorem crumbSend_of_fetch_error {err : Error}
    (hT : U.send call.crumbFetch s = (.answer (.error err), s₁)) :
    crumbSend cfg U now call cache s = (.answer (.error err), cache, s₁) := by
  simp [crumbSend, h, hx, hT]

theorem crumbSend_of_bad_crumb {resp : Response} {err : Error}
    (hT : U.send call.crumbFetch s = (.answer (.ok resp), s₁))
    (hc : crumbOfResponse cfg call.service resp = .error err) :
    crumbSend cfg U now call cache s = (.answer (.error err), cache, s₁) := by
  simp [crumbSend, h, hx, hT, hc]

theorem crumbSend_of_fetched {resp : Response} {name : String} {value : List UInt8}
    (hT : U.send call.crumbFetch s = (.answer (.ok resp), s₁))
    (hc : crumbOfResponse cfg call.service resp = .ok (name, value)) :
    crumbSend cfg U now call cache s =
      ((U.send (call.withCrumb ⟨name, value, now⟩) s₁).1,
        putCrumb cache call.service ⟨name, value, now⟩,
        (U.send (call.withCrumb ⟨name, value, now⟩) s₁).2) := by
  rcases hR : U.send (call.withCrumb ⟨name, value, now⟩) s₁ with ⟨r, s₂⟩
  simp [crumbSend, h, hx, hT, hc, hR]

/-- Everything a call does once its crumb has to be fetched: the fetch's failure ends it with the
cache as it was, or the fetched crumb is kept and the call sent with it. -/
theorem crumbSend_of_expired :
    (∃ m, (U.send call.crumbFetch s).1 = .crash m ∧
      crumbSend cfg U now call cache s = (.crash m, cache, (U.send call.crumbFetch s).2)) ∨
    (∃ err, crumbSend cfg U now call cache s =
      (.answer (.error err), cache, (U.send call.crumbFetch s).2)) ∨
    (∃ resp name value, (U.send call.crumbFetch s).1 = .answer (.ok resp) ∧
      crumbOfResponse cfg call.service resp = .ok (name, value) ∧
      crumbSend cfg U now call cache s =
        ((U.send (call.withCrumb ⟨name, value, now⟩) (U.send call.crumbFetch s).2).1,
          putCrumb cache call.service ⟨name, value, now⟩,
          (U.send (call.withCrumb ⟨name, value, now⟩) (U.send call.crumbFetch s).2).2)) := by
  rcases hT : U.send call.crumbFetch s with ⟨r, s₁⟩
  cases r with
  | crash m => exact .inl ⟨m, rfl, crumbSend_of_fetch_crash h hx hT⟩
  | answer res =>
    cases res with
    | error err => exact .inr (.inl ⟨err, crumbSend_of_fetch_error h hx hT⟩)
    | ok resp =>
      cases hc : crumbOfResponse cfg call.service resp with
      | error err => exact .inr (.inl ⟨err, crumbSend_of_bad_crumb h hx hT hc⟩)
      | ok p => exact .inr (.inr ⟨resp, p.1, p.2, rfl, hc, crumbSend_of_fetched h hx hT hc⟩)

end Expired

/-- A call leaves the cache as it was, or it is not a GET and keeps the crumb it fetched, with a
valid header name and value, at the call's time. -/
theorem crumbSend_cache_cases (cfg : CrumbConfig) (U : Transport σ) (now : Nat)
    (call : ServiceCall) (cache : List (String × CrumbEntry)) (s : σ) :
    (crumbSend cfg U now call cache s).2.1 = cache ∨
    ∃ name value, call.method ≠ .get ∧ (∃ field, headerName? field = some name) ∧
      isValidValue value = true ∧
      (crumbSend cfg U now call cache s).2.1 =
        putCrumb cache call.service ⟨name, value, now⟩ := by
  by_cases hg : call.method = .get
  · exact .inl (by rw [crumbSend_of_get hg])
  cases hx : cfg.expired now (cache.lookup call.service) with
  | true =>
    rcases crumbSend_of_expired hg hx (U := U) (s := s) with
      ⟨m, -, he⟩ | ⟨err, he⟩ | ⟨resp, name, value, -, hc, he⟩
    · exact .inl (by rw [he])
    · exact .inl (by rw [he])
    · obtain ⟨field, crumb, -, hn, hv, rfl⟩ := crumbOfResponse_eq_ok_iff.1 hc
      exact .inr ⟨name, _, hg, ⟨field, hn⟩, hv, by rw [he]⟩
  | false =>
    obtain ⟨e, hk⟩ := exists_kept_of_not_expired hx
    rw [hk] at hx
    exact .inl (by rw [crumbSend_of_fresh hg hk hx])

/-- A GET, or a call for another service, leaves the crumb kept for `S` as it was. -/
theorem lookup_crumbSend_of_ne {S : String} (h : call.method = .get ∨ call.service ≠ S) :
    (crumbSend cfg U now call cache s).2.1.lookup S = cache.lookup S := by
  rcases crumbSend_cache_cases cfg U now call cache s with he | ⟨name, value, hg, -, -, he⟩
  · rw [he]
  · have hS : S ≠ call.service := by
      rcases h with h | h
      · exact absurd h hg
      · exact Ne.symm h
    rw [he, lookup_putCrumb, if_neg hS]

/-- A call that is not a GET starts with the crumb fetch exactly when its service's crumb has
expired: a call that carries a crumb is not a GET, so it is never the fetch. -/
theorem fetch_first_iff {T : Transport σ} {log : List ServiceCall} (h : call.method ≠ .get) :
    (∃ rest, (crumbSend cfg T.logged now call cache (log, s)).2.2.1 =
        log ++ call.crumbFetch :: rest) ↔
      cfg.expired now (cache.lookup call.service) = true := by
  constructor
  · rintro ⟨rest, hlog⟩
    cases hx : cfg.expired now (cache.lookup call.service) with
    | true => rfl
    | false =>
      obtain ⟨e, hk⟩ := exists_kept_of_not_expired hx
      rw [hk] at hx
      rw [crumbSend_of_fresh h hk hx] at hlog
      have hcall : call.withCrumb e = call.crumbFetch ∧ rest = [] := by simpa using hlog
      have hmethod := congrArg ServiceCall.method hcall.1
      exact absurd hmethod h
  · intro hx
    have hfetch := Transport.logged_send_of_eq log
      (show T.send call.crumbFetch s = ((T.send call.crumbFetch s).1, (T.send call.crumbFetch s).2)
        from rfl)
    rcases crumbSend_of_expired h hx (U := T.logged) (s := (log, s)) with
      ⟨m, -, he⟩ | ⟨err, he⟩ | ⟨resp, name, value, -, -, he⟩
    · exact ⟨[], by rw [he, hfetch]⟩
    · exact ⟨[], by rw [he, hfetch]⟩
    · exact ⟨[call.withCrumb ⟨name, value, now⟩], by rw [he, hfetch]; simp⟩

end Step

/-! ## Runs -/

/-- What the cache holds by time `u`: one crumb per service, each fetched no later than `u`, with a
header name and value that a call can carry. -/
structure CacheInv (u : Nat) (cache : List (String × CrumbEntry)) : Prop where
  nodup : (cache.map Prod.fst).Nodup
  fetched : ∀ p ∈ cache, p.2.fetchedAt ≤ u
  header : ∀ p ∈ cache,
    (∃ field, headerName? field = some p.2.name) ∧ isValidValue p.2.value = true

section Run

variable {cfg : CrumbConfig} {U : Transport σ} {u : Nat} {cache : List (String × CrumbEntry)}

theorem cacheInv_nil (u : Nat) : CacheInv u [] := ⟨List.nodup_nil, by simp, by simp⟩

theorem CacheInv.putCrumb {S name : String} {value : List UInt8} {now : Nat}
    (hinv : CacheInv u cache)
    (hnow : now ≤ u) (hname : ∃ field, headerName? field = some name)
    (hvalue : isValidValue value = true) :
    CacheInv u (Service.putCrumb cache S ⟨name, value, now⟩) where
  nodup := nodup_putCrumb hinv.nodup
  fetched p hp := by
    rcases mem_putCrumb.1 hp with ⟨hp, -⟩ | rfl
    · exact hinv.fetched p hp
    · exact hnow
  header p hp := by
    rcases mem_putCrumb.1 hp with ⟨hp, -⟩ | rfl
    · exact hinv.header p hp
    · exact ⟨hname, hvalue⟩

theorem cacheInv_crumbSend {now : Nat} {call : ServiceCall} {s : σ} (hinv : CacheInv u cache)
    (hnow : now ≤ u) : CacheInv u (crumbSend cfg U now call cache s).2.1 := by
  rcases crumbSend_cache_cases cfg U now call cache s with
    he | ⟨name, value, -, hname, hvalue, he⟩
  · rw [he]
    exact hinv
  · rw [he]
    exact hinv.putCrumb hnow hname hvalue

/-- A run of calls at times no later than `u` keeps the invariant at `u`. -/
theorem cacheInv_crumbRun (steps : List (Nat × ServiceCall)) {s : σ} (hinv : CacheInv u cache)
    (hsteps : ∀ p ∈ steps, p.1 ≤ u) : CacheInv u (crumbRun cfg U steps cache s).1 := by
  induction steps generalizing cache s with
  | nil => exact hinv
  | cons p rest ih =>
    obtain ⟨now, call⟩ := p
    have hnow : now ≤ u := hsteps (now, call) (List.mem_cons_self ..)
    exact ih (cacheInv_crumbSend hinv hnow) fun q hq => hsteps q (List.mem_cons_of_mem _ hq)

/-- A run of GETs and calls for other services leaves the crumb kept for `S` as it was. -/
theorem lookup_crumbRun_of_ne (cfg : CrumbConfig) (U : Transport σ) {S : String}
    (steps : List (Nat × ServiceCall)) (cache : List (String × CrumbEntry)) (s : σ)
    (hsteps : ∀ p ∈ steps, p.2.method = .get ∨ p.2.service ≠ S) :
    (crumbRun cfg U steps cache s).1.lookup S = cache.lookup S := by
  induction steps generalizing cache s with
  | nil => rfl
  | cons p rest ih =>
    obtain ⟨now, call⟩ := p
    have hcall := hsteps (now, call) (List.mem_cons_self ..)
    calc (crumbRun cfg U ((now, call) :: rest) cache s).1.lookup S
        = (crumbSend cfg U now call cache s).2.1.lookup S :=
          ih _ _ fun q hq => hsteps q (List.mem_cons_of_mem _ hq)
      _ = cache.lookup S := lookup_crumbSend_of_ne hcall

end Run

/-! ## The contract of the crumb layer -/

/-- Every call through the crumb layer, at any time, over any cache and any transport beneath:
a GET passes through alone; any other call fetches the crumb document of its service first exactly
when its crumb is missing or past its time to live; a fetch that crashes, fails or gives no valid
crumb ends the call with that failure, sends nothing else and keeps the cache; a fetched crumb
is kept for its service and set on the call; a fresh one is set on the call. Over runs at times no
later than `u` from the empty cache, the cache stays a map of valid headers fetched by `u`; and a
crumb past its time to live stays so, whatever GETs and calls for other services come between,
so the next call for its service fetches again. -/
theorem crumb_layer_contract (cfg : CrumbConfig) (T : Transport σ) :
    (∀ call : ServiceCall, call.crumbFetch =
      ⟨.get, call.service, "crumbIssuer/api/json", HeaderMap.empty, call.timeoutMs⟩) ∧
    (∀ now call cache log s, call.method = .get →
      crumbSend cfg T.logged now call cache (log, s) =
        ((T.send call s).1, cache, (log ++ [call], (T.send call s).2))) ∧
    (∀ now call cache log s, call.method ≠ .get →
      ((∃ rest, (crumbSend cfg T.logged now call cache (log, s)).2.2.1 =
          log ++ call.crumbFetch :: rest) ↔
        cache.lookup call.service = none ∨
          ∃ e : CrumbEntry, cache.lookup call.service = some e ∧
            e.fetchedAt + cfg.ttlNs < now)) ∧
    (∀ now call cache log s s₁, call.method ≠ .get →
      cfg.expired now (cache.lookup call.service) = true →
      (∀ m, T.send call.crumbFetch s = (.crash m, s₁) →
        crumbSend cfg T.logged now call cache (log, s) =
          (.crash m, cache, (log ++ [call.crumbFetch], s₁))) ∧
      (∀ err, T.send call.crumbFetch s = (.answer (.error err), s₁) →
        crumbSend cfg T.logged now call cache (log, s) =
          (.answer (.error err), cache, (log ++ [call.crumbFetch], s₁))) ∧
      (∀ resp, T.send call.crumbFetch s = (.answer (.ok resp), s₁) →
        (¬ ∃ field value name, decodeWith readCrumb resp.body = .ok (field, value) ∧
          headerName? field = some name ∧ isValidValue (Text.Utf8.encode value) = true) →
        ∃ err : Error, crumbSend cfg T.logged now call cache (log, s) =
            (.answer (.error err), cache, (log ++ [call.crumbFetch], s₁)) ∧
          (err.kind = .decode ∨ err.kind = .invalidConfig))) ∧
    (∀ now call cache log s s₁ resp field value name, call.method ≠ .get →
      cfg.expired now (cache.lookup call.service) = true →
      T.send call.crumbFetch s = (.answer (.ok resp), s₁) →
      decodeWith readCrumb resp.body = .ok (field, value) → headerName? field = some name →
      isValidValue (Text.Utf8.encode value) = true →
      let sent := call.withCrumb ⟨name, Text.Utf8.encode value, now⟩
      ∃ cache', crumbSend cfg T.logged now call cache (log, s) =
          ((T.send sent s₁).1, cache', (log ++ [call.crumbFetch, sent], (T.send sent s₁).2)) ∧
        ∀ S, cache'.lookup S =
          if S = call.service then some ⟨name, Text.Utf8.encode value, now⟩
          else cache.lookup S) ∧
    (∀ now call cache log s (e : CrumbEntry), call.method ≠ .get →
      cache.lookup call.service = some e → now ≤ e.fetchedAt + cfg.ttlNs →
      crumbSend cfg T.logged now call cache (log, s) =
        ((T.send (call.withCrumb e) s).1, cache,
          (log ++ [call.withCrumb e], (T.send (call.withCrumb e) s).2))) ∧
    (∀ steps s u, (∀ p ∈ steps, p.1 ≤ u) → CacheInv u (crumbRun cfg T steps [] s).1) ∧
    (∀ steps cache log s t now call, call.method ≠ .get →
      cfg.expired t (cache.lookup call.service) = true → t ≤ now →
      (∀ p ∈ steps, p.2.method = .get ∨ p.2.service ≠ call.service) →
      let mid := crumbRun cfg T.logged steps cache (log, s)
      ∃ rest, (crumbSend cfg T.logged now call mid.1 mid.2).2.2.1 =
        mid.2.1 ++ call.crumbFetch :: rest) := by
  refine ⟨fun _ => rfl, ?get, ?fetch, ?failed, ?fetched, ?fresh, ?inv, ?again⟩
  case get =>
    intro now call cache log s h
    rw [crumbSend_of_get h, Transport.logged_send]
  case fetch =>
    intro now call cache log s h
    rw [fetch_first_iff h, expired_iff]
  case failed =>
    intro now call cache log s s₁ h hx
    refine ⟨fun m hT => ?_, fun err hT => ?_, fun resp hT hbad => ?_⟩
    · exact crumbSend_of_fetch_crash h hx (Transport.logged_send_of_eq log hT)
    · exact crumbSend_of_fetch_error h hx (Transport.logged_send_of_eq log hT)
    · cases hc : crumbOfResponse cfg call.service resp with
      | ok p =>
        obtain ⟨field, crumb, hd, hn, hv, -⟩ := crumbOfResponse_eq_ok_iff.1 hc
        exact absurd ⟨field, crumb, p.1, hd, hn, hv⟩ hbad
      | error err =>
        exact ⟨err, crumbSend_of_bad_crumb h hx (Transport.logged_send_of_eq log hT) hc,
          crumbOfResponse_error_kind hc⟩
  case fetched =>
    intro now call cache log s s₁ resp field value name h hx hT hd hn hv
    have hc : crumbOfResponse cfg call.service resp = .ok (name, Text.Utf8.encode value) :=
      crumbOfResponse_eq_ok_iff.2 ⟨field, value, hd, hn, hv, rfl⟩
    refine ⟨_, ?_, fun S => lookup_putCrumb⟩
    rw [crumbSend_of_fetched h hx (Transport.logged_send_of_eq log hT) hc]
    simp
  case fresh =>
    intro now call cache log s e h hk hle
    have hf : cfg.expired now (some e) = false := by
      simp only [CrumbConfig.expired, decide_eq_false_iff_not]
      omega
    rw [crumbSend_of_fresh h hk hf, Transport.logged_send]
  case inv =>
    intro steps s u hsteps
    exact cacheInv_crumbRun steps (cacheInv_nil u) hsteps
  case again =>
    intro steps cache log s t now call h hx ht hsteps
    -- the crumb kept for the call's service is the one kept before the run
    have hkept := lookup_crumbRun_of_ne cfg T.logged steps cache (log, s) hsteps
    exact (fetch_first_iff h).2 (hkept ▸ expired_mono hx ht)

/-- A POST with no crumb kept, over a service that answers every call with the crumb document
naming `Jenkins-Crumb`: the crumb is fetched, kept under the lower-case header name and set on
the POST, which goes out right after the fetch. -/
theorem crumb_fetched_for_post :
    let cfg : CrumbConfig := ⟨0, SnippetConfig.default⟩
    let doc : Response := ⟨⟨200⟩, HeaderMap.empty,
      Text.Utf8.encode "\x7b\"crumbRequestField\":\"Jenkins-Crumb\",\"crumb\":\"abc\"\x7d"⟩
    let T : Transport Unit := ⟨fun _ _ => (.answer (.ok doc), ()), fun _ _ => ()⟩
    let call := ServiceCall.make .post "jenkins" "job/nightly/enable" 30000
    let entry : CrumbEntry := ⟨"jenkins-crumb", Text.Utf8.encode "abc", 1⟩
    ∃ cache', crumbSend cfg T.logged 1 call [] ([], ()) =
        (.answer (.ok doc), cache', ([call.crumbFetch, call.withCrumb entry], ())) ∧
      cache'.lookup "jenkins" = some entry := by
  intro cfg doc T call entry
  have hd : decodeWith readCrumb doc.body = .ok ("Jenkins-Crumb", "abc") :=
    eq_ok_of_toOption (by decide +kernel)
  obtain ⟨cache', hsend, hlookup⟩ := (crumb_layer_contract cfg T).2.2.2.2.1 1 call [] [] () ()
    doc "Jenkins-Crumb" "abc" "jenkins-crumb" (by decide) rfl rfl hd (by decide +kernel)
    (by decide +kernel)
  exact ⟨cache', hsend, (hlookup "jenkins").trans (if_pos rfl)⟩

end CiClient.Service
