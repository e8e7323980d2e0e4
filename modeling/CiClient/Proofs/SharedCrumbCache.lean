import CiClient.Proofs.CrumbCache
import CiClient.Service.SharedCrumb
/-!
# Concurrent callers of one crumb cache

What the callers of one crumb layer, interleaving their atomic steps in any order, can make the
transport beneath receive.

A step is one of six moves (`Moves`, equivalent to `SharedCrumbs.step`). A crumb fetch is issued
only by a caller that took the free lock and found its service's crumb missing or expired
(`fetch_only_when_expired`). A caller alone does what the crumb layer does for its call
(`run_alone`).

Over runs from the empty cache in which every fetch gives a crumb and no two times are further
apart than the time to live, an invariant (`Inv`) holds: the lock is held exactly by the caller
waiting for its fetch, each service has at most one crumb fetched (kept in the cache, or awaited
by the lock's holder), and every call sent beneath carries what the cache keeps for its service
(`shared_crumb_fetched_once`).
-/

namespace CiClient.Service

open Http

/-- A reply gives a crumb exactly when it is a response the crumb reader accepts. -/
theorem crumbOfReply_eq_some {cfg : CrumbConfig} {S name : String} {value : List UInt8}
    {reply : Reply} :
    crumbOfReply cfg S reply = some (name, value) ↔
      ∃ resp, reply = .answer (.ok resp) ∧ crumbOfResponse cfg S resp = .ok (name, value) := by
  constructor
  · intro hr
    cases reply with
    | crash m => simp [crumbOfReply] at hr
    | answer res =>
      cases res with
      | error err => simp [crumbOfReply] at hr
      | ok resp =>
        refine ⟨resp, rfl, ?_⟩
        cases hcr : crumbOfResponse cfg S resp with
        | ok q => simpa [crumbOfReply, hcr, Except.toOption] using hr
        | error err => simp [crumbOfReply, hcr, Except.toOption] at hr
  · rintro ⟨resp, rfl, hcr⟩
    simp [crumbOfReply, hcr, Except.toOption]

namespace SharedCrumbs

variable {cfg : CrumbConfig} {calls : List ServiceCall}

@[simp] theorem setPhase_phase (st : SharedCrumbs) (i j : Nat) (p : Phase) :
    (st.setPhase i p).phase j = if j = i then p else st.phase j := rfl

@[simp] theorem setPhase_cache (st : SharedCrumbs) (i : Nat) (p : Phase) :
    (st.setPhase i p).cache = st.cache := rfl

@[simp] theorem setPhase_holder (st : SharedCrumbs) (i : Nat) (p : Phase) :
    (st.setPhase i p).holder = st.holder := rfl

@[simp] theorem setPhase_sent (st : SharedCrumbs) (i : Nat) (p : Phase) :
    (st.setPhase i p).sent = st.sent := rfl

/-! ## The moves -/

/-- The moves of the callers of `calls`, one for each way a step can go. -/
inductive Moves (cfg : CrumbConfig) (calls : List ServiceCall) :
    SharedCrumbs → CrumbAction → SharedCrumbs → Prop
  /-- a GET passes the layer without the lock -/
  | enterGet {st : SharedCrumbs} {i now : Nat} {call : ServiceCall} (hc : calls[i]? = some call)
      (hs : st.phase i = .start) (hg : call.method = .get) :
      Moves cfg calls st (.enter i now) (st.setPhase i (.ready call))
  /-- the lock is free and the crumb missing or expired: take the lock and fetch -/
  | enterFetch {st : SharedCrumbs} {i now : Nat} {call : ServiceCall}
      (hc : calls[i]? = some call) (hs : st.phase i = .start) (hg : call.method ≠ .get)
      (hl : st.holder = none) (hx : cfg.expired now (st.cache.lookup call.service) = true) :
      Moves cfg calls st (.enter i now)
        { st.setPhase i .fetching with
          holder := some i
          sent := st.sent ++ [.fetch call.crumbFetch] }
  /-- the lock is free and the crumb kept: set it on the call -/
  | enterKept {st : SharedCrumbs} {i now : Nat} {call : ServiceCall} {e : CrumbEntry}
      (hc : calls[i]? = some call) (hs : st.phase i = .start) (hg : call.method ≠ .get)
      (hl : st.holder = none) (hk : st.cache.lookup call.service = some e)
      (hf : cfg.expired now (some e) = false) :
      Moves cfg calls st (.enter i now) (st.setPhase i (.ready (call.withCrumb e)))
  /-- the fetch gives a crumb: keep it, set it on the call, let the lock go -/
  | answerCrumb {st : SharedCrumbs} {i now : Nat} {reply : Reply} {call : ServiceCall}
      {name : String} {value : List UInt8} (hc : calls[i]? = some call)
      (hs : st.phase i = .fetching)
      (hr : crumbOfReply cfg call.service reply = some (name, value)) :
      Moves cfg calls st (.answer i reply now)
        { st.setPhase i (.ready (call.withCrumb ⟨name, value, now⟩)) with
          holder := none
          cache := putCrumb st.cache call.service ⟨name, value, now⟩ }
  /-- the fetch gives no crumb: the caller is done, the lock let go -/
  | answerFail {st : SharedCrumbs} {i now : Nat} {reply : Reply} {call : ServiceCall}
      (hc : calls[i]? = some call) (hs : st.phase i = .fetching)
      (hr : crumbOfReply cfg call.service reply = none) :
      Moves cfg calls st (.answer i reply now) { st.setPhase i (.done none) with holder := none }
  /-- the call goes beneath -/
  | forward {st : SharedCrumbs} {i : Nat} {call : ServiceCall} (hs : st.phase i = .ready call) :
      Moves cfg calls st (.forward i)
        { st.setPhase i (.done (some call)) with sent := st.sent ++ [.forward call] }

theorem moves_of_step {st st' : SharedCrumbs} {a : CrumbAction}
    (h : st.step cfg calls a = some st') : Moves cfg calls st a st' := by
  cases a with
  | enter i now =>
    simp only [step] at h
    split at h
    · next call hc hs =>
      by_cases hg : call.method = .get
      · simp only [hg, if_true, Option.some.injEq] at h
        exact h ▸ .enterGet hc hs hg
      · cases hl : st.holder with
        | some j => simp [hg, hl] at h
        | none =>
          cases hx : cfg.expired now (st.cache.lookup call.service) with
          | true =>
            simp only [hg, hl, hx, if_false, if_true, Option.isSome_none, Bool.false_eq_true,
              Option.some.injEq] at h
            exact h ▸ .enterFetch hc hs hg hl hx
          | false =>
            obtain ⟨e, hk⟩ := exists_kept_of_not_expired hx
            rw [hk] at hx
            simp only [hg, hl, hk, hx, if_false, Option.isSome_none, Bool.false_eq_true,
              Option.some.injEq] at h
            exact h ▸ .enterKept hc hs hg hl hk hx
    · cases h
  | answer i reply now =>
    simp only [step] at h
    split at h
    · next call hc hs =>
      cases hr : crumbOfReply cfg call.service reply with
      | some p =>
        obtain ⟨name, value⟩ := p
        simp only [hr, Option.some.injEq] at h
        exact h ▸ .answerCrumb hc hs hr
      | none =>
        simp only [hr, Option.some.injEq] at h
        exact h ▸ .answerFail hc hs hr
    · cases h
  | forward i =>
    simp only [step] at h
    split at h
    · next call hs =>
      simp only [Option.some.injEq] at h
      exact h ▸ .forward hs
    · cases h

theorem step_of_moves {st st' : SharedCrumbs} {a : CrumbAction} (h : Moves cfg calls st a st') :
    st.step cfg calls a = some st' := by
  cases h with
  | enterGet hc hs hg => simp [step, hc, hs, hg]
  | enterFetch hc hs hg hl hx => simp [step, hc, hs, hg, hl, hx]
  | enterKept hc hs hg hl hk hf => simp [step, hc, hs, hg, hl, hk, hf]
  | answerCrumb hc hs hr => simp [step, hc, hs, hr]
  | answerFail hc hs hr => simp [step, hc, hs, hr]
  | forward hs => simp [step, hs]

theorem step_eq_some_iff {st st' : SharedCrumbs} {a : CrumbAction} :
    st.step cfg calls a = some st' ↔ Moves cfg calls st a st' :=
  ⟨moves_of_step, step_of_moves⟩

/-- A crumb fetch goes beneath only from a caller that took the free lock and found its service's
crumb missing or expired at that moment; it keeps the lock while the fetch is out. -/
theorem fetch_only_when_expired {st st' : SharedCrumbs} {a : CrumbAction} {f : ServiceCall}
    (h : st.step cfg calls a = some st') (hf : st'.sent = st.sent ++ [.fetch f]) :
    ∃ i now call, a = .enter i now ∧ calls[i]? = some call ∧ call.method ≠ .get ∧
      st.holder = none ∧ cfg.expired now (st.cache.lookup call.service) = true ∧
      f = call.crumbFetch ∧ st'.holder = some i := by
  cases moves_of_step h with
  | enterFetch hc hs hg hl hx =>
    have hcall := (List.append_cancel_left hf).symm
    simp only [List.cons.injEq, Sent.fetch.injEq, and_true] at hcall
    exact ⟨_, _, _, rfl, hc, hg, hl, hx, hcall, rfl⟩
  | forward hs =>
    have hcall := List.append_cancel_left hf
    simp at hcall
  | _ => simp at hf

/-! ## Runs in which every fetch gives a crumb, within the time to live -/

/-- Caller `i` has entered the layer. -/
def Entered (st : SharedCrumbs) (i : Nat) : Prop := st.phase i ≠ .start

/-- The call `c` that a caller of `call` sends beneath carries what the cache keeps: a GET is
`call` itself, any other call is `call` with its service's kept crumb set. -/
def Carries (st : SharedCrumbs) (call c : ServiceCall) : Prop :=
  (call.method = .get ∧ c = call) ∨
    (call.method ≠ .get ∧ ∃ e, st.cache.lookup call.service = some e ∧ c = call.withCrumb e)

/-- The service of the caller holding the lock. -/
def holderService (calls : List ServiceCall) (st : SharedCrumbs) : Option String :=
  st.holder.bind fun i => calls[i]?.map (·.service)

end SharedCrumbs

/-- How many crumb fetches for `S` a list of what went beneath holds. -/
def fetchesFor (S : String) (sent : List Sent) : Nat :=
  sent.countP fun
    | .fetch c => c.service == S
    | .forward _ => false

theorem fetchesFor_append_fetch (S : String) (sent : List Sent) (f : ServiceCall) :
    fetchesFor S (sent ++ [.fetch f]) = fetchesFor S sent + if f.service = S then 1 else 0 := by
  by_cases h : f.service = S <;> simp [fetchesFor, h]

theorem fetchesFor_append_forward (S : String) (sent : List Sent) (c : ServiceCall) :
    fetchesFor S (sent ++ [.forward c]) = fetchesFor S sent := by
  simp [fetchesFor]

namespace CrumbAction

/-- The time a step reads, for the steps that read the clock. -/
def time? : CrumbAction → Option Nat
  | .enter _ now => some now
  | .answer _ _ now => some now
  | .forward _ => none

/-- The step reads the clock, if at all, no earlier than `t₀` and at most a time to live later. -/
def Within (cfg : CrumbConfig) (t₀ : Nat) (a : CrumbAction) : Prop :=
  ∀ t ∈ a.time?, t₀ ≤ t ∧ t ≤ t₀ + cfg.ttlNs

/-- The step is no fetch that fails: a reply that comes back gives a crumb. -/
def Succeeds (cfg : CrumbConfig) (calls : List ServiceCall) : CrumbAction → Prop
  | .answer i reply _ => ∀ call ∈ calls[i]?, (crumbOfReply cfg call.service reply).isSome
  | _ => True

end CrumbAction

namespace SharedCrumbs

variable {cfg : CrumbConfig} {calls : List ServiceCall}

/-- What holds of every state that callers of `calls` reach from the empty cache, when every
fetch gives a crumb and every time lies within a time to live after `t₀`. -/
structure Inv (calls : List ServiceCall) (t₀ : Nat) (st : SharedCrumbs) : Prop where
  /-- the lock is held exactly by a caller waiting for its fetch -/
  holder_iff : ∀ i, st.holder = some i ↔ st.phase i = .fetching
  /-- a caller waits for a fetch only for a call that is not a GET, of a service with no crumb -/
  fetching : ∀ i, st.phase i = .fetching →
    ∃ call, calls[i]? = some call ∧ call.method ≠ .get ∧ st.cache.lookup call.service = none
  /-- every kept crumb was fetched within the run -/
  fetched_late : ∀ S e, st.cache.lookup S = some e → t₀ ≤ e.fetchedAt
  /-- a call about to go, or gone, carries what the cache keeps -/
  carries : ∀ i c, (st.phase i = .ready c ∨ st.phase i = .done (some c)) →
    ∃ call, calls[i]? = some call ∧ st.Carries call c
  /-- what went beneath carries what the cache keeps -/
  forwarded : ∀ c, .forward c ∈ st.sent → ∃ call ∈ calls, st.Carries call c
  /-- one fetch per service with a kept crumb, one for the lock holder's, none for others -/
  fetches : ∀ S, fetchesFor S st.sent =
    (if (st.cache.lookup S).isSome then 1 else 0) + (if holderService calls st = some S then 1 else 0)
  /-- a crumb is kept only for the service of a call, not a GET, that entered -/
  cached : ∀ S, (st.cache.lookup S).isSome →
    ∃ i call, calls[i]? = some call ∧ call.method ≠ .get ∧ call.service = S ∧ st.Entered i
  /-- a call, not a GET, that entered has its crumb kept, or waits for it -/
  entered : ∀ i call, calls[i]? = some call → call.method ≠ .get → st.Entered i →
    (st.cache.lookup call.service).isSome ∨ st.phase i = .fetching

theorem inv_init (calls : List ServiceCall) (t₀ : Nat) : Inv calls t₀ init := by
  refine ⟨?_, ?_, ?_, ?_, ?_, ?_, ?_, ?_⟩
  · intro i
    simp [init]
  · intro i h
    cases h
  · intro S e h
    cases h
  · rintro i c (h | h) <;> cases h
  · intro c h
    cases h
  · intro S
    simp [init, fetchesFor, holderService]
  · intro S h
    cases h
  · intro i call _ _ h
    exact absurd rfl h

/-! ## Each move keeps the invariant -/

section Move

variable {t₀ : Nat} {st : SharedCrumbs}

theorem entered_setPhase {i j : Nat} {p : Phase} (he : st.Entered j) (hp : p ≠ .start) :
    (st.setPhase i p).Entered j := by
  by_cases hj : j = i
  · simpa [Entered, hj] using hp
  · simpa [Entered, hj] using he

theorem entered_of_setPhase {i j : Nat} {p : Phase} (he : (st.setPhase i p).Entered j)
    (hj : j ≠ i) : st.Entered j := by
  simpa [Entered, hj] using he

theorem Carries.mono {st' : SharedCrumbs} {call c : ServiceCall}
    (hgrow : ∀ S e, st.cache.lookup S = some e → st'.cache.lookup S = some e)
    (h : st.Carries call c) : st'.Carries call c := by
  rcases h with h | ⟨hg, e, he, rfl⟩
  · exact .inl h
  · exact .inr ⟨hg, e, hgrow _ _ he, rfl⟩

theorem not_expired_of_late {e : CrumbEntry} {now : Nat} (he : t₀ ≤ e.fetchedAt)
    (hnow : now ≤ t₀ + cfg.ttlNs) : cfg.expired now (some e) = false := by
  simp only [CrumbConfig.expired, decide_eq_false_iff_not]
  omega

theorem holderService_eq_some {S : String} (h : holderService calls st = some S) :
    ∃ i call, st.holder = some i ∧ calls[i]? = some call ∧ call.service = S := by
  cases hl : st.holder with
  | none => simp [holderService, hl] at h
  | some i =>
    cases hc : calls[i]? with
    | none => simp [holderService, hl, hc] at h
    | some call => exact ⟨i, call, rfl, hc, by simpa [holderService, hl, hc] using h⟩

/-- A caller moving from one phase to another, neither of them waiting for a fetch, with nothing
else changed: what the invariant says of the others stays. -/
theorem Inv.setPhase (hinv : Inv calls t₀ st) {i : Nat} {call : ServiceCall} {p : Phase}
    (hc : calls[i]? = some call) (hi : st.phase i ≠ .fetching) (hp : p ≠ .fetching)
    (hps : p ≠ .start)
    (hcar : ∀ c, (p = .ready c ∨ p = .done (some c)) → st.Carries call c)
    (hold : call.method ≠ .get → (st.cache.lookup call.service).isSome) :
    Inv calls t₀ (st.setPhase i p) where
  holder_iff j := by
    by_cases hj : j = i
    · subst hj
      simp only [setPhase_holder, setPhase_phase, if_true, hinv.holder_iff]
      exact ⟨fun h => absurd h hi, fun h => absurd h hp⟩
    · simp [hj, hinv.holder_iff]
  fetching j hf := by
    by_cases hj : j = i
    · subst hj
      simp [hp] at hf
    · exact hinv.fetching j (by simpa [hj] using hf)
  fetched_late := hinv.fetched_late
  carries j c hjc := by
    by_cases hj : j = i
    · subst hj
      exact ⟨call, hc, hcar c (by simpa using hjc)⟩
    · exact hinv.carries j c (by simpa [hj] using hjc)
  forwarded := hinv.forwarded
  fetches := hinv.fetches
  cached S hS := by
    obtain ⟨j, c, hjc, hcg, hcs, hje⟩ := hinv.cached S hS
    exact ⟨j, c, hjc, hcg, hcs, entered_setPhase hje hps⟩
  entered j c hjc hcg hje := by
    by_cases hj : j = i
    · subst hj
      obtain rfl := Option.some.inj (hjc.symm.trans hc)
      exact .inl (hold hcg)
    · have h := hinv.entered j c hjc hcg (entered_of_setPhase hje hj)
      simpa [hj] using h

/-- A caller that takes the lock to fetch: the fetch is the first for its service, whose crumb
was missing, since a crumb fetched within the run has not expired. -/
theorem Inv.enterFetch (hinv : Inv calls t₀ st) {i now : Nat} {call : ServiceCall}
    (hc : calls[i]? = some call) (hs : st.phase i = .start) (hg : call.method ≠ .get)
    (hl : st.holder = none) (hx : cfg.expired now (st.cache.lookup call.service) = true)
    (hw : now ≤ t₀ + cfg.ttlNs) :
    Inv calls t₀ { st.setPhase i .fetching with
      holder := some i
      sent := st.sent ++ [.fetch call.crumbFetch] } := by
  have hnone : st.cache.lookup call.service = none := by
    cases hk : st.cache.lookup call.service with
    | none => rfl
    | some e =>
      rw [hk, not_expired_of_late (hinv.fetched_late _ e hk) hw] at hx
      cases hx
  -- nobody else waits for a fetch: the lock was free
  have hidle : ∀ j, st.phase j ≠ .fetching := fun j hj => by
    simp [(hinv.holder_iff j).mpr hj] at hl
  refine ⟨?_, ?_, hinv.fetched_late, ?_, ?_, ?_, ?_, ?_⟩
  · intro j
    by_cases hj : j = i
    · subst hj
      simp
    · simp [hj, Ne.symm hj, hidle j]
  · intro j hf
    by_cases hj : j = i
    · subst hj
      exact ⟨call, hc, hg, hnone⟩
    · exact absurd (by simpa [hj] using hf) (hidle j)
  · intro j c hjc
    by_cases hj : j = i
    · subst hj
      simp at hjc
    · exact hinv.carries j c (by simpa [hj] using hjc)
  · intro c hc'
    exact hinv.forwarded c (by simpa using hc')
  · intro S
    have hh : holderService calls st = none := by simp [holderService, hl]
    have hold := hinv.fetches S
    rw [hh] at hold
    rw [fetchesFor_append_fetch, hold]
    by_cases hS : call.service = S
    · subst hS
      simp [holderService, hc, hnone, ServiceCall.crumbFetch, ServiceCall.make]
    · simp [holderService, hc, hS, ServiceCall.crumbFetch, ServiceCall.make]
      rfl
  · intro S hS
    obtain ⟨j, c, hjc, hcg, hcs, hje⟩ := hinv.cached S hS
    exact ⟨j, c, hjc, hcg, hcs, entered_setPhase hje (by simp)⟩
  · intro j c hjc hcg hje
    by_cases hj : j = i
    · subst hj
      simp
    · have h := hinv.entered j c hjc hcg (entered_of_setPhase hje hj)
      simpa [hj] using h

/-- The caller holding the lock gets its crumb: it is kept, set on the call, and the lock let
go; the service's one fetch is now accounted for by the cache. -/
theorem Inv.answerCrumb (hinv : Inv calls t₀ st) {i now : Nat} {call : ServiceCall}
    {name : String} {value : List UInt8} (hc : calls[i]? = some call)
    (hs : st.phase i = .fetching)
    (hw : t₀ ≤ now) :
    Inv calls t₀ { st.setPhase i (.ready (call.withCrumb ⟨name, value, now⟩)) with
      holder := none
      cache := putCrumb st.cache call.service ⟨name, value, now⟩ } := by
  obtain ⟨call', hc', hg, hnone⟩ := hinv.fetching i hs
  obtain rfl := Option.some.inj (hc.symm.trans hc')
  have hl : st.holder = some i := (hinv.holder_iff i).mpr hs
  -- the lock holder is the only caller waiting for a fetch
  have honly : ∀ j, j ≠ i → st.phase j ≠ .fetching := fun j hj hf => by
    rw [(hinv.holder_iff j).mpr hf] at hl
    exact hj (Option.some.inj hl)
  -- the cache only gains the holder's service, which had no crumb
  have hgrow : ∀ S e, st.cache.lookup S = some e →
      (putCrumb st.cache call.service ⟨name, value, now⟩).lookup S = some e := by
    intro S e he
    have hS : S ≠ call.service := by
      rintro rfl
      rw [hnone] at he
      cases he
    simp [hS, he]
  refine ⟨?_, ?_, ?_, ?_, ?_, ?_, ?_, ?_⟩
  · intro j
    by_cases hj : j = i
    · subst hj
      simp
    · simp [hj, honly j hj]
  · intro j hf
    by_cases hj : j = i
    · subst hj
      simp at hf
    · exact absurd (by simpa [hj] using hf) (honly j hj)
  · intro S e he
    by_cases hS : S = call.service
    · subst hS
      simp only [lookup_putCrumb, if_true, Option.some.injEq] at he
      subst he
      exact hw
    · exact hinv.fetched_late S e (by simpa [hS] using he)
  · intro j c hjc
    by_cases hj : j = i
    · subst hj
      have hcall : c = call.withCrumb ⟨name, value, now⟩ := by simpa [eq_comm] using hjc
      exact ⟨call, hc, .inr ⟨hg, _, by simp, hcall⟩⟩
    · obtain ⟨c', hc'', hcar⟩ := hinv.carries j c (by simpa [hj] using hjc)
      exact ⟨c', hc'', hcar.mono hgrow⟩
  · intro c hc''
    obtain ⟨c', hmem, hcar⟩ := hinv.forwarded c hc''
    exact ⟨c', hmem, hcar.mono hgrow⟩
  · intro S
    have hold := hinv.fetches S
    have hh : holderService calls st = some call.service := by simp [holderService, hl, hc]
    rw [hh] at hold
    by_cases hS : S = call.service
    · subst hS
      simp [hold, hnone, holderService]
    · rw [lookup_putCrumb, if_neg hS]
      simp [hold, Ne.symm hS, holderService]
  · intro S hS
    by_cases hSc : S = call.service
    · subst hSc
      exact ⟨i, call, hc, hg, rfl, by simp [Entered]⟩
    · obtain ⟨j, c, hjc, hcg, hcs, hje⟩ := hinv.cached S (by simpa [hSc] using hS)
      exact ⟨j, c, hjc, hcg, hcs, entered_setPhase hje (by simp)⟩
  · intro j c hjc hcg hje
    by_cases hj : j = i
    · subst hj
      obtain rfl := Option.some.inj (hjc.symm.trans hc)
      simp
    · rcases hinv.entered j c hjc hcg (entered_of_setPhase hje hj) with h | h
      · obtain ⟨e, he⟩ := Option.isSome_iff_exists.mp h
        exact .inl (by simp [hgrow _ _ he])
      · exact absurd h (honly j hj)

/-- A call going beneath that carries what the cache keeps adds no fetch. -/
theorem Inv.addForward (hinv : Inv calls t₀ st) {c : ServiceCall}
    (hcar : ∃ call ∈ calls, st.Carries call c) :
    Inv calls t₀ { st with sent := st.sent ++ [.forward c] } where
  holder_iff := hinv.holder_iff
  fetching := hinv.fetching
  fetched_late := hinv.fetched_late
  carries := hinv.carries
  forwarded c' hc' := by
    rcases List.mem_append.mp hc' with h | h
    · exact hinv.forwarded c' h
    · obtain rfl : c' = c := by simpa using h
      exact hcar
  fetches S := by
    rw [fetchesFor_append_forward]
    exact hinv.fetches S
  cached := hinv.cached
  entered := hinv.entered

/-- Every move keeps the invariant, when the fetch it answers gives a crumb and the time it reads
lies within the time to live after `t₀`. -/
theorem Inv.move (hinv : Inv calls t₀ st) {a : CrumbAction} {st' : SharedCrumbs}
    (hm : Moves cfg calls st a st') (hs : a.Succeeds cfg calls) (hw : a.Within cfg t₀) :
    Inv calls t₀ st' := by
  cases hm with
  | enterGet hc hstart hg =>
    refine hinv.setPhase hc (by simp [hstart]) (by simp) (by simp) ?_ (fun h => absurd hg h)
    rintro c (h | h)
    · cases h
      exact .inl ⟨hg, rfl⟩
    · cases h
  | enterFetch hc hstart hg hl hx => exact hinv.enterFetch hc hstart hg hl hx (hw _ rfl).2
  | enterKept hc hstart hg hl hk hf =>
    refine hinv.setPhase hc (by simp [hstart]) (by simp) (by simp) ?_ (fun _ => by simp [hk])
    rintro c (h | h)
    · cases h
      exact .inr ⟨hg, _, hk, rfl⟩
    · cases h
  | answerCrumb hc hfetching hr => exact hinv.answerCrumb hc hfetching (hw _ rfl).1
  | answerFail hc hfetching hr => exact absurd (hs _ hc) (by simp [hr])
  | forward hready =>
    -- the call goes with the crumb it was made ready with
    obtain ⟨call, hc, hcar⟩ := hinv.carries _ _ (.inl hready)
    have hdone := hinv.setPhase (p := .done (some _)) hc (by simp [hready]) (by simp) (by simp)
      (fun c h => by
        rcases h with h | h <;> cases h
        exact hcar)
      (fun hg => by
        rcases hinv.entered _ call hc hg (by simp [Entered, hready]) with h | h
        · exact h
        · simp [hready] at h)
    exact hdone.addForward ⟨call, List.mem_of_getElem? hc, hcar⟩

/-- The invariant holds all along a run whose fetches give crumbs and whose times lie within the
time to live after `t₀`. -/
theorem Inv.run (hinv : Inv calls t₀ st) {acts : List CrumbAction} {st' : SharedCrumbs}
    (h : st.run cfg calls acts = some st') (hs : ∀ a ∈ acts, a.Succeeds cfg calls)
    (hw : ∀ a ∈ acts, a.Within cfg t₀) : Inv calls t₀ st' := by
  induction acts generalizing st with
  | nil =>
    obtain rfl : st = st' := by simpa [SharedCrumbs.run] using h
    exact hinv
  | cons a rest ih =>
    simp only [SharedCrumbs.run] at h
    cases hstep : st.step cfg calls a with
    | none => simp [hstep] at h
    | some mid =>
      rw [hstep] at h
      have hmid := hinv.move (moves_of_step hstep) (hs a (List.mem_cons_self ..))
        (hw a (List.mem_cons_self ..))
      exact ih hmid h (fun b hb => hs b (List.mem_cons_of_mem _ hb))
        (fun b hb => hw b (List.mem_cons_of_mem _ hb))

end Move

/-! ## One fetch per service -/

section Count

variable {t₀ : Nat} {st : SharedCrumbs}

/-- The lock holder's service has no crumb kept. -/
theorem Inv.holder_uncached (hinv : Inv calls t₀ st) {S : String}
    (h : holderService calls st = some S) : st.cache.lookup S = none := by
  obtain ⟨i, call, hl, hc, rfl⟩ := holderService_eq_some h
  obtain ⟨call', hc', -, hnone⟩ := hinv.fetching i ((hinv.holder_iff i).mp hl)
  obtain rfl := Option.some.inj (hc.symm.trans hc')
  exact hnone

theorem Inv.fetchesFor_le (hinv : Inv calls t₀ st) (S : String) : fetchesFor S st.sent ≤ 1 := by
  rw [hinv.fetches S]
  by_cases hh : holderService calls st = some S
  · simp [hh, hinv.holder_uncached hh]
  · simp only [hh, if_false, Nat.add_zero]
    split <;> omega

/-- A service has had its one fetch exactly when a call for it that is not a GET has entered. -/
theorem Inv.fetchesFor_eq_one_iff (hinv : Inv calls t₀ st) (S : String) :
    fetchesFor S st.sent = 1 ↔
      ∃ i call, calls[i]? = some call ∧ call.method ≠ .get ∧ call.service = S ∧ st.Entered i := by
  rw [hinv.fetches S]
  constructor
  · intro h
    cases hk : (st.cache.lookup S).isSome with
    | true => exact hinv.cached S hk
    | false =>
      -- the one fetch is the lock holder's
      cases hh : holderService calls st with
      | none => simp [hk, hh] at h
      | some S' =>
        have hS : S' = S := by simpa [hk, hh] using h
        subst hS
        obtain ⟨i, call, hl, hc, hS⟩ := holderService_eq_some hh
        obtain ⟨call', hc', hg, -⟩ := hinv.fetching i ((hinv.holder_iff i).mp hl)
        obtain rfl := Option.some.inj (hc.symm.trans hc')
        exact ⟨i, call, hc, hg, hS, by simp [Entered, (hinv.holder_iff i).mp hl]⟩
  · rintro ⟨i, call, hc, hg, rfl, he⟩
    rcases hinv.entered i call hc hg he with hk | hf
    · have hh : holderService calls st ≠ some call.service := fun hh => by
        simp [hinv.holder_uncached hh] at hk
      simp [hk, hh]
    · have hh : holderService calls st = some call.service := by
        simp [holderService, (hinv.holder_iff i).mpr hf, hc]
      simp [hh, hinv.holder_uncached hh]

/-- Once every caller has entered, exactly the services of calls that are not GETs have had a
fetch, one each. -/
theorem Inv.fetchesFor_of_entered (hinv : Inv calls t₀ st)
    (hall : ∀ i < calls.length, st.Entered i) (S : String) :
    fetchesFor S st.sent =
      if ∃ call ∈ calls, call.method ≠ .get ∧ call.service = S then 1 else 0 := by
  split
  · next hcall =>
    obtain ⟨call, hmem, hg, hS⟩ := hcall
    obtain ⟨i, hi⟩ := List.mem_iff_getElem?.mp hmem
    have hlt : i < calls.length := (List.getElem?_eq_some_iff.mp hi).1
    exact (hinv.fetchesFor_eq_one_iff S).mpr ⟨i, call, hi, hg, hS, hall i hlt⟩
  · next hnone =>
    have hne : fetchesFor S st.sent ≠ 1 := fun h => by
      obtain ⟨i, call, hc, hg, hS, -⟩ := (hinv.fetchesFor_eq_one_iff S).mp h
      exact hnone ⟨call, List.mem_of_getElem? hc, hg, hS⟩
    have hle := hinv.fetchesFor_le S
    omega

end Count

end SharedCrumbs

/-- The call that went beneath. -/
def Sent.call : Sent → ServiceCall
  | .fetch c => c
  | .forward c => c

namespace SharedCrumbs

variable {cfg : CrumbConfig} {calls : List ServiceCall}

/-! ## A caller alone -/

theorem run_cons_of_moves {st st' : SharedCrumbs} {a : CrumbAction}
    (h : Moves cfg calls st a st') (rest : List CrumbAction) :
    st.run cfg calls (a :: rest) = st'.run cfg calls rest := by
  simp [run, step_of_moves h]

/-- A caller alone, with the lock free, does what the crumb layer does with its call: its steps,
with the fetch answered by a transport `T`, make `T` receive what the layer makes it receive, in
the same order, and leave the cache that the layer leaves. -/
theorem run_alone {σ : Type} (T : Transport σ) (s : σ) {st : SharedCrumbs} {i now : Nat}
    {call : ServiceCall} (hc : calls[i]? = some call) (hs : st.phase i = .start)
    (hl : st.holder = none) :
    ∃ acts st', st.run cfg calls acts = some st' ∧ st'.holder = none ∧
      (st'.cache, st'.sent.map Sent.call) =
        ((crumbSend cfg T.logged now call st.cache (st.sent.map Sent.call, s)).2.1,
          (crumbSend cfg T.logged now call st.cache (st.sent.map Sent.call, s)).2.2.1) := by
  by_cases hg : call.method = .get
  · have hrun : st.run cfg calls [.enter i now, .forward i] = some _ :=
      (run_cons_of_moves (.enterGet hc hs hg) _).trans
        (run_cons_of_moves (@Moves.forward cfg calls _ i call (by simp)) [])
    exact ⟨_, _, hrun, hl, by simp [crumbSend_of_get hg, Sent.call]⟩
  · cases hx : cfg.expired now (st.cache.lookup call.service) with
    | false =>
      obtain ⟨e, hk⟩ := exists_kept_of_not_expired hx
      rw [hk] at hx
      have hrun : st.run cfg calls [.enter i now, .forward i] = some _ :=
        (run_cons_of_moves (.enterKept hc hs hg hl hk hx) _).trans
          (run_cons_of_moves (@Moves.forward cfg calls _ i (call.withCrumb e) (by simp)) [])
      exact ⟨_, _, hrun, hl, by simp [crumbSend_of_fresh hg hk hx, Sent.call]⟩
    | true =>
      -- the fetch goes first; what its reply gives decides the rest
      rcases hT : T.send call.crumbFetch s with ⟨reply, s₁⟩
      have hT' := Transport.logged_send_of_eq (st.sent.map Sent.call) hT
      cases hr : crumbOfReply cfg call.service reply with
      | none =>
        have hrun : st.run cfg calls [.enter i now, .answer i reply now] = some _ :=
          (run_cons_of_moves (.enterFetch hc hs hg hl hx) _).trans
            (run_cons_of_moves (.answerFail hc (by simp) hr) [])
        refine ⟨_, _, hrun, rfl, ?_⟩
        cases reply with
        | crash m => simp [crumbSend_of_fetch_crash hg hx hT', Sent.call]
        | answer res =>
          cases res with
          | error err => simp [crumbSend_of_fetch_error hg hx hT', Sent.call]
          | ok resp =>
            cases hcr : crumbOfResponse cfg call.service resp with
            | ok p =>
              obtain ⟨name, value⟩ := p
              rw [crumbOfReply_eq_some.mpr ⟨resp, rfl, hcr⟩] at hr
              cases hr
            | error err => simp [crumbSend_of_bad_crumb hg hx hT' hcr, Sent.call]
      | some p =>
        obtain ⟨name, value⟩ := p
        obtain ⟨resp, rfl, hcr⟩ := crumbOfReply_eq_some.mp hr
        have hrun : st.run cfg calls
            [.enter i now, .answer i (.answer (.ok resp)) now, .forward i] = some _ :=
          (run_cons_of_moves (.enterFetch hc hs hg hl hx) _).trans
            ((run_cons_of_moves (.answerCrumb hc (by simp) hr) _).trans
              (run_cons_of_moves
                (@Moves.forward cfg calls _ i (call.withCrumb ⟨name, value, now⟩) (by simp)) []))
        exact ⟨_, _, hrun, rfl, by simp [crumbSend_of_fetched hg hx hT' hcr, Sent.call]⟩

/-! ## Fetched once -/

/-- Callers sharing one crumb cache, in any interleaving of their atomic steps. From any state, a
crumb fetch goes beneath only from a caller that took the free lock and found its service's crumb
missing or expired, and the caller keeps the lock while the fetch is out. In every run from the
empty cache in which each fetch gives a crumb and every time lies within a time to live after some
`t₀`: each service has had at most one crumb fetch, and exactly one once a call for it that is
not a GET has entered; every call gone beneath is a GET as it was, or carries the one crumb kept
for its service; and once every caller has entered, the services of calls that are not GETs have
had one fetch each and all others none. -/
theorem shared_crumb_fetched_once (cfg : CrumbConfig) (calls : List ServiceCall) :
    (∀ (st st' : SharedCrumbs) (a : CrumbAction) (f : ServiceCall),
      st.step cfg calls a = some st' → st'.sent = st.sent ++ [.fetch f] →
      ∃ i now call, a = .enter i now ∧ calls[i]? = some call ∧ call.method ≠ .get ∧
        st.holder = none ∧ cfg.expired now (st.cache.lookup call.service) = true ∧
        f = call.crumbFetch ∧ st'.holder = some i) ∧
    (∀ (t₀ : Nat) (acts : List CrumbAction) (st : SharedCrumbs),
      init.run cfg calls acts = some st → (∀ a ∈ acts, a.Succeeds cfg calls) →
      (∀ a ∈ acts, a.Within cfg t₀) →
      (∀ S, fetchesFor S st.sent ≤ 1 ∧
        (fetchesFor S st.sent = 1 ↔ ∃ i call, calls[i]? = some call ∧ call.method ≠ .get ∧
          call.service = S ∧ st.phase i ≠ .start)) ∧
      (∀ c, .forward c ∈ st.sent → ∃ call ∈ calls,
        (call.method = .get ∧ c = call) ∨
          (call.method ≠ .get ∧ ∃ e, st.cache.lookup call.service = some e ∧
            c = call.withCrumb e)) ∧
      ((∀ i < calls.length, st.phase i ≠ .start) → ∀ S, fetchesFor S st.sent =
        if ∃ call ∈ calls, call.method ≠ .get ∧ call.service = S then 1 else 0)) := by
  refine ⟨fun st st' a f h hf => fetch_only_when_expired h hf, ?_⟩
  intro t₀ acts st hrun hs hw
  have hinv := (inv_init calls t₀).run hrun hs hw
  exact ⟨fun S => ⟨hinv.fetchesFor_le S, hinv.fetchesFor_eq_one_iff S⟩, hinv.forwarded,
    hinv.fetchesFor_of_entered⟩

/-- Two callers POST to one service within a time to live: the first takes the lock and fetches
the crumb, the second enters once the crumb is kept and sends its call with it. Both have
entered, and the service has had exactly one fetch. -/
theorem two_posts_one_fetch :
    let cfg : CrumbConfig := ⟨10, SnippetConfig.default⟩
    let call := ServiceCall.make .post "jenkins" "job/nightly/enable" 30000
    let reply : Reply := .answer (.ok ⟨⟨200⟩, HeaderMap.empty,
      Text.Utf8.encode "\x7b\"crumbRequestField\":\"Jenkins-Crumb\",\"crumb\":\"abc\"\x7d"⟩)
    let acts := [CrumbAction.enter 0 1, .answer 0 reply 2, .forward 0, .enter 1 3, .forward 1]
    ∃ st, init.run cfg [call, call] acts = some st ∧ (∀ a ∈ acts, a.Succeeds cfg [call, call]) ∧
      (∀ a ∈ acts, a.Within cfg 0) ∧ (∀ i < 2, st.phase i ≠ .start) ∧
      ∀ S, fetchesFor S st.sent = if S = "jenkins" then 1 else 0 := by
  intro cfg call reply acts
  have hsome : (init.run cfg [call, call] acts).isSome = true := by decide +kernel
  obtain ⟨st, hrun⟩ := Option.isSome_iff_exists.1 hsome
  have hs : ∀ a ∈ acts, a.Succeeds cfg [call, call] := by
    have hc : (crumbOfReply cfg call.service reply).isSome = true := by decide +kernel
    simp [acts, CrumbAction.Succeeds, hc]
  have hw : ∀ a ∈ acts, a.Within cfg 0 := by
    simp [acts, CrumbAction.Within, CrumbAction.time?, cfg]
  have hentered : ∀ i < 2, st.phase i ≠ .start := by
    have hphases : (init.run cfg [call, call] acts).all
        (fun st => st.phase 0 != .start && st.phase 1 != .start) = true := by decide +kernel
    simp only [hrun, Option.all_some, Bool.and_eq_true, bne_iff_ne, ne_eq] at hphases
    intro i hi
    obtain rfl | rfl : i = 0 ∨ i = 1 := by omega
    · exact hphases.1
    · exact hphases.2
  have hfetches := ((shared_crumb_fetched_once cfg [call, call]).2 0 acts st hrun hs hw).2.2
    hentered
  refine ⟨st, hrun, hs, hw, hentered, fun S => ?_⟩
  rw [hfetches S]
  simp [call, ServiceCall.make, eq_comm]

end SharedCrumbs

end CiClient.Service
