import CiClient.Client.Operations
/-!
# The calls of the client's operations

An operation of the client is an exchange, and running it over a transport makes its calls one
after the other. This module states, for every transport and every state it starts in, which
calls each operation makes: the calls of its reference sequence in order, each with the client's
service, its current timeout and no headers, and no call after the first one that fails or
crashes. No call is ever made twice.

The statements are equations of `Exchange.run`, written with `Transport.callThen`, which makes
one call and goes on with its response. They rest on one law of runs, `Exchange.run_bind`: a run
of `x >>= f` is the run of `x`, then, after a success, the run of `f` on its result. The main
statement is `Client.run_operations`.
-/

namespace CiClient.Service.Transport

open Client

variable {σ : Type}

/-- One call over a transport: a crash ends the run, an error answer finishes it with that
error, and a response goes on with `k`. -/
def callThen (t : Transport σ) (call : ServiceCall) (s : σ)
    (k : Response → σ → Exchange.Outcome β × σ) : Exchange.Outcome β × σ :=
  match t.send call s with
  | (.crash m, s) => (.crashed m, s)
  | (.answer (.error e), s) => (.finished (.error e), s)
  | (.answer (.ok r), s) => k r s

end CiClient.Service.Transport

namespace CiClient.Client.Exchange

open Service

variable {σ α β γ : Type} (t : Transport σ)

/-- A run that goes on after its first part: with `k` after a success, while a failure or a
crash ends it. -/
def Outcome.andThen : Outcome α × σ → (α → σ → Outcome β × σ) → Outcome β × σ
  | (.finished (.ok a), s), k => k a s
  | (.finished (.error e), s), _ => (.finished (.error e), s)
  | (.crashed m, s), _ => (.crashed m, s)

@[simp] theorem run_pure (a : α) (s : σ) :
    (pure a : Exchange α).run t s = (.finished (.ok a), s) :=
  rfl

@[simp] theorem run_fail (e : Error) (s : σ) :
    (Exchange.fail e : Exchange α).run t s = (.finished (.error e), s) :=
  rfl

/-- The run of `x >>= f` is the run of `x`, then, after a success, the run of `f` on its result.
The induction is on the exchange `x`: a call and a note pass the rest of the run on. -/
theorem run_bind (x : Exchange α) (f : α → Exchange β) (s : σ) :
    (x >>= f).run t s = Outcome.andThen (x.run t s) fun a s => (f a).run t s := by
  induction x generalizing s with
  | done r =>
    cases r <;> rfl
  | call c next ih =>
    show (Exchange.call c fun r => (next r).bind f).run t s = _
    simp only [run]
    cases t.send c s with
    | mk reply s' =>
      cases reply with
      | crash m => rfl
      | answer r => exact ih r s'
  | note e next ih =>
    exact ih (t.note e s)

theorem andThen_callThen (call : ServiceCall) (s : σ) (k : Response → σ → Outcome α × σ)
    (f : α → σ → Outcome β × σ) :
    Outcome.andThen (t.callThen call s k) f =
      t.callThen call s fun r s => Outcome.andThen (k r s) f := by
  unfold Transport.callThen
  cases t.send call s with
  | mk reply s' =>
    cases reply with
    | crash m => rfl
    | answer r => cases r <;> rfl

theorem run_send (call : ServiceCall) (s : σ) :
    (Exchange.send call).run t s = t.callThen call s fun r s => (.finished (.ok r), s) := by
  simp only [Exchange.send, run, Transport.callThen]
  cases t.send call s with
  | mk reply s' =>
    cases reply with
    | crash m => rfl
    | answer r => cases r <;> rfl

theorem run_send_bind (call : ServiceCall) (f : Response → Exchange β) (s : σ) :
    (Exchange.send call >>= f).run t s = t.callThen call s fun r s => (f r).run t s := by
  rw [run_bind, run_send, andThen_callThen]
  rfl

theorem run_emit_bind (e : Entry) (f : Unit → Exchange β) (s : σ) :
    (Exchange.emit e >>= f).run t s = (f ()).run t (t.note e s) :=
  rfl

end CiClient.Client.Exchange

namespace CiClient.Job

theorem checkPathName_ok {n : String} (h : pathIssue? n = none) : checkPathName n = .ok n := by
  simp [checkPathName, h]

theorem checkQueryName_ok {n : String} (h : queryIssue? n = none) : checkQueryName n = .ok n := by
  simp [checkQueryName, h]

/-- A name accepted as a query value is accepted in a path: the query rules are the path rules
and two more. -/
theorem pathIssue?_of_queryIssue? {n : String} (h : queryIssue? n = none) :
    pathIssue? n = none := by
  unfold queryIssue? at h
  cases hp : pathIssue? n with
  | none => rfl
  | some i => simp [hp] at h

theorem Endpoint.path_enable (j : String) :
    (Endpoint.buildable j .enable).path = "job/" ++ j ++ "/enable" := by
  show "job/" ++ j ++ "/" ++ "enable" = _
  rw [String.append_assoc]
  rfl

theorem Endpoint.path_disable (j : String) :
    (Endpoint.buildable j .disable).path = "job/" ++ j ++ "/disable" := by
  show "job/" ++ j ++ "/" ++ "disable" = _
  rw [String.append_assoc]
  rfl

end CiClient.Job

namespace CiClient.Client

open Service Job Http Exchange

variable {σ : Type} (t : Transport σ) (c : Client)

theorem checked_ok {r : Except NameRefusal Endpoint} {ep : Endpoint} (h : r = .ok ep) :
    checked r = pure ep := by
  subst h
  rfl

theorem run_post (path : String) (s : σ) :
    (c.post path).run t s = t.callThen (c.callOf .post path) s fun r s => (.finished (.ok r), s) :=
  run_send t _ s

theorem run_getJson {α : Type} (reader : Nat → Json.Reader α) (path : String) (s : σ) :
    (c.getJson reader path).run t s =
      t.callThen (c.callOf .get path) s fun resp s =>
        (.finished (c.decodeResponse reader path resp), s) := by
  simp only [getJson, run, Transport.callThen]
  cases t.send (c.callOf .get path) s with
  | mk reply s' =>
    cases reply with
    | crash m => rfl
    | answer r => cases r <;> rfl

/-- With the job's name accepted, enabling it is one post. -/
theorem enableJob_eq {j : String} (h : pathIssue? j = none) :
    c.enableJob j = c.post ("job/" ++ j ++ "/enable") := by
  have hp : checked (buildablePath j .enable) = pure (.buildable j .enable) :=
    checked_ok (by simp only [buildablePath, checkPathName_ok h]; rfl)
  rw [enableJob, hp, ← Endpoint.path_enable]
  rfl

theorem disableJob_eq {j : String} (h : pathIssue? j = none) :
    c.disableJob j = c.post ("job/" ++ j ++ "/disable") := by
  have hp : checked (buildablePath j .disable) = pure (.buildable j .disable) :=
    checked_ok (by simp only [buildablePath, checkPathName_ok h]; rfl)
  rw [disableJob, hp, ← Endpoint.path_disable]
  rfl

theorem getJob_eq {j : String} (h : pathIssue? j = none) :
    c.getJob j = c.getJson Job.read ("job/" ++ j ++ "/api/json") := by
  have hp : checked (jobPath j) = pure (.job j) :=
    checked_ok (by simp only [jobPath, checkPathName_ok h]; rfl)
  rw [getJob, hp]
  rfl

theorem getBuild_eq {j : String} (h : pathIssue? j = none) (n : Nat) :
    c.getBuild j n =
      c.getJson Json.Reader.value ("job/" ++ j ++ "/" ++ toString n ++ "/api/json") := by
  have hp : checked (buildPath j n) = pure (.build j n) :=
    checked_ok (by simp only [buildPath, checkPathName_ok h]; rfl)
  rw [getBuild, hp]
  rfl

theorem andThen_finished_map {α β : Type} (r : Except Error α) (f : α → β) (s : σ) :
    Outcome.andThen (.finished r, s) (fun a s => (.finished (.ok (f a)), s)) =
      ((.finished (r.map f), s) : Outcome β × σ) := by
  cases r <;> rfl

/-- The event noted before a copy. -/
def copyEvent (src dst : String) : Entry :=
  .event "DEBUG" [("message", .text "copying job"), ("service", .text c.service),
    ("src", .text src), ("dst", .text dst)]

/-- The event noted when a job names no build of the kind asked for. -/
def noBuildEvent (j : String) (which : BuildSelector) : Entry :=
  .event "DEBUG" [("message", .text "no build"), ("service", .text c.service),
    ("job", .text j), ("field", .text which.field)]

/-- With both names accepted, a copy notes its event and makes three posts: the copy request,
then disabling and enabling the copy. -/
theorem copyJob_eq {src dst : String} (hsrc : queryIssue? src = none)
    (hdst : queryIssue? dst = none) :
    c.copyJob src dst =
      (Exchange.emit (c.copyEvent src dst) >>= fun _ =>
        c.post ("createItem?name=" ++ dst ++ "&mode=copy&from=" ++ src) >>= fun _ =>
        c.post ("job/" ++ dst ++ "/disable") >>= fun _ =>
        c.post ("job/" ++ dst ++ "/enable") >>= fun _ => pure ()) := by
  have hp : checked (copyPath src dst) = pure (.copy src dst) :=
    checked_ok (by simp only [copyPath, checkQueryName_ok hsrc, checkQueryName_ok hdst]; rfl)
  have hd := pathIssue?_of_queryIssue? hdst
  rw [copyJob, hp, disableJob_eq c hd, enableJob_eq c hd]
  rfl

theorem run_copyJob {src dst : String} (hsrc : queryIssue? src = none)
    (hdst : queryIssue? dst = none) (s : σ) :
    (c.copyJob src dst).run t s =
      t.callThen (c.callOf .post ("createItem?name=" ++ dst ++ "&mode=copy&from=" ++ src))
        (t.note (c.copyEvent src dst) s) fun _ s =>
      t.callThen (c.callOf .post ("job/" ++ dst ++ "/disable")) s fun _ s =>
      t.callThen (c.callOf .post ("job/" ++ dst ++ "/enable")) s fun _ s =>
      (.finished (.ok ()), s) := by
  rw [copyJob_eq c hsrc hdst, run_emit_bind]
  simp only [post, run_send_bind, run_pure]

theorem run_getBuilds {j : String} (h : pathIssue? j = none) (s : σ) :
    (c.getBuilds j).run t s =
      t.callThen (c.callOf .get ("job/" ++ j ++ "/api/json")) s fun resp s =>
        (.finished ((c.decodeResponse Job.read ("job/" ++ j ++ "/api/json") resp).map Job.builds),
          s) := by
  rw [getBuilds, getJob_eq c h, run_bind, run_getJson, andThen_callThen]
  simp only [run_pure, andThen_finished_map]

/-- The first or last build: the job's document, then that build's document iff the job names
one. -/
theorem run_namedBuild {j : String} (h : pathIssue? j = none) (which : BuildSelector) (s : σ) :
    (c.namedBuild j which).run t s =
      t.callThen (c.callOf .get ("job/" ++ j ++ "/api/json")) s fun resp s =>
        match c.decodeResponse Job.read ("job/" ++ j ++ "/api/json") resp with
        | .error e => (.finished (.error e), s)
        | .ok job =>
          match job.buildRef which with
          | some b =>
            t.callThen (c.callOf .get ("job/" ++ j ++ "/" ++ toString b.number ++ "/api/json")) s
              fun resp s =>
                (.finished ((c.decodeResponse Json.Reader.value
                  ("job/" ++ j ++ "/" ++ toString b.number ++ "/api/json") resp).map some), s)
          | none => (.finished (.ok none), t.note (c.noBuildEvent j which) s) := by
  rw [namedBuild, getJob_eq c h, run_bind, run_getJson, andThen_callThen]
  congr
  funext resp s'
  cases c.decodeResponse Job.read ("job/" ++ j ++ "/api/json") resp with
  | error e => rfl
  | ok job =>
    simp only [Outcome.andThen]
    cases job.buildRef which with
    | some b =>
      simp only
      rw [getBuild_eq c h, run_bind, run_getJson, andThen_callThen]
      simp only [run_pure, andThen_finished_map]
    | none => rfl

/-- Every operation whose names are accepted makes the calls of its reference sequence, in
order, each to the client's service with its current timeout and no headers, and stops right
after the first call that fails or crashes; no call is made twice. A copy posts the copy request,
then disables and enables the copy; enabling and disabling post once; the job list, a job, its
builds and a build are one GET each, decoded; the first or last build gets the job, then the
build iff the job names one. -/
theorem run_operations (s₀ : σ) {j src dst : String} (hj : pathIssue? j = none)
    (hsrc : queryIssue? src = none) (hdst : queryIssue? dst = none) :
    ((c.copyJob src dst).run t s₀ =
        t.callThen ⟨.post, c.service, "createItem?name=" ++ dst ++ "&mode=copy&from=" ++ src,
            HeaderMap.empty, c.timeoutMs⟩ (t.note (c.copyEvent src dst) s₀) (fun _ s =>
          t.callThen ⟨.post, c.service, "job/" ++ dst ++ "/disable", HeaderMap.empty,
              c.timeoutMs⟩ s (fun _ s =>
            t.callThen ⟨.post, c.service, "job/" ++ dst ++ "/enable", HeaderMap.empty,
                c.timeoutMs⟩ s (fun _ s => (.finished (.ok ()), s))))) ∧
      ((c.enableJob j).run t s₀ =
        t.callThen ⟨.post, c.service, "job/" ++ j ++ "/enable", HeaderMap.empty, c.timeoutMs⟩
          s₀ (fun r s => (.finished (.ok r), s))) ∧
      ((c.disableJob j).run t s₀ =
        t.callThen ⟨.post, c.service, "job/" ++ j ++ "/disable", HeaderMap.empty, c.timeoutMs⟩
          s₀ (fun r s => (.finished (.ok r), s))) ∧
      (c.getJobs.run t s₀ =
        t.callThen ⟨.get, c.service, "api/json", HeaderMap.empty, c.timeoutMs⟩ s₀
          (fun resp s => (.finished (c.decodeResponse readJobList "api/json" resp), s))) ∧
      ((c.getJob j).run t s₀ =
        t.callThen ⟨.get, c.service, "job/" ++ j ++ "/api/json", HeaderMap.empty, c.timeoutMs⟩
          s₀ (fun resp s =>
            (.finished (c.decodeResponse Job.read ("job/" ++ j ++ "/api/json") resp), s))) ∧
      ((c.getBuilds j).run t s₀ =
        t.callThen ⟨.get, c.service, "job/" ++ j ++ "/api/json", HeaderMap.empty, c.timeoutMs⟩
          s₀ (fun resp s =>
            (.finished ((c.decodeResponse Job.read ("job/" ++ j ++ "/api/json") resp).map
              Job.builds), s))) ∧
      (∀ n : Nat, (c.getBuild j n).run t s₀ =
        t.callThen ⟨.get, c.service, "job/" ++ j ++ "/" ++ toString n ++ "/api/json",
            HeaderMap.empty, c.timeoutMs⟩ s₀
          (fun resp s => (.finished (c.decodeResponse Json.Reader.value
            ("job/" ++ j ++ "/" ++ toString n ++ "/api/json") resp), s))) ∧
      (∀ which : BuildSelector, (c.namedBuild j which).run t s₀ =
        t.callThen ⟨.get, c.service, "job/" ++ j ++ "/api/json", HeaderMap.empty, c.timeoutMs⟩
          s₀ (fun resp s =>
            match c.decodeResponse Job.read ("job/" ++ j ++ "/api/json") resp with
            | .error e => (.finished (.error e), s)
            | .ok job =>
              match job.buildRef which with
              | some b =>
                t.callThen ⟨.get, c.service,
                    "job/" ++ j ++ "/" ++ toString b.number ++ "/api/json", HeaderMap.empty,
                    c.timeoutMs⟩ s
                  (fun resp s =>
                    (.finished ((c.decodeResponse Json.Reader.value
                      ("job/" ++ j ++ "/" ++ toString b.number ++ "/api/json") resp).map some), s))
              | none => (.finished (.ok none), t.note (c.noBuildEvent j which) s))) := by
  refine ⟨run_copyJob t c hsrc hdst s₀, ?_, ?_, run_getJson t c readJobList _ s₀, ?_,
    run_getBuilds t c hj s₀, fun n => ?_, fun which => run_namedBuild t c hj which s₀⟩
  · rw [enableJob_eq c hj]
    exact run_post t c _ s₀
  · rw [disableJob_eq c hj]
    exact run_post t c _ s₀
  · rw [getJob_eq c hj]
    exact run_getJson t c _ _ s₀
  · rw [getBuild_eq c hj]
    exact run_getJson t c _ _ s₀

/-- The calls of a client of `jenkins` with the names `nightly` and `nightly-copy`, over a
transport that crashes on every call. -/
theorem run_operations_crashing :
    let t : Transport Unit := ⟨fun _ _ => (.crash "unreachable", ()), fun _ _ => ()⟩
    let c := Client.ofService "jenkins"
    pathIssue? "nightly" = none ∧ queryIssue? "nightly" = none ∧
      queryIssue? "nightly-copy" = none ∧
      ((c.copyJob "nightly" "nightly-copy").run t () =
          t.callThen ⟨.post, c.service,
              "createItem?name=" ++ "nightly-copy" ++ "&mode=copy&from=" ++ "nightly",
              HeaderMap.empty, c.timeoutMs⟩
            (t.note (c.copyEvent "nightly" "nightly-copy") ()) (fun _ s =>
            t.callThen ⟨.post, c.service, "job/" ++ "nightly-copy" ++ "/disable",
                HeaderMap.empty, c.timeoutMs⟩ s (fun _ s =>
              t.callThen ⟨.post, c.service, "job/" ++ "nightly-copy" ++ "/enable",
                  HeaderMap.empty, c.timeoutMs⟩ s (fun _ s => (.finished (.ok ()), s))))) ∧
        ((c.enableJob "nightly").run t () =
          t.callThen ⟨.post, c.service, "job/" ++ "nightly" ++ "/enable", HeaderMap.empty,
              c.timeoutMs⟩
            () (fun r s => (.finished (.ok r), s))) ∧
        ((c.disableJob "nightly").run t () =
          t.callThen ⟨.post, c.service, "job/" ++ "nightly" ++ "/disable", HeaderMap.empty,
              c.timeoutMs⟩
            () (fun r s => (.finished (.ok r), s))) ∧
        (c.getJobs.run t () =
          t.callThen ⟨.get, c.service, "api/json", HeaderMap.empty, c.timeoutMs⟩ ()
            (fun resp s => (.finished (c.decodeResponse readJobList "api/json" resp), s))) ∧
        ((c.getJob "nightly").run t () =
          t.callThen ⟨.get, c.service, "job/" ++ "nightly" ++ "/api/json", HeaderMap.empty,
              c.timeoutMs⟩
            () (fun resp s =>
              (.finished (c.decodeResponse Job.read ("job/" ++ "nightly" ++ "/api/json") resp),
                s))) ∧
        ((c.getBuilds "nightly").run t () =
          t.callThen ⟨.get, c.service, "job/" ++ "nightly" ++ "/api/json", HeaderMap.empty,
              c.timeoutMs⟩
            () (fun resp s =>
              (.finished ((c.decodeResponse Job.read ("job/" ++ "nightly" ++ "/api/json")
                resp).map Job.builds), s))) ∧
        (∀ n : Nat, (c.getBuild "nightly" n).run t () =
          t.callThen ⟨.get, c.service, "job/" ++ "nightly" ++ "/" ++ toString n ++ "/api/json",
              HeaderMap.empty, c.timeoutMs⟩ ()
            (fun resp s => (.finished (c.decodeResponse Json.Reader.value
              ("job/" ++ "nightly" ++ "/" ++ toString n ++ "/api/json") resp), s))) ∧
        (∀ which : BuildSelector, (c.namedBuild "nightly" which).run t () =
          t.callThen ⟨.get, c.service, "job/" ++ "nightly" ++ "/api/json", HeaderMap.empty,
              c.timeoutMs⟩
            () (fun resp s =>
              match c.decodeResponse Job.read ("job/" ++ "nightly" ++ "/api/json") resp with
              | .error e => (.finished (.error e), s)
              | .ok job =>
                match job.buildRef which with
                | some b =>
                  t.callThen ⟨.get, c.service,
                      "job/" ++ "nightly" ++ "/" ++ toString b.number ++ "/api/json",
                      HeaderMap.empty, c.timeoutMs⟩ s
                    (fun resp s =>
                      (.finished ((c.decodeResponse Json.Reader.value
                        ("job/" ++ "nightly" ++ "/" ++ toString b.number ++ "/api/json")
                          resp).map some), s))
                | none => (.finished (.ok none), t.note (c.noBuildEvent "nightly" which) s))) := by
  intro t c
  have hj : pathIssue? "nightly" = none := by decide +kernel
  have hsrc : queryIssue? "nightly" = none := by decide +kernel
  have hdst : queryIssue? "nightly-copy" = none := by decide +kernel
  exact ⟨hj, hsrc, hdst, run_operations t c () hj hsrc hdst⟩

end CiClient.Client
