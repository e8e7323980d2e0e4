import CiClient.Proofs.ClientHeaders
import CiClient.Proofs.JobRequestUrl
/-!
# One call over HTTP: its answer and its telemetry

The HTTP transport has four ways out of a call: the service and path do not resolve; the method
is neither GET nor POST; the network gives no response; or a response comes back.

The answer (`http_response_outcome`): a response whose status lies from 400 to 599 becomes the
error of its status class. That error carries the URL without query, fragment and credentials,
the server's message, the request id and a body snippet. Any other response is the answer as it
came. Another method fails as a configuration error, and the network is not asked.

The telemetry (`http_call_telemetry`) is read through views that keep one kind of entry:
counters, histograms, gauge moves and recorded span fields. One lemma per way out says what it
appends. Every way moves the in-flight gauge up first and down last (`GaugeBalanced`). A call
that got as far as sending counts one request and one latency sample, both with the status class,
and counts an error and records its kind exactly when it fails (`Accounted`). A call that does
not resolve fails, yet only moves the gauge (`unresolved_call_uncounted`).
-/

namespace CiClient.Service

open Http

variable {ν : Type}

/-! ## Views of telemetry -/

/-- The counter updates among telemetry entries, in order, as key and increment. -/
def counterUpdates (es : List Entry) : List (String × Nat) :=
  es.filterMap fun
    | .counter k n => some (k, n)
    | _ => none

/-- The keys of the histogram samples among telemetry entries, in order. -/
def histogramKeys (es : List Entry) : List String :=
  es.filterMap fun
    | .histogram k => some k
    | _ => none

/-- The gauge moves among telemetry entries, in order, as key and direction (`true` for up). -/
def gaugeMoves (es : List Entry) : List (String × Bool) :=
  es.filterMap fun
    | .gauge k up => some (k, up)
    | _ => none

/-- The values recorded on a span for one field, in order. -/
def recordsOf (field : String) (es : List Entry) : List FieldValue :=
  es.filterMap fun
    | .record f v => if f = field then some v else none
    | _ => none

/-- The in-flight gauge goes up first and down last, and moves at no other time. -/
structure GaugeBalanced (es : List Entry) : Prop where
  first : es.head? = some (.gauge inflightKey true)
  last : es.getLast? = some (.gauge inflightKey false)
  moves : gaugeMoves es = [(inflightKey, true), (inflightKey, false)]

/-- The telemetry of a call that got as far as sending, with status class `cls` and, for a call
that failed, its error: the gauge is balanced; the request counter and the latency histogram are
taken once, with the status class; the error counter and the span's `error_kind` are taken once
for a failed call and never for another. -/
structure Accounted (m : Method) (cls : String) (res : Except Error Response) (es : List Entry) :
    Prop where
  gauge : GaugeBalanced es
  counters : counterUpdates es =
    (metricKey "jenkins_service_requests_total" [("method", m.name), ("status_class", cls)], 1) ::
      match res with
      | .error e => [(metricKey "jenkins_service_errors_total"
          [("method", m.name), ("kind", e.kind.label)], 1)]
      | .ok _ => []
  histograms : histogramKeys es =
    [metricKey "jenkins_service_request_duration_seconds"
      [("method", m.name), ("status_class", cls)]]
  errorKinds : recordsOf "error_kind" es =
    match res with
    | .error e => [.text e.kind.name]
    | .ok _ => []

section Paths

variable {cfg : WireConfig} {net : Network ν} {call : ServiceCall} {st : WireState ν}

/-- A call whose service and path do not resolve fails with the directory's error and only moves
the gauge. -/
theorem wire_send_unresolved {e : Error}
    (he : cfg.directory.resolve call.service call.path = .error e) :
    (wire cfg net).send call st = (.answer (.error e),
      { st with log := st.log ++ [.gauge inflightKey true, .gauge inflightKey false] }) := by
  simp [wire, he]

/-- A call that is sent but gets no response fails with the sending error, counted as `transport`. -/
theorem wire_send_unsent {u : Url} {e : Error} {n : ν}
    (hu : cfg.directory.resolve call.service call.path = .ok u)
    (hs : sendRequest net call u (cfg.defaultHeaders.extend call.headers) st.net = (.error e, n)) :
    ∃ es, (wire cfg net).send call st = (.answer (.error e), ⟨n, st.log ++ es⟩) ∧
      Accounted call.method "transport" (.error e) es := by
  refine ⟨_, by simp only [wire, hu, hs]; rfl, ⟨?_, ?_, ?_⟩, ?_, ?_, ?_⟩ <;>
    simp [gaugeMoves, counterUpdates, histogramKeys, recordsOf, outcomeEntries, latencyEntry]

/-- A call that gets a response answers it, or its refusal, counted with its status class. -/
theorem wire_send_received {u : Url} {r : Response} {n : ν}
    (hu : cfg.directory.resolve call.service call.path = .ok u)
    (hs : sendRequest net call u (cfg.defaultHeaders.extend call.headers) st.net = (.ok r, n)) :
    ∃ es, (wire cfg net).send call st =
        (.answer ((refusalOf cfg call u r).elim (.ok r) .error), ⟨n, st.log ++ es⟩) ∧
      Accounted call.method r.status.classLabel ((refusalOf cfg call u r).elim (.ok r) .error)
        es := by
  -- the entries differ by whether the response is refused and whether it names a request id
  cases hr : refusalOf cfg call u r <;> cases hid : requestId r.headers <;>
  · refine ⟨_, by simp only [wire, hu, hs, hr, hid]; rfl, ⟨?_, ?_, ?_⟩, ?_, ?_, ?_⟩ <;>
      simp [gaugeMoves, counterUpdates, histogramKeys, recordsOf, outcomeEntries, latencyEntry]

end Paths

/-! ## The telemetry of a call -/

/-- The status class of what sending gave: the response's, or `transport` when none came. -/
def statusClassOf : Except Error Response → String
  | .ok r => r.status.classLabel
  | .error _ => "transport"

/-- On every way out of a call the in-flight gauge goes up first and down last. A call that does
not resolve fails with the directory's error and leaves nothing more. Any other call counts one
request and one latency sample with the status class of the response, or `transport` when none
came, and counts an error and records its kind exactly when it fails. -/
theorem http_call_telemetry (cfg : WireConfig) (net : Network ν) (call : ServiceCall)
    (st : WireState ν) :
    ∃ res es, ((wire cfg net).send call st).1 = .answer res ∧
      ((wire cfg net).send call st).2.log = st.log ++ es ∧ GaugeBalanced es ∧
      (∀ e, cfg.directory.resolve call.service call.path = .error e →
        res = .error e ∧ es = [.gauge inflightKey true, .gauge inflightKey false]) ∧
      (∀ u, cfg.directory.resolve call.service call.path = .ok u →
        Accounted call.method
          (statusClassOf (sendRequest net call u (cfg.defaultHeaders.extend call.headers) st.net).1)
          res es) := by
  cases hu : cfg.directory.resolve call.service call.path with
  | error e =>
    refine ⟨.error e, _, by rw [wire_send_unresolved hu], by rw [wire_send_unresolved hu],
      ⟨rfl, rfl, rfl⟩, fun e' he => ⟨by cases he; rfl, rfl⟩, fun u hu' => by cases hu'⟩
  | ok u =>
    rcases hs : sendRequest net call u (cfg.defaultHeaders.extend call.headers) st.net with
      ⟨sent, n⟩
    cases sent with
    | error e =>
      obtain ⟨es, heq, hacc⟩ := wire_send_unsent hu hs
      refine ⟨.error e, es, by rw [heq], by rw [heq], hacc.gauge, fun _ he => (by cases he),
        fun u' hu' => ?_⟩
      cases hu'
      rw [hs]
      exact hacc
    | ok r =>
      obtain ⟨es, heq, hacc⟩ := wire_send_received hu hs
      refine ⟨_, es, by rw [heq], by rw [heq], hacc.gauge, fun _ he => (by cases he),
        fun u' hu' => ?_⟩
      cases hu'
      rw [hs]
      exact hacc

/-- A call to a service the directory does not know fails, and yet no request and no error is
counted: the telemetry only moves the gauge. -/
theorem unresolved_call_uncounted :
    ∃ e, (wire ⟨Directory.empty, HeaderMap.empty, SnippetConfig.default⟩
        Network.unreachable).send (ServiceCall.make .get "jenkins" "api/json" 30000) ⟨[], []⟩ =
      (.answer (.error e), ⟨[], [.gauge inflightKey true, .gauge inflightKey false]⟩) ∧
    counterUpdates [.gauge inflightKey true, .gauge inflightKey false] = [] ∧
    recordsOf "error_kind" [.gauge inflightKey true, .gauge inflightKey false] = [] :=
  ⟨_, rfl, rfl, rfl⟩

/-! ## The answer -/

/-- The error of a refused response: its kind is `Auth` for 401 and 403, `NotFound` for 404,
`Conflict` for 409 and 412, `RateLimited` for 429 and `Api` for every other status, and it
gives back the response's status and request id. -/
theorem ofHttp_accessors (f : HttpFailure) :
    ((f.status.code = 401 ∨ f.status.code = 403) → (Error.ofHttp f).kind = .auth) ∧
    (f.status.code = 404 → (Error.ofHttp f).kind = .notFound) ∧
    ((f.status.code = 409 ∨ f.status.code = 412) → (Error.ofHttp f).kind = .conflict) ∧
    (f.status.code = 429 → (Error.ofHttp f).kind = .rateLimited) ∧
    (f.status.code ∉ [401, 403, 404, 409, 412, 429] → (Error.ofHttp f).kind = .api) ∧
    (Error.ofHttp f).status? = some f.status ∧ (Error.ofHttp f).requestId? = f.requestId := by
  simp only [Error.ofHttp, Error.kind, Refusal.ofStatus]
  refine ⟨fun h => ?_, fun h => ?_, fun h => ?_, fun h => ?_, fun h => ?_, rfl, rfl⟩
  · rcases h with h | h <;> simp [h, Refusal.kind]
  · simp [h, Refusal.kind]
  · rcases h with h | h <;> simp [h, Refusal.kind]
  · simp [h, Refusal.kind]
  · simp only [List.mem_cons, List.not_mem_nil, or_false, not_or] at h
    simp [h, Refusal.kind]

theorem sendRequest_other {net : Network ν} {call : ServiceCall} {name : String}
    (hm : call.method = .other name) (u : Url) (headers : HeaderMap) (n : ν) :
    sendRequest net call u headers n =
      (.error (.invalidConfig ("unsupported HTTP method for service requests: " ++ name) none),
        n) := by
  simp [sendRequest, hm]

/-- The answer to a call that resolves to `u`. A GET or POST that the network answers with a
response: a status from 400 to 599 gives the error of its status class, with the stripped URL,
the server's message, the request id and a body snippet, and any other status gives the response
itself. Any other method fails as a configuration error and the network is not asked. -/
theorem http_response_outcome (cfg : WireConfig) (net : Network ν) (call : ServiceCall)
    (st : WireState ν) {u : Url} (hu : cfg.directory.resolve call.service call.path = .ok u) :
    (∀ r n, (call.method = .get ∨ call.method = .post) →
      net.deliver ⟨call.method, u, cfg.defaultHeaders.extend call.headers, call.timeoutMs⟩
        st.net = (.response r, n) →
      ((wire cfg net).send call st).1 =
        .answer (if 400 ≤ r.status.code ∧ r.status.code ≤ 599 then
          .error (Error.ofHttp ⟨r.status, call.method, call.service, u.sanitize,
            extractMessage r.body, requestId r.headers, bodySnippet r.body cfg.snippet⟩)
        else .ok r) ∧
      ((wire cfg net).send call st).2.net = n) ∧
    (∀ name, call.method = .other name →
      ((wire cfg net).send call st).1 = .answer (.error
        (.invalidConfig ("unsupported HTTP method for service requests: " ++ name) none)) ∧
      ((wire cfg net).send call st).2.net = st.net) ∧
    (∀ f : HttpFailure,
      ((f.status.code = 401 ∨ f.status.code = 403) → (Error.ofHttp f).kind = .auth) ∧
      (f.status.code = 404 → (Error.ofHttp f).kind = .notFound) ∧
      ((f.status.code = 409 ∨ f.status.code = 412) → (Error.ofHttp f).kind = .conflict) ∧
      (f.status.code = 429 → (Error.ofHttp f).kind = .rateLimited) ∧
      (f.status.code ∉ [401, 403, 404, 409, 412, 429] → (Error.ofHttp f).kind = .api) ∧
      (Error.ofHttp f).status? = some f.status ∧ (Error.ofHttp f).requestId? = f.requestId) ∧
    (u.sanitize.query = none ∧ u.sanitize.fragment = none ∧ u.sanitize.username = "" ∧
      u.sanitize.password = none ∧ u.sanitize.scheme = u.scheme ∧ u.sanitize.host = u.host ∧
      u.sanitize.port = u.port ∧ u.sanitize.path = u.path) := by
  refine ⟨fun r n hm hd => ?_, fun name hm => ?_, ofHttp_accessors,
    ⟨rfl, rfl, rfl, rfl, rfl, rfl, rfl, rfl⟩⟩
  · obtain ⟨es, heq, -⟩ := wire_send_received hu (sendRequest_of_response hm hd)
    rw [heq]
    refine ⟨?_, rfl⟩
    by_cases he : 400 ≤ r.status.code ∧ r.status.code ≤ 599
    · have : r.status.isError = true := by simp [Status.isError, he.1, he.2]
      simp [refusalOf, this, he]
    · have : r.status.isError = false := by simp [Status.isError]; omega
      simp [refusalOf, this, he]
  · obtain ⟨es, heq, -⟩ := wire_send_unsent hu (sendRequest_other hm u _ st.net)
    rw [heq]
    exact ⟨rfl, rfl⟩

/-- Through a service pinned at `http://[::1]/ci/`, a GET of `job/a/api/json` that the server
answers with an empty 404 fails as `NotFound`, naming the URL it was sent to. -/
theorem http_response_outcome_pinned :
    let cfg : WireConfig := ⟨⟨none, [("jenkins", ⟨"http", "", none,
      some (.ipv6 [0, 0, 0, 0, 0, 0, 0, 1]), none, "/ci/", none, none⟩)]⟩,
      HeaderMap.empty, SnippetConfig.default⟩
    let net : Network Unit := ⟨fun _ s => (.response ⟨⟨404⟩, HeaderMap.empty, []⟩, s)⟩
    let call := ServiceCall.make .get "jenkins" "job/a/api/json" 30000
    let u : Url := ⟨"http", "", none, some (.ipv6 [0, 0, 0, 0, 0, 0, 0, 1]), none,
      "/ci/job/a/api/json", none, none⟩
    cfg.directory.resolve call.service call.path = .ok u ∧
      ((wire cfg net).send call ⟨(), []⟩).1 =
        .answer (.error
          (.refused .notFound ⟨⟨404⟩, .get, "jenkins", u, none, none, none⟩)) := by
  intro cfg net call u
  have hu : cfg.directory.resolve call.service call.path = .ok u :=
    eq_ok_of_toOption (by decide +kernel)
  refine ⟨hu, ?_⟩
  rw [((http_response_outcome cfg net call ⟨(), []⟩ hu).1 _ () (.inl rfl) rfl).1,
    if_pos (by decide)]
  exact congrArg (fun e => Reply.answer (.error e)) (by decide +kernel)

end CiClient.Service
