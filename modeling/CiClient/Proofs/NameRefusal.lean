import CiClient.Proofs.OperationCalls
/-!
# Refused names

Every operation of the client checks its job names before it does anything else. A refused name
ends the operation at once with an `InvalidName` error that carries the name and the reason: the
operation is `Exchange.fail` of that error, so over every transport it makes no call and notes
nothing. A copy checks both its names as query values, the source first.

With its names accepted an operation goes on (`Exchange.Proceeds`): it makes a call whatever the
answers, and it refuses no name of its own, so over a transport that refuses none it never
finishes with `InvalidName`. A copy cannot fail on its destination's name after its first post,
since a name accepted as a query value is accepted in a path.

The second half rests on `Exchange.NoNameRefusal`, an invariant of exchange trees that `bind`
keeps, so each operation inherits it from the calls it is built of. The main statement is
`Client.names_checked_first`.
-/

namespace CiClient.Client

open Service Job

variable {σ α β : Type}

/-- A result that is no refusal of a name. -/
def RefusesNoName (r : Except Error α) : Prop := ∀ e, r = .error e → e.kind ≠ .invalidName

/-- A transport whose answers refuse no name. -/
def AnswersNoRefusal (t : Transport σ) : Prop :=
  ∀ call s r s', t.send call s = (.answer r, s') → RefusesNoName r

@[simp] theorem refusesNoName_ok (a : α) : RefusesNoName (.ok a : Except Error α) := by
  intro e h
  cases h

@[simp] theorem refusesNoName_error {e : Error} :
    RefusesNoName (.error e : Except Error α) ↔ e.kind ≠ .invalidName := by
  constructor
  · intro h
    exact h e rfl
  · intro h e' he'
    cases he'
    exact h

/-- An exchange that refuses no name of its own: while the answers it is given refuse none, so
does every result it finishes with. -/
inductive Exchange.NoNameRefusal : Exchange α → Prop
  | done {r : Except Error α} (h : RefusesNoName r) : NoNameRefusal (.done r)
  | call {c : ServiceCall} {next : Except Error Response → Exchange α}
      (h : ∀ r, RefusesNoName r → NoNameRefusal (next r)) : NoNameRefusal (.call c next)
  | note {e : Entry} {next : Exchange α} (h : NoNameRefusal next) : NoNameRefusal (.note e next)

/-- What an operation does with its names accepted: it makes a call whatever the answers, and
over a transport that refuses no name it finishes without refusing one. -/
structure Exchange.Proceeds (x : Exchange α) : Prop where
  calls : ∀ answer, x.calls answer ≠ []
  finishes : ∀ {σ : Type} (t : Transport σ) (s : σ) (r : Except Error α),
    AnswersNoRefusal t → (x.run t s).1 = .finished r → RefusesNoName r

namespace Exchange

theorem NoNameRefusal.bind {x : Exchange α} {f : α → Exchange β} (hx : NoNameRefusal x)
    (hf : ∀ a, NoNameRefusal (f a)) : NoNameRefusal (x >>= f) := by
  induction hx with
  | @done r h =>
    cases r with
    | ok a => exact hf a
    | error e => exact .done (refusesNoName_error.2 (refusesNoName_error.1 h))
  | call _ ih => exact .call fun r hr => ih r hr
  | note _ ih => exact .note ih

theorem noNameRefusal_pure (a : α) : NoNameRefusal (pure a : Exchange α) :=
  .done (refusesNoName_ok a)

theorem noNameRefusal_send (c : ServiceCall) : NoNameRefusal (Exchange.send c) :=
  .call fun _ hr => .done hr

theorem noNameRefusal_emit (e : Entry) : NoNameRefusal (Exchange.emit e) :=
  .note (.done (refusesNoName_ok ()))

/-- Over a transport that refuses no name, an exchange that refuses none of its own finishes
without a refusal. The induction follows the run: a call passes the transport's answer on. -/
theorem NoNameRefusal.run {x : Exchange α} (hx : NoNameRefusal x) {t : Transport σ}
    (ht : AnswersNoRefusal t) (s : σ) {r : Except Error α}
    (hr : (x.run t s).1 = .finished r) : RefusesNoName r := by
  induction hx generalizing s with
  | done h =>
    cases hr
    exact h
  | @call c next _ ih =>
    simp only [Exchange.run] at hr
    rcases hT : t.send c s with ⟨reply, s'⟩
    rw [hT] at hr
    cases reply with
    | crash m => cases hr
    | answer a => exact ih a (ht c s a s' hT) s' hr
  | note _ ih => exact ih _ hr

theorem calls_emit_bind (e : Entry) (f : Unit → Exchange β)
    (answer : ServiceCall → Except Error Response) :
    (Exchange.emit e >>= f).calls answer = (f ()).calls answer :=
  rfl

theorem calls_bind_ne_nil {x : Exchange α} {f : α → Exchange β}
    {answer : ServiceCall → Except Error Response} (h : x.calls answer ≠ []) :
    (x >>= f).calls answer ≠ [] := by
  induction x with
  | done r => exact absurd rfl h
  | call c next _ => exact List.cons_ne_nil _ _
  | note e next ih => exact ih h

theorem NoNameRefusal.proceeds {x : Exchange α} (hx : NoNameRefusal x)
    (hc : ∀ answer, x.calls answer ≠ []) : Proceeds x :=
  ⟨hc, fun _ s _ ht hr => hx.run ht s hr⟩

end Exchange

end CiClient.Client

namespace CiClient.Job

variable {n : String} {i : NameIssue}

theorem checkPathName_refused (h : pathIssue? n = some i) :
    checkPathName n = .error ⟨n, i⟩ := by
  simp [checkPathName, h]

theorem checkQueryName_refused (h : queryIssue? n = some i) :
    checkQueryName n = .error ⟨n, i⟩ := by
  simp [checkQueryName, h]

/-- Whatever follows the check of a refused path name, the refusal is the result. -/
theorem checkPathName_bind_refused {β : Type} (h : pathIssue? n = some i)
    (f : String → Except NameRefusal β) : (checkPathName n >>= f) = .error ⟨n, i⟩ := by
  rw [checkPathName_refused h]
  rfl

/-- A copy refuses its source first, then its destination. -/
theorem copyPath_refused {src dst : String} :
    (queryIssue? src = some i → copyPath src dst = .error ⟨src, i⟩) ∧
    (queryIssue? src = none → queryIssue? dst = some i →
      copyPath src dst = .error ⟨dst, i⟩) := by
  constructor
  · intro hsrc
    simp only [copyPath, checkQueryName_refused hsrc]
    rfl
  · intro hsrc hdst
    simp only [copyPath, checkQueryName_ok hsrc, checkQueryName_refused hdst]
    rfl

end CiClient.Job

namespace CiClient.Client

open Service Job Exchange

variable {σ α β : Type} (c : Client)

/-! ## A refused name fails the operation before anything else -/

theorem checked_bind_refused {r : Except NameRefusal Endpoint} {ref : NameRefusal}
    (h : r = .error ref) (k : Endpoint → Exchange β) :
    (checked r >>= k) = .fail (.invalidName ref.name ref.issue.reason) := by
  subst h
  rfl

section Refused

variable {j : String} {i : NameIssue} (h : pathIssue? j = some i)
include h

theorem enableJob_refused : c.enableJob j = .fail (.invalidName j i.reason) :=
  checked_bind_refused (checkPathName_bind_refused h _) _

theorem disableJob_refused : c.disableJob j = .fail (.invalidName j i.reason) :=
  checked_bind_refused (checkPathName_bind_refused h _) _

theorem getJob_refused : c.getJob j = .fail (.invalidName j i.reason) :=
  checked_bind_refused (checkPathName_bind_refused h _) _

theorem getBuild_refused (n : Nat) : c.getBuild j n = .fail (.invalidName j i.reason) :=
  checked_bind_refused (checkPathName_bind_refused h _) _

theorem getBuilds_refused : c.getBuilds j = .fail (.invalidName j i.reason) := by
  rw [getBuilds, getJob_refused c h]
  rfl

theorem namedBuild_refused (which : BuildSelector) :
    c.namedBuild j which = .fail (.invalidName j i.reason) := by
  rw [namedBuild, getJob_refused c h]
  rfl

end Refused

/-! ## With its names accepted an operation goes on -/

theorem refusesNoName_decodeResponse (reader : Nat → Json.Reader α) (path : String)
    (resp : Response) : RefusesNoName (c.decodeResponse reader path resp) := by
  unfold decodeResponse
  cases Json.decodeWith reader resp.body with
  | ok v => exact refusesNoName_ok v
  | error je => exact refusesNoName_error.2 (by simp [Error.kind])

theorem noNameRefusal_getJson (reader : Nat → Json.Reader α) (path : String) :
    NoNameRefusal (c.getJson reader path) := by
  refine .call fun r hr => ?_
  cases r with
  | error e => exact .done (refusesNoName_error.2 (refusesNoName_error.1 hr))
  | ok resp => exact .done (refusesNoName_decodeResponse c reader path resp)

theorem proceeds_post (path : String) : (c.post path).Proceeds :=
  (noNameRefusal_send _).proceeds fun _ => List.cons_ne_nil _ _

theorem proceeds_getJson (reader : Nat → Json.Reader α) (path : String) :
    (c.getJson reader path).Proceeds :=
  (noNameRefusal_getJson c reader path).proceeds fun _ => List.cons_ne_nil _ _

section Accepted

variable {j : String} (h : pathIssue? j = none)
include h

theorem getBuilds_proceeds : (c.getBuilds j).Proceeds := by
  rw [getBuilds, getJob_eq c h]
  refine NoNameRefusal.proceeds ?_ fun _ => calls_bind_ne_nil (List.cons_ne_nil _ _)
  exact (noNameRefusal_getJson c _ _).bind fun _ => noNameRefusal_pure _

/-- The first or last build: the job's document first, then that build's document or the note
that there is none. -/
theorem namedBuild_proceeds (which : BuildSelector) : (c.namedBuild j which).Proceeds := by
  rw [namedBuild, getJob_eq c h]
  refine NoNameRefusal.proceeds ?_ fun _ => calls_bind_ne_nil (List.cons_ne_nil _ _)
  refine (noNameRefusal_getJson c _ _).bind fun job => ?_
  cases job.buildRef which with
  | some b =>
    dsimp only
    rw [getBuild_eq c h]
    exact (noNameRefusal_getJson c _ _).bind fun _ => noNameRefusal_pure _
  | none => exact (noNameRefusal_emit _).bind fun _ => noNameRefusal_pure _

end Accepted

/-- A copy with both names accepted notes its event, then posts three times. -/
theorem copyJob_proceeds {src dst : String} (hsrc : queryIssue? src = none)
    (hdst : queryIssue? dst = none) : (c.copyJob src dst).Proceeds := by
  rw [copyJob_eq c hsrc hdst]
  have hposts : NoNameRefusal (c.post ("createItem?name=" ++ dst ++ "&mode=copy&from=" ++ src) >>=
      fun _ => c.post ("job/" ++ dst ++ "/disable") >>= fun _ =>
        c.post ("job/" ++ dst ++ "/enable") >>= fun _ => pure ()) :=
    (noNameRefusal_send _).bind fun _ => (noNameRefusal_send _).bind fun _ =>
      (noNameRefusal_send _).bind fun _ => noNameRefusal_pure _
  refine NoNameRefusal.proceeds ((noNameRefusal_emit _).bind fun _ => hposts) fun answer => ?_
  -- the note makes no call; the first post does
  rw [calls_emit_bind]
  exact calls_bind_ne_nil (List.cons_ne_nil _ _)

/-! ## Names are checked before any call -/

/-- Every operation checks its names first. A refused name fails the operation with the
`InvalidName` error of that name and its reason, and nothing else happens: no call, no note. A
copy checks both names as query values, the source first; every other operation checks its name
as a path name. With every name accepted, each operation makes a call whatever the answers and
refuses no name of its own. A copy uses its destination in paths after its first post, and is
never refused there, since a name accepted as a query value is accepted in a path. -/
theorem names_checked_first :
    (∀ n, queryIssue? n = none → pathIssue? n = none) ∧
    (∀ j i, pathIssue? j = some i →
      c.enableJob j = .fail (.invalidName j i.reason) ∧
      c.disableJob j = .fail (.invalidName j i.reason) ∧
      c.getJob j = .fail (.invalidName j i.reason) ∧
      c.getBuilds j = .fail (.invalidName j i.reason) ∧
      (∀ n, c.getBuild j n = .fail (.invalidName j i.reason)) ∧
      ∀ which, c.namedBuild j which = .fail (.invalidName j i.reason)) ∧
    (∀ src dst i, queryIssue? src = some i →
      c.copyJob src dst = .fail (.invalidName src i.reason)) ∧
    (∀ src dst i, queryIssue? src = none → queryIssue? dst = some i →
      c.copyJob src dst = .fail (.invalidName dst i.reason)) ∧
    (∀ j, pathIssue? j = none →
      (c.enableJob j).Proceeds ∧ (c.disableJob j).Proceeds ∧ (c.getJob j).Proceeds ∧
      (c.getBuilds j).Proceeds ∧ (∀ n, (c.getBuild j n).Proceeds) ∧
      ∀ which, (c.namedBuild j which).Proceeds) ∧
    (∀ src dst, queryIssue? src = none → queryIssue? dst = none →
      (c.copyJob src dst).Proceeds) := by
  refine ⟨fun _ => pathIssue?_of_queryIssue?, fun j i h => ?refused, fun src dst i hsrc => ?src,
    fun src dst i hsrc hdst => ?dst, fun j h => ?accepted, fun _ _ => copyJob_proceeds c⟩
  case refused =>
    exact ⟨enableJob_refused c h, disableJob_refused c h, getJob_refused c h,
      getBuilds_refused c h, getBuild_refused c h, namedBuild_refused c h⟩
  case src => exact checked_bind_refused (copyPath_refused.1 hsrc) _
  case dst => exact checked_bind_refused (copyPath_refused.2 hsrc hdst) _
  case accepted =>
    refine ⟨?_, ?_, ?_, getBuilds_proceeds c h, fun n => ?_, namedBuild_proceeds c h⟩
    · rw [enableJob_eq c h]
      exact proceeds_post c _
    · rw [disableJob_eq c h]
      exact proceeds_post c _
    · rw [getJob_eq c h]
      exact proceeds_getJson c _ _
    · rw [getBuild_eq c h]
      exact proceeds_getJson c _ _

/-- A copy to `a=b` by the default client of `jenkins`: the destination is a valid path name but
holds `=`, so the copy is refused for it as a query value, while reading the job `a=b` goes on
to its call. -/
theorem copy_to_reserved_name_refused :
    queryIssue? "nightly" = none ∧ queryIssue? "a=b" = some .queryReserved ∧
      pathIssue? "a=b" = none ∧
      (Client.ofService "jenkins").copyJob "nightly" "a=b" =
        .fail (.invalidName "a=b" NameIssue.queryReserved.reason) ∧
      ((Client.ofService "jenkins").getJob "a=b").Proceeds := by
  have hsrc : queryIssue? "nightly" = none := by decide +kernel
  have hdst : queryIssue? "a=b" = some .queryReserved := by decide +kernel
  have hpath : pathIssue? "a=b" = none := by decide +kernel
  obtain ⟨-, -, -, hcopy, haccepted, -⟩ := names_checked_first (Client.ofService "jenkins")
  exact ⟨hsrc, hdst, hpath, hcopy "nightly" "a=b" _ hsrc hdst, (haccepted "a=b" hpath).2.2.1⟩

end CiClient.Client
