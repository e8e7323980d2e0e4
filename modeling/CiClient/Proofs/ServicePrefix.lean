import CiClient.Proofs.CopyRequestUrl
/-!
# Requests below the service prefix

A request path is joined below the base URL of its service after its leading `/`s are dropped.
That is the only guard, and the join reads the rest as a whole URL reference, so a request can
leave the base URL (`Directory.resolve_escapes_prefix`): `..` segments climb above the service's
prefix, and a `\`, which web URLs read as `/`, a scheme, or blanks before a `/` start a new path
or a new authority.

What does hold (`Directory.resolve_stays_below`): a reference with no scheme that does not start
with `/` or `\` and has no `..` segment keeps the base URL's scheme, host and port, and its path
starts with the base URL's path. The argument is one invariant of the path reader: a segment
that is not `..` only ever adds to the path (`prefix_addSegment`), so reading segments onto the
base path keeps it as a prefix (`prefix_readPath`).
-/

namespace CiClient.Url

variable {r : PathRules}

/-- The segments of the path part of a reference: the text up to the first character that ends
the path, split at every separator. -/
def PathRules.segmentsOf (r : PathRules) (cs : List Char) : List (List Char) :=
  (cs.takeWhile (!r.endsPath ·)).splitOnP r.isSeparator

/-- Whether a character neither ends a segment nor the path: `PathRules.Plain` as a test. -/
def PathRules.plainB (r : PathRules) (c : Char) : Bool := !r.isSeparator c && !r.endsPath c

theorem plain_of_plainB {c : Char} (h : r.plainB c = true) : r.Plain c := by
  simpa [PathRules.plainB, PathRules.Plain] using h

/-! ## The segments of a path text -/

/-- A plain start is kept whole when the path part is cut off. -/
theorem takeWhile_plain_append {pre : List Char} (hpre : ∀ x ∈ pre, r.Plain x)
    (rest : List Char) :
    (pre ++ rest).takeWhile (!r.endsPath ·) = pre ++ rest.takeWhile (!r.endsPath ·) := by
  apply List.takeWhile_append_of_pos
  intro x hx
  simp [(hpre x hx).2]

theorem segmentsOf_sep {pre : List Char} {c : Char} (hpre : ∀ x ∈ pre, r.Plain x)
    (hc : r.isSeparator c = true) (rest : List Char) :
    r.segmentsOf (pre ++ c :: rest) = pre :: r.segmentsOf rest := by
  -- a separator is `/` or `\`, which end no path
  have hcend : r.endsPath c = false := by
    have hc' : c = '/' ∨ c = '\\' := by
      simp only [PathRules.isSeparator, Bool.and_eq_true, Bool.or_eq_true, decide_eq_true_eq] at hc
      rcases hc.2 with h | h
      · exact .inl h
      · exact .inr h.2
    rcases hc' with rfl | rfl <;> simp [PathRules.endsPath]
  unfold PathRules.segmentsOf
  rw [takeWhile_plain_append hpre, List.takeWhile_cons_of_pos (by simp [hcend])]
  exact List.splitOnP_append_cons_of_forall_mem (fun x hx => (hpre x hx).1) c hc _

theorem segmentsOf_end {pre : List Char} {c : Char} (hpre : ∀ x ∈ pre, r.Plain x)
    (hc : r.endsPath c = true) (rest : List Char) : r.segmentsOf (pre ++ c :: rest) = [pre] := by
  unfold PathRules.segmentsOf
  rw [takeWhile_plain_append hpre, List.takeWhile_cons_of_neg (by simp [hc]), List.append_nil]
  exact List.splitOnP_eq_singleton fun x hx => (hpre x hx).1

theorem segmentsOf_plain {cs : List Char} (h : ∀ x ∈ cs, r.Plain x) : r.segmentsOf cs = [cs] := by
  have htake := takeWhile_plain_append h []
  simp only [List.append_nil, List.takeWhile_nil] at htake
  unfold PathRules.segmentsOf
  rw [htake]
  exact List.splitOnP_eq_singleton fun x hx => (h x hx).1

/-- A text is plain throughout, or its plain start is followed by a character that ends a
segment or the path. -/
theorem plain_or_stop (cs : List Char) :
    (∀ x ∈ cs, r.Plain x) ∨
      ∃ pre c rest, cs = pre ++ c :: rest ∧ (∀ x ∈ pre, r.Plain x) ∧ r.plainB c = false := by
  have hsplit := (@List.takeWhile_append_dropWhile _ r.plainB cs).symm
  have hpre : ∀ x ∈ cs.takeWhile r.plainB, r.Plain x :=
    fun x hx => plain_of_plainB (List.all_eq_true.mp List.all_takeWhile x hx)
  cases hdrop : cs.dropWhile r.plainB with
  | nil =>
    left
    rw [hdrop, List.append_nil] at hsplit
    rw [hsplit]
    exact hpre
  | cons c rest =>
    right
    have hc := List.head?_dropWhile_not r.plainB cs
    rw [hdrop] at hc
    rw [hdrop] at hsplit
    exact ⟨_, c, rest, hsplit, hpre, hc⟩

/-! ## Reading keeps the base path -/

/-- A segment that is not `..` only adds to the path. -/
theorem prefix_addSegment {seg : List Char} (h : isDoubleDot seg = false) (path : List Char)
    (slash : Bool) : path <+: (addSegment false path seg slash).1 := by
  simp only [addSegment, Bool.false_and, Bool.false_eq_true, if_false, h]
  split
  · split
    · exact List.prefix_refl path
    · exact List.prefix_append path _
  · rw [List.append_assoc]
    exact List.prefix_append path _

/-- Outside `file` URLs, reading a path text onto a path keeps that path as a prefix when no
segment of the text is written as `..`. The induction is on the fuel; each step reads one
segment, whose written form is not `..`, and goes on with the segments after it. -/
theorem prefix_go (hfile : r.file = false) : ∀ (fuel : Nat) (path input : List Char)
    (dropped : Bool),
    (∀ seg ∈ r.segmentsOf input, isDoubleDot (encodeChars r.encodeSet seg) = false) →
      path <+: (readPath.go r fuel path input dropped).1
  | 0, path, _, _, _ => List.prefix_refl path
  | fuel + 1, path, input, dropped, hdots => by
    rcases plain_or_stop input with hplain | ⟨pre, c, rest, rfl, hpre, hc⟩
    · -- the whole text is one last segment
      have hmem : input ∈ r.segmentsOf input := by
        rw [segmentsOf_plain hplain]
        exact List.mem_singleton_self _
      have hseg := hdots input hmem
      have hread : readPath.go r (fuel + 1) path input dropped =
          readPath.go r (fuel + 1) path (input ++ []) dropped := by rw [List.append_nil]
      rw [hread]
      simp only [readPath.go]
      rw [readSegment_plain_append input hplain, readSegment_nil]
      simpa [hfile] using prefix_addSegment hseg path false
    · by_cases hsep : r.isSeparator c = true
      · -- a separator ends the segment: the reader goes on after it
        have hsegs := segmentsOf_sep hpre hsep rest
        have hseg := hdots pre (by simp [hsegs])
        rw [go_sep hpre hsep, hfile]
        refine (prefix_addSegment hseg path true).trans (prefix_go hfile fuel _ rest _ ?_)
        intro seg hs
        exact hdots seg (by simp [hsegs, hs])
      · -- a `?` or `#` ends the path after this segment
        have hs : r.isSeparator c = false := Bool.eq_false_iff.mpr hsep
        have he : r.endsPath c = true := by
          simpa [PathRules.plainB, hs] using hc
        have hseg := hdots pre (by simp [segmentsOf_end hpre he rest])
        simp only [readPath.go]
        rw [readSegment_plain_append pre hpre, readSegment_end hs he]
        simpa [hfile] using prefix_addSegment hseg path false

theorem prefix_readPath (hfile : r.file = false) (path input : List Char)
    (hdots : ∀ seg ∈ r.segmentsOf input, isDoubleDot (encodeChars r.encodeSet seg) = false) :
    path <+: (readPath r path input).1 := by
  simp only [readPath, hfile, Bool.false_eq_true, if_false]
  exact prefix_go hfile _ path input false hdots

/-! ## Joining a reference -/

/-- A reference with no scheme that does not start with `/` or `\`, joined below a web base URL:
the base keeps its scheme, host and port, and, when no segment of the reference is `..`, its path
stays a prefix of the result's. -/
theorem join_stays_below {B : Url} (hB : B.JoinsBelow) (hweb : B.IsWeb) {ref : String}
    (hscheme : readScheme (cleanInput ref) = none)
    (hhead : ∀ c ∈ (cleanInput ref).head?, c ≠ '/' ∧ c ≠ '\\')
    (hdots : ∀ seg ∈ webRules.segmentsOf (cleanInput ref), isDoubleDot seg = false) :
    ∃ u, B.join ref = .ok u ∧ u.scheme = B.scheme ∧ u.host = B.host ∧ u.port = B.port ∧
      B.path.toList <+: u.path.toList := by
  have hcb : B.cannotBeABase = false := by
    obtain ⟨host, hhost⟩ := Option.isSome_iff_exists.mp hB.host
    simp [cannotBeABase, hhost]
  -- the reader writes each segment under the path set, which makes no `..` of a segment
  have hwritten : ∀ seg ∈ webRules.segmentsOf (cleanInput ref),
      isDoubleDot (encodeChars webRules.encodeSet seg) = false := by
    intro seg hs
    rw [webRules_encodeSet, show encodeChars pathSet seg = (encode pathSet (String.ofList seg)).toList
      by rw [toList_encode, String.toList_ofList]; rfl]
    cases h : isDoubleDot (encode pathSet (String.ofList seg)).toList with
    | false => rfl
    | true =>
      have := isDoubleDot_of_encode h
      rw [String.toList_ofList, hdots seg hs] at this
      cases this
  simp only [join, parse, hscheme]
  generalize cleanInput ref = cs at hhead hwritten
  split
  · exact ⟨_, rfl, rfl, rfl, rfl, List.prefix_refl _⟩
  · simp only [hcb, Bool.false_eq_true, if_false, if_neg hweb.not_file, resolveRelative,
      rulesOf_web hweb]
    split
    -- an empty reference, a query or a fragment: only what follows the path changes
    · exact ⟨_, rfl, rfl, rfl, rfl, List.prefix_refl _⟩
    · exact ⟨_, rfl, rfl, rfl, rfl, List.prefix_refl _⟩
    · exact ⟨_, rfl, rfl, rfl, rfl, List.prefix_refl _⟩
    · obtain ⟨h1, h2⟩ := hhead _ rfl
      rw [if_neg (by simp [h1, h2])]
      -- the base path ends with `/`, so the reference is read onto all of it
      have hpop : (if (popPath false B.path.toList).isEmpty then ['/']
          else popPath false B.path.toList) = B.path.toList := by
        rw [popPath_of_getLast hB.last]
        obtain ⟨t, ht⟩ := List.head?_eq_some_iff.mp hB.head
        simp [ht]
      simp only [hpop]
      refine ⟨_, rfl, rfl, rfl, rfl, ?_⟩
      simp only [withPathFrom, String.toList_ofList]
      exact prefix_readPath rfl _ _ hwritten

end CiClient.Url

namespace CiClient.Service.Directory

open Url

/-- What the join reads of a request path: the path without its leading `/`s, trimmed of controls
and spaces at both ends, without tabs and line breaks. -/
def requestInput (path : String) : List Char :=
  cleanInput (String.ofList (path.toList.dropWhile (· = '/')))

/-- A request path stays below the base URL of its service when what the join reads of it has no
scheme, does not start with `/` or `\`, and has no `..` segment: the URL keeps the base URL's
scheme, host and port, and its path starts with the base URL's path. -/
theorem resolve_stays_below {cluster : Option String} {pinned : List (String × String)}
    {d : Directory} (hd : build cluster pinned = .ok d) {service : String} {B : Url}
    (hB : d.baseUrl service = .ok B) (hweb : B.IsWeb) {path : String}
    (hscheme : readScheme (requestInput path) = none)
    (hhead : ∀ c ∈ (requestInput path).head?, c ≠ '/' ∧ c ≠ '\\')
    (hdots : ∀ seg ∈ webRules.segmentsOf (requestInput path), isDoubleDot seg = false) :
    ∃ u, d.resolve service path = .ok u ∧ u.scheme = B.scheme ∧ u.host = B.host ∧
      u.port = B.port ∧ B.path.toList <+: u.path.toList := by
  have hjoin := baseUrl_joinsBelow (build_webBased hd) hB hweb
  obtain ⟨u, hu, hrest⟩ := join_stays_below hjoin hweb hscheme hhead hdots
  exact ⟨u, resolve_of_join hB hu, hrest⟩

/-- A request path with a `.` segment and a query, on a service pinned below a prefix. -/
theorem resolve_stays_below_dotted :
    build none [("jenkins", "http://[::1]/service/jenkins")] =
        .ok ⟨none, [("jenkins", ⟨"http", "", none, some (.ipv6 [0, 0, 0, 0, 0, 0, 0, 1]), none,
          "/service/jenkins/", none, none⟩)]⟩ ∧
      (⟨none, [("jenkins", ⟨"http", "", none, some (.ipv6 [0, 0, 0, 0, 0, 0, 0, 1]), none,
          "/service/jenkins/", none, none⟩)]⟩ : Directory).baseUrl "jenkins" =
        .ok ⟨"http", "", none, some (.ipv6 [0, 0, 0, 0, 0, 0, 0, 1]), none, "/service/jenkins/",
          none, none⟩ ∧
      Url.IsWeb ⟨"http", "", none, some (.ipv6 [0, 0, 0, 0, 0, 0, 0, 1]), none, "/service/jenkins/",
        none, none⟩ ∧
      readScheme (requestInput "job/a/./api/json?tree=jobs") = none ∧
      (∀ c ∈ (requestInput "job/a/./api/json?tree=jobs").head?, c ≠ '/' ∧ c ≠ '\\') ∧
      (∀ seg ∈ webRules.segmentsOf (requestInput "job/a/./api/json?tree=jobs"),
        isDoubleDot seg = false) ∧
      let d : Directory := ⟨none, [("jenkins", ⟨"http", "", none,
        some (.ipv6 [0, 0, 0, 0, 0, 0, 0, 1]), none, "/service/jenkins/", none, none⟩)]⟩
      let B : Url := ⟨"http", "", none, some (.ipv6 [0, 0, 0, 0, 0, 0, 0, 1]), none,
        "/service/jenkins/", none, none⟩
      ∃ u, d.resolve "jenkins" "job/a/./api/json?tree=jobs" = .ok u ∧ u.scheme = B.scheme ∧
        u.host = B.host ∧ u.port = B.port ∧ B.path.toList <+: u.path.toList := by
  have hd : build none [("jenkins", "http://[::1]/service/jenkins")] =
      .ok ⟨none, [("jenkins", ⟨"http", "", none, some (.ipv6 [0, 0, 0, 0, 0, 0, 0, 1]), none,
        "/service/jenkins/", none, none⟩)]⟩ :=
    eq_ok_of_toOption (by decide +kernel)
  have hweb : Url.IsWeb ⟨"http", "", none, some (.ipv6 [0, 0, 0, 0, 0, 0, 0, 1]), none,
      "/service/jenkins/", none, none⟩ := .inl rfl
  have hscheme : readScheme (requestInput "job/a/./api/json?tree=jobs") = none := by
    decide +kernel
  have hhead : ∀ c ∈ (requestInput "job/a/./api/json?tree=jobs").head?, c ≠ '/' ∧ c ≠ '\\' := by
    intro c hc
    have hj : (requestInput "job/a/./api/json?tree=jobs").head? = some 'j' := by decide +kernel
    rw [hj, Option.mem_def, Option.some.injEq] at hc
    subst hc
    decide
  have hdots : ∀ seg ∈ webRules.segmentsOf (requestInput "job/a/./api/json?tree=jobs"),
      isDoubleDot seg = false := by
    have hall : (webRules.segmentsOf (requestInput "job/a/./api/json?tree=jobs")).all
        (fun seg => !isDoubleDot seg) = true := by decide +kernel
    intro seg hs
    simpa using List.all_eq_true.mp hall seg hs
  exact ⟨hd, rfl, hweb, hscheme, hhead, hdots, resolve_stays_below hd rfl hweb hscheme hhead hdots⟩

/-- Stripping leading `/`s does not keep a request below its service's prefix: on a service
pinned to `http://[::1]/service/jenkins`, the path `../x` climbs out of `/service/jenkins/`,
`\\[::2]/x` names another host, and ` /x` (a blank before the slash, trimmed by the join)
replaces the whole path. -/
theorem resolve_escapes_prefix :
    let d : Directory := ⟨none, [("jenkins", ⟨"http", "", none,
      some (.ipv6 [0, 0, 0, 0, 0, 0, 0, 1]), none, "/service/jenkins/", none, none⟩)]⟩
    build none [("jenkins", "http://[::1]/service/jenkins")] = .ok d ∧
      d.baseUrl "jenkins" = .ok ⟨"http", "", none, some (.ipv6 [0, 0, 0, 0, 0, 0, 0, 1]), none,
        "/service/jenkins/", none, none⟩ ∧
      d.resolve "jenkins" "../x" = .ok ⟨"http", "", none, some (.ipv6 [0, 0, 0, 0, 0, 0, 0, 1]),
        none, "/service/x", none, none⟩ ∧
      d.resolve "jenkins" "\\\\[::2]/x" = .ok ⟨"http", "", none,
        some (.ipv6 [0, 0, 0, 0, 0, 0, 0, 2]), none, "/x", none, none⟩ ∧
      d.resolve "jenkins" " /x" = .ok ⟨"http", "", none, some (.ipv6 [0, 0, 0, 0, 0, 0, 0, 1]),
        none, "/x", none, none⟩ ∧
      ¬ "/service/jenkins/".toList <+: "/service/x".toList := by
  refine ⟨eq_ok_of_toOption (by decide +kernel), rfl, eq_ok_of_toOption (by decide +kernel),
    eq_ok_of_toOption (by decide +kernel), eq_ok_of_toOption (by decide +kernel), by decide⟩

end CiClient.Service.Directory
