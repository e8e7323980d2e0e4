import CiClient.Proofs.SegmentPush
import CiClient.Proofs.JobRequestUrl
/-!
# Base URLs of services

A directory built from an optional cluster URL and URLs pinned per service gives each service a
base URL (`Directory.service_base_url`):

* a service pinned under its exact name gets the URL pinned last for it, as `normalizeBase`
  reads it;
* any other service goes through the cluster URL. Without one, the directory refuses it. With
  one, the route succeeds exactly when the cluster URL is hierarchical and the name has a
  non-empty segment, and the base URL is then the cluster URL with the path `clusterRoute`: the
  cluster path, `service/`, and each segment of the name that is not `.` or `..`, written and
  followed by `/`.

The cluster path is kept as it is except `//`: a final empty segment is dropped before `service`
is pushed, and of `//` that leaves `/`. A written segment holds no `/` and decodes back to the
segment, so two names reach the same base URL only if they have the same routed segments. Names
whose segments hold a tab or a line break are left out of the last two facts: a push drops those
characters, and what is left may be `..`.
-/

namespace CiClient.Url

theorem popIfEmpty_root {u : Url} (h : u.path.toList = ['/']) : u.popIfEmpty = u := by
  unfold popIfEmpty
  rw [if_neg]
  simp [String.length, h]

theorem popIfEmpty_slash {u : Url} {q : List Char} (h : u.path.toList = q ++ ['/'])
    (hq : q ≠ []) : u.popIfEmpty = { u with path := String.ofList q } := by
  have hend : u.path.endsWith "/" = true := (endsWith_slash_iff _).mpr (by simp [h])
  have hlen : u.path.length > 1 := by
    have : 0 < q.length := List.length_pos_iff.mpr hq
    simp only [String.length, h, List.length_append, List.length_singleton]
    omega
  unfold popIfEmpty
  rw [if_pos (by simp [hlen, hend])]
  simp [h]

theorem head_pushSegment_of_head {u : Url} (h : u.path.toList.head? = some '/') (seg : String) :
    (u.pushSegment seg).path.toList.head? = some '/' := by
  unfold pushSegment
  split
  · exact h
  · simp only [String.toList_ofList]
    apply head_readPath_of_head
    split
    · exact head_append_of_head h
    · exact h

theorem pushSegment_hierarchical {u : Url} (h : u.cannotBeABase = false) (seg : String) :
    (u.pushSegment seg).cannotBeABase = false := by
  rcases (cannotBeABase_eq_false_iff u).mp h with hhost | hhead
  · exact (cannotBeABase_eq_false_iff _).mpr (.inl (by simpa using hhost))
  · exact (cannotBeABase_eq_false_iff _).mpr (.inr (head_pushSegment_of_head hhead seg))

theorem popIfEmpty_hierarchical {u : Url} (h : u.cannotBeABase = false) :
    u.popIfEmpty.cannotBeABase = false := by
  rcases (cannotBeABase_eq_false_iff u).mp h with hhost | hhead
  · exact (cannotBeABase_eq_false_iff _).mpr (.inl (by simpa using hhost))
  · exact (cannotBeABase_eq_false_iff _).mpr (.inr (head_popIfEmpty hhead))

/-- Each push keeps a host, or a path that starts with `/`. -/
theorem foldl_pushSegment_hierarchical :
    ∀ (segs : List String) {v : Url}, v.cannotBeABase = false →
      (segs.foldl pushSegment v).cannotBeABase = false
  | [], _, h => h
  | seg :: segs, _, h => foldl_pushSegment_hierarchical segs (pushSegment_hierarchical h seg)

end CiClient.Url

namespace CiClient.Service

open Url Text

/-- The segments of a service name that a push writes: the non-empty ones other than `.` and
`..`. -/
def routedSegments (service : String) : List String := (nameSegments service).filter isPushed

/-- The path of the base URL of a service reached through a cluster URL whose path is
`clusterPath`: that path (`/` for `//`), `service/`, and each segment written under `set` and
followed by `/`. -/
def clusterRoute (set : EncodeSet) (clusterPath : String) (segs : List String) : String :=
  (if clusterPath = "//" then "/" else clusterPath) ++ "service/" ++
    String.join (segs.map fun seg => encode set seg ++ "/")

theorem flatMap_slash_cons (l : List String) (f : String → List Char) :
    l.flatMap (fun x => '/' :: f x) ++ ['/'] = '/' :: l.flatMap (fun x => f x ++ ['/']) := by
  induction l with
  | nil => rfl
  | cons x l ih => simp [ih]

theorem toList_clusterRoute (set : EncodeSet) (clusterPath : String) (segs : List String) :
    (clusterRoute set clusterPath segs).toList =
      (if clusterPath = "//" then ['/'] else clusterPath.toList) ++ "service/".toList ++
        segs.flatMap fun seg => encodeChars set seg.toList ++ ['/'] := by
  have hroot : ("/" : String).toList = ['/'] := rfl
  simp only [clusterRoute, String.toList_append, String.toList_join, List.flatMap_map,
    toList_encode, hroot]
  split <;> rfl

/-- A written segment holds no `/`, so the pieces of a route split at its `/`s. -/
theorem append_slash_injective {a b r₁ r₂ : List Char} (ha : '/' ∉ a) (hb : '/' ∉ b)
    (h : a ++ '/' :: r₁ = b ++ '/' :: r₂) : a = b ∧ r₁ = r₂ := by
  induction a generalizing b with
  | nil =>
    cases b with
    | nil => exact ⟨rfl, by simpa using h⟩
    | cons y b =>
      have : '/' = y := (List.cons.inj h).1
      exact absurd (this ▸ List.mem_cons_self) hb
  | cons x a ih =>
    cases b with
    | nil =>
      have : x = '/' := (List.cons.inj h).1
      exact absurd (this ▸ List.mem_cons_self) ha
    | cons y b =>
      obtain ⟨hxy, h⟩ := List.cons.inj h
      obtain ⟨hab, hr⟩ := ih (fun hm => ha (List.mem_cons_of_mem x hm))
        (fun hm => hb (List.mem_cons_of_mem y hm)) h
      exact ⟨by rw [hxy, hab], hr⟩

theorem flatMap_written_injective {set : EncodeSet} (hset : set.ForSegment) :
    ∀ xs ys : List String,
      (xs.flatMap fun x => encodeChars set x.toList ++ ['/']) =
        (ys.flatMap fun y => encodeChars set y.toList ++ ['/']) → xs = ys
  | [], [], _ => rfl
  | [], y :: ys, h => by simp at h
  | x :: xs, [], h => by simp at h
  | x :: xs, y :: ys, h => by
    simp only [List.flatMap_cons, List.append_assoc, List.singleton_append] at h
    obtain ⟨hxy, hrest⟩ := append_slash_injective (slash_not_mem_encodeChars hset _)
      (slash_not_mem_encodeChars hset _) h
    -- the written forms are equal, and writing under a segment set is injective
    have hx : x = y := by
      apply encode_injective hset.percent
      apply String.toList_inj.mp
      rw [toList_encode, toList_encode]
      exact hxy
    rw [hx, flatMap_written_injective hset xs ys hrest]

/-- Routes below one cluster path are equal only for equal segments. -/
theorem clusterRoute_injective {set : EncodeSet} (hset : set.ForSegment) {clusterPath : String}
    {xs ys : List String} (h : clusterRoute set clusterPath xs = clusterRoute set clusterPath ys) :
    xs = ys := by
  have h' := congrArg String.toList h
  rw [toList_clusterRoute, toList_clusterRoute, List.append_assoc, List.append_assoc] at h'
  exact flatMap_written_injective hset xs ys (List.append_cancel_left (List.append_cancel_left h'))

theorem endpointUrl_of_hierarchical {b : Url} (hb : b.cannotBeABase = false) (segs : List String) :
    endpointUrl b segs = .ok (segs.foldl pushSegment b.popIfEmpty) := by
  simp [endpointUrl, hb, pure, Except.pure]

theorem hierarchical_of_endpointUrl {b u : Url} {segs : List String}
    (h : endpointUrl b segs = .ok u) : b.cannotBeABase = false := by
  cases hb : b.cannotBeABase
  · rfl
  · simp [endpointUrl, hb, throw, throwThe, MonadExceptOf.throw] at h

/-- Segments pushed below a hierarchical URL leave a hierarchical URL, so the check that follows
`endpointUrl` in `Directory.baseUrl` never fails. -/
theorem endpointUrl_hierarchical {b u : Url} {segs : List String}
    (h : endpointUrl b segs = .ok u) : u.cannotBeABase = false := by
  have hb := hierarchical_of_endpointUrl h
  rw [endpointUrl_of_hierarchical hb] at h
  cases h
  exact foldl_pushSegment_hierarchical segs (popIfEmpty_hierarchical hb)

/-- `service` is written as it is under either segment set. -/
theorem encodeChars_service (u : Url) :
    encodeChars (pushSet u) "service".toList = "service".toList := by
  unfold pushSet
  split <;> decide

theorem service_kept : ∀ c ∈ "service".toList, isDropped c = false := by
  have hall : ("service".toList.all fun c => !isDropped c) = true := by decide
  simpa using hall

/-- Pushing `service` and segments below a cluster URL: the cluster path (`/` for `//`) is
followed by `service` and, for each segment that is pushed, `/` and the written segment. The
cases follow the length of the cluster path, since `popIfEmpty` leaves `/` of `/` and `//`. -/
theorem endpointUrl_service {c : Url} (hcb : c.cannotBeABase = false)
    (hhead : c.path.toList.head? = some '/') (hlast : c.path.toList.getLast? = some '/')
    (hfile : c.scheme = "file" → FileShaped c.path.toList) (segs : List String)
    (hkept : ∀ seg ∈ segs, ∀ ch ∈ seg.toList, isDropped ch = false) :
    endpointUrl c ("service" :: segs) =
      .ok { c with path := String.ofList ((if c.path.toList = ['/', '/'] then ['/']
        else c.path.toList) ++ "service".toList ++
          (segs.filter isPushed).flatMap fun seg => '/' :: encodeChars (pushSet c) seg.toList) } := by
  have hdot : ("service" = "." || "service" = "..") = false := by decide
  have hletter : isDriveLetter "service".toList = false := by decide
  -- the URL after `service` is pushed onto the cluster URL without its final empty segment
  have hstart : c.popIfEmpty.pushSegment "service" =
      { c with path := String.ofList ((if c.path.toList = ['/', '/'] then ['/']
        else c.path.toList) ++ "service".toList) } := by
    obtain ⟨q, hq⟩ := List.getLast?_eq_some_iff.mp hlast
    cases q with
    | nil =>
      rw [popIfEmpty_root hq, pushSegment_root hdot service_kept hq
        (fun _ => by rw [encodeChars_service]; exact hletter), encodeChars_service]
      simp [hq]
    | cons a q =>
      rw [popIfEmpty_slash hq (by simp)]
      cases q with
      | nil =>
        have ha : a = '/' := by simpa [hq] using hhead
        subst ha
        rw [pushSegment_root hdot service_kept (by simp)
          (fun _ => by rw [pushSet_with_path, encodeChars_service]; exact hletter),
          pushSet_with_path, encodeChars_service]
        simp [hq]
      | cons b q =>
        -- a path of three or more characters is kept, and `service` follows its final `/`
        have hshape : c.scheme = "file" → FileShaped (a :: b :: q) := by
          intro hf
          obtain ⟨m, hm, hmh⟩ := hfile hf
          rw [hq] at hm
          obtain ⟨rfl, rfl⟩ := List.cons.inj hm
          exact ⟨b :: q, rfl, by simpa using hmh⟩
        rw [pushSegment_long hdot service_kept (by simp) (by simpa using hshape),
          pushSet_with_path, encodeChars_service]
        simp [hq]
  have hlong : 1 < ((if c.path.toList = ['/', '/'] then ['/'] else c.path.toList) ++
      "service".toList).length := by
    rw [List.length_append]
    have : "service".toList.length = 7 := rfl
    omega
  have hshape : c.scheme = "file" → FileShaped ((if c.path.toList = ['/', '/'] then ['/']
      else c.path.toList) ++ "service".toList) := by
    intro hf
    have hc := hfile hf
    -- a file path is never `//`
    have hne : c.path.toList ≠ ['/', '/'] := by
      intro h
      obtain ⟨m, hm, hmh⟩ := hc
      rw [h] at hm
      obtain ⟨-, rfl⟩ := List.cons.inj hm
      exact hmh rfl
    rw [if_neg hne]
    exact fileShaped_append hc (fun _ => by decide)
  rw [endpointUrl_of_hierarchical hcb, List.foldl_cons, hstart,
    foldl_pushSegment (by simp) (by simpa using hshape) segs hkept]
  simp [pushSet_with_path]

namespace Directory

theorem baseUrl_pinned {d : Directory} {s : String} {u : Url}
    (h : d.endpoints.lookup s = some u) : d.baseUrl s = .ok u := by
  simp [baseUrl, h, pure, Except.pure]

theorem baseUrl_unrouted {d : Directory} {s : String} (h : d.endpoints.lookup s = none)
    (hc : d.cluster = none) :
    d.baseUrl s = .error (.invalidConfig ("no endpoint configured for service `" ++ s ++ "`") none) := by
  simp [baseUrl, h, hc, throw, throwThe, MonadExceptOf.throw]

/-- Through a cluster URL, a name with a segment gets the URL that `endpointUrl` gives, with an
empty segment pushed. -/
theorem baseUrl_cluster {d : Directory} {s : String} {c u : Url} (h : d.endpoints.lookup s = none)
    (hc : d.cluster = some c) (hne : nameSegments s ≠ [])
    (hu : endpointUrl c ("service" :: nameSegments s) = .ok u) :
    d.baseUrl s = .ok (u.pushSegment "") := by
  have hempty : (nameSegments s).isEmpty = false := by simpa using hne
  simp only [baseUrl, h, hc, hempty, Bool.false_eq_true, if_false, hu, bind, Except.bind,
    endpointUrl_hierarchical hu, pure, Except.pure]

/-- A service without a pinned URL is reached through a cluster URL exactly when that URL is
hierarchical and the name has a non-empty segment. -/
theorem baseUrl_cluster_ok_iff {d : Directory} {s : String} {c : Url}
    (h : d.endpoints.lookup s = none) (hc : d.cluster = some c) :
    (∃ u, d.baseUrl s = .ok u) ↔ c.cannotBeABase = false ∧ nameSegments s ≠ [] := by
  constructor
  · rintro ⟨u, hu⟩
    rcases baseUrl_eq_ok hu with hl | ⟨c', v, -, hc', hempty, hv, -⟩
    · rw [h] at hl
      cases hl
    · rw [hc] at hc'
      cases hc'
      exact ⟨hierarchical_of_endpointUrl hv, by simpa using hempty⟩
  · rintro ⟨hcb, hne⟩
    exact ⟨_, baseUrl_cluster h hc hne (endpointUrl_of_hierarchical hcb _)⟩

/-- The base URL of a service reached through a hierarchical cluster URL that `normalizeBase`
read, for a name with a segment and no tab or line break in its segments. The empty segment that
`baseUrl` pushes last is one more segment of the fold in `endpointUrl_service`. -/
theorem baseUrl_route {d : Directory} {s raw : String} {c : Url} (h : d.endpoints.lookup s = none)
    (hc : d.cluster = some c) (hraw : normalizeBase raw = .ok c) (hcb : c.cannotBeABase = false)
    (hne : nameSegments s ≠ [])
    (hkept : ∀ seg ∈ nameSegments s, ∀ ch ∈ seg.toList, isDropped ch = false) :
    d.baseUrl s = .ok { c with path := clusterRoute (pushSet c) c.path (routedSegments s) } := by
  obtain ⟨-, -, hhead, hlast, hfile⟩ := normalizeBase_hierarchical hraw hcb
  rw [baseUrl_cluster h hc hne (endpointUrl_of_hierarchical hcb _)]
  have hall := endpointUrl_service hcb hhead hlast hfile (nameSegments s ++ [""])
    (by
      intro seg hseg
      rcases List.mem_append.mp hseg with hseg | hseg
      · exact hkept seg hseg
      · rw [List.mem_singleton.mp hseg]
        simp)
  rw [endpointUrl_of_hierarchical hcb, ← List.cons_append, List.foldl_append, List.foldl_cons,
    List.foldl_nil] at hall
  rw [Except.ok.inj hall]
  have hempty : isPushed "" = true := by decide
  have hservice : ("service/" : String).toList = "service".toList ++ ['/'] := rfl
  have hroot : c.path = "//" ↔ c.path.toList = ['/', '/'] := by
    rw [← String.toList_inj]
    rfl
  refine congrArg (fun p : String => Except.ok ({ c with path := p } : Url)) ?_
  apply String.toList_inj.mp
  rw [String.toList_ofList, toList_clusterRoute, List.filter_append, List.filter_cons, hempty,
    if_pos rfl, List.filter_nil, List.flatMap_append, List.flatMap_singleton,
    show ("" : String).toList = [] from rfl, encodeChars_nil, hservice]
  rw [show routedSegments s = (nameSegments s).filter isPushed from rfl]
  have hslash := flatMap_slash_cons ((nameSegments s).filter isPushed)
    (fun seg => encodeChars (pushSet c) seg.toList)
  by_cases hr : c.path.toList = ['/', '/']
  · rw [if_pos hr, if_pos (hroot.mpr hr)]
    simp only [List.append_assoc, hslash, List.cons_append, List.nil_append]
  · rw [if_neg hr, if_neg (fun h => hr (hroot.mp h))]
    simp only [List.append_assoc, hslash, List.cons_append, List.nil_append]

/-! ## Directories that `build` makes -/

theorem lookup_filter_append {β : Type} (l : List (String × β)) (k s : String) (v : β) :
    ((l.filter (·.1 != k)) ++ [(k, v)]).lookup s = if s = k then some v else l.lookup s := by
  rw [List.lookup_append]
  by_cases hs : s = k
  · subst hs
    -- every pair the filter keeps has another key
    have hnone : (l.filter (·.1 != s)).lookup s = none := by
      rw [List.lookup_eq_none_iff]
      intro p hp
      simp only [List.mem_filter, bne_iff_ne, ne_eq] at hp
      simpa using Ne.symm hp.2
    simp [hnone]
  · have hkeep : (l.filter (·.1 != k)).lookup s = l.lookup s := by
      induction l with
      | nil => rfl
      | cons p l ih =>
        obtain ⟨k', v'⟩ := p
        by_cases hk : k' = k
        · subst hk
          simp [List.lookup_cons, beq_eq_false_iff_ne.2 hs, ih]
        · simp [List.lookup_cons, hk, ih]
    simp [hkeep, beq_eq_false_iff_ne.2 hs, List.lookup_cons, hs]

theorem insert_eq_ok {d d' : Directory} {service base : String}
    (h : d.insert service base = .ok d') :
    ∃ u, normalizeBase base = .ok u ∧ d'.cluster = d.cluster ∧
      ∀ s, d'.endpoints.lookup s = if s = service then some u else d.endpoints.lookup s := by
  obtain ⟨u, hu, h⟩ := except_bind_eq_ok h
  cases h
  exact ⟨u, hu, rfl, fun s => lookup_filter_append _ _ _ _⟩

/-- Pinning URLs in order keeps the cluster URL, and a name gets the URL pinned last for it, as
`normalizeBase` reads it; a name pinned nowhere keeps what it had. The induction is on the pinned
pairs: a later pair is looked up first in the reversed list. -/
theorem foldlM_insert_lookup : ∀ (pinned : List (String × String)) {d₀ d : Directory},
    pinned.foldlM (fun d e => d.insert e.1 e.2) d₀ = .ok d →
      d.cluster = d₀.cluster ∧ ∀ s,
        (pinned.reverse.lookup s = none → d.endpoints.lookup s = d₀.endpoints.lookup s) ∧
        ∀ e, pinned.reverse.lookup s = some e →
          ∃ u, normalizeBase e = .ok u ∧ d.endpoints.lookup s = some u
  | [], _, _, h => by
    cases h
    exact ⟨rfl, fun s => ⟨fun _ => rfl, fun e he => by simp at he⟩⟩
  | (k, b) :: rest, d₀, d, h => by
    rw [List.foldlM_cons] at h
    obtain ⟨d₁, hd₁, h⟩ := except_bind_eq_ok h
    obtain ⟨u₁, hu₁, hc₁, hl₁⟩ := insert_eq_ok hd₁
    obtain ⟨hc, hl⟩ := foldlM_insert_lookup rest h
    refine ⟨hc.trans hc₁, fun s => ?_⟩
    obtain ⟨hnone, hsome⟩ := hl s
    rw [List.reverse_cons, List.lookup_append]
    cases hr : rest.reverse.lookup s with
    | some e =>
      refine ⟨fun h => (by simp at h), fun e' he' => ?_⟩
      simp only [Option.some_or, Option.some.injEq] at he'
      rw [← he']
      exact hsome e hr
    | none =>
      rw [hnone hr, hl₁ s]
      by_cases hs : s = k
      · subst hs
        refine ⟨fun h => (by simp at h), fun e he => ⟨u₁, ?_, by simp⟩⟩
        simp only [Option.none_or, List.lookup_cons, beq_self_eq_true, Option.some.injEq] at he
        rw [← he]
        exact hu₁
      · have hb : (s == k) = false := beq_eq_false_iff_ne.2 hs
        refine ⟨fun _ => by simp [hs], fun e he => ?_⟩
        simp [List.lookup_cons, hb] at he

/-- What `build` starts from before it pins URLs: no pinned URL, and the cluster URL as
`normalizeBase` reads it. -/
theorem build_start {cluster : Option String} {pinned : List (String × String)} {d : Directory}
    (h : build cluster pinned = .ok d) :
    ∃ d₀ : Directory, d₀.endpoints = [] ∧
      (cluster = none → d₀.cluster = none) ∧
      (∀ c, cluster = some c → ∃ cu, normalizeBase c = .ok cu ∧ d₀.cluster = some cu) ∧
      pinned.foldlM (fun d e => d.insert e.1 e.2) d₀ = .ok d := by
  cases cluster with
  | none => exact ⟨empty, rfl, fun _ => rfl, fun c hc => (by cases hc), h⟩
  | some c =>
    obtain ⟨d₀, hd₀, h⟩ := except_bind_eq_ok h
    obtain ⟨u, hu, hd₀⟩ := except_bind_eq_ok hd₀
    cases hd₀
    refine ⟨_, rfl, fun hc => (by cases hc), fun c' hc' => ?_, h⟩
    cases hc'
    exact ⟨u, hu, rfl⟩

/-- A name without a pinned URL that gets a base URL goes through a hierarchical cluster URL,
and has a segment. -/
theorem baseUrl_through_cluster {d : Directory} {s : String} {u : Url}
    (h : d.endpoints.lookup s = none) (hu : d.baseUrl s = .ok u) :
    ∃ c, d.cluster = some c ∧ c.cannotBeABase = false ∧ nameSegments s ≠ [] := by
  rcases baseUrl_eq_ok hu with hl | ⟨c, v, -, hc, hempty, hv, -⟩
  · rw [h] at hl
    cases hl
  · exact ⟨c, hc, hierarchical_of_endpointUrl hv, by simpa using hempty⟩

/-- The base URLs that a directory built from an optional cluster URL and pinned URLs gives a
service name `s`. -/
structure BaseUrlSpec (cluster : Option String) (pinned : List (String × String)) (d : Directory)
    (s : String) : Prop where
  /-- A pinned name gets the URL pinned last for it. -/
  pinned_last : ∀ e, pinned.reverse.lookup s = some e → d.baseUrl s = normalizeBase e
  /-- Any other name is refused without a cluster URL. -/
  no_cluster : pinned.reverse.lookup s = none → cluster = none →
    d.baseUrl s = .error (.invalidConfig ("no endpoint configured for service `" ++ s ++ "`") none)
  /-- Through a cluster URL a name gets a base URL exactly when the cluster URL is hierarchical
  and the name has a segment; the URL that `endpointUrl` gives is then hierarchical. -/
  through_cluster : ∀ c, pinned.reverse.lookup s = none → cluster = some c →
    ∃ cu, normalizeBase c = .ok cu ∧ d.cluster = some cu ∧
      ((∃ u, d.baseUrl s = .ok u) ↔ cu.cannotBeABase = false ∧ nameSegments s ≠ []) ∧
      ∀ u, endpointUrl cu ("service" :: nameSegments s) = .ok u → u.cannotBeABase = false
  /-- The base URL through a hierarchical cluster URL, for a name without tabs or line breaks:
  the cluster URL, which has no query or fragment and a path that starts and ends with `/`,
  with the path `clusterRoute`. -/
  route : ∀ cu, pinned.reverse.lookup s = none → d.cluster = some cu →
    cu.cannotBeABase = false → nameSegments s ≠ [] →
    (∀ seg ∈ nameSegments s, ∀ ch ∈ seg.toList, isDropped ch = false) →
    cu.query = none ∧ cu.fragment = none ∧ cu.path.toList.head? = some '/' ∧
      cu.path.toList.getLast? = some '/' ∧
      d.baseUrl s = .ok { cu with path := clusterRoute (pushSet cu) cu.path (routedSegments s) }
  /-- Each routed segment is written as one path segment that percent-decodes to its octets. -/
  segments : ∀ cu, d.cluster = some cu → ∀ seg ∈ routedSegments s,
    '/' ∉ (encode (pushSet cu) seg).toList ∧
      decodeOctets (Utf8.encode (encode (pushSet cu) seg)) = Utf8.encode seg
  /-- Two names without pinned URLs, tabs or line breaks share a base URL only if they have the
  same routed segments. -/
  separates : ∀ t u, pinned.reverse.lookup s = none → pinned.reverse.lookup t = none →
    (∀ seg ∈ nameSegments s, ∀ ch ∈ seg.toList, isDropped ch = false) →
    (∀ seg ∈ nameSegments t, ∀ ch ∈ seg.toList, isDropped ch = false) →
    d.baseUrl s = .ok u → d.baseUrl t = .ok u → routedSegments s = routedSegments t

theorem service_base_url {cluster : Option String} {pinned : List (String × String)}
    {d : Directory} (hd : build cluster pinned = .ok d) (s : String) :
    BaseUrlSpec cluster pinned d s := by
  obtain ⟨d₀, hd₀e, hd₀n, hd₀s, hfold⟩ := build_start hd
  obtain ⟨hclu, hlook⟩ := foldlM_insert_lookup pinned hfold
  have hnone : ∀ t, pinned.reverse.lookup t = none → d.endpoints.lookup t = none := by
    intro t ht
    rw [(hlook t).1 ht, hd₀e]
    rfl
  -- the cluster URL of the directory is one that `normalizeBase` read
  have hraw : ∀ cu, d.cluster = some cu → ∃ raw, normalizeBase raw = .ok cu := by
    intro cu hdc
    cases cluster with
    | none =>
      rw [hclu, hd₀n rfl] at hdc
      cases hdc
    | some c =>
      obtain ⟨cu', hcu', hd₀c⟩ := hd₀s c rfl
      rw [hclu, hd₀c] at hdc
      cases hdc
      exact ⟨c, hcu'⟩
  have hroute : ∀ t cu, pinned.reverse.lookup t = none → d.cluster = some cu →
      cu.cannotBeABase = false → nameSegments t ≠ [] →
      (∀ seg ∈ nameSegments t, ∀ ch ∈ seg.toList, isDropped ch = false) →
      d.baseUrl t = .ok { cu with path := clusterRoute (pushSet cu) cu.path (routedSegments t) } := by
    intro t cu ht hdc hcb hne hkept
    obtain ⟨raw, hr⟩ := hraw cu hdc
    exact baseUrl_route (hnone t ht) hdc hr hcb hne hkept
  refine ⟨?_, ?_, ?_, ?_, ?_, ?_⟩
  · intro e he
    obtain ⟨u, hu, hl⟩ := (hlook s).2 e he
    rw [baseUrl_pinned hl, hu]
  · intro hl hc
    exact baseUrl_unrouted (hnone s hl) (by rw [hclu, hd₀n hc])
  · intro c hl hc
    obtain ⟨cu, hcu, hd₀c⟩ := hd₀s c hc
    have hdc : d.cluster = some cu := by rw [hclu, hd₀c]
    exact ⟨cu, hcu, hdc, baseUrl_cluster_ok_iff (hnone s hl) hdc,
      fun u hu => endpointUrl_hierarchical hu⟩
  · intro cu hl hdc hcb hne hkept
    obtain ⟨raw, hr⟩ := hraw cu hdc
    obtain ⟨hq, hf, hh, hlast, -⟩ := normalizeBase_hierarchical hr hcb
    exact ⟨hq, hf, hh, hlast, hroute s cu hl hdc hcb hne hkept⟩
  · intro cu _ seg _
    refine ⟨?_, decodeOctets_encode_of_percent (pushSet_forSegment cu).percent seg⟩
    rw [toList_encode]
    exact slash_not_mem_encodeChars (pushSet_forSegment cu) _
  · intro t u hls hlt hks hkt hus hut
    -- both names go through the one cluster URL, where routes differ with their segments
    obtain ⟨cu, hdc, hcb, hnes⟩ := baseUrl_through_cluster (hnone s hls) hus
    obtain ⟨cu', hdc', -, hnet⟩ := baseUrl_through_cluster (hnone t hlt) hut
    rw [hdc] at hdc'
    cases hdc'
    rw [hroute s cu hls hdc hcb hnes hks] at hus
    rw [hroute t cu hlt hdc hcb hnet hkt] at hut
    have hpath := congrArg Url.path (Except.ok.inj (hus.trans hut.symm))
    exact clusterRoute_injective (pushSet_forSegment cu) hpath

/-- A cluster URL below a path and one pinned service, at a name with two segments. -/
theorem service_base_url_nested :
    let d : Directory :=
      ⟨some ⟨"http", "", none, some (.ipv6 [0, 0, 0, 0, 0, 0, 0, 1]), none, "/ci/", none, none⟩,
        [("jenkins", ⟨"http", "", none, some (.ipv6 [0, 0, 0, 0, 0, 0, 0, 1]), none, "/jenkins/",
          none, none⟩)]⟩
    build (some "http://[::1]/ci") [("jenkins", "http://[::1]/jenkins")] = .ok d ∧
      BaseUrlSpec (some "http://[::1]/ci") [("jenkins", "http://[::1]/jenkins")] d "a/b c" := by
  intro d
  have hd : build (some "http://[::1]/ci") [("jenkins", "http://[::1]/jenkins")] = .ok d :=
    eq_ok_of_toOption (by decide +kernel)
  exact ⟨hd, service_base_url hd "a/b c"⟩

/-- Routes do not keep a segment for every non-empty segment of a name, nor the cluster path `//`:
through `http://[::1]/`, the name `a/.` gets the base URL of `a`, since a push skips `.`; through
`http://[::1]//`, whose path is `//`, the name `a` gets the path `/service/a/`. -/
theorem route_skips_dot_segments :
    let root : Url := ⟨"http", "", none, some (.ipv6 [0, 0, 0, 0, 0, 0, 0, 1]), none, "/", none, none⟩
    build (some "http://[::1]/") [] = .ok ⟨some root, []⟩ ∧
      nameSegments "a/." = ["a", "."] ∧
      (⟨some root, []⟩ : Directory).baseUrl "a/." = .ok { root with path := "/service/a/" } ∧
      (⟨some root, []⟩ : Directory).baseUrl "a" = .ok { root with path := "/service/a/" } ∧
      build (some "http://[::1]//") [] = .ok ⟨some { root with path := "//" }, []⟩ ∧
      (⟨some { root with path := "//" }, []⟩ : Directory).baseUrl "a" =
        .ok { root with path := "/service/a/" } := by
  refine ⟨eq_ok_of_toOption (by decide +kernel), by decide, eq_ok_of_toOption (by decide +kernel),
    eq_ok_of_toOption (by decide +kernel), eq_ok_of_toOption (by decide +kernel),
    eq_ok_of_toOption (by decide +kernel)⟩

end Directory

end CiClient.Service
