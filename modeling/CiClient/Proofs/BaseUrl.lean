import CiClient.Proofs.PathReading
import CiClient.Service.Directory
/-!
# Base URLs of a service directory

A request path is joined below the base URL of its service, and it lands below that URL only if
the base has a host and a path that starts and ends with `/`. The directory sees to it for every
web URL it hands out: a pinned URL or the cluster URL is read by `normalizeBase`, which gives a
path without a final `/` one; a cluster route pushes `service` and the segments of the service
name below the cluster URL and then an empty segment.

The facts come from the path reader (`CiClient.Proofs.PathReading`): a path that starts with
`/` keeps it, and a path read from a text that ends with `/` ends with `/`. The main statement
is `Directory.baseUrl_joinsBelow`, for every directory that `Directory.build` makes.
-/

namespace CiClient

theorem except_bind_eq_ok {ε α β : Type} {x : Except ε α} {f : α → Except ε β} {b : β}
    (h : x >>= f = .ok b) : ∃ a, x = .ok a ∧ f a = .ok b := by
  cases x with
  | error e => cases h
  | ok a => exact ⟨a, rfl, h⟩

end CiClient

namespace CiClient.Url

/-- A web URL: its scheme is `http` or `https`. -/
def IsWeb (u : Url) : Prop := u.scheme = "http" ∨ u.scheme = "https"

/-- A URL below which a relative path joins: it has a host, and its path starts and ends with
`/`. -/
structure JoinsBelow (u : Url) : Prop where
  host : u.host.isSome = true
  head : u.path.toList.head? = some '/'
  last : u.path.toList.getLast? = some '/'

theorem IsWeb.special {u : Url} (h : u.IsWeb) : isSpecialScheme u.scheme = true := by
  rcases h with h | h <;> rw [h] <;> decide

theorem IsWeb.not_file {u : Url} (h : u.IsWeb) : u.scheme ≠ "file" := by
  rcases h with h | h <;> rw [h] <;> decide

theorem endsWith_slash_iff (s : String) : s.endsWith "/" = true ↔ s.toList.getLast? = some '/' := by
  rw [String.endsWith_eq_endsWith_toSlice, String.Slice.endsWith_string_iff]
  simp only [String.copy_toSlice, List.getLast?_eq_some_iff]
  constructor
  · rintro ⟨t, ht⟩
    exact ⟨t, ht.symm⟩
  · rintro ⟨t, ht⟩
    exact ⟨t, ht.symm⟩

/-! ## Reading the path of a web URL -/

variable {r : PathRules}

theorem head_readPath (hfile : r.file = false) {path : List Char} (h : path.head? = some '/')
    (input : List Char) : (readPath r path input).1.head? = some '/' := by
  simp only [readPath, hfile, Bool.false_eq_true, if_false]
  exact head_go hfile _ _ _ _ h

theorem head_readPathStart (hs : r.special = true) (hfile : r.file = false) (input : List Char) :
    (readPathStart r false input).1.head? = some '/' := by
  simp only [readPathStart, hs, if_true, Bool.false_eq_true, if_false]
  split
  · split <;> exact head_readPath hfile rfl _
  · exact head_readPath hfile rfl _

theorem readPath_slash_cons (hfile : r.file = false) (hsep : r.isSeparator '/' = true)
    (more : List Char) : readPath r [] ('/' :: more) = readPath r ['/'] more := by
  have h := @go_sep r [] more '/' (by simp) hsep (more.length + 1) [] false
  rw [hfile] at h
  have hadd : addSegment false [] (encodeChars r.encodeSet []) true = (['/'], false) := by
    rw [encodeChars_nil, addSegment_plain (by decide) (by decide)]
    rfl
  rw [hadd, List.nil_append, Bool.or_false] at h
  simp only [readPath, hfile, Bool.false_eq_true, if_false, List.length_cons, h]

/-- A special path that starts with `/` is read from after that `/`, whether or not the text
before the path ends with one. -/
theorem readPathStart_slash (hs : r.special = true) (hfile : r.file = false)
    (hsep : r.isSeparator '/' = true) (prefixSlash : Bool) (more : List Char) :
    readPathStart r prefixSlash ('/' :: more) = readPath r ['/'] more := by
  cases prefixSlash with
  | true => simpa [readPathStart, hs] using readPath_slash_cons hfile hsep more
  | false => simp [readPathStart, hs]

/-- Reading a whole path from its first `/` on, when the text after it ends with `/`, gives a
path that starts and ends with `/`. -/
theorem readPath_slash_ends (hfile : r.file = false) (hmode : r.mode = .whole)
    {more : List Char} (hlast : more.getLast? = some '/') :
    (readPath r ['/'] more).1.head? = some '/' ∧ (readPath r ['/'] more).1.getLast? = some '/' := by
  have hsep : r.isSeparator '/' = true := by simp [PathRules.isSeparator, hmode]
  refine ⟨head_readPath hfile rfl more, ?_⟩
  simp only [readPath, hfile, Bool.false_eq_true, if_false]
  refine getLast_go_of_sep _ _ _ _ (by omega) ?_ ⟨'/', hlast, hsep⟩
  intro c _
  simp [PathRules.endsPath, hmode]

/-! ## Reading a URL -/

theorem fileUrl_scheme (host : Host) (path rest : List Char) :
    (fileUrl host path rest).scheme = "file" := by
  unfold fileUrl
  split
  rfl

/-- Every URL read after a `file:` scheme, with no base, is a file URL. -/
theorem readFile_scheme {cs : List Char} {u : Url} (h : readFile cs none = .ok u) :
    u.scheme = "file" := by
  unfold readFile at h
  simp only [readFile.readFileSlash, readFile.readFileOther, bind, Except.bind, pure,
    Except.pure] at h
  -- every branch ends in `fileUrl`, or in a failure, which the first step closes
  repeat' split at h
  all_goals simp only [Except.ok.injEq, reduceCtorEq] at h
  all_goals
    subst h
    exact fileUrl_scheme ..

/-- A URL read with an authority has the scheme it was read with and a host; a special scheme
other than `file` gives it a path that starts with `/`. -/
theorem withAuthority_ok {scheme : String} {cs : List Char} {u : Url}
    (h : withAuthority scheme cs = .ok u) :
    u.scheme = scheme ∧ u.host.isSome = true ∧
      (isSpecialScheme scheme = true → scheme ≠ "file" → u.path.toList.head? = some '/') := by
  unfold withAuthority at h
  simp only [bind, Except.bind, pure, Except.pure] at h
  split at h
  · cases h
  · next auth hauth =>
    injection h with h
    subst h
    refine ⟨rfl, rfl, fun hs hf => ?_⟩
    simp only [String.toList_ofList]
    exact head_readPathStart hs (by simp [rulesOf, hf]) _

/-- A scheme that is not special is kept by every URL read after it. -/
theorem readWithScheme_opaque_scheme {scheme : String} {rest : List Char} {u : Url}
    (hsp : isSpecialScheme scheme = false) (h : readWithScheme scheme rest none = .ok u) :
    u.scheme = scheme := by
  have hfile : scheme ≠ "file" := by
    rintro rfl
    simp [isSpecialScheme] at hsp
  simp only [readWithScheme, if_neg hfile, hsp, Bool.false_eq_true, if_false] at h
  split at h
  · exact (withAuthority_ok h).1
  · cases h
    rfl
  · cases h
    rfl

/-- A web URL read on its own has a host and a path that starts with `/`. -/
theorem parse_web {raw : String} {u : Url} (h : Url.parse raw = .ok u) (hweb : u.IsWeb) :
    u.host.isSome = true ∧ u.path.toList.head? = some '/' := by
  cases hs : readScheme (cleanInput raw) with
  | none => simp [Url.parse, hs, throw, throwThe, MonadExceptOf.throw] at h
  | some p =>
    obtain ⟨scheme, rest⟩ := p
    simp only [Url.parse, hs] at h
    by_cases hfile : scheme = "file"
    · simp only [readWithScheme, if_pos hfile, Option.filter_none] at h
      exact absurd (readFile_scheme h) hweb.not_file
    · cases hsp : isSpecialScheme scheme with
      | true =>
        simp only [readWithScheme, if_neg hfile, hsp, if_true] at h
        obtain ⟨hsch, hhost, hpath⟩ := withAuthority_ok h
        exact ⟨hhost, hpath hsp hfile⟩
      | false =>
        -- a scheme that is not special is kept, and it is no web scheme
        have hsch := readWithScheme_opaque_scheme hsp h
        rw [← hsch, hweb.special] at hsp
        cases hsp

@[simp] theorem setPath_scheme (u : Url) (text : String) : (u.setPath text).scheme = u.scheme := by
  unfold setPath
  split <;> rfl

@[simp] theorem setPath_host (u : Url) (text : String) : (u.setPath text).host = u.host := by
  unfold setPath
  split <;> rfl

/-- Setting the path of a web URL with a host to a text that starts and ends with `/` leaves a
URL that a path joins below. -/
theorem setPath_joinsBelow {u : Url} (hweb : u.IsWeb) (hhost : u.host.isSome = true)
    {text : String} {t : List Char} (htext : text.toList = '/' :: (t ++ ['/'])) :
    (u.setPath text).JoinsBelow := by
  have hcb : u.cannotBeABase = false := by
    obtain ⟨host, hh⟩ := Option.isSome_iff_exists.mp hhost
    simp [cannotBeABase, hh]
  -- neither `/` is a tab or a line break, so both stay when those are dropped
  have hcs : text.toList.filter (!isDropped ·) = '/' :: (t.filter (!isDropped ·) ++ ['/']) := by
    simp [htext, isDropped]
  let rules : PathRules := ⟨u.isSpecial, u.scheme = "file", .whole⟩
  have hfile : rules.file = false := by simp [rules, hweb.not_file]
  have hpath : (u.setPath text).path.toList =
      (readPath rules ['/'] (t.filter (!isDropped ·) ++ ['/'])).1 := by
    simp only [setPath, hcb, Bool.false_eq_true, if_false, String.toList_ofList, hcs]
    rw [readPathStart_slash hweb.special hfile rfl]
  have hends := readPath_slash_ends (r := rules) hfile rfl
    (by simp : (t.filter (!isDropped ·) ++ ['/']).getLast? = some '/')
  exact ⟨by simpa using hhost, hpath ▸ hends.1, hpath ▸ hends.2⟩

/-! ## Base URLs -/

/-- What a base URL read by the directory is: the URL read from the text, which has no query
and no fragment, with a `/` put after a path that is not `/` and does not end with one. -/
theorem normalizeBase_eq_ok {raw : String} {u : Url} (h : Service.normalizeBase raw = .ok u) :
    ∃ v, Url.parse raw = .ok v ∧ v.query = none ∧ v.fragment = none ∧
      u = if (v.path != "/" && !v.path.endsWith "/") = true then v.setPath (v.path ++ "/")
        else v := by
  unfold Service.normalizeBase at h
  cases hp : Url.parse raw with
  | error e => simp [hp, bind, Except.bind, throw, throwThe, MonadExceptOf.throw] at h
  | ok v =>
    simp only [hp, pure, bind, Except.bind, Except.pure] at h
    by_cases hq : (v.query.isSome || v.fragment.isSome) = true
    · simp [hq, throw, throwThe, MonadExceptOf.throw] at h
    · rw [if_neg hq] at h
      simp only [Bool.or_eq_true, Option.isSome_iff_ne_none, ne_eq, not_or, Classical.not_not] at hq
      refine ⟨v, rfl, hq.1, hq.2, ?_⟩
      split at h
      · next hc => rw [if_pos hc]; injection h with h; exact h.symm
      · next hc => rw [if_neg hc]; injection h with h; exact h.symm

/-- A base URL read by the directory is, when it is a web URL, one a path joins below. -/
theorem normalizeBase_joinsBelow {raw : String} {u : Url}
    (h : Service.normalizeBase raw = .ok u) (hweb : u.IsWeb) : u.JoinsBelow := by
  obtain ⟨v, hv, -, -, rfl⟩ := normalizeBase_eq_ok h
  by_cases hc : (v.path != "/" && !v.path.endsWith "/") = true
  · -- a path without a final `/` is given one
    rw [if_pos hc] at hweb ⊢
    have hweb' : v.IsWeb := by simpa [IsWeb] using hweb
    obtain ⟨hhost, hhead⟩ := parse_web hv hweb'
    obtain ⟨t, ht⟩ := List.head?_eq_some_iff.mp hhead
    exact setPath_joinsBelow hweb' hhost (t := t) (by simp [ht])
  · rw [if_neg hc] at hweb ⊢
    obtain ⟨hhost, hhead⟩ := parse_web hv hweb
    refine ⟨hhost, hhead, ?_⟩
    -- the path is `/`, or it ends with `/`
    simp only [Bool.and_eq_true, bne_iff_ne, ne_eq, Bool.not_eq_true', not_and,
      Bool.not_eq_false] at hc
    by_cases hroot : v.path = "/"
    · rw [hroot]
      rfl
    · exact (endsWith_slash_iff _).mp (hc hroot)

@[simp] theorem popIfEmpty_scheme (u : Url) : u.popIfEmpty.scheme = u.scheme := by
  unfold popIfEmpty
  split <;> rfl

@[simp] theorem popIfEmpty_host (u : Url) : u.popIfEmpty.host = u.host := by
  unfold popIfEmpty
  split <;> rfl

@[simp] theorem pushSegment_scheme (u : Url) (seg : String) :
    (u.pushSegment seg).scheme = u.scheme := by
  unfold pushSegment
  split <;> rfl

@[simp] theorem pushSegment_host (u : Url) (seg : String) :
    (u.pushSegment seg).host = u.host := by
  unfold pushSegment
  split <;> rfl

theorem head_popIfEmpty {u : Url} (h : u.path.toList.head? = some '/') :
    u.popIfEmpty.path.toList.head? = some '/' := by
  unfold popIfEmpty
  split
  · next hc =>
    simp only [Bool.and_eq_true, String.length] at hc
    simp only [String.toList_ofList]
    cases hl : u.path.toList with
    | nil => simp [hl] at h
    | cons a l =>
      cases l with
      | nil => simp [hl] at hc
      | cons b l => simpa [hl, List.dropLast_cons_cons] using h
  · exact h

theorem head_pushSegment {u : Url} (hfile : u.scheme ≠ "file")
    (h : u.path.toList.head? = some '/') (seg : String) :
    (u.pushSegment seg).path.toList.head? = some '/' := by
  unfold pushSegment
  split
  · exact h
  · simp only [String.toList_ofList]
    apply head_readPath (by simp [hfile])
    split
    · exact head_append_of_head h
    · exact h

theorem getLast_pushSegment_empty {u : Url} (hfile : u.scheme ≠ "file")
    (h : u.path.toList.head? = some '/') :
    (u.pushSegment "").path.toList.getLast? = some '/' := by
  unfold pushSegment
  simp only [show ("" = "." || "" = "..") = false by decide, Bool.false_eq_true, if_false,
    String.toList_ofList, show ("" : String).toList = [] from rfl, List.filter_nil]
  rw [readPath_nil (by simp [hfile])]
  split
  · simp
  · next hlen =>
    -- a path of one character that starts with `/` is `/`
    cases hl : u.path.toList with
    | nil => simp [hl] at h
    | cons a l =>
      cases l with
      | nil => simp_all
      | cons b l => simp [hl] at hlen

/-- Segments pushed below a base URL keep its scheme and host, and the first `/` of its path. -/
theorem endpointUrl_ok {base u : Url} {segs : List String}
    (h : Service.endpointUrl base segs = .ok u) :
    u.scheme = base.scheme ∧ u.host = base.host ∧
      (base.scheme ≠ "file" → base.path.toList.head? = some '/' →
        u.path.toList.head? = some '/') := by
  unfold Service.endpointUrl at h
  split at h
  · cases h
  · injection h with h
    subst h
    -- the pushes are a fold over the segments: induct on them from the popped base
    have key : ∀ (segs : List String) (v : Url), v.scheme = base.scheme → v.host = base.host →
        (base.scheme ≠ "file" → v.path.toList.head? = some '/' →
          (segs.foldl pushSegment v).path.toList.head? = some '/') ∧
        (segs.foldl pushSegment v).scheme = base.scheme ∧
        (segs.foldl pushSegment v).host = base.host := by
      intro segs
      induction segs with
      | nil => intro v hs hh; exact ⟨fun _ hv => hv, hs, hh⟩
      | cons seg segs ih =>
        intro v hs hh
        obtain ⟨ih1, ih2, ih3⟩ := ih (v.pushSegment seg) (by simp [hs]) (by simp [hh])
        refine ⟨fun hf hv => ih1 hf (head_pushSegment (hs ▸ hf) hv seg), ih2, ih3⟩
    obtain ⟨k1, k2, k3⟩ := key segs base.popIfEmpty (by simp) (by simp)
    exact ⟨k2, k3, fun hf hb => k1 hf (head_popIfEmpty hb)⟩

end CiClient.Url

namespace CiClient.Service.Directory

open Url

/-- Every URL a directory holds is, when it is a web URL, one a path joins below. -/
def WebBased (d : Directory) : Prop :=
  (∀ u, d.cluster = some u → u.IsWeb → u.JoinsBelow) ∧
    ∀ p ∈ d.endpoints, p.2.IsWeb → p.2.JoinsBelow

theorem mem_of_lookup_eq_some {l : List (String × Url)} {k : String} {v : Url}
    (h : l.lookup k = some v) : (k, v) ∈ l := by
  induction l with
  | nil => simp at h
  | cons p l ih =>
    obtain ⟨k', v'⟩ := p
    by_cases hk : k = k'
    · subst hk
      simp only [List.lookup_cons, beq_self_eq_true, Option.some.injEq] at h
      simp [h]
    · have hne : (k == k') = false := by simpa using hk
      simp only [List.lookup_cons, hne] at h
      exact List.mem_cons_of_mem _ (ih h)

theorem insert_webBased {d d' : Directory} {service base : String} (hd : d.WebBased)
    (h : d.insert service base = .ok d') : d'.WebBased := by
  obtain ⟨u, hu, h⟩ := except_bind_eq_ok h
  cases h
  refine ⟨hd.1, fun p hp => ?_⟩
  simp only [List.mem_append, List.mem_filter, List.mem_singleton] at hp
  rcases hp with ⟨hp, -⟩ | rfl
  · exact hd.2 p hp
  · exact normalizeBase_joinsBelow hu

theorem foldlM_insert_webBased : ∀ (endpoints : List (String × String)) {d₀ d : Directory},
    d₀.WebBased → endpoints.foldlM (fun d e => d.insert e.1 e.2) d₀ = .ok d → d.WebBased
  | [], _, _, h₀, h => by
    cases h
    exact h₀
  | e :: endpoints, _, _, h₀, h => by
    rw [List.foldlM_cons] at h
    obtain ⟨d₁, hd₁, h⟩ := except_bind_eq_ok h
    exact foldlM_insert_webBased endpoints (insert_webBased h₀ hd₁) h

/-- Every directory that `build` makes holds only web URLs that a path joins below. -/
theorem build_webBased {cluster : Option String} {endpoints : List (String × String)}
    {d : Directory} (h : build cluster endpoints = .ok d) : d.WebBased := by
  cases cluster with
  | none => exact foldlM_insert_webBased endpoints ⟨by simp [empty], by simp [empty]⟩ h
  | some c =>
    obtain ⟨d₀, hd₀, h⟩ := except_bind_eq_ok h
    obtain ⟨u, hu, hd₀⟩ := except_bind_eq_ok hd₀
    cases hd₀
    refine foldlM_insert_webBased endpoints ⟨fun v hv => ?_, by simp⟩ h
    cases hv
    exact normalizeBase_joinsBelow hu

/-- Where the base URL of a service comes from: its pinned URL, or else the cluster's URL with
`service` and the segments of the name pushed below it, then an empty segment. -/
theorem baseUrl_eq_ok {d : Directory} {service : String} {base : Url}
    (h : d.baseUrl service = .ok base) :
    d.endpoints.lookup service = some base ∨
      ∃ cluster u, d.endpoints.lookup service = none ∧ d.cluster = some cluster ∧
        (nameSegments service).isEmpty = false ∧
        endpointUrl cluster ("service" :: nameSegments service) = .ok u ∧
        base = u.pushSegment "" := by
  unfold baseUrl at h
  cases hl : d.endpoints.lookup service with
  | some u =>
    simp only [hl, pure, Except.pure, Except.ok.injEq] at h
    exact .inl (h ▸ rfl)
  | none =>
    right
    cases hc : d.cluster with
    | none => simp [hl, hc, throw, throwThe, MonadExceptOf.throw] at h
    | some cluster =>
      cases hs : (nameSegments service).isEmpty with
      | true => simp [hl, hc, hs, throw, throwThe, MonadExceptOf.throw, bind, Except.bind] at h
      | false =>
        simp only [hl, hc, hs, Bool.false_eq_true, if_false] at h
        obtain ⟨u, hu, h⟩ := except_bind_eq_ok h
        split at h
        · cases h
        · exact ⟨cluster, u, rfl, rfl, rfl, hu, (Except.ok.inj h).symm⟩

/-- The base URL of a service is, when it is a web URL, one a path joins below. -/
theorem baseUrl_joinsBelow {d : Directory} (hd : d.WebBased) {service : String} {base : Url}
    (h : d.baseUrl service = .ok base) (hweb : base.IsWeb) : base.JoinsBelow := by
  rcases baseUrl_eq_ok h with hl | ⟨cluster, u, -, hc, -, hu, rfl⟩
  · exact hd.2 (service, base) (mem_of_lookup_eq_some hl) hweb
  · -- a cluster route ends with the empty segment pushed onto it
    obtain ⟨hs, hh, hhead⟩ := endpointUrl_ok hu
    have hweb' : cluster.IsWeb := by simpa [IsWeb, hs] using hweb
    have hfile : u.scheme ≠ "file" := by simpa [hs] using hweb'.not_file
    have hc' := hd.1 cluster hc hweb'
    have hu1 := hhead hweb'.not_file hc'.head
    exact ⟨by simp [hh, hc'.host], head_pushSegment hfile hu1 _,
      getLast_pushSegment_empty hfile hu1⟩

end CiClient.Service.Directory
