import CiClient.Proofs.BaseUrl
import CiClient.Proofs.PercentEncoding
import CiClient.Job.Path
/-!
# Request URLs of jobs

A job endpoint's path is `job/`, the job's name and fixed segments, and it is joined below the
base URL of the service. This module says which URL comes out for an accepted name.

The join reads the path as a relative reference. The base keeps its scheme, credentials, host
and port and loses its query and fragment, and its path, which ends with `/`
(`Url.JoinsBelow`), gets the segments of the request path appended, each written under the path
set (`Directory.resolve_job_segments`). A name that the name check accepts holds no `/`, `?`,
`#` and no control, so it stays one segment, except in two cases that the check lets through: a
`\`, which web URLs read as `/`, and a name that is itself a dot segment (`.`, `..`, or either
spelled with `%2e`), which the reader resolves. `Directory.resolve_job_endpoints` is the law
for every accepted name outside these two cases; `Directory.resolve_dot_name` shows the name
`..` passing the check and the join resolving it away.
-/

namespace CiClient.Url

/-- The path rules of web URLs. -/
def webRules : PathRules := ⟨true, false, .url⟩

theorem rulesOf_web {u : Url} (h : u.IsWeb) : rulesOf u.scheme = webRules := by
  simp [rulesOf, webRules, h.special, h.not_file]

@[simp] theorem webRules_encodeSet : webRules.encodeSet = pathSet := rfl

theorem lastSlash_append_slash (p : List Char) : lastSlash (p ++ ['/']) = some p.length := by
  simp [lastSlash, List.zipIdx_append, List.filter_append]

theorem popPath_of_getLast {p : List Char} (h : p.getLast? = some '/') : popPath false p = p := by
  obtain ⟨q, rfl⟩ := List.getLast?_eq_some_iff.mp h
  simp [popPath, lastSlash_append_slash, List.take_of_length_le]

/-- A text read as it is: no tab or line break in it, and no control or space at either end. -/
theorem cleanInput_eq_self {s : String} {c : Char} {cs : List Char} (hs : s.toList = c :: cs)
    (hhead : isTrimmed c = false) (hlast : ∀ x ∈ (c :: cs).getLast?, isTrimmed x = false)
    (hdrop : ∀ x ∈ c :: cs, isDropped x = false) : cleanInput s = c :: cs := by
  have hfront : (c :: cs).dropWhile isTrimmed = c :: cs :=
    List.dropWhile_cons_of_neg (by simp [hhead])
  -- the end is trimmed from the reversed text, whose first character is the last one
  have hback : (c :: cs).reverse.dropWhile isTrimmed = (c :: cs).reverse := by
    cases hr : (c :: cs).reverse with
    | nil => rfl
    | cons x t =>
      have hx : x ∈ (c :: cs).getLast? := by
        rw [← List.head?_reverse, hr]
        rfl
      exact List.dropWhile_cons_of_neg (by simp [hlast x hx])
  simp only [cleanInput, hs, hfront, hback, List.reverse_reverse]
  exact List.filter_eq_self.mpr (fun x hx => by simp [hdrop x hx])

theorem readScheme_job (rest : List Char) :
    readScheme ('j' :: 'o' :: 'b' :: '/' :: rest) = none := by
  rfl

/-- A reference without a scheme that starts with a plain character is read onto the path of a
base that ends with `/`: the base keeps all but its path, query and fragment. -/
theorem join_of_plain_start {B : Url} (hB : B.JoinsBelow) (hweb : B.IsWeb) {ref : String}
    {c : Char} {cs : List Char} (hclean : cleanInput ref = c :: cs)
    (hscheme : readScheme (c :: cs) = none)
    (hc : c ≠ '?' ∧ c ≠ '#' ∧ c ≠ '/' ∧ c ≠ '\\') :
    B.join ref = .ok (B.withPathFrom (readPath webRules B.path.toList (c :: cs)).1
      (readPath webRules B.path.toList (c :: cs)).2.1) := by
  obtain ⟨hq, hh, hs, hb⟩ := hc
  have hcb : B.cannotBeABase = false := by
    obtain ⟨host, hhost⟩ := Option.isSome_iff_exists.mp hB.host
    simp [cannotBeABase, hhost]
  have hpath : (if (popPath false B.path.toList).isEmpty then ['/']
      else popPath false B.path.toList) = B.path.toList := by
    rw [popPath_of_getLast hB.last]
    obtain ⟨t, ht⟩ := List.head?_eq_some_iff.mp hB.head
    simp [ht]
  simp only [join, parse, hclean, hscheme]
  -- the reference is no fragment, query or path of its own: its first character is plain
  split
  · next _ _ heq => exact absurd (List.cons.inj heq).1 hh
  · simp only [hcb, Bool.false_eq_true, if_false, if_neg hweb.not_file, resolveRelative,
      rulesOf_web hweb]
    rw [if_neg (by simp [hs, hb])]
    simp only [hpath]
    rfl

/-! ## Segments written as they are -/

theorem encodeChar_of_kept {set : EncodeSet} {c : Char} (hc : c.toNat < 0x80)
    (hk : set.encodes c.toNat.toUInt8 = false) : (encodeChar set c).toList = [c] := by
  rcases encodeChar_cases set c with h | ⟨b, t, hb, hhead, -⟩
  · exact h
  · rw [Text.Utf8.encodeChar_of_lt hc] at hhead
    simp only [List.head?_cons, Option.some.injEq] at hhead
    rw [← hhead, hk] at hb
    cases hb

/-- Digits and lower-case letters, the characters of the fixed segments of request paths. -/
theorem toNat_of_alnum {c : Char} (h : (c.isDigit || c.isLower) = true) :
    (48 ≤ c.toNat ∧ c.toNat ≤ 57) ∨ (97 ≤ c.toNat ∧ c.toNat ≤ 122) := by
  delta Char.isLower at h
  simp only [Char.isDigit, Bool.or_eq_true, Bool.and_eq_true, decide_eq_true_eq] at h
  rcases h with h | h
  · exact .inl ⟨UInt32.le_iff_toNat_le.mp h.1, UInt32.le_iff_toNat_le.mp h.2⟩
  · exact .inr ⟨UInt32.le_iff_toNat_le.mp h.1, UInt32.le_iff_toNat_le.mp h.2⟩

theorem alnum_kept : ∀ n, n < 256 → (48 ≤ n ∧ n ≤ 57) ∨ (97 ≤ n ∧ n ≤ 122) →
    pathSet.encodes n.toUInt8 = false := by
  decide +kernel

theorem toLower_of_not_upper {c : Char} (h : c.toNat < 65 ∨ 90 < c.toNat) : c.toLower = c := by
  unfold Char.toLower
  rw [dif_neg]
  rintro ⟨h1, h2⟩
  have := UInt32.le_iff_toNat_le.mp h1
  have := UInt32.le_iff_toNat_le.mp h2
  simp at *
  omega

/-- A segment whose first character is neither `.` nor `%`, in either case, is no dot segment. -/
theorem not_dot_of_head {c : Char} (hc : c.toLower ≠ '.' ∧ c.toLower ≠ '%') (cs : List Char) :
    isSingleDot (c :: cs) = false ∧ isDoubleDot (c :: cs) = false := by
  refine ⟨Bool.eq_false_iff.mpr fun h => ?_, Bool.eq_false_iff.mpr fun h => ?_⟩
  · have hmem := (isSingleDot_iff _).mp h
    simp only [List.map_cons, List.mem_cons, List.cons.injEq, List.not_mem_nil, or_false] at hmem
    rcases hmem with ⟨h1, -⟩ | ⟨h1, -⟩
    · exact hc.1 h1
    · exact hc.2 h1
  · have hmem := (isDoubleDot_iff _).mp h
    simp only [List.map_cons, List.mem_cons, List.cons.injEq, List.not_mem_nil, or_false] at hmem
    rcases hmem with ⟨h1, -⟩ | ⟨h1, -⟩ | ⟨h1, -⟩ | ⟨h1, -⟩
    · exact hc.1 h1
    · exact hc.1 h1
    · exact hc.2 h1
    · exact hc.2 h1

/-- The last character of a text with a `/` before its last part is that `/` or the last
character of the part. -/
theorem mem_getLast?_append_slash {x : Char} {p q : List Char}
    (h : x ∈ (p ++ '/' :: q).getLast?) : x = '/' ∨ x ∈ q.getLast? := by
  rcases List.eq_nil_or_concat q with rfl | ⟨q', y, rfl⟩
  · left
    simp only [List.getLast?_append, List.getLast?_singleton, Option.some_or,
      Option.mem_def, Option.some.injEq] at h
    exact h.symm
  · right
    have hq : p ++ '/' :: (q' ++ [y]) = (p ++ '/' :: q') ++ [y] := by simp
    rw [List.concat_eq_append, hq, List.getLast?_concat] at h
    rw [List.concat_eq_append]
    rw [List.getLast?_concat]
    exact h

end CiClient.Url

namespace CiClient.Job

open Text

/-- A name is accepted for paths exactly when it breaks none of the rules. -/
theorem pathIssue?_eq_none_iff {s : String} :
    pathIssue? s = none ↔ s.isEmpty = false ∧ s.toList.any isSeparator = false ∧
      s.toList.any Unicode.isControl = false ∧ Unicode.trim s = s ∧
      escapesWellFormed (Utf8.encode s) = true := by
  unfold pathIssue?
  -- the rules are checked in turn, and the first one broken is the answer
  cases h1 : s.isEmpty
  · cases h2 : s.toList.any isSeparator
    · cases h3 : s.toList.any Unicode.isControl
      · by_cases h4 : Unicode.trim s = s
        · cases h5 : escapesWellFormed (Utf8.encode s) <;> simp [h4]
        · simp [h4]
      · simp
    · simp
  · simp

/-- The path of a job document as segments. -/
theorem Endpoint.path_job (m : String) :
    (Endpoint.job m).path =
      String.ofList
        (['/'].intercalate [['j', 'o', 'b'], m.toList, ['a', 'p', 'i'], ['j', 's', 'o', 'n']]) := by
  rw [← String.toList_inj, String.toList_ofList]
  unfold Endpoint.path
  simp [List.intercalate_cons_cons]

theorem Endpoint.path_build (m : String) (k : Nat) :
    (Endpoint.build m k).path =
      String.ofList (['/'].intercalate [['j', 'o', 'b'], m.toList, (toString k).toList,
        ['a', 'p', 'i'], ['j', 's', 'o', 'n']]) := by
  rw [← String.toList_inj, String.toList_ofList]
  unfold Endpoint.path
  simp [List.intercalate_cons_cons]

theorem Endpoint.path_buildable (m : String) (st : Buildable) :
    (Endpoint.buildable m st).path =
      String.ofList (['/'].intercalate [['j', 'o', 'b'], m.toList, st.verb.toList]) := by
  rw [← String.toList_inj, String.toList_ofList]
  unfold Endpoint.path
  simp [List.intercalate_cons_cons]

end CiClient.Job

namespace CiClient.Service.Directory

open Url

/-- A segment of a request path that the join reads as it is written: its characters are plain
and none is a tab or a line break, and what they are written as is no dot segment. -/
structure RequestSegment (seg : List Char) : Prop where
  plain : webRules.PlainSegment seg
  kept : ∀ c ∈ seg, isDropped c = false

/-- A segment of a request path that is written as it is. -/
structure FixedSegment (seg : List Char) : Prop where
  request : RequestSegment seg
  written : encodeChars pathSet seg = seg

theorem fixedSegment_alnum {cs : List Char} (h : cs.all (fun c => c.isDigit || c.isLower) = true) :
    FixedSegment cs := by
  have hrange :
      ∀ c ∈ cs, (48 ≤ c.toNat ∧ c.toNat ≤ 57) ∨ (97 ≤ c.toNat ∧ c.toNat ≤ 122) :=
    fun c hc => toNat_of_alnum (List.all_eq_true.mp h c hc)
  -- such a character is none of the characters the reader looks at
  have hne : ∀ c ∈ cs, ∀ x : Char,
      (x.toNat < 48 ∨ (57 < x.toNat ∧ x.toNat < 97) ∨ 122 < x.toNat) → c ≠ x := by
    rintro c hc x hx rfl
    have := hrange c hc
    omega
  have hwritten : encodeChars pathSet cs = cs := by
    clear hne h
    induction cs with
    | nil => rfl
    | cons c cs ih =>
      have hc := hrange c (by simp)
      rw [encodeChars_cons, encodeChar_of_kept (by omega) (alnum_kept _ (by omega) hc),
        ih (fun x hx => hrange x (by simp [hx]))]
      rfl
  have hdot : isSingleDot cs = false ∧ isDoubleDot cs = false := by
    cases cs with
    | nil => exact ⟨rfl, rfl⟩
    | cons c cs =>
      have hc := hrange c (by simp)
      have hl : c.toLower = c := toLower_of_not_upper (by omega)
      refine not_dot_of_head ⟨?_, ?_⟩ cs
      · rw [hl]
        exact hne c (by simp) '.' (by decide)
      · rw [hl]
        exact hne c (by simp) '%' (by decide)
  have hsingle : isSingleDot (encodeChars webRules.encodeSet cs) = false := by
    rw [webRules_encodeSet, hwritten]
    exact hdot.1
  have hdouble : isDoubleDot (encodeChars webRules.encodeSet cs) = false := by
    rw [webRules_encodeSet, hwritten]
    exact hdot.2
  refine ⟨⟨⟨fun c hc => ?_, hsingle, hdouble⟩, fun c hc => ?_⟩, hwritten⟩
  · simp [PathRules.Plain, PathRules.isSeparator, PathRules.endsPath, webRules,
      hne c hc '/' (by decide), hne c hc '\\' (by decide), hne c hc '?' (by decide),
      hne c hc '#' (by decide)]
  · simp [isDropped, hne c hc '\t' (by decide), hne c hc '\n' (by decide),
      hne c hc '\r' (by decide)]

theorem fixedSegments_alnum {tail : List (List Char)}
    (h : tail.all (fun seg => seg.all fun c => c.isDigit || c.isLower) = true) :
    ∀ seg ∈ tail, FixedSegment seg :=
  fun seg hs => fixedSegment_alnum (List.all_eq_true.mp h seg hs)

theorem requestSegment_job : RequestSegment ['j', 'o', 'b'] :=
  (fixedSegment_alnum (by decide)).request

theorem mem_intercalate_slash {x : Char} : ∀ {segs : List (List Char)},
    x ∈ ['/'].intercalate segs → x = '/' ∨ ∃ s ∈ segs, x ∈ s
  | [], h => by simp at h
  | [s], h => .inr ⟨s, by simp, by simpa using h⟩
  | s :: s' :: segs, h => by
    rw [List.intercalate_cons_cons] at h
    simp only [List.mem_append, List.mem_singleton] at h
    rcases h with (h | h) | h
    · exact .inr ⟨s, by simp, h⟩
    · exact .inl h
    · rcases mem_intercalate_slash h with h | ⟨t, ht, hx⟩
      · exact .inl h
      · exact .inr ⟨t, List.mem_cons_of_mem s ht, hx⟩

/-- A request path whose first segment is `job` resolves below the base URL of its service: the
base with its path followed by the written segments, and no query or fragment. -/
theorem resolve_job_segments {d : Directory} {service : String} {B : Url}
    (hB : d.baseUrl service = .ok B) (hjoin : B.JoinsBelow) (hweb : B.IsWeb)
    {segs : List (List Char)} (hne : segs ≠ []) (hsegs : ∀ seg ∈ segs, RequestSegment seg)
    (hlast : ∀ x ∈ (['/'].intercalate segs).getLast?, isTrimmed x = false) :
    d.resolve service (String.ofList (['/'].intercalate (['j', 'o', 'b'] :: segs))) =
      .ok { B with
        path := String.ofList
          (B.path.toList ++ ['/'].intercalate ((['j', 'o', 'b'] :: segs).map (encodeChars pathSet)))
        query := none, fragment := none } := by
  obtain ⟨seg, segs', rfl⟩ := List.exists_cons_of_ne_nil hne
  have hall : ∀ s ∈ ['j', 'o', 'b'] :: seg :: segs', RequestSegment s := by
    intro s hs
    rcases List.mem_cons.mp hs with rfl | hs
    · exact requestSegment_job
    · exact hsegs s hs
  -- the request path as characters: `job/` and the rest
  have hinput : ['/'].intercalate (['j', 'o', 'b'] :: seg :: segs') =
      'j' :: 'o' :: 'b' :: '/' :: ['/'].intercalate (seg :: segs') := by
    simp [List.intercalate_cons_cons]
  have hkept :
      ∀ x ∈ ['/'].intercalate (['j', 'o', 'b'] :: seg :: segs'), isDropped x = false := by
    intro x hx
    rcases mem_intercalate_slash hx with rfl | ⟨s, hs, hx⟩
    · decide
    · exact (hall s hs).kept x hx
  rw [hinput] at hkept
  generalize ['/'].intercalate (seg :: segs') = rest at hlast hinput hkept
  have hclean : cleanInput (String.ofList ('j' :: 'o' :: 'b' :: '/' :: rest)) =
      'j' :: 'o' :: 'b' :: '/' :: rest := by
    refine cleanInput_eq_self String.toList_ofList (by decide) ?_ hkept
    intro x hx
    cases rest with
    | nil =>
      simp only [List.getLast?_cons_cons, List.getLast?_singleton, Option.mem_def,
        Option.some.injEq] at hx
      rw [← hx]
      decide
    | cons y ys =>
      simp only [List.getLast?_cons_cons, Option.mem_def] at hx
      exact hlast x hx
  have hread : readPath webRules B.path.toList ('j' :: 'o' :: 'b' :: '/' :: rest) =
      (B.path.toList ++ ['/'].intercalate ((['j', 'o', 'b'] :: seg :: segs').map
        (encodeChars pathSet)), [], false) := by
    rw [← hinput]
    exact readPath_intercalate rfl rfl (by simp) (fun s hs => (hall s hs).plain) _
  have hjoin' := join_of_plain_start hjoin hweb hclean (readScheme_job rest) (by decide)
  rw [hread] at hjoin'
  simp only [resolve, hB, bind, Except.bind, hinput, String.toList_ofList]
  rw [List.dropWhile_cons_of_neg (by decide), hjoin']
  rfl

/-- An accepted name without `\` that is no dot segment is one segment of a request path. -/
theorem requestSegment_name {n : String} (hsep : n.toList.any Job.isSeparator = false)
    (hctl : n.toList.any Text.Unicode.isControl = false) (hbs : '\\' ∉ n.toList)
    (hsingle : isSingleDot n.toList = false) (hdouble : isDoubleDot n.toList = false) :
    RequestSegment n.toList := by
  have hsep' : ∀ c ∈ n.toList, Job.isSeparator c = false := by
    simpa using hsep
  have hctl' : ∀ c ∈ n.toList, Text.Unicode.isControl c = false := by
    simpa using hctl
  have hwritten : encodeChars webRules.encodeSet n.toList = (encode pathSet n).toList := by
    rw [toList_encode]
    rfl
  refine ⟨⟨fun c hc => ?_, ?_, ?_⟩, fun c hc => ?_⟩
  · have h1 := hsep' c hc
    have h2 : c ≠ '\\' := fun h => hbs (h ▸ hc)
    simp only [Job.isSeparator, Bool.or_eq_false_iff, decide_eq_false_iff_not] at h1
    simp [PathRules.Plain, PathRules.isSeparator, PathRules.endsPath, webRules, h1, h2]
  · rw [hwritten]
    cases h : isSingleDot (encode pathSet n).toList with
    | false => rfl
    | true => exact absurd (isSingleDot_of_encode h) (by simp [hsingle])
  · rw [hwritten]
    cases h : isDoubleDot (encode pathSet n).toList with
    | false => rfl
    | true => exact absurd (isDoubleDot_of_encode h) (by simp [hdouble])
  · -- tabs and line breaks are controls
    have h := hctl' c hc
    simp only [Text.Unicode.isControl, Bool.or_eq_false_iff, decide_eq_false_iff_not] at h
    simp only [isDropped, Bool.or_eq_false_iff, decide_eq_false_iff_not]
    refine ⟨⟨?_, ?_⟩, ?_⟩ <;> rintro rfl <;> simp at h

/-- A job's path with a name and fixed segments after it resolves below the base URL of its
service to the base followed by `job`, the written name and the fixed segments. -/
theorem resolve_name_tail {d : Directory} {service : String} {B : Url}
    (hB : d.baseUrl service = .ok B) (hjoin : B.JoinsBelow) (hweb : B.IsWeb) {n : String}
    (hname : RequestSegment n.toList) {tail : List (List Char)} (htail : tail ≠ [])
    (hfixed : ∀ seg ∈ tail, FixedSegment seg)
    (hlast : ∀ x ∈ (['/'].intercalate tail).getLast?, isTrimmed x = false) :
    d.resolve service (String.ofList (['/'].intercalate (['j', 'o', 'b'] :: n.toList :: tail))) =
      .ok { B with
        path := B.path ++
          String.ofList (['/'].intercalate (['j', 'o', 'b'] :: (encode pathSet n).toList :: tail))
        query := none, fragment := none } := by
  have hsegs : ∀ seg ∈ n.toList :: tail, RequestSegment seg := by
    intro seg hs
    rcases List.mem_cons.mp hs with rfl | hs
    · exact hname
    · exact (hfixed seg hs).request
  have hlast' : ∀ x ∈ (['/'].intercalate (n.toList :: tail)).getLast?, isTrimmed x = false := by
    obtain ⟨t, tail', rfl⟩ := List.exists_cons_of_ne_nil htail
    intro x hx
    rw [List.intercalate_cons_cons, List.append_assoc, List.singleton_append] at hx
    rcases mem_getLast?_append_slash hx with rfl | hx
    · rfl
    · exact hlast x hx
  have hmap : (['j', 'o', 'b'] :: n.toList :: tail).map (encodeChars pathSet) =
      ['j', 'o', 'b'] :: (encode pathSet n).toList :: tail := by
    simp only [List.map_cons, List.cons.injEq]
    refine ⟨by decide, by rw [toList_encode]; rfl, ?_⟩
    exact (List.map_congr_left fun s hs => (hfixed s hs).written).trans (List.map_id' tail)
  rw [resolve_job_segments hB hjoin hweb (by simp) hsegs hlast', hmap, String.ofList_append,
    String.ofList_toList]

/-- The job endpoints resolve below the base URL of the service for every name that the name
check accepts, holds no `\` and is no dot segment: the base's scheme, credentials, host and port
stay, query and fragment go, and the path is the base's path followed by the endpoint's segments,
the name written under the path set. That written name is one segment, no dot segment, and it
percent-decodes to what the name percent-decodes to. -/
theorem resolve_job_endpoints {cluster : Option String} {pinned : List (String × String)}
    {d : Directory} (hd : build cluster pinned = .ok d) {service : String} {B : Url}
    (hB : d.baseUrl service = .ok B) (hweb : B.IsWeb) {n : String}
    (hn : Job.pathIssue? n = none) (hbs : '\\' ∉ n.toList)
    (hsingle : isSingleDot n.toList = false) (hdouble : isDoubleDot n.toList = false) :
    d.resolve service (Job.Endpoint.job n).path =
        .ok { B with
          path := B.path ++ (Job.Endpoint.job (encode pathSet n)).path
          query := none, fragment := none } ∧
      (∀ k, d.resolve service (Job.Endpoint.build n k).path =
        .ok { B with
          path := B.path ++ (Job.Endpoint.build (encode pathSet n) k).path
          query := none, fragment := none }) ∧
      (∀ st, d.resolve service (Job.Endpoint.buildable n st).path =
        .ok { B with
          path := B.path ++ (Job.Endpoint.buildable (encode pathSet n) st).path
          query := none, fragment := none }) ∧
      '/' ∉ (encode pathSet n).toList ∧
      isSingleDot (encode pathSet n).toList = false ∧
      isDoubleDot (encode pathSet n).toList = false ∧
      decodeOctets (Text.Utf8.encode (encode pathSet n)) = decodeOctets (Text.Utf8.encode n) := by
  have hjoin := baseUrl_joinsBelow (build_webBased hd) hB hweb
  obtain ⟨-, hsep, hctl, -, hesc⟩ := Job.pathIssue?_eq_none_iff.mp hn
  have hname := requestSegment_name hsep hctl hbs hsingle hdouble
  have hslash : '/' ∉ n.toList := by
    intro h
    have := List.any_eq_false.mp hsep '/' h
    simp [Job.isSeparator] at this
  refine ⟨?_, fun k => ?_, fun st => ?_, fun h => hslash (eq_of_mem_encode (.inl rfl) h), ?_, ?_,
    decodeOctets_encode_pathSet hesc⟩
  · rw [Job.Endpoint.path_job, Job.Endpoint.path_job]
    exact resolve_name_tail hB hjoin hweb hname (by simp) (fixedSegments_alnum (by decide))
      (by simp [List.intercalate_cons_cons, isTrimmed])
  · -- the number's digits are a fixed segment before `api/json`
    have hdigits : ((toString k).toList.all fun c => c.isDigit || c.isLower) = true := by
      refine List.all_eq_true.mpr fun c hc => ?_
      rw [Nat.toString_eq_ofList_toDigits, String.toList_ofList] at hc
      simp [Nat.isDigit_of_mem_toDigits (by decide) (by decide) hc]
    have hfixed : ∀ seg ∈ [(toString k).toList, ['a', 'p', 'i'], ['j', 's', 'o', 'n']],
        FixedSegment seg := by
      refine fixedSegments_alnum ?_
      rw [List.all_cons, hdigits, Bool.true_and]
      decide
    have hjson : ∀ x ∈ (['/'].intercalate [['a', 'p', 'i'], ['j', 's', 'o', 'n']]).getLast?,
        isTrimmed x = false := by
      simp [List.intercalate_cons_cons, isTrimmed]
    rw [Job.Endpoint.path_build, Job.Endpoint.path_build]
    refine resolve_name_tail hB hjoin hweb hname (by simp) hfixed fun x hx => ?_
    rw [List.intercalate_cons_cons, List.append_assoc, List.singleton_append] at hx
    rcases mem_getLast?_append_slash hx with rfl | hx
    · rfl
    · exact hjson x hx
  · rw [Job.Endpoint.path_buildable, Job.Endpoint.path_buildable]
    cases st with
    | enable =>
      exact resolve_name_tail hB hjoin hweb hname (by simp) (fixedSegments_alnum (by decide))
        (by simp [isTrimmed, Job.Buildable.verb])
    | disable =>
      exact resolve_name_tail hB hjoin hweb hname (by simp) (fixedSegments_alnum (by decide))
        (by simp [isTrimmed, Job.Buildable.verb])
  · cases h : isSingleDot (encode pathSet n).toList with
    | false => rfl
    | true => exact absurd (isSingleDot_of_encode h) (by simp [hsingle])
  · cases h : isDoubleDot (encode pathSet n).toList with
    | false => rfl
    | true => exact absurd (isDoubleDot_of_encode h) (by simp [hdouble])

/-- A job whose name holds a space, on a service pinned to a web URL with a path. -/
theorem resolve_job_endpoints_spaced :
    build none [("jenkins", "http://[::1]/ci")] =
        .ok ⟨none, [("jenkins",
          ⟨"http", "", none, some (.ipv6 [0, 0, 0, 0, 0, 0, 0, 1]), none, "/ci/", none, none⟩)]⟩ ∧
      (⟨none, [("jenkins",
          ⟨"http", "", none, some (.ipv6 [0, 0, 0, 0, 0, 0, 0, 1]), none, "/ci/", none, none⟩)]⟩ :
          Directory).baseUrl "jenkins" =
        .ok ⟨"http", "", none, some (.ipv6 [0, 0, 0, 0, 0, 0, 0, 1]), none, "/ci/", none, none⟩ ∧
      Url.IsWeb ⟨"http", "", none, some (.ipv6 [0, 0, 0, 0, 0, 0, 0, 1]), none, "/ci/", none,
        none⟩ ∧
      Job.pathIssue? "nightly build" = none ∧ '\\' ∉ "nightly build".toList ∧
      isSingleDot "nightly build".toList = false ∧ isDoubleDot "nightly build".toList = false ∧
      let d : Directory := ⟨none, [("jenkins",
        ⟨"http", "", none, some (.ipv6 [0, 0, 0, 0, 0, 0, 0, 1]), none, "/ci/", none, none⟩)]⟩
      let B : Url := ⟨"http", "", none, some (.ipv6 [0, 0, 0, 0, 0, 0, 0, 1]), none, "/ci/", none,
        none⟩
      let n := "nightly build"
      d.resolve "jenkins" (Job.Endpoint.job n).path =
          .ok { B with
            path := B.path ++ (Job.Endpoint.job (encode pathSet n)).path
            query := none, fragment := none } ∧
        (∀ k, d.resolve "jenkins" (Job.Endpoint.build n k).path =
          .ok { B with
            path := B.path ++ (Job.Endpoint.build (encode pathSet n) k).path
            query := none, fragment := none }) ∧
        (∀ st, d.resolve "jenkins" (Job.Endpoint.buildable n st).path =
          .ok { B with
            path := B.path ++ (Job.Endpoint.buildable (encode pathSet n) st).path
            query := none, fragment := none }) ∧
        '/' ∉ (encode pathSet n).toList ∧
        isSingleDot (encode pathSet n).toList = false ∧
        isDoubleDot (encode pathSet n).toList = false ∧
        decodeOctets (Text.Utf8.encode (encode pathSet n)) =
          decodeOctets (Text.Utf8.encode n) := by
  have hd : build none [("jenkins", "http://[::1]/ci")] =
      .ok ⟨none, [("jenkins",
        ⟨"http", "", none, some (.ipv6 [0, 0, 0, 0, 0, 0, 0, 1]), none, "/ci/", none, none⟩)]⟩ :=
    eq_ok_of_toOption (by decide +kernel)
  have hweb : Url.IsWeb
      ⟨"http", "", none, some (.ipv6 [0, 0, 0, 0, 0, 0, 0, 1]), none, "/ci/", none, none⟩ :=
    .inl rfl
  have hn : Job.pathIssue? "nightly build" = none := by decide +kernel
  exact ⟨hd, rfl, hweb, hn, by decide, by decide, by decide,
    resolve_job_endpoints hd rfl hweb hn (by decide) (by decide) (by decide)⟩

/-- The name `..` passes the name check, and the join resolves it away: the job document of `..`
is requested at the root document of the service. -/
theorem resolve_dot_name :
    Job.pathIssue? ".." = none ∧
      (⟨none, [("jenkins",
          ⟨"http", "", none, some (.ipv6 [0, 0, 0, 0, 0, 0, 0, 1]), none, "/ci/", none, none⟩)]⟩ :
          Directory).resolve "jenkins" (Job.Endpoint.job "..").path =
        .ok ⟨"http", "", none, some (.ipv6 [0, 0, 0, 0, 0, 0, 0, 1]), none, "/ci/api/json", none,
          none⟩ :=
  ⟨by decide +kernel, eq_ok_of_toOption (by decide +kernel)⟩

end CiClient.Service.Directory
