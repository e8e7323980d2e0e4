import CiClient.Proofs.JobRequestUrl
import CiClient.Proofs.OperationCalls
/-!
# The copy request

Copying a job posts to `createItem` with the query `name=<dst>&mode=copy&from=<src>`. The server
reads that query as `application/x-www-form-urlencoded`: the octets are split at `&`, each piece
at its first `=`, `+` is read as a space, and both halves are percent-decoded (`Url.formPairs`).

For every two names that the query-value check accepts, and every web base URL of a directory,
the request URL is the base URL with `createItem` below its path, no fragment, and a query that
reads back as exactly the three pairs `name`, `mode`, `from`, in that order, with the two names
percent-decoded (`Directory.resolve_copy_request`). No name splits, adds or drops a pair: the
check refuses `&`, `=`, `+` and `#`, and escapes of `&` and `#`; writing under the query set
adds only escapes, whose octets are `%` and hex digits; and an escape the check accepts reads
the same after writing, so percent-decoding the written name gives what percent-decoding the
name gives.
-/

namespace CiClient.Url

open Text

/-! ## Form queries -/

/-- The pairs of a query as `application/x-www-form-urlencoded` reads them: the octets are split
at `&`, empty pieces are skipped, each piece is split at its first `=` (a piece without one is a
name with an empty value), `+` is read as a space, and both halves are percent-decoded. -/
def formPairs (q : List UInt8) : List (List UInt8 × List UInt8) :=
  ((q.splitOn 0x26).filter (!·.isEmpty)).map fun piece =>
    let piece := piece.map fun b => if b = 0x2B then 0x20 else b
    (decodeOctets (piece.takeWhile (· ≠ 0x3D)),
      decodeOctets ((piece.dropWhile (· ≠ 0x3D)).drop 1))

/-- A query read as form pairs of texts: each half is read as UTF-8, with U+FFFD for octets that
are no character. -/
def formQuery (q : String) : List (String × String) :=
  (formPairs (Utf8.encode q)).map fun p => (Utf8.decodeLossy p.1, Utf8.decodeLossy p.2)

/-- The text that a text percent-decodes to. -/
def percentDecode (s : String) : String := Utf8.decodeLossy (decodeOctets (Utf8.encode s))

/-- The piece `name=value` of a form query. -/
def formPiece (p : List UInt8 × List UInt8) : List UInt8 := p.1 ++ 0x3D :: p.2

theorem formPiece_map_plus {p : List UInt8 × List UInt8} (h1 : 0x2B ∉ p.1) (h2 : 0x2B ∉ p.2) :
    (formPiece p).map (fun b => if b = 0x2B then 0x20 else b) = formPiece p := by
  have hkeep : ∀ b ∈ formPiece p, (if b = 0x2B then 0x20 else b) = b := by
    intro b hb
    have hb' : b ≠ 0x2B := by
      rintro rfl
      simp only [formPiece, List.mem_append, List.mem_cons] at hb
      rcases hb with hb | hb | hb
      · exact h1 hb
      · cases hb
      · exact h2 hb
    simp [hb']
  exact (List.map_congr_left hkeep).trans (List.map_id' _)

/-- A piece is split at its first `=`: a name without `=` comes back whole, whatever the value
holds. -/
theorem formPiece_split {p : List UInt8 × List UInt8} (h : 0x3D ∉ p.1) :
    (formPiece p).takeWhile (· ≠ 0x3D) = p.1 ∧
      ((formPiece p).dropWhile (· ≠ 0x3D)).drop 1 = p.2 := by
  have hname : ∀ b ∈ p.1, decide (b ≠ 0x3D) = true := by
    intro b hb
    have hne : b ≠ 0x3D := by
      rintro rfl
      exact h hb
    simpa using hne
  constructor
  · rw [formPiece, List.takeWhile_append_of_pos hname, List.takeWhile_cons_of_neg (by decide),
      List.append_nil]
  · rw [formPiece, List.dropWhile_append_of_pos hname, List.dropWhile_cons_of_neg (by decide)]
    rfl

/-- Pieces `name=value` joined by `&` read back as their pairs, each half percent-decoded, when no
name holds `&`, `=` or `+` and no value holds `&` or `+`. -/
theorem formPairs_intercalate (ps : List (List UInt8 × List UInt8))
    (hname : ∀ p ∈ ps, 0x26 ∉ p.1 ∧ 0x3D ∉ p.1 ∧ 0x2B ∉ p.1)
    (hvalue : ∀ p ∈ ps, 0x26 ∉ p.2 ∧ 0x2B ∉ p.2) :
    formPairs ([0x26].intercalate (ps.map formPiece)) =
      ps.map fun p => (decodeOctets p.1, decodeOctets p.2) := by
  cases ps with
  | nil => rfl
  | cons p₀ ps₀ => ?_
  have hne : p₀ :: ps₀ ≠ [] := List.cons_ne_nil _ _
  generalize p₀ :: ps₀ = ps at hne hname hvalue ⊢
  -- no piece holds `&`, so splitting at `&` gives the pieces back
  have hamp : ∀ l ∈ ps.map formPiece, (0x26 : UInt8) ∉ l := by
    intro l hl
    obtain ⟨p, hp, rfl⟩ := List.mem_map.mp hl
    simp only [formPiece, List.mem_append, List.mem_cons, not_or]
    exact ⟨(hname p hp).1, by decide, (hvalue p hp).1⟩
  have hsplit := List.splitOn_intercalate (0x26 : UInt8) hamp (by simpa using hne)
  -- every piece holds its `=`, so none is skipped as empty
  have hkept : (ps.map formPiece).filter (!·.isEmpty) = ps.map formPiece := by
    apply List.filter_eq_self.mpr
    intro l hl
    obtain ⟨p, -, rfl⟩ := List.mem_map.mp hl
    simp [formPiece]
  rw [formPairs, hsplit, hkept, List.map_map]
  apply List.map_congr_left
  intro p hp
  obtain ⟨-, h3D, h2B⟩ := hname p hp
  simp only [Function.comp_apply, formPiece_map_plus h2B (hvalue p hp).2,
    (formPiece_split h3D).1, (formPiece_split h3D).2]

/-! ## Writing a text under a set -/

theorem encode_append (set : EncodeSet) (s t : String) :
    encode set (s ++ t) = encode set s ++ encode set t := by
  rw [← String.toList_inj]
  simp [toList_encode, List.flatMap_append]

theorem utf8_encode_append (s t : String) :
    Utf8.encode (s ++ t) = Utf8.encode s ++ Utf8.encode t := by
  simp [Utf8.encode, List.flatMap_append]

/-- An ASCII octet of a written text that is neither `%` nor a hex digit stands for itself: it is
a character of the text. -/
theorem mem_of_mem_utf8_encode {set : EncodeSet} {s : String} {b : UInt8} (hb : b.toNat < 0x80)
    (hpct : b ≠ 0x25) (hhex : hexValue b = none) (h : b ∈ Utf8.encode (encode set s)) :
    Char.ofNat b.toNat ∈ s.toList := by
  rw [utf8_encode_encode, List.mem_flatMap] at h
  obtain ⟨b', hb', h⟩ := h
  rw [utf8_encodeOctet] at h
  -- an escape's octets are `%` and two hex digits, so the octet was kept as it was
  have hsame : b = b' := by
    split at h
    · have := b'.toNat_lt
      simp only [List.mem_cons, List.not_mem_nil, or_false] at h
      rcases h with rfl | rfl | rfl
      · exact absurd rfl hpct
      · rw [hexValue_hexUpper _ (by omega)] at hhex
        cases hhex
      · rw [hexValue_hexUpper _ (by omega)] at hhex
        cases hhex
    · simpa using h
  subst hsame
  obtain ⟨c, hc, hbc⟩ := List.mem_flatMap.mp hb'
  rw [← Utf8.toNat_eq_of_mem_encodeChar hbc hb, Char.ofNat_toNat]
  exact hc

end CiClient.Url

namespace CiClient.Job

open Text Url

/-- A name is accepted as a query value exactly when it is accepted in a path and holds neither
`=` nor `+`. -/
theorem queryIssue?_eq_none_iff {s : String} :
    queryIssue? s = none ↔
      pathIssue? s = none ∧ s.toList.any (fun c => c = '=' || c = '+') = false := by
  unfold queryIssue?
  cases hp : pathIssue? s with
  | some i => simp
  | none =>
    cases hq : s.toList.any (fun c => c = '=' || c = '+') <;> simp

/-- The last character of a text that trimming leaves as it is is no White_Space. -/
theorem getLast_not_whiteSpace {s : String} (h : Unicode.trim s = s) :
    ∀ x ∈ s.toList.getLast?, Unicode.isWhiteSpace x = false := by
  intro x hx
  -- the last character of the trimmed text is the first one left after trimming the reversed end
  have hlast : (Unicode.trim s).toList.getLast? =
      ((s.toList.dropWhile Unicode.isWhiteSpace).reverse.dropWhile Unicode.isWhiteSpace).head? := by
    simp [Unicode.trim]
  rw [h] at hlast
  rw [hlast, Option.mem_def] at hx
  have hnot := List.head?_dropWhile_not Unicode.isWhiteSpace
    (s.toList.dropWhile Unicode.isWhiteSpace).reverse
  rw [hx] at hnot
  exact hnot

/-- A name accepted in a path ends with a character that a URL reader does not trim: no control,
and no space. -/
theorem getLast_not_trimmed {s : String} (h : pathIssue? s = none) :
    ∀ x ∈ s.toList.getLast?, isTrimmed x = false := by
  intro x hx
  obtain ⟨-, -, hctl, htrim, -⟩ := pathIssue?_eq_none_iff.mp h
  have hc := List.any_eq_false.mp hctl x (List.mem_of_getLast? hx)
  have hw := getLast_not_whiteSpace htrim x hx
  -- no control is below U+0020, and U+0020 itself is White_Space
  simp [Unicode.isControl] at hc
  simp [Unicode.isWhiteSpace] at hw
  simp only [isTrimmed, decide_eq_false_iff_not]
  omega

/-- What the characters of a query value that the check accepts are not. -/
theorem char_of_queryIssue? {s : String} (h : queryIssue? s = none) {x : Char} (hx : x ∈ s.toList) :
    x ≠ '&' ∧ x ≠ '#' ∧ x ≠ '=' ∧ x ≠ '+' ∧ isDropped x = false := by
  obtain ⟨hp, hq⟩ := queryIssue?_eq_none_iff.mp h
  obtain ⟨-, hsep, hctl, -, -⟩ := pathIssue?_eq_none_iff.mp hp
  have h1 := List.any_eq_false.mp hsep x hx
  have h2 := List.any_eq_false.mp hctl x hx
  have h3 := List.any_eq_false.mp hq x hx
  simp at h3
  simp [Unicode.isControl] at h2
  refine ⟨?_, ?_, h3.1, h3.2, ?_⟩
  · rintro rfl
    exact h1 (by decide)
  · rintro rfl
    exact h1 (by decide)
  -- tabs and line breaks are controls
  simp only [isDropped, Bool.or_eq_false_iff, decide_eq_false_iff_not]
  refine ⟨⟨?_, ?_⟩, ?_⟩ <;> rintro rfl <;> simp at h2

end CiClient.Job

namespace CiClient.Url

open Text

/-! ## The copy query -/

/-- The octets of the copy query: the pieces `name=`, `mode=copy` and `from=` joined by `&`, each
name written under the query set of web URLs. -/
theorem utf8_copyQuery (src dst : String) :
    Utf8.encode (encode specialQuerySet ("name=" ++ dst ++ "&mode=copy&from=" ++ src)) =
      [0x26].intercalate ([(Utf8.encode "name", Utf8.encode (encode specialQuerySet dst)),
        (Utf8.encode "mode", Utf8.encode "copy"),
        (Utf8.encode "from", Utf8.encode (encode specialQuerySet src))].map formPiece) := by
  have hname : Utf8.encode (encode specialQuerySet "name=") = Utf8.encode "name" ++ [0x3D] := by
    decide
  have hmid : Utf8.encode (encode specialQuerySet "&mode=copy&from=") =
      0x26 :: Utf8.encode "mode" ++ 0x3D :: Utf8.encode "copy" ++ 0x26 :: Utf8.encode "from" ++
        [0x3D] := by
    decide
  simp only [encode_append, utf8_encode_append, hname, hmid]
  simp [List.intercalate_cons_cons, formPiece]

/-- A name that the query-value check accepts is written with no `&` and no `+`, and its written
form percent-decodes to what the name percent-decodes to. -/
theorem written_queryName {s : String} (h : Job.queryIssue? s = none) :
    0x26 ∉ Utf8.encode (encode specialQuerySet s) ∧ 0x2B ∉ Utf8.encode (encode specialQuerySet s) ∧
      decodeOctets (Utf8.encode (encode specialQuerySet s)) = decodeOctets (Utf8.encode s) := by
  obtain ⟨-, -, -, -, hesc⟩ := Job.pathIssue?_eq_none_iff.mp (Job.pathIssue?_of_queryIssue? h)
  refine ⟨fun hm => ?_, fun hm => ?_, decodeOctets_encode_of_keeps specialQuerySet_keepsEscapes hesc⟩
  · have hc := mem_of_mem_utf8_encode (by decide) (by decide) (by decide) hm
    exact (Job.char_of_queryIssue? h hc).1 (by decide)
  · have hc := mem_of_mem_utf8_encode (by decide) (by decide) (by decide) hm
    exact (Job.char_of_queryIssue? h hc).2.2.2.1 (by decide)

/-- The copy query reads back as the three pairs `name`, `mode` and `from`, in that order, with
the names percent-decoded. -/
theorem formQuery_copy {src dst : String} (hsrc : Job.queryIssue? src = none)
    (hdst : Job.queryIssue? dst = none) :
    formQuery (encode specialQuerySet ("name=" ++ dst ++ "&mode=copy&from=" ++ src)) =
      [("name", percentDecode dst), ("mode", "copy"), ("from", percentDecode src)] := by
  obtain ⟨d1, d2, d3⟩ := written_queryName hdst
  obtain ⟨s1, s2, s3⟩ := written_queryName hsrc
  rw [formQuery, utf8_copyQuery, formPairs_intercalate]
  · simp [percentDecode, d3, s3]
    decide
  · intro p hp
    simp only [List.mem_cons, List.not_mem_nil, or_false] at hp
    rcases hp with rfl | rfl | rfl <;> dsimp only <;> decide
  · intro p hp
    simp only [List.mem_cons, List.not_mem_nil, or_false] at hp
    rcases hp with rfl | rfl | rfl
    · exact ⟨d1, d2⟩
    · decide
    · exact ⟨s1, s2⟩

end CiClient.Url

namespace CiClient.Service.Directory

open Url Text

/-- A request path is resolved by joining it, without its leading slashes, below the base URL of
its service. -/
theorem resolve_of_join {d : Directory} {service path : String} {B u : Url}
    (hB : d.baseUrl service = .ok B)
    (h : B.join (String.ofList (path.toList.dropWhile (· = '/'))) = .ok u) :
    d.resolve service path = .ok u := by
  simp [resolve, hB, bind, Except.bind, h, pure, Except.pure]

theorem plain_of_all {r : PathRules} {seg : List Char}
    (h : (seg.all fun c => !r.isSeparator c && !r.endsPath c) = true) : ∀ c ∈ seg, r.Plain c := by
  intro c hc
  have := List.all_eq_true.mp h c hc
  simp only [Bool.and_eq_true, Bool.not_eq_eq_eq_not, Bool.not_true] at this
  exact this

/-- `createItem` is read as the one segment it is. -/
theorem plainSegment_createItem : webRules.PlainSegment "createItem".toList :=
  ⟨plain_of_all (by decide), by decide, by decide⟩

theorem Endpoint.path_copy_toList (src dst : String) :
    (Job.Endpoint.copy src dst).path.toList =
      "createItem".toList ++ '?' :: ("name=" ++ dst ++ "&mode=copy&from=" ++ src).toList := by
  have hsplit : "createItem?name=" = "createItem" ++ ("?" ++ "name=") := by decide
  show ("createItem?name=" ++ dst ++ "&mode=copy&from=" ++ src).toList = _
  rw [hsplit]
  simp only [String.toList_append, List.append_assoc]
  rfl

/-- Everything after the `?` of the copy request is its query: no character there ends the query
or is dropped by the reader. -/
theorem copyQuery_chars {src dst : String} (hsrc : Job.queryIssue? src = none)
    (hdst : Job.queryIssue? dst = none) :
    ∀ x ∈ ("name=" ++ dst ++ "&mode=copy&from=" ++ src).toList, x ≠ '#' ∧ isDropped x = false := by
  intro x hx
  simp only [String.toList_append, List.mem_append] at hx
  rcases hx with ((hx | hx) | hx) | hx
  · have hall : ("name=".toList.all fun c => c != '#' && !isDropped c) = true := by decide
    simpa using List.all_eq_true.mp hall x hx
  · obtain ⟨-, hh, -, -, hd⟩ := Job.char_of_queryIssue? hdst hx
    exact ⟨hh, hd⟩
  · have hall : ("&mode=copy&from=".toList.all fun c => c != '#' && !isDropped c) = true := by
      decide
    simpa using List.all_eq_true.mp hall x hx
  · obtain ⟨-, hh, -, -, hd⟩ := Job.char_of_queryIssue? hsrc hx
    exact ⟨hh, hd⟩

/-- A query text without `#` is all query: it is written under the query set of web URLs, and
there is no fragment. -/
theorem readQueryFragment_query {q : List Char} (hq : ∀ x ∈ q, x ≠ '#') :
    readQueryFragment true ('?' :: q) = (some (encode specialQuerySet (String.ofList q)), none) := by
  have hkeep : ∀ x ∈ q, (!decide (x = '#')) = true := by
    intro x hx
    simpa using hq x hx
  have htake := @List.takeWhile_append_of_pos _ _ q [] hkeep
  have hdrop := @List.dropWhile_append_of_pos _ _ q [] hkeep
  simp only [List.append_nil, List.takeWhile_nil, List.dropWhile_nil] at htake hdrop
  simp [readQueryFragment, htake, hdrop]

/-- The copy request resolves below the base URL: the base with `createItem` after its path, the
query written under the query set of web URLs, and no fragment. -/
theorem resolve_copy_path {d : Directory} {service : String} {B : Url}
    (hB : d.baseUrl service = .ok B) (hjoin : B.JoinsBelow) (hweb : B.IsWeb) {src dst : String}
    (hsrc : Job.queryIssue? src = none) (hdst : Job.queryIssue? dst = none) :
    d.resolve service (Job.Endpoint.copy src dst).path =
      .ok { B with
        path := B.path ++ "createItem"
        query := some (encode specialQuerySet ("name=" ++ dst ++ "&mode=copy&from=" ++ src))
        fragment := none } := by
  have hchars := copyQuery_chars hsrc hdst
  -- the request ends with the last character of `src`, which the reader does not trim
  have hlast : ∀ x ∈ ("name=" ++ dst ++ "&mode=copy&from=" ++ src).toList.getLast?,
      isTrimmed x = false := by
    obtain ⟨hempty, -⟩ := Job.pathIssue?_eq_none_iff.mp (Job.pathIssue?_of_queryIssue? hsrc)
    have hne : src.toList ≠ [] := by simpa [String.isEmpty_iff] using hempty
    intro x hx
    rw [String.toList_append, List.getLast?_append] at hx
    cases hs : src.toList.getLast? with
    | none => exact absurd (List.getLast?_eq_none_iff.mp hs) hne
    | some y =>
      rw [hs] at hx
      simp only [Option.some_or, Option.mem_def, Option.some.injEq] at hx
      rw [← hx]
      exact Job.getLast_not_trimmed (Job.pathIssue?_of_queryIssue? hsrc) y hs
  have hpath := Endpoint.path_copy_toList src dst
  generalize "name=" ++ dst ++ "&mode=copy&from=" ++ src = q at hchars hlast hpath ⊢
  have hitem : "createItem".toList = ['c', 'r', 'e', 'a', 't', 'e', 'I', 't', 'e', 'm'] := by
    decide
  rw [hitem] at hpath
  have hclean : cleanInput (String.ofList ((Job.Endpoint.copy src dst).path.toList.dropWhile
      (· = '/'))) = 'c' :: (['r', 'e', 'a', 't', 'e', 'I', 't', 'e', 'm'] ++ '?' :: q.toList) := by
    rw [hpath, List.cons_append, List.dropWhile_cons_of_neg (by decide)]
    refine cleanInput_eq_self String.toList_ofList (by decide) ?_ ?_
    · intro x hx
      rw [← List.cons_append, List.getLast?_append] at hx
      cases hq : q.toList.getLast? with
      | none =>
        rw [List.getLast?_cons, hq] at hx
        simp at hx
        subst hx
        decide
      | some y =>
        rw [List.getLast?_cons, hq] at hx
        simp only [Option.some_or, Option.mem_def, Option.some.injEq] at hx
        subst hx
        exact hlast y hq
    · intro x hx
      rw [← List.cons_append, List.mem_append] at hx
      rcases hx with hx | hx
      · simp only [List.mem_cons, List.not_mem_nil, or_false] at hx
        rcases hx with rfl | rfl | rfl | rfl | rfl | rfl | rfl | rfl | rfl | rfl <;> decide
      · rcases List.mem_cons.mp hx with rfl | hx
        · decide
        · exact (hchars x hx).2
  have hread : readPath webRules B.path.toList
      ('c' :: (['r', 'e', 'a', 't', 'e', 'I', 't', 'e', 'm'] ++ '?' :: q.toList)) =
      (B.path.toList ++ ['c', 'r', 'e', 'a', 't', 'e', 'I', 't', 'e', 'm'], '?' :: q.toList,
        false) := by
    unfold readPath
    rw [← List.cons_append, ← hitem, go_plain_end rfl plainSegment_createItem (by decide) (by decide)]
    rw [hitem]
    rfl
  have hsp : B.isSpecial = true := hweb.special
  apply resolve_of_join hB
  rw [join_of_plain_start hjoin hweb hclean rfl (by decide), hread]
  dsimp only [withPathFrom]
  rw [hsp, readQueryFragment_query fun x hx => (hchars x hx).1, String.ofList_toList,
    String.ofList_append, String.ofList_toList]

/-- The request of a copy, for every two names that the query-value check accepts and every web
base URL of a directory: the check passes both names; the URL is the base with `createItem` after
its path, a query and no fragment; and the query, read as a form, is exactly `name`, `mode` and
`from`, in that order, with the destination and the source percent-decoded. -/
theorem resolve_copy_request {cluster : Option String} {pinned : List (String × String)}
    {d : Directory} (hd : build cluster pinned = .ok d) {service : String} {B : Url}
    (hB : d.baseUrl service = .ok B) (hweb : B.IsWeb) {src dst : String}
    (hsrc : Job.queryIssue? src = none) (hdst : Job.queryIssue? dst = none) :
    Job.copyPath src dst = .ok (.copy src dst) ∧
      ∃ q, d.resolve service (Job.Endpoint.copy src dst).path =
          .ok { B with
            path := B.path ++ "createItem"
            query := some q
            fragment := none } ∧
        formQuery q =
          [("name", percentDecode dst), ("mode", "copy"), ("from", percentDecode src)] := by
  have hjoin := baseUrl_joinsBelow (build_webBased hd) hB hweb
  have hcopy : Job.copyPath src dst = .ok (.copy src dst) := by
    simp only [Job.copyPath, Job.checkQueryName_ok hsrc, Job.checkQueryName_ok hdst]
    rfl
  exact ⟨hcopy, _, resolve_copy_path hB hjoin hweb hsrc hdst, formQuery_copy hsrc hdst⟩

/-- A copy whose source holds an escaped `+` and whose destination holds a space and a letter
outside ASCII, on a service pinned to a web URL with a path. -/
theorem resolve_copy_request_escaped :
    build none [("jenkins", "http://[::1]/ci")] =
        .ok ⟨none, [("jenkins",
          ⟨"http", "", none, some (.ipv6 [0, 0, 0, 0, 0, 0, 0, 1]), none, "/ci/", none, none⟩)]⟩ ∧
      (⟨none, [("jenkins",
          ⟨"http", "", none, some (.ipv6 [0, 0, 0, 0, 0, 0, 0, 1]), none, "/ci/", none, none⟩)]⟩ :
          Directory).baseUrl "jenkins" =
        .ok ⟨"http", "", none, some (.ipv6 [0, 0, 0, 0, 0, 0, 0, 1]), none, "/ci/", none, none⟩ ∧
      Url.IsWeb ⟨"http", "", none, some (.ipv6 [0, 0, 0, 0, 0, 0, 0, 1]), none, "/ci/", none,
        none⟩ ∧
      Job.queryIssue? "nightly%2Bfast" = none ∧ Job.queryIssue? "copie de nuit ü" = none ∧
      let d : Directory := ⟨none, [("jenkins",
        ⟨"http", "", none, some (.ipv6 [0, 0, 0, 0, 0, 0, 0, 1]), none, "/ci/", none, none⟩)]⟩
      let B : Url := ⟨"http", "", none, some (.ipv6 [0, 0, 0, 0, 0, 0, 0, 1]), none, "/ci/", none,
        none⟩
      Job.copyPath "nightly%2Bfast" "copie de nuit ü" =
          .ok (.copy "nightly%2Bfast" "copie de nuit ü") ∧
        ∃ q, d.resolve "jenkins" (Job.Endpoint.copy "nightly%2Bfast" "copie de nuit ü").path =
            .ok { B with
              path := B.path ++ "createItem"
              query := some q
              fragment := none } ∧
          formQuery q = [("name", percentDecode "copie de nuit ü"), ("mode", "copy"),
            ("from", percentDecode "nightly%2Bfast")] := by
  have hd : build none [("jenkins", "http://[::1]/ci")] =
      .ok ⟨none, [("jenkins",
        ⟨"http", "", none, some (.ipv6 [0, 0, 0, 0, 0, 0, 0, 1]), none, "/ci/", none, none⟩)]⟩ :=
    eq_ok_of_toOption (by decide +kernel)
  have hweb : Url.IsWeb
      ⟨"http", "", none, some (.ipv6 [0, 0, 0, 0, 0, 0, 0, 1]), none, "/ci/", none, none⟩ :=
    .inl rfl
  have hsrc : Job.queryIssue? "nightly%2Bfast" = none := by decide +kernel
  have hdst : Job.queryIssue? "copie de nuit ü" = none := by decide +kernel
  exact ⟨hd, rfl, hweb, hsrc, hdst, resolve_copy_request hd rfl hweb hsrc hdst⟩

end CiClient.Service.Directory
