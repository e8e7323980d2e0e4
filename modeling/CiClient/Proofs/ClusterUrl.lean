import CiClient.Proofs.BaseUrl
import CiClient.Proofs.PercentEncoding
/-!
# The path of a cluster URL

A service without a pinned URL is reached below the cluster URL, and what a push onto that URL
writes depends on the shape of its path. `normalizeBase` gives every hierarchical URL a path that
starts and ends with `/`, and no query or fragment (`normalizeBase_hierarchical`). The path of a
`file` URL is moreover `FileShaped`: its first segment does not start with a second `/`, since
the reader drops the empty segments at the start of a file path.

What `normalizeBase` starts from is a URL that `Url.parse` read. Its path is empty or starts with
`/` when it has a host (`parse_path_head`), and is file-shaped when it is a `file` URL
(`parse_fileShaped`). Setting the path of a URL keeps an opaque path opaque
(`setPath_cannotBeABase`), and a hierarchical URL set to a text that starts and ends with `/`
gets a path that does too (`readPathStart_slashed`).
-/

namespace CiClient.Url

/-- A path as the reader leaves a `file` path: a `/`, then a first segment that does not start
with another `/`. -/
def FileShaped (p : List Char) : Prop := ∃ m, p = '/' :: m ∧ m.head? ≠ some '/'

theorem FileShaped.head {p : List Char} (h : FileShaped p) : p.head? = some '/' := by
  obtain ⟨m, rfl, -⟩ := h
  rfl

theorem fileShaped_slash_dropWhile (l : List Char) :
    FileShaped ('/' :: l.dropWhile (· = '/')) := by
  refine ⟨_, rfl, fun h => ?_⟩
  have hnot := List.head?_dropWhile_not (fun c => decide (c = '/')) l
  rw [h] at hnot
  simp at hnot

theorem getLast_slash_dropWhile {l : List Char} (h : l.getLast? = some '/') :
    ('/' :: l.dropWhile (· = '/')).getLast? = some '/' := by
  induction l with
  | nil => simp at h
  | cons c l ih =>
    by_cases hc : c = '/'
    · rw [List.dropWhile_cons_of_pos (by simpa using hc)]
      cases l with
      | nil => rfl
      | cons d l => exact ih (by simpa [List.getLast?_cons_cons] using h)
    · rw [List.dropWhile_cons_of_neg (by simpa using hc)]
      simpa [List.getLast?_cons_cons] using h

theorem startsWith_slash_iff (s : String) :
    s.startsWith "/" = true ↔ s.toList.head? = some '/' := by
  rw [String.startsWith_eq_startsWith_toSlice, String.Slice.startsWith_string_iff]
  simp only [String.copy_toSlice]
  cases s.toList with
  | nil => simp
  | cons c l => simp [List.cons_prefix_cons, eq_comm]

theorem cannotBeABase_eq_false_iff (u : Url) :
    u.cannotBeABase = false ↔ u.host.isSome = true ∨ u.path.toList.head? = some '/' := by
  rw [cannotBeABase, ← startsWith_slash_iff]
  cases u.host <;> simp

/-! ## Paths that the reader reads -/

variable {r : PathRules}

theorem readPath_fileShaped (hfile : r.file = true) (path input : List Char) :
    FileShaped (readPath r path input).1 := by
  simp only [readPath, hfile, if_true]
  exact fileShaped_slash_dropWhile _

theorem head_readPath_of_head {path : List Char} (h : path.head? = some '/') (input : List Char) :
    (readPath r path input).1.head? = some '/' := by
  cases hfile : r.file
  · exact head_readPath hfile h input
  · exact (readPath_fileShaped hfile path input).head

theorem readPathStart_fileShaped (hs : r.special = true) (hfile : r.file = true) (pre : Bool)
    (input : List Char) : FileShaped (readPathStart r pre input).1 := by
  simp only [readPathStart, hs, if_true]
  split
  · exact readPath_fileShaped hfile _ _
  · split
    · split <;> exact readPath_fileShaped hfile _ _
    · exact readPath_fileShaped hfile _ _

/-- A URL read with an authority has an empty path or one that starts with `/`: a path that is
not special is empty before a `?` or `#`, and any other path is read onto a `/`. -/
theorem readPathStart_rulesOf_head (scheme : String) (input : List Char) :
    (readPathStart (rulesOf scheme) false input).1 = [] ∨
      (readPathStart (rulesOf scheme) false input).1.head? = some '/' := by
  by_cases hf : scheme = "file"
  · subst hf
    exact .inr (readPathStart_fileShaped rfl rfl false input).head
  have hfile : (rulesOf scheme).file = false := by simp [rulesOf, hf]
  cases hs : isSpecialScheme scheme with
  | true => exact .inr (head_readPathStart (by simp [rulesOf, hs]) hfile input)
  | false =>
    have hsep : (rulesOf scheme).isSeparator '/' = true := by simp [PathRules.isSeparator, rulesOf]
    have hspecial : (rulesOf scheme).special = false := by simp [rulesOf, hs]
    simp only [readPathStart, hspecial, Bool.false_eq_true, if_false]
    split
    · exact .inl (readPath_nil hfile [])
    · next c rest =>
      split
      · exact .inl rfl
      · split
        · next hc =>
          subst hc
          rw [readPath_slash_cons hfile hsep]
          exact .inr (head_readPath hfile rfl rest)
        · exact .inr (head_readPath hfile rfl _)

/-- Reading a whole path that ends with `/`, or nothing onto a path that does, leaves a path that
ends with `/`; a `file` path keeps that `/` when it drops the empty segments at its start. -/
theorem getLast_readPath (hmode : r.mode = .whole) {path input : List Char}
    (h : input.getLast? = some '/' ∨ (input = [] ∧ path.getLast? = some '/')) :
    (readPath r path input).1.getLast? = some '/' := by
  have hsep : r.isSeparator '/' = true := by simp [PathRules.isSeparator, hmode]
  have hgo : (readPath.go r (input.length + 1) path input false).1.getLast? = some '/' := by
    rcases h with h | ⟨rfl, hp⟩
    · refine getLast_go_of_sep _ _ _ _ (by omega) ?_ ⟨'/', h, hsep⟩
      intro c _
      simp [PathRules.endsPath, hmode]
    · rw [go_nil]
      exact hp
  simp only [readPath]
  split
  · exact getLast_slash_dropWhile hgo
  · exact hgo

/-- A whole path that starts and ends with `/` is read into a path that does too, whatever the
scheme and whether the text before it ends with `/`. -/
theorem readPathStart_slashed (hmode : r.mode = .whole) (pre : Bool) {input : List Char}
    (hhead : input.head? = some '/') (hlast : input.getLast? = some '/') :
    (readPathStart r pre input).1.head? = some '/' ∧
      (readPathStart r pre input).1.getLast? = some '/' := by
  obtain ⟨more, rfl⟩ := List.head?_eq_some_iff.mp hhead
  have hsep : r.isSeparator '/' = true := by simp [PathRules.isSeparator, hmode]
  -- the reader starts at the first `/`, or after it with that `/` already written
  have hfirst : (readPath r [] ('/' :: more)).1.head? = some '/' ∧
      (readPath r [] ('/' :: more)).1.getLast? = some '/' := by
    refine ⟨?_, getLast_readPath hmode (.inl hlast)⟩
    cases hfile : r.file
    · rw [readPath_slash_cons hfile hsep]
      exact head_readPath hfile rfl more
    · exact (readPath_fileShaped hfile _ _).head
  have hafter : (readPath r ['/'] more).1.head? = some '/' ∧
      (readPath r ['/'] more).1.getLast? = some '/' := by
    refine ⟨head_readPath_of_head rfl more, getLast_readPath hmode ?_⟩
    cases more with
    | nil => exact .inr ⟨rfl, rfl⟩
    | cons c more => exact .inl (by simpa [List.getLast?_cons_cons] using hlast)
  simp only [readPathStart]
  split
  · split
    · exact hfirst
    · simpa using hafter
  · simpa using hfirst

/-! ## Reading a URL -/

theorem fileUrl_path (host : Host) (path rest : List Char) :
    (fileUrl host path rest).path = String.ofList path := by
  unfold fileUrl
  split
  rfl

/-- Every URL read after a `file:` scheme, with no base, has a file-shaped path. -/
theorem readFile_fileShaped {cs : List Char} {u : Url} (h : readFile cs none = .ok u) :
    FileShaped u.path.toList := by
  unfold readFile at h
  simp only [readFile.readFileSlash, readFile.readFileOther, bind, Except.bind, pure,
    Except.pure] at h
  -- every branch ends in `fileUrl` with a path read under the `file` rules, or in a failure
  repeat' split at h
  all_goals simp only [Except.ok.injEq, reduceCtorEq] at h
  all_goals
    subst h
    rw [fileUrl_path, String.toList_ofList]
    first
    | exact readPath_fileShaped rfl _ _
    | exact readPathStart_fileShaped rfl rfl _ _

theorem withAuthority_path {scheme : String} {cs : List Char} {u : Url}
    (h : withAuthority scheme cs = .ok u) :
    ∃ rest, u.path.toList = (readPathStart (rulesOf scheme) false rest).1 := by
  unfold withAuthority at h
  simp only [bind, Except.bind, pure, Except.pure] at h
  split at h
  · cases h
  · injection h with h
    subst h
    exact ⟨_, String.toList_ofList⟩

/-- What a URL read on its own can be: a file URL, a URL with an authority and the scheme it was
read with, or a URL of another scheme without a host. -/
theorem parse_eq_ok {raw : String} {v : Url} (h : Url.parse raw = .ok v) :
    (∃ cs, readFile cs none = .ok v) ∨ (∃ cs, withAuthority v.scheme cs = .ok v) ∨
      (v.host = none ∧ v.scheme ≠ "file") := by
  cases hs : readScheme (cleanInput raw) with
  | none => simp [Url.parse, hs, throw, throwThe, MonadExceptOf.throw] at h
  | some p =>
    obtain ⟨scheme, rest⟩ := p
    simp only [Url.parse, hs] at h
    by_cases hfile : scheme = "file"
    · simp only [readWithScheme, if_pos hfile, Option.filter_none] at h
      exact .inl ⟨rest, h⟩
    · cases hsp : isSpecialScheme scheme with
      | true =>
        simp only [readWithScheme, if_neg hfile, hsp, if_true] at h
        rw [← (withAuthority_ok h).1] at h
        exact .inr (.inl ⟨_, h⟩)
      | false =>
        have hsch := readWithScheme_opaque_scheme hsp h
        simp only [readWithScheme, if_neg hfile, hsp, Bool.false_eq_true, if_false] at h
        split at h
        · rw [← hsch] at h
          exact .inr (.inl ⟨_, h⟩)
        · refine .inr (.inr ⟨?_, hsch ▸ hfile⟩)
          cases h
          rfl
        · refine .inr (.inr ⟨?_, hsch ▸ hfile⟩)
          cases h
          rfl

theorem parse_fileShaped {raw : String} {v : Url} (h : Url.parse raw = .ok v)
    (hfile : v.scheme = "file") : FileShaped v.path.toList := by
  rcases parse_eq_ok h with ⟨cs, hv⟩ | ⟨cs, hv⟩ | ⟨-, hne⟩
  · exact readFile_fileShaped hv
  · obtain ⟨rest, hp⟩ := withAuthority_path hv
    rw [hp, hfile]
    exact readPathStart_fileShaped rfl rfl false rest
  · exact absurd hfile hne

theorem parse_path_head {raw : String} {v : Url} (h : Url.parse raw = .ok v)
    (hhost : v.host.isSome = true) : v.path.toList = [] ∨ v.path.toList.head? = some '/' := by
  rcases parse_eq_ok h with ⟨cs, hv⟩ | ⟨cs, hv⟩ | ⟨hnone, -⟩
  · exact .inr (readFile_fileShaped hv).head
  · obtain ⟨rest, hp⟩ := withAuthority_path hv
    rw [hp]
    exact readPathStart_rulesOf_head _ rest
  · rw [hnone] at hhost
    cases hhost

theorem parse_path_of_hierarchical {raw : String} {v : Url} (h : Url.parse raw = .ok v)
    (hcb : v.cannotBeABase = false) : v.path.toList = [] ∨ v.path.toList.head? = some '/' := by
  rcases (cannotBeABase_eq_false_iff v).mp hcb with hhost | hhead
  · exact parse_path_head h hhost
  · exact .inr hhead

/-! ## Setting a path -/

@[simp] theorem setPath_query (u : Url) (text : String) : (u.setPath text).query = u.query := by
  unfold setPath
  split <;> rfl

@[simp] theorem setPath_fragment (u : Url) (text : String) :
    (u.setPath text).fragment = u.fragment := by
  unfold setPath
  split <;> rfl

theorem setPath_path_of_hierarchical {u : Url} (h : u.cannotBeABase = false) (text : String) :
    (u.setPath text).path.toList =
      (readPathStart ⟨u.isSpecial, u.scheme = "file", .whole⟩ u.authorityEndsInSlash
        (text.toList.filter (!isDropped ·))).1 := by
  simp [setPath, h]

theorem cannotBeABase_of_head {u : Url} (hhost : u.host = none)
    (hhead : u.path.toList.head? ≠ some '/') : u.cannotBeABase = true := by
  cases h : u.cannotBeABase
  · rcases (cannotBeABase_eq_false_iff u).mp h with h1 | h1
    · simp [hhost] at h1
    · exact absurd h1 hhead
  · rfl

/-- An opaque path stays opaque: a leading `/` of the text is written `%2F`, and no other
character is written as `/`. -/
theorem setPath_cannotBeABase {u : Url} (h : u.cannotBeABase = true) (text : String) :
    (u.setPath text).cannotBeABase = true := by
  have hhost : u.host = none := by
    cases hu : u.host with
    | none => rfl
    | some _ => simp [cannotBeABase, hu] at h
  have hescape : ("%2F" : String).toList = ['%', '2', 'F'] := rfl
  simp only [setPath, h, if_true]
  generalize text.toList.filter (fun x => !isDropped x) = cs
  split
  · refine cannotBeABase_of_head (by exact hhost) ?_
    simp [String.toList_append, hescape]
  · next hcs =>
    refine cannotBeABase_of_head (by exact hhost) ?_
    show ("" ++ encode controlsSet (String.ofList cs)).toList.head? ≠ some '/'
    rw [String.toList_append, toList_encode, String.toList_ofList]
    cases cs with
    | nil => simp
    | cons c rest =>
      have hc : c ≠ '/' := by
        rintro rfl
        exact hcs rest rfl
      rcases encodeChar_cases controlsSet c with hw | ⟨b, t, -, -, hw⟩
      · simp [List.flatMap_cons, hw, hc]
      · simp [List.flatMap_cons, hw]

/-! ## The cluster URL -/

/-- The URL that `normalizeBase` reads is, when it is hierarchical, one with no query or
fragment and a path that starts and ends with `/`, file-shaped for a `file` URL. -/
theorem normalizeBase_hierarchical {raw : String} {u : Url}
    (h : Service.normalizeBase raw = .ok u) (hcb : u.cannotBeABase = false) :
    u.query = none ∧ u.fragment = none ∧ u.path.toList.head? = some '/' ∧
      u.path.toList.getLast? = some '/' ∧ (u.scheme = "file" → FileShaped u.path.toList) := by
  obtain ⟨v, hv, hq, hf, rfl⟩ := normalizeBase_eq_ok h
  by_cases hc : (v.path != "/" && !v.path.endsWith "/") = true
  · rw [if_pos hc] at hcb ⊢
    -- the path was given a final `/`; `v` was hierarchical already, as setting keeps opaque paths
    have hvcb : v.cannotBeABase = false := by
      cases hv' : v.cannotBeABase
      · rfl
      · rw [setPath_cannotBeABase hv'] at hcb
        cases hcb
    have hinput : ((v.path ++ "/").toList.filter (!isDropped ·)).head? = some '/' ∧
        ((v.path ++ "/").toList.filter (!isDropped ·)).getLast? = some '/' := by
      have hslash : ("/" : String).toList = ['/'] := rfl
      rw [String.toList_append, hslash, List.filter_append]
      refine ⟨?_, by simp [isDropped]⟩
      rcases parse_path_of_hierarchical hv hvcb with h0 | h0
      · simp [h0, isDropped]
      · obtain ⟨t, ht⟩ := List.head?_eq_some_iff.mp h0
        simp [ht, isDropped]
    obtain ⟨hhead, hlast⟩ := readPathStart_slashed (r := ⟨v.isSpecial, v.scheme = "file", .whole⟩)
      rfl v.authorityEndsInSlash hinput.1 hinput.2
    rw [setPath_path_of_hierarchical hvcb]
    refine ⟨by simpa using hq, by simpa using hf, hhead, hlast, fun hfile => ?_⟩
    rw [setPath_scheme] at hfile
    exact readPathStart_fileShaped (by simp [isSpecial, hfile, isSpecialScheme])
      (by simp [hfile]) _ _
  · rw [if_neg hc] at hcb ⊢
    have hlast : v.path.toList.getLast? = some '/' := by
      simp only [Bool.and_eq_true, bne_iff_ne, ne_eq, Bool.not_eq_true', not_and,
        Bool.not_eq_false] at hc
      by_cases hroot : v.path = "/"
      · rw [hroot]
        rfl
      · exact (endsWith_slash_iff _).mp (hc hroot)
    have hhead : v.path.toList.head? = some '/' := by
      rcases parse_path_of_hierarchical hv hcb with h0 | h0
      · rw [h0] at hlast
        cases hlast
      · exact h0
    exact ⟨hq, hf, hhead, hlast, parse_fileShaped hv⟩

end CiClient.Url
