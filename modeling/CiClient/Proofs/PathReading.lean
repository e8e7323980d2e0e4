import CiClient.Url.Path
/-!
# Reading a path segment by segment

`Url.readPath` reads a path text one segment at a time: `readSegment` takes the characters up to
a separator and writes each under the rules' encode set, and `addSegment` appends the result to
the path, or resolves it when it is a dot segment. This module states what one such step does,
so that a later proof walks a path through the reader one segment at a time instead of unfolding
it.

* A segment of plain characters is read whole (`readSegment_plain_append`), and a segment that is
  not a dot segment is appended after the path with a `/` when a separator ends it
  (`addSegment_plain`). Together they give `go_plain_sep` and `go_plain_last`.
* Plain segments between `/`s are read as their written forms between `/`s
  (`readPath_intercalate`).
* Two facts hold of every path the reader builds, whatever the input: outside `file` URLs a path
  that starts with `/` keeps its first `/` (`head_go`), and reading an input whose last character
  is a separator leaves a path that ends with `/` (`getLast_go_of_sep`).
-/

namespace CiClient.Url

variable {r : PathRules}

/-- The written form of characters under an encode set. -/
def encodeChars (set : EncodeSet) (cs : List Char) : List Char :=
  cs.flatMap fun c => (encodeChar set c).toList

@[simp] theorem encodeChars_nil (set : EncodeSet) : encodeChars set [] = [] := rfl

@[simp] theorem encodeChars_cons (set : EncodeSet) (c : Char) (cs : List Char) :
    encodeChars set (c :: cs) = (encodeChar set c).toList ++ encodeChars set cs := rfl

@[simp] theorem encodeChars_append (set : EncodeSet) (cs ds : List Char) :
    encodeChars set (cs ++ ds) = encodeChars set cs ++ encodeChars set ds := by
  simp [encodeChars]

/-- A character that neither ends a segment nor the path under the rules. -/
def PathRules.Plain (r : PathRules) (c : Char) : Prop :=
  r.isSeparator c = false ∧ r.endsPath c = false

/-- A segment that the reader appends as its written form: its characters are plain, and what
they are written as is no dot segment. -/
structure PathRules.PlainSegment (r : PathRules) (seg : List Char) : Prop where
  plain : ∀ c ∈ seg, r.Plain c
  not_single : isSingleDot (encodeChars r.encodeSet seg) = false
  not_double : isDoubleDot (encodeChars r.encodeSet seg) = false

/-! ## One segment -/

theorem readSegment_nil (acc : List Char) : readSegment r acc [] = (acc.reverse, false, []) := by
  simp [readSegment]

theorem readSegment_sep {c : Char} (hc : r.isSeparator c = true) (acc rest : List Char) :
    readSegment r acc (c :: rest) = (acc.reverse, true, rest) := by
  simp [readSegment, hc]

theorem readSegment_end {c : Char} (hs : r.isSeparator c = false) (he : r.endsPath c = true)
    (acc rest : List Char) : readSegment r acc (c :: rest) = (acc.reverse, false, c :: rest) := by
  simp [readSegment, hs, he]

theorem readSegment_plain_append : ∀ (seg : List Char), (∀ c ∈ seg, r.Plain c) →
    ∀ (acc rest : List Char),
      readSegment r acc (seg ++ rest) =
        readSegment r ((encodeChars r.encodeSet seg).reverse ++ acc) rest
  | [], _, acc, rest => by simp
  | c :: seg, h, acc, rest => by
    obtain ⟨hs, he⟩ := h c (by simp)
    rw [List.cons_append, readSegment, if_neg (by simp [hs]), if_neg (by simp [he]),
      readSegment_plain_append seg (fun x hx => h x (by simp [hx]))]
    simp [List.reverse_append, List.append_assoc]

/-- A segment that is not a dot segment is appended, with a `/` after it when a separator ended
it. -/
theorem addSegment_plain {seg : List Char} (h1 : isSingleDot seg = false)
    (h2 : isDoubleDot seg = false) (path : List Char) (slash : Bool) :
    addSegment false path seg slash = (path ++ seg ++ (if slash then ['/'] else []), false) := by
  simp [addSegment, h1, h2]

theorem getLast_ite_slash (p : List Char) :
    (if p.getLast? = some '/' then p else p ++ ['/']).getLast? = some '/' := by
  split <;> simp_all

/-- A segment that a separator ends leaves a path that ends with `/`, in every branch: a dot
segment keeps or puts back the final `/`, a drive letter and any other segment are followed by
one. -/
theorem getLast_addSegment_slash (file : Bool) (path seg : List Char) :
    (addSegment file path seg true).1.getLast? = some '/' := by
  simp only [addSegment, Bool.true_and]
  split
  · split <;> simpa using getLast_ite_slash _
  · split
    · exact getLast_ite_slash _
    · split <;> split <;> simp [List.getLast?_cons, List.getLast?_append]

theorem addSegment_nil (file : Bool) (path : List Char) :
    addSegment file path [] false = (path, false) := by
  simp [addSegment, isDoubleDot, isSingleDot, isDriveLetter]

theorem head_take_succ {l : List Char} {c : Char} (h : l.head? = some c) (i : Nat) :
    (l.take (i + 1)).head? = some c := by
  cases l with
  | nil => simp at h
  | cons a l => simpa using h

theorem head_append_of_head {l m : List Char} {c : Char} (h : l.head? = some c) :
    (l ++ m).head? = some c := by
  cases l with
  | nil => simp at h
  | cons a l => simpa using h

theorem head_popPath {path : List Char} (h : path.head? = some '/') :
    (popPath false path).head? = some '/' := by
  unfold popPath
  split
  · exact h
  · simpa using head_take_succ h _

theorem head_dropLast_of_lastSlash {path : List Char} (h : path.head? = some '/') {i : Nat}
    (hi : lastSlash path.dropLast = some i) : path.dropLast.head? = some '/' := by
  cases path with
  | nil => simp at h
  | cons a l =>
    cases l with
    | nil => simp [lastSlash] at hi
    | cons b l => simpa [List.dropLast_cons_cons] using h

theorem head_ite_append {q m : List Char} {c : Char} (h : q.head? = some c) (b : Prop)
    [Decidable b] : (if b then q ++ m else q).head? = some c := by
  split
  · exact head_append_of_head h
  · exact h

/-- Outside `file` URLs a path that starts with `/` keeps it, whatever segment is added. -/
theorem head_addSegment {path : List Char} (h : path.head? = some '/') (seg : List Char)
    (slash : Bool) : (addSegment false path seg slash).1.head? = some '/' := by
  simp only [addSegment, Bool.false_and, Bool.false_eq_true, if_false, shortenPath]
  split
  · -- a `..` segment: the final `/` may go, then the last segment
    apply head_ite_append _ _
    apply head_popPath
    split
    · next hc =>
      simp only [Bool.and_eq_true, slashRemovable] at hc
      split at hc
      · simp at hc
      · next i hi => exact head_dropLast_of_lastSlash h hi
    · exact h
  · split
    · split
      · exact h
      · exact head_append_of_head h
    · simpa [List.append_assoc] using head_append_of_head (m := seg ++ _) h

/-! ## Whole paths -/

/-- One step of the reader: a segment of plain characters that a separator ends. -/
theorem go_sep {pre rest : List Char} {d : Char}
    (hpre : ∀ x ∈ pre, r.Plain x) (hd : r.isSeparator d = true)
    (fuel : Nat) (path : List Char) (dropped : Bool) :
    readPath.go r (fuel + 1) path (pre ++ d :: rest) dropped =
      readPath.go r fuel (addSegment r.file path (encodeChars r.encodeSet pre) true).1 rest
        (dropped || (addSegment r.file path (encodeChars r.encodeSet pre) true).2) := by
  simp only [readPath.go]
  rw [readSegment_plain_append pre hpre, readSegment_sep hd]
  simp

theorem go_plain_sep {seg rest : List Char} {c : Char} (hfile : r.file = false)
    (hseg : r.PlainSegment seg) (hc : r.isSeparator c = true)
    (fuel : Nat) (path : List Char) (dropped : Bool) :
    readPath.go r (fuel + 1) path (seg ++ c :: rest) dropped =
      readPath.go r fuel (path ++ encodeChars r.encodeSet seg ++ ['/']) rest dropped := by
  rw [go_sep hseg.plain hc, hfile, addSegment_plain hseg.not_single hseg.not_double]
  simp

theorem go_plain_last {seg : List Char} (hfile : r.file = false) (hseg : r.PlainSegment seg)
    (fuel : Nat) (path : List Char) (dropped : Bool) :
    readPath.go r (fuel + 1) path seg dropped =
      (path ++ encodeChars r.encodeSet seg, [], dropped) := by
  simp only [readPath.go]
  rw [← List.append_nil seg, readSegment_plain_append seg hseg.plain, readSegment_nil]
  simp [hfile, addSegment_plain hseg.not_single hseg.not_double]

/-- A segment of plain characters that a `?` or `#` ends is the last one read: the path ends with
its written form, and the input from that character on is left for the query and fragment. -/
theorem go_plain_end {seg rest : List Char} {c : Char} (hfile : r.file = false)
    (hseg : r.PlainSegment seg) (hs : r.isSeparator c = false) (he : r.endsPath c = true)
    (fuel : Nat) (path : List Char) (dropped : Bool) :
    readPath.go r (fuel + 1) path (seg ++ c :: rest) dropped =
      (path ++ encodeChars r.encodeSet seg, c :: rest, dropped) := by
  simp only [readPath.go]
  rw [readSegment_plain_append seg hseg.plain, readSegment_end hs he]
  simp [hfile, addSegment_plain hseg.not_single hseg.not_double]

/-- Plain segments between `/`s are read as their written forms between `/`s. The induction is on
the segments; each step reads one of them with `go_plain_sep`. -/
theorem go_intercalate (hfile : r.file = false) (hsep : r.isSeparator '/' = true) :
    ∀ (segs : List (List Char)), segs ≠ [] → (∀ seg ∈ segs, r.PlainSegment seg) →
      ∀ (fuel : Nat) (path : List Char) (dropped : Bool), (['/'].intercalate segs).length < fuel →
        readPath.go r fuel path (['/'].intercalate segs) dropped =
          (path ++ ['/'].intercalate (segs.map (encodeChars r.encodeSet)), [], dropped)
  | [], hne, _, _, _, _, _ => absurd rfl hne
  | _ :: _, _, _, 0, _, _, hlen => absurd hlen (Nat.not_lt_zero _)
  | [seg], _, hsegs, fuel + 1, path, dropped, _ => by
    simpa using go_plain_last hfile (hsegs seg (by simp)) fuel path dropped
  | seg :: seg' :: segs, _, hsegs, fuel + 1, path, dropped, hlen => by
    have hlen' : (['/'].intercalate (seg' :: segs)).length < fuel := by
      simp only [List.intercalate_cons_cons, List.length_append] at hlen
      simp only [List.length_cons, List.length_nil] at hlen
      omega
    rw [List.intercalate_cons_cons, List.append_assoc, List.singleton_append,
      go_plain_sep hfile (hsegs seg (by simp)) hsep,
      go_intercalate hfile hsep (seg' :: segs) (by simp) (fun s hs => hsegs s (by simp [hs])) fuel
        _ dropped hlen']
    simp [List.intercalate_cons_cons]

/-- Outside `file` URLs, plain segments between `/`s are read onto a path as their written forms
between `/`s, and the whole input is read. -/
theorem readPath_intercalate (hfile : r.file = false) (hsep : r.isSeparator '/' = true)
    {segs : List (List Char)} (hne : segs ≠ []) (hsegs : ∀ seg ∈ segs, r.PlainSegment seg)
    (path : List Char) :
    readPath r path (['/'].intercalate segs) =
      (path ++ ['/'].intercalate (segs.map (encodeChars r.encodeSet)), [], false) := by
  simp only [readPath, hfile, Bool.false_eq_true, if_false]
  rw [go_intercalate hfile hsep segs hne hsegs _ path false (by omega)]

theorem go_nil (fuel : Nat) (path : List Char) (dropped : Bool) :
    (readPath.go r (fuel + 1) path [] dropped).1 = path := by
  simp [readPath.go, readSegment_nil, addSegment_nil]

theorem readPath_nil (hfile : r.file = false) (path : List Char) :
    (readPath r path []).1 = path := by
  simp [readPath, hfile, go_nil]

theorem exists_first_sep : ∀ input : List Char, (∃ c ∈ input, r.isSeparator c = true) →
    ∃ pre d rest, input = pre ++ d :: rest ∧ (∀ x ∈ pre, r.isSeparator x = false) ∧
      r.isSeparator d = true
  | [], ⟨_, hc, _⟩ => by simp at hc
  | x :: xs, ⟨c, hc, hsep⟩ => by
    cases hx : r.isSeparator x with
    | true => exact ⟨[], x, xs, rfl, by simp, hx⟩
    | false =>
      have hcx : c ∈ xs := by
        rcases List.mem_cons.mp hc with rfl | h
        · rw [hx] at hsep
          cases hsep
        · exact h
      obtain ⟨pre, d, rest, rfl, hpre, hd⟩ := exists_first_sep xs ⟨c, hcx, hsep⟩
      refine ⟨x :: pre, d, rest, rfl, ?_, hd⟩
      intro y hy
      rcases List.mem_cons.mp hy with rfl | hy
      · exact hx
      · exact hpre y hy

/-- Outside `file` URLs every path read onto one that starts with `/` starts with `/`. -/
theorem head_go (hfile : r.file = false) : ∀ (fuel : Nat) (path input : List Char)
    (dropped : Bool), path.head? = some '/' →
      (readPath.go r fuel path input dropped).1.head? = some '/'
  | 0, _, _, _, h => h
  | fuel + 1, path, input, dropped, h => by
    simp only [readPath.go, hfile]
    have hadd := head_addSegment h (readSegment r [] input).1 (readSegment r [] input).2.1
    split
    · exact head_go hfile fuel _ _ _ hadd
    · exact hadd

/-- With no `?` or `#` to stop at, an input whose last character is a separator is read into a
path that ends with `/`: each segment a separator ends leaves a final `/`, and the empty
segment after the last separator keeps it. -/
theorem getLast_go_of_sep : ∀ (fuel : Nat) (path input : List Char)
    (dropped : Bool), input.length < fuel → (∀ c ∈ input, r.endsPath c = false) →
      (∃ c, input.getLast? = some c ∧ r.isSeparator c = true) →
        (readPath.go r fuel path input dropped).1.getLast? = some '/'
  | 0, _, _, _, hfuel, _, _ => by omega
  | fuel + 1, path, input, dropped, hfuel, hends, ⟨c, hc, hsep⟩ => by
    -- the input splits at its first separator, which exists since the last character is one
    obtain ⟨pre, d, rest, rfl, hpre, hd⟩ :=
      exists_first_sep input ⟨c, List.mem_of_getLast? hc, hsep⟩
    have hplain : ∀ x ∈ pre, r.Plain x := fun x hx => ⟨hpre x hx, hends x (by simp [hx])⟩
    rw [go_sep hplain hd]
    have hlast := getLast_addSegment_slash r.file path (encodeChars r.encodeSet pre)
    cases rest with
    | nil =>
      cases fuel with
      | zero => simpa [readPath.go] using hlast
      | succ fuel => rw [go_nil]; exact hlast
    | cons e rest =>
      refine getLast_go_of_sep fuel _ _ _ (by simp at hfuel ⊢; omega)
        (fun x hx => hends x (by simp [hx])) ⟨c, ?_, hsep⟩
      simpa using hc

end CiClient.Url
