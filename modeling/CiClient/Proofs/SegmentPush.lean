import CiClient.Proofs.ClusterUrl
/-!
# Pushing segments onto a path

`Url.pushSegment` writes a segment under the segment set of its URL's scheme, which writes `/`
and `%` as escapes and keeps `.` (`EncodeSet.ForSegment`). A written segment is therefore one
segment of the path (`slash_not_mem_encodeChars`), it percent-decodes to the octets of the
segment (`decodeOctets_encode_of_percent`), distinct segments are written differently
(`encode_injective`), and it is a dot segment only when the segment is `.` or `..` itself, which
a push skips (`isSingleDot_encodeChars`, `isDoubleDot_encodeChars`).

So a push onto a path longer than `/` appends `/` and the written segment
(`pushSegment_long`), and pushing a list of segments appends one such piece per segment other
than `.` and `..` (`foldl_pushSegment`). Segments with a tab or a line break are left out: a push
drops those characters first, and what is left may be `..`.
-/

namespace CiClient.Text.Utf8

theorem toNat_lt_of_char (c : Char) : c.toNat < 0x110000 := by
  have := c.valid
  simp only [UInt32.isValidChar, Nat.isValidChar] at this
  simp only [Char.toNat]
  omega

theorem toUInt8_eq_iff (a b : Nat) : a.toUInt8 = b.toUInt8 ↔ a % 256 = b % 256 := by
  constructor
  · intro h
    simpa using congrArg UInt8.toNat h
  · intro h
    apply UInt8.toNat_inj.mp
    simpa using h

/-- How many octets a character has, read off its first octet. -/
def seqLength (b : UInt8) : Nat :=
  if b < 0x80 then 1 else if b < 0xE0 then 2 else if b < 0xF0 then 3 else 4

theorem length_encodeChar (c : Char) :
    (encodeChar c).length = seqLength ((encodeChar c).headD 0) := by
  have hc := toNat_lt_of_char c
  simp only [encodeChar]
  split_ifs <;> simp only [seqLength, List.length_cons, List.length_nil, List.headD_cons,
    UInt8.lt_iff_toNat_lt, Nat.toUInt8_eq, UInt8.toNat_ofNat] <;> split_ifs <;> simp at * <;> omega

theorem encodeChar_injective {c d : Char} (h : encodeChar c = encodeChar d) : c = d := by
  have hc := toNat_lt_of_char c
  have hd := toNat_lt_of_char d
  apply Char.toNat_inj.mp
  simp only [encodeChar] at h
  split_ifs at h <;> simp only [List.cons.injEq, toUInt8_eq_iff, and_true, List.nil_eq,
    List.cons_ne_nil, and_false] at h <;> omega

/-- UTF-8 is a prefix code: the octets of a character end where the octets of the next begin. -/
theorem encodeChar_append_injective {c d : Char} {u v : List UInt8}
    (h : encodeChar c ++ u = encodeChar d ++ v) : c = d ∧ u = v := by
  have hhead : (encodeChar c).headD 0 = (encodeChar d).headD 0 := by
    obtain ⟨b, bs, hb⟩ := List.exists_cons_of_ne_nil (encodeChar_ne_nil c)
    obtain ⟨e, es, he⟩ := List.exists_cons_of_ne_nil (encodeChar_ne_nil d)
    rw [hb, he] at h ⊢
    exact (List.cons.inj h).1
  have hlen : (encodeChar c).length = (encodeChar d).length := by
    rw [length_encodeChar, length_encodeChar, hhead]
  obtain ⟨hcd, huv⟩ := List.append_inj h hlen
  exact ⟨encodeChar_injective hcd, huv⟩

theorem flatMap_encodeChar_injective :
    ∀ cs ds : List Char, cs.flatMap encodeChar = ds.flatMap encodeChar → cs = ds
  | [], [], _ => rfl
  | [], d :: ds, h => by simp [encodeChar_ne_nil] at h
  | c :: cs, [], h => by simp [encodeChar_ne_nil] at h
  | c :: cs, d :: ds, h => by
    rw [List.flatMap_cons, List.flatMap_cons] at h
    obtain ⟨hcd, hrest⟩ := encodeChar_append_injective h
    rw [hcd, flatMap_encodeChar_injective cs ds hrest]

theorem encode_injective {s t : String} (h : encode s = encode t) : s = t :=
  String.toList_inj.mp (flatMap_encodeChar_injective _ _ h)

end CiClient.Text.Utf8

namespace CiClient.Url

open Text

/-! ## Written segments -/

/-- The set a segment pushed onto a URL is written under. -/
def pushSet (u : Url) : EncodeSet := if u.isSpecial then specialSegmentSet else segmentSet

/-- A set for one path segment: it writes `/` and `%` as escapes and keeps `.`. -/
structure EncodeSet.ForSegment (set : EncodeSet) : Prop where
  slash : set.encodes 0x2F = true
  percent : set.encodes 0x25 = true
  dot : set.encodes 0x2E = false

theorem pushSet_forSegment (u : Url) : (pushSet u).ForSegment := by
  unfold pushSet
  split
  · exact ⟨by decide, by decide, by decide⟩
  · exact ⟨by decide, by decide, by decide⟩

theorem toList_encodeChar_of_octet {set : EncodeSet} {c : Char} {b : UInt8}
    (hc : Utf8.encodeChar c = [b]) (he : set.encodes b = true) :
    (encodeChar set c).toList = ['%', hexUpper (b.toNat / 16), hexUpper (b.toNat % 16)] := by
  rw [toList_encodeChar, hc]
  simp [toList_encodeOctet, he]

/-- Lower-casing changes only the letters `A` to `Z`, into `a` to `z`. -/
theorem eq_of_toLower_eq {c d : Char} (h : c.toLower = d) (hd : d.toNat < 97 ∨ 122 < d.toNat) :
    c = d := by
  unfold Char.toLower at h
  split at h
  · next hc =>
    exfalso
    subst h
    have hv : c.val.toNat = c.toNat := rfl
    have h1 := UInt32.le_iff_toNat_le.mp hc.1
    have h2 := UInt32.le_iff_toNat_le.mp hc.2
    simp [← Char.toNat_val, UInt32.toNat_add] at hd h1 h2
    omega
  · exact h

section ForSegment

variable {set : EncodeSet} (hset : set.ForSegment)
include hset

/-- A written segment holds no `/`: the set writes `/` as `%2F`, and an escape is `%` and two hex
digits. -/
theorem slash_not_mem_encodeChars (cs : List Char) : '/' ∉ encodeChars set cs := by
  intro hx
  rw [encodeChars, List.mem_flatMap] at hx
  obtain ⟨c, -, hx⟩ := hx
  rcases mem_encodeChar hx with rfl | h | ⟨q, hq, h⟩
  · rw [toList_encodeChar_of_octet (b := 0x2F) rfl hset.slash] at hx
    revert hx
    decide
  · cases h
  · exact (hexUpper_ne q hq).1 h.symm

/-- A written text that reads as a tail of a dot segment is the text itself, without `%`: the set
writes `%` as `%25`, and the only escape that reads as part of a dot segment is `%2E`, which the
set does not write. -/
theorem encodeChars_eq_of_dotTails : ∀ cs : List Char,
    (encodeChars set cs).map Char.toLower ∈ dotTails → encodeChars set cs = cs ∧ '%' ∉ cs
  | [], _ => ⟨rfl, by simp⟩
  | c :: cs, h => by
    rw [encodeChars_cons] at h ⊢
    rcases encodeChar_cases set c with hc | ⟨b, t, hb, -, hc⟩
    · rw [hc] at h ⊢
      have htail := dotTails_tail _ h
      simp only [List.singleton_append, List.map_cons, List.tail_cons] at htail
      obtain ⟨heq, hpct⟩ := encodeChars_eq_of_dotTails cs htail
      refine ⟨by rw [List.singleton_append, heq], ?_⟩
      -- a `%` is written as an escape, so the kept character is no `%`
      have hne : c ≠ '%' := by
        rintro rfl
        rw [toList_encodeChar_of_octet (b := 0x25) rfl hset.percent] at hc
        simp at hc
      simp only [List.mem_cons, not_or]
      exact ⟨fun h => hne h.symm, hpct⟩
    · exfalso
      rw [hc] at h
      have := dotTails_escape _ h (by simp)
      simp only [List.cons_append, List.map_cons, List.drop_succ_cons, List.drop_zero,
        List.take_succ_cons, List.take_zero, List.cons.injEq, and_true] at this
      have hbn := b.toNat_lt
      have h2 := hexUpper_toLower_two _ (by omega) this.1
      have he := hexUpper_toLower_e _ (by omega) this.2
      have hdot : b = 0x2E := by
        apply UInt8.toNat_inj.mp
        simp only [UInt8.reduceToNat]
        omega
      rw [hdot, hset.dot] at hb
      cases hb

theorem isSingleDot_encodeChars {cs : List Char} (h : isSingleDot (encodeChars set cs) = true) :
    cs = ['.'] := by
  have hmem := (isSingleDot_iff _).mp h
  have hdot : (encodeChars set cs).map Char.toLower ∈ dotTails := by
    simp only [List.mem_cons, List.not_mem_nil, or_false] at hmem
    rcases hmem with hm | hm <;> rw [hm] <;> decide
  obtain ⟨heq, hpct⟩ := encodeChars_eq_of_dotTails hset cs hdot
  rw [heq] at hmem
  simp only [List.mem_cons, List.not_mem_nil, or_false] at hmem
  rcases hmem with hm | hm
  · obtain ⟨a, rfl, ha⟩ := List.map_eq_singleton_iff.mp hm
    rw [eq_of_toLower_eq ha (by decide)]
  · -- the spelling with `%2e` needs a `%`
    exfalso
    have hp : '%' ∈ cs.map Char.toLower := by rw [hm]; simp
    obtain ⟨a, ha, hl⟩ := List.mem_map.mp hp
    exact hpct (eq_of_toLower_eq hl (by decide) ▸ ha)

theorem isDoubleDot_encodeChars {cs : List Char} (h : isDoubleDot (encodeChars set cs) = true) :
    cs = ['.', '.'] := by
  have hmem := (isDoubleDot_iff _).mp h
  have hdot : (encodeChars set cs).map Char.toLower ∈ dotTails := by
    simp only [List.mem_cons, List.not_mem_nil, or_false] at hmem
    rcases hmem with hm | hm | hm | hm <;> rw [hm] <;> decide
  obtain ⟨heq, hpct⟩ := encodeChars_eq_of_dotTails hset cs hdot
  rw [heq] at hmem
  simp only [List.mem_cons, List.not_mem_nil, or_false] at hmem
  rcases hmem with hm | hm
  · have hlen : cs.length = 2 := by simpa using congrArg List.length hm
    rcases cs with _ | ⟨a, _ | ⟨b, _ | ⟨c, l⟩⟩⟩ <;> simp at hlen
    simp only [List.map_cons, List.map_nil, List.cons.injEq, and_true] at hm
    rw [eq_of_toLower_eq hm.1 (by decide), eq_of_toLower_eq hm.2 (by decide)]
  · -- every other spelling needs a `%`
    exfalso
    have hp : '%' ∈ cs.map Char.toLower := by rcases hm with hm | hm | hm <;> rw [hm] <;> simp
    obtain ⟨a, ha, hl⟩ := List.mem_map.mp hp
    exact hpct (eq_of_toLower_eq hl (by decide) ▸ ha)

end ForSegment

/-- A text written under a set that writes `%` as an escape percent-decodes to its octets: every
escape stands for the octet it replaced, and every `%` that is left is one of them. -/
theorem decodeOctets_encode_of_percent {set : EncodeSet} (hpct : set.encodes 0x25 = true)
    (s : String) : decodeOctets (Utf8.encode (encode set s)) = Utf8.encode s := by
  rw [utf8_encode_encode]
  induction Utf8.encode s with
  | nil => rfl
  | cons b bs ih =>
    have hb : set.encodes b = true ∨ b ≠ 0x25 := by
      by_cases h : b = 0x25
      · exact .inl (h ▸ hpct)
      · exact .inr h
    rw [List.flatMap_cons, decodeOctets_encodeOctet_append set hb, ih]

/-- A set that writes `%` as an escape writes distinct texts differently. -/
theorem encode_injective {set : EncodeSet} (hpct : set.encodes 0x25 = true) {s t : String}
    (h : encode set s = encode set t) : s = t := by
  apply Utf8.encode_injective
  rw [← decodeOctets_encode_of_percent hpct s, ← decodeOctets_encode_of_percent hpct t, h]

/-! ## One push -/

variable {r : PathRules}

/-- A segment is read whole: no character separates or ends it. -/
theorem readPath_segment (hmode : r.mode = .segment) (path cs : List Char) :
    (readPath r path cs).1 =
      if r.file then
        '/' :: (addSegment r.file path (encodeChars r.encodeSet cs) false).1.dropWhile (· = '/')
      else (addSegment r.file path (encodeChars r.encodeSet cs) false).1 := by
  have hplain : ∀ c ∈ cs, r.Plain c := fun c _ =>
    ⟨by simp [PathRules.isSeparator, hmode], by simp [PathRules.endsPath, hmode]⟩
  have hread : readSegment r [] cs = (encodeChars r.encodeSet cs, false, []) := by
    rw [← List.append_nil cs, readSegment_plain_append cs hplain, readSegment_nil]
    simp
  simp only [readPath, readPath.go, hread]
  split <;> simp

theorem addSegment_append {file : Bool} {path seg : List Char} (h1 : isSingleDot seg = false)
    (h2 : isDoubleDot seg = false)
    (hdrive : file = true → isNormalizedDriveLetter (path.drop 1) = false)
    (hletter : file = true → path.length = 1 → isDriveLetter seg = false) :
    addSegment file path seg false = (path ++ seg, false) := by
  cases file with
  | false => simp [addSegment, h1, h2]
  | true =>
    have hd : isNormalizedDriveLetter path.tail = false := by simpa using hdrive rfl
    by_cases hlen : path.length = 1
    · simp [addSegment, h1, h2, hd, hlen, hletter rfl hlen]
    · simp [addSegment, h1, h2, hd, hlen]

theorem isNormalizedDriveLetter_append_slash (l : List Char) :
    isNormalizedDriveLetter (l ++ ['/']) = false := by
  match l with
  | [] => rfl
  | [a] => simp [isNormalizedDriveLetter]
  | [a, b] => rfl
  | a :: b :: c :: l => rfl

theorem fileShaped_append {p : List Char} (hp : FileShaped p) {x : List Char}
    (hx : p = ['/'] → x.head? ≠ some '/') : FileShaped (p ++ x) := by
  obtain ⟨m, rfl, hm⟩ := hp
  refine ⟨m ++ x, rfl, ?_⟩
  cases m with
  | nil => exact hx rfl
  | cons a m => simpa using hm

/-- A push onto the path `p` that the path with its separator is: the written segment is
appended, when it is no dot segment and, in a `file` URL, no drive letter is in the way. -/
theorem pushSegment_onto {u : Url} {seg : String} (hdot : (seg = "." || seg = "..") = false)
    (hkept : ∀ c ∈ seg.toList, isDropped c = false) {p : List Char}
    (hp : (if u.path.toList.length > 1 || u.path.toList.isEmpty then u.path.toList ++ ['/']
      else u.path.toList) = p)
    (hfile : u.scheme = "file" → FileShaped p ∧ isNormalizedDriveLetter (p.drop 1) = false ∧
      (p.length = 1 → isDriveLetter (encodeChars (pushSet u) seg.toList) = false)) :
    u.pushSegment seg = { u with path := String.ofList (p ++ encodeChars (pushSet u) seg.toList) } := by
  have hfilter : seg.toList.filter (!isDropped ·) = seg.toList :=
    List.filter_eq_self.mpr (by simpa using hkept)
  let rules : PathRules := ⟨u.isSpecial, u.scheme = "file", .segment⟩
  have hset : rules.encodeSet = pushSet u := by
    simp only [rules, PathRules.encodeSet, pushSet]
  -- the written segment is no dot segment, since the segment is neither `.` nor `..`
  have hw1 : isSingleDot (encodeChars (pushSet u) seg.toList) = false := by
    rw [Bool.eq_false_iff]
    intro h
    have := congrArg String.ofList (isSingleDot_encodeChars (pushSet_forSegment u) h)
    rw [String.ofList_toList] at this
    simp [this] at hdot
  have hw2 : isDoubleDot (encodeChars (pushSet u) seg.toList) = false := by
    rw [Bool.eq_false_iff]
    intro h
    have := congrArg String.ofList (isDoubleDot_encodeChars (pushSet_forSegment u) h)
    rw [String.ofList_toList] at this
    simp [this] at hdot
  have hread := readPath_segment (r := rules) rfl p seg.toList
  rw [hset] at hread
  unfold pushSegment
  rw [if_neg (by simp [hdot])]
  dsimp only
  rw [hp, hfilter]
  rcases hr : readPath rules p seg.toList with ⟨path', rest', dropped'⟩
  have hpath' : path' = (readPath rules p seg.toList).1 := by rw [hr]
  dsimp only
  rw [hpath', hread]
  by_cases hf : u.scheme = "file"
  · obtain ⟨hshape, hdrive, hletter⟩ := hfile hf
    have hrf : rules.file = true := by simp [rules, hf]
    rw [hrf, addSegment_append hw1 hw2 (fun _ => hdrive) (fun _ => hletter)]
    -- the path starts with one `/` and the segment holds none, so no `/` is dropped
    obtain ⟨m, rfl, hm⟩ := hshape
    have hnot : (m ++ encodeChars (pushSet u) seg.toList).head? ≠ some '/' := by
      cases m with
      | nil =>
        intro h
        exact slash_not_mem_encodeChars (pushSet_forSegment u) seg.toList
          (List.mem_of_mem_head? (by simpa using h))
      | cons a m => simpa using hm
    have hdrop : (m ++ encodeChars (pushSet u) seg.toList).dropWhile (· = '/') =
        m ++ encodeChars (pushSet u) seg.toList := by
      cases hx : m ++ encodeChars (pushSet u) seg.toList with
      | nil => rfl
      | cons a x =>
        rw [hx] at hnot
        exact List.dropWhile_cons_of_neg (by simpa using hnot)
    simp [hdrop]
  · have hrf : rules.file = false := by simp [rules, hf]
    rw [hrf, addSegment_plain hw1 hw2]
    simp

/-- A push onto a path longer than `/` appends `/` and the written segment. -/
theorem pushSegment_long {u : Url} {seg : String} (hdot : (seg = "." || seg = "..") = false)
    (hkept : ∀ c ∈ seg.toList, isDropped c = false) (hlong : 1 < u.path.toList.length)
    (hfile : u.scheme = "file" → FileShaped u.path.toList) :
    u.pushSegment seg =
      { u with path := String.ofList (u.path.toList ++ '/' :: encodeChars (pushSet u) seg.toList) } := by
  rw [pushSegment_onto hdot hkept (p := u.path.toList ++ ['/']) (by simp [hlong])]
  · simp
  · intro hf
    refine ⟨fileShaped_append (hfile hf) ?_, ?_, ?_⟩
    · intro h
      rw [h] at hlong
      simp at hlong
    · obtain ⟨m, hm, -⟩ := hfile hf
      rw [hm, List.cons_append, List.drop_one, List.tail_cons]
      exact isNormalizedDriveLetter_append_slash m
    · intro h
      rw [List.length_append, List.length_singleton] at h
      omega

/-- A push onto the path `/` writes the segment after it. -/
theorem pushSegment_root {u : Url} {seg : String} (hdot : (seg = "." || seg = "..") = false)
    (hkept : ∀ c ∈ seg.toList, isDropped c = false) (hroot : u.path.toList = ['/'])
    (hletter : u.scheme = "file" → isDriveLetter (encodeChars (pushSet u) seg.toList) = false) :
    u.pushSegment seg =
      { u with path := String.ofList ('/' :: encodeChars (pushSet u) seg.toList) } := by
  rw [pushSegment_onto hdot hkept (p := ['/']) (by simp [hroot])]
  · rfl
  · intro hf
    exact ⟨⟨[], rfl, by simp⟩, rfl, fun _ => hletter hf⟩

theorem pushSegment_dot {u : Url} {seg : String} (hdot : (seg = "." || seg = "..") = true) :
    u.pushSegment seg = u := by
  unfold pushSegment
  rw [if_pos hdot]

/-! ## Many pushes -/

/-- Whether a segment is pushed at all: `.` and `..` are not. -/
def isPushed (seg : String) : Bool := !(seg = "." || seg = "..")

theorem pushSet_with_path (u : Url) (p : String) : pushSet { u with path := p } = pushSet u := rfl

/-- Pushing segments onto a path longer than `/` appends `/` and the written segment for each one
that is pushed. The induction is on the segments; a path that grows stays longer than `/` and,
in a `file` URL, keeps its first segment. -/
theorem foldl_pushSegment {u : Url} (hlong : 1 < u.path.toList.length)
    (hfile : u.scheme = "file" → FileShaped u.path.toList) (segs : List String)
    (hkept : ∀ seg ∈ segs, ∀ c ∈ seg.toList, isDropped c = false) :
    segs.foldl pushSegment u =
      { u with path := String.ofList (u.path.toList ++
          (segs.filter isPushed).flatMap fun seg => '/' :: encodeChars (pushSet u) seg.toList) } := by
  induction segs generalizing u with
  | nil => simp
  | cons seg segs ih =>
    have hrest : ∀ seg ∈ segs, ∀ c ∈ seg.toList, isDropped c = false :=
      fun s hs => hkept s (by simp [hs])
    rw [List.foldl_cons]
    by_cases hdot : (seg = "." || seg = "..") = true
    · rw [pushSegment_dot hdot, ih hlong hfile hrest]
      simp [isPushed, hdot]
    · rw [pushSegment_long (by simpa using hdot) (hkept seg (by simp)) hlong hfile]
      have hlong' : 1 < (u.path.toList ++ '/' :: encodeChars (pushSet u) seg.toList).length := by
        simp
        omega
      have hfile' : u.scheme = "file" →
          FileShaped (u.path.toList ++ '/' :: encodeChars (pushSet u) seg.toList) := by
        intro hf
        refine fileShaped_append (hfile hf) ?_
        intro h
        rw [h] at hlong
        simp at hlong
      rw [ih (by simpa using hlong') (by simpa using hfile') hrest]
      simp [isPushed, hdot, pushSet_with_path]

end CiClient.Url
