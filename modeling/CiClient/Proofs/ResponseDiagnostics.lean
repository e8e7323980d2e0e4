import CiClient.Proofs.SegmentPush
import CiClient.Service.Diagnostics
/-!
# What an error keeps from a response

A refused response leaves three things in its error: a request id, a message, and a snippet of
the body.

The snippet is the body's lossy text cut to a limit. The cut starts at the limit and steps back
one octet at a time until it stands on a character boundary: an offset where a character starts,
or the end. The step-back is structural recursion on the offset. It stops after at most three
steps, because a character has at most four octets (`limit_le_size_truncate`). Boundaries are
the octet lengths of the leading characters (`isCharBoundary_iff`). Reading those octets back
gives exactly those characters (`chunksFrom_encodeChar`). So the cut is the longest run of
leading characters that fits (`truncate_longestCut`), and `body_snippet_cut` describes the
snippet for every body and configuration.

The request id and the message are both searches for a first candidate
(`first_id_and_message`). The candidates are the four id headers, in order, and the five message
keys of a JSON body, in order. A candidate counts when it gives a text that is not blank once
trimmed. A header counts only by its first value, and only when that value is plain text. A key
counts only when its value is a string. A body that is not JSON gives no message.
-/

namespace CiClient.Text.Utf8

/-! ## Reading characters back -/

theorem toNat_toUInt8_of_lt {k : Nat} (h : k < 256) : k.toUInt8.toNat = k := by
  simp [Nat.mod_eq_of_lt h]

theorem lead_two {b : UInt8} (h : 0xC2 ≤ b.toNat ∧ b.toNat ≤ 0xDF) :
    lead b = some (1, 0x80, 0xBF) := by
  simp [lead, UInt8.le_iff_toNat_le, h]

theorem lead_three {b : UInt8} (h : 0xE0 ≤ b.toNat ∧ b.toNat ≤ 0xEF) :
    lead b = some (2, if b.toNat = 0xE0 then 0xA0 else 0x80,
      if b.toNat = 0xED then 0x9F else 0xBF) := by
  simp only [lead, UInt8.le_iff_toNat_le, ← UInt8.toNat_inj]
  split_ifs <;> simp_all <;> omega

theorem lead_four {b : UInt8} (h : 0xF0 ≤ b.toNat ∧ b.toNat ≤ 0xF4) :
    lead b = some (3, if b.toNat = 0xF0 then 0x90 else 0x80,
      if b.toNat = 0xF4 then 0x8F else 0xBF) := by
  simp only [lead, UInt8.le_iff_toNat_le, ← UInt8.toNat_inj]
  split_ifs <;> simp_all <;> omega

theorem begin_lead {b : UInt8} (hb : 0x80 ≤ b.toNat) {n : Nat} {lo hi : UInt8}
    (hl : lead b = some (n, lo, hi)) :
    begin b = ([], some ⟨if n = 1 then b.toNat % 32 else if n = 2 then b.toNat % 16
      else b.toNat % 8, n, lo, hi⟩) := by
  have : ¬ b < 0x80 := by simp [UInt8.lt_iff_toNat_lt]; omega
  simp [begin, this, hl]

theorem chunksFrom_next {p : Pending} {b : UInt8} (h : p.lo ≤ b ∧ b ≤ p.hi) (r : List UInt8) :
    chunksFrom (some p) (b :: r) =
      if p.need = 1 then some (Char.ofNat (p.code * 64 + b.toNat % 64)) :: chunksFrom none r
      else chunksFrom (some ⟨p.code * 64 + b.toNat % 64, p.need - 1, 0x80, 0xBF⟩) r := by
  rw [chunksFrom, if_pos h]

/-! The well-formed sequences of two, three and four octets (Unicode, Table 3-7), each read as
the one character its bits spell. -/

theorem chunksFrom_two {b₀ b₁ : UInt8} (h₀ : 0xC2 ≤ b₀.toNat ∧ b₀.toNat ≤ 0xDF)
    (h₁ : 0x80 ≤ b₁.toNat ∧ b₁.toNat ≤ 0xBF) (r : List UInt8) :
    chunksFrom none (b₀ :: b₁ :: r) =
      some (Char.ofNat (b₀.toNat % 32 * 64 + b₁.toNat % 64)) :: chunksFrom none r := by
  rw [chunksFrom, begin_lead (by omega) (lead_two h₀)]
  simp only [List.nil_append]
  rw [chunksFrom_next (by simp only [UInt8.le_iff_toNat_le]; simp; omega)]
  simp

theorem chunksFrom_three {b₀ b₁ b₂ : UInt8}
    (h₀ : 0xE0 ≤ b₀.toNat ∧ b₀.toNat ≤ 0xEF)
    (h₁ : (if b₀.toNat = 0xE0 then 0xA0 else 0x80) ≤ b₁.toNat ∧
      b₁.toNat ≤ (if b₀.toNat = 0xED then 0x9F else 0xBF))
    (h₂ : 0x80 ≤ b₂.toNat ∧ b₂.toNat ≤ 0xBF) (r : List UInt8) :
    chunksFrom none (b₀ :: b₁ :: b₂ :: r) =
      some (Char.ofNat ((b₀.toNat % 16 * 64 + b₁.toNat % 64) * 64 + b₂.toNat % 64)) ::
        chunksFrom none r := by
  rw [chunksFrom, begin_lead (by omega) (lead_three h₀)]
  simp only [List.nil_append]
  rw [chunksFrom_next
    (by simp only [UInt8.le_iff_toNat_le]; split_ifs at h₁ ⊢ <;> simp <;> omega)]
  simp only [show (2 : Nat) ≠ 1 by decide, if_false]
  rw [chunksFrom_next (by simp only [UInt8.le_iff_toNat_le]; simp; omega)]
  simp

theorem chunksFrom_four {b₀ b₁ b₂ b₃ : UInt8}
    (h₀ : 0xF0 ≤ b₀.toNat ∧ b₀.toNat ≤ 0xF4)
    (h₁ : (if b₀.toNat = 0xF0 then 0x90 else 0x80) ≤ b₁.toNat ∧
      b₁.toNat ≤ (if b₀.toNat = 0xF4 then 0x8F else 0xBF))
    (h₂ : 0x80 ≤ b₂.toNat ∧ b₂.toNat ≤ 0xBF)
    (h₃ : 0x80 ≤ b₃.toNat ∧ b₃.toNat ≤ 0xBF)
    (r : List UInt8) :
    chunksFrom none (b₀ :: b₁ :: b₂ :: b₃ :: r) =
      some (Char.ofNat (((b₀.toNat % 8 * 64 + b₁.toNat % 64) * 64 + b₂.toNat % 64) * 64 +
        b₃.toNat % 64)) :: chunksFrom none r := by
  rw [chunksFrom, begin_lead (by omega) (lead_four h₀)]
  simp only [List.nil_append]
  rw [chunksFrom_next
    (by simp only [UInt8.le_iff_toNat_le]; split_ifs at h₁ ⊢ <;> simp <;> omega)]
  simp only [show (3 : Nat) ≠ 1 by decide, show (3 : Nat) ≠ 2 by decide, if_false]
  rw [chunksFrom_next (by simp only [UInt8.le_iff_toNat_le]; simp; omega)]
  simp only [show (3 - 1 : Nat) ≠ 1 by decide, if_false]
  rw [chunksFrom_next (by simp only [UInt8.le_iff_toNat_le]; simp; omega)]
  simp

/-- The octets of a character read back as that character. -/
theorem chunksFrom_encodeChar (c : Char) (r : List UInt8) :
    chunksFrom none (encodeChar c ++ r) = some c :: chunksFrom none r := by
  have hc := toNat_lt_of_char c
  -- a character is no surrogate, which is what the second octet's bounds after `0xED` check
  have hs : c.toNat < 0xD800 ∨ 0xDFFF < c.toNat := by
    have := c.valid
    simp only [UInt32.isValidChar, Nat.isValidChar] at this
    simp only [Char.toNat]
    omega
  have hof : Char.ofNat c.toNat = c := Char.ofNat_toNat c
  unfold encodeChar
  dsimp only
  split_ifs with h1 h2 h3
  · simp [chunksFrom, begin, UInt8.lt_iff_toNat_lt,
      Nat.mod_eq_of_lt (show c.toNat < 256 by omega), h1, hof]
  · have e₀ := toNat_toUInt8_of_lt (show 0xC0 + c.toNat / 64 < 256 by omega)
    have e₁ := toNat_toUInt8_of_lt (show 0x80 + c.toNat % 64 < 256 by omega)
    rw [List.cons_append, List.cons_append, List.nil_append,
      chunksFrom_two (by omega) (by omega), e₀, e₁]
    rw [show (0xC0 + c.toNat / 64) % 32 * 64 + (0x80 + c.toNat % 64) % 64 = c.toNat by omega, hof]
  · have e₀ := toNat_toUInt8_of_lt (show 0xE0 + c.toNat / 4096 < 256 by omega)
    have e₁ := toNat_toUInt8_of_lt (show 0x80 + c.toNat / 64 % 64 < 256 by omega)
    have e₂ := toNat_toUInt8_of_lt (show 0x80 + c.toNat % 64 < 256 by omega)
    rw [List.cons_append, List.cons_append, List.cons_append, List.nil_append,
      chunksFrom_three (by omega) (by rw [e₀, e₁]; split_ifs <;> omega) (by omega),
      e₀, e₁, e₂]
    rw [show ((0xE0 + c.toNat / 4096) % 16 * 64 + (0x80 + c.toNat / 64 % 64) % 64) * 64 +
      (0x80 + c.toNat % 64) % 64 = c.toNat by omega, hof]
  · have e₀ := toNat_toUInt8_of_lt (show 0xF0 + c.toNat / 262144 < 256 by omega)
    have e₁ := toNat_toUInt8_of_lt (show 0x80 + c.toNat / 4096 % 64 < 256 by omega)
    have e₂ := toNat_toUInt8_of_lt (show 0x80 + c.toNat / 64 % 64 < 256 by omega)
    have e₃ := toNat_toUInt8_of_lt (show 0x80 + c.toNat % 64 < 256 by omega)
    rw [List.cons_append, List.cons_append, List.cons_append, List.cons_append, List.nil_append,
      chunksFrom_four (by omega) (by rw [e₀, e₁]; split_ifs <;> omega) (by omega) (by omega),
      e₀, e₁, e₂, e₃]
    rw [show (((0xF0 + c.toNat / 262144) % 8 * 64 + (0x80 + c.toNat / 4096 % 64) % 64) * 64 +
      (0x80 + c.toNat / 64 % 64) % 64) * 64 + (0x80 + c.toNat % 64) % 64 = c.toNat by omega, hof]

theorem chunks_flatMap_encodeChar (cs : List Char) :
    chunks (cs.flatMap encodeChar) = cs.map some := by
  induction cs with
  | nil => rfl
  | cons c cs ih =>
    rw [List.flatMap_cons, chunks, chunksFrom_encodeChar, ← chunks, ih, List.map_cons]

theorem decodeLossy_flatMap_encodeChar (cs : List Char) :
    decodeLossy (cs.flatMap encodeChar) = String.ofList cs := by
  simp [decodeLossy, chunks_flatMap_encodeChar, Function.comp_def]

theorem encode_append (s t : String) : encode (s ++ t) = encode s ++ encode t := by
  simp [encode, List.flatMap_append]

theorem decode?_encode (s : String) : decode? (encode s) = some s := by
  have h : (s.toList.map some).mapM id = some s.toList := by
    rw [List.mapM_map]
    simpa [Function.comp_def] using List.mapM_pure (m := Option) (l := s.toList) (f := id)
  simp [decode?, encode, chunks_flatMap_encodeChar, h]


/-! ## Character boundaries -/

/-- The first octet of a character starts it; the others continue it. -/
theorem encodeChar_shape (c : Char) :
    ∃ b bs, encodeChar c = b :: bs ∧ isCont b = false ∧ (∀ x ∈ bs, isCont x = true) ∧
      bs.length ≤ 3 := by
  have hc := toNat_lt_of_char c
  unfold encodeChar
  dsimp only
  split_ifs with h1 h2 h3
  · refine ⟨_, [], rfl, ?_, by simp, by simp⟩
    simp [isCont, UInt8.le_iff_toNat_le]
    omega
  all_goals
    refine ⟨_, _, rfl, ?_, ?_, by simp⟩
    · simp [isCont, UInt8.le_iff_toNat_le]
      omega
    · simp [isCont, UInt8.le_iff_toNat_le]
      omega


theorem length_encodeChar_pos (c : Char) : 0 < (encodeChar c).length := by
  obtain ⟨b, bs, h, -⟩ := encodeChar_shape c
  simp [h]

theorem length_encodeChar_le (c : Char) : (encodeChar c).length ≤ 4 := by
  obtain ⟨b, bs, h, -, -, hl⟩ := encodeChar_shape c
  simp [h]
  omega

theorem length_flatMap_take_succ (c : Char) (cs : List Char) (k : Nat) :
    (((c :: cs).take (k + 1)).flatMap encodeChar).length =
      (encodeChar c).length + ((cs.take k).flatMap encodeChar).length := by
  simp only [List.take_succ_cons, List.flatMap_cons, List.length_append]

/-- An octet of a run of whole characters starts a character exactly at the offsets where one of
them begins. -/
theorem isCont_getElem_flatMap (cs : List Char) {i : Nat} {b : UInt8}
    (hb : (cs.flatMap encodeChar)[i]? = some b) :
    isCont b = false ↔ ∃ k < cs.length, i = ((cs.take k).flatMap encodeChar).length := by
  induction cs generalizing i with
  | nil => simp at hb
  | cons c cs ih =>
    obtain ⟨b₀, bs, hc, h₀, hbs, -⟩ := encodeChar_shape c
    rw [List.flatMap_cons, hc, List.cons_append] at hb
    cases i with
    | zero =>
      simp only [List.getElem?_cons_zero, Option.some.injEq] at hb
      subst hb
      exact ⟨fun _ => ⟨0, by simp, by simp⟩, fun _ => h₀⟩
    | succ i =>
      rw [List.getElem?_cons_succ] at hb
      by_cases hi : i < bs.length
      · -- inside the first character: a continuation octet, and no character starts there
        rw [List.getElem?_append_left hi] at hb
        have hcont : isCont b = true := hbs b (List.mem_of_getElem? hb)
        refine ⟨fun h => by simp [h] at hcont, fun ⟨k, _, hk⟩ => ?_⟩
        cases k with
        | zero => simp at hk
        | succ k =>
          rw [length_flatMap_take_succ, hc, List.length_cons] at hk
          omega
      · rw [List.getElem?_append_right (by omega)] at hb
        rw [ih hb]
        constructor
        · rintro ⟨k, hk, he⟩
          refine ⟨k + 1, by simp; omega, ?_⟩
          rw [length_flatMap_take_succ, hc, List.length_cons]
          omega
        · rintro ⟨k, hk, he⟩
          cases k with
          | zero => simp at he
          | succ k =>
            rw [length_flatMap_take_succ, hc, List.length_cons] at he
            exact ⟨k, by simpa using hk, by omega⟩


theorem length_flatMap_take_le (cs : List Char) (k : Nat) :
    ((cs.take k).flatMap encodeChar).length ≤ (cs.flatMap encodeChar).length := by
  conv => rhs; rw [← List.take_append_drop k cs]
  simp only [List.flatMap_append, List.length_append]
  omega

/-- The character boundaries of a text are the octet lengths of its leading characters. -/
theorem isCharBoundary_iff (s : String) (i : Nat) :
    isCharBoundary s i = true ↔
      ∃ k ≤ s.toList.length, i = ((s.toList.take k).flatMap encodeChar).length := by
  unfold isCharBoundary
  split
  · next h => exact ⟨fun _ => ⟨0, by simp, by simp [h]⟩, fun _ => rfl⟩
  · next h0 =>
    split
    · next b hb =>
      rw [Bool.not_eq_true', isCont_getElem_flatMap s.toList hb]
      have hi : i < size s := (List.getElem?_eq_some_iff.mp hb).1
      constructor
      · rintro ⟨k, hk, he⟩
        exact ⟨k, Nat.le_of_lt hk, he⟩
      · rintro ⟨k, hk, he⟩
        refine ⟨k, Nat.lt_of_le_of_ne hk fun hkl => ?_, he⟩
        rw [hkl, List.take_length] at he
        unfold size encode at hi
        omega
    · next hb =>
      have hi : size s ≤ i := List.getElem?_eq_none_iff.mp hb
      rw [decide_eq_true_iff]
      constructor
      · intro he
        exact ⟨s.toList.length, Nat.le_refl _, by rw [List.take_length]; exact he⟩
      · rintro ⟨k, -, he⟩
        have := length_flatMap_take_le s.toList k
        unfold size encode at hi ⊢
        omega


/-- No offset past the end of a text is a boundary. -/
theorem isCharBoundary_of_size_lt {s : String} {j : Nat} (h : size s < j) :
    isCharBoundary s j = false := by
  cases hb : isCharBoundary s j with
  | false => rfl
  | true =>
    obtain ⟨k, -, he⟩ := (isCharBoundary_iff s j).mp hb
    have := length_flatMap_take_le s.toList k
    unfold size encode at h
    omega


/-! ## The cut -/

/-- Stepping back from `i` ends at a character boundary at or below `i`, and passes over no
other. -/
theorem boundaryAtOrBelow_spec (s : String) (i : Nat) :
    boundaryAtOrBelow s i ≤ i ∧ isCharBoundary s (boundaryAtOrBelow s i) = true ∧
      ∀ j, boundaryAtOrBelow s i < j → j ≤ i → isCharBoundary s j = false := by
  induction i with
  | zero => exact ⟨Nat.le_refl 0, rfl, fun j h hj => absurd h (by omega)⟩
  | succ i ih =>
    obtain ⟨hle, hb, hmax⟩ := ih
    rw [boundaryAtOrBelow]
    split
    · next h => exact ⟨Nat.le_refl _, h, fun j h₁ h₂ => absurd h₂ (by omega)⟩
    · next h =>
      refine ⟨by omega, hb, fun j h₁ h₂ => ?_⟩
      rcases Nat.lt_or_eq_of_le h₂ with h₂ | rfl
      · exact hmax j h₁ (by omega)
      · exact Bool.of_not_eq_true h

/-- Every offset of a run of characters lies at most three octets past the start of the
character it falls in. -/
theorem exists_start_within_three (cs : List Char) {i : Nat}
    (hi : i ≤ (cs.flatMap encodeChar).length) :
    ∃ k ≤ cs.length, ((cs.take k).flatMap encodeChar).length ≤ i ∧
      i ≤ ((cs.take k).flatMap encodeChar).length + 3 := by
  induction cs generalizing i with
  | nil => exact ⟨0, by simp, by simp, by simp at hi; omega⟩
  | cons c cs ih =>
    have h4 := length_encodeChar_le c
    by_cases hc : i < (encodeChar c).length
    · exact ⟨0, by simp, by simp, by simp; omega⟩
    · rw [List.flatMap_cons, List.length_append] at hi
      obtain ⟨k, hk, h₁, h₂⟩ := ih (i := i - (encodeChar c).length) (by omega)
      refine ⟨k + 1, by simp; omega, ?_, ?_⟩ <;> rw [length_flatMap_take_succ] <;> omega

/-- The octet lengths of the leading characters grow with every character. -/
theorem length_flatMap_take_lt (cs : List Char) {k k' : Nat} (hk : k < k')
    (hk' : k' ≤ cs.length) :
    ((cs.take k).flatMap encodeChar).length < ((cs.take k').flatMap encodeChar).length := by
  induction cs generalizing k k' with
  | nil => simp at hk'; omega
  | cons c cs ih =>
    obtain ⟨k', rfl⟩ : ∃ k'', k' = k'' + 1 := ⟨k' - 1, by omega⟩
    rw [length_flatMap_take_succ]
    cases k with
    | zero => have := length_encodeChar_pos c; simp; omega
    | succ k =>
      rw [length_flatMap_take_succ]
      have := @ih k k' (by omega) (by simpa using hk')
      omega

/-- Cutting a text at the start of a character keeps the characters before it. -/
theorem sliceTo_start (s : String) (k : Nat) :
    sliceTo s ((s.toList.take k).flatMap encodeChar).length = String.ofList (s.toList.take k) := by
  have h : encode s =
      (s.toList.take k).flatMap encodeChar ++ (s.toList.drop k).flatMap encodeChar := by
    rw [← List.flatMap_append, List.take_append_drop]
    rfl
  rw [sliceTo, h, List.take_left', decodeLossy_flatMap_encodeChar]
  rfl


theorem size_ofList (cs : List Char) :
    size (String.ofList cs) = (cs.flatMap encodeChar).length := by
  simp only [size, encode, String.toList_ofList]

/-- `t` is the longest run of leading characters of `s` whose octets number at most `max`: it ends
on a character boundary of `s`, and every shorter cut is a cut of it. -/
structure LongestCut (s : String) (max : Nat) (t : String) : Prop where
  leading : t.toList <+: s.toList
  boundary : isCharBoundary s (size t) = true
  fits : size t ≤ max
  longest : ∀ u : String, u.toList <+: s.toList → size u ≤ max → u.toList <+: t.toList

/-- A cut at the start of character `k`, with no boundary after it up to `max`, is the longest. -/
theorem longestCut_of_last_boundary {s : String} {max k : Nat} (hk : k ≤ s.toList.length)
    (hfits : ((s.toList.take k).flatMap encodeChar).length ≤ max)
    (hlast : ∀ j, ((s.toList.take k).flatMap encodeChar).length < j → j ≤ max →
      isCharBoundary s j = false) :
    LongestCut s max (String.ofList (s.toList.take k)) := by
  have hsize := size_ofList (s.toList.take k)
  refine ⟨by simp [List.take_prefix], (isCharBoundary_iff s _).mpr ⟨k, hk, hsize⟩,
    hsize ▸ hfits, fun u hu hmax => ?_⟩
  rw [String.toList_ofList]
  have hu' : u.toList = s.toList.take u.toList.length := List.prefix_iff_eq_take.mp hu
  have hlen : u.toList.length ≤ s.toList.length := hu.length_le
  have husize : size u = ((s.toList.take u.toList.length).flatMap encodeChar).length := by
    rw [← size_ofList, ← hu', String.ofList_toList]
  -- the cut at the end of `u` is a boundary within the limit, so it is not past `k`
  have hle : u.toList.length ≤ k := by
    refine Nat.le_of_not_lt fun hlt => ?_
    have hb := (isCharBoundary_iff s (size u)).mpr ⟨u.toList.length, hlen, husize⟩
    have := length_flatMap_take_lt s.toList hlt hlen
    rw [hlast (size u) (by omega) hmax] at hb
    cases hb
  rw [hu']
  exact List.take_prefix_take_left hle

/-- Truncation keeps the longest run of leading characters that fits. -/
theorem truncate_longestCut (s : String) (max : Nat) : LongestCut s max (truncate s max) := by
  unfold truncate
  split
  · next h =>
    have hall : (s.toList.take s.toList.length).flatMap encodeChar = encode s := by
      rw [List.take_length]
      rfl
    have hcut : LongestCut s max (String.ofList (s.toList.take s.toList.length)) :=
      longestCut_of_last_boundary (Nat.le_refl s.toList.length) (by rw [hall]; exact h)
        fun j hj _ => by
          rw [hall] at hj
          exact isCharBoundary_of_size_lt hj
    rwa [List.take_length, String.ofList_toList] at hcut
  · next h =>
    have hmin : Nat.min max (size s) = max := Nat.min_eq_left (by omega)
    rw [hmin]
    obtain ⟨hle, hb, hlast⟩ := boundaryAtOrBelow_spec s max
    obtain ⟨k, hk, he⟩ := (isCharBoundary_iff s _).mp hb
    rw [he, sliceTo_start]
    rw [he] at hle hlast
    exact longestCut_of_last_boundary hk hle hlast


theorem size_le_of_prefix {u t : String} (h : u.toList <+: t.toList) : size u ≤ size t := by
  obtain ⟨rest, hr⟩ := h
  unfold size encode
  rw [← hr, List.flatMap_append, List.length_append]
  omega

/-- A text longer than the limit is cut at most three octets short of it: the character that
holds the limit's offset starts at most three octets before it. -/
theorem limit_le_size_truncate {s : String} {max : Nat} (h : max < size s) :
    max ≤ size (truncate s max) + 3 := by
  obtain ⟨k, hk, h₁, h₂⟩ := exists_start_within_three s.toList (i := max)
    (by unfold size encode at h; omega)
  have hcut := (truncate_longestCut s max).longest (String.ofList (s.toList.take k))
    (by simp [List.take_prefix]) (by rw [size_ofList]; exact h₁)
  have := size_le_of_prefix hcut
  rw [size_ofList] at this
  omega

example : truncate "héllo" 2 = "h" := by decide
example : truncate "héllo" 3 = "hé" := by decide

end CiClient.Text.Utf8

namespace CiClient.Service

open Http Text.Utf8

/-! ## The snippet -/

/-- The body snippet of an error: none when snippets are off or the body is empty; otherwise the
longest run of leading characters of the body's lossy text that fits the limit, cut on a
character boundary, well-formed, and at most three octets short of the limit when the text does
not fit whole. -/
theorem body_snippet_cut (body : List UInt8) (cfg : SnippetConfig) :
    (bodySnippet body cfg = none ↔ cfg.enabled = false ∨ body = []) ∧
    (cfg.enabled = true → body ≠ [] →
      ∃ t, bodySnippet body cfg = some t ∧ LongestCut (decodeLossy body) cfg.maxBytes t ∧
        decode? (encode t) = some t ∧
        (cfg.maxBytes < size (decodeLossy body) → cfg.maxBytes ≤ size t + 3)) := by
  refine ⟨?_, fun hon hne => ⟨_, ?_, truncate_longestCut _ _, decode?_encode _,
    limit_le_size_truncate⟩⟩
  · obtain ⟨enabled, maxBytes⟩ := cfg
    cases enabled <;> cases body <;> simp [bodySnippet]
  · simp [bodySnippet, hon, hne]

/-- An octet that is no UTF-8 becomes U+FFFD, three octets long, before the cut. -/
example : bodySnippet [0x61, 0x62, 0xFF, 0x63] ⟨true, 4⟩ = some "ab" := by decide

/-! ## First candidates -/

/-- `t` is what the first member of `l` that gives anything gives, by `R`. -/
def FirstGiven {α β : Type} (R : α → β → Prop) (l : List α) (t : β) : Prop :=
  ∃ pre a post, l = pre ++ a :: post ∧ R a t ∧ ∀ x ∈ pre, ∀ t', ¬ R x t'

theorem findSome?_eq_some_iff_firstGiven {α β : Type} {f : α → Option β}
    {R : α → β → Prop}
    (hf : ∀ a b, f a = some b ↔ R a b) {l : List α} {t : β} :
    l.findSome? f = some t ↔ FirstGiven R l t := by
  have hnone : ∀ a, f a = none ↔ ∀ b, ¬ R a b := fun a => by
    simp only [← hf, Option.eq_none_iff_forall_ne_some]
  simp only [List.findSome?_eq_some_iff, FirstGiven, hf, hnone]

/-- Header `name` gives the request id `t`: its first value is plain text, `t` is that text
trimmed, and `t` is not blank. -/
def GivesRequestId (h : HeaderMap) (name t : String) : Prop :=
  ∃ v, h.get? name = some v ∧ isPlainValue v = true ∧ Text.Unicode.trim (asciiText v) = t ∧
    t ≠ ""

/-- Key `key` of a JSON value gives the message `t`: it holds a string, `t` is that string
trimmed, and `t` is not blank. -/
def GivesMessage (v : Json.Value) (key t : String) : Prop :=
  ∃ s, v.get? key = some (.string s) ∧ Text.Unicode.trim s = t ∧ t ≠ ""

theorem nonBlank_eq_some_iff (s t : String) :
    (if (Text.Unicode.trim s).isEmpty = true then none else some (Text.Unicode.trim s)) = some t ↔
      Text.Unicode.trim s = t ∧ t ≠ "" := by
  by_cases he : (Text.Unicode.trim s).isEmpty = true
  · have hblank : Text.Unicode.trim s = "" := String.isEmpty_iff.mp he
    rw [if_pos he]
    exact ⟨nofun, fun ⟨h, hne⟩ => absurd (h ▸ hblank) hne⟩
  · have hne : Text.Unicode.trim s ≠ "" := fun h => he (String.isEmpty_iff.mpr h)
    rw [if_neg he, Option.some.injEq]
    exact ⟨fun h => ⟨h, h ▸ hne⟩, fun h => h.1⟩

theorem requestId_eq_some_iff (h : HeaderMap) (t : String) :
    requestId h = some t ↔ FirstGiven (GivesRequestId h) requestIdHeaders t := by
  unfold requestId
  refine findSome?_eq_some_iff_firstGiven fun name t => ?_
  cases hv : h.get? name with
  | none => simp [GivesRequestId, hv]
  | some v =>
    by_cases hp : isPlainValue v = true
    · simp only [hp, if_true]
      rw [nonBlank_eq_some_iff]
      simp [GivesRequestId, hv, hp]
    · simp [GivesRequestId, hv, hp]

theorem forall_not_firstGiven_iff {α β : Type} {R : α → β → Prop} {l : List α} :
    (∀ t, ¬ FirstGiven R l t) ↔ ∀ a ∈ l, ∀ t, ¬ R a t := by
  refine ⟨fun h => ?_, fun h t ⟨pre, a, post, hl, hR, _⟩ => h a (by simp [hl]) t hR⟩
  induction l with
  | nil => simp
  | cons x xs ih =>
    -- the head gives nothing, or it would be the first to give; then the tail gives nothing
    have hx : ∀ t, ¬ R x t := fun t hR => h t ⟨[], x, xs, rfl, hR, by simp⟩
    have hxs : ∀ t, ¬ FirstGiven R xs t := fun t ⟨pre, a, post, hl, hR, hpre⟩ =>
      h t ⟨x :: pre, a, post, by simp [hl], hR, by simpa [hx] using hpre⟩
    simpa [hx] using ih hxs

theorem requestId_eq_none_iff (h : HeaderMap) :
    requestId h = none ↔ ∀ name ∈ requestIdHeaders, ∀ t, ¬ GivesRequestId h name t := by
  simp only [Option.eq_none_iff_forall_ne_some, ne_eq, requestId_eq_some_iff]
  exact forall_not_firstGiven_iff

theorem extractMessage_eq_some_iff (body : List UInt8) (t : String) :
    extractMessage body = some t ↔
      ∃ v, Json.Value.decode body = .ok v ∧ FirstGiven (GivesMessage v) messageKeys t := by
  unfold extractMessage
  split
  · next e he => simp [he]
  · next v hv =>
    simp only [hv, Except.ok.injEq, exists_eq_left']
    refine findSome?_eq_some_iff_firstGiven fun key t => ?_
    cases hk : v.get? key with
    | none => simp [GivesMessage, hk]
    | some x =>
      cases x with
      | string s =>
        simp only
        rw [nonBlank_eq_some_iff]
        simp [GivesMessage, hk]
      | _ => simp [GivesMessage, hk]

theorem extractMessage_eq_none_iff (body : List UInt8) :
    extractMessage body = none ↔ ∀ v, Json.Value.decode body = .ok v →
      ∀ key ∈ messageKeys, ∀ t, ¬ GivesMessage v key t := by
  simp only [Option.eq_none_iff_forall_ne_some, ne_eq, extractMessage_eq_some_iff, not_exists,
    not_and]
  constructor
  · intro h v hv
    exact forall_not_firstGiven_iff.mp fun t => h t v hv
  · intro h t v hv
    exact forall_not_firstGiven_iff.mpr (h v hv) t

/-- The request id is the trimmed first value of the first id header, in order, whose first
value is plain text and not blank once trimmed; the message is the trimmed string of the first
message key, in order, of a JSON body that holds a string not blank once trimmed. Where no
candidate gives one, there is none. -/
theorem first_id_and_message (h : HeaderMap) (body : List UInt8) (t : String) :
    (requestId h = some t ↔ FirstGiven (GivesRequestId h)
      ["x-request-id", "x-correlation-id", "x-jenkins-session", "x-amzn-requestid"] t) ∧
    (requestId h = none ↔ ∀ name ∈
      ["x-request-id", "x-correlation-id", "x-jenkins-session", "x-amzn-requestid"],
        ∀ t', ¬ GivesRequestId h name t') ∧
    (extractMessage body = some t ↔ ∃ v, Json.Value.decode body = .ok v ∧
      FirstGiven (GivesMessage v) ["message", "error", "error_message", "Message", "Error"] t) ∧
    (extractMessage body = none ↔ ∀ v, Json.Value.decode body = .ok v →
      ∀ key ∈ ["message", "error", "error_message", "Message", "Error"],
        ∀ t', ¬ GivesMessage v key t') :=
  ⟨requestId_eq_some_iff h t, requestId_eq_none_iff h, extractMessage_eq_some_iff body t,
    extractMessage_eq_none_iff body⟩

example : requestId ⟨[("x-request-id", [0x20, 0x20]), ("x-correlation-id", [0x61, 0x62, 0x63])]⟩ =
    some "abc" := by
  decide
example :
    extractMessage "\x7b\"message\":\"  no such job  \"\x7d".toUTF8.toList =
      some "no such job" := by
  decide +kernel

end CiClient.Service
