import CiClient.Url.Path
import CiClient.Job.Name
import Mathlib.Tactic.SplitIfs
/-!
# Writing a name into a path

A job name goes into a request path as it is, and the URL reader writes every octet of it that
the path set encodes as `%XX` and keeps the others. For a name that the name check accepts this
changes nothing that a reader of the path could tell apart:

* the written text holds a separator only where the name does (`eq_of_mem_encode`);
* it is a dot segment (`.`, `..`, or either spelled with `%2e`) only when the name already is
  one (`isSingleDot_of_encode`, `isDoubleDot_of_encode`);
* percent-decoding it gives the octets that percent-decoding the name gives
  (`decodeOctets_encode_pathSet`); the same holds of the query set of web URLs, or of any set
  that writes `%`, `+` and the hex digits as they are (`decodeOctets_encode_of_keeps`).

The last fact rests on the name check. Every `%` of an accepted name starts an escape whose two
characters the path set keeps, so that escape reads the same before and after writing, and every
`%XX` that writing adds stands for the octet it replaced.
-/

namespace CiClient.Text.Utf8

theorem encodeChar_of_lt {c : Char} (h : c.toNat < 0x80) : encodeChar c = [c.toNat.toUInt8] := by
  simp [encodeChar, h]

theorem encodeChar_ne_nil (c : Char) : encodeChar c ≠ [] := by
  simp only [encodeChar]
  split_ifs <;> simp

/-- An octet below `0x80` occurs in the UTF-8 form of a character only as the character itself:
every octet of a longer form is at least `0x80`. -/
theorem toNat_eq_of_mem_encodeChar {c : Char} {b : UInt8} (hb : b ∈ encodeChar c)
    (hlt : b.toNat < 0x80) : c.toNat = b.toNat := by
  have hc : c.toNat < 0x110000 := by
    have := c.valid
    simp only [UInt32.isValidChar, Nat.isValidChar] at this
    simp only [Char.toNat]
    omega
  simp only [encodeChar] at hb
  split_ifs at hb
  · simp only [List.mem_singleton] at hb
    subst hb
    simp at hlt ⊢
    omega
  all_goals simp only [List.mem_cons, List.not_mem_nil, or_false] at hb
  · rcases hb with rfl | rfl <;> simp at hlt <;> omega
  · rcases hb with rfl | rfl | rfl <;> simp at hlt <;> omega
  · rcases hb with rfl | rfl | rfl | rfl <;> simp at hlt <;> omega

end CiClient.Text.Utf8

namespace CiClient.Url

open Text

/-! ## The written form of an octet and of a character -/

theorem toNat_charOfNat {n : Nat} (h : n < 0xd800) : (Char.ofNat n).toNat = n := by
  rw [Char.ofNat, dif_pos (Or.inl h)]
  rfl

theorem forall_octet {p : UInt8 → Prop} (h : ∀ n, n < 256 → p n.toUInt8) (b : UInt8) : p b := by
  simpa using h b.toNat b.toNat_lt

/-- The path set keeps `%`, `+`, `.` and the hex digits as they are. -/
theorem pathSet_keeps : ∀ b : UInt8, (b = 0x25 ∨ b = 0x2B ∨ b = 0x2E ∨ (hexValue b).isSome) →
    pathSet.encodes b = false :=
  forall_octet (p := fun b => (b = 0x25 ∨ b = 0x2B ∨ b = 0x2E ∨ (hexValue b).isSome) →
    pathSet.encodes b = false) (by decide +kernel)

/-- An encode set that writes `%`, `+` and the hex digits as they are, so that an escape the name
check accepts reads the same before and after writing. -/
def EncodeSet.KeepsEscapes (set : EncodeSet) : Prop :=
  ∀ b : UInt8, (b = 0x25 ∨ b = 0x2B ∨ (hexValue b).isSome) → set.encodes b = false

theorem pathSet_keepsEscapes : pathSet.KeepsEscapes := by
  intro b hb
  rcases hb with hb | hb | hb
  · exact pathSet_keeps b (.inl hb)
  · exact pathSet_keeps b (.inr (.inl hb))
  · exact pathSet_keeps b (.inr (.inr (.inr hb)))

theorem specialQuerySet_keepsEscapes : specialQuerySet.KeepsEscapes :=
  forall_octet (p := fun b => (b = 0x25 ∨ b = 0x2B ∨ (hexValue b).isSome) →
    specialQuerySet.encodes b = false) (by decide +kernel)

theorem hexUpper_lt : ∀ q, q < 16 → (hexUpper q).toNat < 0x80 := by decide

theorem hexValue_hexUpper : ∀ q, q < 16 → hexValue (hexUpper q).toNat.toUInt8 = some q := by
  decide

theorem hexUpper_ne : ∀ q, q < 16 → hexUpper q ≠ '/' ∧ hexUpper q ≠ '\\' ∧ hexUpper q ≠ '%' := by
  decide

theorem lt_of_not_encodes {set : EncodeSet} {b : UInt8} (h : set.encodes b = false) :
    b.toNat < 0x7F := by
  simp only [EncodeSet.encodes, Bool.or_eq_false_iff, decide_eq_false_iff_not] at h
  have := h.1.2
  simp [UInt8.le_iff_toNat_le] at this
  omega

theorem toList_encodeOctet (set : EncodeSet) (b : UInt8) :
    (encodeOctet set b).toList =
      if set.encodes b then ['%', hexUpper (b.toNat / 16), hexUpper (b.toNat % 16)]
      else [Char.ofNat b.toNat] := by
  unfold encodeOctet
  split <;> simp

theorem toList_encodeChar (set : EncodeSet) (c : Char) :
    (encodeChar set c).toList =
      (Utf8.encodeChar c).flatMap fun b => (encodeOctet set b).toList := by
  simp only [encodeChar, String.toList_join, List.flatMap_map]

theorem toList_encode (set : EncodeSet) (s : String) :
    (encode set s).toList = s.toList.flatMap fun c => (encodeChar set c).toList := by
  simp only [encode, String.toList_join, List.flatMap_map]

theorem utf8_encodeOctet (set : EncodeSet) (b : UInt8) :
    Utf8.encode (encodeOctet set b) =
      if set.encodes b then
        [0x25, (hexUpper (b.toNat / 16)).toNat.toUInt8, (hexUpper (b.toNat % 16)).toNat.toUInt8]
      else [b] := by
  have hb := b.toNat_lt
  have hi := hexUpper_lt (b.toNat / 16) (by omega)
  have lo := hexUpper_lt (b.toNat % 16) (by omega)
  unfold Utf8.encode
  rw [toList_encodeOctet]
  split
  · simp [Utf8.encodeChar_of_lt hi, Utf8.encodeChar_of_lt lo,
      Utf8.encodeChar_of_lt (c := '%') (by decide)]
  · next h =>
    have hlt := lt_of_not_encodes (Bool.of_not_eq_true h)
    simp [Utf8.encodeChar_of_lt (c := Char.ofNat b.toNat) (by rw [toNat_charOfNat] <;> omega),
      toNat_charOfNat (show b.toNat < 0xd800 by omega)]

theorem utf8_encode_encode (set : EncodeSet) (s : String) :
    Utf8.encode (encode set s) =
      (Utf8.encode s).flatMap fun b => Utf8.encode (encodeOctet set b) := by
  simp only [Utf8.encode, toList_encode, toList_encodeChar, List.flatMap_assoc]

/-- A character is written as itself, or as escapes whose first octet the set encodes. -/
theorem encodeChar_cases (set : EncodeSet) (c : Char) :
    (encodeChar set c).toList = [c] ∨
      ∃ b t, set.encodes b = true ∧ (Utf8.encodeChar c).head? = some b ∧
        (encodeChar set c).toList =
          '%' :: hexUpper (b.toNat / 16) :: hexUpper (b.toNat % 16) :: t := by
  rw [toList_encodeChar]
  obtain ⟨b, bs, hbs⟩ := List.exists_cons_of_ne_nil (Utf8.encodeChar_ne_nil c)
  cases hb : set.encodes b with
  | true =>
      right
      refine ⟨b, bs.flatMap fun b => (encodeOctet set b).toList, hb, by simp [hbs], ?_⟩
      simp [hbs, toList_encodeOctet, hb]
  | false =>
      left
      have hlt := lt_of_not_encodes hb
      have hc : c.toNat = b.toNat :=
        Utf8.toNat_eq_of_mem_encodeChar (by simp [hbs]) (by omega)
      have hone : Utf8.encodeChar c = [b] := by
        rw [Utf8.encodeChar_of_lt (by omega), hc]
        simp
      simp [hone, toList_encodeOctet, hb, ← hc]

/-- A character of a written character is the character itself, `%`, or a hex digit. -/
theorem mem_encodeChar {set : EncodeSet} {c x : Char} (hx : x ∈ (encodeChar set c).toList) :
    x = c ∨ x = '%' ∨ ∃ q, q < 16 ∧ x = hexUpper q := by
  rw [toList_encodeChar, List.mem_flatMap] at hx
  obtain ⟨b, hb, hx⟩ := hx
  rw [toList_encodeOctet] at hx
  split at hx
  · have := b.toNat_lt
    simp only [List.mem_cons, List.not_mem_nil, or_false] at hx
    rcases hx with rfl | rfl | rfl
    · exact .inr (.inl rfl)
    · exact .inr (.inr ⟨_, by omega, rfl⟩)
    · exact .inr (.inr ⟨_, by omega, rfl⟩)
  · next h =>
    have hlt := lt_of_not_encodes (Bool.of_not_eq_true h)
    have hc := Utf8.toNat_eq_of_mem_encodeChar hb (by omega)
    simp only [List.mem_singleton] at hx
    left
    rw [hx, ← hc, Char.ofNat_toNat]

/-- Writing a text adds no `/` and no `\`: one occurs in the written text only where it occurs
in the text. -/
theorem eq_of_mem_encode {set : EncodeSet} {s : String} {x : Char} (hsep : x = '/' ∨ x = '\\')
    (hx : x ∈ (encode set s).toList) : x ∈ s.toList := by
  rw [toList_encode, List.mem_flatMap] at hx
  obtain ⟨c, hc, hx⟩ := hx
  rcases mem_encodeChar hx with rfl | rfl | ⟨q, hq, rfl⟩
  · exact hc
  · rcases hsep with h | h <;> cases h
  · have := hexUpper_ne q hq
    rcases hsep with h | h
    · exact absurd h this.1
    · exact absurd h this.2.1

/-! ## Dot segments -/

/-- The lower-case tails of the dot segments `.`, `%2e`, `..`, `.%2e`, `%2e.` and `%2e%2e`. -/
def dotTails : List (List Char) :=
  [[], ['.'], ['%', '2', 'e'], ['2', 'e'], ['e'], ['.', '.'], ['.', '%', '2', 'e'],
    ['%', '2', 'e', '.'], ['2', 'e', '.'], ['e', '.'], ['%', '2', 'e', '%', '2', 'e'],
    ['2', 'e', '%', '2', 'e'], ['e', '%', '2', 'e']]

theorem dotTails_tail : ∀ x ∈ dotTails, x.tail ∈ dotTails := by decide

theorem dotTails_escape : ∀ x ∈ dotTails, x.head? = some '%' → (x.drop 1).take 2 = ['2', 'e'] := by
  decide

theorem hexUpper_toLower_two : ∀ q, q < 16 → (hexUpper q).toLower = '2' → q = 2 := by decide

theorem hexUpper_toLower_e : ∀ q, q < 16 → (hexUpper q).toLower = 'e' → q = 14 := by decide

/-- Whatever the path set writes as an escape, the escape is no part of a dot segment: the only
escape that reads as a dot segment is `%2E`, and the path set keeps `.`. So a written text that
is a dot segment, or a tail of one, is the text itself. -/
theorem encode_eq_of_mem_dotTails : ∀ cs : List Char,
    (cs.flatMap fun c => (encodeChar pathSet c).toList).map Char.toLower ∈ dotTails →
      (cs.flatMap fun c => (encodeChar pathSet c).toList) = cs
  | [], _ => rfl
  | c :: cs, h => by
    rw [List.flatMap_cons] at h ⊢
    rcases encodeChar_cases pathSet c with hc | ⟨b, t, hb, -, hc⟩
    · rw [hc] at h ⊢
      have htail := dotTails_tail _ h
      simp only [List.singleton_append, List.map_cons, List.tail_cons] at htail
      rw [List.singleton_append, encode_eq_of_mem_dotTails cs htail]
    · exfalso
      rw [hc] at h
      have := dotTails_escape _ h (by simp)
      simp only [List.cons_append, List.map_cons, List.drop_succ_cons, List.drop_zero,
        List.take_succ_cons, List.take_zero, List.cons.injEq, and_true] at this
      have hbn := b.toNat_lt
      have h2 := hexUpper_toLower_two _ (by omega) this.1
      have he := hexUpper_toLower_e _ (by omega) this.2
      have h46 : b = 0x2E := by
        apply UInt8.toNat_inj.mp
        simp only [UInt8.reduceToNat]
        omega
      rw [pathSet_keeps b (.inr (.inr (.inl h46)))] at hb
      cases hb

theorem isSingleDot_iff (l : List Char) :
    isSingleDot l = true ↔ l.map Char.toLower ∈ [['.'], ['%', '2', 'e']] := by
  have h1 : (".":String) = String.ofList ['.'] := rfl
  have h2 : ("%2e":String) = String.ofList ['%', '2', 'e'] := rfl
  simp only [isSingleDot, h1, h2, List.contains_cons, List.contains_nil, Bool.or_false,
    Bool.or_eq_true, beq_iff_eq, String.ofList_inj, List.mem_cons, List.not_mem_nil, or_false]

theorem isDoubleDot_iff (l : List Char) :
    isDoubleDot l = true ↔
      l.map Char.toLower ∈ [['.', '.'], ['.', '%', '2', 'e'], ['%', '2', 'e', '.'],
        ['%', '2', 'e', '%', '2', 'e']] := by
  have h1 : ("..":String) = String.ofList ['.', '.'] := rfl
  have h2 : (".%2e":String) = String.ofList ['.', '%', '2', 'e'] := rfl
  have h3 : ("%2e.":String) = String.ofList ['%', '2', 'e', '.'] := rfl
  have h4 : ("%2e%2e":String) = String.ofList ['%', '2', 'e', '%', '2', 'e'] := rfl
  simp only [isDoubleDot, h1, h2, h3, h4, List.contains_cons, List.contains_nil, Bool.or_false,
    Bool.or_eq_true, beq_iff_eq, String.ofList_inj, List.mem_cons, List.not_mem_nil, or_false]

theorem isSingleDot_of_encode {s : String} (h : isSingleDot (encode pathSet s).toList = true) :
    isSingleDot s.toList = true := by
  rw [toList_encode] at h
  have hmem := (isSingleDot_iff _).mp h
  have hdot : (s.toList.flatMap fun c => (encodeChar pathSet c).toList).map Char.toLower ∈
      dotTails := by
    simp only [List.mem_cons, List.not_mem_nil, or_false] at hmem
    rcases hmem with hm | hm <;> rw [hm] <;> decide
  rwa [encode_eq_of_mem_dotTails _ hdot] at h

theorem isDoubleDot_of_encode {s : String} (h : isDoubleDot (encode pathSet s).toList = true) :
    isDoubleDot s.toList = true := by
  rw [toList_encode] at h
  have hmem := (isDoubleDot_iff _).mp h
  have hdot : (s.toList.flatMap fun c => (encodeChar pathSet c).toList).map Char.toLower ∈
      dotTails := by
    simp only [List.mem_cons, List.not_mem_nil, or_false] at hmem
    rcases hmem with hm | hm | hm | hm <;> rw [hm] <;> decide
  rwa [encode_eq_of_mem_dotTails _ hdot] at h

/-! ## Percent-decoding a written name -/

theorem decodeOctets_cons_of_ne {b : UInt8} (h : b ≠ 0x25) (rest : List UInt8) :
    decodeOctets (b :: rest) = b :: decodeOctets rest := by
  match rest with
  | [] => simp [decodeOctets]
  | [x] => simp [decodeOctets]
  | x :: y :: r => simp [decodeOctets, h]

/-- An escape whose two characters are not `%` decodes on its own, whatever follows it. -/
theorem decodeOctets_escape {h1 h2 : UInt8} (h1' : h1 ≠ 0x25) (h2' : h2 ≠ 0x25)
    (rest : List UInt8) :
    decodeOctets (0x25 :: h1 :: h2 :: rest) =
      (match hexValue h1, hexValue h2 with
        | some a, some b => [(a * 16 + b).toUInt8]
        | _, _ => [0x25, h1, h2]) ++ decodeOctets rest := by
  cases ha : hexValue h1 <;> cases hb : hexValue h2 <;>
    simp [decodeOctets, ha, hb, decodeOctets_cons_of_ne h1', decodeOctets_cons_of_ne h2']

/-- An octet written under a set decodes back to itself, unless it is a `%` the set keeps. -/
theorem decodeOctets_encodeOctet_append (set : EncodeSet) {b : UInt8}
    (hb : set.encodes b = true ∨ b ≠ 0x25) (rest : List UInt8) :
    decodeOctets (Utf8.encode (encodeOctet set b) ++ rest) = b :: decodeOctets rest := by
  rw [utf8_encodeOctet]
  cases he : set.encodes b with
  | true =>
      have hb := b.toNat_lt
      simp only [if_true, List.cons_append, List.nil_append, decodeOctets,
        hexValue_hexUpper _ (show b.toNat / 16 < 16 by omega),
        hexValue_hexUpper _ (show b.toNat % 16 < 16 by omega)]
      have hsplit : b.toNat / 16 * 16 + b.toNat % 16 = b.toNat := by omega
      simp [hsplit]
  | false =>
      have hne : b ≠ 0x25 := by
        rcases hb with hb | hb
        · rw [he] at hb
          cases hb
        · exact hb
      simp only [Bool.false_eq_true, if_false, List.singleton_append]
      exact decodeOctets_cons_of_ne hne rest

section Escapes

variable {set : EncodeSet} (hset : set.KeepsEscapes)
include hset

/-- The two characters of an escape that the name check accepts are kept by a set that keeps
escapes, and neither is `%`. -/
theorem escapedOctet_kept {h1 h2 : UInt8} {n : Nat} (h : Job.escapedOctet h1 h2 = some n) :
    set.encodes h1 = false ∧ set.encodes h2 = false ∧ h1 ≠ 0x25 ∧ h2 ≠ 0x25 := by
  have hdigit : Job.hexDigit = hexValue := rfl
  have hpct : hexValue 0x25 = none := by decide
  unfold Job.escapedOctet at h
  rw [hdigit] at h
  split at h
  · next h1p =>
    have h2s : (hexValue h2).isSome := by simp [h]
    refine ⟨hset h1 (.inr (.inl h1p)), hset h2 (.inr (.inr h2s)), by rw [h1p]; decide, ?_⟩
    rintro rfl
    simp [hpct] at h2s
  · split at h
    · next a b ha hb =>
      have h1s : (hexValue h1).isSome := by simp [ha]
      have h2s : (hexValue h2).isSome := by simp [hb]
      refine ⟨hset h1 (.inr (.inr h1s)), hset h2 (.inr (.inr h2s)), ?_, ?_⟩ <;> rintro rfl <;>
        simp [hpct] at h1s h2s
    · cases h

/-- Percent-decoding the writing of octets whose escapes the name check accepts, under a set that
keeps escapes, gives what percent-decoding the octets themselves gives. The induction follows
the check: an accepted escape is kept and decodes alike on both sides, and any other octet is
kept or becomes an escape that decodes to it. -/
theorem decodeOctets_flatMap_encodeOctet : ∀ bs : List UInt8, Job.escapesWellFormed bs = true →
    decodeOctets (bs.flatMap fun b => Utf8.encode (encodeOctet set b)) = decodeOctets bs
  | [], _ => rfl
  | b :: rest, h => by
    by_cases hb : b = 0x25
    · subst hb
      match rest, h with
      | h1 :: h2 :: rest', h =>
        simp only [Job.escapesWellFormed] at h
        split at h
        · next n hn =>
          obtain ⟨k1, k2, n1, n2⟩ := escapedOctet_kept hset hn
          have hwf : Job.escapesWellFormed rest' = true := by simp_all
          have keep : ∀ b, set.encodes b = false → Utf8.encode (encodeOctet set b) = [b] :=
            fun b hb => by simp [utf8_encodeOctet, hb]
          have k0 := keep 0x25 (hset _ (.inl rfl))
          simp only [List.flatMap_cons, k0, keep h1 k1, keep h2 k2, List.cons_append,
            List.nil_append]
          rw [decodeOctets_escape n1 n2, decodeOctets_escape n1 n2,
            decodeOctets_flatMap_encodeOctet rest' hwf]
        · cases h
    · have hwf : Job.escapesWellFormed rest = true := by
        simpa [Job.escapesWellFormed, hb] using h
      rw [List.flatMap_cons, decodeOctets_encodeOctet_append set (.inr hb),
        decodeOctets_flatMap_encodeOctet rest hwf, decodeOctets_cons_of_ne hb]

/-- Percent-decoding a text written under a set that keeps escapes gives what percent-decoding
the text gives, when every `%` of the text starts an escape the name check accepts. -/
theorem decodeOctets_encode_of_keeps {s : String}
    (h : Job.escapesWellFormed (Utf8.encode s) = true) :
    decodeOctets (Utf8.encode (encode set s)) = decodeOctets (Utf8.encode s) := by
  rw [utf8_encode_encode]
  exact decodeOctets_flatMap_encodeOctet hset _ h

end Escapes

theorem decodeOctets_encode_pathSet {s : String}
    (h : Job.escapesWellFormed (Utf8.encode s) = true) :
    decodeOctets (Utf8.encode (encode pathSet s)) = decodeOctets (Utf8.encode s) :=
  decodeOctets_encode_of_keeps pathSet_keepsEscapes h

end CiClient.Url
