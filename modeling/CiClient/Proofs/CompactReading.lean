import CiClient.Proofs.SortedFields
import CiClient.Proofs.ScalarText
import CiClient.Proofs.TypedReading
/-!
# Reading back the compact text of a value

The value reader gives values of one form: numbers in range, the fields of each object sorted by
key, and no more levels of nesting than the reader allowed where it read them
(`Value.Canonical`). The tree reader, on the compact text of such a value, reads the value's own
tree (`tree_compact`), provided each number's text scans back as that number: every integer in
range does, and a float does when the decoder reads its shortest text back as the same float
(`Number.ReadsBack`), which the decoder's fast float parsing does not promise.

Read as a value, the tree of a canonical value is the value again (`toValue_ofValue`).
-/

namespace CiClient.Json

namespace Tree

mutual
/-- A tree as the tree reader gives it with `d` levels of nesting left: each number in range,
and arrays and objects no deeper than `d` allows. -/
def Fits : Nat → Tree → Prop
  | _, .number n => n.InRange
  | d, .array items => 1 < d ∧ ItemsFit (d - 1) items
  | d, .object fields => 1 < d ∧ FieldsFit (d - 1) fields
  | _, _ => True

def ItemsFit (d : Nat) : List Tree → Prop
  | [] => True
  | t :: ts => t.Fits d ∧ ItemsFit d ts

def FieldsFit (d : Nat) : List (String × Tree) → Prop
  | [] => True
  | (_, t) :: fs => t.Fits d ∧ FieldsFit d fs
end

mutual
/-- The tree of a value, its fields in the order they are held. -/
def ofValue : Value → Tree
  | .null => .null
  | .bool b => .bool b
  | .number n => .number n
  | .string s => .string s
  | .array items => .array (ofValues items)
  | .object fields => .object (ofFields fields)

def ofValues : List Value → List Tree
  | [] => []
  | v :: vs => ofValue v :: ofValues vs

def ofFields : List (String × Value) → List (String × Tree)
  | [] => []
  | (k, v) :: fs => (k, ofValue v) :: ofFields fs
end

end Tree

namespace Value

mutual
/-- A value as the value reader gives it with `d` levels of nesting left: each number in range,
each object's fields sorted by key, and arrays and objects no deeper than `d` allows. -/
def Canonical : Nat → Value → Prop
  | _, .number n => n.InRange
  | d, .array items => 1 < d ∧ CanonicalItems (d - 1) items
  | d, .object fields => 1 < d ∧ KeysSorted fields ∧ CanonicalFields (d - 1) fields
  | _, _ => True

def CanonicalItems (d : Nat) : List Value → Prop
  | [] => True
  | v :: vs => v.Canonical d ∧ CanonicalItems d vs

def CanonicalFields (d : Nat) : List (String × Value) → Prop
  | [] => True
  | (_, v) :: fs => v.Canonical d ∧ CanonicalFields d fs
end

mutual
/-- The numbers of a value, in text order. -/
def numbers : Value → List Number
  | .number n => [n]
  | .array items => itemsNumbers items
  | .object fields => fieldsNumbers fields
  | _ => []

def itemsNumbers : List Value → List Number
  | [] => []
  | v :: vs => v.numbers ++ itemsNumbers vs

def fieldsNumbers : List (String × Value) → List Number
  | [] => []
  | (_, v) :: fs => v.numbers ++ fieldsNumbers fs
end

theorem canonicalFields_iff {d : Nat} :
    ∀ {fs : List (String × Value)}, CanonicalFields d fs ↔ ∀ f ∈ fs, f.2.Canonical d
  | [] => by simp [CanonicalFields]
  | (k, v) :: fs => by simp [CanonicalFields, canonicalFields_iff]

theorem CanonicalFields.insertField {d : Nat} {fs : List (String × Value)}
    (h : CanonicalFields d fs) (k : String) {v : Value} (hv : v.Canonical d) :
    CanonicalFields d (Json.insertField k v fs) := by
  rw [canonicalFields_iff] at h ⊢
  intro f hf
  rcases mem_insertField hf with rfl | hf
  · exact hv
  · exact h f hf

end Value

namespace Reader

open CiClient.Json.Tree

/-- The tree reader gives trees that fit the nesting levels it was given: a number is what the
scanner gives, and the inside of an array or object is read one level down. -/
theorem tree_fits_all (n : Nat) :
    (∀ c t c', (tree n).exec c = (.ok t, c') → t.Fits c.depth) ∧
    (∀ first c ts c', (treeItems n first).exec c = (.ok ts, c') → ItemsFit c.depth ts) ∧
    (∀ first c fs c', (treeFields n first).exec c = (.ok fs, c') → FieldsFit c.depth fs) := by
  induction n with
  | zero => refine ⟨?_, ?_, ?_⟩ <;> intros <;> simp_all [tree, treeItems, treeFields, exec_failAhead]
  | succ n ih =>
    obtain ⟨ihv, ihi, ihf⟩ := ih
    refine ⟨?_, ?_, ?_⟩
    · intro c t c' h
      obtain ⟨b, -, ht⟩ := tree_succ_inv h
      have hdep : c.skipBlanks.enter.depth = c.depth - 1 := by simp [Cursor.enter]
      unfold treeAt at ht
      split_ifs at ht
      · obtain ⟨_, rfl⟩ := exec_bind_pure_ok_inv (by simpa only [← bind_assoc] using ht)
        trivial
      · obtain ⟨_, rfl⟩ := exec_bind_pure_ok_inv (by simpa only [← bind_assoc] using ht)
        trivial
      · obtain ⟨_, rfl⟩ := exec_bind_pure_ok_inv (by simpa only [← bind_assoc] using ht)
        trivial
      · rw [exec_bind_of_ok (exec_eat _)] at ht
        obtain ⟨x, c₁, hx, hp⟩ := exec_bind_ok_inv ht
        obtain ⟨rfl, -⟩ := exec_pure_ok_inv hp
        exact Scalar.inRange_number (scan_ok hx).1
      · obtain ⟨x, c₁, hx, hp⟩ := exec_bind_ok_inv ht
        obtain ⟨rfl, -⟩ := exec_pure_ok_inv hp
        exact Scalar.inRange_number (scan_ok hx).1
      · obtain ⟨_, rfl⟩ := exec_bind_pure_ok_inv (by simpa only [← bind_assoc] using ht)
        trivial
      · obtain ⟨ts, c₁, rfl, hd, hin, -⟩ := nested_bind_ok_inv ht
        exact ⟨hd, hdep ▸ ihi _ _ _ _ hin⟩
      · obtain ⟨fs, c₁, rfl, hd, hin, -⟩ := nested_bind_ok_inv ht
        exact ⟨hd, hdep ▸ ihf _ _ _ _ hin⟩
      · simp [exec_failAhead] at ht
    · intro first c ts c' h
      rw [treeItems, exec_bind] at h
      rcases hs : (itemStart first).exec c with ⟨_ | more, c₁⟩ <;> rw [hs] at h
      · cases h
      · obtain ⟨-, hd₁, -⟩ := keeps_itemStart _ _ _ _ hs
        cases more with
        | false =>
          obtain ⟨rfl, rfl⟩ := exec_pure_ok_inv h
          trivial
        | true =>
          obtain ⟨t, c₂, ht, h⟩ := exec_bind_ok_inv h
          obtain ⟨rest, c₃, hrest, hp⟩ := exec_bind_ok_inv h
          obtain ⟨rfl, rfl⟩ := exec_pure_ok_inv hp
          obtain ⟨-, hd₂, -⟩ := keeps_tree n _ _ _ ht
          exact ⟨hd₁ ▸ ihv _ _ _ ht, hd₁ ▸ hd₂ ▸ ihi _ _ _ _ hrest⟩
    · intro first c fs c' h
      rw [treeFields, exec_bind] at h
      rcases hs : (keyStart first).exec c with ⟨_ | key, c₁⟩ <;> rw [hs] at h
      · cases h
      · obtain ⟨-, hd₁, -⟩ := keeps_keyStart _ _ _ _ hs
        cases key with
        | none =>
          obtain ⟨rfl, rfl⟩ := exec_pure_ok_inv h
          trivial
        | some k =>
          obtain ⟨u, c₂, hcolon, h⟩ := exec_bind_ok_inv h
          obtain ⟨t, c₃, ht, h⟩ := exec_bind_ok_inv h
          obtain ⟨rest, c₄, hrest, hp⟩ := exec_bind_ok_inv h
          obtain ⟨rfl, rfl⟩ := exec_pure_ok_inv hp
          obtain ⟨-, hd₂, -⟩ := keeps_colon _ _ _ hcolon
          obtain ⟨-, hd₃, -⟩ := keeps_tree n _ _ _ ht
          exact ⟨hd₁ ▸ hd₂ ▸ ihv _ _ _ ht, hd₁ ▸ hd₂ ▸ hd₃ ▸ ihf _ _ _ _ hrest⟩

theorem tree_fits {n : Nat} {c c' : Cursor} {t : Tree} (h : (tree n).exec c = (.ok t, c')) :
    t.Fits c.depth :=
  (tree_fits_all n).1 c t c' h

end Reader

namespace Tree

open Value

mutual
/-- Read as a value, a tree that fits `d` levels is a canonical value there. -/
theorem canonical_toValue : ∀ {d : Nat} (t : Tree), t.Fits d → t.toValue.Canonical d
  | _, .null, _ => trivial
  | _, .bool _, _ => trivial
  | _, .number _, h => h
  | _, .string _, _ => trivial
  | _, .array ts, ⟨hd, h⟩ => ⟨hd, canonical_toValues ts h⟩
  | _, .object fs, ⟨hd, h⟩ =>
    ⟨hd, keysSorted_fieldValues fs keysSorted_nil, canonical_fieldValues fs h trivial⟩

theorem canonical_toValues : ∀ {d : Nat} (ts : List Tree), ItemsFit d ts →
    CanonicalItems d (toValues ts)
  | _, [], _ => trivial
  | _, t :: ts, ⟨ht, hts⟩ => ⟨canonical_toValue t ht, canonical_toValues ts hts⟩

theorem canonical_fieldValues : ∀ {d : Nat} (fs : List (String × Tree)) {acc : List (String × Value)},
    FieldsFit d fs → CanonicalFields d acc → CanonicalFields d (fieldValues fs acc)
  | _, [], _, _, hacc => hacc
  | _, (k, t) :: fs, _, ⟨ht, hfs⟩, hacc =>
    canonical_fieldValues fs hfs (hacc.insertField k (canonical_toValue t ht))
end

mutual
/-- The tree of a canonical value reads as the value again. -/
theorem toValue_ofValue : ∀ {d : Nat} (v : Value), v.Canonical d → (ofValue v).toValue = v
  | _, .null, _ => rfl
  | _, .bool _, _ => rfl
  | _, .number _, _ => rfl
  | _, .string _, _ => rfl
  | _, .array vs, ⟨_, h⟩ => by
    show Value.array (toValues (ofValues vs)) = _
    rw [toValues_ofValues vs h]
  | _, .object fs, ⟨_, hs, h⟩ => by
    show Value.object (fieldValues (ofFields fs) []) = _
    rw [fieldValues_ofFields fs [] h (by simpa using hs), List.nil_append]

theorem toValues_ofValues : ∀ {d : Nat} (vs : List Value), CanonicalItems d vs →
    toValues (ofValues vs) = vs
  | _, [], _ => rfl
  | _, v :: vs, ⟨hv, hvs⟩ => by
    show (ofValue v).toValue :: toValues (ofValues vs) = _
    rw [toValue_ofValue v hv, toValues_ofValues vs hvs]

/-- Fields sorted by key are added in order at the end, so the fields come back as they were. -/
theorem fieldValues_ofFields : ∀ {d : Nat} (fs acc : List (String × Value)),
    CanonicalFields d fs → KeysSorted (acc ++ fs) → fieldValues (ofFields fs) acc = acc ++ fs
  | _, [], acc, _, _ => by simp [ofFields, fieldValues]
  | _, (k, v) :: fs, acc, ⟨hv, hfs⟩, hs => by
    have hlt : ∀ f ∈ acc, f.1 < k := fun f hf =>
      (List.pairwise_append.1 hs).2.2 f hf (k, v) List.mem_cons_self
    show fieldValues (ofFields fs) (insertField k (ofValue v).toValue acc) = _
    rw [toValue_ofValue v hv, insertField_of_lt hlt,
      fieldValues_ofFields fs _ hfs (by simpa using hs)]
    simp
end

end Tree

namespace Cursor

/-- A cursor at an octet that is no blank skips nothing. -/
theorem skipBlanks_of_head {c : Cursor} {b : UInt8} {r : List UInt8} (hc : c.rest = b :: r)
    (hb : ¬(b = 0x20 ∨ b = 0x0A ∨ b = 0x09 ∨ b = 0x0D)) : c.skipBlanks = c := by
  rcases c with ⟨rest, p, d, k⟩
  simp only at hc
  subst hc
  simp only [skipBlanks, Reader.skipBlank, if_neg hb]

end Cursor

namespace Reader

variable (I : Reader (List Tree)) (F : Reader (List (String × Tree)))

theorem treeAt_true : treeAt I F 0x74 = (eat >>= fun _ => trueRest >>= fun _ => pure (.bool true)) :=
  rfl

theorem treeAt_false :
    treeAt I F 0x66 = (eat >>= fun _ => falseRest >>= fun _ => pure (.bool false)) := rfl

theorem treeAt_minus :
    treeAt I F 0x2D = (eat >>= fun _ => number false >>= fun n => pure (.number n)) := rfl

theorem treeAt_digit {b : UInt8} (hb : Scalar.isDigit b = true) :
    treeAt I F b = (number true >>= fun n => pure (.number n)) := by
  have hr : 0x30 ≤ b.toNat ∧ b.toNat ≤ 0x39 := by
    simpa [Scalar.isDigit, UInt8.le_iff_toNat_le] using hb
  have hne : ∀ x : UInt8, (x.toNat < 0x30 ∨ 0x39 < x.toNat) → b ≠ x := by
    rintro x hx rfl
    omega
  unfold treeAt
  rw [if_neg (hne 0x6E (by decide)), if_neg (hne 0x74 (by decide)), if_neg (hne 0x66 (by decide)),
    if_neg (hne 0x2D (by decide)), if_pos hb]

end Reader

/-! ### Numbers read back from their text -/

namespace Number

open Scalar Reader Decode

/-- The text of a number scans back as the number: after its sign by the scanner of negative
numbers, or from its first digit by the scanner of the others. -/
def Scans (n : Number) : Prop :=
  (∃ body p p', Text.Utf8.encode n.text = 0x2D :: body ∧
    Scalar.number false body p = .ok (n, [], p')) ∨
  (∃ b r p p', Text.Utf8.encode n.text = b :: r ∧ isDigit b = true ∧
    Scalar.number true (b :: r) p = .ok (n, [], p'))

/-- The decoder reads the text of the number as the number. -/
def ReadsBack (n : Number) : Prop := Value.decode (Text.Utf8.encode n.text) = .ok (.number n)

theorem encode_toString_nat (m : Nat) :
    Text.Utf8.encode (toString m) = asciiOctets (Nat.toDigits 10 m) := by
  rw [Text.Utf8.encode, Nat.toString_eq_repr, Nat.toList_repr]
  exact encode_of_isDigit fun c hc => Nat.isDigit_of_mem_toDigits (by decide) (by decide) hc

theorem head_asciiOctets_toDigits (m : Nat) :
    ∃ b r, asciiOctets (Nat.toDigits 10 m) = b :: r ∧ isDigit b = true := by
  obtain ⟨c, cs, h⟩ := List.exists_cons_of_ne_nil (Nat.toDigits_ne_nil (n := m) (b := 10))
  have hc : c.isDigit = true :=
    Nat.isDigit_of_mem_toDigits (by decide) (by decide) (h ▸ List.mem_cons_self)
  exact ⟨c.toNat.toUInt8, asciiOctets cs, by simp [asciiOctets, h], isDigit_toUInt8 hc⟩

/-- The text of an integer in range scans back as the integer. -/
theorem scans_of_inRange {n : Number} (h : n.InRange) (hn : ∀ x, n ≠ .float x) : n.Scans := by
  cases n with
  | unsigned m =>
    obtain ⟨p', hp'⟩ := number_toDigits true (show m < Nat.pow 2 64 from h) Pos.start
    obtain ⟨b, r, hbr, hb⟩ := head_asciiOctets_toDigits m
    refine .inr ⟨b, r, Pos.start, p', ?_, hb, ?_⟩
    · rw [text, encode_toString_nat, hbr]
    · rw [← hbr]
      exact hp'
  | signed m =>
    obtain ⟨hlo, hneg⟩ := h
    have h63 : Nat.pow 2 63 < Nat.pow 2 64 := Nat.pow_lt_pow_right (by decide) (by decide)
    have hnat : m.natAbs < Nat.pow 2 64 := by omega
    obtain ⟨p', hp'⟩ := number_toDigits false hnat Pos.start
    have hval : integerValue false m.natAbs = .signed m := by
      have hm : -(m.natAbs : Int) = m := by omega
      simp only [integerValue, Bool.false_eq_true, if_false, hm]
      rw [if_neg (by omega)]
    have htext : Text.Utf8.encode (text (.signed m)) =
        0x2D :: asciiOctets (Nat.toDigits 10 m.natAbs) := by
      have hrepr : toString m = "-" ++ toString m.natAbs := by
        rw [Int.toString_eq_repr, Int.repr_eq_if, if_neg (by omega), Nat.toString_eq_repr]
        congr 2
        omega
      have hd := encode_toString_nat m.natAbs
      rw [Text.Utf8.encode] at hd
      rw [text, hrepr, Text.Utf8.encode, String.toList_append, List.flatMap_append, hd]
      rfl
    exact .inl ⟨_, Pos.start, p', htext, hval ▸ hp'⟩
  | float x => exact absurd rfl (hn x)

/-- No octet of a number's text is a blank. -/
theorem not_blank_of_mem_text {n : Number} {b : UInt8} (hb : b ∈ Text.Utf8.encode n.text) :
    ¬(b = 0x20 ∨ b = 0x0A ∨ b = 0x09 ∨ b = 0x0D) := by
  obtain ⟨c, hc, hbc⟩ := List.mem_flatMap.1 hb
  intro hbl
  have hlt : b.toNat < 0x80 := by rcases hbl with rfl | rfl | rfl | rfl <;> decide
  have he := Text.Utf8.toNat_eq_of_mem_encodeChar hbc hlt
  have hc' : c.toNat = 32 ∨ c.toNat = 10 ∨ c.toNat = 9 ∨ c.toNat = 13 := by
    rcases hbl with rfl | rfl | rfl | rfl <;> simp_all
  rcases numberChar_of_mem_text hc with (hd | rfl | rfl | rfl | rfl) | rfl | rfl | rfl
  · have := toNat_of_isDigit hd
    omega
  all_goals simp at hc'

/-- A number the decoder reads back from its text scans back from it: the text is read as a
tree, which starts with a sign or a digit, and the scanner stops at the end of the text since no
octet of a number's text is a blank. -/
theorem scans_of_readsBack {n : Number} (h : n.ReadsBack) : n.Scans := by
  obtain ⟨c', hv, hend⟩ := decodeWith_eq_ok_iff.1 h
  obtain ⟨t, ht, htv⟩ := tree_of_value (Cursor.start_within _).fuel hv
  obtain rfl : t = .number n := by
    cases t <;> simp_all [Tree.toValue]
  obtain ⟨b, hb, hat⟩ := tree_succ_inv ht
  -- the scanner stops inside the text; where it stops, no blank can hide the end
  have hstop : ∀ {l : List UInt8}, l <:+ Text.Utf8.encode n.text → c'.rest <:+ l → c'.rest = [] := by
    intro l hl hr
    rcases hc : c'.rest with _ | ⟨x, r⟩
    · rfl
    · have hx : x ∈ Text.Utf8.encode n.text := hl.subset (hr.subset (hc ▸ List.mem_cons_self))
      rw [Cursor.skipBlanks_of_head hc (not_blank_of_mem_text hx), hc] at hend
      cases hend
  rcases hbytes : Text.Utf8.encode n.text with _ | ⟨b₀, r₀⟩
  · simp [hbytes, Cursor.start, Cursor.skipBlanks, Reader.skipBlank] at hb
  have hskip : (Cursor.start (Text.Utf8.encode n.text)).skipBlanks =
      Cursor.start (Text.Utf8.encode n.text) :=
    Cursor.skipBlanks_of_head hbytes (not_blank_of_mem_text (hbytes ▸ List.mem_cons_self))
  rw [hskip] at hb hat
  simp only [Cursor.start, hbytes, List.head?_cons, Option.some.injEq] at hb
  subst hb
  rcases treeAt_startsWith hat with hminus | hdigit
  · -- a sign, then the scanner of negative numbers
    subst hminus
    rw [treeAt_minus, exec_bind_of_ok (exec_eat _)] at hat
    obtain ⟨x, c₁, hx, hp⟩ := exec_bind_ok_inv hat
    obtain ⟨hxn, rfl⟩ := exec_pure_ok_inv hp
    obtain rfl : x = n := Value.number.inj (congrArg Tree.toValue hxn)
    obtain ⟨hs, hc⟩ := scan_ok hx
    simp only [Cursor.start, hbytes, Cursor.advance] at hs
    have hnil := hstop (hbytes ▸ List.suffix_cons _ _) (by
      rcases r₀ with _ | ⟨b₁, r₁⟩
      · simp [Scalar.number] at hs
      · exact Scalar.skipNumber_consumes (Scalar.skip_number hs) |>.trans (List.suffix_cons _ _))
    rw [hnil] at hs
    exact .inl ⟨r₀, _, _, hbytes, hs⟩
  · -- a digit, read by the scanner from there
    rw [treeAt_digit _ _ hdigit] at hat
    obtain ⟨x, c₁, hx, hp⟩ := exec_bind_ok_inv hat
    obtain ⟨hxn, rfl⟩ := exec_pure_ok_inv hp
    obtain rfl : x = n := Value.number.inj (congrArg Tree.toValue hxn)
    obtain ⟨hs, hc⟩ := scan_ok hx
    simp only [Cursor.start, hbytes] at hs
    have hnil := hstop (List.suffix_refl _) (by
      rw [hbytes]
      exact Scalar.skipNumber_consumes (Scalar.skip_number hs) |>.trans (List.suffix_cons _ _))
    rw [hnil] at hs
    exact .inr ⟨b₀, r₀, _, _, hbytes, hdigit, hs⟩

end Number

/-! ### The octets of a compact text -/

namespace Value

open Text.Utf8 (encode encode_append)

/-- The octets of items after an array's opening bracket (`first`) or after an item. -/
def itemsOctets : Bool → List Value → List UInt8
  | _, [] => []
  | true, v :: vs => encode v.compact ++ itemsOctets false vs
  | false, v :: vs => 0x2C :: (encode v.compact ++ itemsOctets false vs)

/-- The octets of fields after an object's opening brace (`first`) or after a field. -/
def fieldsOctets : Bool → List (String × Value) → List UInt8
  | _, [] => []
  | true, (k, v) :: fs => encode (quote k ++ ":" ++ v.compact) ++ fieldsOctets false fs
  | false, (k, v) :: fs => 0x2C :: (encode (quote k ++ ":" ++ v.compact) ++ fieldsOctets false fs)

theorem encode_intercalate_items : ∀ (v : Value) (vs : List Value),
    encode (",".intercalate (compactItems (v :: vs))) = encode v.compact ++ itemsOctets false vs
  | v, [] => by simp [compactItems, itemsOctets]
  | v, w :: ws => by
    rw [compactItems, compactItems, String.intercalate_cons_cons, encode_append, encode_append,
      ← compactItems, encode_intercalate_items w ws, List.append_assoc]
    rfl

theorem encode_intercalate_fields : ∀ (f : String × Value) (fs : List (String × Value)),
    encode (",".intercalate (compactFields (f :: fs))) =
      encode (quote f.1 ++ ":" ++ f.2.compact) ++ fieldsOctets false fs
  | (k, v), [] => by simp [compactFields, fieldsOctets]
  | (k, v), (k', w) :: ws => by
    have hcomma : encode "," = [0x2C] := rfl
    rw [compactFields, compactFields, String.intercalate_cons_cons, encode_append, encode_append,
      ← compactFields, encode_intercalate_fields (k', w) ws, hcomma, List.append_assoc,
      List.singleton_append, fieldsOctets]

theorem encode_compact_array (vs : List Value) :
    encode (Value.array vs).compact = 0x5B :: (itemsOctets true vs ++ [0x5D]) := by
  rcases vs with _ | ⟨v, vs⟩
  · rfl
  · rw [compact, encode_append, encode_append, encode_intercalate_items]
    rfl

theorem encode_compact_object (fs : List (String × Value)) :
    encode (Value.object fs).compact = 0x7B :: (fieldsOctets true fs ++ [0x7D]) := by
  rcases fs with _ | ⟨f, fs⟩
  · rfl
  · rw [compact, encode_append, encode_append, encode_intercalate_fields]
    rfl

theorem encode_field (k : String) (v : Value) :
    encode (quote k ++ ":" ++ v.compact) =
      0x22 :: (Scalar.escapedOctets k ++ 0x22 :: 0x3A :: encode v.compact) := by
  rw [encode_append, encode_append, Scalar.encode_quote]
  simp
  rfl

/-- The compact text of a value whose numbers scan back starts with an octet that is no blank
and does not close an array. -/
theorem head_compact (v : Value) (h : ∀ x ∈ v.numbers, x.Scans) :
    ∃ b r, encode v.compact = b :: r ∧ ¬(b = 0x20 ∨ b = 0x0A ∨ b = 0x09 ∨ b = 0x0D) ∧
      b ≠ 0x5D := by
  cases v with
  | null => exact ⟨_, _, rfl, by decide, by decide⟩
  | bool b => cases b <;> exact ⟨_, _, rfl, by decide, by decide⟩
  | number x =>
    rcases h x (by simp [numbers]) with ⟨body, -, -, htext, -⟩ | ⟨b, r, -, -, htext, hb, -⟩
    · exact ⟨_, _, htext, by decide, by decide⟩
    · have hr : 0x30 ≤ b.toNat ∧ b.toNat ≤ 0x39 := by
        simpa [Scalar.isDigit, UInt8.le_iff_toNat_le] using hb
      refine ⟨b, r, htext, ?_, ?_⟩
      · rintro (rfl | rfl | rfl | rfl) <;> simp at hr
      · rintro rfl
        simp at hr
  | string s =>
    refine ⟨0x22, Scalar.escapedOctets s ++ [0x22], ?_, by decide, by decide⟩
    rw [show (Value.string s).compact = quote s from rfl, Scalar.encode_quote, List.cons_append]
  | array vs => exact ⟨_, _, encode_compact_array vs, by decide, by decide⟩
  | object fs => exact ⟨_, _, encode_compact_object fs, by decide, by decide⟩

end Value

namespace Scalar

theorem endsNumber_of_head {b : UInt8} {r : List UInt8} (hb : b = 0x2C ∨ b = 0x5D ∨ b = 0x7D) :
    EndsNumber (b :: r) := by
  rcases hb with rfl | rfl | rfl <;> exact ⟨by decide, by decide, by decide, by decide⟩

end Scalar

/-! ### Reading a compact text -/

namespace Reader

section Steps

variable {l r : List UInt8} {b : UInt8} {p : Pos} {d k : Nat}

theorem exec_eat_cons : eat.exec ⟨b :: r, p, d, k⟩ = (.ok (), ⟨r, p.step b, d, k⟩) := rfl

theorem exec_word_append (w : List UInt8) (r : List UInt8) (p : Pos) :
    ∃ p', (word w).exec ⟨w ++ r, p, d, k⟩ = (.ok (), ⟨r, p', d, k⟩) := by
  induction w generalizing p with
  | nil => exact ⟨p, rfl⟩
  | cons x ws ih =>
    obtain ⟨p', hp'⟩ := ih (p.step x)
    refine ⟨p', ?_⟩
    unfold word
    rw [exec_bind, exec_next]
    simp only [List.cons_append, List.head?_cons]
    exact hp'

theorem exec_number_of_scan {positive : Bool} {x : Number} {r' : List UInt8} {p' : Pos}
    (h : Scalar.number positive r p = .ok (x, r', p')) :
    (number positive).exec ⟨r, p, d, k⟩ = (.ok x, ⟨r', p', d, k⟩) :=
  exec_scan_of_ok h

theorem exec_string_of_scan {s : String} {r' : List UInt8} {p' : Pos}
    (h : Scalar.string k r p = .ok (s, r', p')) :
    string.exec ⟨r, p, d, k⟩ = (.ok s, ⟨r', p', d, k⟩) := by
  rw [exec_string]
  exact exec_scan_of_ok h

theorem exec_tree_head {n : Nat} (hl : l = b :: r)
    (hb : ¬(b = 0x20 ∨ b = 0x0A ∨ b = 0x09 ∨ b = 0x0D)) :
    (tree (n + 1)).exec ⟨l, p, d, k⟩ =
      (treeAt (treeItems n true) (treeFields n true) b).exec ⟨l, p, d, k⟩ := by
  have hs := Cursor.skipBlanks_of_head (c := ⟨l, p, d, k⟩) hl hb
  rw [exec_tree_succ_of_head (by rw [hs, hl]; rfl), hs]

theorem exec_itemStart_item (hl : l = b :: r) (hb : ¬(b = 0x20 ∨ b = 0x0A ∨ b = 0x09 ∨ b = 0x0D))
    (h5D : b ≠ 0x5D) : (itemStart true).exec ⟨l, p, d, k⟩ = (.ok true, ⟨l, p, d, k⟩) := by
  have hs := Cursor.skipBlanks_of_head (c := ⟨l, p, d, k⟩) hl hb
  unfold itemStart
  rw [exec_bind, exec_blank, hs]
  subst hl
  simp only [List.head?_cons]
  split <;> simp_all

theorem exec_itemStart_next (hl : l = b :: r)
    (hb : ¬(b = 0x20 ∨ b = 0x0A ∨ b = 0x09 ∨ b = 0x0D)) (h5D : b ≠ 0x5D) :
    (itemStart false).exec ⟨0x2C :: l, p, d, k⟩ = (.ok true, ⟨l, p.step 0x2C, d, k⟩) := by
  have hs := Cursor.skipBlanks_of_head (c := ⟨l, p.step 0x2C, d, k⟩) hl hb
  have hc := Cursor.skipBlanks_of_head (c := ⟨0x2C :: l, p, d, k⟩) rfl (by decide)
  unfold itemStart
  rw [exec_bind, exec_blank, hc]
  simp only [List.head?_cons, Bool.false_eq_true, if_false]
  rw [exec_bind_of_ok exec_eat_cons, exec_bind, exec_blank, hs]
  subst hl
  simp only [List.head?_cons]
  rfl

theorem exec_itemStart_close (first : Bool) :
    (itemStart first).exec ⟨0x5D :: r, p, d, k⟩ = (.ok false, ⟨0x5D :: r, p, d, k⟩) := rfl

theorem exec_keyStart_first {s : String} {c' : Cursor}
    (hs : string.exec ⟨r, p.step 0x22, d, k⟩ = (.ok s, c')) :
    (keyStart true).exec ⟨0x22 :: r, p, d, k⟩ = (.ok (some s), c') := by
  have h : (keyStart true).exec ⟨0x22 :: r, p, d, k⟩ =
      (string >>= fun s => pure (some s)).exec ⟨r, p.step 0x22, d, k⟩ := rfl
  rw [h, exec_bind_of_ok hs]
  rfl

theorem exec_keyStart_next {s : String} {c' : Cursor}
    (hs : string.exec ⟨r, (p.step 0x2C).step 0x22, d, k⟩ = (.ok s, c')) :
    (keyStart false).exec ⟨0x2C :: 0x22 :: r, p, d, k⟩ = (.ok (some s), c') := by
  have h : (keyStart false).exec ⟨0x2C :: 0x22 :: r, p, d, k⟩ =
      (string >>= fun s => pure (some s)).exec ⟨r, (p.step 0x2C).step 0x22, d, k⟩ := rfl
  rw [h, exec_bind_of_ok hs]
  rfl

theorem exec_keyStart_close (first : Bool) :
    (keyStart first).exec ⟨0x7D :: r, p, d, k⟩ = (.ok none, ⟨0x7D :: r, p, d, k⟩) := rfl

theorem exec_colon_head : colon.exec ⟨0x3A :: r, p, d, k⟩ = (.ok (), ⟨r, p.step 0x3A, d, k⟩) :=
  rfl

theorem exec_closeArray_head :
    closeArray.exec ⟨0x5D :: r, p, d, k⟩ = (.ok (), ⟨r, p.step 0x5D, d, k⟩) := rfl

theorem exec_closeObject_head :
    closeObject.exec ⟨0x7D :: r, p, d, k⟩ = (.ok (), ⟨r, p.step 0x7D, d, k⟩) := rfl

end Steps

end Reader

namespace Reader

open Value CiClient.Json.Tree Scalar
open Text.Utf8 (encode)

mutual
/-- The tree reader reads the compact text of a canonical value, followed by anything that ends
a number, as the value's own tree, given that each number's text scans back. The cursor keeps its
nesting count and budget; only the text is read. -/
theorem tree_compact : ∀ (v : Value) {d : Nat} (n : Nat) (rest : List UInt8) (p : Pos) (k : Nat),
    v.Canonical d → (∀ x ∈ v.numbers, x.Scans) → EndsNumber rest →
    (encode v.compact ++ rest).length < k → 2 * (encode v.compact ++ rest).length < n →
    ∃ p', (tree n).exec ⟨encode v.compact ++ rest, p, d, k⟩ = (.ok (ofValue v), ⟨rest, p', d, k⟩)
  | .null, d, n, rest, p, k, _, _, _, _, hn => by
    obtain ⟨n, rfl⟩ : ∃ m, n = m + 1 := ⟨n - 1, by omega⟩
    obtain ⟨p', hp'⟩ := exec_word_append (d := d) (k := k) [0x75, 0x6C, 0x6C] rest (p.step 0x6E)
    refine ⟨p', ?_⟩
    rw [show encode Value.null.compact ++ rest = 0x6E :: ([0x75, 0x6C, 0x6C] ++ rest) from rfl,
      exec_tree_head rfl (by decide), treeAt_null, exec_bind_of_ok exec_eat_cons]
    rw [exec_bind_of_ok (x := nullRest) hp']
    rfl
  | .bool true, d, n, rest, p, k, _, _, _, _, hn => by
    obtain ⟨n, rfl⟩ : ∃ m, n = m + 1 := ⟨n - 1, by omega⟩
    obtain ⟨p', hp'⟩ := exec_word_append (d := d) (k := k) [0x72, 0x75, 0x65] rest (p.step 0x74)
    refine ⟨p', ?_⟩
    rw [show encode (Value.bool true).compact ++ rest = 0x74 :: ([0x72, 0x75, 0x65] ++ rest) from rfl,
      exec_tree_head rfl (by decide), treeAt_true, exec_bind_of_ok exec_eat_cons]
    rw [exec_bind_of_ok (x := trueRest) hp']
    rfl
  | .bool false, d, n, rest, p, k, _, _, _, _, hn => by
    obtain ⟨n, rfl⟩ : ∃ m, n = m + 1 := ⟨n - 1, by omega⟩
    obtain ⟨p', hp'⟩ :=
      exec_word_append (d := d) (k := k) [0x61, 0x6C, 0x73, 0x65] rest (p.step 0x66)
    refine ⟨p', ?_⟩
    rw [show encode (Value.bool false).compact ++ rest =
        0x66 :: ([0x61, 0x6C, 0x73, 0x65] ++ rest) from rfl,
      exec_tree_head rfl (by decide), treeAt_false, exec_bind_of_ok exec_eat_cons]
    rw [exec_bind_of_ok (x := falseRest) hp']
    rfl
  | .number x, d, n, rest, p, k, _, hnum, hend, _, hn => by
    obtain ⟨n, rfl⟩ : ∃ m, n = m + 1 := ⟨n - 1, by omega⟩
    have htext : encode (Value.number x).compact = encode x.text := rfl
    rcases hnum x (by simp [numbers]) with ⟨body, q, q', hx, hs⟩ | ⟨b, r, q, q', hx, hb, hs⟩
    · -- a sign, then the scanner of negative numbers up to where the number ends
      obtain ⟨p', hp'⟩ := detached_number false body q x q' hs rest (p.step 0x2D) hend
      refine ⟨p', ?_⟩
      rw [htext, hx, List.cons_append, exec_tree_head rfl (by decide), treeAt_minus,
        exec_bind_of_ok exec_eat_cons, exec_bind_of_ok (exec_number_of_scan hp')]
      rfl
    · obtain ⟨p', hp'⟩ := detached_number true (b :: r) q x q' hs rest p hend
      have hr : 0x30 ≤ b.toNat ∧ b.toNat ≤ 0x39 := by
        simpa [isDigit, UInt8.le_iff_toNat_le] using hb
      have hblank : ¬(b = 0x20 ∨ b = 0x0A ∨ b = 0x09 ∨ b = 0x0D) := by
        rintro (rfl | rfl | rfl | rfl) <;> simp at hr
      refine ⟨p', ?_⟩
      rw [htext, hx, exec_tree_head List.cons_append hblank, treeAt_digit _ _ hb,
        exec_bind_of_ok (exec_number_of_scan hp')]
      rfl
  | .string s, d, n, rest, p, k, _, _, _, hk, hn => by
    obtain ⟨n, rfl⟩ : ∃ m, n = m + 1 := ⟨n - 1, by omega⟩
    have htext : encode (Value.string s).compact ++ rest =
        0x22 :: (escapedOctets s ++ 0x22 :: rest) := by
      rw [show (Value.string s).compact = quote s from rfl, encode_quote]
      simp
    rw [htext] at hk ⊢
    obtain ⟨p', hp'⟩ := string_escaped s rest k (p.step 0x22) (by simp at hk; omega)
    refine ⟨p', ?_⟩
    rw [exec_tree_head rfl (by decide), treeAt_string, exec_bind_of_ok exec_eat_cons,
      exec_bind_of_ok (exec_string_of_scan hp')]
    rfl
  | .array vs, d, n, rest, p, k, ⟨hd, hc⟩, hnum, _, hk, hn => by
    obtain ⟨n, rfl⟩ : ∃ m, n = m + 1 := ⟨n - 1, by omega⟩
    have htext : encode (Value.array vs).compact ++ rest =
        0x5B :: (itemsOctets true vs ++ 0x5D :: rest) := by
      rw [encode_compact_array]
      simp
    rw [htext] at hk hn ⊢
    simp only [List.length_cons, List.length_append] at hk hn
    -- the items are read one level down, then the bracket closes and the level comes back
    obtain ⟨p₁, h₁⟩ := treeItems_compact vs true n rest (p.step 0x5B) k hc hnum
      (by simp; omega) (by simp; omega)
    refine ⟨p₁.step 0x5D, ?_⟩
    rw [exec_tree_head rfl (by decide), treeAt_array,
      exec_nested_bind (c := ⟨0x5B :: (itemsOctets true vs ++ 0x5D :: rest), p, d, k⟩) Tree.array
        hd h₁ exec_closeArray_head, Nat.sub_add_cancel (Nat.le_of_lt hd)]
    rfl
  | .object fs, d, n, rest, p, k, ⟨hd, _, hc⟩, hnum, _, hk, hn => by
    obtain ⟨n, rfl⟩ : ∃ m, n = m + 1 := ⟨n - 1, by omega⟩
    have htext : encode (Value.object fs).compact ++ rest =
        0x7B :: (fieldsOctets true fs ++ 0x7D :: rest) := by
      rw [encode_compact_object]
      simp
    rw [htext] at hk hn ⊢
    simp only [List.length_cons, List.length_append] at hk hn
    obtain ⟨p₁, h₁⟩ := treeFields_compact fs true n rest (p.step 0x7B) k hc hnum
      (by simp; omega) (by simp; omega)
    refine ⟨p₁.step 0x7D, ?_⟩
    rw [exec_tree_head rfl (by decide), treeAt_object,
      exec_nested_bind (c := ⟨0x7B :: (fieldsOctets true fs ++ 0x7D :: rest), p, d, k⟩) Tree.object
        hd h₁ exec_closeObject_head, Nat.sub_add_cancel (Nat.le_of_lt hd)]
    rfl

/-- The items of an array, after its opening bracket or after an item, up to its closing
bracket. -/
theorem treeItems_compact : ∀ (vs : List Value) (first : Bool) {d : Nat} (n : Nat)
    (rest : List UInt8) (p : Pos) (k : Nat), CanonicalItems d vs →
    (∀ x ∈ itemsNumbers vs, x.Scans) → (itemsOctets first vs ++ 0x5D :: rest).length < k →
    2 * (itemsOctets first vs ++ 0x5D :: rest).length + 1 < n →
    ∃ p', (treeItems n first).exec ⟨itemsOctets first vs ++ 0x5D :: rest, p, d, k⟩ =
      (.ok (ofValues vs), ⟨0x5D :: rest, p', d, k⟩)
  | [], first, d, n, rest, p, k, _, _, _, hn => by
    obtain ⟨n, rfl⟩ : ∃ m, n = m + 1 := ⟨n - 1, by omega⟩
    refine ⟨p, ?_⟩
    rw [treeItems, show itemsOctets first [] = [] by cases first <;> rfl, List.nil_append,
      exec_bind_of_ok (exec_itemStart_close first)]
    rfl
  | v :: vs, first, d, n, rest, p, k, ⟨hv, hvs⟩, hnum, hk, hn => by
    obtain ⟨n, rfl⟩ : ∃ m, n = m + 1 := ⟨n - 1, by omega⟩
    simp only [itemsNumbers, List.mem_append] at hnum
    have hnv : ∀ x ∈ v.numbers, x.Scans := fun x hx => hnum x (.inl hx)
    obtain ⟨b, r, hbr, hblank, h5D⟩ := head_compact v hnv
    -- after the item comes a comma or the closing bracket: either ends a number
    have hend : EndsNumber (itemsOctets false vs ++ 0x5D :: rest) := by
      cases vs <;> exact endsNumber_of_head (by simp)
    -- the separator, if any, is read first; then the item and the items after it
    obtain ⟨c₁, hstart, htext⟩ : ∃ c₁ : Cursor,
        (itemStart first).exec ⟨itemsOctets first (v :: vs) ++ 0x5D :: rest, p, d, k⟩ =
          (.ok true, c₁) ∧ c₁ = ⟨encode v.compact ++ (itemsOctets false vs ++ 0x5D :: rest),
            c₁.pos, d, k⟩ := by
      cases first with
      | true =>
        refine ⟨_, exec_itemStart_item (b := b) (r := r ++ (itemsOctets false vs ++ 0x5D :: rest))
          (by simp [itemsOctets, hbr]) hblank h5D, ?_⟩
        simp [itemsOctets]
      | false =>
        refine ⟨_, exec_itemStart_next (b := b) (r := r ++ (itemsOctets false vs ++ 0x5D :: rest))
          (by simp [hbr]) hblank h5D, by simp⟩
    have hlen : (encode v.compact ++ (itemsOctets false vs ++ 0x5D :: rest)).length ≤
        (itemsOctets first (v :: vs) ++ 0x5D :: rest).length := by
      cases first <;> simp [itemsOctets]
    obtain ⟨p₁, h₁⟩ := tree_compact v n (itemsOctets false vs ++ 0x5D :: rest) c₁.pos k hv hnv
      hend (by omega) (by omega)
    have hlen' : (itemsOctets false vs ++ 0x5D :: rest).length + 1 ≤
        (itemsOctets first (v :: vs) ++ 0x5D :: rest).length := by
      cases first
      · simp [itemsOctets, hbr]
        omega
      · simp [itemsOctets, hbr]
    obtain ⟨p₂, h₂⟩ := treeItems_compact vs false n rest p₁ k hvs (fun x hx => hnum x (.inr hx))
      (by omega) (by omega)
    refine ⟨p₂, ?_⟩
    rw [treeItems, exec_bind_of_ok hstart, htext]
    simp only [if_true]
    rw [exec_bind_of_ok h₁, exec_bind_of_ok h₂]
    rfl

/-- The fields of an object, after its opening brace or after a field, up to its closing
brace. -/
theorem treeFields_compact : ∀ (fs : List (String × Value)) (first : Bool) {d : Nat} (n : Nat)
    (rest : List UInt8) (p : Pos) (k : Nat), CanonicalFields d fs →
    (∀ x ∈ fieldsNumbers fs, x.Scans) → (fieldsOctets first fs ++ 0x7D :: rest).length < k →
    2 * (fieldsOctets first fs ++ 0x7D :: rest).length + 1 < n →
    ∃ p', (treeFields n first).exec ⟨fieldsOctets first fs ++ 0x7D :: rest, p, d, k⟩ =
      (.ok (ofFields fs), ⟨0x7D :: rest, p', d, k⟩)
  | [], first, d, n, rest, p, k, _, _, _, hn => by
    obtain ⟨n, rfl⟩ : ∃ m, n = m + 1 := ⟨n - 1, by omega⟩
    refine ⟨p, ?_⟩
    rw [treeFields, show fieldsOctets first [] = [] by cases first <;> rfl, List.nil_append,
      exec_bind_of_ok (exec_keyStart_close first)]
    rfl
  | (key, v) :: fs, first, d, n, rest, p, k, ⟨hv, hfs⟩, hnum, hk, hn => by
    obtain ⟨n, rfl⟩ : ∃ m, n = m + 1 := ⟨n - 1, by omega⟩
    simp only [fieldsNumbers, List.mem_append] at hnum
    simp only [List.length_append, List.length_cons] at hk hn
    have hend : EndsNumber (fieldsOctets false fs ++ 0x7D :: rest) := by
      cases fs <;> exact endsNumber_of_head (by simp)
    -- the key is read as a string up to its closing quote, then the colon
    have hkey : ∀ q, (escapedOctets key).length < k → ∃ c₁ : Cursor,
        string.exec ⟨escapedOctets key ++ 0x22 :: 0x3A :: (encode v.compact ++
          (fieldsOctets false fs ++ 0x7D :: rest)), q, d, k⟩ = (.ok key, c₁) ∧
        c₁ = ⟨0x3A :: (encode v.compact ++ (fieldsOctets false fs ++ 0x7D :: rest)), c₁.pos, d, k⟩ := by
      intro q hq
      obtain ⟨q', hq'⟩ := string_escaped key _ k q hq
      exact ⟨_, exec_string_of_scan hq', rfl⟩
    have hlen : (escapedOctets key).length + 3 + (encode v.compact).length +
        (fieldsOctets false fs).length ≤ (fieldsOctets first ((key, v) :: fs)).length := by
      cases first <;> simp [fieldsOctets, encode_field] <;> omega
    obtain ⟨c₁, hs, hc₁⟩ := hkey (if first then p.step 0x22 else (p.step 0x2C).step 0x22)
      (by omega)
    have hstart : (keyStart first).exec ⟨fieldsOctets first ((key, v) :: fs) ++ 0x7D :: rest, p, d, k⟩ =
        (.ok (some key), c₁) := by
      cases first with
      | true =>
        simp only [fieldsOctets, encode_field, List.cons_append, List.append_assoc] at hs ⊢
        exact exec_keyStart_first hs
      | false =>
        simp only [fieldsOctets, encode_field, List.cons_append, List.append_assoc] at hs ⊢
        exact exec_keyStart_next hs
    obtain ⟨p₁, h₁⟩ := tree_compact v n (fieldsOctets false fs ++ 0x7D :: rest) (c₁.pos.step 0x3A)
      k hv (fun x hx => hnum x (.inl hx)) hend (by simp at hlen ⊢; omega) (by simp at hlen ⊢; omega)
    obtain ⟨p₂, h₂⟩ := treeFields_compact fs false n rest p₁ k hfs (fun x hx => hnum x (.inr hx))
      (by simp at hlen ⊢; omega) (by simp at hlen ⊢; omega)
    refine ⟨p₂, ?_⟩
    rw [treeFields, exec_bind_of_ok hstart]
    dsimp only
    rw [hc₁, exec_bind_of_ok exec_colon_head, exec_bind_of_ok h₁, exec_bind_of_ok h₂]
    rfl
end

end Reader

namespace Value

open Text.Utf8 (encode)

mutual
theorem inRange_of_mem_numbers : ∀ {d : Nat} (v : Value), v.Canonical d →
    ∀ x ∈ v.numbers, x.InRange
  | _, .null, _, _, hx => by simp [numbers] at hx
  | _, .bool _, _, _, hx => by simp [numbers] at hx
  | _, .number _, h, _, hx => by
    rw [show Value.numbers (.number _) = [_] from rfl, List.mem_singleton] at hx
    exact hx ▸ h
  | _, .string _, _, _, hx => by simp [numbers] at hx
  | _, .array vs, ⟨_, h⟩, x, hx => inRange_of_mem_itemsNumbers vs h x hx
  | _, .object fs, ⟨_, _, h⟩, x, hx => inRange_of_mem_fieldsNumbers fs h x hx

theorem inRange_of_mem_itemsNumbers : ∀ {d : Nat} (vs : List Value), CanonicalItems d vs →
    ∀ x ∈ itemsNumbers vs, x.InRange
  | _, [], _, _, hx => by simp [itemsNumbers] at hx
  | _, v :: vs, ⟨hv, hvs⟩, x, hx => by
    rcases List.mem_append.1 hx with hx | hx
    · exact inRange_of_mem_numbers v hv x hx
    · exact inRange_of_mem_itemsNumbers vs hvs x hx

theorem inRange_of_mem_fieldsNumbers : ∀ {d : Nat} (fs : List (String × Value)),
    CanonicalFields d fs → ∀ x ∈ fieldsNumbers fs, x.InRange
  | _, [], _, _, hx => by simp [fieldsNumbers] at hx
  | _, (_, v) :: fs, ⟨hv, hfs⟩, x, hx => by
    rcases List.mem_append.1 hx with hx | hx
    · exact inRange_of_mem_numbers v hv x hx
    · exact inRange_of_mem_fieldsNumbers fs hfs x hx
end

/-- The numbers of a canonical value scan back from their text when its floats read back: its
integers are in range. -/
theorem scans_of_canonical {d : Nat} {v : Value} (hc : v.Canonical d)
    (hfl : ∀ x, Number.float x ∈ v.numbers → (Number.float x).ReadsBack) :
    ∀ x ∈ v.numbers, x.Scans := by
  intro x hx
  cases x with
  | float f => exact Number.scans_of_readsBack (hfl f hx)
  | _ => exact Number.scans_of_inRange (inRange_of_mem_numbers v hc _ hx) (by simp)

end Value

namespace Reader

open Text.Utf8 (encode)

/-- The compact text of a value the value reader could give at the start of a text reads, as a
whole text, as the value's tree, when its floats read back. -/
theorem decodeWith_tree_compact {v : Value} (hc : v.Canonical 128)
    (hfl : ∀ x, Number.float x ∈ v.numbers → (Number.float x).ReadsBack) :
    decodeWith tree (encode v.compact) = .ok (Tree.ofValue v) := by
  obtain ⟨p', h⟩ := tree_compact v (fuelFor (encode v.compact).length) [] Pos.start
    ((encode v.compact).length + 1) hc (Value.scans_of_canonical hc hfl) trivial (by simp)
    (by simp [fuelFor])
  rw [List.append_nil] at h
  exact Decode.decodeWith_eq_ok_iff.2 ⟨_, h, rfl⟩

end Reader

end CiClient.Json
