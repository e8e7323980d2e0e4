import CiClient.Proofs.LenientScan
import CiClient.Proofs.ResponseDiagnostics
import CiClient.Json.Print
/-!
# Scalars read back from their text

The number scanner of `Json.Scalar` stops at the first octet that cannot go on with the number
it reads. So a complete number reads the same with anything after it that ends a number, and
from any position: `Detached` says this of a scanner, and this module shows it of each state of
the number scanner, from `finish` back to `number`. The decimal text of an integer in range
reads back as that integer (`number_toDigits`), and every number the scanner gives is in range
(`inRange_number`).

A string as `quote` writes it reads back as itself (`string_escaped`): each character is read in
one step of the string reader, an escape as the octets it stands for (`stringOctets_escapeChar`).
-/

namespace CiClient.Json

/-- A number the scanner can give: an unsigned integer below `2 ^ 64`, a negative integer not
below `-2 ^ 63`, or any float. -/
def Number.InRange : Number → Prop
  | .unsigned n => n < Nat.pow 2 64
  | .signed n => -(Nat.pow 2 63 : Int) ≤ n ∧ n < 0
  | .float _ => True

end CiClient.Json

namespace CiClient.Json.Scalar

/-- After a complete number: the end of the text, or an octet that is no digit, decimal point or
exponent mark. -/
def EndsNumber : List UInt8 → Prop
  | [] => True
  | d :: _ => isDigit d = false ∧ d ≠ 0x2E ∧ d ≠ 0x65 ∧ d ≠ 0x45

/-- A scanner that reads a complete number reads the same number with anything that ends a
number after it, from any position. -/
def Detached (f : List UInt8 → Pos → Scan Number) : Prop :=
  ∀ l p n p', f l p = .ok (n, [], p') → ∀ rest q, EndsNumber rest →
    ∃ q', f (l ++ rest) q = .ok (n, rest, q')

theorem finish_ok {positive : Bool} {significand : Nat} {exponent : Int} {r r' : List UInt8}
    {p p' : Pos} {n : Number} (h : finish positive significand exponent (r, p) = .ok (n, r', p'))
    (r₂ : List UInt8) (q : Pos) : finish positive significand exponent (r₂, q) = .ok (n, r₂, q) := by
  unfold finish at h ⊢
  split at h
  · cases h
    rfl
  · cases h

theorem detached_exponentOverflow (positive zero positiveExp : Bool) :
    Detached (exponentOverflow positive zero positiveExp) := by
  intro l p n p' h rest q hrest
  induction l generalizing p q with
  | nil =>
    simp only [exponentOverflow] at h
    split_ifs at h with hz
    cases h
    rcases rest with _ | ⟨d, r⟩
    · exact ⟨q, by simp [exponentOverflow, hz]⟩
    · exact ⟨q, by simp [exponentOverflow, hz, hrest.1]⟩
  | cons b l ih =>
    simp only [exponentOverflow] at h
    split_ifs at h with hz hb
    · obtain ⟨q', hq⟩ := ih _ h (q.step b)
      exact ⟨q', by simp [exponentOverflow, hz, hb, hq]⟩
    · cases h

theorem detached_exponentDigits (positive : Bool) (significand : Nat) (start : Int)
    (positiveExp : Bool) (acc : Nat) :
    Detached (exponentDigits positive significand start positiveExp acc) := by
  intro l p n p' h rest q hrest
  induction l generalizing acc p q with
  | nil =>
    simp only [exponentDigits] at h
    rcases rest with _ | ⟨d, r⟩
    · exact ⟨q, by simp only [List.nil_append, exponentDigits]; exact finish_ok h _ _⟩
    · refine ⟨q, ?_⟩
      simp only [List.nil_append, exponentDigits, hrest.1, Bool.false_eq_true, if_false]
      exact finish_ok h _ _
  | cons b l ih =>
    simp only [exponentDigits] at h
    split_ifs at h with hb ho
    · obtain ⟨q', hq⟩ := detached_exponentOverflow _ _ _ _ _ _ _ h rest (q.step b) hrest
      exact ⟨q', by simp [exponentDigits, hb, ho, hq]⟩
    · obtain ⟨q', hq⟩ := ih _ _ h (q.step b)
      exact ⟨q', by simp [exponentDigits, hb, ho, hq]⟩
    · cases finish_rest h
    · cases finish_rest h

theorem detached_exponentPart (positive : Bool) (significand : Nat) (start : Int) :
    Detached (exponentPart positive significand start) := by
  intro l p n p' h rest q hrest
  -- the exponent mark and an optional sign are read the same way; then digits end the number
  have digits : ∀ (pe : Bool) (b : UInt8) (r₁ : List UInt8) (pp qq : Pos),
      (if isDigit b then exponentDigits positive significand start pe (digit b) r₁ (pp.step b)
        else Except.error (Error.flawAt .invalidNumber (pp.step b))) = .ok (n, [], p') →
      ∃ q', (if isDigit b then
          exponentDigits positive significand start pe (digit b) (r₁ ++ rest) (qq.step b)
        else Except.error (Error.flawAt .invalidNumber (qq.step b))) = .ok (n, rest, q') := by
    intro pe b r₁ pp qq hd
    split_ifs at hd ⊢
    exact detached_exponentDigits _ _ _ _ _ _ _ _ _ hd rest _ hrest
  rcases l with _ | ⟨mark, _ | ⟨s, r₁⟩⟩
  · cases h
  · cases h
  · simp only [exponentPart, List.cons_append] at h ⊢
    by_cases h43 : s = 0x2B
    · subst h43
      rcases r₁ with _ | ⟨b, r₂⟩
      · cases h
      · exact digits true b r₂ _ _ h
    · by_cases h45 : s = 0x2D
      · subst h45
        rcases r₁ with _ | ⟨b, r₂⟩
        · cases h
        · exact digits false b r₂ _ _ h
      · simp [h43, h45] at h ⊢
        exact digits true s r₁ _ _ h

theorem detached_skipDigitsThen (positive : Bool) (significand : Nat) (exponent : Int) :
    Detached (skipDigitsThen positive significand exponent) := by
  intro l p n p' h rest q hrest
  induction l generalizing p q with
  | nil =>
    simp only [skipDigitsThen] at h
    rcases rest with _ | ⟨d, r⟩
    · exact ⟨q, by simp only [List.nil_append, skipDigitsThen]; exact finish_ok h _ _⟩
    · refine ⟨q, ?_⟩
      simp only [List.nil_append, skipDigitsThen, hrest.1, hrest.2.2.1, hrest.2.2.2,
        Bool.false_eq_true, if_false, or_self]
      exact finish_ok h _ _
  | cons b l ih =>
    simp only [skipDigitsThen] at h
    split_ifs at h with hb he
    · obtain ⟨q', hq⟩ := ih _ h (q.step b)
      exact ⟨q', by simp [skipDigitsThen, hb, hq]⟩
    · obtain ⟨q', hq⟩ := detached_exponentPart _ _ _ _ _ _ _ h rest q hrest
      exact ⟨q', by simpa [skipDigitsThen, hb, he] using hq⟩
    · cases finish_rest h

theorem detached_fractionDigits (positive : Bool) (significand : Nat) (before after : Int) :
    Detached (fractionDigits positive significand before after) := by
  intro l p n p' h rest q hrest
  induction l generalizing significand after p q with
  | nil =>
    simp only [fractionDigits] at h
    split_ifs at h with ha
    rcases rest with _ | ⟨d, r⟩
    · exact ⟨q, by simp only [List.nil_append, fractionDigits, ha, if_false]; exact finish_ok h _ _⟩
    · refine ⟨q, ?_⟩
      simp only [List.nil_append, fractionDigits, hrest.1, hrest.2.2.1, hrest.2.2.2, ha,
        Bool.false_eq_true, if_false, or_self]
      exact finish_ok h _ _
  | cons b l ih =>
    simp only [fractionDigits] at h
    split_ifs at h with hb ho ha he
    · obtain ⟨q', hq⟩ := detached_skipDigitsThen _ _ _ _ _ _ _ h rest q hrest
      exact ⟨q', by simpa [fractionDigits, hb, ho] using hq⟩
    · obtain ⟨q', hq⟩ := ih _ _ _ h (q.step b)
      exact ⟨q', by simp [fractionDigits, hb, ho, hq]⟩
    · obtain ⟨q', hq⟩ := detached_exponentPart _ _ _ _ _ _ _ h rest q hrest
      exact ⟨q', by simpa [fractionDigits, hb, ha, he] using hq⟩
    · cases finish_rest h

theorem detached_longInteger (positive : Bool) (significand : Nat) (exponent : Int) :
    Detached (longInteger positive significand exponent) := by
  intro l p n p' h rest q hrest
  induction l generalizing exponent p q with
  | nil =>
    simp only [longInteger] at h
    rcases rest with _ | ⟨d, r⟩
    · exact ⟨q, by simp only [List.nil_append, longInteger]; exact finish_ok h _ _⟩
    · refine ⟨q, ?_⟩
      simp only [List.nil_append, longInteger, hrest.1, hrest.2.1, hrest.2.2.1, hrest.2.2.2,
        Bool.false_eq_true, if_false, or_self]
      exact finish_ok h _ _
  | cons b l ih =>
    simp only [longInteger] at h
    split_ifs at h with hb hp he
    · obtain ⟨q', hq⟩ := ih _ _ h (q.step b)
      exact ⟨q', by simp [longInteger, hb, hq]⟩
    · subst hp
      obtain ⟨q', hq⟩ := detached_fractionDigits _ _ _ _ _ _ _ _ h rest (q.step 0x2E) hrest
      exact ⟨q', by simp [longInteger, hb, hq]⟩
    · obtain ⟨q', hq⟩ := detached_exponentPart _ _ _ _ _ _ _ h rest q hrest
      exact ⟨q', by simpa [longInteger, hb, hp, he] using hq⟩
    · cases finish_rest h

theorem detached_afterInteger (positive : Bool) (significand : Nat) :
    Detached (afterInteger positive significand) := by
  intro l p n p' h rest q hrest
  rcases l with _ | ⟨b, l⟩
  · simp only [afterInteger, Except.ok.injEq, Prod.mk.injEq] at h
    obtain ⟨rfl, -, -⟩ := h
    rcases rest with _ | ⟨d, r⟩
    · exact ⟨q, rfl⟩
    · exact ⟨q, by simp [afterInteger, hrest.2.1, hrest.2.2.1, hrest.2.2.2]⟩
  · simp only [afterInteger] at h
    split_ifs at h with hp he
    · subst hp
      obtain ⟨q', hq⟩ := detached_fractionDigits _ _ _ _ _ _ _ _ h rest (q.step 0x2E) hrest
      exact ⟨q', by simp [afterInteger, hq]⟩
    · obtain ⟨q', hq⟩ := detached_exponentPart _ _ _ _ _ _ _ h rest q hrest
      exact ⟨q', by simpa [afterInteger, hp, he] using hq⟩
    · simp at h

theorem detached_integerDigits (positive : Bool) (significand : Nat) :
    Detached (integerDigits positive significand) := by
  intro l p n p' h rest q hrest
  induction l generalizing significand p q with
  | nil =>
    simp only [integerDigits] at h
    obtain ⟨q', hq⟩ := detached_afterInteger _ _ _ _ _ _ h rest q hrest
    rcases rest with _ | ⟨d, r⟩
    · exact ⟨q', by simpa [integerDigits] using hq⟩
    · exact ⟨q', by simpa [integerDigits, hrest.1] using hq⟩
  | cons b l ih =>
    simp only [integerDigits] at h
    split_ifs at h with hb ho
    · obtain ⟨q', hq⟩ := detached_longInteger _ _ _ _ _ _ _ h rest q hrest
      exact ⟨q', by simpa [integerDigits, hb, ho] using hq⟩
    · obtain ⟨q', hq⟩ := ih _ _ h (q.step b)
      exact ⟨q', by simp [integerDigits, hb, ho, hq]⟩
    · obtain ⟨q', hq⟩ := detached_afterInteger _ _ _ _ _ _ h rest q hrest
      exact ⟨q', by simpa [integerDigits, hb] using hq⟩

theorem detached_number (positive : Bool) : Detached (number positive) := by
  intro l p n p' h rest q hrest
  rcases l with _ | ⟨b, r⟩
  · cases h
  · simp only [number] at h
    split_ifs at h with h0 hb
    · -- a leading zero: the number goes on only with a fraction or an exponent
      subst h0
      rcases r with _ | ⟨d, r⟩
      · obtain ⟨q', hq⟩ := detached_afterInteger _ _ _ _ _ _ h rest (q.step 0x30) hrest
        rcases rest with _ | ⟨e, r'⟩
        · exact ⟨q', by simpa [number] using hq⟩
        · exact ⟨q', by simpa [number, hrest.1] using hq⟩
      · simp only at h
        split_ifs at h with hd
        obtain ⟨q', hq⟩ := detached_afterInteger _ _ _ _ _ _ h rest (q.step 0x30) hrest
        exact ⟨q', by simpa [number, hd] using hq⟩
    · obtain ⟨q', hq⟩ := detached_integerDigits _ _ _ _ _ _ h rest (q.step b) hrest
      exact ⟨q', by simpa [number, h0, hb] using hq⟩

/-! ### Integers written in decimal -/

open Text.Utf8 (toNat_toUInt8_of_lt)

/-- The octets of ASCII characters. -/
def asciiOctets (cs : List Char) : List UInt8 := cs.map fun c => c.toNat.toUInt8

theorem toNat_of_isDigit {c : Char} (h : c.isDigit = true) : 48 ≤ c.toNat ∧ c.toNat ≤ 57 := by
  simpa using Char.isDigit_iff_toNat.1 h

theorem encode_of_isDigit {cs : List Char} (h : ∀ c ∈ cs, c.isDigit = true) :
    cs.flatMap Text.Utf8.encodeChar = asciiOctets cs := by
  induction cs with
  | nil => rfl
  | cons c cs ih =>
    have hc := toNat_of_isDigit (h c List.mem_cons_self)
    rw [List.flatMap_cons, Text.Utf8.encodeChar_of_lt (by omega),
      ih fun d hd => h d (List.mem_cons_of_mem _ hd)]
    rfl

theorem isDigit_toUInt8 {c : Char} (h : c.isDigit = true) : isDigit c.toNat.toUInt8 = true := by
  have hc := toNat_of_isDigit h
  simp only [isDigit, Bool.and_eq_true, decide_eq_true_eq, UInt8.le_iff_toNat_le,
    toNat_toUInt8_of_lt (show c.toNat < 256 by omega)]
  exact ⟨hc.1, hc.2⟩

theorem digit_toUInt8 {c : Char} (h : c.isDigit = true) : digit c.toNat.toUInt8 = c.toNat - 48 := by
  have hc := toNat_of_isDigit h
  rw [digit, toNat_toUInt8_of_lt (by omega)]

/-- Appending a digit overflows only when the result passes the limit. -/
theorem overflows_eq_false {acc d limit : Nat} (hd : d < 10) (h : acc * 10 + d ≤ limit) :
    overflows acc d limit = false := by
  simp only [overflows, Bool.and_eq_false_iff, Bool.or_eq_false_iff, decide_eq_false_iff_not]
  omega

theorem le_ofDigitChars (cs : List Char) (init : Nat) : init ≤ Nat.ofDigitChars 10 cs init := by
  rw [Nat.ofDigitChars_eq_ofDigitChars_zero]
  calc init ≤ 10 ^ cs.length * init := Nat.le_mul_of_pos_left init (Nat.pow_pos_iff.2 (Or.inl (by decide)))
    _ ≤ _ := Nat.le_add_right _ _

theorem ofDigitChars_cons_digit {c : Char} (h : c.isDigit = true) (cs : List Char) (acc : Nat) :
    Nat.ofDigitChars 10 (c :: cs) acc = Nat.ofDigitChars 10 cs (acc * 10 + digit c.toNat.toUInt8) := by
  rw [Nat.ofDigitChars_cons, digit_toUInt8 h, Nat.mul_comm]
  rfl

/-- Digits that keep the value below `2 ^ 64` are read one by one into the significand. -/
theorem integerDigits_digits (positive : Bool) (rest : List UInt8) :
    ∀ (cs : List Char) (acc : Nat) (p : Pos), (∀ c ∈ cs, c.isDigit = true) →
      Nat.ofDigitChars 10 cs acc < Nat.pow 2 64 →
      ∃ p', integerDigits positive acc (asciiOctets cs ++ rest) p =
        integerDigits positive (Nat.ofDigitChars 10 cs acc) rest p'
  | [], acc, p, _, _ => ⟨p, rfl⟩
  | c :: cs, acc, p, hd, hlt => by
    have hc := hd c List.mem_cons_self
    rw [ofDigitChars_cons_digit hc] at hlt ⊢
    -- the value so far stays below the whole number's value, so no digit overflows
    have hle := le_ofDigitChars cs (acc * 10 + digit c.toNat.toUInt8)
    have hdig : digit c.toNat.toUInt8 < 10 := by
      have := toNat_of_isDigit hc
      rw [digit_toUInt8 hc]
      omega
    have hno : overflows acc (digit c.toNat.toUInt8) (Nat.pow 2 64 - 1) = false :=
      overflows_eq_false hdig (by omega)
    obtain ⟨p', hp'⟩ := integerDigits_digits positive rest cs (acc * 10 + digit c.toNat.toUInt8)
      (p.step c.toNat.toUInt8) (fun d h => hd d (List.mem_cons_of_mem _ h)) hlt
    refine ⟨p', ?_⟩
    simp only [asciiOctets, List.map_cons, List.cons_append, integerDigits, isDigit_toUInt8 hc,
      hno, Bool.false_eq_true, if_true, if_false]
    exact hp'

theorem head_toDigits_ne_zero (n : Nat) (hn : n ≠ 0) {c : Char} {cs : List Char}
    (h : Nat.toDigits 10 n = c :: cs) : c ≠ '0' := by
  rw [Nat.toDigits_eq_if (by decide)] at h
  split at h
  · simp only [List.cons.injEq] at h
    rw [← h.1]
    simpa using hn
  · obtain ⟨c', cs', h'⟩ : ∃ c' cs', Nat.toDigits 10 (n / 10) = c' :: cs' :=
      List.exists_cons_of_ne_nil Nat.toDigits_ne_nil
    rw [h', List.cons_append, List.cons.injEq] at h
    rw [← h.1]
    exact head_toDigits_ne_zero (n / 10) (by omega) h'
termination_by n
decreasing_by omega

/-- The decimal digits of a natural number below `2 ^ 64` read as that integer, after either
sign. -/
theorem number_toDigits (positive : Bool) {n : Nat} (hn : n < Nat.pow 2 64) (p : Pos) :
    ∃ p', number positive (asciiOctets (Nat.toDigits 10 n)) p =
      .ok (integerValue positive n, [], p') := by
  have hd : ∀ c ∈ Nat.toDigits 10 n, c.isDigit = true :=
    fun c hc => Nat.isDigit_of_mem_toDigits (by decide) (by decide) hc
  by_cases h0 : n = 0
  · subst h0
    exact ⟨_, rfl⟩
  · obtain ⟨c, cs, hcs⟩ := List.exists_cons_of_ne_nil (Nat.toDigits_ne_nil (b := 10) (n := n))
    have hc := hd c (by rw [hcs]; exact List.mem_cons_self)
    have hcn := toNat_of_isDigit hc
    have hval : Nat.ofDigitChars 10 cs (0 * 10 + digit c.toNat.toUInt8) = n := by
      rw [← ofDigitChars_cons_digit hc, ← hcs, Nat.ofDigitChars_ten_toDigits]
    -- a first digit other than `0`: the integer's digits follow
    have hb0 : c.toNat.toUInt8 ≠ 0x30 := by
      intro h
      apply head_toDigits_ne_zero n h0 hcs
      have := congrArg UInt8.toNat h
      rw [toNat_toUInt8_of_lt (by omega)] at this
      exact Char.toNat_inj.1 (by simpa using this)
    obtain ⟨p', hp'⟩ := integerDigits_digits positive [] cs (0 * 10 + digit c.toNat.toUInt8)
      (p.step c.toNat.toUInt8) (fun d h => hd d (by rw [hcs]; exact List.mem_cons_of_mem _ h))
      (by rw [hval]; exact hn)
    rw [List.append_nil, hval, Nat.zero_mul, Nat.zero_add] at hp'
    refine ⟨p', ?_⟩
    rw [hcs]
    simp only [asciiOctets, List.map_cons, number, hb0, if_false, isDigit_toUInt8 hc, if_true]
    rw [show List.map (fun c => c.toNat.toUInt8) cs = asciiOctets cs from rfl, hp']
    simp only [integerDigits, afterInteger]

/-! ### The integers the scanner gives -/

/-- A scanner state past the integer part, whose every number is a float. -/
def GivesFloat (f : List UInt8 → Pos → Scan Number) : Prop :=
  ∀ l p n r p', f l p = .ok (n, r, p') → ∃ x, n = .float x

theorem finish_float {positive : Bool} {significand : Nat} {exponent : Int} {rest : Rest}
    {n : Number} {r' : List UInt8} {p' : Pos}
    (h : finish positive significand exponent rest = .ok (n, r', p')) : ∃ x, n = .float x := by
  unfold finish at h
  split at h
  · cases h
    exact ⟨_, rfl⟩
  · cases h

theorem float_exponentOverflow (positive zero positiveExp : Bool) :
    GivesFloat (exponentOverflow positive zero positiveExp) := by
  intro l p n r p' h
  induction l generalizing p with
  | nil =>
    simp only [exponentOverflow] at h
    split_ifs at h
    cases h
    exact ⟨_, rfl⟩
  | cons b l ih =>
    simp only [exponentOverflow] at h
    split_ifs at h
    · exact ih _ h
    · cases h
      exact ⟨_, rfl⟩

theorem float_exponentDigits (positive : Bool) (significand : Nat) (start : Int)
    (positiveExp : Bool) (acc : Nat) :
    GivesFloat (exponentDigits positive significand start positiveExp acc) := by
  intro l p n r p' h
  induction l generalizing acc p with
  | nil => exact finish_float h
  | cons b l ih =>
    simp only [exponentDigits] at h
    split_ifs at h
    · exact float_exponentOverflow _ _ _ _ _ _ _ _ h
    · exact ih _ _ h
    · exact finish_float h
    · exact finish_float h

theorem float_exponentPart (positive : Bool) (significand : Nat) (start : Int) :
    GivesFloat (exponentPart positive significand start) := by
  intro l p n r p' h
  rcases l with _ | ⟨mark, r₀⟩
  · cases h
  · simp only [exponentPart] at h
    split at h
    · cases h
    · split_ifs at h
      exact float_exponentDigits _ _ _ _ _ _ _ _ _ _ h

theorem float_skipDigitsThen (positive : Bool) (significand : Nat) (exponent : Int) :
    GivesFloat (skipDigitsThen positive significand exponent) := by
  intro l p n r p' h
  induction l generalizing p with
  | nil => exact finish_float h
  | cons b l ih =>
    simp only [skipDigitsThen] at h
    split_ifs at h
    · exact ih _ h
    · exact float_exponentPart _ _ _ _ _ _ _ _ h
    · exact finish_float h

theorem float_fractionDigits (positive : Bool) (significand : Nat) (before after : Int) :
    GivesFloat (fractionDigits positive significand before after) := by
  intro l p n r p' h
  induction l generalizing significand after p with
  | nil =>
    simp only [fractionDigits] at h
    split_ifs at h
    exact finish_float h
  | cons b l ih =>
    simp only [fractionDigits] at h
    split_ifs at h
    · exact float_skipDigitsThen _ _ _ _ _ _ _ _ h
    · exact ih _ _ _ h
    · exact float_exponentPart _ _ _ _ _ _ _ _ h
    · exact finish_float h

theorem float_longInteger (positive : Bool) (significand : Nat) (exponent : Int) :
    GivesFloat (longInteger positive significand exponent) := by
  intro l p n r p' h
  induction l generalizing exponent p with
  | nil => exact finish_float h
  | cons b l ih =>
    simp only [longInteger] at h
    split_ifs at h
    · exact ih _ _ h
    · exact float_fractionDigits _ _ _ _ _ _ _ _ _ h
    · exact float_exponentPart _ _ _ _ _ _ _ _ h
    · exact finish_float h

theorem inRange_integerValue (positive : Bool) {significand : Nat}
    (h : significand < Nat.pow 2 64) : (integerValue positive significand).InRange := by
  unfold integerValue
  split_ifs with hp hs
  · exact h
  · trivial
  · simp only [Number.InRange]
    have : (Nat.pow 2 63 : Int) = ((Nat.pow 2 63 : Nat) : Int) := rfl
    omega

theorem inRange_afterInteger {positive : Bool} {significand : Nat} {l r : List UInt8} {p p' : Pos}
    {n : Number} (hs : significand < Nat.pow 2 64)
    (h : afterInteger positive significand l p = .ok (n, r, p')) : n.InRange := by
  rcases l with _ | ⟨b, l⟩
  · cases h
    exact inRange_integerValue positive hs
  · simp only [afterInteger] at h
    split_ifs at h
    · obtain ⟨x, rfl⟩ := float_fractionDigits _ _ _ _ _ _ _ _ _ h
      trivial
    · obtain ⟨x, rfl⟩ := float_exponentPart _ _ _ _ _ _ _ _ h
      trivial
    · cases h
      exact inRange_integerValue positive hs

theorem inRange_integerDigits {positive : Bool} {l r : List UInt8} {p p' : Pos} {n : Number} :
    ∀ {significand : Nat}, significand < Nat.pow 2 64 →
      integerDigits positive significand l p = .ok (n, r, p') → n.InRange := by
  induction l generalizing p with
  | nil => exact fun hs h => inRange_afterInteger hs h
  | cons b l ih =>
    intro significand hs h
    simp only [integerDigits] at h
    split_ifs at h with hb ho
    · obtain ⟨x, rfl⟩ := float_longInteger _ _ _ _ _ _ _ _ h
      trivial
    · -- a digit that does not overflow keeps the significand below `2 ^ 64`
      refine ih ?_ h
      have hd : digit b < 10 := by
        simp only [isDigit, Bool.and_eq_true, decide_eq_true_eq, UInt8.le_iff_toNat_le] at hb
        simp only [digit]
        have := hb.2
        simp at this
        omega
      simp only [overflows, Bool.and_eq_true, Bool.or_eq_true, decide_eq_true_eq, not_and,
        not_or] at ho
      have h64 : Nat.pow 2 64 = 18446744073709551616 := rfl
      rw [h64] at hs ⊢
      omega
    · exact inRange_afterInteger hs h

/-- Every integer the number scanner gives is in the range it can give. -/
theorem inRange_number {positive : Bool} {l r : List UInt8} {p p' : Pos} {n : Number}
    (h : number positive l p = .ok (n, r, p')) : n.InRange := by
  have h64 : (0 : Nat) < Nat.pow 2 64 := Nat.pos_of_ne_zero (by decide)
  rcases l with _ | ⟨b, l⟩
  · cases h
  · simp only [number] at h
    split_ifs at h with h0 hb
    · split at h
      · split_ifs at h
        exact inRange_afterInteger h64 h
      · exact inRange_afterInteger h64 h
    · refine inRange_integerDigits ?_ h
      have : digit b < 10 := by
        simp only [isDigit, Bool.and_eq_true, decide_eq_true_eq, UInt8.le_iff_toNat_le] at hb
        simp only [digit]
        have := hb.2
        simp at this
        omega
      have h64 : Nat.pow 2 64 = 18446744073709551616 := rfl
      omega

/-! ### The characters of a number's text -/

/-- A character that a number's text is made of. -/
def NumberChar (c : Char) : Prop := c.isDigit = true ∨ c = '.' ∨ c = 'e' ∨ c = '+' ∨ c = '-'

theorem numberChar_of_mem_toDigits {c : Char} {d : Nat} (h : c ∈ Nat.toDigits 10 d) :
    NumberChar c :=
  Or.inl (Nat.isDigit_of_mem_toDigits (by decide) (by decide) h)

theorem numberChar_zero : NumberChar '0' := Or.inl rfl

theorem numberChar_of_mem_toText {style : Number.FloatStyle} {x : Number.Binary64} {c : Char}
    (h : c ∈ (x.toText style).toList) : NumberChar c := by
  unfold Number.Binary64.toText at h
  simp only at h
  -- every piece is a sign, a point, an exponent mark, or digits of the significand or exponent
  have hds : ∀ c ∈ Nat.toDigits 10 x.shortest.fst, NumberChar c :=
    fun _ h => numberChar_of_mem_toDigits h
  generalize Nat.toDigits 10 x.shortest.fst = ds at h hds
  split_ifs at h <;> (try split at h) <;> simp [String.toList_append] at h <;>
    grind [NumberChar, numberChar_of_mem_toDigits, numberChar_zero, List.mem_of_mem_take,
      List.mem_of_mem_drop]

/-- A number's text: a number's characters, or `null` for a value that is not finite. -/
theorem numberChar_of_mem_text {n : Number} {c : Char} (h : c ∈ n.text.toList) :
    NumberChar c ∨ c = 'n' ∨ c = 'u' ∨ c = 'l' := by
  cases n with
  | unsigned k =>
    simp only [Number.text, Nat.toString_eq_repr, Nat.toList_repr] at h
    exact Or.inl (numberChar_of_mem_toDigits h)
  | signed k =>
    simp only [Number.text, Int.toString_eq_repr, Int.repr_eq_if] at h
    split_ifs at h
    · simp only [Nat.toList_repr] at h
      exact Or.inl (numberChar_of_mem_toDigits h)
    · simp only [String.toList_append, Nat.toList_repr, List.mem_append] at h
      rcases h with h | h
      · simp at h
        exact Or.inl (by simp [NumberChar, h])
      · exact Or.inl (numberChar_of_mem_toDigits h)
  | float x =>
    simp only [Number.text] at h
    split_ifs at h
    · exact Or.inl (numberChar_of_mem_toText h)
    · simp at h
      grind

/-! ### Strings written with escapes -/

open Text.Utf8 (encodeChar)

/-- An octet that a string holds as it is: no quote, backslash or control octet. -/
def Plain (b : UInt8) : Prop := b ≠ 0x22 ∧ b ≠ 0x5C ∧ ¬b < 0x20

/-- Plain octets are read one step each, collected in reverse. -/
theorem stringOctets_plain (r : List UInt8) : ∀ (bs acc : List UInt8) (fuel : Nat) (p : Pos),
    (∀ b ∈ bs, Plain b) → bs.length ≤ fuel →
    ∃ p', stringOctets fuel acc (bs ++ r) p =
      stringOctets (fuel - bs.length) (bs.reverse ++ acc) r p'
  | [], acc, fuel, p, _, _ => ⟨p, by simp⟩
  | b :: bs, acc, fuel, p, hb, hl => by
    obtain ⟨f, rfl⟩ : ∃ f, fuel = f + 1 := ⟨fuel - 1, by simp at hl; omega⟩
    obtain ⟨h₁, h₂, h₃⟩ := hb b List.mem_cons_self
    obtain ⟨p', hp'⟩ := stringOctets_plain r bs (b :: acc) f (p.step b)
      (fun x hx => hb x (List.mem_cons_of_mem _ hx)) (by simp at hl; omega)
    refine ⟨p', ?_⟩
    simp only [List.cons_append, stringOctets, h₁, h₂, h₃, if_false, hp', List.length_cons,
      List.reverse_cons, List.append_assoc]
    congr 1
    omega

/-- An escape is one step of the string reader, collecting the octets it stands for. -/
theorem stringOctets_escape {r r' bytes acc : List UInt8} {f : Nat} {p p' : Pos}
    (he : escape r (p.step 0x5C) = .ok (bytes, r', p')) :
    stringOctets (f + 1) acc (0x5C :: r) p = stringOctets f (bytes.reverse ++ acc) r' p' := by
  simp only [stringOctets, show (0x5C : UInt8) ≠ 0x22 by decide, if_false, if_true, he]

/-- The two hex digits `hex2` writes for a control character, checked for all of them. -/
theorem hexValue_hex2_all :
    (List.range 32).all (fun n =>
      (Text.Utf8.encode (hex2 n)).map hexValue == [some (n / 16), some (n % 16)]) = true := by
  decide

theorem hexValue_hex2 {n : Nat} (hn : n < 32) :
    ∃ a b, Text.Utf8.encode (hex2 n) = [a, b] ∧ hexValue a = some (n / 16) ∧
      hexValue b = some (n % 16) := by
  have h := List.all_eq_true.1 hexValue_hex2_all n (List.mem_range.2 hn)
  simp only [beq_iff_eq] at h
  rcases hx : Text.Utf8.encode (hex2 n) with _ | ⟨a, _ | ⟨b, _ | ⟨c, l⟩⟩⟩ <;>
    simp [hx] at h
  exact ⟨a, b, rfl, h.1, h.2⟩

/-- The `\u00xx` escape of a control character stands for its one octet. -/
theorem escape_control {c : Char} (hc : c.toNat < 0x20) {a b : UInt8}
    (ha : hexValue a = some (c.toNat / 16)) (hb : hexValue b = some (c.toNat % 16))
    (r : List UInt8) (q : Pos) :
    ∃ q', escape (0x75 :: 0x30 :: 0x30 :: a :: b :: r) q = .ok (encodeChar c, r, q') := by
  have hval : ((0 * 16 + 0) * 16 + c.toNat / 16) * 16 + c.toNat % 16 = c.toNat := by omega
  have hlow : ¬(0xDC00 ≤ c.toNat ∧ c.toNat ≤ 0xDFFF) := by omega
  have hbmp : c.toNat < 0xD800 ∨ c.toNat > 0xDBFF := by omega
  simp only [escape, unicodeEscape, hex4, show hexValue 0x30 = some 0 by decide, ha, hb, hval,
    hlow, hbmp, codePoint, Char.ofNat_toNat]
  exact ⟨_, rfl⟩

/-- A character whose octets a string holds as they are. -/
theorem plain_of_mem_encodeChar {c : Char} (hq : c ≠ '"') (hb : c ≠ '\\') (hc : ¬c.toNat < 0x20)
    {x : UInt8} (hx : x ∈ encodeChar c) : Plain x := by
  have hq' : c.toNat ≠ 0x22 := fun h => hq (Char.toNat_inj.1 h)
  have hb' : c.toNat ≠ 0x5C := fun h => hb (Char.toNat_inj.1 h)
  have hx' : x.toNat < 0x80 → c.toNat = x.toNat := Text.Utf8.toNat_eq_of_mem_encodeChar hx
  simp only [Plain, ne_eq, ← UInt8.toNat_inj, UInt8.lt_iff_toNat_lt]
  simp only [UInt8.reduceToNat]
  omega

/-- A short escape: a backslash and one octet standing for a one-octet character. -/
theorem stringOctets_short {s : String} {c : Char} {e x : UInt8}
    (hs : Text.Utf8.encode s = [0x5C, e]) (hc : encodeChar c = [x])
    (he : ∀ r q, escape (e :: r) q = .ok ([x], r, q.step e)) {r acc : List UInt8} {fuel : Nat}
    {p : Pos} (hl : (Text.Utf8.encode s).length ≤ fuel) :
    ∃ f' p', fuel - (Text.Utf8.encode s).length ≤ f' ∧
      stringOctets fuel acc (Text.Utf8.encode s ++ r) p =
        stringOctets f' ((encodeChar c).reverse ++ acc) r p' := by
  rw [hs] at hl ⊢
  obtain ⟨f, rfl⟩ : ∃ f, fuel = f + 1 := ⟨fuel - 1, by simp at hl; omega⟩
  refine ⟨f, (p.step 0x5C).step e, by simp, ?_⟩
  rw [hc]
  exact stringOctets_escape (he r _)

/-- One character as `escapeChar` writes it is read back as its UTF-8 octets, with no more fuel
than its written octets. -/
theorem stringOctets_escapeChar (c : Char) (r acc : List UInt8) (fuel : Nat) (p : Pos)
    (hl : (Text.Utf8.encode (escapeChar c)).length ≤ fuel) :
    ∃ f' p', fuel - (Text.Utf8.encode (escapeChar c)).length ≤ f' ∧
      stringOctets fuel acc (Text.Utf8.encode (escapeChar c) ++ r) p =
        stringOctets f' ((encodeChar c).reverse ++ acc) r p' := by
  unfold escapeChar at hl ⊢
  split_ifs at hl ⊢ with h₁ h₂ h₃ h₄ h₅ h₆ h₇ h₈
  -- the short escapes, each of a one-octet character
  · subst h₁; exact stringOctets_short rfl rfl (fun _ _ => rfl) hl
  · subst h₂; exact stringOctets_short rfl rfl (fun _ _ => rfl) hl
  · subst h₃; exact stringOctets_short rfl rfl (fun _ _ => rfl) hl
  · subst h₄; exact stringOctets_short rfl rfl (fun _ _ => rfl) hl
  · subst h₅; exact stringOctets_short rfl rfl (fun _ _ => rfl) hl
  · exact stringOctets_short rfl (by rw [Text.Utf8.encodeChar_of_lt (by omega), h₆]; rfl)
      (fun _ _ => rfl) hl
  · exact stringOctets_short rfl (by rw [Text.Utf8.encodeChar_of_lt (by omega), h₇]; rfl)
      (fun _ _ => rfl) hl
  -- the other control characters, as `\u00` and two hex digits
  · obtain ⟨a, b, hab, ha, hb⟩ := hexValue_hex2 h₈
    have henc : Text.Utf8.encode ("\\u00" ++ hex2 c.toNat) = [0x5C, 0x75, 0x30, 0x30, a, b] := by
      simp only [Text.Utf8.encode, String.toList_append, List.flatMap_append] at hab ⊢
      rw [hab]
      rfl
    rw [henc] at hl ⊢
    obtain ⟨f, rfl⟩ : ∃ f, fuel = f + 1 := ⟨fuel - 1, by simp at hl; omega⟩
    obtain ⟨q, hq⟩ := escape_control h₈ ha hb r (p.step 0x5C)
    exact ⟨f, q, by simp, stringOctets_escape hq⟩
  -- every other character as its own octets
  · have hs : Text.Utf8.encode c.toString = encodeChar c := by
      simp [Text.Utf8.encode, Char.toString]
    rw [hs] at hl ⊢
    obtain ⟨p', hp'⟩ := stringOctets_plain r (encodeChar c) acc fuel p
      (fun x hx => plain_of_mem_encodeChar h₁ h₂ h₈ hx) hl
    exact ⟨_, p', Nat.le_refl _, hp'⟩

/-- The octets `quote` writes between its quotes. -/
def escapedOctets (s : String) : List UInt8 :=
  s.toList.flatMap fun c => Text.Utf8.encode (escapeChar c)

theorem encode_quote (s : String) :
    Text.Utf8.encode (quote s) = 0x22 :: escapedOctets s ++ [0x22] := by
  simp [quote, escapedOctets, Text.Utf8.encode, String.toList_join, List.flatMap_map,
    List.flatMap_assoc]
  rfl

/-- Escaped characters up to a closing quote are read back as their octets; the reader's
fuel must pass the octets written. -/
theorem stringOctets_escaped (r : List UInt8) : ∀ (cs : List Char) (acc : List UInt8)
    (fuel : Nat) (p : Pos), (cs.flatMap fun c => Text.Utf8.encode (escapeChar c)).length < fuel →
    ∃ p', stringOctets fuel acc
        ((cs.flatMap fun c => Text.Utf8.encode (escapeChar c)) ++ 0x22 :: r) p =
      .ok (acc.reverse ++ cs.flatMap encodeChar, r, p')
  | [], acc, fuel, p, hl => by
    obtain ⟨f, rfl⟩ : ∃ f, fuel = f + 1 := ⟨fuel - 1, by simp at hl; omega⟩
    exact ⟨p.step 0x22, by simp [stringOctets]⟩
  | c :: cs, acc, fuel, p, hl => by
    simp only [List.flatMap_cons, List.length_append] at hl ⊢
    rw [List.append_assoc]
    obtain ⟨f', p', hf', hstep⟩ := stringOctets_escapeChar c _ acc fuel p (by omega)
    obtain ⟨q, hq⟩ := stringOctets_escaped r cs _ f' p' (by omega)
    refine ⟨q, ?_⟩
    rw [hstep, hq]
    simp

/-- A string as `quote` writes it reads back as itself. -/
theorem string_escaped (s : String) (r : List UInt8) (fuel : Nat) (p : Pos)
    (hl : (escapedOctets s).length < fuel) :
    ∃ p', string fuel (escapedOctets s ++ 0x22 :: r) p = .ok (s, r, p') := by
  obtain ⟨q, hq⟩ := stringOctets_escaped r s.toList [] fuel p hl
  refine ⟨q, ?_⟩
  simp only [string, escapedOctets, hq, List.reverse_nil, List.nil_append]
  rw [show s.toList.flatMap encodeChar = Text.Utf8.encode s from rfl, Text.Utf8.decode?_encode]

end CiClient.Json.Scalar
