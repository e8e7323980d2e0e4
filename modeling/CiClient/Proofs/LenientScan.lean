import CiClient.Json.Scalar
import Mathlib.Tactic.SplitIfs
/-!
# The lenient scanners read past what the strict scanners read

A value that is only skipped, as the fields of a root document other than its job list, is read
by the lenient scanners of `Json.Scalar`: `skipNumber` checks the shape of a number but not its
range, `skipString` the escapes of a string but not its UTF-8. This module shows that they accept
at least what the strict scanners `number` and `string` accept, and stop at the same octet: each
lemma follows one state of the strict scanner to the matching state of the lenient one.

Every scanner reads forward: what is left after it is a suffix of its input (`Consumes`).
-/

namespace CiClient.Json.Scalar

variable {α : Type}

/-- A scanner that succeeds leaves a tail of its input. -/
def Consumes (f : List UInt8 → Pos → Scan α) : Prop :=
  ∀ r p a r' p', f r p = .ok (a, r', p') → r' <:+ r

theorem skipExponentDigits_consumes : Consumes skipExponentDigits := by
  intro r p a r' p' h
  induction r generalizing p with
  | nil => simp [skipExponentDigits] at h; simp [h.1]
  | cons b r ih =>
    simp only [skipExponentDigits] at h
    split at h
    · exact (ih _ h).trans (List.suffix_cons b r)
    · simp at h; simp [h.1]

theorem skipExponent_consumes : Consumes skipExponent := by
  intro r p a r' p' h
  cases r with
  | nil => simp [skipExponent] at h; simp [h.1]
  | cons mark r0 =>
    simp only [skipExponent] at h
    split at h
    · rename_i d tail heq
      split at h
      · have hs : d :: tail <:+ r0 := by rw [← heq]; split <;> simp
        exact ((skipExponentDigits_consumes _ _ _ _ _ h).trans
          ((List.suffix_cons d tail).trans hs)).trans (List.suffix_cons mark r0)
      · cases h
    · cases h

theorem skipFraction_consumes (seen : Bool) : Consumes (skipFraction seen) := by
  intro r p a r' p' h
  induction r generalizing seen p with
  | nil => cases seen <;> simp [skipFraction] at h; simp [h.1]
  | cons b r ih =>
    simp only [skipFraction] at h
    split at h
    · exact (ih _ _ h).trans (List.suffix_cons b r)
    · split at h
      · cases h
      · split at h
        · exact skipExponent_consumes _ _ _ _ _ h
        · simp at h; simp [h.1]

theorem skipAfterInteger_consumes : Consumes skipAfterInteger := by
  intro r p a r' p' h
  cases r with
  | nil => simp [skipAfterInteger] at h; simp [h.1]
  | cons b r =>
    simp only [skipAfterInteger] at h
    split at h
    · exact (skipFraction_consumes _ _ _ _ _ _ h).trans (List.suffix_cons b r)
    · split at h
      · exact skipExponent_consumes _ _ _ _ _ h
      · simp at h; simp [h.1]

theorem skipIntegerDigits_consumes : Consumes skipIntegerDigits := by
  intro r p a r' p' h
  induction r generalizing p with
  | nil => simp [skipIntegerDigits] at h; simp [h.1]
  | cons b r ih =>
    simp only [skipIntegerDigits] at h
    split at h
    · exact (ih _ h).trans (List.suffix_cons b r)
    · exact skipAfterInteger_consumes _ _ _ _ _ h

theorem skipNumber_consumes {b : UInt8} {r r' : List UInt8} {p p' : Pos} {a : Unit}
    (h : skipNumber (b :: r) p = .ok (a, r', p')) : r' <:+ r := by
  simp only [skipNumber] at h
  split at h
  · split at h
    · split at h
      · cases h
      · exact skipAfterInteger_consumes _ _ _ _ _ h
    · simp at h; simp [h.1]
  · split at h
    · exact skipIntegerDigits_consumes _ _ _ _ _ h
    · cases h

theorem hex4_consumes : Consumes hex4 := by
  intro r p a r' p' h
  unfold hex4 at h
  split at h
  · split at h
    · simp at h
      rw [← h.2.1]
      exact (List.suffix_cons _ _).trans ((List.suffix_cons _ _).trans
        ((List.suffix_cons _ _).trans (List.suffix_cons _ _)))
    · cases h
  · cases h

theorem skipEscape_consumes {r r' : List UInt8} {p p' : Pos} {a : Unit}
    (h : skipEscape r p = .ok (a, r', p')) : r' <:+ r.tail := by
  cases r with
  | nil => simp [skipEscape] at h
  | cons e r =>
    simp only [skipEscape] at h
    split at h
    · simp at h; simp [h.1]
    · split at h
      · split at h
        · cases h
        · rename_i rest heq
          simp only [Except.ok.injEq, Prod.mk.injEq] at h
          obtain ⟨-, rfl⟩ := h
          exact hex4_consumes _ _ _ _ _ heq
      · cases h

theorem skipString_consumes {fuel : Nat} {r r' : List UInt8} {p p' : Pos} {a : Unit}
    (h : skipString fuel r p = .ok (a, r', p')) : r' <:+ r.tail := by
  induction fuel generalizing r p with
  | zero => simp [skipString] at h
  | succ fuel ih =>
    cases r with
    | nil => simp [skipString] at h
    | cons b r =>
      simp only [skipString] at h
      split at h
      · simp at h; simp [h.1]
      · split at h
        · split at h
          · cases h
          · rename_i r₁ p₁ heq
            exact (ih h).trans ((List.tail_suffix r₁).trans
              ((skipEscape_consumes heq).trans (List.tail_suffix r)))
        · split at h
          · cases h
          · exact (ih h).trans (List.tail_suffix r)

/-! Every number and string the strict scanners read, the lenient scanners read past, ending
at the same octet. -/

theorem finish_rest {positive : Bool} {significand : Nat} {exponent : Int} {rest : Rest}
    {n : Number} {r' : List UInt8} {p' : Pos}
    (h : finish positive significand exponent rest = .ok (n, r', p')) : rest = (r', p') := by
  unfold finish at h
  split at h
  · simp only [Except.ok.injEq, Prod.mk.injEq] at h
    exact h.2
  · cases h

theorem skip_exponentOverflow {positive zero positiveExp : Bool} {r r' : List UInt8} {p p' : Pos}
    {n : Number} (h : exponentOverflow positive zero positiveExp r p = .ok (n, r', p')) :
    skipExponentDigits r p = .ok ((), r', p') := by
  induction r generalizing p with
  | nil =>
    simp only [exponentOverflow] at h
    split at h
    · cases h
    · simp only [Except.ok.injEq, Prod.mk.injEq] at h
      simp [skipExponentDigits, h.2]
  | cons b r ih =>
    simp only [exponentOverflow] at h
    split at h
    · cases h
    · split at h
      · simp [skipExponentDigits, *, ih h]
      · simp only [Except.ok.injEq, Prod.mk.injEq] at h
        simp [skipExponentDigits, *, h.2]

theorem skip_exponentDigits {positive : Bool} {significand : Nat} {start : Int}
    {positiveExp : Bool} {acc : Nat} {r r' : List UInt8} {p p' : Pos} {n : Number}
    (h : exponentDigits positive significand start positiveExp acc r p = .ok (n, r', p')) :
    skipExponentDigits r p = .ok ((), r', p') := by
  induction r generalizing acc p with
  | nil =>
    simp only [exponentDigits] at h
    simp [skipExponentDigits, ← finish_rest h]
  | cons b r ih =>
    simp only [exponentDigits] at h
    split at h
    · split at h
      · simp [skipExponentDigits, *, skip_exponentOverflow h]
      · simp [skipExponentDigits, *, ih h]
    · simp [skipExponentDigits, *, ← finish_rest h]

theorem skip_exponentPart {positive : Bool} {significand : Nat} {start : Int}
    {r r' : List UInt8} {p p' : Pos} {n : Number}
    (h : exponentPart positive significand start r p = .ok (n, r', p')) :
    skipExponent r p = .ok ((), r', p') := by
  cases r with
  | nil => simp [exponentPart] at h
  | cons mark r0 =>
    simp only [exponentPart] at h
    simp only [skipExponent]
    -- the optional sign is read the same way by both; then at least one digit must follow
    have digits : ∀ (pe : Bool) (b : UInt8) (r2 : List UInt8) (pp : Pos),
        (if isDigit b then exponentDigits positive significand start pe (digit b) r2 (pp.step b)
          else Except.error (Error.flawAt .invalidNumber (pp.step b))) = .ok (n, r', p') →
        (if isDigit b then skipExponentDigits r2 (pp.step b)
          else Except.error (Error.flawAt .invalidNumber (pp.step b))) = .ok ((), r', p') := by
      intro pe b r2 pp hd
      split at hd
      · simp [*, skip_exponentDigits hd]
      · cases hd
    rcases r0 with _ | ⟨s, r1⟩
    · cases h
    · by_cases h43 : s = 0x2B
      · subst h43
        rcases r1 with _ | ⟨b, r2⟩
        · cases h
        · exact digits true b r2 _ h
      · by_cases h45 : s = 0x2D
        · subst h45
          rcases r1 with _ | ⟨b, r2⟩
          · cases h
          · exact digits false b r2 _ h
        · simp [h43, h45] at h ⊢
          exact digits true s r1 _ h

theorem skip_skipDigitsThen {positive : Bool} {significand : Nat} {exponent : Int}
    {r r' : List UInt8} {p p' : Pos} {n : Number}
    (h : skipDigitsThen positive significand exponent r p = .ok (n, r', p')) :
    skipFraction true r p = .ok ((), r', p') := by
  induction r generalizing p with
  | nil => simp [skipFraction, ← finish_rest h]
  | cons b r ih =>
    simp only [skipDigitsThen] at h
    split at h
    · simp [skipFraction, *, ih h]
    · split at h
      · simp [skipFraction, *, skip_exponentPart h]
      · simp [skipFraction, *, ← finish_rest h]

/-- Digits after a decimal point: the lenient scanner needs to have seen one only once the
strict one has (`after` counts the digits read, negated). -/
theorem skip_fractionDigits {positive : Bool} {significand : Nat} {before after : Int}
    {r r' : List UInt8} {p p' : Pos} {n : Number}
    (h : fractionDigits positive significand before after r p = .ok (n, r', p'))
    (seen : Bool) (hseen : after = 0 ∨ seen = true) :
    skipFraction seen r p = .ok ((), r', p') := by
  induction r generalizing significand after seen p with
  | nil =>
    simp only [fractionDigits] at h
    split at h
    · cases h
    · rename_i hafter
      simp [skipFraction, hseen.resolve_left hafter, ← finish_rest h]
  | cons b r ih =>
    simp only [fractionDigits] at h
    split at h
    · rename_i hb
      split at h
      · simp only [skipDigitsThen, hb, if_true] at h
        simp [skipFraction, hb, skip_skipDigitsThen h]
      · simp [skipFraction, hb, ih h true (Or.inr rfl)]
    · rename_i hb
      split at h
      · cases h
      · rename_i hafter
        have hs : seen = true := hseen.resolve_left hafter
        split at h
        · simp [skipFraction, *, skip_exponentPart h]
        · simp [skipFraction, *, ← finish_rest h]

theorem skip_longInteger {positive : Bool} {significand : Nat} {exponent : Int}
    {r r' : List UInt8} {p p' : Pos} {n : Number}
    (h : longInteger positive significand exponent r p = .ok (n, r', p')) :
    skipIntegerDigits r p = .ok ((), r', p') := by
  induction r generalizing exponent p with
  | nil => simp [skipIntegerDigits, ← finish_rest h]
  | cons b r ih =>
    simp only [longInteger] at h
    split at h
    · simp [skipIntegerDigits, *, ih h]
    · rename_i hb
      simp only [skipIntegerDigits, hb, skipAfterInteger]
      split at h
      · rename_i hdot
        subst hdot
        simpa using skip_fractionDigits h false (Or.inl rfl)
      · split at h
        · simp [*, skip_exponentPart h]
        · simp [*, ← finish_rest h]

theorem skip_afterInteger {positive : Bool} {significand : Nat} {r r' : List UInt8} {p p' : Pos}
    {n : Number} (h : afterInteger positive significand r p = .ok (n, r', p')) :
    skipAfterInteger r p = .ok ((), r', p') := by
  cases r with
  | nil => simp_all [afterInteger, skipAfterInteger]
  | cons b r =>
    simp only [afterInteger] at h
    simp only [skipAfterInteger]
    split at h
    · rename_i hdot
      subst hdot
      simpa using skip_fractionDigits h false (Or.inl rfl)
    · split at h
      · simp [*, skip_exponentPart h]
      · simp_all

theorem skip_integerDigits {positive : Bool} {significand : Nat} {r r' : List UInt8} {p p' : Pos}
    {n : Number} (h : integerDigits positive significand r p = .ok (n, r', p')) :
    skipIntegerDigits r p = .ok ((), r', p') := by
  induction r generalizing significand p with
  | nil => simp_all [integerDigits, afterInteger, skipIntegerDigits]
  | cons b r ih =>
    simp only [integerDigits] at h
    split at h
    · split at h
      · exact skip_longInteger h
      · simp [skipIntegerDigits, *, ih h]
    · simp [skipIntegerDigits, *, skip_afterInteger h]

/-- The lenient number scanner reads past every number the strict one reads. -/
theorem skip_number {positive : Bool} {r r' : List UInt8} {p p' : Pos} {n : Number}
    (h : number positive r p = .ok (n, r', p')) : skipNumber r p = .ok ((), r', p') := by
  cases r with
  | nil => simp [number] at h
  | cons b r =>
    simp only [number] at h
    simp only [skipNumber]
    split at h
    · rename_i h0
      subst h0
      simp only [if_true]
      split at h
      · split at h
        · cases h
        · simp [*, skip_afterInteger h]
      · simp_all [afterInteger]
    · split at h
      · simp [*, skip_integerDigits h]
      · cases h

/-- An escape the strict scanner reads is one escape to the lenient scanner, or two when it is a
surrogate pair. -/
theorem skip_escape {r r' : List UInt8} {p p' : Pos} {bytes : List UInt8}
    (h : escape r p = .ok (bytes, r', p')) :
    skipEscape r p = .ok ((), r', p') ∨
      ∃ r₁ p₁, skipEscape r p = .ok ((), 0x5C :: r₁, p₁) ∧
        skipEscape r₁ (p₁.step 0x5C) = .ok ((), r', p') := by
  cases r with
  | nil => simp [escape] at h
  | cons e r =>
    simp only [escape] at h
    simp only [skipEscape]
    by_cases hshort : e = 0x22 ∨ e = 0x5C ∨ e = 0x2F ∨ e = 0x62 ∨ e = 0x66 ∨ e = 0x6E ∨
        e = 0x72 ∨ e = 0x74
    · left
      rw [if_pos hshort]
      split_ifs at h <;> simp_all
    · rw [if_neg hshort]
      have hu : e = 0x75 := by
        split_ifs at h <;> simp_all
      subst hu
      simp only [if_true]
      rw [if_neg (by decide), if_neg (by decide), if_neg (by decide), if_neg (by decide),
        if_neg (by decide), if_neg (by decide), if_pos rfl] at h
      unfold unicodeEscape at h
      rcases hx : hex4 r (p.step 0x75) with _ | ⟨n, r₁, p₁⟩ <;> simp only [hx] at h ⊢
      · cases h
      · by_cases hlow : 0xDC00 ≤ n ∧ n ≤ 0xDFFF
        · simp [hlow] at h
        · by_cases hbmp : n < 0xD800 ∨ n > 0xDBFF
          · left
            simp only [hlow, hbmp, if_false, if_true, Except.ok.injEq, Prod.mk.injEq] at h
            simp [h.2]
          · -- a leading surrogate: the strict scanner reads the `\u` escape of the trailing one too
            right
            simp only [hlow, hbmp, if_false] at h
            rcases r₁ with _ | ⟨x, _ | ⟨y, r₃⟩⟩
            · cases h
            · simp only at h
              split at h <;> cases h
            · simp only at h
              by_cases hx5 : x = 0x5C
              · by_cases hy5 : y = 0x75
                · subst hx5 hy5
                  simp only [ne_eq, not_true_eq_false, if_false] at h
                  refine ⟨0x75 :: r₃, p₁, rfl, ?_⟩
                  simp only
                  rw [if_neg hshort, if_true]
                  rcases hy : hex4 r₃ ((p₁.step 0x5C).step 0x75) with _ | ⟨n₂, r₄, p₄⟩ <;>
                    simp only [hy] at h ⊢
                  · cases h
                  · split at h
                    · cases h
                    · simp only [Except.ok.injEq, Prod.mk.injEq] at h
                      simp [h.2]
                · simp [hx5, hy5] at h
              · simp [hx5] at h

/-- The lenient string scanner reads past every string the strict one reads, given fuel for the
octets left: it takes one step per octet at most. -/
theorem skip_stringOctets {fuel : Nat} {acc r r' : List UInt8} {p p' : Pos} {bytes : List UInt8}
    (h : stringOctets fuel acc r p = .ok (bytes, r', p')) (fuel' : Nat) (hfuel : r.length ≤ fuel') :
    skipString fuel' r p = .ok ((), r', p') := by
  induction fuel generalizing acc r p fuel' with
  | zero => simp [stringOctets] at h
  | succ fuel ih =>
    cases r with
    | nil => simp [stringOctets] at h
    | cons b r =>
      obtain ⟨f, rfl⟩ : ∃ f, fuel' = f + 1 := ⟨fuel' - 1, by simp at hfuel; omega⟩
      have hf : r.length ≤ f := by simpa using hfuel
      simp only [stringOctets] at h
      simp only [skipString]
      split at h
      · simp_all
      · rename_i hq
        rw [if_neg hq]
        split at h
        · rename_i hbs
          rw [if_pos hbs]
          split at h
          · cases h
          · rename_i bytes' r₁ p₁ he
            rcases skip_escape he with hs | ⟨r₂, p₂, hs₁, hs₂⟩
            · rw [hs]
              exact ih h f (Nat.le_trans (skipEscape_consumes hs).length_le (by simp; omega))
            · -- a surrogate pair: the lenient scanner reads a second escape
              rw [hs₁]
              have hl₁ := (skipEscape_consumes hs₁).length_le
              have hl₂ := (skipEscape_consumes hs₂).length_le
              simp at hl₁ hl₂
              obtain ⟨g, rfl⟩ : ∃ g, f = g + 1 := ⟨f - 1, by omega⟩
              simp only [skipString, show (0x5C : UInt8) ≠ 0x22 by decide, if_false, if_true, hs₂]
              exact ih h g (by omega)
        · rename_i hbs
          rw [if_neg hbs]
          split at h
          · cases h
          · rename_i hc
            rw [if_neg hc]
            exact ih h f hf

theorem skip_string {fuel : Nat} {r r' : List UInt8} {p p' : Pos} {s : String}
    (h : string fuel r p = .ok (s, r', p')) (fuel' : Nat) (hfuel : r.length ≤ fuel') :
    skipString fuel' r p = .ok ((), r', p') := by
  unfold string at h
  split at h
  · cases h
  · rename_i bytes r₁ p₁ ho
    split at h
    · simp only [Except.ok.injEq, Prod.mk.injEq] at h
      obtain ⟨-, rfl, rfl⟩ := h
      exact skip_stringOctets ho fuel' hfuel
    · cases h

end CiClient.Json.Scalar
