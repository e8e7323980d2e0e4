import CiClient.Proofs.ValueTree
import Mathlib.Data.String.Basic
/-!
# Objects with sorted fields

An object value keeps its fields sorted by key, each key once, and `insertField` is the one way
fields are added. Fields sorted this way are determined by their lookups
(`eq_of_lookupField_eq`), so a statement about an object is proved key by key.

The edits a document makes to an object on its way back to text are given here with their
lookups: a default for a missing field (`withDefault`), a `null` field left out (`dropNull`), a
field's value changed (`modify`).
-/

namespace CiClient.Json

/-- Fields sorted by key, so each key at most once. -/
def KeysSorted (fs : List (String × Value)) : Prop :=
  fs.Pairwise fun a b => a.1 < b.1

theorem keysSorted_nil : KeysSorted [] := List.Pairwise.nil

theorem KeysSorted.tail {f : String × Value} {fs : List (String × Value)}
    (h : KeysSorted (f :: fs)) : KeysSorted fs :=
  List.Pairwise.of_cons h

theorem KeysSorted.lt_of_mem {f g : String × Value} {fs : List (String × Value)}
    (h : KeysSorted (f :: fs)) (hg : g ∈ fs) : f.1 < g.1 :=
  List.rel_of_pairwise_cons h hg

@[simp] theorem lookupField_nil (k : String) : lookupField k [] = none := rfl

theorem lookupField_cons (k k' : String) (v : Value) (fs : List (String × Value)) :
    lookupField k ((k', v) :: fs) = if k = k' then some v else lookupField k fs := rfl

theorem mem_of_lookupField {k : String} {v : Value} {fs : List (String × Value)}
    (h : lookupField k fs = some v) : (k, v) ∈ fs := by
  induction fs with
  | nil => cases h
  | cons f fs ih =>
    obtain ⟨k', v'⟩ := f
    rw [lookupField_cons] at h
    split_ifs at h with hk
    · cases h
      subst hk
      exact List.mem_cons_self
    · exact List.mem_cons_of_mem _ (ih h)

theorem lookupField_of_mem {k : String} {v : Value} {fs : List (String × Value)}
    (hs : KeysSorted fs) (h : (k, v) ∈ fs) : lookupField k fs = some v := by
  induction fs with
  | nil => cases h
  | cons f fs ih =>
    obtain ⟨k', v'⟩ := f
    rw [lookupField_cons]
    rcases List.mem_cons.1 h with h | h
    · cases h
      simp
    · have hlt : k' < k := hs.lt_of_mem h
      rw [if_neg (ne_of_gt hlt)]
      exact ih hs.tail h

/-- A key below every key of the fields is not among them. -/
theorem lookupField_eq_none_of_lt {k : String} {fs : List (String × Value)}
    (h : ∀ f ∈ fs, k < f.1) : lookupField k fs = none := by
  induction fs with
  | nil => rfl
  | cons f fs ih =>
    obtain ⟨k', v'⟩ := f
    rw [lookupField_cons, if_neg (ne_of_lt (h _ List.mem_cons_self)),
      ih fun g hg => h g (List.mem_cons_of_mem _ hg)]

/-- Sorted fields with the same lookups are the same fields. -/
theorem eq_of_lookupField_eq : ∀ {fs gs : List (String × Value)}, KeysSorted fs →
    KeysSorted gs → (∀ k, lookupField k fs = lookupField k gs) → fs = gs
  | [], [], _, _, _ => rfl
  | [], (k, v) :: gs, _, _, h => by simpa [lookupField_cons] using (h k).symm
  | (k, v) :: fs, [], _, _, h => by simpa [lookupField_cons] using h k
  | (k, v) :: fs, (k', v') :: gs, hf, hg, h => by
    -- the first key of each is the least of its fields, so the two agree
    have hkk : k = k' := by
      rcases lt_trichotomy k k' with hlt | heq | hgt
      · have hnone : lookupField k ((k', v') :: gs) = none :=
          lookupField_eq_none_of_lt fun g hg' => by
            rcases List.mem_cons.1 hg' with rfl | hg'
            · exact hlt
            · exact hlt.trans (hg.lt_of_mem hg')
        simpa [lookupField_cons, hnone] using h k
      · exact heq
      · have hnone : lookupField k' ((k, v) :: fs) = none :=
          lookupField_eq_none_of_lt fun g hg' => by
            rcases List.mem_cons.1 hg' with rfl | hg'
            · exact hgt
            · exact hgt.trans (hf.lt_of_mem hg')
        simpa [lookupField_cons, hnone] using (h k').symm
    subst hkk
    have hv : v = v' := by simpa [lookupField_cons] using h k
    subst hv
    congr 1
    refine eq_of_lookupField_eq hf.tail hg.tail fun k'' => ?_
    by_cases hk : k'' = k
    · subst hk
      rw [lookupField_eq_none_of_lt fun g hg' => hf.lt_of_mem hg',
        lookupField_eq_none_of_lt fun g hg' => hg.lt_of_mem hg']
    · simpa [lookupField_cons, hk] using h k''

/-! ### Adding a field -/

theorem mem_insertField {k : String} {v : Value} {f : String × Value}
    {fs : List (String × Value)} (h : f ∈ insertField k v fs) : f = (k, v) ∨ f ∈ fs := by
  induction fs with
  | nil => simpa [insertField] using h
  | cons g gs ih =>
    obtain ⟨k', v'⟩ := g
    simp only [insertField] at h
    split_ifs at h
    · simpa using h
    · rcases List.mem_cons.1 h with h | h
      · exact Or.inl h
      · exact Or.inr (List.mem_cons_of_mem _ h)
    · rcases List.mem_cons.1 h with h | h
      · exact Or.inr (h ▸ List.mem_cons_self)
      · rcases ih h with h | h
        · exact Or.inl h
        · exact Or.inr (List.mem_cons_of_mem _ h)

@[simp] theorem lookupField_insertField (k k' : String) (v : Value) (fs : List (String × Value)) :
    lookupField k' (insertField k v fs) = if k' = k then some v else lookupField k' fs := by
  induction fs with
  | nil => rfl
  | cons g gs ih =>
    obtain ⟨k'', v''⟩ := g
    simp only [insertField]
    split_ifs with h₁ h₂ h₃ h₃ <;> simp_all [lookupField_cons]

theorem KeysSorted.insertField {fs : List (String × Value)} (h : KeysSorted fs) (k : String)
    (v : Value) : KeysSorted (Json.insertField k v fs) := by
  induction fs with
  | nil => exact List.pairwise_singleton _ _
  | cons g gs ih =>
    obtain ⟨k', v'⟩ := g
    simp only [Json.insertField]
    split_ifs with h₁ h₂
    · refine List.Pairwise.cons (fun f hf => ?_) h
      rcases List.mem_cons.1 hf with rfl | hf
      · exact h₁
      · exact h₁.trans (h.lt_of_mem hf)
    · subst h₂
      exact List.Pairwise.cons (fun f hf => h.lt_of_mem hf) h.tail
    · refine List.Pairwise.cons (fun f hf => ?_) (ih h.tail)
      rcases mem_insertField hf with rfl | hf
      · exact lt_of_le_of_ne (not_lt.1 h₁) (Ne.symm h₂)
      · exact h.lt_of_mem hf

/-- A key that sorts after every field is added at the end. -/
theorem insertField_of_lt {k : String} {v : Value} {fs : List (String × Value)}
    (h : ∀ f ∈ fs, f.1 < k) : insertField k v fs = fs ++ [(k, v)] := by
  induction fs with
  | nil => rfl
  | cons f fs ih =>
    obtain ⟨k', v'⟩ := f
    have hlt : k' < k := h _ List.mem_cons_self
    simp only [insertField, if_neg (not_lt.2 hlt.le), if_neg (ne_of_gt hlt), List.cons_append,
      ih fun g hg => h g (List.mem_cons_of_mem _ hg)]

/-! ### Fields read from a text -/

theorem Tree.keysSorted_fieldValues :
    ∀ (fs : List (String × Tree)) {acc : List (String × Value)}, KeysSorted acc →
      KeysSorted (Tree.fieldValues fs acc)
  | [], _, h => h
  | (k, t) :: fs, _, h => Tree.keysSorted_fieldValues fs (h.insertField k t.toValue)

/-! ### Edits of an object -/

namespace Value

/-- The value `null`. -/
def isNull : Value → Bool
  | .null => true
  | _ => false

/-- An object with its field `k` set to `d` where that field is missing. -/
def withDefault (k : String) (d : Value) : Value → Value
  | .object fs => .object (if (lookupField k fs).isSome then fs else insertField k d fs)
  | v => v

/-- An object without its field `k` where that field is `null`. -/
def dropNull (k : String) : Value → Value
  | .object fs => .object (fs.filter fun f => !(f.1 == k && f.2.isNull))
  | v => v

/-- An object with `g` applied to the value of its field `k`. -/
def modify (k : String) (g : Value → Value) : Value → Value
  | .object fs => .object (fs.map fun f => (f.1, if f.1 = k then g f.2 else f.2))
  | v => v

/-- An array with `g` applied to each item. -/
def mapItems (g : Value → Value) : Value → Value
  | .array items => .array (items.map g)
  | v => v

end Value

section Edits

variable {fs : List (String × Value)} {k k' : String}

theorem lookupField_withDefault (d : Value) :
    lookupField k' (if (lookupField k fs).isSome then fs else insertField k d fs) =
      if k' = k then (lookupField k fs).or (some d) else lookupField k' fs := by
  by_cases hk : k' = k
  · subst hk
    cases hl : lookupField k' fs <;> simp [hl]
  · rw [if_neg hk]
    split_ifs
    · rfl
    · rw [lookupField_insertField, if_neg hk]

theorem KeysSorted.withDefault (h : KeysSorted fs) (d : Value) :
    KeysSorted (if (lookupField k fs).isSome then fs else Json.insertField k d fs) := by
  split_ifs
  · exact h
  · exact KeysSorted.insertField h k d

/-- Leaving out a `null` field `k` changes the lookup of `k` only. -/
theorem lookupField_dropNull (h : KeysSorted fs) :
    lookupField k' (fs.filter fun f => !(f.1 == k && f.2.isNull)) =
      if k' = k then (lookupField k fs).filter (fun v => !v.isNull) else lookupField k' fs := by
  induction fs with
  | nil => simp
  | cons f fs ih =>
    obtain ⟨k₁, v₁⟩ := f
    have ih := ih h.tail
    rw [List.filter_cons]
    by_cases hk : k₁ = k
    · subst hk
      -- the key leads the fields, so it is nowhere in the rest
      have hnone : lookupField k₁ fs = none :=
        lookupField_eq_none_of_lt fun g hg => h.lt_of_mem hg
      by_cases hk' : k' = k₁
      · subst hk'
        rw [if_pos rfl, hnone] at ih
        cases hv : v₁.isNull
        · simp only [hv, beq_self_eq_true, Bool.and_false, Bool.not_false, if_true, lookupField_cons,
            Option.filter_some, Bool.not_false]
        · simp only [hv, beq_self_eq_true, Bool.and_self, Bool.not_true, Bool.false_eq_true,
            if_false, ih, if_true, lookupField_cons, Option.filter_some, Bool.not_true]
          rfl
      · rw [if_neg hk'] at ih
        cases v₁.isNull <;>
          simp only [beq_self_eq_true, Bool.and_self, Bool.and_false, Bool.not_true,
            Bool.not_false, Bool.false_eq_true, if_false, if_true, lookupField_cons, hk', ih]
    · have hkb : (k₁ == k) = false := by simpa using hk
      simp only [hkb, Bool.false_and, Bool.not_false, if_true, lookupField_cons]
      by_cases hk' : k' = k
      · subst hk'
        rw [if_neg (Ne.symm hk), ih, if_pos rfl, if_pos rfl, if_neg (Ne.symm hk)]
      · rw [ih, if_neg hk', if_neg hk']

theorem KeysSorted.dropNull (h : KeysSorted fs) :
    KeysSorted (fs.filter fun f => !(f.1 == k && f.2.isNull)) :=
  List.Pairwise.filter _ h

theorem lookupField_modify (g : Value → Value) :
    lookupField k' (fs.map fun f => (f.1, if f.1 = k then g f.2 else f.2)) =
      if k' = k then (lookupField k fs).map g else lookupField k' fs := by
  induction fs with
  | nil => split_ifs <;> rfl
  | cons f fs ih =>
    obtain ⟨k₁, v₁⟩ := f
    simp only [List.map_cons, lookupField_cons, ih]
    by_cases h₁ : k' = k₁
    · subst h₁
      by_cases hk : k' = k
      · subst hk
        simp
      · simp [hk]
    · by_cases hk : k' = k
      · subst hk
        simp [h₁]
      · simp [h₁, hk]

theorem KeysSorted.modify (h : KeysSorted fs) (g : Value → Value) :
    KeysSorted (fs.map fun f => (f.1, if f.1 = k then g f.2 else f.2)) :=
  List.Pairwise.map _ (fun _ _ hab => hab) h

end Edits

end CiClient.Json
