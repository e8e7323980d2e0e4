import CiClient.Proofs.SkipReading
import CiClient.Job.Document
/-!
# Typed documents as decodings of trees

A typed document is read by a reader built from the combinators of `Json.Decode`. Its reading is
the decoding of the tree the text reads as, by a function `Tree → Option α` built the same way
(`str?`, `orNull`, `listOf`, `objectOf`):

* `Follows r D F`: where the tree reader reads `t`, the typed reader `r` gives `D t`, ending at
  the same octet, or fails where `D t` is none;
* `Covers r F`: where `r` succeeds, the tree reader reads a tree, ending at the same octet.

Each combinator keeps both properties, so a typed reader succeeds exactly on the texts whose tree
it decodes. A document read with `Reader.skim` (one typed field, the others skipped) gets the same
two facts for its entries (`entries_agree_skim`, `entries_covers_skim`).
-/

namespace CiClient.Json

namespace Tree

variable {α : Type}

def str? : Tree → Option String
  | .string s => some s
  | _ => none

/-- `null` for none, or what `D` decodes. -/
def orNull (D : Tree → Option α) : Tree → Option (Option α)
  | .null => some none
  | t => (D t).map some

/-- An array, each item decoded by `D`. -/
def listOf (D : Tree → Option α) : Tree → Option (List α)
  | .array ts => ts.mapM D
  | _ => none

/-- An object, its fields decoded by `S`. -/
def objectOf (S : List (String × Tree) → Option α) : Tree → Option α
  | .object fs => S fs
  | _ => none

theorem StartsWith.eq_null {t : Tree} (h : t.StartsWith 0x6E) : t = .null := by
  rcases t with _ | ⟨_ | _⟩ | _ | _ | _ | _ <;> simp_all [StartsWith, Scalar.isDigit]

theorem orNull_of_ne {D : Tree → Option α} {t : Tree} (h : t ≠ .null) :
    orNull D t = (D t).map some := by
  cases t <;> simp_all [orNull]

end Tree

namespace Decode

open Reader CiClient.Json.Tree

variable {α β σ : Type}

/-- A reader that never succeeds. -/
def Fails (r : Reader α) : Prop := ∀ c, ∃ e c', r.exec c = (.error e, c')

theorem fails_throw (e : Error) : Fails (throw e : Reader α) := fun c => ⟨e, c, rfl⟩

theorem fails_failAhead (s : Flaw) : Fails (failAhead s : Reader α) :=
  fun c => ⟨_, c, exec_failAhead s c⟩

theorem fails_bind {x : Reader α} {f : α → Reader β} (hf : ∀ a, Fails (f a)) :
    Fails (x >>= f) := by
  intro c
  rw [exec_bind]
  rcases x.exec c with ⟨_ | a, c₁⟩
  · exact ⟨_, _, rfl⟩
  · exact hf a c₁

theorem fails_wrongType (expected : String) : Fails (wrongType expected : Reader α) := by
  unfold wrongType
  refine fails_bind fun p => ?_
  have found : ∀ x : Reader Found, Fails (x >>= fun found =>
      (place (Error.ofMismatch (.invalidType found expected)) >>= fun e => throw e : Reader α)) :=
    fun x => fails_bind fun _ => fails_bind fun e => fails_throw e
  -- the literal, number or string found is read first; an opening bracket is only named
  split
  · exact fails_bind fun _ => fails_bind fun _ => found _
  · exact fails_bind fun _ => fails_bind fun _ => found _
  · exact fails_bind fun _ => fails_bind fun _ => found _
  · exact fails_bind fun _ => fails_bind fun _ => found _
  · exact fails_bind fun _ => fails_bind fun _ => found _
  · exact found _
  · exact found _
  · split
    · exact fails_bind fun _ => found _
    · exact found _
  · exact found _

theorem fails_missing (m : Mismatch) : Fails (missing m : Reader α) := fails_throw _

theorem not_ok_of_fails {r : Reader α} (hr : Fails r) {c c' : Cursor} {a : α} :
    r.exec c ≠ (.ok a, c') := by
  obtain ⟨e, c₁, he⟩ := hr c
  rw [he]
  simp

/-- A typed reading `x` against the decoding `o` of the tree read up to `c'`: the decoded value
with the reading stopped at `c'`, or an error where there is no decoding. -/
def Agrees (x : Except Error α × Cursor) (o : Option α) (c' : Cursor) : Prop :=
  match o with
  | some a => x = (.ok a, c')
  | none => ∃ e c₁, x = (.error e, c₁)

theorem agrees_bind {x : Reader α} {f : α → Reader β} {c c₁ c' : Cursor} {o : Option α}
    {g : α → Option β} (hx : Agrees (x.exec c) o c₁)
    (hf : ∀ a, o = some a → Agrees ((f a).exec c₁) (g a) c') :
    Agrees ((x >>= f).exec c) (o.bind g) c' := by
  cases o with
  | none =>
    obtain ⟨e, c₂, h⟩ := hx
    exact ⟨e, c₂, exec_bind_of_error h f⟩
  | some a =>
    rw [exec_bind_of_ok hx]
    exact hf a rfl

theorem agrees_map {x : Reader α} {c c' : Cursor} {o : Option α} (f : α → β)
    (hx : Agrees (x.exec c) o c') : Agrees ((x >>= fun a => pure (f a)).exec c) (o.map f) c' := by
  rw [Option.map_eq_bind]
  exact agrees_bind hx fun a _ => rfl

theorem Fails.agrees {r : Reader α} (hr : Fails r) (c c' : Cursor) : Agrees (r.exec c) none c' :=
  hr c

/-- An array or object read by a typed reader: the inside, then the closing, one level down. -/
theorem agrees_nested {inside : Reader α} {close : Reader Unit} {c c' : Cursor} {o : Option α}
    (hd : 1 < c.depth)
    (h : Agrees ((inside >>= fun a => leave >>= fun _ => close >>= fun _ => pure a).exec c.enter)
      o c') :
    Agrees ((nested inside close).exec c) o c' := by
  cases o with
  | some a =>
    obtain ⟨a', c₁, hin, h⟩ := exec_bind_ok_inv h
    rw [exec_bind_of_ok (exec_leave _)] at h
    obtain ⟨u, c₂, hcl, hp⟩ := exec_bind_ok_inv h
    obtain ⟨rfl, rfl⟩ := exec_pure_ok_inv hp
    show _ = _
    rw [exec_nested_of_ok hd hin, hcl]
  | none =>
    obtain ⟨e, c₂, h⟩ := h
    rcases hin : inside.exec c.enter with ⟨_ | a, c₁⟩
    · exact exec_nested_of_error hd hin
    · rw [exec_bind_of_ok hin, exec_bind_of_ok (exec_leave _)] at h
      rcases hcl : close.exec c₁.leave with ⟨_ | u, c₃⟩
      · rw [exec_nested_of_ok hd hin, hcl]
        exact ⟨_, _, rfl⟩
      · rw [exec_bind_of_ok hcl] at h
        cases h

theorem agrees_nested_close {inside : Reader α} {close : Reader Unit} {o : Option α}
    {c c₁ c' : Cursor} (hdep : 1 < c.depth) (hin : Agrees (inside.exec c.enter) o c₁)
    (hcl : close.exec c₁.leave = (.ok (), c')) : Agrees ((nested inside close).exec c) o c' := by
  refine agrees_nested hdep ?_
  rw [← Option.bind_fun_some o]
  exact agrees_bind hin fun a _ => by
    rw [exec_bind_of_ok (exec_leave _), exec_bind_of_ok hcl]
    rfl

/-- The typed reader `r` reads what the tree reader reads, from any cursor with room for fuel
`F`, and gives the decoding `D` of the tree read. -/
def Follows (r : Reader α) (D : Tree → Option α) (F : Nat) : Prop :=
  ∀ n c t c', n ≤ F → c.Within F → (tree n).exec c = (.ok t, c') → Agrees (r.exec c) (D t) c'

/-- The same for the reader of an object field's value, which starts before the colon. -/
def FieldFollows (r : Reader α) (D : Tree → Option α) (F : Nat) : Prop :=
  ∀ n c c₁ t c', n ≤ F → c.Within F → colon.exec c = (.ok (), c₁) →
    (tree n).exec c₁ = (.ok t, c') → Agrees (r.exec c) (D t) c'

theorem follows_string (F : Nat) : Follows Decode.string Tree.str? F := by
  intro n c t c' hn hc h
  cases n with
  | zero => simp [tree, exec_failAhead] at h
  | succ n =>
  obtain ⟨b, hb, ht⟩ := tree_succ_inv h
  unfold Decode.string
  rw [exec_bind, exec_blank, hb]
  dsimp only
  by_cases hq : b = 0x22
  · subst hq
    rw [treeAt_string, exec_bind_of_ok (exec_eat _)] at ht
    obtain ⟨s, c₁, hs, hp⟩ := exec_bind_ok_inv ht
    obtain ⟨rfl, rfl⟩ := exec_pure_ok_inv hp
    show _ = _
    simp only
    rw [exec_bind_of_ok (exec_eat _), hs]
  · -- any other octet starts a tree that is not a string
    have hns : t.str? = none := by
      have := treeAt_startsWith ht
      cases t <;> simp_all [Tree.str?, Tree.StartsWith]
    rw [hns]
    split
    · contradiction
    · rename_i heq
      exact absurd (Option.some.inj heq) hq
    · exact (fails_wrongType _).agrees _ _

theorem follows_option {d : Reader α} {D : Tree → Option α} {F : Nat} (hd : Follows d D F) :
    Follows (option d) (Tree.orNull D) F := by
  intro n c t c' hn hc h
  cases n with
  | zero => simp [tree, exec_failAhead] at h
  | succ n =>
  obtain ⟨b, hb, ht⟩ := tree_succ_inv h
  unfold option
  rw [exec_bind, exec_blank, hb]
  dsimp only
  by_cases hnull : b = 0x6E
  · subst hnull
    obtain rfl := (treeAt_startsWith ht).eq_null
    rw [treeAt_null, exec_bind_of_ok (exec_eat _)] at ht
    obtain ⟨u, c₁, hw, hp⟩ := exec_bind_ok_inv ht
    obtain ⟨-, rfl⟩ := exec_pure_ok_inv hp
    show _ = _
    simp only
    rw [exec_bind_of_ok (exec_eat _), exec_bind_of_ok hw]
    rfl
  · -- a value other than `null` is read by `d`
    have hne : t ≠ .null := by
      rintro rfl
      exact hnull (treeAt_startsWith ht)
    rw [Tree.orNull_of_ne hne]
    split
    · rename_i heq
      exact absurd (Option.some.inj heq) hnull
    · exact agrees_map some (hd (n + 1) _ t c' hn hc.skipBlanks (tree_skipBlanks h))

theorem mapM_cons_map (D : Tree → Option α) (t : Tree) (ts : List Tree) (acc : List α) :
    ((t :: ts).mapM D).map (acc.reverse ++ ·) =
      (D t).bind fun v => (ts.mapM D).map ((v :: acc).reverse ++ ·) := by
  rw [List.mapM_cons]
  cases D t <;> cases ts.mapM D <;> simp

/-- The items of an array, read by a typed reader with any fuel `F'` that the tree reader's items
did not need more of. -/
theorem items_agree {d : Reader α} {D : Tree → Option α} {F : Nat} (hd : Follows d D F) :
    ∀ m F' first c ts c₁ acc, m ≤ F → m ≤ F' → c.Within F →
      (treeItems m first).exec c = (.ok ts, c₁) →
      Agrees ((items d F' first acc).exec c) ((ts.mapM D).map (acc.reverse ++ ·)) c₁ := by
  intro m
  induction m with
  | zero =>
    intro F' first c ts c₁ acc _ _ _ h
    simp [treeItems, exec_failAhead] at h
  | succ m ih =>
    intro F' first c ts c₁ acc hm hF' hc h
    obtain ⟨F'', rfl⟩ : ∃ F'', F' = F'' + 1 := ⟨F' - 1, by omega⟩
    rw [treeItems, exec_bind] at h
    rcases hs : (itemStart first).exec c with ⟨_ | more, c₂⟩ <;> rw [hs] at h
    · cases h
    rw [items, exec_bind_of_ok hs]
    cases more with
    | false =>
      obtain ⟨rfl, rfl⟩ := exec_pure_ok_inv h
      simp [Agrees]
    | true =>
      obtain ⟨t, c₃, ht, h⟩ := exec_bind_ok_inv h
      obtain ⟨ts', c₄, hts, hp⟩ := exec_bind_ok_inv h
      obtain ⟨rfl, rfl⟩ := exec_pure_ok_inv hp
      have hc₂ := (keeps_itemStart first).within hs hc
      have hc₃ := (keeps_tree m).within ht hc₂
      rw [mapM_cons_map]
      exact agrees_bind (hd m c₂ t c₃ (by omega) hc₂ ht)
        fun v _ => ih F'' false c₃ ts' c₄ (v :: acc) (by omega) (by omega) hc₃ hts

theorem treeAt_eq_array {I : Reader (List Tree)} {F : Reader (List (String × Tree))} {b : UInt8}
    {c c' : Cursor} {t : Tree} (h : (treeAt I F b).exec c = (.ok t, c')) (hb : b ≠ 0x5B) :
    ∀ ts, t ≠ .array ts := by
  rintro ts rfl
  exact hb (treeAt_startsWith h)

theorem follows_list {d : Reader α} {D : Tree → Option α} {F : Nat} (hd : Follows d D F) :
    Follows (list d F) (Tree.listOf D) F := by
  intro n c t c' hn hc h
  cases n with
  | zero => simp [tree, exec_failAhead] at h
  | succ n =>
  obtain ⟨b, hb, ht⟩ := tree_succ_inv h
  unfold list
  rw [exec_bind, exec_blank, hb]
  dsimp only
  by_cases ha : b = 0x5B
  · subst ha
    rw [treeAt_array] at ht
    obtain ⟨ts, c₁, rfl, hdep, hts, hcl⟩ := nested_bind_ok_inv ht
    refine agrees_nested hdep ?_
    have hi := items_agree hd n F true _ ts c₁ [] (by omega) (by omega) hc.skipBlanks.enter hts
    simp only [List.reverse_nil, List.nil_append, Option.map_id'] at hi
    rw [show Tree.listOf D (.array ts) = (ts.mapM D).bind some from (Option.bind_fun_some _).symm]
    exact agrees_bind hi fun a _ => by
      rw [exec_bind_of_ok (exec_leave _), exec_bind_of_ok hcl]
      rfl
  · -- any other octet starts a tree that is not an array
    have hnone : Tree.listOf D t = none := by
      cases t with
      | array ts => exact absurd rfl (treeAt_eq_array ht ha ts)
      | _ => rfl
    rw [hnone]
    split
    · contradiction
    · rename_i heq
      exact absurd (Option.some.inj heq) ha
    · exact (fails_wrongType _).agrees _ _

/-- The entries of an object, read by a typed reader with any fuel `F'` that the tree reader's
fields did not need more of, each entry after its key read by `entry` as `step` decodes it. -/
theorem entries_agree {entry : σ → String → Reader σ} {step : σ → String → Tree → Option σ}
    {F : Nat} (he : ∀ st k, FieldFollows (entry st k) (step st k) F) :
    ∀ m F' first c fs c₁ st, m ≤ F → m ≤ F' → c.Within F →
      (treeFields m first).exec c = (.ok fs, c₁) →
      Agrees ((entries entry F' first st).exec c) (fs.foldlM (fun st f => step st f.1 f.2) st)
        c₁ := by
  intro m
  induction m with
  | zero =>
    intro F' first c fs c₁ st _ _ _ h
    simp [treeFields, exec_failAhead] at h
  | succ m ih =>
    intro F' first c fs c₁ st hm hF' hc h
    obtain ⟨F'', rfl⟩ : ∃ F'', F' = F'' + 1 := ⟨F' - 1, by omega⟩
    rw [treeFields, exec_bind] at h
    rcases hs : (keyStart first).exec c with ⟨_ | key, c₂⟩ <;> rw [hs] at h
    · cases h
    rw [entries, exec_bind_of_ok hs]
    have hc₂ := (keeps_keyStart first).within hs hc
    cases key with
    | none =>
      obtain ⟨rfl, rfl⟩ := exec_pure_ok_inv h
      rfl
    | some k =>
      obtain ⟨u, c₃, hcol, h⟩ := exec_bind_ok_inv h
      obtain ⟨t, c₄, ht, h⟩ := exec_bind_ok_inv h
      obtain ⟨fs', c₅, hfs, hp⟩ := exec_bind_ok_inv h
      obtain ⟨rfl, rfl⟩ := exec_pure_ok_inv hp
      have hc₄ := (keeps_tree m).within ht (keeps_colon.within hcol hc₂)
      rw [List.foldlM_cons]
      exact agrees_bind (he st k m c₂ c₃ t c₄ (by omega) hc₂ hcol ht)
        fun st' _ => ih F'' false c₄ fs' _ st' (by omega) (by omega) hc₄ hfs

theorem fieldFollows_once {d : Reader α} {D : Tree → Option α} {F : Nat} (hd : Follows d D F)
    (name : String) (seen : Option α) :
    FieldFollows (once name seen d) (fun t => if seen.isSome then none else D t) F := by
  intro n c c₁ t c' hn hc hcol ht
  unfold once
  split
  · exact ⟨_, _, rfl⟩
  · rw [exec_bind_of_ok hcol]
    exact hd n c₁ t c' hn (keeps_colon.within hcol hc) ht

theorem fieldFollows_map {r : Reader α} {D : Tree → Option α} {F : Nat}
    (hr : FieldFollows r D F) (g : α → β) :
    FieldFollows (r >>= fun a => pure (g a)) (fun t => (D t).map g) F :=
  fun n c c₁ t c' hn hc hcol ht => agrees_map g (hr n c c₁ t c' hn hc hcol ht)

theorem fieldFollows_keepExtra (F : Nat) (extra : List (String × Value)) (k : String) :
    FieldFollows (Job.keepExtra F extra k) (fun t => some (insertField k t.toValue extra)) F := by
  intro n c c₁ t c' hn hc hcol ht
  unfold Job.keepExtra
  rw [exec_bind_of_ok hcol, exec_bind_of_ok ((value_of_tree_all F).1 _ _ _
    (tree_of_room ht (keeps_colon.within hcol hc).fuel))]
  rfl

variable {F : Nat}

/-- The body of an object read by a typed reader along the tree reader's fields. -/
def BodyFollows (body : Reader α) (S : List (String × Tree) → Option α) (F : Nat) : Prop :=
  ∀ m c fs c₁, m ≤ F → c.Within F → (treeFields m true).exec c = (.ok fs, c₁) →
    Agrees (body.exec c) (S fs) c₁

/-- The inside of an array read by a typed reader along the tree reader's items, up to and with
its closing bracket. -/
def ItemsFollow (inside : Reader α) (A : List Tree → Option α) (F : Nat) : Prop :=
  ∀ m c ts c₁ c', m ≤ F → c.Within F → (treeItems m true).exec c = (.ok ts, c₁) →
    closeArray.exec c₁.leave = (.ok (), c') →
    Agrees ((inside >>= fun a => leave >>= fun _ => closeArray >>= fun _ => pure a).exec c) (A ts)
      c'

theorem agrees_object {body : Reader α} {S : List (String × Tree) → Option α}
    (hb : BodyFollows body S F) {n : Nat} {c c' : Cursor} {t : Tree} (hn : n ≤ F)
    (hc : c.Within F)
    (h : (treeAt (treeItems n true) (treeFields n true) 0x7B).exec c = (.ok t, c')) :
    ∃ fs, t = .object fs ∧ Agrees ((nested body closeObject).exec c) (S fs) c' := by
  rw [treeAt_object] at h
  obtain ⟨fs, c₁, rfl, hdep, hfs, hcl⟩ := nested_bind_ok_inv h
  exact ⟨fs, rfl, agrees_nested_close hdep (hb n _ fs c₁ hn hc.enter hfs) hcl⟩

theorem agrees_array {inside : Reader α} {A : List Tree → Option α}
    (ha : ItemsFollow inside A F) {n : Nat} {Fl : Reader (List (String × Tree))} {c c' : Cursor}
    {t : Tree} (hn : n ≤ F) (hc : c.Within F)
    (h : (treeAt (treeItems n true) Fl 0x5B).exec c = (.ok t, c')) :
    ∃ ts, t = .array ts ∧ Agrees ((nested inside closeArray).exec c) (A ts) c' := by
  rw [treeAt_array] at h
  obtain ⟨ts, c₁, rfl, hdep, hts, hcl⟩ := nested_bind_ok_inv h
  exact ⟨ts, rfl, agrees_nested hdep (ha n _ ts c₁ _ hn hc.enter hts hcl)⟩

theorem follows_record {body : Reader α} {S : List (String × Tree) → Option α}
    (expected : String) (hb : BodyFollows body S F) :
    Follows (record expected body) (Tree.objectOf S) F := by
  intro n c t c' hn hc h
  cases n with
  | zero => simp [tree, exec_failAhead] at h
  | succ n =>
  obtain ⟨b, hb', ht⟩ := tree_succ_inv h
  unfold record
  rw [exec_bind, exec_blank, hb']
  dsimp only
  by_cases ho : b = 0x7B
  · subst ho
    obtain ⟨fs, rfl, hag⟩ := agrees_object hb (by omega) hc.skipBlanks ht
    exact hag
  · -- any other octet starts a tree that is not an object
    have hnone : Tree.objectOf S t = none := by
      cases t with
      | object fs => exact absurd (treeAt_startsWith ht) ho
      | _ => rfl
    rw [hnone]
    split
    · contradiction
    · rename_i heq
      exact absurd (Option.some.inj heq) ho
    · exact (fails_wrongType _).agrees _ _

/-! The converse: where a typed reader succeeds, the tree reader reads a tree, ending at the same
octet. With `Follows` it gives that the typed reading is the decoding of that tree. -/

/-- Where `r` succeeds with room for fuel `F`, the tree reader with that fuel reads a tree. -/
def Covers (r : Reader α) (F : Nat) : Prop :=
  ∀ c a c', 2 * c.rest.length < F → r.exec c = (.ok a, c') → ∃ t, (tree F).exec c = (.ok t, c')

/-- The same for the reader of an object field's value, which starts before the colon. -/
def FieldCovers (r : Reader α) (F : Nat) : Prop :=
  ∀ c a c', 2 * c.rest.length < F → r.exec c = (.ok a, c') →
    ∃ c₁ t, colon.exec c = (.ok (), c₁) ∧ (tree F).exec c₁ = (.ok t, c')

def BodyCovers (body : Reader α) (F : Nat) : Prop :=
  ∀ m c a c₁, 2 * c.rest.length + 1 < m → 2 * c.rest.length < F → body.exec c = (.ok a, c₁) →
    ∃ fs, (treeFields m true).exec c = (.ok fs, c₁)

theorem covers_string (F : Nat) : Covers Decode.string F := by
  intro c s c' hroom h
  obtain ⟨F, rfl⟩ : ∃ F', F = F' + 1 := ⟨F - 1, by omega⟩
  unfold Decode.string at h
  have h := blank_ok_inv h
  rw [tree, exec_bind, exec_blank]
  split at h
  · exact absurd h (not_ok_of_fails (fails_failAhead _))
  · rename_i hb
    rw [hb]
    dsimp only
    rw [treeAt_string, exec_bind_of_ok (exec_eat _)]
    rw [exec_bind_of_ok (exec_eat _)] at h
    exact ⟨_, by rw [exec_bind_of_ok h]; rfl⟩
  · exact absurd h (not_ok_of_fails (fails_wrongType _))

theorem covers_option {d : Reader α} {F : Nat} (hd : Covers d F) : Covers (option d) F := by
  intro c a c' hroom h
  unfold option at h
  have h := blank_ok_inv h
  split at h
  · -- `null`
    rename_i hb
    obtain ⟨F, rfl⟩ : ∃ F', F = F' + 1 := ⟨F - 1, by omega⟩
    rw [exec_tree_succ_of_head hb, treeAt_null, exec_bind_of_ok (exec_eat _)]
    rw [exec_bind_of_ok (exec_eat _)] at h
    obtain ⟨u, c₁, hw, hp⟩ := exec_bind_ok_inv h
    obtain ⟨-, rfl⟩ := exec_pure_ok_inv hp
    exact ⟨_, by rw [exec_bind_of_ok hw]; rfl⟩
  · -- any other value is read by `d`, after the blanks
    obtain ⟨a', c₁, hd', hp⟩ := exec_bind_ok_inv h
    obtain ⟨-, rfl⟩ := exec_pure_ok_inv hp
    have hroom' : 2 * c.skipBlanks.rest.length < F :=
      Nat.lt_of_le_of_lt (Nat.mul_le_mul_left 2 (Cursor.skipBlanks_length c)) hroom
    obtain ⟨t, ht⟩ := hd _ _ _ hroom' hd'
    exact ⟨t, tree_of_skipBlanks ht⟩

/-- The items of an array that a typed reader reads are items the tree reader reads, given room
for the fuels. The induction is on the tree reader's fuel. -/
theorem covers_items {d : Reader α} {F : Nat} (hd : Covers d F) :
    ∀ m F' first c acc l c₁, 2 * c.rest.length + 1 < m → 2 * c.rest.length < F' →
      2 * c.rest.length < F → (items d F' first acc).exec c = (.ok l, c₁) →
      ∃ ts, (treeItems m first).exec c = (.ok ts, c₁) := by
  intro m
  induction m with
  | zero => intro _ _ _ _ _ _ h; omega
  | succ m ih =>
    intro F' first c acc l c₁ hm hF' hF h
    obtain ⟨F'', rfl⟩ : ∃ F'', F' = F'' + 1 := ⟨F' - 1, by omega⟩
    rw [items, exec_bind] at h
    rw [treeItems, exec_bind]
    rcases hs : (itemStart first).exec c with ⟨_ | more, c₂⟩ <;> rw [hs] at h
    · cases h
    obtain ⟨-, -, hl₂⟩ := keeps_itemStart first _ _ _ hs
    cases more with
    | false => exact ⟨[], (exec_pure_ok_inv h).2 ▸ rfl⟩
    | true =>
      obtain ⟨v, c₃, hv, h⟩ := exec_bind_ok_inv h
      obtain ⟨t, ht⟩ := hd _ _ _ (by omega) hv
      -- the item, read with the whole fuel, is read the same with the fuel the items have left
      have ht' := tree_of_room ht (n := m) (by omega)
      obtain ⟨-, -, hl₃⟩ := (tree_nodes_all F).1 _ _ _ ht
      have := nodes_pos t
      obtain ⟨ts, hts⟩ := ih F'' false c₃ (v :: acc) l c₁ (by omega) (by omega) (by omega) h
      simp only [if_true]
      rw [exec_bind_of_ok ht', exec_bind_of_ok hts]
      exact ⟨_, rfl⟩

theorem covers_list {d : Reader α} {F : Nat} (hd : Covers d F) : Covers (list d F) F := by
  intro c l c' hroom h
  obtain ⟨F', hF⟩ : ∃ F', F = F' + 1 := ⟨F - 1, by omega⟩
  unfold list at h
  have h := blank_ok_inv h
  split at h
  · exact absurd h (not_ok_of_fails (fails_failAhead _))
  · rename_i hb
    obtain ⟨hdep, c₁, hin, hcl⟩ := nested_ok_inv h
    have hroom' : 2 * c.skipBlanks.enter.rest.length + 1 < F' := by
      have := Cursor.advance_length_of_head hb
      have := Cursor.skipBlanks_length c
      simp only [Cursor.enter_rest]
      omega
    obtain ⟨ts, hts⟩ := covers_items hd F' F true _ [] l c₁ hroom' (by omega) (by omega) hin
    rw [hF, exec_tree_succ_of_head hb, treeAt_array]
    exact ⟨_, exec_nested_bind Tree.array hdep hts hcl⟩
  · exact absurd h (not_ok_of_fails (fails_wrongType _))

/-- The entries of an object that a typed reader reads are fields the tree reader reads. -/
theorem covers_entries {entry : σ → String → Reader σ} {F : Nat}
    (he : ∀ st k, FieldCovers (entry st k) F) :
    ∀ m F' first c st st' c₁, 2 * c.rest.length + 1 < m → 2 * c.rest.length < F' →
      2 * c.rest.length < F → (entries entry F' first st).exec c = (.ok st', c₁) →
      ∃ fs, (treeFields m first).exec c = (.ok fs, c₁) := by
  intro m
  induction m with
  | zero => intro _ _ _ _ _ _ h; omega
  | succ m ih =>
    intro F' first c st st' c₁ hm hF' hF h
    obtain ⟨F'', rfl⟩ : ∃ F'', F' = F'' + 1 := ⟨F' - 1, by omega⟩
    rw [entries, exec_bind] at h
    rw [treeFields, exec_bind]
    rcases hs : (keyStart first).exec c with ⟨_ | key, c₂⟩ <;> rw [hs] at h
    · cases h
    obtain ⟨-, -, hl₂⟩ := keeps_keyStart first _ _ _ hs
    cases key with
    | none => exact ⟨[], (exec_pure_ok_inv h).2 ▸ rfl⟩
    | some k =>
      obtain ⟨st'', c₃, hen, h⟩ := exec_bind_ok_inv h
      obtain ⟨c₄, t, hcol, ht⟩ := he st k _ _ _ (by omega) hen
      obtain ⟨-, -, hl₄⟩ := keeps_colon _ _ _ hcol
      have ht' := tree_of_room ht (n := m) (by omega)
      obtain ⟨-, -, hl₃⟩ := (tree_nodes_all F).1 _ _ _ ht
      have := nodes_pos t
      obtain ⟨fs, hfs⟩ := ih F'' false c₃ st'' st' c₁ (by omega) (by omega) (by omega) h
      simp only
      rw [exec_bind_of_ok hcol, exec_bind_of_ok ht', exec_bind_of_ok hfs]
      exact ⟨_, rfl⟩

theorem fieldCovers_once {d : Reader α} {F : Nat} (hd : Covers d F) (name : String)
    (seen : Option α) : FieldCovers (once name seen d) F := by
  intro c a c' hroom h
  unfold once at h
  split at h
  · cases h
  · obtain ⟨u, c₁, hcol, h⟩ := exec_bind_ok_inv h
    obtain ⟨-, -, hl⟩ := keeps_colon _ _ _ hcol
    obtain ⟨t, ht⟩ := hd _ _ _ (by omega) h
    exact ⟨c₁, t, hcol, ht⟩

theorem fieldCovers_map {r : Reader α} {F : Nat} (hr : FieldCovers r F) (g : α → β) :
    FieldCovers (r >>= fun a => pure (g a)) F := by
  intro c b c' hroom h
  obtain ⟨a, c₁, h₁, hp⟩ := exec_bind_ok_inv h
  obtain ⟨-, rfl⟩ := exec_pure_ok_inv hp
  exact hr _ _ _ hroom h₁

theorem fieldCovers_keepExtra (F : Nat) (extra : List (String × Value)) (k : String) :
    FieldCovers (Job.keepExtra F extra k) F := by
  intro c a c' hroom h
  unfold Job.keepExtra at h
  obtain ⟨u, c₁, hcol, h⟩ := exec_bind_ok_inv h
  obtain ⟨v, c₂, hv, hp⟩ := exec_bind_ok_inv h
  obtain ⟨-, rfl⟩ := exec_pure_ok_inv hp
  obtain ⟨-, -, hl⟩ := keeps_colon _ _ _ hcol
  obtain ⟨t, ht, -⟩ := tree_of_value (by omega) hv
  exact ⟨c₁, t, hcol, ht⟩

theorem covers_record {body : Reader α} {F : Nat} (expected : String) (hb : BodyCovers body F) :
    Covers (record expected body) F := by
  intro c a c' hroom h
  obtain ⟨F', hF⟩ : ∃ F', F = F' + 1 := ⟨F - 1, by omega⟩
  unfold record at h
  have h := blank_ok_inv h
  split at h
  · exact absurd h (not_ok_of_fails (fails_failAhead _))
  · rename_i hbr
    obtain ⟨hdep, c₁, hin, hcl⟩ := nested_ok_inv h
    have hroom' : 2 * c.skipBlanks.enter.rest.length + 1 < F' := by
      have := Cursor.advance_length_of_head hbr
      have := Cursor.skipBlanks_length c
      simp only [Cursor.enter_rest]
      omega
    obtain ⟨fs, hfs⟩ := hb F' _ a c₁ hroom' (by simp only [Cursor.enter_rest]; have := Cursor.advance_length_of_head hbr; have := Cursor.skipBlanks_length c; omega) hin
    rw [hF, exec_tree_succ_of_head hbr, treeAt_object]
    exact ⟨_, exec_nested_bind Tree.object hdep hfs hcl⟩
  · exact absurd h (not_ok_of_fails (fails_wrongType _))

section Skimmed

variable {entry : σ → String → Reader σ} {key : String}

/-- The entries of an object skimmed for `key`, read by a typed reader that reads the field `key`
as `step` decodes it and skips every other field, as `skim` does. The induction is on the fuel of
the skimming reader. -/
theorem entries_agree_skim {step : σ → String → Tree → Option σ}
    (hkey : ∀ st, FieldFollows (entry st key) (step st key) F)
    (hother : ∀ st k, k ≠ key →
      entry st k = (colon >>= fun _ => skip F >>= fun _ => pure st) ∧ step st k .null = some st) :
    ∀ m F' first c fs c₁ st, m ≤ F → m ≤ F' → c.Within F →
      (skimFields key F m first).exec c = (.ok fs, c₁) →
      Agrees ((entries entry F' first st).exec c) (fs.foldlM (fun st f => step st f.1 f.2) st)
        c₁ := by
  intro m
  induction m with
  | zero =>
    intro _ _ _ _ _ _ _ _ _ h
    simp [skimFields, exec_failAhead] at h
  | succ m ih =>
    intro F' first c fs c₁ st hm hF' hc h
    obtain ⟨F'', rfl⟩ : ∃ F'', F' = F'' + 1 := ⟨F' - 1, by omega⟩
    rw [skimFields, exec_bind] at h
    rcases hs : (keyStart first).exec c with ⟨_ | k?, c₂⟩ <;> rw [hs] at h
    · cases h
    rw [entries, exec_bind_of_ok hs]
    have hc₂ := (keeps_keyStart first).within hs hc
    cases k? with
    | none =>
      obtain ⟨rfl, rfl⟩ := exec_pure_ok_inv h
      rfl
    | some k =>
      obtain ⟨u, c₃, hcol, h⟩ := exec_bind_ok_inv h
      obtain ⟨t, c₄, ht, h⟩ := exec_bind_ok_inv h
      obtain ⟨fs', c₅, hfs, hp⟩ := exec_bind_ok_inv h
      obtain ⟨rfl, rfl⟩ := exec_pure_ok_inv hp
      have hc₃ := keeps_colon.within hcol hc₂
      rw [List.foldlM_cons]
      unfold skimValue at ht
      by_cases hk : k = key
      · -- the field `key`: read as a tree by the skimming reader, decoded by the typed one
        subst hk
        rw [if_pos rfl] at ht
        have hc₄ := (keeps_tree m).within ht hc₃
        exact agrees_bind (hkey st m c₂ c₃ t c₄ (by omega) hc₂ hcol ht)
          fun st' _ => ih F'' false c₄ fs' _ st' (by omega) (by omega) hc₄ hfs
      · -- any other field: skipped by both
        rw [if_neg hk] at ht
        obtain ⟨u', c₄', hsk, hp'⟩ := exec_bind_ok_inv ht
        obtain ⟨rfl, rfl⟩ := exec_pure_ok_inv hp'
        have hc₄ := (keeps_skip F).within hsk hc₃
        obtain ⟨hentry, hstep⟩ := hother st k hk
        have hrun : (entry st k).exec c₂ = (.ok st, c₄') := by
          rw [hentry, exec_bind_of_ok hcol, exec_bind_of_ok hsk]
          rfl
        rw [hstep]
        exact agrees_bind (o := some st) hrun
          fun st' hst => by
            cases hst
            exact ih F'' false c₄' fs' _ st (by omega) (by omega) hc₄ hfs

/-- Where a typed reader of entries that reads `key` strictly and skips the other fields
succeeds, the skimming reader reads the fields too. -/
theorem entries_covers_skim (hkey : ∀ st, FieldCovers (entry st key) F)
    (hother : ∀ st k, k ≠ key → entry st k = (colon >>= fun _ => skip F >>= fun _ => pure st)) :
    ∀ m F' first c st st' c₁, 2 * c.rest.length + 1 < m → 2 * c.rest.length < F' →
      2 * c.rest.length < F → (entries entry F' first st).exec c = (.ok st', c₁) →
      ∃ fs, (skimFields key F m first).exec c = (.ok fs, c₁) := by
  intro m
  induction m with
  | zero => intro _ _ _ _ _ _ h; omega
  | succ m ih =>
    intro F' first c st st' c₁ hm hF' hF h
    obtain ⟨F'', rfl⟩ : ∃ F'', F' = F'' + 1 := ⟨F' - 1, by omega⟩
    rw [entries, exec_bind] at h
    rw [skimFields, exec_bind]
    rcases hs : (keyStart first).exec c with ⟨_ | k?, c₂⟩ <;> rw [hs] at h
    · cases h
    cases k? with
    | none => exact ⟨[], (exec_pure_ok_inv h).2 ▸ rfl⟩
    | some k =>
      have hl₂ := keyStart_some_length hs
      obtain ⟨st'', c₃, hen, h⟩ := exec_bind_ok_inv h
      -- the value: read as a tree for `key`, skipped otherwise; either way it ends at `c₃`
      have hval : ∃ c₄ t, colon.exec c₂ = (.ok (), c₄) ∧
          (skimValue key k F m).exec c₄ = (.ok t, c₃) := by
        unfold skimValue
        by_cases hk : k = key
        · subst hk
          obtain ⟨c₄, t, hcol, ht⟩ := hkey st _ _ _ (by omega) hen
          obtain ⟨-, -, hl₄⟩ := keeps_colon _ _ _ hcol
          exact ⟨c₄, t, hcol, by rw [if_pos rfl]; exact tree_of_room ht (by omega)⟩
        · rw [hother st k hk] at hen
          obtain ⟨u, c₄, hcol, hen⟩ := exec_bind_ok_inv hen
          obtain ⟨u', c₅, hsk, hp⟩ := exec_bind_ok_inv hen
          obtain ⟨-, rfl⟩ := exec_pure_ok_inv hp
          exact ⟨c₄, .null, hcol, by rw [if_neg hk, exec_bind_of_ok hsk]; rfl⟩
      obtain ⟨c₄, t, hcol, hv⟩ := hval
      obtain ⟨-, -, hl₄⟩ := keeps_colon _ _ _ hcol
      have hv' := hv
      unfold skimValue at hv'
      have hl₃ : c₃.rest.length ≤ c₄.rest.length := by
        split at hv'
        · exact ((keeps_tree m) _ _ _ hv').2.2
        · obtain ⟨u', c₅, hsk, hp⟩ := exec_bind_ok_inv hv'
          obtain ⟨-, rfl⟩ := exec_pure_ok_inv hp
          exact ((keeps_skip F) _ _ _ hsk).2.2
      obtain ⟨fs, hfs⟩ := ih F'' false c₃ st'' st' c₁ (by omega) (by omega) (by omega) h
      simp only
      rw [exec_bind_of_ok hcol, exec_bind_of_ok hv, exec_bind_of_ok hfs]
      exact ⟨_, rfl⟩

end Skimmed

theorem Cursor.start_within (bytes : List UInt8) :
    (Cursor.start bytes).Within (fuelFor bytes.length) := by
  refine ⟨?_, ?_⟩
  · show bytes.length < bytes.length + 1
    omega
  · show 2 * bytes.length < 2 * bytes.length + 8
    omega

/-- A whole text decodes to `a` when the reader gives `a` and only blanks follow. -/
theorem decodeWith_eq_ok_iff {r : Nat → Reader α} {bytes : List UInt8} {a : α} :
    decodeWith r bytes = .ok a ↔ ∃ c', (r (fuelFor bytes.length)).exec (Cursor.start bytes) =
      (.ok a, c') ∧ c'.skipBlanks.rest.head? = none := by
  constructor
  · intro h
    change ((r (fuelFor bytes.length) >>= _).exec (Cursor.start bytes)).1 = _ at h
    rw [exec_bind] at h
    rcases hr : (r (fuelFor bytes.length)).exec (Cursor.start bytes) with ⟨_ | a', c'⟩ <;>
      rw [hr] at h
    · cases h
    dsimp only at h
    rw [exec_bind, exec_blank] at h
    cases hb : c'.skipBlanks.rest.head? with
    | some b =>
      rw [hb] at h
      simp [exec_failAhead] at h
    | none =>
      rw [hb] at h
      have ha : a' = a := Except.ok.inj h
      exact ⟨c', by rw [ha], hb⟩
  · rintro ⟨c', hr, hb⟩
    change ((r (fuelFor bytes.length) >>= _).exec (Cursor.start bytes)).1 = _
    rw [exec_bind_of_ok hr, exec_bind, exec_blank, hb]
    rfl

end Decode

end CiClient.Json
