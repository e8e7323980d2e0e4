import CiClient.Proofs.ValueTree
/-!
# Skipping a value

`Reader.skip` passes over a value without building it: a loop over a stack of open frames, with
no limit on the nesting and the lenient scanners. Wherever the tree reader reads a value, skipping
it ends at the same octet (`skip_of_tree`): the run of the skipping machine is followed along the
tree, node by node, one lemma per reader of the tree (`skips_all`). Skipping only reads forward
(`keeps_skip`).

`Reader.skim key` reads a value as the tree reader does, except that of an object only the field
`key` is read: the others are skipped and stand as `null`. That is how a document with one typed
field and no catch-all is read. Where the tree reader reads a text, skimming reads it as the same
tree with the other fields blanked (`skim_of_tree`); where the other fields are not JSON the tree
reader accepts, skimming may still read the text.
-/

namespace CiClient.Json

namespace Tree

/-- The fields with every one but `key` replaced by `null`. -/
def skimmedFields (key : String) (fs : List (String × Tree)) : List (String × Tree) :=
  fs.map fun f => (f.1, if f.1 = key then f.2 else .null)

/-- The tree with, if it is an object, every field but `key` replaced by `null`. -/
def skimmed (key : String) : Tree → Tree
  | .object fs => .object (skimmedFields key fs)
  | t => t

end Tree

namespace Reader

open CiClient.Json.Tree

/-- The first step of skipping a value: a scalar is read past, an opening bracket opens a frame. -/
def skipOpen : Reader (Option Frame) := do
  match ← blank with
  | none => failAhead .eofWhileParsingValue
  | some b =>
    if b = 0x6E then do eat; nullRest; pure none
    else if b = 0x74 then do eat; trueRest; pure none
    else if b = 0x66 then do eat; falseRest; pure none
    else if b = 0x2D then do eat; scan Scalar.skipNumber; pure none
    else if Scalar.isDigit b then do scan Scalar.skipNumber; pure none
    else if b = 0x22 then do eat; scan (Scalar.skipString (← get).budget); pure none
    else if b = 0x5B then do eat; pure (some .array)
    else if b = 0x7B then do eat; pure (some .object)
    else failAhead .expectedSomeValue

/-- Skipping goes on after the frames closed, at the innermost frame still open. -/
def skipResume (fuel : Nat) : Option (Frame × List Frame) → Reader Unit
  | none => return
  | some (f, s) => do
    if f = .object then skipKey
    skipValues fuel (f :: s)

/-- What is left of skipping once a value is read past, with the frames `stack` open. -/
def skipAfter (fuel : Nat) : List Frame → Reader Unit
  | [] => return
  | f :: s => closeFrames fuel true f s >>= skipResume fuel

theorem exec_skipValues_succ (fuel : Nat) (stack : List Frame) (c : Cursor) :
    (skipValues (fuel + 1) stack).exec c = (skipOpen >>= fun opened =>
      match opened with
      | some f => closeFrames fuel false f stack >>= skipResume fuel
      | none => skipAfter fuel stack).exec c := by
  rw [skipValues.eq_def]
  simp only [skipOpen, bind_assoc]
  rw [exec_bind, exec_bind, exec_blank]
  dsimp only
  cases c.skipBlanks.rest.head? with
  | none => rw [exec_bind, exec_bind, exec_failAhead]
  | some b =>
    dsimp only
    split_ifs <;> simp only [bind_assoc, pure_bind, exec_bind, exec_failAhead] <;> cases stack <;> rfl

/-- Closing frames pops one per closing bracket, so fuel beyond the frames open does not count. -/
theorem closeFrames_fuel {stack : List Frame} {fuel fuel' : Nat} (h : stack.length < fuel)
    (h' : stack.length < fuel') (acceptComma : Bool) (frame : Frame) :
    closeFrames fuel acceptComma frame stack = closeFrames fuel' acceptComma frame stack := by
  induction stack generalizing fuel fuel' acceptComma frame with
  | nil =>
    obtain ⟨k, rfl⟩ : ∃ k, fuel = k + 1 := ⟨fuel - 1, by simp at h; omega⟩
    obtain ⟨k', rfl⟩ : ∃ k', fuel' = k' + 1 := ⟨fuel' - 1, by simp at h'; omega⟩
    simp only [closeFrames]
  | cons f s ih =>
    obtain ⟨k, rfl⟩ : ∃ k, fuel = k + 1 := ⟨fuel - 1, by simp at h; omega⟩
    obtain ⟨k', rfl⟩ : ∃ k', fuel' = k' + 1 := ⟨fuel' - 1, by simp at h'; omega⟩
    simp only [closeFrames]
    rw [ih (by simp at h; omega) (by simp at h'; omega)]

def closer : Frame → UInt8
  | .array => 0x5D
  | .object => 0x7D

theorem exec_closeFrames_close (frame : Frame) {acceptComma : Bool} {stack : List Frame}
    {k : Nat} {c : Cursor} (hb : c.skipBlanks.rest.head? = some (closer frame))
    (hk : stack.length < k) :
    (closeFrames k acceptComma frame stack >>= skipResume k).exec c =
      (skipAfter k stack).exec c.skipBlanks.advance := by
  obtain ⟨k', rfl⟩ : ∃ k', k = k' + 1 := ⟨k - 1, by omega⟩
  rw [exec_bind]
  simp only [closeFrames]
  rw [exec_bind, exec_blank]
  cases frame <;> simp only [closer] at hb <;> simp only [hb] <;>
    simp only [if_true, reduceCtorEq, if_false] <;> rw [exec_bind_of_ok (exec_eat _)] <;>
    cases stack with
    | nil => rfl
    | cons f s =>
      simp only [skipAfter]
      rw [@closeFrames_fuel s k' (k' + 1) (by simp at hk; omega) (by simp at hk; omega),
        exec_bind]

theorem exec_closeFrames_open (frame : Frame) {stack : List Frame} {k : Nat} {c : Cursor}
    {b : UInt8} (hb : c.skipBlanks.rest.head? = some b) (hne : b ≠ closer frame) (hk : 0 < k) :
    (closeFrames k false frame stack >>= skipResume k).exec c =
      (skipResume k (some (frame, stack))).exec c.skipBlanks := by
  obtain ⟨k', rfl⟩ : ∃ k', k = k' + 1 := ⟨k - 1, by omega⟩
  have hopen : (closeFrames (k' + 1) false frame stack).exec c =
      (.ok (some (frame, stack)), c.skipBlanks) := by
    simp only [closeFrames]
    rw [exec_bind, exec_blank]
    simp only [hb]
    split
    · rfl
    · rename_i heq
      cases frame
      · exact absurd (Option.some.inj heq) hne
      · rfl
    · rename_i heq
      cases frame
      · rfl
      · exact absurd (Option.some.inj heq) hne
    · rfl
    · rename_i heq
      cases heq
  rw [exec_bind_of_ok hopen]

theorem exec_closeFrames_comma {frame : Frame} {stack : List Frame} {k : Nat} {c : Cursor}
    (hb : c.skipBlanks.rest.head? = some 0x2C) (hk : 0 < k) :
    (closeFrames k true frame stack >>= skipResume k).exec c =
      (skipResume k (some (frame, stack))).exec c.skipBlanks.advance := by
  obtain ⟨k', rfl⟩ : ∃ k', k = k' + 1 := ⟨k - 1, by omega⟩
  rw [exec_bind]
  simp only [closeFrames]
  rw [exec_bind, exec_blank]
  simp only [hb, if_true]
  rw [exec_bind_of_ok (exec_eat _)]
  rfl

theorem exec_word_withDepth (w : List UInt8) (c : Cursor) (d : Nat) :
    (word w).exec { c with depth := d } =
      (((word w).exec c).1, { ((word w).exec c).2 with depth := d }) := by
  induction w generalizing c with
  | nil => rfl
  | cons x ws ih =>
    unfold word
    rw [exec_bind, exec_next, exec_bind, exec_next]
    simp only [Cursor.advance_withDepth]
    split
    · simp [fail, exec_bind]
    · split
      · exact ih _
      · simp [fail, exec_bind]

variable {α β γ δ : Type}

/-- A reader that does not look at the nesting levels left: run with another count, it does the
same and leaves that count as it was. -/
def DepthFree (x : Reader α) : Prop :=
  ∀ c d, x.exec { c with depth := d } = ((x.exec c).1, { (x.exec c).2 with depth := d })

theorem depthFree_eat : DepthFree eat := fun c d => by simp

theorem depthFree_bind {x : Reader α} {f : α → Reader β} (hx : DepthFree x)
    (hf : ∀ a, DepthFree (f a)) : DepthFree (x >>= f) := by
  intro c d
  rw [exec_bind, exec_bind, hx]
  rcases x.exec c with ⟨_ | a, c₁⟩
  · rfl
  · exact hf a c₁ d

theorem depthFree_scan (f : List UInt8 → Pos → Scalar.Scan α) : DepthFree (scan f) := by
  intro c d
  rcases hf : f c.rest c.pos with e | ⟨a, r, p⟩
  · rw [exec_scan_of_error hf, exec_scan_of_error (c := { c with depth := d }) hf]
  · rw [exec_scan_of_ok hf, exec_scan_of_ok (c := { c with depth := d }) hf]

theorem depthFree_scanBudget (f : Nat → List UInt8 → Pos → Scalar.Scan α) :
    DepthFree (get >>= fun c => scan (f c.budget)) := by
  intro c d
  rw [exec_bind, exec_get, exec_bind, exec_get]
  exact depthFree_scan _ c d

/-- A scalar read at one nesting count is read past the same way at any other, by a reader
that ignores what was read. -/
theorem exec_ok_withDepth {x : Reader α} {y : Reader β} {g : α → γ} {c c' : Cursor} {t : γ}
    (hy : DepthFree y) (hxy : ∀ a, x.exec c = (.ok a, c') → ∃ b, y.exec c = (.ok b, c'))
    (h : (x >>= fun a => pure (g a)).exec c = (.ok t, c')) (w : δ) (d : Nat) :
    (y >>= fun _ => pure w).exec { c with depth := d } = (.ok w, { c' with depth := d }) := by
  obtain ⟨a, c₁, hx, hp⟩ := exec_bind_ok_inv h
  obtain ⟨-, rfl⟩ := exec_pure_ok_inv hp
  obtain ⟨b, hb⟩ := hxy a hx
  rw [exec_bind, hy, hb]
  rfl

theorem scan_skipNumber_of_number {positive : Bool} {c c' : Cursor} {n : Number}
    (h : (number positive).exec c = (.ok n, c')) :
    (scan Scalar.skipNumber).exec c = (.ok (), c') := by
  obtain ⟨hs, hc⟩ := scan_ok h
  rw [exec_scan_of_ok (Scalar.skip_number hs), hc]

theorem scan_skipString_of_string {c c' : Cursor} {s : String} {fuel : Nat}
    (h : string.exec c = (.ok s, c')) (hfuel : c.rest.length ≤ fuel) :
    (scan (Scalar.skipString fuel)).exec c = (.ok (), c') := by
  rw [exec_string] at h
  obtain ⟨hs, hc⟩ := scan_ok h
  rw [exec_scan_of_ok (Scalar.skip_string hs fuel hfuel), hc]

theorem skipOpen_of_scalar {I : Reader (List Tree)} {F : Reader (List (String × Tree))}
    {b : UInt8} {c c' : Cursor} {t : Tree} (hb : c.skipBlanks.rest.head? = some b)
    (ha : b ≠ 0x5B) (ho : b ≠ 0x7B) (hbud : c.InBudget)
    (h : (treeAt I F b).exec c.skipBlanks = (.ok t, c')) (d : Nat) :
    skipOpen.exec { c with depth := d } = (.ok none, { c' with depth := d }) := by
  unfold skipOpen
  rw [exec_bind, exec_blank, Cursor.skipBlanks_withDepth]
  dsimp only
  rw [hb]
  unfold treeAt at h
  simp only [← bind_assoc] at h ⊢
  have hword : ∀ w, DepthFree (eat >>= fun _ => word w) := fun w =>
    depthFree_bind depthFree_eat fun _ => exec_word_withDepth w
  split_ifs at h ⊢
  · exact exec_ok_withDepth (hword _) (fun a h => ⟨a, h⟩) h none d
  · exact exec_ok_withDepth (hword _) (fun a h => ⟨a, h⟩) h none d
  · exact exec_ok_withDepth (hword _) (fun a h => ⟨a, h⟩) h none d
  · refine exec_ok_withDepth (depthFree_bind depthFree_eat fun _ => depthFree_scan _)
      (fun n hx => ?_) h none d
    obtain ⟨u, c₁, he, hn⟩ := exec_bind_ok_inv hx
    exact ⟨(), by rw [exec_bind_of_ok he]; exact scan_skipNumber_of_number hn⟩
  · exact exec_ok_withDepth (depthFree_scan _)
      (fun n hx => ⟨(), scan_skipNumber_of_number hx⟩) h none d
  · have hy : DepthFree ((eat >>= fun _ => get) >>= fun x => scan (Scalar.skipString x.budget)) := by
      rw [bind_assoc]
      exact depthFree_bind depthFree_eat fun _ => depthFree_scanBudget _
    refine exec_ok_withDepth hy (fun s hx => ?_) h none d
    obtain ⟨u, c₁, he, hs⟩ := exec_bind_ok_inv hx
    obtain ⟨-, rfl⟩ := Prod.mk.inj he
    -- the string scanner ran with the whole text's length as its fuel, so it is enough
    have hfuel : c.skipBlanks.advance.rest.length ≤ c.skipBlanks.budget := by
      simpa using Nat.le_of_lt hbud.skipBlanks.advance
    refine ⟨(), ?_⟩
    rw [bind_assoc, exec_bind_of_ok (exec_eat _), exec_bind_of_ok (exec_get _)]
    exact scan_skipString_of_string hs (by simpa using hfuel)
  · rw [exec_failAhead] at h
    cases h

theorem exec_skipKey {c ck cc : Cursor} {k : String}
    (hq : c.skipBlanks.rest.head? = some 0x22) (hs : string.exec c.skipBlanks.advance = (.ok k, ck))
    (hc : colon.exec ck = (.ok (), cc)) (hbud : c.InBudget) (d : Nat) :
    skipKey.exec { c with depth := d } = (.ok (), { cc with depth := d }) := by
  unfold skipKey
  rw [exec_bind, exec_blank, Cursor.skipBlanks_withDepth]
  simp only [hq]
  rw [exec_bind_of_ok (exec_eat _), Cursor.advance_withDepth, exec_bind_of_ok (exec_get _)]
  have hfuel : c.skipBlanks.advance.rest.length ≤ c.skipBlanks.advance.budget :=
    Nat.le_of_lt hbud.skipBlanks.advance
  rw [exec_bind, depthFree_scan, scan_skipString_of_string hs hfuel]
  obtain ⟨hcol, rfl⟩ := colon_ok hc
  dsimp only
  rw [exec_bind, exec_blank, Cursor.skipBlanks_withDepth]
  simp only [hcol]
  rw [exec_eat, Cursor.advance_withDepth]

theorem exec_skipResume_array (k : Nat) (S : List Frame) (c : Cursor) :
    (skipResume k (some (.array, S))).exec c = (skipValues k (.array :: S)).exec c := by
  simp only [skipResume, reduceCtorEq, if_false]

theorem exec_skipResume_object (k : Nat) (S : List Frame) (c : Cursor) :
    (skipResume k (some (.object, S))).exec c =
      (skipKey >>= fun _ => skipValues k (.object :: S)).exec c := by
  simp only [skipResume, if_true]

theorem exec_skipOpen_array {c : Cursor} (hb : c.skipBlanks.rest.head? = some 0x5B) :
    skipOpen.exec c = (.ok (some .array), c.skipBlanks.advance) := by
  unfold skipOpen
  rw [exec_bind, exec_blank]
  simp only [hb]
  simp [Scalar.isDigit, exec_map]

theorem exec_skipOpen_object {c : Cursor} (hb : c.skipBlanks.rest.head? = some 0x7B) :
    skipOpen.exec c = (.ok (some .object), c.skipBlanks.advance) := by
  unfold skipOpen
  rw [exec_bind, exec_blank]
  simp only [hb]
  simp [Scalar.isDigit, exec_map]

/-- Skipping a value read as `t` takes one step of fuel a node and stops where reading stopped,
the frames `S` outside it still open. -/
def SkipsTree (n : Nat) : Prop :=
  ∀ c t c', (tree n).exec c = (.ok t, c') → c.InBudget →
    ∀ k S d, S.length + t.nodes < k →
      (skipValues (k + t.nodes) S).exec { c with depth := d } =
        (skipAfter k S).exec { c' with depth := d }

/-- The items of an array read as `ts`, up to its closing bracket, are skipped the same way. -/
def SkipsItems (n : Nat) : Prop :=
  ∀ first c ts c₁, (treeItems n first).exec c = (.ok ts, c₁) → c.InBudget →
    c₁.skipBlanks.rest.head? = some 0x5D →
    ∀ k S d, S.length + itemsNodes ts + 1 < k →
      (closeFrames (k + itemsNodes ts) (!first) .array S >>=
          skipResume (k + itemsNodes ts)).exec { c with depth := d } =
        (skipAfter k S).exec { c₁.skipBlanks.advance with depth := d }

/-- The fields of an object read as `fs`, up to its closing brace, are skipped the same way. -/
def SkipsFields (n : Nat) : Prop :=
  ∀ first c fs c₁, (treeFields n first).exec c = (.ok fs, c₁) → c.InBudget →
    c₁.skipBlanks.rest.head? = some 0x7D →
    ∀ k S d, S.length + fieldsNodes fs + 1 < k →
      (closeFrames (k + fieldsNodes fs) (!first) .object S >>=
          skipResume (k + fieldsNodes fs)).exec { c with depth := d } =
        (skipAfter k S).exec { c₁.skipBlanks.advance with depth := d }

theorem skipsTree_succ {n : Nat} (hi : SkipsItems n) (hf : SkipsFields n) : SkipsTree (n + 1) := by
  intro c t c' h hbud k S d hk
  rw [tree, exec_bind, exec_blank] at h
  cases hb : c.skipBlanks.rest.head? with
  | none => simp [hb, exec_failAhead] at h
  | some b =>
    simp only [hb] at h
    have hb' : ({ c with depth := d } : Cursor).skipBlanks.rest.head? = some b := hb
    -- the inside of an array or object starts one octet on, whatever the nesting count
    have hin : ({ c with depth := d } : Cursor).skipBlanks.advance =
        { c.skipBlanks.enter with depth := d } := by
      rw [Cursor.skipBlanks_withDepth, Cursor.advance_withDepth]
      exact (Cursor.enter_withDepth _ _).symm
    by_cases ha : b = 0x5B
    · subst ha
      rw [treeAt_array] at h
      obtain ⟨ts, c₁, rfl, -, hts, hcl⟩ := nested_bind_ok_inv h
      obtain ⟨hclose, rfl⟩ := closeArray_ok hcl
      simp only [Tree.nodes] at hk ⊢
      rw [← Nat.add_assoc, exec_skipValues_succ, exec_bind_of_ok (exec_skipOpen_array hb'), hin,
        Cursor.leave_withDepth]
      exact hi true _ ts c₁ hts hbud.skipBlanks.enter hclose k S d (by omega)
    by_cases ho : b = 0x7B
    · subst ho
      rw [treeAt_object] at h
      obtain ⟨fs, c₁, rfl, -, hfs, hcl⟩ := nested_bind_ok_inv h
      obtain ⟨hclose, rfl⟩ := closeObject_ok hcl
      simp only [Tree.nodes] at hk ⊢
      rw [← Nat.add_assoc, exec_skipValues_succ, exec_bind_of_ok (exec_skipOpen_object hb'), hin,
        Cursor.leave_withDepth]
      exact hf true _ fs c₁ hfs hbud.skipBlanks.enter hclose k S d (by omega)
    · rw [nodes_of_treeAt ha ho h, exec_skipValues_succ,
        exec_bind_of_ok (skipOpen_of_scalar hb ha ho hbud h d)]

theorem skipsItems_succ {n : Nat} (hv : SkipsTree n) (hi : SkipsItems n) :
    SkipsItems (n + 1) := by
  intro first c ts c₁ h hbud hclose k S d hk
  -- an item read from `x` and the items after it: the two ways to an item end here
  have item : ∀ (x : Cursor) t c₂ ts', x.InBudget → (tree n).exec x = (.ok t, c₂) →
      (treeItems n false).exec c₂ = (.ok ts', c₁) → S.length + itemsNodes (t :: ts') + 1 < k →
      (skipValues (k + itemsNodes (t :: ts')) (.array :: S)).exec { x with depth := d } =
        (skipAfter k S).exec { c₁.skipBlanks.advance with depth := d } := by
    intro x t c₂ ts' hx ht hts hk
    simp only [Tree.itemsNodes] at hk ⊢
    rw [show k + (t.nodes + itemsNodes ts') = k + itemsNodes ts' + t.nodes by omega,
      hv x t c₂ ht hx _ _ d (by simp; omega)]
    exact hi false c₂ ts' c₁ hts ((keeps_tree n).inBudget ht hx) hclose k S d (by omega)
  rw [treeItems, exec_bind] at h
  rcases hs : (itemStart first).exec c with ⟨_ | more, c₂⟩ <;> rw [hs] at h
  · cases h
  rcases itemStart_ok hs with ⟨rfl, hb, rfl⟩ | ⟨rfl, rfl, rfl, b, hb, hne⟩ |
      ⟨rfl, rfl, hb, rfl, b, -, -⟩
  · -- the closing bracket: no items
    obtain ⟨rfl, rfl⟩ := exec_pure_ok_inv h
    rw [exec_closeFrames_close .array (c := { c with depth := d }) hb (by simp; omega),
      Cursor.skipBlanks_withDepth, Cursor.advance_withDepth, Cursor.skipBlanks_skipBlanks,
      itemsNodes, Nat.add_zero]
  · -- the first item
    obtain ⟨t, c₃, ht, h⟩ := exec_bind_ok_inv h
    obtain ⟨ts', c₄, hts, hp⟩ := exec_bind_ok_inv h
    obtain ⟨rfl, rfl⟩ := exec_pure_ok_inv hp
    rw [Bool.not_true, exec_closeFrames_open .array (c := { c with depth := d }) hb hne (by omega),
      exec_skipResume_array]
    exact item _ t c₃ ts' hbud.skipBlanks ht hts hk
  · -- a comma, then the next item
    obtain ⟨t, c₃, ht, h⟩ := exec_bind_ok_inv h
    obtain ⟨ts', c₄, hts, hp⟩ := exec_bind_ok_inv h
    obtain ⟨rfl, rfl⟩ := exec_pure_ok_inv hp
    rw [Bool.not_false, exec_closeFrames_comma (c := { c with depth := d }) hb (by omega),
      exec_skipResume_array, Cursor.skipBlanks_withDepth, Cursor.advance_withDepth]
    exact item _ t c₃ ts' hbud.skipBlanks.advance (tree_of_skipBlanks ht) hts hk

theorem skipsFields_succ {n : Nat} (hv : SkipsTree n) (hf : SkipsFields n) :
    SkipsFields (n + 1) := by
  intro first c fs c₁ h hbud hclose k S d hk
  -- a field whose key starts at `x`, and the fields after it: the two ways to a key end here
  have field : ∀ (x : Cursor) key c₂ c₃ t c₄ fs', x.InBudget → x.skipBlanks.rest.head? = some 0x22 →
      string.exec x.skipBlanks.advance = (.ok key, c₂) → colon.exec c₂ = (.ok (), c₃) →
      (tree n).exec c₃ = (.ok t, c₄) → (treeFields n false).exec c₄ = (.ok fs', c₁) →
      S.length + fieldsNodes ((key, t) :: fs') + 1 < k →
      (skipKey >>= fun _ => skipValues (k + fieldsNodes ((key, t) :: fs')) (.object :: S)).exec
          { x with depth := d } =
        (skipAfter k S).exec { c₁.skipBlanks.advance with depth := d } := by
    intro x key c₂ c₃ t c₄ fs' hx hq hs hc ht hfs hk
    have hb₃ : c₃.InBudget := keeps_colon.inBudget hc (keeps_string.inBudget hs hx.skipBlanks.advance)
    simp only [Tree.fieldsNodes] at hk ⊢
    rw [exec_bind_of_ok (exec_skipKey hq hs hc hx d),
      show k + (t.nodes + fieldsNodes fs') = k + fieldsNodes fs' + t.nodes by omega,
      hv c₃ t c₄ ht hb₃ _ _ d (by simp; omega)]
    exact hf false c₄ fs' c₁ hfs ((keeps_tree n).inBudget ht hb₃) hclose k S d (by omega)
  rw [treeFields, exec_bind] at h
  rcases hs : (keyStart first).exec c with ⟨_ | key, c₂⟩ <;> rw [hs] at h
  · cases h
  rcases keyStart_ok hs with ⟨rfl, hb, rfl⟩ | ⟨key, rfl, rfl, hq, hstr⟩ |
      ⟨key, rfl, rfl, hb, hq, hstr⟩
  · -- the closing brace: no fields
    obtain ⟨rfl, rfl⟩ := exec_pure_ok_inv h
    rw [exec_closeFrames_close .object (c := { c with depth := d }) hb (by simp; omega),
      Cursor.skipBlanks_withDepth, Cursor.advance_withDepth, Cursor.skipBlanks_skipBlanks,
      fieldsNodes, Nat.add_zero]
  · -- the first field
    obtain ⟨u, c₃, hc, h⟩ := exec_bind_ok_inv h
    obtain ⟨t, c₄, ht, h⟩ := exec_bind_ok_inv h
    obtain ⟨fs', c₅, hfs, hp⟩ := exec_bind_ok_inv h
    obtain ⟨rfl, rfl⟩ := exec_pure_ok_inv hp
    rw [Bool.not_true, exec_closeFrames_open .object (c := { c with depth := d }) hq
        (by decide) (by omega), exec_skipResume_object]
    exact field _ key c₂ c₃ t c₄ fs' hbud.skipBlanks (by simpa using hq) (by simpa using hstr) hc
      ht hfs hk
  · -- a comma, then the next field
    obtain ⟨u, c₃, hc, h⟩ := exec_bind_ok_inv h
    obtain ⟨t, c₄, ht, h⟩ := exec_bind_ok_inv h
    obtain ⟨fs', c₅, hfs, hp⟩ := exec_bind_ok_inv h
    obtain ⟨rfl, rfl⟩ := exec_pure_ok_inv hp
    rw [Bool.not_false, exec_closeFrames_comma (c := { c with depth := d }) hb (by omega),
      exec_skipResume_object, Cursor.skipBlanks_withDepth, Cursor.advance_withDepth]
    exact field _ key c₂ c₃ t c₄ fs' hbud.skipBlanks.advance hq hstr hc ht hfs hk

/-- The skipping machine follows the reading of a tree, at every fuel of the reading. -/
theorem skips_all (n : Nat) : SkipsTree n ∧ SkipsItems n ∧ SkipsFields n := by
  induction n with
  | zero =>
    refine ⟨fun _ _ _ h => ?_, fun _ _ _ _ h => ?_, fun _ _ _ _ h => ?_⟩ <;>
      simp [tree, treeItems, treeFields, exec_failAhead] at h
  | succ n ih =>
    obtain ⟨hv, hi, hf⟩ := ih
    exact ⟨skipsTree_succ hi hf, skipsItems_succ hv hi, skipsFields_succ hv hf⟩

/-- Skipping with more than twice the nodes of a value as fuel ends where reading it ends. -/
theorem skip_of_tree {n F : Nat} {c c' : Cursor} {t : Tree} (h : (tree n).exec c = (.ok t, c'))
    (hbud : c.InBudget) (hF : 2 * t.nodes < F) : (skip F).exec c = (.ok (), c') := by
  obtain ⟨-, hd, -⟩ := (tree_nodes_all n).1 c t c' h
  have hrun := (skips_all n).1 c t c' h hbud (F - t.nodes) [] c.depth (by simp; omega)
  have hc' : ({ c' with depth := c.depth } : Cursor) = c' := by rw [← hd]
  rw [Nat.sub_add_cancel (by omega), hc'] at hrun
  exact hrun

theorem keeps_skipString (fuel : Nat) : Keeps (scan (Scalar.skipString fuel)) :=
  keeps_scan fun r _ _ _ _ h => (Scalar.skipString_consumes h).trans (List.tail_suffix r)

theorem keeps_skipNumber : Keeps (scan Scalar.skipNumber) := by
  refine keeps_scan fun r p a r' p' h => ?_
  cases r with
  | nil => simp [Scalar.skipNumber] at h
  | cons b r => exact (Scalar.skipNumber_consumes h).trans (List.suffix_cons b r)

theorem keeps_skipOpen : Keeps skipOpen := by
  unfold skipOpen
  refine keeps_bind keeps_blank fun b => ?_
  split
  · exact keeps_failAhead _
  · split_ifs
    · exact keeps_bind keeps_eat fun _ => keeps_bind (keeps_word _) fun _ => keeps_pure _
    · exact keeps_bind keeps_eat fun _ => keeps_bind (keeps_word _) fun _ => keeps_pure _
    · exact keeps_bind keeps_eat fun _ => keeps_bind (keeps_word _) fun _ => keeps_pure _
    · exact keeps_bind keeps_eat fun _ => keeps_bind keeps_skipNumber fun _ => keeps_pure _
    · exact keeps_bind keeps_skipNumber fun _ => keeps_pure _
    · exact keeps_bind keeps_eat fun _ => keeps_bind keeps_get fun c =>
        keeps_bind (keeps_skipString _) fun _ => keeps_pure _
    · exact keeps_bind keeps_eat fun _ => keeps_pure _
    · exact keeps_bind keeps_eat fun _ => keeps_pure _
    · exact keeps_failAhead _

theorem keeps_closeFrames (fuel : Nat) :
    ∀ acceptComma frame stack, Keeps (closeFrames fuel acceptComma frame stack) := by
  induction fuel with
  | zero => intro _ _ _; exact keeps_pure _
  | succ fuel ih =>
    intro acceptComma frame stack
    -- a closing bracket is read and the frames outside are closed as far as they go
    have closing : Keeps (eat >>= fun _ => match stack with
        | [] => (pure none : Reader (Option (Frame × List Frame)))
        | f :: s => closeFrames fuel true f s) := by
      refine keeps_bind keeps_eat fun _ => ?_
      cases stack with
      | nil => exact keeps_pure _
      | cons f s => exact ih _ _ _
    rw [closeFrames.eq_def]
    dsimp only
    refine keeps_bind keeps_blank fun b => ?_
    split <;> (try split) <;> (try split) <;>
      first
      | exact closing
      | exact keeps_bind keeps_eat fun _ => keeps_pure _
      | exact keeps_pure _
      | exact keeps_failAhead _

theorem keeps_skipKey : Keeps skipKey := by
  unfold skipKey
  refine keeps_bind keeps_blank fun b => ?_
  dsimp only
  -- the opening quote, the key's octets, then the colon: each step reads forward or fails
  split <;> refine keeps_bind (by first | exact keeps_eat | exact keeps_failAhead _) fun _ => ?_ <;>
    refine keeps_bind keeps_get fun c => keeps_bind (keeps_skipString _) fun _ =>
      keeps_bind keeps_blank fun b => ?_ <;>
    split <;> first | exact keeps_eat | exact keeps_failAhead _

/-- Skipping only reads forward: the induction is on the fuel, one value or frame a step. -/
theorem keeps_skipValues (fuel : Nat) : ∀ stack, Keeps (skipValues fuel stack) := by
  induction fuel with
  | zero => intro _; exact keeps_pure _
  | succ fuel ih =>
    intro stack
    have resume : ∀ o, Keeps (skipResume fuel o) := by
      intro o
      rcases o with _ | ⟨f, s⟩
      · exact keeps_pure _
      · rw [skipResume]
        dsimp only
        split
        · exact keeps_bind keeps_skipKey fun _ => ih _
        · exact ih _
    intro c a c' h
    rw [exec_skipValues_succ] at h
    refine keeps_bind keeps_skipOpen (fun opened => ?_) c a c' h
    cases opened with
    | some f => exact keeps_bind (keeps_closeFrames _ _ _ _) resume
    | none =>
      cases stack with
      | nil => exact keeps_pure _
      | cons f s => exact keeps_bind (keeps_closeFrames _ _ _ _) resume

theorem keeps_skip (fuel : Nat) : Keeps (skip fuel) := keeps_skipValues fuel []

/-- The value of the field `k` of an object read by `skim`: read as a tree for the field `key`,
otherwise skipped as `Reader.skip F` skips it, and then `null`. -/
def skimValue (key k : String) (F fuel : Nat) : Reader Tree :=
  if k = key then tree fuel else do skip F; pure .null

def skimFields (key : String) (F : Nat) : Nat → Bool → Reader (List (String × Tree))
  | 0, _ => failAhead .eofWhileParsingValue
  | fuel + 1, first => do
    match ← keyStart first with
    | none => return []
    | some k =>
      colon
      let t ← skimValue key k F fuel
      return (k, t) :: (← skimFields key F fuel false)

/-- Reads a value as the tree reader does, except that of an object only the field `key` is read
as a tree: the others are skipped, with no limit on their depth and with the lenient scanners. -/
def skim (key : String) : Nat → Reader Tree
  | 0 => failAhead .eofWhileParsingValue
  | fuel + 1 => do
    match ← blank with
    | none => failAhead .eofWhileParsingValue
    | some b => treeAt (treeItems fuel true) (skimFields key (fuel + 1) fuel true) b

theorem exec_skim_succ_of_head {key : String} {n : Nat} {c : Cursor} {b : UInt8}
    (hb : c.skipBlanks.rest.head? = some b) :
    (skim key (n + 1)).exec c =
      (treeAt (treeItems n true) (skimFields key (n + 1) n true) b).exec c.skipBlanks := by
  rw [skim, exec_bind, exec_blank, hb]

/-- Where the tree reader reads the fields of an object, the skimming reader reads them too, the
fields other than `key` skipped. The induction is on the fuel. -/
theorem skimFields_of_treeFields (key : String) (F : Nat) :
    ∀ m first c fs c', (treeFields m first).exec c = (.ok fs, c') → c.Within F →
      (skimFields key F m first).exec c = (.ok (skimmedFields key fs), c') := by
  intro m
  induction m with
  | zero => intro _ _ _ _ h; simp [treeFields, exec_failAhead] at h
  | succ m ih =>
    intro first c fs c' h hw
    rw [treeFields, exec_bind] at h
    rw [skimFields, exec_bind]
    rcases hs : (keyStart first).exec c with ⟨_ | key', c₁⟩ <;> rw [hs] at h
    · cases h
    have hw₁ := (keeps_keyStart first).within hs hw
    cases key' with
    | none =>
      obtain ⟨rfl, rfl⟩ := exec_pure_ok_inv h
      rfl
    | some k =>
      obtain ⟨u, c₂, hcol, h⟩ := exec_bind_ok_inv h
      obtain ⟨t, c₃, ht, h⟩ := exec_bind_ok_inv h
      obtain ⟨fs', c₄, hfs, hp⟩ := exec_bind_ok_inv h
      obtain ⟨rfl, rfl⟩ := exec_pure_ok_inv hp
      have hw₂ := keeps_colon.within hcol hw₁
      have hw₃ := (keeps_tree m).within ht hw₂
      simp only
      rw [exec_bind_of_ok hcol]
      -- the field `key` is read as it is; any other is skipped to where its tree ends
      have hval : (skimValue key k F m).exec c₂ = (.ok (if k = key then t else .null), c₃) := by
        unfold skimValue
        by_cases hk : k = key
        · simp only [hk, if_true]
          exact ht
        · simp only [hk, if_false]
          obtain ⟨-, -, hl⟩ := (tree_nodes_all m).1 _ _ _ ht
          have := hw₂.fuel
          rw [exec_bind_of_ok (skip_of_tree ht hw₂.budget (by omega))]
          rfl
      rw [exec_bind_of_ok hval, exec_bind_of_ok (ih false c₃ fs' c₄ hfs hw₃)]
      rfl

/-- Where the tree reader reads a value, the skimming reader reads it too, as the same tree with
the fields of an object other than `key` replaced by `null`. -/
theorem skim_of_tree {key : String} {F : Nat} {c c' : Cursor} {t : Tree}
    (h : (tree F).exec c = (.ok t, c')) (hw : c.Within F) :
    (skim key F).exec c = (.ok (t.skimmed key), c') := by
  cases F with
  | zero => simp [tree, exec_failAhead] at h
  | succ F =>
  obtain ⟨b, hb, ht⟩ := tree_succ_inv h
  rw [exec_skim_succ_of_head hb]
  by_cases ho : b = 0x7B
  · subst ho
    rw [treeAt_object] at ht ⊢
    obtain ⟨fs, c₁, rfl, hdep, hfs, hcl⟩ := nested_bind_ok_inv ht
    exact exec_nested_bind Tree.object hdep
      (skimFields_of_treeFields key (F + 1) F true _ fs c₁ hfs hw.skipBlanks.enter) hcl
  · have hno : ∀ fs, t ≠ .object fs := by
      rintro fs rfl
      exact ho (treeAt_startsWith ht)
    have hsk : t.skimmed key = t := by
      cases t with
      | object fs => exact absurd rfl (hno fs)
      | _ => rfl
    rw [hsk, treeAt_of_ne_object ho]
    exact ht

end Reader

end CiClient.Json
