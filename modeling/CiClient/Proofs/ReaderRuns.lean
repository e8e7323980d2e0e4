import CiClient.Proofs.LenientScan
import CiClient.Json.Reader
/-!
# Runs of readers

A `Json.Reader` is a state monad over a `Cursor` that may fail. `Reader.exec` runs one from a
cursor; this module gives the run of each reading step as an equation (`exec_bind`, `exec_blank`,
`exec_nested_of_ok`, ...), and inversion lemmas that say what a step that succeeded has read
(`itemStart_ok`, `keyStart_ok`, `nested_ok_inv`, ...).

`Keeps` says a reader reads forward and leaves the budget and the nesting levels as they were;
`Cursor.Within F` says the scanners' budget covers the octets left and the fuel `F` is more than
twice their number, which is what every reading of a whole text starts from.
-/

namespace CiClient.Json

/-- Runs a reader from a cursor: its result and the cursor after it. -/
def Reader.exec {α : Type} (r : Reader α) (c : Cursor) : Except Error α × Cursor := r.run.run c

namespace Cursor

/-- The cursor past the blanks ahead. -/
def skipBlanks (c : Cursor) : Cursor :=
  { c with rest := (Reader.skipBlank c.rest c.pos).1, pos := (Reader.skipBlank c.rest c.pos).2 }

/-- The cursor past the next octet. -/
def advance (c : Cursor) : Cursor :=
  match c.rest with
  | [] => c
  | b :: r => { c with rest := r, pos := c.pos.step b }

/-- The cursor inside an array or object: one level of nesting used, the bracket read. -/
def enter (c : Cursor) : Cursor := ({ c with depth := c.depth - 1 } : Cursor).advance

/-- The cursor with the level of nesting given back. -/
def leave (c : Cursor) : Cursor := { c with depth := c.depth + 1 }

theorem skipBlank_skipBlank (r : List UInt8) (p : Pos) :
    Reader.skipBlank (Reader.skipBlank r p).1 (Reader.skipBlank r p).2 = Reader.skipBlank r p := by
  induction r generalizing p with
  | nil => rfl
  | cons b r ih =>
    by_cases hb : b = 0x20 ∨ b = 0x0A ∨ b = 0x09 ∨ b = 0x0D
    · simp only [Reader.skipBlank, if_pos hb]
      exact ih _
    · simp only [Reader.skipBlank, if_neg hb]

@[simp] theorem skipBlanks_skipBlanks (c : Cursor) : c.skipBlanks.skipBlanks = c.skipBlanks := by
  simp only [skipBlanks, skipBlank_skipBlank]

@[simp] theorem skipBlanks_budget (c : Cursor) : c.skipBlanks.budget = c.budget := rfl

@[simp] theorem skipBlanks_depth (c : Cursor) : c.skipBlanks.depth = c.depth := rfl

@[simp] theorem advance_budget (c : Cursor) : c.advance.budget = c.budget := by
  unfold advance; split <;> rfl

@[simp] theorem advance_depth (c : Cursor) : c.advance.depth = c.depth := by
  unfold advance; split <;> rfl

@[simp] theorem leave_budget (c : Cursor) : c.leave.budget = c.budget := rfl

@[simp] theorem leave_rest (c : Cursor) : c.leave.rest = c.rest := rfl

@[simp] theorem enter_budget (c : Cursor) : c.enter.budget = c.budget := by simp [enter]

@[simp] theorem enter_rest (c : Cursor) : c.enter.rest = c.advance.rest := by
  rcases c with ⟨_ | ⟨b, r⟩, p, e, k⟩ <;> rfl

theorem skipBlank_length (r : List UInt8) (p : Pos) :
    (Reader.skipBlank r p).1.length ≤ r.length := by
  induction r generalizing p with
  | nil => simp [Reader.skipBlank]
  | cons b r ih =>
    unfold Reader.skipBlank
    split
    · exact Nat.le_succ_of_le (ih _)
    · exact Nat.le_refl _

theorem skipBlanks_length (c : Cursor) : c.skipBlanks.rest.length ≤ c.rest.length :=
  skipBlank_length c.rest c.pos

theorem advance_length (c : Cursor) : c.advance.rest.length = c.rest.length - 1 := by
  unfold advance; split <;> simp_all

theorem advance_length_of_head {c : Cursor} {b : UInt8} (h : c.rest.head? = some b) :
    c.advance.rest.length + 1 = c.rest.length := by
  unfold advance
  split <;> simp_all

@[simp] theorem skipBlanks_withDepth (c : Cursor) (d : Nat) :
    ({ c with depth := d } : Cursor).skipBlanks = { c.skipBlanks with depth := d } := rfl

@[simp] theorem advance_withDepth (c : Cursor) (d : Nat) :
    ({ c with depth := d } : Cursor).advance = { c.advance with depth := d } := by
  rcases c with ⟨_ | ⟨b, r⟩, p, e, k⟩ <;> rfl

theorem advance_withDepth_withDepth (c : Cursor) (d e : Nat) :
    ({ ({ c with depth := e } : Cursor).advance with depth := d } : Cursor) =
      { c.advance with depth := d } := by
  rcases c with ⟨_ | ⟨b, r⟩, p, e', k⟩ <;> rfl

theorem enter_withDepth (c : Cursor) (d : Nat) :
    ({ c.enter with depth := d } : Cursor) = { c.advance with depth := d } :=
  advance_withDepth_withDepth c d _

theorem leave_withDepth (c : Cursor) (d : Nat) :
    ({ c.leave.skipBlanks.advance with depth := d } : Cursor) =
      { c.skipBlanks.advance with depth := d } :=
  advance_withDepth_withDepth c.skipBlanks d _

theorem leave_skipBlanks (c : Cursor) : c.skipBlanks.leave = c.leave.skipBlanks := rfl

/-- The fuel every string scan is given, the cursor's budget, covers the octets not read yet. -/
def InBudget (c : Cursor) : Prop := c.rest.length < c.budget

theorem InBudget.skipBlanks {c : Cursor} (h : c.InBudget) : c.skipBlanks.InBudget :=
  Nat.lt_of_le_of_lt (skipBlanks_length c) h

theorem InBudget.advance {c : Cursor} (h : c.InBudget) : c.advance.InBudget := by
  unfold InBudget at *
  rw [advance_length, advance_budget]
  omega

theorem InBudget.enter {c : Cursor} (h : c.InBudget) : c.enter.InBudget := by
  have := h.advance
  unfold InBudget at *
  simpa using this

/-- Room for reading at fuel `F`: the budget covers the text left, and the fuel more than twice
its length. -/
structure Within (c : Cursor) (F : Nat) : Prop where
  budget : c.InBudget
  fuel : 2 * c.rest.length < F

theorem Within.skipBlanks {c : Cursor} {F : Nat} (h : c.Within F) : c.skipBlanks.Within F :=
  ⟨h.budget.skipBlanks, Nat.lt_of_le_of_lt (Nat.mul_le_mul_left 2 (skipBlanks_length c)) h.fuel⟩

theorem Within.advance {c : Cursor} {F : Nat} (h : c.Within F) : c.advance.Within F := by
  refine ⟨h.budget.advance, ?_⟩
  have := h.fuel
  rw [advance_length]
  omega

theorem Within.enter {c : Cursor} {F : Nat} (h : c.Within F) : c.enter.Within F := by
  refine ⟨h.budget.enter, ?_⟩
  have := h.advance.fuel
  rwa [enter_rest]

theorem Within.leave {c : Cursor} {F : Nat} (h : c.Within F) : c.leave.Within F :=
  ⟨h.budget, h.fuel⟩

end Cursor

namespace Reader

variable {α β : Type}

@[simp] theorem exec_pure (a : α) (c : Cursor) : (pure a : Reader α).exec c = (.ok a, c) := rfl

theorem exec_bind (x : Reader α) (f : α → Reader β) (c : Cursor) :
    (x >>= f).exec c = match x.exec c with
      | (.ok a, c') => (f a).exec c'
      | (.error e, c') => (.error e, c') := by
  simp only [exec, ExceptT.run_bind, StateT.run_bind]
  rcases x.run.run c with ⟨_ | _, _⟩ <;> rfl

theorem exec_bind_of_ok {x : Reader α} {c c₁ : Cursor} {a : α} (h : x.exec c = (.ok a, c₁))
    (f : α → Reader β) : (x >>= f).exec c = (f a).exec c₁ := by
  rw [exec_bind, h]

theorem exec_bind_of_error {x : Reader α} {c c₁ : Cursor} {e : Error} (h : x.exec c = (.error e, c₁))
    (f : α → Reader β) : (x >>= f).exec c = (.error e, c₁) := by
  rw [exec_bind, h]

@[simp] theorem exec_throw (e : Error) (c : Cursor) : (throw e : Reader α).exec c = (.error e, c) := rfl

@[simp] theorem exec_peek (c : Cursor) : peek.exec c = (.ok c.rest.head?, c) := rfl

@[simp] theorem exec_eat (c : Cursor) : eat.exec c = (.ok (), c.advance) := rfl

@[simp] theorem exec_blank (c : Cursor) : blank.exec c = (.ok c.skipBlanks.rest.head?, c.skipBlanks) := rfl

@[simp] theorem exec_leave (c : Cursor) : leave.exec c = (.ok (), c.leave) := rfl

theorem exec_failAhead (s : Flaw) (c : Cursor) :
    (failAhead s : Reader α).exec c = (.error (Error.flawAt s (Scalar.ahead c.rest c.pos)), c) := rfl

@[simp] theorem exec_get (c : Cursor) : (get : Reader Cursor).exec c = (.ok c, c) := rfl

@[simp] theorem exec_set (c c' : Cursor) : (set c' : Reader PUnit).exec c = (.ok ⟨⟩, c') := rfl

@[simp] theorem exec_next (c : Cursor) : next.exec c = (.ok c.rest.head?, c.advance) := rfl

theorem exec_enter_of_lt {c : Cursor} (h : 1 < c.depth) :
    enter.exec c = (.ok (), { c with depth := c.depth - 1 }) := by
  unfold enter
  rw [exec_bind, exec_get]
  simp only [if_neg (Nat.not_le.2 h), exec_set]

theorem exec_enter_of_le {c : Cursor} (h : c.depth ≤ 1) :
    ∃ e, enter.exec c = (.error e, c) := by
  unfold enter
  rw [exec_bind, exec_get]
  simp only [if_pos h, exec_failAhead]
  exact ⟨_, rfl⟩

theorem exec_map (f : α → β) (x : Reader α) (c : Cursor) :
    (f <$> x).exec c = match x.exec c with
      | (.ok a, c') => (.ok (f a), c')
      | (.error e, c') => (.error e, c') := by
  simp only [exec, ExceptT.run_map, StateT.run_map]
  rcases x.run.run c with ⟨_ | _, _⟩ <;> rfl

theorem exec_tryCatch (x : Reader α) (h : Error → Reader α) (c : Cursor) :
    (tryCatch x h).exec c = match x.exec c with
      | (.ok a, c') => (.ok a, c')
      | (.error e, c') => (h e).exec c' := by
  simp only [exec, ExceptT.run_tryCatch, StateT.run_bind]
  rcases x.run.run c with ⟨_ | _, _⟩ <;> rfl

/-- The inside of an array or object that was read, and the closing that followed it. -/
theorem exec_nested_of_ok {inside : Reader α} {close : Reader Unit} {c c₁ : Cursor} {a : α}
    (hd : 1 < c.depth) (h : inside.exec c.enter = (.ok a, c₁)) :
    (nested inside close).exec c = match close.exec c₁.leave with
      | (.ok _, c₂) => (.ok a, c₂)
      | (.error e, c₂) => (.error e, c₂) := by
  unfold nested
  rw [exec_bind_of_ok (exec_enter_of_lt hd), exec_bind_of_ok (exec_eat _), exec_bind,
    exec_tryCatch, exec_map, show ({ c with depth := c.depth - 1 } : Cursor).advance = c.enter from rfl, h]
  simp only [exec_bind_of_ok (exec_leave _)]
  rw [exec_bind]
  rcases close.exec c₁.leave with ⟨_ | _, _⟩ <;> rfl

theorem exec_place (e : Error) (c : Cursor) : ∃ e', (place e).exec c = (.ok e', c) := by
  unfold place
  cases e.pos <;> exact ⟨_, rfl⟩

theorem exec_nested_of_error {inside : Reader α} {close : Reader Unit} {c c₁ : Cursor} {e : Error}
    (hd : 1 < c.depth) (h : inside.exec c.enter = (.error e, c₁)) :
    ∃ e' c₂, (nested inside close).exec c = (.error e', c₂) := by
  unfold nested
  rw [exec_bind_of_ok (exec_enter_of_lt hd), exec_bind_of_ok (exec_eat _), exec_bind,
    exec_tryCatch, exec_map, show ({ c with depth := c.depth - 1 } : Cursor).advance = c.enter from rfl, h]
  simp only [exec_pure, exec_bind_of_ok (exec_leave _)]
  rw [exec_bind, exec_tryCatch]
  -- the closing is tried for its effect on the position only; the error is thrown after it
  rcases close.exec c₁.leave with ⟨_ | _, c₂⟩ <;>
  · obtain ⟨e', he'⟩ := exec_place e c₂
    simp only [exec_pure, exec_bind_of_ok he', exec_throw]
    exact ⟨e', c₂, rfl⟩

theorem exec_nested_of_le {inside : Reader α} {close : Reader Unit} {c : Cursor}
    (hd : c.depth ≤ 1) : ∃ e c', (nested inside close).exec c = (.error e, c') := by
  obtain ⟨e, he⟩ := exec_enter_of_le hd
  exact ⟨e, c, by unfold nested; rw [exec_bind_of_error he]⟩

/-- What a read array or object was made of: a level of nesting was free, the inside was read
after the opening bracket, and the closing followed. -/
theorem nested_ok_inv {inside : Reader α} {close : Reader Unit} {c c' : Cursor} {a : α}
    (h : (nested inside close).exec c = (.ok a, c')) :
    1 < c.depth ∧ ∃ c₁, inside.exec c.enter = (.ok a, c₁) ∧ close.exec c₁.leave = (.ok (), c') := by
  by_cases hd : 1 < c.depth
  · refine ⟨hd, ?_⟩
    rcases hin : inside.exec c.enter with ⟨_ | a₁, c₁⟩
    · obtain ⟨e', c₂, he⟩ := exec_nested_of_error hd hin
      rw [he] at h
      cases h
    · rw [exec_nested_of_ok hd hin] at h
      rcases hcl : close.exec c₁.leave with ⟨_ | u, c₂⟩ <;> rw [hcl] at h
      · cases h
      · simp only [Prod.mk.injEq, Except.ok.injEq] at h
        obtain ⟨rfl, rfl⟩ := h
        exact ⟨c₁, rfl, hcl⟩
  · obtain ⟨e, c₂, he⟩ : ∃ e c', (nested inside close).exec c = (.error e, c') :=
      exec_nested_of_le (Nat.not_lt.1 hd)
    rw [he] at h
    cases h

theorem exec_bind_ok_inv {x : Reader α} {f : α → Reader β} {c c' : Cursor} {b : β}
    (h : (x >>= f).exec c = (.ok b, c')) :
    ∃ a c₁, x.exec c = (.ok a, c₁) ∧ (f a).exec c₁ = (.ok b, c') := by
  rw [exec_bind] at h
  rcases hx : x.exec c with ⟨_ | a, c₁⟩ <;> rw [hx] at h
  · cases h
  · exact ⟨a, c₁, rfl, h⟩

theorem exec_pure_ok_inv {a b : α} {c c' : Cursor} (h : (pure a : Reader α).exec c = (.ok b, c')) :
    a = b ∧ c = c' := by
  simpa using h

theorem exec_bind_pure_ok_inv {x : Reader α} {g : α → β} {c c' : Cursor} {b : β}
    (h : (x >>= fun a => pure (g a)).exec c = (.ok b, c')) : ∃ a, b = g a := by
  obtain ⟨a, c₁, -, hp⟩ := exec_bind_ok_inv h
  exact ⟨a, (exec_pure_ok_inv hp).1.symm⟩

theorem exec_bind_pure_swap {γ : Type} {x : Reader α} {f : α → β} {g : α → γ} {c c' : Cursor}
    {b : β} (h : (x >>= fun a => pure (f a)).exec c = (.ok b, c')) :
    ∃ d, (x >>= fun a => pure (g a)).exec c = (.ok d, c') := by
  obtain ⟨a, c₁, hx, hp⟩ := exec_bind_ok_inv h
  obtain ⟨-, rfl⟩ := exec_pure_ok_inv hp
  exact ⟨g a, by rw [exec_bind_of_ok hx]; rfl⟩

theorem nested_bind_ok_inv {inside : Reader α} {close : Reader Unit} {f : α → β} {c c' : Cursor}
    {b : β} (h : (nested inside close >>= fun a => pure (f a)).exec c = (.ok b, c')) :
    ∃ a c₁, b = f a ∧ 1 < c.depth ∧ inside.exec c.enter = (.ok a, c₁) ∧
      close.exec c₁.leave = (.ok (), c') := by
  obtain ⟨a, c₂, hn, hp⟩ := exec_bind_ok_inv h
  obtain ⟨rfl, rfl⟩ := exec_pure_ok_inv hp
  obtain ⟨hd, c₁, hin, hcl⟩ := nested_ok_inv hn
  exact ⟨a, c₁, rfl, hd, hin, hcl⟩

theorem exec_nested_bind {inside : Reader α} {close : Reader Unit} (f : α → β) {c c₁ c' : Cursor}
    {a : α} (hd : 1 < c.depth) (hin : inside.exec c.enter = (.ok a, c₁))
    (hcl : close.exec c₁.leave = (.ok (), c')) :
    (nested inside close >>= fun a => pure (f a)).exec c = (.ok (f a), c') := by
  rw [exec_bind, exec_nested_of_ok hd hin, hcl]
  rfl

theorem blank_ok_inv {f : Option UInt8 → Reader α} {c c' : Cursor} {a : α}
    (h : (blank >>= f).exec c = (.ok a, c')) : (f c.skipBlanks.rest.head?).exec c.skipBlanks = (.ok a, c') := by
  rwa [exec_bind, exec_blank] at h

theorem exec_scan_of_ok {f : List UInt8 → Pos → Scalar.Scan α} {c : Cursor} {a : α}
    {r : List UInt8} {p : Pos} (h : f c.rest c.pos = .ok (a, r, p)) :
    (scan f).exec c = (.ok a, { c with rest := r, pos := p }) := by
  unfold scan
  rw [exec_bind, exec_get]
  simp only [h, exec_bind, exec_set, exec_pure]

theorem exec_scan_of_error {f : List UInt8 → Pos → Scalar.Scan α} {c : Cursor} {e : Error}
    (h : f c.rest c.pos = .error e) : (scan f).exec c = (.error e, c) := by
  unfold scan
  rw [exec_bind, exec_get]
  simp only [h, exec_throw]

theorem exec_string (c : Cursor) : string.exec c = (scan (Scalar.string c.budget)).exec c := by
  unfold string
  rw [exec_bind, exec_get]

theorem scan_ok {f : List UInt8 → Pos → Scalar.Scan α} {c c₁ : Cursor} {a : α}
    (h : (scan f).exec c = (.ok a, c₁)) :
    f c.rest c.pos = .ok (a, c₁.rest, c₁.pos) ∧ c₁ = { c with rest := c₁.rest, pos := c₁.pos } := by
  rcases hf : f c.rest c.pos with e | ⟨a', r, p⟩
  · rw [exec_scan_of_error hf] at h
    cases h
  · rw [exec_scan_of_ok hf] at h
    simp only [Prod.mk.injEq, Except.ok.injEq] at h
    obtain ⟨rfl, rfl⟩ := h
    exact ⟨rfl, rfl⟩

/-- What reading the start of an array item leaves: the closing bracket ahead, the first item
ahead, or a comma read with an item ahead. -/
theorem itemStart_ok {first more : Bool} {c c₁ : Cursor}
    (h : (itemStart first).exec c = (.ok more, c₁)) :
    (more = false ∧ c.skipBlanks.rest.head? = some 0x5D ∧ c₁ = c.skipBlanks) ∨
    (more = true ∧ first = true ∧ c₁ = c.skipBlanks ∧
      ∃ b, c₁.rest.head? = some b ∧ b ≠ 0x5D) ∨
    (more = true ∧ first = false ∧ c.skipBlanks.rest.head? = some 0x2C ∧
      c₁ = c.skipBlanks.advance.skipBlanks ∧ ∃ b, c₁.rest.head? = some b ∧ b ≠ 0x5D) := by
  unfold itemStart at h
  rw [exec_bind, exec_blank] at h
  simp only at h
  split at h
  · rename_i hb
    obtain ⟨rfl, rfl⟩ := exec_pure_ok_inv h
    exact .inl ⟨rfl, hb, rfl⟩
  · rename_i hb
    cases first with
    | true =>
      obtain ⟨rfl, rfl⟩ := exec_pure_ok_inv h
      exact .inr (.inl ⟨rfl, rfl, rfl, 0x2C, hb, by decide⟩)
    | false =>
      simp only [Bool.false_eq_true, if_false] at h
      rw [exec_bind_of_ok (exec_eat _), exec_bind, exec_blank] at h
      simp only at h
      split at h
      · simp [exec_failAhead] at h
      · rename_i b' hne hb'
        obtain ⟨rfl, rfl⟩ := exec_pure_ok_inv h
        exact .inr (.inr ⟨rfl, rfl, hb, rfl, b', hb', hne⟩)
      · simp [exec_failAhead] at h
  · rename_i b h5D h2C hb
    cases first with
    | true =>
      obtain ⟨rfl, rfl⟩ := exec_pure_ok_inv h
      exact .inr (.inl ⟨rfl, rfl, rfl, b, hb, h5D⟩)
    | false => simp [exec_failAhead] at h
  · simp [exec_failAhead] at h

/-- What reading the start of an object entry leaves: the closing brace ahead, or a key read,
the first one or one after a comma. -/
theorem keyStart_ok {first : Bool} {key : Option String} {c c₁ : Cursor}
    (h : (keyStart first).exec c = (.ok key, c₁)) :
    (key = none ∧ c.skipBlanks.rest.head? = some 0x7D ∧ c₁ = c.skipBlanks) ∨
    (∃ k, key = some k ∧ first = true ∧ c.skipBlanks.rest.head? = some 0x22 ∧
      string.exec c.skipBlanks.advance = (.ok k, c₁)) ∨
    (∃ k, key = some k ∧ first = false ∧ c.skipBlanks.rest.head? = some 0x2C ∧
      c.skipBlanks.advance.skipBlanks.rest.head? = some 0x22 ∧
      string.exec c.skipBlanks.advance.skipBlanks.advance = (.ok k, c₁)) := by
  unfold keyStart at h
  rw [exec_bind, exec_blank] at h
  simp only at h
  split at h
  · rename_i hb
    obtain ⟨rfl, rfl⟩ := exec_pure_ok_inv h
    exact .inl ⟨rfl, hb, rfl⟩
  · rename_i hb
    cases first with
    | true => simp [exec_failAhead] at h
    | false =>
      simp only [Bool.false_eq_true, if_false] at h
      rw [exec_bind_of_ok (exec_eat _), exec_bind, exec_blank] at h
      simp only at h
      split at h
      · rename_i hq
        rw [exec_bind_of_ok (exec_eat _)] at h
        obtain ⟨k, c₂, hs, hp⟩ := exec_bind_ok_inv h
        obtain ⟨rfl, rfl⟩ := exec_pure_ok_inv hp
        exact .inr (.inr ⟨k, rfl, rfl, hb, hq, hs⟩)
      all_goals simp [exec_failAhead] at h
  · rename_i b h7D h2C hb
    cases first with
    | true =>
      simp only [if_true] at h
      split at h
      · rename_i hq
        cases hq
        rw [exec_bind_of_ok (exec_eat _)] at h
        obtain ⟨k, c₂, hs, hp⟩ := exec_bind_ok_inv h
        obtain ⟨rfl, rfl⟩ := exec_pure_ok_inv hp
        exact .inr (.inl ⟨k, rfl, rfl, hb, hs⟩)
      all_goals simp [exec_failAhead] at h
    | false => simp [exec_failAhead] at h
  · simp [exec_failAhead] at h

theorem colon_ok {c c₁ : Cursor} (h : colon.exec c = (.ok (), c₁)) :
    c.skipBlanks.rest.head? = some 0x3A ∧ c₁ = c.skipBlanks.advance := by
  unfold colon at h
  rw [exec_bind, exec_blank] at h
  simp only at h
  split at h
  · rename_i hb
    exact ⟨hb, by simpa using h.symm⟩
  all_goals simp [exec_failAhead] at h

theorem closeArray_ok {c c₁ : Cursor} (h : closeArray.exec c = (.ok (), c₁)) :
    c.skipBlanks.rest.head? = some 0x5D ∧ c₁ = c.skipBlanks.advance := by
  unfold closeArray at h
  rw [exec_bind, exec_blank] at h
  simp only at h
  split at h
  · rename_i hb
    exact ⟨hb, by simpa using h.symm⟩
  · rw [exec_bind_of_ok (exec_eat _), exec_bind, exec_blank] at h
    simp only at h
    split at h <;> simp [exec_failAhead] at h
  all_goals simp [exec_failAhead] at h

theorem closeObject_ok {c c₁ : Cursor} (h : closeObject.exec c = (.ok (), c₁)) :
    c.skipBlanks.rest.head? = some 0x7D ∧ c₁ = c.skipBlanks.advance := by
  unfold closeObject at h
  rw [exec_bind, exec_blank] at h
  simp only at h
  split at h
  · rename_i hb
    exact ⟨hb, by simpa using h.symm⟩
  all_goals simp [exec_failAhead] at h

theorem itemStart_at_close {first : Bool} {c : Cursor} (hb : c.skipBlanks.rest.head? = some 0x5D) :
    (itemStart first).exec c = (.ok false, c.skipBlanks) := by
  unfold itemStart
  rw [exec_bind, exec_blank, hb]
  rfl

theorem exec_closeArray_skipBlanks (c : Cursor) : closeArray.exec c.skipBlanks = closeArray.exec c := by
  unfold closeArray
  rw [exec_bind, exec_bind, exec_blank, exec_blank, Cursor.skipBlanks_skipBlanks]

/-- A reading step that, when it succeeds, keeps the bound on the text and the nesting count
and reads forward. -/
def Keeps (r : Reader α) : Prop :=
  ∀ c a c', r.exec c = (.ok a, c') →
    c'.budget = c.budget ∧ c'.depth = c.depth ∧ c'.rest.length ≤ c.rest.length

theorem keeps_pure (a : α) : Keeps (pure a : Reader α) := by
  intro c b c' h
  obtain ⟨-, rfl⟩ := exec_pure_ok_inv h
  exact ⟨rfl, rfl, Nat.le_refl _⟩

theorem keeps_bind {x : Reader α} {f : α → Reader β} (hx : Keeps x) (hf : ∀ a, Keeps (f a)) :
    Keeps (x >>= f) := by
  intro c b c' h
  obtain ⟨a, c₁, h₁, h₂⟩ := exec_bind_ok_inv h
  obtain ⟨hb₁, hd₁, hl₁⟩ := hx _ _ _ h₁
  obtain ⟨hb₂, hd₂, hl₂⟩ := hf a _ _ _ h₂
  exact ⟨hb₂.trans hb₁, hd₂.trans hd₁, Nat.le_trans hl₂ hl₁⟩

theorem keeps_eat : Keeps eat := by
  intro c a c' h
  rw [exec_eat] at h
  obtain ⟨-, rfl⟩ := Prod.mk.inj h
  exact ⟨by simp, by simp, by rw [Cursor.advance_length]; omega⟩

theorem keeps_failAhead (s : Flaw) : Keeps (failAhead s : Reader α) := by
  intro c a c' h
  rw [exec_failAhead] at h
  cases h

theorem keeps_get : Keeps (get : Reader Cursor) := by
  intro c a c' h
  obtain ⟨-, rfl⟩ := Prod.mk.inj h
  exact ⟨rfl, rfl, Nat.le_refl _⟩

theorem keeps_word (w : List UInt8) : Keeps (word w) := by
  induction w with
  | nil =>
    intro c a c' h
    obtain ⟨-, rfl⟩ := exec_pure_ok_inv h
    exact ⟨rfl, rfl, Nat.le_refl _⟩
  | cons x ws ih =>
    intro c a c' h
    unfold word at h
    rw [exec_bind, exec_next] at h
    simp only at h
    split at h
    · simp [fail, exec_bind] at h
    · split at h
      · obtain ⟨hb, hd, hl⟩ := ih _ _ _ h
        simp only [Cursor.advance_budget, Cursor.advance_depth] at hb hd
        exact ⟨hb, hd, Nat.le_trans hl (by simp [Cursor.advance_length])⟩
      · simp [fail, exec_bind] at h

theorem keeps_scan {f : List UInt8 → Pos → Scalar.Scan α} (hf : Scalar.Consumes f) :
    Keeps (scan f) := by
  intro c a c₁ h
  obtain ⟨hs, hc⟩ := scan_ok h
  rw [hc]
  exact ⟨rfl, rfl, (hf _ _ _ _ _ hs).length_le⟩

theorem keeps_number (positive : Bool) : Keeps (number positive) := by
  refine keeps_scan fun r p a r' p' h => ?_
  have hs := Scalar.skip_number h
  cases r with
  | nil => simp [Scalar.skipNumber] at hs
  | cons b r => exact (Scalar.skipNumber_consumes hs).trans (List.suffix_cons b r)

theorem keeps_string : Keeps string := by
  intro c s c₁ h
  rw [exec_string] at h
  refine keeps_scan (fun r p a r' p' hs => ?_) c s c₁ h
  exact (Scalar.skipString_consumes (Scalar.skip_string hs r.length (Nat.le_refl _))).trans
    (List.tail_suffix r)

theorem keeps_blank : Keeps blank := by
  intro c a c₁ h
  rw [exec_blank] at h
  obtain ⟨-, rfl⟩ := Prod.mk.inj h
  exact ⟨rfl, rfl, Cursor.skipBlanks_length c⟩

theorem keeps_itemStart (first : Bool) : Keeps (itemStart first) := by
  intro c a c₁ h
  have hb := Cursor.skipBlanks_length c
  rcases itemStart_ok h with ⟨-, -, rfl⟩ | ⟨-, -, rfl, -⟩ | ⟨-, -, -, rfl, -⟩
  · exact ⟨rfl, rfl, hb⟩
  · exact ⟨rfl, rfl, hb⟩
  · refine ⟨by simp, by simp, ?_⟩
    have := Cursor.skipBlanks_length c.skipBlanks.advance
    have := Cursor.advance_length c.skipBlanks
    omega

theorem keeps_keyStart (first : Bool) : Keeps (keyStart first) := by
  intro c a c₁ h
  have hb := Cursor.skipBlanks_length c
  have ha := Cursor.advance_length c.skipBlanks
  rcases keyStart_ok h with ⟨-, -, rfl⟩ | ⟨k, -, -, -, hs⟩ | ⟨k, -, -, -, -, hs⟩
  · exact ⟨rfl, rfl, hb⟩
  · obtain ⟨hbud, hd, hl⟩ := keeps_string _ _ _ hs
    exact ⟨by simpa using hbud, by simpa using hd, by omega⟩
  · obtain ⟨hbud, hd, hl⟩ := keeps_string _ _ _ hs
    have := Cursor.skipBlanks_length c.skipBlanks.advance
    have := Cursor.advance_length c.skipBlanks.advance.skipBlanks
    exact ⟨by simpa using hbud, by simpa using hd, by omega⟩

theorem keeps_colon : Keeps colon := by
  intro c a c₁ h
  obtain ⟨-, rfl⟩ := colon_ok h
  have := Cursor.skipBlanks_length c
  have := Cursor.advance_length c.skipBlanks
  exact ⟨by simp, by simp, by omega⟩

theorem keeps_closeArray : Keeps closeArray := by
  intro c a c₁ h
  obtain ⟨-, rfl⟩ := closeArray_ok h
  have := Cursor.skipBlanks_length c
  have := Cursor.advance_length c.skipBlanks
  exact ⟨by simp, by simp, by omega⟩

theorem keeps_closeObject : Keeps closeObject := by
  intro c a c₁ h
  obtain ⟨-, rfl⟩ := closeObject_ok h
  have := Cursor.skipBlanks_length c
  have := Cursor.advance_length c.skipBlanks
  exact ⟨by simp, by simp, by omega⟩

theorem keyStart_some_length {first : Bool} {k : String} {c c₁ : Cursor}
    (h : (keyStart first).exec c = (.ok (some k), c₁)) : c₁.rest.length < c.rest.length := by
  have hb := Cursor.skipBlanks_length c
  rcases keyStart_ok h with ⟨hk, -, -⟩ | ⟨k', -, -, hq, hs⟩ | ⟨k', -, -, hc, hq, hs⟩
  · cases hk
  · obtain ⟨-, -, hl⟩ := keeps_string _ _ _ hs
    have := Cursor.advance_length_of_head hq
    omega
  · obtain ⟨-, -, hl⟩ := keeps_string _ _ _ hs
    have := Cursor.advance_length_of_head hc
    have := Cursor.advance_length_of_head hq
    have := Cursor.skipBlanks_length c.skipBlanks.advance
    omega

theorem Keeps.inBudget {α : Type} {r : Reader α} (hr : Keeps r) {c c' : Cursor}
    {a : α} (h : r.exec c = (.ok a, c')) (hc : c.InBudget) : c'.InBudget := by
  obtain ⟨hb, -, hl⟩ := hr c a c' h
  unfold Cursor.InBudget at *
  omega

theorem Keeps.within {α : Type} {r : Reader α} (hr : Keeps r) {c c' : Cursor}
    {a : α} {F : Nat} (h : r.exec c = (.ok a, c')) (hc : c.Within F) : c'.Within F := by
  refine ⟨hr.inBudget h hc.budget, ?_⟩
  obtain ⟨-, -, hl⟩ := hr c a c' h
  have := hc.fuel
  omega

end Reader

end CiClient.Json
