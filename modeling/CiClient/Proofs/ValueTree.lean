import CiClient.Proofs.ReaderRuns
/-!
# JSON text as a tree

A `Tree` is a JSON value as it is written: an object keeps every field in text order, a repeated
key as often as it is written. The tree reader `Reader.tree` reads a value in the steps of
`Reader.value`, with its limit of 127 levels of nesting and its strict scanners; a typed document
is then the decoding of the tree it reads.

The two readers agree: where one reads, the other does, and `Reader.value` gives the tree's value
(`value_of_tree_all`, `tree_of_value`). Fuel only bounds the reading: any fuel above twice the
octets left reads the same (`tree_room_all`), and each value read takes at least one octet
(`tree_nodes_all`).
-/

namespace CiClient.Json

/-- A JSON text as it is written: objects keep every field in text order, a repeated key as often
as it is written. -/
inductive Tree where
  | null
  | bool (b : Bool)
  | number (n : Number)
  | string (s : String)
  | array (items : List Tree)
  | object (fields : List (String × Tree))

namespace Tree

mutual
/-- The value a text reads as: a later field of an object replaces an earlier one of its key. -/
def toValue : Tree → Value
  | .null => .null
  | .bool b => .bool b
  | .number n => .number n
  | .string s => .string s
  | .array items => .array (toValues items)
  | .object fields => .object (fieldValues fields [])

def toValues : List Tree → List Value
  | [] => []
  | t :: ts => t.toValue :: toValues ts

/-- Fields added in order to `acc`, each replacing a field of its key. -/
def fieldValues : List (String × Tree) → List (String × Value) → List (String × Value)
  | [], acc => acc
  | (k, t) :: rest, acc => fieldValues rest (insertField k t.toValue acc)
end

mutual
/-- The number of values in a tree, itself included. -/
def nodes : Tree → Nat
  | .array items => itemsNodes items + 1
  | .object fields => fieldsNodes fields + 1
  | _ => 1

@[simp] def itemsNodes : List Tree → Nat
  | [] => 0
  | t :: ts => t.nodes + itemsNodes ts

@[simp] def fieldsNodes : List (String × Tree) → Nat
  | [] => 0
  | (_, t) :: fs => t.nodes + fieldsNodes fs
end

/-- The octet the text of a tree starts with. -/
def StartsWith : Tree → UInt8 → Prop
  | .null, b => b = 0x6E
  | .bool true, b => b = 0x74
  | .bool false, b => b = 0x66
  | .number _, b => b = 0x2D ∨ Scalar.isDigit b = true
  | .string _, b => b = 0x22
  | .array _, b => b = 0x5B
  | .object _, b => b = 0x7B

theorem nodes_pos (t : Tree) : 0 < t.nodes := by
  cases t <;> simp [nodes]

end Tree

namespace Reader

open CiClient.Json.Tree

/-- A value whose first octet `b` is at hand; `items` and `fields` read the inside of an array
or an object after its opening bracket. -/
def treeAt (items : Reader (List Tree)) (fields : Reader (List (String × Tree))) (b : UInt8) :
    Reader Tree :=
  if b = 0x6E then do eat; nullRest; return .null
  else if b = 0x74 then do eat; trueRest; return .bool true
  else if b = 0x66 then do eat; falseRest; return .bool false
  else if b = 0x2D then do eat; return .number (← number false)
  else if Scalar.isDigit b then return .number (← number true)
  else if b = 0x22 then do eat; return .string (← string)
  else if b = 0x5B then return .array (← nested items closeArray)
  else if b = 0x7B then return .object (← nested fields closeObject)
  else failAhead .expectedSomeValue

mutual
/-- Reads a value as it is written, in the steps of `Reader.value`. Running out of fuel fails. -/
def tree : Nat → Reader Tree
  | 0 => failAhead .eofWhileParsingValue
  | fuel + 1 => do
    match ← blank with
    | none => failAhead .eofWhileParsingValue
    | some b => treeAt (treeItems fuel true) (treeFields fuel true) b

/-- The items of an array, after its opening bracket or an item. -/
def treeItems : Nat → Bool → Reader (List Tree)
  | 0, _ => failAhead .eofWhileParsingValue
  | fuel + 1, first => do
    if ← itemStart first then
      let t ← tree fuel
      return t :: (← treeItems fuel false)
    else return []

/-- The fields of an object, after its opening brace or a field. -/
def treeFields : Nat → Bool → Reader (List (String × Tree))
  | 0, _ => failAhead .eofWhileParsingValue
  | fuel + 1, first => do
    match ← keyStart first with
    | none => return []
    | some k =>
      colon
      let t ← tree fuel
      return (k, t) :: (← treeFields fuel false)
end

variable {α : Type}

theorem exec_bind_toValue {x : Reader α} {f : α → Tree} {g : α → Value}
    (hfg : ∀ a, g a = (f a).toValue) {c c' : Cursor} {t : Tree}
    (h : (x >>= fun a => pure (f a)).exec c = (.ok t, c')) :
    (x >>= fun a => pure (g a)).exec c = (.ok t.toValue, c') := by
  obtain ⟨a, c₁, hx, hp⟩ := exec_bind_ok_inv h
  obtain ⟨rfl, rfl⟩ := exec_pure_ok_inv hp
  rw [exec_bind_of_ok hx, hfg]
  rfl

/-- What the tree reader reads, the value reader reads as the tree's value; the items and fields
readers add to what they were given. One induction on the fuel carries the three readers. -/
theorem value_of_tree_all (n : Nat) :
    (∀ c t c', (tree n).exec c = (.ok t, c') → (value n).exec c = (.ok t.toValue, c')) ∧
    (∀ first c ts c', (treeItems n first).exec c = (.ok ts, c') →
      ∀ acc, (items n first acc).exec c = (.ok (acc.reverse ++ toValues ts), c')) ∧
    (∀ first c fs c', (treeFields n first).exec c = (.ok fs, c') →
      ∀ acc, (fields n first acc).exec c = (.ok (fieldValues fs acc), c')) := by
  induction n with
  | zero => refine ⟨?_, ?_, ?_⟩ <;> intros <;> simp_all [tree, treeItems, treeFields, exec_failAhead]
  | succ n ih =>
    obtain ⟨ihv, ihi, ihf⟩ := ih
    refine ⟨?_, ?_, ?_⟩
    · intro c t c' h
      rw [tree, exec_bind, exec_blank] at h
      rw [value, exec_bind, exec_blank]
      cases hb : c.skipBlanks.rest.head? with
      | none => simp [hb, exec_failAhead] at h
      | some b =>
        simp only [hb] at h ⊢
        unfold treeAt at h
        split_ifs at h ⊢
        · rw [exec_bind_of_ok (exec_eat _)] at h ⊢
          exact exec_bind_toValue (fun _ => rfl) h
        · rw [exec_bind_of_ok (exec_eat _)] at h ⊢
          exact exec_bind_toValue (fun _ => rfl) h
        · rw [exec_bind_of_ok (exec_eat _)] at h ⊢
          exact exec_bind_toValue (fun _ => rfl) h
        · rw [exec_bind_of_ok (exec_eat _)] at h ⊢
          exact exec_bind_toValue (fun _ => rfl) h
        · exact exec_bind_toValue (fun _ => rfl) h
        · rw [exec_bind_of_ok (exec_eat _)] at h ⊢
          exact exec_bind_toValue (fun _ => rfl) h
        · obtain ⟨ts, c₁, rfl, hd, hin, hcl⟩ := nested_bind_ok_inv h
          have hv := ihi true _ ts c₁ hin []
          exact exec_nested_bind Value.array hd hv hcl
        · obtain ⟨fs, c₁, rfl, hd, hin, hcl⟩ := nested_bind_ok_inv h
          have hv := ihf true _ fs c₁ hin []
          exact exec_nested_bind Value.object hd hv hcl
        · simp [exec_failAhead] at h
    · intro first c ts c' h acc
      rw [treeItems, exec_bind] at h
      rw [items, exec_bind]
      rcases hs : (itemStart first).exec c with ⟨_ | more, c₁⟩ <;> rw [hs] at h
      · cases h
      · cases more with
        | false =>
          obtain ⟨rfl, rfl⟩ := exec_pure_ok_inv h
          simp [toValues]
        | true =>
          obtain ⟨t, c₂, ht, h⟩ := exec_bind_ok_inv h
          obtain ⟨rest, c₃, hrest, hp⟩ := exec_bind_ok_inv h
          obtain ⟨rfl, rfl⟩ := exec_pure_ok_inv hp
          simp only [if_true]
          rw [exec_bind_of_ok (ihv _ _ _ ht), ihi false _ _ _ hrest]
          simp [toValues]
    · intro first c fs c' h acc
      rw [treeFields, exec_bind] at h
      rw [fields, exec_bind]
      rcases hs : (keyStart first).exec c with ⟨_ | key, c₁⟩ <;> rw [hs] at h
      · cases h
      · cases key with
        | none =>
          obtain ⟨rfl, rfl⟩ := exec_pure_ok_inv h
          rfl
        | some k =>
          obtain ⟨u, c₂, hcolon, h⟩ := exec_bind_ok_inv h
          obtain ⟨t, c₃, ht, h⟩ := exec_bind_ok_inv h
          obtain ⟨rest, c₄, hrest, hp⟩ := exec_bind_ok_inv h
          obtain ⟨rfl, rfl⟩ := exec_pure_ok_inv hp
          simp only
          rw [exec_bind_of_ok hcolon, exec_bind_of_ok (ihv _ _ _ ht), ihf false _ _ _ hrest]
          rfl

theorem treeAt_array (I : Reader (List Tree)) (F : Reader (List (String × Tree))) :
    treeAt I F 0x5B = (nested I closeArray >>= fun ts => pure (.array ts)) := rfl

theorem treeAt_object (I : Reader (List Tree)) (F : Reader (List (String × Tree))) :
    treeAt I F 0x7B = (nested F closeObject >>= fun fs => pure (.object fs)) := rfl

theorem treeAt_string (I : Reader (List Tree)) (F : Reader (List (String × Tree))) :
    treeAt I F 0x22 = (eat >>= fun _ => Reader.string >>= fun s => pure (.string s)) := rfl

theorem treeAt_null (I : Reader (List Tree)) (F : Reader (List (String × Tree))) :
    treeAt I F 0x6E = (eat >>= fun _ => nullRest >>= fun _ => pure .null) := rfl

theorem treeAt_of_inside {I I' : Reader (List Tree)} {F F' : Reader (List (String × Tree))}
    {b : UInt8} {c c' : Cursor} {t : Tree}
    (hI : ∀ a c₁, I.exec c.enter = (.ok a, c₁) → I'.exec c.enter = (.ok a, c₁))
    (hF : ∀ a c₁, F.exec c.enter = (.ok a, c₁) → F'.exec c.enter = (.ok a, c₁))
    (h : (treeAt I F b).exec c = (.ok t, c')) :
    (treeAt I' F' b).exec c = (.ok t, c') := by
  unfold treeAt at h ⊢
  split_ifs at h ⊢
  any_goals exact h
  · obtain ⟨ts, c₁, rfl, hd, hin, hcl⟩ := nested_bind_ok_inv h
    exact exec_nested_bind Tree.array hd (hI _ _ hin) hcl
  · obtain ⟨fs, c₁, rfl, hd, hin, hcl⟩ := nested_bind_ok_inv h
    exact exec_nested_bind Tree.object hd (hF _ _ hin) hcl

theorem treeAt_of_ne_object {I : Reader (List Tree)} {F F' : Reader (List (String × Tree))}
    {b : UInt8} (hb : b ≠ 0x7B) : treeAt I F b = treeAt I F' b := by
  unfold treeAt
  simp only [if_neg hb]

theorem treeAt_startsWith {I : Reader (List Tree)} {F : Reader (List (String × Tree))}
    {b : UInt8} {c c' : Cursor} {t : Tree} (h : (treeAt I F b).exec c = (.ok t, c')) :
    t.StartsWith b := by
  unfold treeAt at h
  simp only [← bind_assoc] at h
  split_ifs at h with h1 h2 h3 h4 h5 h6 h7 h8
  · obtain ⟨_, rfl⟩ := exec_bind_pure_ok_inv h; exact h1
  · obtain ⟨_, rfl⟩ := exec_bind_pure_ok_inv h; exact h2
  · obtain ⟨_, rfl⟩ := exec_bind_pure_ok_inv h; exact h3
  · obtain ⟨_, rfl⟩ := exec_bind_pure_ok_inv h; exact .inl h4
  · obtain ⟨_, rfl⟩ := exec_bind_pure_ok_inv h; exact .inr h5
  · obtain ⟨_, rfl⟩ := exec_bind_pure_ok_inv h; exact h6
  · obtain ⟨_, rfl⟩ := exec_bind_pure_ok_inv h; exact h7
  · obtain ⟨_, rfl⟩ := exec_bind_pure_ok_inv h; exact h8
  · rw [exec_failAhead] at h
    cases h

theorem nodes_of_treeAt {I : Reader (List Tree)} {F : Reader (List (String × Tree))}
    {b : UInt8} {c c' : Cursor} {t : Tree} (ha : b ≠ 0x5B) (ho : b ≠ 0x7B)
    (h : (treeAt I F b).exec c = (.ok t, c')) : t.nodes = 1 := by
  unfold treeAt at h
  simp only [← bind_assoc] at h
  split_ifs at h
  · obtain ⟨_, rfl⟩ := exec_bind_pure_ok_inv h; rfl
  · obtain ⟨_, rfl⟩ := exec_bind_pure_ok_inv h; rfl
  · obtain ⟨_, rfl⟩ := exec_bind_pure_ok_inv h; rfl
  · obtain ⟨_, rfl⟩ := exec_bind_pure_ok_inv h; rfl
  · obtain ⟨_, rfl⟩ := exec_bind_pure_ok_inv h; rfl
  · obtain ⟨_, rfl⟩ := exec_bind_pure_ok_inv h; rfl
  · rw [exec_failAhead] at h
    cases h

/-- A tree read with some fuel starts at the first octet past the blanks. -/
theorem tree_succ_inv {n : Nat} {c c' : Cursor} {t : Tree}
    (h : (tree (n + 1)).exec c = (.ok t, c')) :
    ∃ b, c.skipBlanks.rest.head? = some b ∧
      (treeAt (treeItems n true) (treeFields n true) b).exec c.skipBlanks = (.ok t, c') := by
  rw [tree, exec_bind, exec_blank] at h
  cases hb : c.skipBlanks.rest.head? with
  | none => simp [hb, exec_failAhead] at h
  | some b =>
    simp only [hb] at h
    exact ⟨b, rfl, h⟩

theorem exec_tree_succ_of_head {n : Nat} {c : Cursor} {b : UInt8}
    (hb : c.skipBlanks.rest.head? = some b) :
    (tree (n + 1)).exec c = (treeAt (treeItems n true) (treeFields n true) b).exec c.skipBlanks := by
  rw [tree, exec_bind, exec_blank, hb]

theorem tree_skipBlanks {n : Nat} {c c' : Cursor} {t : Tree}
    (h : (tree n).exec c = (.ok t, c')) : (tree n).exec c.skipBlanks = (.ok t, c') := by
  cases n with
  | zero => simp [tree, exec_failAhead] at h
  | succ n =>
    rw [tree, exec_bind, exec_blank] at h
    rw [tree, exec_bind, exec_blank, Cursor.skipBlanks_skipBlanks]
    exact h

theorem tree_of_skipBlanks {n : Nat} {c c' : Cursor} {t : Tree}
    (h : (tree n).exec c.skipBlanks = (.ok t, c')) : (tree n).exec c = (.ok t, c') := by
  cases n with
  | zero => simp [tree, exec_failAhead] at h
  | succ n =>
    rw [tree, exec_bind, exec_blank, Cursor.skipBlanks_skipBlanks] at h
    rw [tree, exec_bind, exec_blank]
    exact h

/-- Each value read takes at least one octet, the opening bracket for an array or object. -/
theorem tree_nodes_all (n : Nat) :
    (∀ c t c', (tree n).exec c = (.ok t, c') →
      c'.budget = c.budget ∧ c'.depth = c.depth ∧ c'.rest.length + t.nodes ≤ c.rest.length) ∧
    (∀ first c ts c', (treeItems n first).exec c = (.ok ts, c') →
      c'.budget = c.budget ∧ c'.depth = c.depth ∧
        c'.rest.length + itemsNodes ts ≤ c.rest.length) ∧
    (∀ first c fs c', (treeFields n first).exec c = (.ok fs, c') →
      c'.budget = c.budget ∧ c'.depth = c.depth ∧
        c'.rest.length + fieldsNodes fs ≤ c.rest.length) := by
  induction n with
  | zero => refine ⟨?_, ?_, ?_⟩ <;> intros <;> simp_all [tree, treeItems, treeFields, exec_failAhead]
  | succ n ih =>
    obtain ⟨ihv, ihi, ihf⟩ := ih
    refine ⟨?_, ?_, ?_⟩
    · intro c t c' h
      rw [tree, exec_bind, exec_blank] at h
      have hbl := Cursor.skipBlanks_length c
      cases hb : c.skipBlanks.rest.head? with
      | none => simp [hb, exec_failAhead] at h
      | some b =>
        simp only [hb] at h
        have hadv := Cursor.advance_length_of_head hb
        -- a scalar: one octet read by `eat` or the number scanner, then more that keep the bound
        have eaten : ∀ (x : Reader Unit) (v : Tree), Keeps x → v.nodes = 1 →
            (eat >>= fun _ => x >>= fun _ => pure v).exec c.skipBlanks = (.ok t, c') →
            c'.budget = c.budget ∧ c'.depth = c.depth ∧ c'.rest.length + t.nodes ≤ c.rest.length := by
          intro x v hx hv he
          rw [exec_bind_of_ok (exec_eat _)] at he
          obtain ⟨u, c₁, h₁, hp⟩ := exec_bind_ok_inv he
          obtain ⟨rfl, rfl⟩ := exec_pure_ok_inv hp
          obtain ⟨hb₁, hd₁, hl₁⟩ := hx _ _ _ h₁
          exact ⟨by simpa using hb₁, by simpa using hd₁, by omega⟩
        -- an array or object: the inside is read one level down, and the level is given back
        have nest : ∀ c₁ : Cursor, 1 < c.skipBlanks.depth → c₁.depth = c.skipBlanks.enter.depth →
            c₁.leave.depth = c.depth := by
          intro c₁ hd h₁
          simp only [Cursor.leave, h₁, Cursor.enter, Cursor.advance_depth] at hd ⊢
          simp only [Cursor.skipBlanks_depth] at hd ⊢
          omega
        unfold treeAt at h
        split_ifs at h with h1 h2 h3 h4 h5 h6 h7 h8
        · exact eaten _ _ (keeps_word _) rfl h
        · exact eaten _ _ (keeps_word _) rfl h
        · exact eaten _ _ (keeps_word _) rfl h
        · rw [exec_bind_of_ok (exec_eat _)] at h
          obtain ⟨x, c₁, h₁, hp⟩ := exec_bind_ok_inv h
          obtain ⟨rfl, rfl⟩ := exec_pure_ok_inv hp
          obtain ⟨hb₁, hd₁, hl₁⟩ := keeps_number _ _ _ _ h₁
          exact ⟨by simpa using hb₁, by simpa using hd₁, by simp only [Tree.nodes]; omega⟩
        · obtain ⟨x, c₁, h₁, hp⟩ := exec_bind_ok_inv h
          obtain ⟨rfl, rfl⟩ := exec_pure_ok_inv hp
          obtain ⟨hs, hc⟩ := scan_ok h₁
          have hskip := Scalar.skip_number hs
          obtain ⟨r, hr⟩ : ∃ r, c.skipBlanks.rest = b :: r := by
            cases hcr : c.skipBlanks.rest with
            | nil => simp [hcr] at hb
            | cons b' r =>
              simp only [hcr, List.head?_cons, Option.some.injEq] at hb
              exact ⟨r, by rw [hb]⟩
          rw [hr] at hskip
          have hsuf := (Scalar.skipNumber_consumes hskip).length_le
          rw [hc]
          refine ⟨rfl, rfl, ?_⟩
          simp only [Tree.nodes]
          simp only [hr, List.length_cons] at hbl
          omega
        · rw [exec_bind_of_ok (exec_eat _)] at h
          obtain ⟨x, c₁, h₁, hp⟩ := exec_bind_ok_inv h
          obtain ⟨rfl, rfl⟩ := exec_pure_ok_inv hp
          obtain ⟨hb₁, hd₁, hl₁⟩ := keeps_string _ _ _ h₁
          exact ⟨by simpa using hb₁, by simpa using hd₁, by simp only [Tree.nodes]; omega⟩
        · obtain ⟨ts, c₁, rfl, hd, hin, hcl⟩ := nested_bind_ok_inv h
          obtain ⟨hb₁, hd₁, hl₁⟩ := ihi _ _ _ _ hin
          obtain ⟨hb₂, hd₂, hl₂⟩ := keeps_closeArray _ _ _ hcl
          have he : c.skipBlanks.enter.rest.length + 1 = c.skipBlanks.rest.length := by
            simpa using hadv
          refine ⟨by simp_all, by rw [hd₂]; exact nest c₁ hd hd₁, ?_⟩
          simp only [Tree.nodes]
          simp only [Cursor.leave_rest] at hl₂
          omega
        · obtain ⟨fs, c₁, rfl, hd, hin, hcl⟩ := nested_bind_ok_inv h
          obtain ⟨hb₁, hd₁, hl₁⟩ := ihf _ _ _ _ hin
          obtain ⟨hb₂, hd₂, hl₂⟩ := keeps_closeObject _ _ _ hcl
          have he : c.skipBlanks.enter.rest.length + 1 = c.skipBlanks.rest.length := by
            simpa using hadv
          refine ⟨by simp_all, by rw [hd₂]; exact nest c₁ hd hd₁, ?_⟩
          simp only [Tree.nodes]
          simp only [Cursor.leave_rest] at hl₂
          omega
        · simp [exec_failAhead] at h
    · intro first c ts c' h
      rw [treeItems, exec_bind] at h
      rcases hs : (itemStart first).exec c with ⟨_ | more, c₁⟩ <;> rw [hs] at h
      · cases h
      · obtain ⟨hb₁, hd₁, hl₁⟩ := keeps_itemStart _ _ _ _ hs
        cases more with
        | false =>
          obtain ⟨rfl, rfl⟩ := exec_pure_ok_inv h
          exact ⟨hb₁, hd₁, by simp [Tree.itemsNodes]; omega⟩
        | true =>
          obtain ⟨t, c₂, ht, h⟩ := exec_bind_ok_inv h
          obtain ⟨rest, c₃, hrest, hp⟩ := exec_bind_ok_inv h
          obtain ⟨rfl, rfl⟩ := exec_pure_ok_inv hp
          obtain ⟨hb₂, hd₂, hl₂⟩ := ihv _ _ _ ht
          obtain ⟨hb₃, hd₃, hl₃⟩ := ihi _ _ _ _ hrest
          exact ⟨by simp_all, by simp_all, by simp only [Tree.itemsNodes]; omega⟩
    · intro first c fs c' h
      rw [treeFields, exec_bind] at h
      rcases hs : (keyStart first).exec c with ⟨_ | key, c₁⟩ <;> rw [hs] at h
      · cases h
      · obtain ⟨hb₁, hd₁, hl₁⟩ := keeps_keyStart _ _ _ _ hs
        cases key with
        | none =>
          obtain ⟨rfl, rfl⟩ := exec_pure_ok_inv h
          exact ⟨hb₁, hd₁, by simp [Tree.fieldsNodes]; omega⟩
        | some k =>
          obtain ⟨u, c₂, hcolon, h⟩ := exec_bind_ok_inv h
          obtain ⟨t, c₃, ht, h⟩ := exec_bind_ok_inv h
          obtain ⟨rest, c₄, hrest, hp⟩ := exec_bind_ok_inv h
          obtain ⟨rfl, rfl⟩ := exec_pure_ok_inv hp
          obtain ⟨hb₂, hd₂, hl₂⟩ := keeps_colon _ _ _ hcolon
          obtain ⟨hb₃, hd₃, hl₃⟩ := ihv _ _ _ ht
          obtain ⟨hb₄, hd₄, hl₄⟩ := ihf _ _ _ _ hrest
          exact ⟨by simp_all, by simp_all, by simp only [Tree.fieldsNodes]; omega⟩

theorem keeps_tree (n : Nat) : Keeps (tree n) := fun c t c' h =>
  let ⟨hb, hd, hl⟩ := (tree_nodes_all n).1 c t c' h
  ⟨hb, hd, by omega⟩

/-- A value read with some fuel is read the same with any fuel above twice the octets left; the
items and fields readers need one more. The induction is on the new fuel. -/
theorem tree_room_all (n : Nat) :
    (∀ m c t c', (tree m).exec c = (.ok t, c') → 2 * c.rest.length < n →
      (tree n).exec c = (.ok t, c')) ∧
    (∀ m first c ts c', (treeItems m first).exec c = (.ok ts, c') →
      2 * c.rest.length + 1 < n → (treeItems n first).exec c = (.ok ts, c')) ∧
    (∀ m first c fs c', (treeFields m first).exec c = (.ok fs, c') →
      2 * c.rest.length + 1 < n → (treeFields n first).exec c = (.ok fs, c')) := by
  induction n with
  | zero => exact ⟨fun _ _ _ _ _ h => absurd h (by omega), fun _ _ _ _ _ _ h => absurd h (by omega),
      fun _ _ _ _ _ _ h => absurd h (by omega)⟩
  | succ n ih =>
    obtain ⟨ihv, ihi, ihf⟩ := ih
    refine ⟨?_, ?_, ?_⟩
    · intro m c t c' h hroom
      cases m with
      | zero => simp [tree, exec_failAhead] at h
      | succ m =>
      obtain ⟨b, hb, ht⟩ := tree_succ_inv h
      rw [tree, exec_bind, exec_blank, hb]
      -- the inside of an array or object starts past the bracket, so it has the room it needs
      have hin : 2 * c.skipBlanks.enter.rest.length + 1 < n := by
        have := Cursor.advance_length_of_head hb
        have := Cursor.skipBlanks_length c
        simp only [Cursor.enter_rest]
        omega
      exact treeAt_of_inside (fun _ _ hi => ihi _ _ _ _ _ hi hin)
        (fun _ _ hf => ihf _ _ _ _ _ hf hin) ht
    · intro m first c ts c' h hroom
      cases m with
      | zero => simp [treeItems, exec_failAhead] at h
      | succ m =>
      rw [treeItems, exec_bind] at h ⊢
      rcases hs : (itemStart first).exec c with ⟨_ | more, c₁⟩ <;> rw [hs] at h
      · cases h
      obtain ⟨-, -, hl₁⟩ := keeps_itemStart first _ _ _ hs
      cases more with
      | false => exact h
      | true =>
        obtain ⟨t, c₂, ht, h⟩ := exec_bind_ok_inv h
        obtain ⟨rest, c₃, hrest, hp⟩ := exec_bind_ok_inv h
        -- the item takes an octet at least, which leaves room for the items after it
        obtain ⟨-, -, hl₂⟩ := (tree_nodes_all m).1 _ _ _ ht
        have := nodes_pos t
        simp only [if_true]
        rw [exec_bind_of_ok (ihv _ _ _ _ ht (by omega)),
          exec_bind_of_ok (ihi _ _ _ _ _ hrest (by omega))]
        exact hp
    · intro m first c fs c' h hroom
      cases m with
      | zero => simp [treeFields, exec_failAhead] at h
      | succ m =>
      rw [treeFields, exec_bind] at h ⊢
      rcases hs : (keyStart first).exec c with ⟨_ | key, c₁⟩ <;> rw [hs] at h
      · cases h
      obtain ⟨-, -, hl₁⟩ := keeps_keyStart first _ _ _ hs
      cases key with
      | none => exact h
      | some k =>
        obtain ⟨u, c₂, hcolon, h⟩ := exec_bind_ok_inv h
        obtain ⟨t, c₃, ht, h⟩ := exec_bind_ok_inv h
        obtain ⟨rest, c₄, hrest, hp⟩ := exec_bind_ok_inv h
        obtain ⟨-, -, hl₂⟩ := keeps_colon _ _ _ hcolon
        obtain ⟨-, -, hl₃⟩ := (tree_nodes_all m).1 _ _ _ ht
        have := nodes_pos t
        simp only
        rw [exec_bind_of_ok hcolon, exec_bind_of_ok (ihv _ _ _ _ ht (by omega)),
          exec_bind_of_ok (ihf _ _ _ _ _ hrest (by omega))]
        exact hp

theorem tree_of_room {m n : Nat} {c c' : Cursor} {t : Tree} (h : (tree m).exec c = (.ok t, c'))
    (hroom : 2 * c.rest.length < n) : (tree n).exec c = (.ok t, c') :=
  (tree_room_all n).1 m c t c' h hroom

/-- Wherever the value reader reads a value with room for its fuel, the tree reader reads a tree
there too, ending at the same octet. -/
theorem tree_of_value_all (n : Nat) :
    (∀ c v c', 2 * c.rest.length < n → (value n).exec c = (.ok v, c') →
      ∃ t, (tree n).exec c = (.ok t, c')) ∧
    (∀ first acc c vs c', 2 * c.rest.length + 1 < n → (items n first acc).exec c = (.ok vs, c') →
      ∃ ts, (treeItems n first).exec c = (.ok ts, c')) ∧
    (∀ first acc c fs c', 2 * c.rest.length + 1 < n → (fields n first acc).exec c = (.ok fs, c') →
      ∃ fs', (treeFields n first).exec c = (.ok fs', c')) := by
  induction n with
  | zero => exact ⟨fun _ _ _ h => absurd h (by omega), fun _ _ _ _ _ h => absurd h (by omega),
      fun _ _ _ _ _ h => absurd h (by omega)⟩
  | succ n ih =>
    obtain ⟨ihv, ihi, ihf⟩ := ih
    refine ⟨?_, ?_, ?_⟩
    · intro c v c' hroom h
      rw [value, exec_bind, exec_blank] at h
      rw [tree, exec_bind, exec_blank]
      cases hb : c.skipBlanks.rest.head? with
      | none => simp [hb, exec_failAhead] at h
      | some b =>
        simp only [hb] at h ⊢
        have hin : 2 * c.skipBlanks.enter.rest.length + 1 < n := by
          have := Cursor.advance_length_of_head hb
          have := Cursor.skipBlanks_length c
          simp only [Cursor.enter_rest]
          omega
        -- a scalar is read by the same steps; an array or object by readers that agree
        unfold treeAt
        simp only [← bind_assoc] at h ⊢
        split_ifs at h ⊢
        any_goals exact exec_bind_pure_swap h
        · obtain ⟨vs, c₁, -, hd, hvs, hcl⟩ := nested_bind_ok_inv h
          obtain ⟨ts, hts⟩ := ihi true [] _ vs c₁ hin hvs
          exact ⟨_, exec_nested_bind Tree.array hd hts hcl⟩
        · obtain ⟨fs, c₁, -, hd, hfs, hcl⟩ := nested_bind_ok_inv h
          obtain ⟨fs', hfs'⟩ := ihf true [] _ fs c₁ hin hfs
          exact ⟨_, exec_nested_bind Tree.object hd hfs' hcl⟩
        · simp [exec_failAhead] at h
    · intro first acc c vs c' hroom h
      rw [items, exec_bind] at h
      rw [treeItems, exec_bind]
      rcases hs : (itemStart first).exec c with ⟨_ | more, c₁⟩ <;> rw [hs] at h
      · cases h
      obtain ⟨-, -, hl₁⟩ := keeps_itemStart first _ _ _ hs
      cases more with
      | false => exact ⟨[], (exec_pure_ok_inv h).2 ▸ rfl⟩
      | true =>
        obtain ⟨v, c₂, hv, h⟩ := exec_bind_ok_inv h
        obtain ⟨t, ht⟩ := ihv _ _ _ (by omega) hv
        obtain ⟨-, -, hl₂⟩ := (tree_nodes_all n).1 _ _ _ ht
        have := nodes_pos t
        obtain ⟨ts, hts⟩ := ihi false _ _ _ _ (by omega) h
        simp only [if_true]
        rw [exec_bind_of_ok ht, exec_bind_of_ok hts]
        exact ⟨_, rfl⟩
    · intro first acc c fs c' hroom h
      rw [fields, exec_bind] at h
      rw [treeFields, exec_bind]
      rcases hs : (keyStart first).exec c with ⟨_ | key, c₁⟩ <;> rw [hs] at h
      · cases h
      obtain ⟨-, -, hl₁⟩ := keeps_keyStart first _ _ _ hs
      cases key with
      | none => exact ⟨[], (exec_pure_ok_inv h).2 ▸ rfl⟩
      | some k =>
        obtain ⟨u, c₂, hcolon, h⟩ := exec_bind_ok_inv h
        obtain ⟨v, c₃, hv, h⟩ := exec_bind_ok_inv h
        obtain ⟨-, -, hl₂⟩ := keeps_colon _ _ _ hcolon
        obtain ⟨t, ht⟩ := ihv _ _ _ (by omega) hv
        obtain ⟨-, -, hl₃⟩ := (tree_nodes_all n).1 _ _ _ ht
        have := nodes_pos t
        obtain ⟨fs', hfs'⟩ := ihf false _ _ _ _ (by omega) h
        simp only
        rw [exec_bind_of_ok hcolon, exec_bind_of_ok ht, exec_bind_of_ok hfs']
        exact ⟨_, rfl⟩

/-- The value reader, with room for its fuel, reads the value of the tree the tree reader reads. -/
theorem tree_of_value {n : Nat} {c c' : Cursor} {v : Value} (hroom : 2 * c.rest.length < n)
    (h : (value n).exec c = (.ok v, c')) : ∃ t, (tree n).exec c = (.ok t, c') ∧ t.toValue = v := by
  obtain ⟨t, ht⟩ := (tree_of_value_all n).1 c v c' hroom h
  have hv := (value_of_tree_all n).1 c t c' ht
  rw [h] at hv
  exact ⟨t, ht, (Except.ok.inj (Prod.mk.inj hv).1).symm⟩

end Reader

end CiClient.Json
