import CiClient.Job.Path
import CiClient.Proofs.PercentEncoding
import Mathlib.Data.List.DropRight
import Mathlib.Data.List.TakeWhile
/-!
# The rules of job names

A job name is checked against five rules before it goes into a path, and a name used as a query
value against a sixth. Here each rule is stated over the characters of the name, as the property
of the names that break it (`NameIssue.Breaks`). The check refuses a name with the first rule it
breaks, in the order of `pathRules` (of `queryRules` for a query value), and accepts it as it is
when it breaks none: `name_checks_first_broken_rule`.

Two rules need an argument. Trimming changes a name exactly when its first or its last character
is White_Space (`trim_eq_self_iff`). The escape rule says of every `%` of the name that the two
characters after it are two hex digits, or `+` and one hex digit, of an octet that is not a
separator; the check walks the octets of the name instead and jumps over each escape it accepts.
The two agree because an accepted escape holds no `%`, and because every octet of a character
outside ASCII is at least `0x80`, so that none of them is `%`, `+` or a hex digit.
-/

namespace CiClient.Job

open Text

/-- The value of a hex digit of either case. -/
def hexDigitValue (c : Char) : Option Nat :=
  if '0' ≤ c ∧ c ≤ '9' then some (c.toNat - 48)
  else if 'a' ≤ c ∧ c ≤ 'f' then some (c.toNat - 87)
  else if 'A' ≤ c ∧ c ≤ 'F' then some (c.toNat - 55)
  else none

/-- The octet that the two characters after a `%` stand for: two hex digits, or `+` and one hex
digit. -/
def escapeValue (h1 h2 : Char) : Option Nat :=
  if h1 = '+' then hexDigitValue h2
  else match hexDigitValue h1, hexDigitValue h2 with
    | some a, some b => some (a * 16 + b)
    | _, _ => none

/-- The `%` at index `i` starts an escape of an octet that is not a separator. -/
def EscapeAt (cs : List Char) (i : Nat) : Prop :=
  ∃ h1 h2 n, cs[i + 1]? = some h1 ∧ cs[i + 2]? = some h2 ∧ escapeValue h1 h2 = some n ∧
    isSeparator (Char.ofNat n) = false

/-- Every `%` starts an escape of an octet that is not a separator. -/
def EscapesAllowed (cs : List Char) : Prop := ∀ i, cs[i]? = some '%' → EscapeAt cs i

/-- The escape rule checked from left to right over characters, jumping over each escape. -/
def escapesAllowed : List Char → Bool
  | '%' :: h1 :: h2 :: rest =>
    match escapeValue h1 h2 with
    | some n => !isSeparator (Char.ofNat n) && escapesAllowed rest
    | none => false
  | '%' :: _ => false
  | _ :: rest => escapesAllowed rest
  | [] => true

/-! ## Octets of characters -/

theorem hexDigit_ascii : ∀ n, n < 0x80 → hexDigit n.toUInt8 = hexDigitValue (Char.ofNat n) := by
  decide +kernel

theorem hexDigit_high : ∀ b : UInt8, 0x80 ≤ b.toNat → hexDigit b = none :=
  Url.forall_octet (p := fun b => 0x80 ≤ b.toNat → hexDigit b = none) (by decide +kernel)

theorem hexDigitValue_high {c : Char} (hc : 0x80 ≤ c.toNat) : hexDigitValue c = none := by
  have h9 : ¬ c ≤ '9' := by
    rw [Char.le_def, UInt32.le_iff_toNat_le]
    change ¬ c.toNat ≤ 57
    omega
  have hf : ¬ c ≤ 'f' := by
    rw [Char.le_def, UInt32.le_iff_toNat_le]
    change ¬ c.toNat ≤ 102
    omega
  have hF : ¬ c ≤ 'F' := by
    rw [Char.le_def, UInt32.le_iff_toNat_le]
    change ¬ c.toNat ≤ 70
    omega
  simp [hexDigitValue, h9, hf, hF]

theorem escapeValue_high_left {h1 : Char} (hc : 0x80 ≤ h1.toNat) (h2 : Char) :
    escapeValue h1 h2 = none := by
  have hplus : h1 ≠ '+' := by
    rintro rfl
    exact absurd hc (by decide)
  simp [escapeValue, hplus, hexDigitValue_high hc]

theorem escapeValue_high_right (h1 : Char) {h2 : Char} (hc : 0x80 ≤ h2.toNat) :
    escapeValue h1 h2 = none := by
  unfold escapeValue
  split_ifs
  · exact hexDigitValue_high hc
  · rw [hexDigitValue_high hc]
    cases hexDigitValue h1 <;> rfl

theorem escapedOctet_high_left {x : UInt8} (hx : 0x80 ≤ x.toNat) (y : UInt8) :
    escapedOctet x y = none := by
  have hplus : x ≠ 0x2B := by
    rintro rfl
    exact absurd hx (by decide)
  simp [escapedOctet, hplus, hexDigit_high x hx]

theorem escapedOctet_high_right (x : UInt8) {y : UInt8} (hy : 0x80 ≤ y.toNat) :
    escapedOctet x y = none := by
  unfold escapedOctet
  split_ifs
  · exact hexDigit_high y hy
  · rw [hexDigit_high y hy]
    cases hexDigit x <;> rfl

theorem hexDigit_char {c : Char} (hc : c.toNat < 0x80) :
    hexDigit c.toNat.toUInt8 = hexDigitValue c := by
  rw [hexDigit_ascii c.toNat hc, Char.ofNat_toNat]

/-- An ASCII character is `+` exactly when its octet is. -/
theorem octet_eq_plus_iff {c : Char} (hc : c.toNat < 0x80) : c.toNat.toUInt8 = 0x2B ↔ c = '+' := by
  constructor
  · intro h
    apply Char.ext
    apply UInt32.toNat_inj.mp
    have h' := congrArg UInt8.toNat h
    rw [UInt8.toNat_ofNat', Nat.mod_eq_of_lt (by omega)] at h'
    exact h'
  · rintro rfl
    rfl

/-- The octets of two ASCII characters after a `%` are read as the characters are. -/
theorem escapedOctet_chars {h1 h2 : Char} (ha : h1.toNat < 0x80) (hb : h2.toNat < 0x80) :
    escapedOctet h1.toNat.toUInt8 h2.toNat.toUInt8 = escapeValue h1 h2 := by
  unfold escapedOctet escapeValue
  rw [hexDigit_char ha, hexDigit_char hb]
  by_cases hp : h1 = '+'
  · simp [hp]
  · -- both sides match on the two digit values; once those are known the sides agree
    cases hexDigitValue h1 <;> cases hexDigitValue h2 <;>
      rw [if_neg (mt (octet_eq_plus_iff ha).mp hp), if_neg hp]

/-- A character outside ASCII has at least two octets, each of them at least `0x80`. -/
theorem encodeChar_high {c : Char} (hc : 0x80 ≤ c.toNat) :
    (∃ x y rest, Utf8.encodeChar c = x :: y :: rest) ∧ ∀ b ∈ Utf8.encodeChar c, 0x80 ≤ b.toNat := by
  refine ⟨?_, fun b hb => ?_⟩
  · unfold Utf8.encodeChar
    dsimp only
    split_ifs with h
    · omega
    all_goals exact ⟨_, _, _, rfl⟩
  · by_contra hlt
    have := Utf8.toNat_eq_of_mem_encodeChar hb (by omega)
    omega

/-! ## The octet loop is the character loop -/

/-- Octets other than `%` are passed over. -/
theorem escapesWellFormed_skip : ∀ {bs : List UInt8}, (∀ b ∈ bs, b ≠ 0x25) →
    ∀ rest, escapesWellFormed (bs ++ rest) = escapesWellFormed rest
  | [], _, _ => rfl
  | b :: bs, h, rest => by
    rw [List.cons_append, escapesWellFormed.eq_4 _ _ (h b List.mem_cons_self)]
    exact escapesWellFormed_skip (fun x hx => h x (List.mem_cons_of_mem b hx)) rest

/-- The octets of a character other than `%` are passed over. -/
theorem escapesWellFormed_char {c : Char} (hc : c ≠ '%') (rest : List UInt8) :
    escapesWellFormed (Utf8.encodeChar c ++ rest) = escapesWellFormed rest := by
  apply escapesWellFormed_skip
  intro b hb h
  subst h
  by_cases ha : c.toNat < 0x80
  · -- the one octet of an ASCII character is the character itself
    have := Utf8.toNat_eq_of_mem_encodeChar hb (by decide)
    exact hc (Char.ext (UInt32.toNat_inj.mp this))
  · exact absurd ((encodeChar_high (by omega)).2 _ hb) (by decide)

/-- At a `%` followed by two characters, the octet loop reads the escape the two characters
make, and goes on after them. -/
theorem escapesWellFormed_escape (h1 h2 : Char) (rest : List UInt8) :
    escapesWellFormed (0x25 :: (Utf8.encodeChar h1 ++ Utf8.encodeChar h2 ++ rest)) =
      match escapeValue h1 h2 with
      | some n => !isSeparator (Char.ofNat n) && escapesWellFormed rest
      | none => false := by
  by_cases ha : h1.toNat < 0x80
  · by_cases hb : h2.toNat < 0x80
    · rw [Utf8.encodeChar_of_lt ha, Utf8.encodeChar_of_lt hb]
      simp only [List.cons_append, List.nil_append]
      cases hv : escapeValue h1 h2 <;> rw [escapesWellFormed.eq_2, escapedOctet_chars ha hb, hv]
    · obtain ⟨⟨x, y, r, hxy⟩, hhigh⟩ := encodeChar_high (c := h2) (by omega)
      rw [Utf8.encodeChar_of_lt ha, hxy, escapeValue_high_right h1 (by omega)]
      simp only [List.cons_append, List.nil_append]
      rw [escapesWellFormed.eq_2, escapedOctet_high_right _ (hhigh x (by simp [hxy]))]
  · obtain ⟨⟨x, y, r, hxy⟩, hhigh⟩ := encodeChar_high (c := h1) (by omega)
    rw [hxy, escapeValue_high_left (by omega) h2]
    simp only [List.cons_append]
    rw [escapesWellFormed.eq_2, escapedOctet_high_left (hhigh x (by simp [hxy]))]

/-- At a `%` followed by fewer than two characters the octet loop fails. -/
theorem escapesWellFormed_short {cs : List Char} (hcs : cs.length < 2) :
    escapesWellFormed (0x25 :: cs.flatMap Utf8.encodeChar) = false := by
  match cs, hcs with
  | [], _ => rfl
  | [h1], _ =>
    by_cases ha : h1.toNat < 0x80
    · rw [List.flatMap_singleton, Utf8.encodeChar_of_lt ha]
      rfl
    · obtain ⟨⟨x, y, r, hxy⟩, hhigh⟩ := encodeChar_high (c := h1) (by omega)
      rw [List.flatMap_singleton, hxy, escapesWellFormed.eq_2,
        escapedOctet_high_left (hhigh x (by simp [hxy]))]

theorem encodeChar_percent : Utf8.encodeChar '%' = [0x25] := rfl

theorem escapesWellFormed_flatMap (cs : List Char) :
    escapesWellFormed (cs.flatMap Utf8.encodeChar) = escapesAllowed cs := by
  fun_induction escapesAllowed cs with
  | case1 h1 h2 rest n hn ih =>
    have := escapesWellFormed_escape h1 h2 (rest.flatMap Utf8.encodeChar)
    rw [hn] at this
    simpa [List.flatMap_cons, encodeChar_percent, ih] using this
  | case2 h1 h2 rest hn =>
    have := escapesWellFormed_escape h1 h2 (rest.flatMap Utf8.encodeChar)
    rw [hn] at this
    simpa [List.flatMap_cons, encodeChar_percent] using this
  | case3 cs hcs =>
    rw [List.flatMap_cons, encodeChar_percent, List.singleton_append]
    apply escapesWellFormed_short
    match cs, hcs with
    | [], _ => simp
    | [_], _ => simp
    | _ :: _ :: _, h => exact absurd rfl (h _ _ _)
  | case4 c rest _ hc ih =>
    rw [List.flatMap_cons, escapesWellFormed_char hc _, ih]
  | case5 => rfl

/-! ## The character loop is the rule for every `%` -/

theorem escapeAt_cons {c : Char} {cs : List Char} {i : Nat} :
    EscapeAt (c :: cs) (i + 1) ↔ EscapeAt cs i := by
  simp [EscapeAt]

theorem escapesAllowed_cons_iff {c : Char} {cs : List Char} :
    EscapesAllowed (c :: cs) ↔ (c = '%' → EscapeAt (c :: cs) 0) ∧ EscapesAllowed cs := by
  constructor
  · intro h
    refine ⟨fun hc => h 0 (by simp [hc]), fun i hi => escapeAt_cons.mp (h (i + 1) (by simpa using hi))⟩
  · rintro ⟨h0, h⟩ i hi
    cases i with
    | zero => exact h0 (by simpa using hi)
    | succ i => exact escapeAt_cons.mpr (h i (by simpa using hi))

theorem hexDigitValue_percent : hexDigitValue '%' = none := by decide

/-- The two characters of an escape are no `%`. -/
theorem ne_percent_of_escapeValue {h1 h2 : Char} {n : Nat} (h : escapeValue h1 h2 = some n) :
    h1 ≠ '%' ∧ h2 ≠ '%' := by
  constructor
  · rintro rfl
    simp [escapeValue, hexDigitValue_percent] at h
  · rintro rfl
    unfold escapeValue at h
    split_ifs at h
    · simp [hexDigitValue_percent] at h
    · rw [hexDigitValue_percent] at h
      cases hexDigitValue h1 <;> simp at h

theorem escapesAllowed_iff (cs : List Char) : escapesAllowed cs = true ↔ EscapesAllowed cs := by
  fun_induction escapesAllowed cs with
  | case1 h1 h2 rest n hn ih =>
    obtain ⟨n1, n2⟩ := ne_percent_of_escapeValue hn
    -- the characters of the escape are no `%`, so only the rest remains to be checked
    simp only [escapesAllowed_cons_iff, n1, n2, IsEmpty.forall_iff, true_and, Bool.and_eq_true,
      Bool.not_eq_eq_eq_not, Bool.not_true, ← ih]
    simp [EscapeAt, hn]
  | case2 h1 h2 rest hn =>
    simp only [Bool.false_eq_true, false_iff]
    intro h
    obtain ⟨x, y, n, hx, hy, hxy, -⟩ := h 0 rfl
    simp only [List.getElem?_cons_succ, List.getElem?_cons_zero, Option.some.injEq] at hx hy
    subst hx hy
    simp [hn] at hxy
  | case3 cs hcs =>
    simp only [Bool.false_eq_true, false_iff]
    intro h
    obtain ⟨x, y, n, hx, hy, -⟩ := h 0 rfl
    match cs, hcs with
    | [], _ => simp at hx
    | [_], _ => simp at hy
    | _ :: _ :: _, h => exact absurd rfl (h _ _ _)
  | case4 c rest _ hc ih =>
    rw [escapesAllowed_cons_iff, ih]
    exact ⟨fun h => ⟨fun h' => absurd h' hc, h⟩, And.right⟩
  | case5 =>
    simp [EscapesAllowed]

/-- The octet loop of the name check is the rule for every `%` of the name. -/
theorem escapesWellFormed_iff (s : String) :
    escapesWellFormed (Utf8.encode s) = true ↔ EscapesAllowed s.toList := by
  rw [Utf8.encode, escapesWellFormed_flatMap, escapesAllowed_iff]

/-! ## Trimming -/

theorem head?_any_eq_false_iff {p : Char → Bool} {l : List Char} :
    l.head?.any p = false ↔ ∀ hl : 0 < l.length, ¬ p l[0] := by
  cases l <;> simp

theorem getLast?_any_eq_false_iff {p : Char → Bool} {l : List Char} :
    l.getLast?.any p = false ↔ ∀ hl : l ≠ [], ¬ p (l.getLast hl) := by
  cases l using List.reverseRecOn <;> simp

/-- Dropping from both ends keeps a list exactly when neither end is dropped. -/
theorem rdropWhile_dropWhile_eq_self {p : Char → Bool} {l : List Char} :
    (l.dropWhile p).rdropWhile p = l ↔ l.dropWhile p = l ∧ l.rdropWhile p = l := by
  constructor
  · intro h
    have hlen := (List.rdropWhile_prefix (p := p) (l := l.dropWhile p)).length_le
    have hsuf := List.dropWhile_suffix (l := l) p
    have hdrop : l.dropWhile p = l := hsuf.eq_of_length (by rw [h] at hlen; exact le_antisymm hsuf.length_le hlen)
    exact ⟨hdrop, by rw [hdrop] at h; exact h⟩
  · rintro ⟨h1, h2⟩
    rw [h1, h2]

/-- Trimming keeps a text exactly when it neither starts nor ends with White_Space. -/
theorem trim_eq_self_iff (s : String) :
    Unicode.trim s = s ↔ s.toList.head?.any Unicode.isWhiteSpace = false ∧
      s.toList.getLast?.any Unicode.isWhiteSpace = false := by
  have htrim : Unicode.trim s =
      String.ofList ((s.toList.dropWhile Unicode.isWhiteSpace).rdropWhile Unicode.isWhiteSpace) := rfl
  rw [htrim, head?_any_eq_false_iff, getLast?_any_eq_false_iff, ← List.dropWhile_eq_self_iff,
    ← List.rdropWhile_eq_self_iff, ← rdropWhile_dropWhile_eq_self]
  constructor
  · intro h
    have h' := congrArg String.toList h
    rwa [String.toList_ofList] at h'
  · intro h
    rw [h, String.ofList_toList]

/-! ## The rules -/

/-- The names that break the rule a refusal names. -/
def NameIssue.Breaks : NameIssue → String → Prop
  | .empty, s => s = ""
  | .separator, s => ∃ c ∈ s.toList, isSeparator c = true
  | .control, s => ∃ c ∈ s.toList, Unicode.isControl c = true
  | .outerBlank, s => s.toList.head?.any Unicode.isWhiteSpace = true ∨
      s.toList.getLast?.any Unicode.isWhiteSpace = true
  | .badEscape, s => ¬ EscapesAllowed s.toList
  | .queryReserved, s => ∃ c ∈ s.toList, c = '=' ∨ c = '+'

/-- Whether a name breaks a rule, tested over its characters. -/
def NameIssue.brokenBy : NameIssue → String → Bool
  | .empty, s => s.isEmpty
  | .separator, s => s.toList.any isSeparator
  | .control, s => s.toList.any Unicode.isControl
  | .outerBlank, s =>
    s.toList.head?.any Unicode.isWhiteSpace || s.toList.getLast?.any Unicode.isWhiteSpace
  | .badEscape, s => !escapesAllowed s.toList
  | .queryReserved, s => s.toList.any fun c => c = '=' || c = '+'

theorem NameIssue.brokenBy_iff (i : NameIssue) (s : String) : i.brokenBy s = true ↔ i.Breaks s := by
  cases i with
  | empty => simp [brokenBy, Breaks, String.isEmpty_iff]
  | separator => simp [brokenBy, Breaks]
  | control => simp [brokenBy, Breaks]
  | outerBlank => simp [brokenBy, Breaks]
  | badEscape => simp [brokenBy, Breaks, ← escapesAllowed_iff]
  | queryReserved => simp [brokenBy, Breaks]

instance NameIssue.decidableBreaks (i : NameIssue) (s : String) : Decidable (i.Breaks s) :=
  decidable_of_iff _ (i.brokenBy_iff s)

/-- The rules of a name in a path, in the order they are checked. -/
def pathRules : List NameIssue := [.empty, .separator, .control, .outerBlank, .badEscape]

/-- The rules of a name in a query value: those of a path name, then `=` and `+`. -/
def queryRules : List NameIssue := pathRules ++ [.queryReserved]

/-- The first of `rules` that a name breaks. -/
def firstBroken (rules : List NameIssue) (s : String) : Option NameIssue :=
  rules.find? (·.brokenBy s)

/-- What a check gives for the first rule broken: a refusal of the name, or the name itself. -/
def checkedBy (broken : Option NameIssue) (s : String) : Except NameRefusal String :=
  match broken with
  | some i => .error ⟨s, i⟩
  | none => .ok s

section Rules

variable (s : String)

theorem brokenBy_empty : NameIssue.empty.brokenBy s = s.isEmpty := rfl

theorem brokenBy_separator : NameIssue.separator.brokenBy s = s.toList.any isSeparator := rfl

theorem brokenBy_control : NameIssue.control.brokenBy s = s.toList.any Unicode.isControl := rfl

theorem brokenBy_outerBlank : NameIssue.outerBlank.brokenBy s = decide (Unicode.trim s ≠ s) := by
  rw [Bool.eq_iff_iff, decide_eq_true_iff, ne_eq, trim_eq_self_iff]
  simp only [NameIssue.brokenBy, Bool.or_eq_true, not_and_or, Bool.not_eq_false]

theorem brokenBy_badEscape :
    NameIssue.badEscape.brokenBy s = !escapesWellFormed (Utf8.encode s) := by
  rw [NameIssue.brokenBy, Utf8.encode, escapesWellFormed_flatMap]

theorem pathIssue?_eq_firstBroken : pathIssue? s = firstBroken pathRules s := by
  simp only [firstBroken, pathRules, List.find?_cons, List.find?_nil, brokenBy_empty,
    brokenBy_separator, brokenBy_control, brokenBy_outerBlank, brokenBy_badEscape]
  unfold pathIssue?
  -- the rules are checked in turn, and the first one broken is the answer
  cases s.isEmpty
  · cases s.toList.any isSeparator
    · cases s.toList.any Unicode.isControl
      · by_cases h : Unicode.trim s = s
        · cases escapesWellFormed (Utf8.encode s) <;> simp [h]
        · simp [h]
      · rfl
    · rfl
  · rfl

theorem queryIssue?_eq_firstBroken : queryIssue? s = firstBroken queryRules s := by
  rw [firstBroken, queryRules, List.find?_append, ← firstBroken, ← pathIssue?_eq_firstBroken,
    queryIssue?]
  cases pathIssue? s with
  | some i => rfl
  | none =>
    simp only [Option.none_or, List.find?_cons, List.find?_nil]
    cases h : NameIssue.queryReserved.brokenBy s <;> simp_all [NameIssue.brokenBy]

end Rules

/-- The name check refuses a name with the first rule it breaks and otherwise accepts it as it
is: in a path, the name must not be empty, hold a separator `/ ? # &` or a control character,
start or end with White_Space, or hold a `%` that does not start an escape (two hex digits, or
`+` and one hex digit) of an octet other than a separator, checked in that order; a query value
must moreover hold neither `=` nor `+`, so it is accepted exactly when it is accepted in a path
and holds neither. -/
theorem name_checks_first_broken_rule (s : String) :
    (∀ i : NameIssue, i.brokenBy s = true ↔ i.Breaks s) ∧
    checkPathName s = checkedBy (firstBroken pathRules s) s ∧
    checkQueryName s = checkedBy (firstBroken queryRules s) s ∧
    (checkQueryName s = .ok s ↔ checkPathName s = .ok s ∧ ∀ c ∈ s.toList, c ≠ '=' ∧ c ≠ '+') := by
  have hpath : checkPathName s = checkedBy (firstBroken pathRules s) s := by
    rw [checkPathName, pathIssue?_eq_firstBroken]
    rfl
  have hquery : checkQueryName s = checkedBy (firstBroken queryRules s) s := by
    rw [checkQueryName, queryIssue?_eq_firstBroken]
    rfl
  refine ⟨fun i => i.brokenBy_iff s, hpath, hquery, ?_⟩
  rw [checkQueryName, checkPathName, queryIssue?]
  cases pathIssue? s with
  | some i => simp
  | none =>
    cases hq : s.toList.any (fun c => c = '=' || c = '+')
    · simp only [List.any_eq_false] at hq
      simpa using fun c hc => hq c hc
    · obtain ⟨c, hc, hc'⟩ := List.any_eq_true.mp hq
      simp only [Bool.or_eq_true, decide_eq_true_eq] at hc'
      simp only [if_true, reduceCtorEq, false_iff, not_and, not_forall]
      intro _
      exact ⟨c, hc, by tauto⟩

/-- The name `%+F` is accepted, though its `%` is followed by `+`, which is not a hex digit. -/
theorem signed_escape_accepted : checkPathName "%+F" = .ok "%+F" ∧ '+'.isHexDigit = false := by
  constructor
  · decide +kernel
  · decide

end CiClient.Job
