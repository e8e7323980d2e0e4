/-!
# Punycode

Punycode (RFC 3492) writes a label of any characters with ASCII letters, digits and hyphens: the
ASCII characters of the label come first, then a hyphen if there were any, then one number for
each other character in the order of their code points, in a variable-length form of base 36.
Each number tells how far the decoder must move, through positions and code points together, to
place the next character.

Decoding works in unsigned 32-bit arithmetic and fails where that would overflow, so a label
that encodes too large a number is refused rather than read modulo 2^32.
-/

namespace CiClient.Url

/-- The largest unsigned 32-bit number. -/
def wordMax : Nat := Nat.pow 2 32 - 1

/-- The character of a Punycode digit: `a` to `z` for 0 to 25, `0` to `9` for 26 to 35. -/
def punyDigit (d : Nat) : Char := if d < 26 then Char.ofNat (97 + d) else Char.ofNat (22 + d)

/-- The value of a Punycode digit, in either case. -/
def punyDigitValue (c : Char) : Option Nat :=
  if 'a' ≤ c ∧ c ≤ 'z' then some (c.toNat - 97)
  else if 'A' ≤ c ∧ c ≤ 'Z' then some (c.toNat - 65)
  else if '0' ≤ c ∧ c ≤ '9' then some (c.toNat - 22)
  else none

/-- The threshold of the digit at position `k`: between 1 and 26, `k - bias` inside. -/
def punyThreshold (k bias : Nat) : Nat :=
  if k ≤ bias then 1 else if k ≥ bias + 26 then 26 else k - bias

theorem punyThreshold_pos (k bias : Nat) : 1 ≤ punyThreshold k bias := by
  unfold punyThreshold; split <;> (try split) <;> omega

theorem punyThreshold_le (k bias : Nat) : punyThreshold k bias ≤ 26 := by
  unfold punyThreshold; split <;> (try split) <;> omega

/-- Divides a delta by 35 until it is at most 455, counting 36 per step. -/
def punyScale (delta k : Nat) : Nat × Nat :=
  if 455 < delta then punyScale (delta / 35) (k + 36) else (delta, k)
termination_by delta
decreasing_by exact Nat.div_lt_self (by omega) (by omega)

/-- Punycode bias adaptation (damping 700, skew 38). -/
def punyAdapt (delta numPoints : Nat) (first : Bool) : Nat :=
  let delta := if first then delta / 700 else delta / 2
  let delta := delta + delta / numPoints
  let (d, k) := punyScale delta 0
  k + (36 * d) / (d + 38)

/-- The digits of one delta in the generalized variable-length form. -/
def punyDigits (bias k q : Nat) : List Char :=
  let t := punyThreshold k bias
  if q < t then [punyDigit q]
  else punyDigit (t + (q - t) % (36 - t)) :: punyDigits bias (k + 36) ((q - t) / (36 - t))
termination_by q
decreasing_by
  have _h1 := punyThreshold_pos k bias
  have _h2 := punyThreshold_le k bias
  calc (q - punyThreshold k bias) / (36 - punyThreshold k bias)
      ≤ q - punyThreshold k bias := Nat.div_le_self _ _
    _ < q := by omega

/-- Inserts a number into an ascending list of distinct numbers. -/
def insertDistinct (n : Nat) : List Nat → List Nat
  | [] => [n]
  | m :: rest =>
    if n < m then n :: m :: rest else if n = m then m :: rest else m :: insertDistinct n rest

/-- The code points of a label outside ASCII, ascending, each once. -/
def wideCodes (label : List Char) : List Nat :=
  ((label.map Char.toNat).filter (· ≥ 128)).foldr insertDistinct []

/-- The state of encoding: the digits written, the delta and bias, and how many characters
of the label the decoder will have placed. -/
structure PunyState where
  out : List Char
  delta : Nat
  bias : Nat
  placed : Nat

/-- One pass step for code point `m` over one character of the label: a smaller character
counts towards the delta, and a character `m` writes the delta and starts a new one. -/
def punyStep (basicCount m : Nat) (st : PunyState) (c : Char) : PunyState :=
  if c.toNat < m then { st with delta := st.delta + 1 }
  else if c.toNat = m then
    { out := st.out ++ punyDigits st.bias 36 st.delta, delta := 0,
      bias := punyAdapt st.delta (st.placed + 1) (st.placed = basicCount),
      placed := st.placed + 1 }
  else st

/-- One pass over the label for each code point outside ASCII, in ascending order; `n` is the
code point after the one passed last. -/
def punyPasses (label : List Char) (basicCount : Nat) : List Nat → Nat → PunyState → PunyState
  | [], _, st => st
  | m :: rest, n, st =>
    let st := { st with delta := st.delta + (m - n) * (st.placed + 1) }
    let st := label.foldl (punyStep basicCount m) st
    punyPasses label basicCount rest (m + 1) { st with delta := st.delta + 1 }

/-- The Punycode of a label. -/
def punycode (label : List Char) : String :=
  let basic := label.filter (fun c => c.toNat < 128)
  let start := if basic.isEmpty then basic else basic ++ ['-']
  let st := punyPasses label basic.length (wideCodes label) 128 ⟨[], 0, 72, basic.length⟩
  String.ofList (start ++ st.out)

/-- Reads one delta: adds its digits, weighted, to `i`, and returns the sum with the digits after
it. Fails at the end of the text, on a character that is not a digit, and where the sum or the
weight would pass 32 bits. -/
def punyDelta (bias : Nat) : List Char → Nat → Nat → Nat → Option (Nat × List Char)
  | [], _, _, _ => none
  | c :: cs, i, weight, k =>
    match punyDigitValue c with
    | none => none
    | some d =>
      if d * weight > wordMax - i then none
      else if d < punyThreshold k bias then some (i + d * weight, cs)
      else if weight * (36 - punyThreshold k bias) > wordMax then none
      else punyDelta bias cs (i + d * weight) (weight * (36 - punyThreshold k bias)) (k + 36)

/-- Reading a delta consumes at least one character. -/
theorem punyDelta_length (bias : Nat) :
    ∀ (cs : List Char) (i weight k : Nat) (r : Nat × List Char),
      punyDelta bias cs i weight k = some r → r.2.length < cs.length
  | [], _, _, _, _, h => by simp [punyDelta] at h
  | c :: cs, i, weight, k, r, h => by
    simp only [punyDelta] at h
    split at h
    · simp at h
    · split at h
      · simp at h
      · split at h
        · rw [← Option.some.inj h]; simp
        · split at h
          · simp at h
          · have := punyDelta_length bias cs _ _ _ r h
            simp only [List.length_cons]; omega

/-- Places the characters of the deltas that are left into the decoded label `out`: each delta
moves the state through positions and code points from position `i` and code point `n`. -/
def punyPlace (bias n i : Nat) (out : List Nat) : List Char → Option (List Nat)
  | [] => some out
  | c :: cs =>
    match _h : punyDelta bias (c :: cs) i 1 36 with
    | none => none
    | some (i', rest) =>
      let len := out.length + 1
      if i' / len > wordMax - n then none else
      let n' := n + i' / len
      let pos := i' % len
      if n' > 0x10FFFF ∨ (0xD800 ≤ n' ∧ n' ≤ 0xDFFF) then none
      else punyPlace (punyAdapt (i' - i) len (i = 0)) n' (pos + 1)
        (out.take pos ++ [n'] ++ out.drop pos) rest
termination_by cs' => cs'.length
decreasing_by
  have := punyDelta_length bias (c :: cs) i 1 36 (i', rest) _h
  simpa using this

/-- The label that Punycode text decodes to; `none` when it is malformed. The ASCII part ends at
the last hyphen; a hyphen that starts the text marks no ASCII part and is read as a digit, which
it is not. -/
def punyDecode (s : List Char) : Option (List Char) :=
  let (basic, encoded) := match s.reverse.dropWhile (· ≠ '-') with
    | [] => ([], s)
    | _ :: [] => ([], s)
    | _ :: revBasic => (revBasic.reverse, s.drop (revBasic.length + 1))
  if !basic.all (fun c => c.toNat < 128) then none
  else (punyPlace 72 128 0 (basic.map Char.toNat) encoded).map (·.map Char.ofNat)

end CiClient.Url
