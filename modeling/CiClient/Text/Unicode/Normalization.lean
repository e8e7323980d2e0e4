import CiClient.Text.Unicode.Canonical
/-!
# Normalization Form C

A text in Normalization Form C is obtained in three steps: every character is replaced by its
full canonical decomposition; each run of non-starters (characters of non-zero combining class)
is sorted by combining class, keeping the order of equal classes; and then each character is
merged into the last starter before it when that pair has a primary composite and no character
between them blocks it. A character is blocked when a character between it and the starter has
class zero or a class at least its own.

Hangul syllables decompose and compose by arithmetic: a syllable is a leading consonant, a
vowel and possibly a trailing consonant.
-/

namespace CiClient.Text.Unicode

/-- The first Hangul syllable. -/
def hangulBase : Nat := 0xAC00

/-- The first leading consonant, vowel and trailing consonant (one before the first). -/
def leadingBase : Nat := 0x1100
def vowelBase : Nat := 0x1161
def trailingBase : Nat := 0x11A7

/-- The numbers of leading consonants, vowels and trailing consonants (with none). -/
def leadingCount : Nat := 19
def vowelCount : Nat := 21
def trailingCount : Nat := 28

/-- The number of syllables for one leading consonant, and of all syllables. -/
def syllablesPerLeading : Nat := vowelCount * trailingCount
def syllableCount : Nat := leadingCount * syllablesPerLeading

/-- Whether a code point is a Hangul syllable. -/
def isHangulSyllable (n : Nat) : Bool := hangulBase ≤ n && n < hangulBase + syllableCount

/-- The full canonical decomposition of a code point. -/
def decompose (n : Nat) : List Nat :=
  if isHangulSyllable n then
    let s := n - hangulBase
    let lead := leadingBase + s / syllablesPerLeading
    let vowel := vowelBase + s % syllablesPerLeading / trailingCount
    if s % trailingCount = 0 then [lead, vowel] else [lead, vowel, trailingBase + s % trailingCount]
  else (decompositions.find? n).getD [n]

/-- Inserts a non-starter into a run sorted by combining class, after those of equal class. -/
def insertByClass (n : Nat) : List Nat → List Nat
  | [] => [n]
  | m :: rest =>
    if combiningClass n < combiningClass m then n :: m :: rest else m :: insertByClass n rest

/-- The canonical order of a decomposed text: each run of non-starters sorted by combining
class. `run` holds the non-starters read since the last starter, already sorted. -/
def reorderFrom (run : List Nat) : List Nat → List Nat
  | [] => run
  | n :: rest =>
    if combiningClass n = 0 then run ++ n :: reorderFrom [] rest
    else reorderFrom (insertByClass n run) rest

/-- The primary composite of a pair, if it has one. -/
def composePair (a b : Nat) : Option Nat :=
  if leadingBase ≤ a ∧ a < leadingBase + leadingCount ∧ vowelBase ≤ b ∧ b < vowelBase + vowelCount then
    some (hangulBase + ((a - leadingBase) * vowelCount + (b - vowelBase)) * trailingCount)
  else if isHangulSyllable a ∧ (a - hangulBase) % trailingCount = 0 ∧
      trailingBase < b ∧ b < trailingBase + trailingCount then
    some (a + (b - trailingBase))
  else compositions.find? (pairKey a b)

/-- Composition of a text in canonical order. `done` holds, reversed, what comes before the last
starter; `starter` is that starter; `after` holds, reversed, the characters after it that did
not merge into it, all non-starters unless the text begins with them. -/
def composeFrom (done : List Nat) (starter : Option Nat) (after : List Nat) : List Nat → List Nat
  | [] => done.reverse ++ starter.toList ++ after.reverse
  | n :: rest =>
    let cls := combiningClass n
    let blocked := match after with
      | [] => false
      | m :: _ => cls = 0 || combiningClass m ≥ cls
    match starter with
    | some s =>
      match (if blocked then none else composePair s n) with
      | some p => composeFrom done (some p) after rest
      | none =>
        if cls = 0 then composeFrom (after ++ s :: done) (some n) [] rest
        else composeFrom done starter (n :: after) rest
    | none =>
      if cls = 0 then composeFrom (after ++ done) (some n) [] rest
      else composeFrom done none (n :: after) rest

/-- A text in Normalization Form C. -/
def nfc (cs : List Char) : List Char :=
  let decomposed := cs.flatMap fun c => decompose c.toNat
  (composeFrom [] none [] (reorderFrom [] decomposed)).map Char.ofNat

end CiClient.Text.Unicode
