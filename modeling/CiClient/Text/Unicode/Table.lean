/-!
# Code point tables

Properties of code points are written as texts of hexadecimal numbers separated by blanks, read
once into arrays and searched by bisection. Three shapes occur:

* a set of code points (`CodeSet`), as the sorted boundaries where membership changes: the
  first member of a run of members, then the first code point after that run, and so on;
* a property with a value on every code point (`RunTable`), as the first code point of each run
  that shares a value, with that value;
* a property of a few code points (`KeyTable`), as entries sorted by code point.

All three rest on one search, `countBelow`: how many entries of a sorted array have a key at
most a given number. The search halves an interval that is known to hold that count, so it ends
by the interval's width.
-/

namespace CiClient.Text.Unicode

/-- The value of a lower-case hexadecimal digit. -/
def hexDigit? (c : Char) : Option Nat :=
  if '0' ≤ c ∧ c ≤ '9' then some (c.toNat - 48)
  else if 'a' ≤ c ∧ c ≤ 'f' then some (c.toNat - 87)
  else none

/-- The numbers of a text of lower-case hexadecimal numbers; any other character, such as a
space or a line break, separates them. -/
def hexNumbers (s : String) : List Nat :=
  let step (acc : List Nat × Nat × Bool) (c : Char) : List Nat × Nat × Bool :=
    let (out, cur, inNumber) := acc
    match hexDigit? c with
    | some d => (out, cur * 16 + d, true)
    | none => if inNumber then (cur :: out, 0, false) else (out, 0, false)
  let (out, cur, inNumber) := s.foldl step ([], 0, false)
  (if inNumber then cur :: out else out).reverse

/-- The number of entries among positions `lo` to `hi - 1` of a sorted array, plus `lo`, whose
key is at most `n`: every entry before `lo` has a key at most `n` and every entry from `hi` on a
larger one. -/
def countBelow {α : Type} (key : α → Nat) (xs : Array α) (n : Nat) (lo hi : Nat) : Nat :=
  if lo < hi then
    let mid := (lo + hi) / 2
    match xs[mid]? with
    | some x => if key x ≤ n then countBelow key xs n (mid + 1) hi else countBelow key xs n lo mid
    | none => lo
  else lo
termination_by hi - lo

/-- Consecutive numbers taken two at a time. -/
def pairsOf : List Nat → List (Nat × Nat)
  | a :: b :: rest => (a, b) :: pairsOf rest
  | _ => []

/-- Consecutive numbers taken three at a time. -/
def triplesOf : List Nat → List (Nat × Nat × Nat)
  | a :: b :: c :: rest => (a, b, c) :: triplesOf rest
  | _ => []

/-- Entries written as a key, a count, and that many numbers. -/
def countedOf : List Nat → List (Nat × List Nat)
  | key :: len :: rest => (key, rest.take len) :: countedOf (rest.drop len)
  | _ => []
termination_by xs => xs.length
decreasing_by simp only [List.length_cons, List.length_drop]; omega

/-- A set of code points, by the sorted boundaries where membership changes. -/
structure CodeSet where
  bounds : Array Nat

/-- The set written as a text of boundaries. -/
def CodeSet.ofText (s : String) : CodeSet := ⟨(hexNumbers s).toArray⟩

/-- A code point is a member when an odd number of boundaries lie at or below it. -/
def CodeSet.contains (s : CodeSet) (c : Char) : Bool :=
  countBelow id s.bounds c.toNat 0 s.bounds.size % 2 = 1

/-- A value for every code point, by runs: the first code point of each run and its value. Code
points before the first run take the default. -/
structure RunTable (α : Type) where
  runs : Array (Nat × α)
  default : α

/-- The value of a code point: that of the last run starting at or below it. -/
def RunTable.get {α : Type} (t : RunTable α) (n : Nat) : α :=
  match countBelow (·.1) t.runs n 0 t.runs.size with
  | 0 => t.default
  | k + 1 => (t.runs[k]?.map (·.2)).getD t.default

/-- Values of some code points, by entries sorted by code point. -/
structure KeyTable (α : Type) where
  entries : Array (Nat × α)

/-- The value of a code point, if it has an entry. -/
def KeyTable.find? {α : Type} (t : KeyTable α) (n : Nat) : Option α :=
  match countBelow (·.1) t.entries n 0 t.entries.size with
  | 0 => none
  | k + 1 =>
    match t.entries[k]? with
    | some (key, v) => if key = n then some v else none
    | none => none

end CiClient.Text.Unicode
