import CiClient.Text.Unicode
import CiClient.Text.Utf8
/-!
# Job names

A job name is put into request paths as it is, so a name is checked before use. A name is
accepted when it is not empty, holds none of the separators `/ ? # &`, holds no control
character, has no White_Space at either end, and every `%` starts an escape `%XX` of two hex
digits whose octet is not a separator. A name used as a value in a query must moreover hold
neither `=` nor `+`. The first rule a name breaks, in that order, is the reason given.

The two octets after `%` are read as a number in base 16 the usual way, which also accepts a
`+` sign before a single digit: `%+1` is the octet 1.
-/

namespace CiClient.Job

open CiClient.Text

/-- Why a job name is refused. -/
inductive NameIssue where
  | empty
  | separator
  | control
  | outerBlank
  | badEscape
  | queryReserved
  deriving DecidableEq, Repr

/-- The sentence that explains a refusal. -/
def NameIssue.reason : NameIssue → String
  | .empty => "name must not be empty"
  | .separator => "name must not contain any of `/ ? # &`"
  | .control => "name must not contain control characters"
  | .outerBlank => "name must not start or end with whitespace"
  | .badEscape => "`%` must start a `%XX` escape of a non-separator byte"
  | .queryReserved => "name must not contain `=` or `+` in a query value"

/-- The separators of paths and queries. -/
def isSeparator (c : Char) : Bool := c = '/' || c = '?' || c = '#' || c = '&'

/-- The value of a hex digit octet. -/
def hexDigit (b : UInt8) : Option Nat :=
  if 0x30 ≤ b ∧ b ≤ 0x39 then some (b.toNat - 0x30)
  else if 0x61 ≤ b ∧ b ≤ 0x66 then some (b.toNat - 0x57)
  else if 0x41 ≤ b ∧ b ≤ 0x46 then some (b.toNat - 0x37)
  else none

/-- The octet that two octets after `%` stand for: two hex digits, or `+` and one hex digit. -/
def escapedOctet (h1 h2 : UInt8) : Option Nat :=
  if h1 = 0x2B then hexDigit h2
  else match hexDigit h1, hexDigit h2 with
    | some a, some b => some (a * 16 + b)
    | _, _ => none

/-- Every `%` among the octets starts an escape whose octet is not a separator. -/
def escapesWellFormed : List UInt8 → Bool
  | [] => true
  | 0x25 :: rest =>
    match rest with
    | h1 :: h2 :: rest' =>
      match escapedOctet h1 h2 with
      | some n => !isSeparator (Char.ofNat n) && escapesWellFormed rest'
      | none => false
    | _ => false
  | _ :: rest => escapesWellFormed rest

/-- The first rule of a path name that `s` breaks. -/
def pathIssue? (s : String) : Option NameIssue :=
  if s.isEmpty then some .empty
  else if s.toList.any isSeparator then some .separator
  else if s.toList.any Unicode.isControl then some .control
  else if Unicode.trim s ≠ s then some .outerBlank
  else if !escapesWellFormed (Utf8.encode s) then some .badEscape
  else none

/-- The first rule of a query value that `s` breaks: those of a path name, then `=` and `+`. -/
def queryIssue? (s : String) : Option NameIssue :=
  match pathIssue? s with
  | some i => some i
  | none => if s.toList.any (fun c => c = '=' || c = '+') then some .queryReserved else none

end CiClient.Job
