import CiClient.Json.Value
import CiClient.Number.Shortest
/-!
# Compact JSON text

The compact text of a value: no blanks, fields in key order, strings quoted with the short
escapes for quote, backslash and the five usual controls and `\u00xx` (lower-case hex) for the
other controls. Floats are written with `Json.floatStyle`; a value that is not finite is
written as `null`.
-/

namespace CiClient.Json

open CiClient.Number

/-- Floats are written with their shortest digits, positionally for decimal exponents from -5
to 15 with `.0` after an integral value, and otherwise as a mantissa with `e+` or `e-` and the
exponent. -/
def floatStyle : FloatStyle := ⟨-5, 15, true, true⟩

/-- Two lower-case hex digits of an octet value below 256. -/
def hex2 (n : Nat) : String :=
  let d (k : Nat) : Char := if k < 10 then Char.ofNat (48 + k) else Char.ofNat (87 + k)
  String.ofList [d (n / 16 % 16), d (n % 16)]

/-- The escaped form of one character inside a quoted string. -/
def escapeChar (c : Char) : String :=
  if c = '"' then "\\\""
  else if c = '\\' then "\\\\"
  else if c = '\n' then "\\n"
  else if c = '\r' then "\\r"
  else if c = '\t' then "\\t"
  else if c.toNat = 8 then "\\b"
  else if c.toNat = 12 then "\\f"
  else if c.toNat < 0x20 then "\\u00" ++ hex2 c.toNat
  else c.toString

/-- A quoted string. -/
def quote (s : String) : String :=
  "\"" ++ String.join (s.toList.map escapeChar) ++ "\""

/-- The text of a number. -/
def Number.text : Number → String
  | .unsigned n => toString n
  | .signed n => toString n
  | .float x => if x.isFinite then x.toText floatStyle else "null"

mutual
/-- The compact text of a value. -/
def Value.compact : Value → String
  | .null => "null"
  | .bool true => "true"
  | .bool false => "false"
  | .number n => n.text
  | .string s => quote s
  | .array items => "[" ++ ",".intercalate (compactItems items) ++ "]"
  | .object fields => "\x7b" ++ ",".intercalate (compactFields fields) ++ "\x7d"

/-- The texts of the items of an array. -/
def compactItems : List Value → List String
  | [] => []
  | v :: vs => v.compact :: compactItems vs

/-- The texts of the fields of an object, each key quoted before a colon. -/
def compactFields : List (String × Value) → List String
  | [] => []
  | (k, v) :: rest => (quote k ++ ":" ++ v.compact) :: compactFields rest
end

end CiClient.Json
