import CiClient.Json.Print
import CiClient.Text.Unicode
/-!
# Reading errors

Why reading JSON text, or reading it as a given type, failed, and where. A flaw of the text is found
at a definite octet; a mismatch between the text and the type wanted (wrong type, missing or
repeated field) is found by the type and placed afterwards at the position the reader has
reached. `Error.message` is the text of an error: its cause, then ` at line L column C` once it
has a position.
-/

namespace CiClient.Json

open CiClient.Number

/-- A reading position: lines count from 1, and the column is the number of octets read since
the last line feed (0 right after it). -/
structure Pos where
  line : Nat
  column : Nat
  deriving DecidableEq, Repr, Inhabited

/-- The position before the first octet. -/
def Pos.start : Pos := ⟨1, 0⟩

/-- The position after reading octet `b`. -/
def Pos.step (p : Pos) (b : UInt8) : Pos :=
  if b = 0x0A then ⟨p.line + 1, 0⟩ else ⟨p.line, p.column + 1⟩

/-- The position after reading several octets. -/
def Pos.stepAll (p : Pos) (bytes : List UInt8) : Pos := bytes.foldl Pos.step p

/-- Faults of the text itself. -/
inductive Flaw where
  | eofWhileParsingList
  | eofWhileParsingObject
  | eofWhileParsingString
  | eofWhileParsingValue
  | expectedColon
  | expectedListCommaOrEnd
  | expectedObjectCommaOrEnd
  | expectedSomeIdent
  | expectedSomeValue
  | invalidEscape
  | invalidNumber
  | numberOutOfRange
  | invalidUnicodeCodePoint
  | controlCharacterWhileParsingString
  | keyMustBeAString
  | loneLeadingSurrogateInHexEscape
  | trailingComma
  | trailingCharacters
  | unexpectedEndOfHexEscape
  | recursionLimitExceeded
  deriving DecidableEq, Repr

/-- The text of a flaw of the text. -/
def Flaw.text : Flaw → String
  | .eofWhileParsingList => "EOF while parsing a list"
  | .eofWhileParsingObject => "EOF while parsing an object"
  | .eofWhileParsingString => "EOF while parsing a string"
  | .eofWhileParsingValue => "EOF while parsing a value"
  | .expectedColon => "expected `:`"
  | .expectedListCommaOrEnd => "expected `,` or `]`"
  | .expectedObjectCommaOrEnd => "expected `,` or `\x7d`"
  | .expectedSomeIdent => "expected ident"
  | .expectedSomeValue => "expected value"
  | .invalidEscape => "invalid escape"
  | .invalidNumber => "invalid number"
  | .numberOutOfRange => "number out of range"
  | .invalidUnicodeCodePoint => "invalid unicode code point"
  | .controlCharacterWhileParsingString =>
    "control character (\\u0000-\\u001F) found while parsing a string"
  | .keyMustBeAString => "key must be a string"
  | .loneLeadingSurrogateInHexEscape => "lone leading surrogate in hex escape"
  | .trailingComma => "trailing comma"
  | .trailingCharacters => "trailing characters"
  | .unexpectedEndOfHexEscape => "unexpected end of hex escape"
  | .recursionLimitExceeded => "recursion limit exceeded"

/-- What the text held where a type wanted something else. -/
inductive Found where
  | null
  | bool (b : Bool)
  | unsigned (n : Nat)
  | signed (n : Int)
  | float (x : Binary64)
  | string (s : String)
  | sequence
  | map
  deriving DecidableEq, Repr

/-- A string in double quotes with the escapes of a debugging rendering: backslash escapes for
quote, backslash, NUL, tab, carriage return and line feed, and `\u{hex}` for every character
that is not shown as itself. -/
def debugQuote (s : String) : String :=
  let esc (c : Char) : String :=
    if c = '"' then "\\\""
    else if c = '\\' then "\\\\"
    else if c.toNat = 0 then "\\0"
    else if c = '\t' then "\\t"
    else if c = '\r' then "\\r"
    else if c = '\n' then "\\n"
    else if Text.Unicode.needsEscape c then
      "\\u\x7b" ++ String.ofList (Nat.toDigits 16 c.toNat) ++ "\x7d"
    else c.toString
  "\"" ++ String.join (s.toList.map esc) ++ "\""

/-- The text of what was found. -/
def Found.text : Found → String
  | .null => "null"
  | .bool b => "boolean `" ++ toString b ++ "`"
  | .unsigned n => "integer `" ++ toString n ++ "`"
  | .signed n => "integer `" ++ toString n ++ "`"
  | .float x => "floating point `" ++ x.toText floatStyle ++ "`"
  | .string s => "string " ++ debugQuote s
  | .sequence => "sequence"
  | .map => "map"

/-- What a number read from the text is, as a finding. -/
def Number.found : Number → Found
  | .unsigned n => .unsigned n
  | .signed n => .signed n
  | .float x => .float x

/-- A mismatch between the text and the type wanted. -/
inductive Mismatch where
  | invalidType (found : Found) (expected : String)
  | invalidValue (found : Found) (expected : String)
  | invalidLength (length : Nat) (expected : String)
  | missingField (name : String)
  | duplicateField (name : String)
  deriving DecidableEq, Repr

/-- The text of a mismatch. -/
def Mismatch.text : Mismatch → String
  | .invalidType f e => "invalid type: " ++ f.text ++ ", expected " ++ e
  | .invalidValue f e => "invalid value: " ++ f.text ++ ", expected " ++ e
  | .invalidLength n e => "invalid length " ++ toString n ++ ", expected " ++ e
  | .missingField n => "missing field `" ++ n ++ "`"
  | .duplicateField n => "duplicate field `" ++ n ++ "`"

/-- Why reading failed. -/
inductive Fault where
  | flaw (s : Flaw)
  | mismatch (m : Mismatch)
  deriving DecidableEq, Repr

/-- A reading error: its cause, and its position once known. -/
structure Error where
  fault : Fault
  pos : Option Pos
  deriving DecidableEq, Repr

/-- A flaw of the text at a position. -/
def Error.flawAt (s : Flaw) (p : Pos) : Error := ⟨.flaw s, some p⟩

/-- A mismatch, not placed yet. -/
def Error.ofMismatch (m : Mismatch) : Error := ⟨.mismatch m, none⟩

/-- The text of an error. -/
def Error.message (e : Error) : String :=
  let cause := match e.fault with
    | .flaw s => s.text
    | .mismatch m => m.text
  match e.pos with
  | some p => cause ++ " at line " ++ toString p.line ++ " column " ++ toString p.column
  | none => cause

end CiClient.Json
