import CiClient.Json.Reader
/-!
# Reading JSON text as a type

Readers for the shapes a typed document is made of: strings, unsigned 64-bit integers,
optional values (`null` for none), lists, records read from an object, and structures read from
an object or from an array of their fields in order.

A reader that meets a value of another kind reads that value and fails with
`Mismatch.invalidType`, naming what it found and what it wanted (`expected`). Mismatches that
a record finds (a missing or repeated field) are placed when the record's object has been
closed.
-/

namespace CiClient.Json.Decode

open CiClient.Number
open Reader

/-- Reads the value at hand and fails: it is not of the kind `expected`. -/
def wrongType (expected : String) : Reader α := do
  let found : Found ← match ← peek with
    | some 0x6E => do eat; nullRest; pure .null
    | some 0x74 => do eat; trueRest; pure (.bool true)
    | some 0x66 => do eat; falseRest; pure (.bool false)
    | some 0x2D => do eat; pure (← number false).found
    | some 0x22 => do eat; pure (.string (← Reader.string))
    | some 0x5B => pure .sequence
    | some 0x7B => pure .map
    | some b =>
      if Scalar.isDigit b then do pure (← number true).found
      else failAhead .expectedSomeValue
    | none => failAhead .expectedSomeValue
  throw (← place (Error.ofMismatch (.invalidType found expected)))

/-- Fails with a mismatch placed where the reader stands. -/
def mismatch (m : Mismatch) : Reader α := do throw (← place (Error.ofMismatch m))

/-- A string. -/
def string : Reader String := do
  match ← blank with
  | none => failAhead .eofWhileParsingValue
  | some 0x22 => eat; Reader.string
  | some _ => wrongType "a string"

/-- An unsigned 64-bit integer: a negative integer is a value out of range, and any other
number the wrong type. -/
def u64 : Reader Nat := do
  match ← blank with
  | none => failAhead .eofWhileParsingValue
  | some b =>
    let n ← if b = 0x2D then do eat; number false
      else if Scalar.isDigit b then number true
      else wrongType "u64"
    match n with
    | .unsigned k => return k
    | .signed k => mismatch (.invalidValue (.signed k) "u64")
    | .float x => mismatch (.invalidType (.float x) "u64")

/-- An optional value: `null` is none. -/
def option (d : Reader α) : Reader (Option α) := do
  match ← blank with
  | some 0x6E => eat; nullRest; return none
  | _ => return some (← d)

/-- Items of a list, each read by `d`, collected in reverse. -/
def items (d : Reader α) : Nat → Bool → List α → Reader (List α)
  | 0, _, acc => return acc.reverse
  | fuel + 1, first, acc => do
    if ← itemStart first then
      let v ← d
      items d fuel false (v :: acc)
    else return acc.reverse

/-- A list of values each read by `d`. -/
def list (d : Reader α) (fuel : Nat) : Reader (List α) := do
  match ← blank with
  | none => failAhead .eofWhileParsingValue
  | some 0x5B => nested (items d fuel true []) closeArray
  | some _ => wrongType "a sequence"

/-- The entries of an object after its opening brace: `entry` reads each one, from after its
key, into the state. -/
def entries (entry : σ → String → Reader σ) : Nat → Bool → σ → Reader σ
  | 0, _, st => return st
  | fuel + 1, first, st => do
    match ← keyStart first with
    | none => return st
    | some k => entries entry fuel false (← entry st k)

/-- The next field of a structure read from an array, if the array has one more item. -/
def element (d : Reader α) (first : Bool) : Reader (Option α) := do
  if ← itemStart first then return some (← d) else return none

/-- A value that can only be read from an object. -/
def record (expected : String) (body : Reader α) : Reader α := do
  match ← blank with
  | none => failAhead .eofWhileParsingValue
  | some 0x7B => nested body closeObject
  | some _ => wrongType expected

/-- A value read from an object, or from an array of its fields in order. -/
def struct (expected : String) (fromObject fromArray : Reader α) : Reader α := do
  match ← blank with
  | none => failAhead .eofWhileParsingValue
  | some 0x7B => nested fromObject closeObject
  | some 0x5B => nested fromArray closeArray
  | some _ => wrongType expected

/-- Reads the value of a field after its key; a key seen before is a repeated field, a
mismatch that the enclosing object places once it is closed. -/
def once (name : String) (seen : Option β) (d : Reader β) : Reader β := do
  if seen.isSome then throw (Error.ofMismatch (.duplicateField name))
  colon
  d

/-- Fails with a mismatch that the enclosing object or array places once it is closed. -/
def missing (m : Mismatch) : Reader α := throw (Error.ofMismatch m)

end CiClient.Json.Decode
