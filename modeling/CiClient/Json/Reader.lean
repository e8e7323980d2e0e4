import CiClient.Json.Scalar
/-!
# Reading JSON text

A reader walks JSON text once, from left to right. Its state is a `Cursor`: the octets not read
yet, the position reached, how many more levels of nesting it may enter, and a bound on the
octets of the whole text, the fuel of the scanners that loop over octets. Errors carry the
position where they were found; a reading step that fails keeps the cursor where it stopped,
since a type that places its own errors does so at the position reached after it closed the
enclosing array or object.

`Reader.value` reads any value; arrays and objects may nest 127 levels deep. `Reader.skip` reads
past a value of any depth without building it, with the lenient scanners of `Json.Scalar`.
`decodeWith` runs a reader on a whole text and allows only blanks after the value.
-/

namespace CiClient.Json

open CiClient.Number

/-- The reading state. -/
structure Cursor where
  rest : List UInt8
  pos : Pos
  /-- Nesting levels that may still be entered, plus one. -/
  depth : Nat
  /-- More than the octets left: the text never grows while it is read. -/
  budget : Nat

/-- A reading step. -/
abbrev Reader := ExceptT Error (StateM Cursor)

namespace Reader

/-- The next octet, not read. -/
def peek : Reader (Option UInt8) := do return (← get).rest.head?

/-- Reads one octet. -/
def eat : Reader Unit :=
  modify fun c => match c.rest with
    | [] => c
    | b :: r => { c with rest := r, pos := c.pos.step b }

/-- Reads the next octet, if any. -/
def next : Reader (Option UInt8) := do
  let b ← peek
  eat
  return b

/-- Fails with a flaw of the text at the position reached. -/
def fail (s : Flaw) : Reader α := do throw (Error.flawAt s (← get).pos)

/-- Fails with a flaw of the text at the position after the next octet. -/
def failAhead (s : Flaw) : Reader α := do
  let c ← get
  throw (Error.flawAt s (Scalar.ahead c.rest c.pos))

/-- Gives an error that has no position yet the position reached. -/
def place (e : Error) : Reader Error := do
  match e.pos with
  | some _ => return e
  | none => return { e with pos := some (← get).pos }

/-- Skips blanks: space, line feed, tab and carriage return. -/
def skipBlank : List UInt8 → Pos → List UInt8 × Pos
  | b :: r, p =>
    if b = 0x20 ∨ b = 0x0A ∨ b = 0x09 ∨ b = 0x0D then skipBlank r (p.step b) else (b :: r, p)
  | [], p => ([], p)

/-- Skips blanks and shows the next octet. -/
def blank : Reader (Option UInt8) := do
  modify fun c => let (r, p) := skipBlank c.rest c.pos; { c with rest := r, pos := p }
  peek

/-- Runs a scanner on the octets not read yet. -/
def scan (f : List UInt8 → Pos → Scalar.Scan α) : Reader α := do
  let c ← get
  match f c.rest c.pos with
  | .ok (a, r, p) => set { c with rest := r, pos := p }; return a
  | .error e => throw e

/-- Reads the octets of a word such as `ull` after its first letter. -/
def word : List UInt8 → Reader Unit
  | [] => return
  | w :: ws => do
    match ← next with
    | none => fail .eofWhileParsingValue
    | some b => if b = w then word ws else fail .expectedSomeIdent

/-- `null` after its `n`. -/
def nullRest : Reader Unit := word [0x75, 0x6C, 0x6C]

/-- `true` after its `t`. -/
def trueRest : Reader Unit := word [0x72, 0x75, 0x65]

/-- `false` after its `f`. -/
def falseRest : Reader Unit := word [0x61, 0x6C, 0x73, 0x65]

/-- A number after its sign. -/
def number (positive : Bool) : Reader Number := scan (Scalar.number positive)

/-- A string after its opening quote. -/
def string : Reader String := do scan (Scalar.string (← get).budget)

/-- Enters one level of nesting, failing at the opening bracket when no level is left. -/
def enter : Reader Unit := do
  let c ← get
  if c.depth ≤ 1 then failAhead .recursionLimitExceeded
  else set { c with depth := c.depth - 1 }

/-- Leaves a level of nesting. -/
def leave : Reader Unit := modify fun c => { c with depth := c.depth + 1 }

/-- Closes an array: blanks, then `]`. -/
def closeArray : Reader Unit := do
  match ← blank with
  | some 0x5D => eat
  | some 0x2C =>
    eat
    match ← blank with
    | some 0x5D => failAhead .trailingComma
    | _ => failAhead .trailingCharacters
  | some _ => failAhead .trailingCharacters
  | none => failAhead .eofWhileParsingList

/-- Closes an object: blanks, then a closing brace. -/
def closeObject : Reader Unit := do
  match ← blank with
  | some 0x7D => eat
  | some 0x2C => failAhead .trailingComma
  | some _ => failAhead .trailingCharacters
  | none => failAhead .eofWhileParsingObject

/-- Runs the inside of an array or object after its opening bracket, then closes it with
`close`. If the inside fails, the closing is still attempted, for its effect on the position
only, and an error without a position is placed where the reader then stands. -/
def nested (inside : Reader α) (close : Reader Unit) : Reader α := do
  enter
  eat
  let r ← tryCatch (Except.ok <$> inside) (fun e => pure (Except.error e))
  leave
  match r with
  | .ok a => close; return a
  | .error e =>
    tryCatch close (fun _ => pure ())
    throw (← place e)

/-- Before the next array item: `none` at the closing bracket, otherwise the separator is read
and the item may follow. -/
def itemStart (first : Bool) : Reader Bool := do
  match ← blank with
  | some 0x5D => return false
  | some 0x2C =>
    if first then return true
    else
      eat
      match ← blank with
      | some 0x5D => failAhead .trailingComma
      | some _ => return true
      | none => failAhead .eofWhileParsingValue
  | some _ => if first then return true else failAhead .expectedListCommaOrEnd
  | none => failAhead .eofWhileParsingList

/-- Before the next object entry: `none` at the closing brace, otherwise the separator is read
and the key, which must be a string, is read. -/
def keyStart (first : Bool) : Reader (Option String) := do
  let keyAt : Option UInt8 → Reader (Option String)
    | some 0x22 => do eat; return some (← string)
    | some 0x7D => failAhead .trailingComma
    | some _ => failAhead .keyMustBeAString
    | none => failAhead .eofWhileParsingValue
  match ← blank with
  | some 0x7D => return none
  | some 0x2C =>
    if first then keyAt (some 0x2C)
    else
      eat
      keyAt (← blank)
  | some b => if first then keyAt (some b) else failAhead .expectedObjectCommaOrEnd
  | none => failAhead .eofWhileParsingObject

/-- The colon between a key and its value. -/
def colon : Reader Unit := do
  match ← blank with
  | some 0x3A => eat
  | some _ => failAhead .expectedColon
  | none => failAhead .eofWhileParsingObject

mutual
/-- Any value. The fuel bounds the reading steps and is never the limit in practice: it is set
from the length of the text. -/
def value : Nat → Reader Value
  | 0 => failAhead .eofWhileParsingValue
  | fuel + 1 => do
    match ← blank with
    | none => failAhead .eofWhileParsingValue
    | some b =>
      if b = 0x6E then do eat; nullRest; return .null
      else if b = 0x74 then do eat; trueRest; return .bool true
      else if b = 0x66 then do eat; falseRest; return .bool false
      else if b = 0x2D then do eat; return .number (← number false)
      else if Scalar.isDigit b then return .number (← number true)
      else if b = 0x22 then do eat; return .string (← string)
      else if b = 0x5B then return .array (← nested (items fuel true []) closeArray)
      else if b = 0x7B then return .object (← nested (fields fuel true []) closeObject)
      else failAhead .expectedSomeValue

/-- Items of an array, collected in reverse. -/
def items : Nat → Bool → List Value → Reader (List Value)
  | 0, _, acc => return acc.reverse
  | fuel + 1, first, acc => do
    if ← itemStart first then
      let v ← value fuel
      items fuel false (v :: acc)
    else return acc.reverse

/-- Fields of an object, a later key replacing an earlier one. -/
def fields : Nat → Bool → List (String × Value) → Reader (List (String × Value))
  | 0, _, acc => return acc
  | fuel + 1, first, acc => do
    match ← keyStart first with
    | none => return acc
    | some k =>
      colon
      let v ← value fuel
      fields fuel false (insertField k v acc)
end

/-- An array or object left open while skipping. -/
inductive Frame where
  | array
  | object
  deriving DecidableEq

/-- After a value, or right after an opening bracket (`afterComma` false): reads closing
brackets of the open frames, innermost first, until a separator or the start of a value. Returns
the innermost frame still open with the frames outside it, or `none` when all have closed. -/
def closeFrames : Nat → Bool → Frame → List Frame → Reader (Option (Frame × List Frame))
  | 0, _, _, _ => return none
  | fuel + 1, acceptComma, frame, stack => do
    let other : Reader (Option (Frame × List Frame)) :=
      if acceptComma then
        failAhead (if frame = .array then .expectedListCommaOrEnd else .expectedObjectCommaOrEnd)
      else return some (frame, stack)
    let closing : Reader (Option (Frame × List Frame)) := do
      eat
      match stack with
      | [] => return none
      | f :: s => closeFrames fuel true f s
    match ← blank with
    | some 0x2C => if acceptComma then do eat; return some (frame, stack) else other
    | some 0x5D => if frame = .array then closing else other
    | some 0x7D => if frame = .object then closing else other
    | some _ => other
    | none => failAhead (if frame = .array then .eofWhileParsingList else .eofWhileParsingObject)

/-- The key and colon of an entry while skipping. -/
def skipKey : Reader Unit := do
  match ← blank with
  | some 0x22 => eat
  | some _ => failAhead .keyMustBeAString
  | none => failAhead .eofWhileParsingObject
  let budget := (← get).budget
  scan (Scalar.skipString budget)
  match ← blank with
  | some 0x3A => eat
  | some _ => failAhead .expectedColon
  | none => failAhead .eofWhileParsingObject

/-- Skips values until the frames open outside (`stack`) have all closed; with no frame open,
one value. Nesting has no limit here. -/
def skipValues : Nat → List Frame → Reader Unit
  | 0, _ => return
  | fuel + 1, stack => do
    let opened : Option Frame ← do
      match ← blank with
      | none => failAhead .eofWhileParsingValue
      | some b =>
        if b = 0x6E then do eat; nullRest; pure none
        else if b = 0x74 then do eat; trueRest; pure none
        else if b = 0x66 then do eat; falseRest; pure none
        else if b = 0x2D then do eat; scan Scalar.skipNumber; pure none
        else if Scalar.isDigit b then do scan Scalar.skipNumber; pure none
        else if b = 0x22 then do eat; scan (Scalar.skipString (← get).budget); pure none
        else if b = 0x5B then do eat; pure (some .array)
        else if b = 0x7B then do eat; pure (some .object)
        else failAhead .expectedSomeValue
    let start : Option (Bool × Frame × List Frame) := match opened with
      | some f => some (false, f, stack)
      | none => match stack with
        | [] => none
        | f :: s => some (true, f, s)
    match start with
    | none => return
    | some (acceptComma, frame, outside) =>
      match ← closeFrames fuel acceptComma frame outside with
      | none => return
      | some (f, s) =>
        if f = .object then skipKey
        skipValues fuel (f :: s)

/-- Skips one value of any depth. -/
def skip (fuel : Nat) : Reader Unit := skipValues fuel []

end Reader

/-- The fuel for reading a text of `n` octets: more than the reading steps it can take. -/
def fuelFor (n : Nat) : Nat := 2 * n + 8

/-- The cursor at the start of a text: 128 nesting levels allowed, counting the one being
entered. -/
def Cursor.start (bytes : List UInt8) : Cursor := ⟨bytes, Pos.start, 128, bytes.length + 1⟩

/-- Runs a reader on a whole text; after the value only blanks may follow. -/
def decodeWith (r : Nat → Reader α) (bytes : List UInt8) : Except Error α :=
  let body : Reader α := do
    let a ← r (fuelFor bytes.length)
    match ← Reader.blank with
    | some _ => Reader.failAhead .trailingCharacters
    | none => return a
  (body.run.run (Cursor.start bytes)).1

/-- Reads a whole text as a value. -/
def Value.decode (bytes : List UInt8) : Except Error Value := decodeWith Reader.value bytes

end CiClient.Json
