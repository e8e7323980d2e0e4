import CiClient.Text.Utf8
/-!
# Header maps

Headers as a list of name and value pairs. Names are stored in lower case; values are octets,
as a server sent them or a caller set them, and need not be UTF-8. A name may carry several
values, kept in the order they were added.

- `insert` sets the values of a name to the one given (replacing all earlier ones in place);
- `append` adds a value after the others of its name;
- `extend` takes, for every name of another map, exactly that map's values, and keeps the
  values of names the other map does not have.

A name is valid when it is a nonempty token: letters, digits and ``!#$%&'*+-.^_`|~``. A value is
valid when it holds no control octet other than tab; it is plain text when it holds visible
ASCII, space and tab only, and only a plain value is read as text, one character per octet.
-/

namespace CiClient.Http

/-- A header map. -/
structure HeaderMap where
  entries : List (String × List UInt8)
  deriving DecidableEq, Repr, Inhabited

namespace HeaderMap

/-- The empty map. -/
def empty : HeaderMap := ⟨[]⟩

/-- The values of a name, in order. -/
def getAll (h : HeaderMap) (name : String) : List (List UInt8) :=
  h.entries.filterMap fun (n, v) => if n = name then some v else none

/-- The first value of a name. -/
def get? (h : HeaderMap) (name : String) : Option (List UInt8) := (h.getAll name).head?

/-- Adds a value after the others of its name. -/
def append (h : HeaderMap) (name : String) (value : List UInt8) : HeaderMap :=
  ⟨h.entries ++ [(name, value)]⟩

/-- Replaces every value of `name` by `value`: it takes the place of the first one. -/
def insert (h : HeaderMap) (name : String) (value : List UInt8) : HeaderMap :=
  if h.entries.any (fun e => e.1 = name) then
    let rec go : List (String × List UInt8) → Bool → List (String × List UInt8)
      | [], _ => []
      | (n, v) :: rest, done =>
        if n = name then (if done then go rest true else (name, value) :: go rest true)
        else (n, v) :: go rest done
    ⟨go h.entries false⟩
  else h.append name value

/-- The names of a map, each once, in the order they first occur. -/
def names (h : HeaderMap) : List String :=
  h.entries.foldl (fun acc (n, _) => if acc.contains n then acc else acc ++ [n]) []

/-- For every name of `other`, exactly its values; other names keep theirs. -/
def extend (h other : HeaderMap) : HeaderMap :=
  other.names.foldl (fun acc n =>
    match other.getAll n with
    | [] => acc
    | v :: vs => vs.foldl (fun a w => a.append n w) (acc.insert n v)) h

/-- The pairs sorted by name; values of one name keep their order. -/
def sorted (h : HeaderMap) : List (String × List UInt8) :=
  h.entries.mergeSort fun a b => decide (a.1 ≤ b.1)

end HeaderMap

/-- An octet allowed in a header name. -/
def isTokenOctet (b : UInt8) : Bool :=
  (0x30 ≤ b && b ≤ 0x39) || (0x41 ≤ b && b ≤ 0x5A) || (0x61 ≤ b && b ≤ 0x7A) ||
    [0x21, 0x23, 0x24, 0x25, 0x26, 0x27, 0x2A, 0x2B, 0x2D, 0x2E, 0x5E, 0x5F, 0x60, 0x7C,
      0x7E].contains b

/-- Lower case of an ASCII letter. -/
def lowerAscii (c : Char) : Char :=
  if 'A' ≤ c ∧ c ≤ 'Z' then Char.ofNat (c.toNat + 32) else c

/-- A header name from text: lower-cased, or `none` when it is no valid name. -/
def headerName? (s : String) : Option String :=
  let bytes := Text.Utf8.encode s
  if bytes.isEmpty || bytes.length > 65535 || !bytes.all isTokenOctet then none
  else some (String.ofList (s.toList.map lowerAscii))

/-- A valid header value: no control octet but tab. -/
def isValidValue (v : List UInt8) : Bool :=
  v.all fun b => (b ≥ 0x20 && b != 0x7F) || b = 0x09

/-- A header value of visible ASCII, space and tab only. -/
def isPlainValue (v : List UInt8) : Bool :=
  v.all fun b => (b ≥ 0x20 && b < 0x7F) || b = 0x09

/-- The text of a header value, one character per octet: what a plain value reads as. -/
def asciiText (v : List UInt8) : String :=
  String.ofList (v.map fun b => Char.ofNat b.toNat)

end CiClient.Http
