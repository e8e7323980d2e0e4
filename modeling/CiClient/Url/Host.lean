import CiClient.Url.Percent
import CiClient.Url.Idna
/-!
# Hosts

The host of a URL: a domain, an IPv4 address or an IPv6 address. For special schemes the host
text is percent-decoded, mapped to its ASCII form (lower case; a label with other characters
becomes `xn--` and its Punycode), and read as an IPv4 address when its last label is a number;
for other schemes it is kept as it is, with controls and non-ASCII percent-encoded.

IPv4 parts may be decimal, octal (leading `0`) or hex (`0x`); the last part fills the bytes left.
IPv6 addresses are written back in their shortest form: lower-case hex pieces, the longest run of
two or more zero pieces written as `::`.
-/

namespace CiClient.Url

/-- Why a URL could not be read. -/
inductive ParseError where
  | emptyHost
  | idnaError
  | invalidPort
  | invalidIpv4Address
  | invalidIpv6Address
  | invalidDomainCharacter
  | relativeUrlWithoutBase
  | relativeUrlWithCannotBeABaseBase
  deriving DecidableEq, Repr

/-- The text of a parse error. -/
def ParseError.text : ParseError → String
  | .emptyHost => "empty host"
  | .idnaError => "invalid international domain name"
  | .invalidPort => "invalid port number"
  | .invalidIpv4Address => "invalid IPv4 address"
  | .invalidIpv6Address => "invalid IPv6 address"
  | .invalidDomainCharacter => "invalid domain character"
  | .relativeUrlWithoutBase => "relative URL without a base"
  | .relativeUrlWithCannotBeABaseBase => "relative URL with a cannot-be-a-base base"

/-- A host. -/
inductive Host where
  /-- A domain, or the host text of a scheme that is not special; may be empty. -/
  | domain (name : String)
  | ipv4 (address : Nat)
  /-- Eight 16-bit pieces. -/
  | ipv6 (pieces : List Nat)
  deriving DecidableEq, Repr

/-- Lower-case hex digits of a number. -/
def hexLower (n : Nat) : String := String.ofList (Nat.toDigits 16 n)

/-- The start and length of the longest run of zero pieces, the first of equal runs; only runs
of two or more count. -/
def longestZeroRun (pieces : List Nat) : Option (Nat × Nat) :=
  let step (acc : Option (Nat × Nat) × Option Nat) (ip : Nat × Nat) :=
    let (best, start) := acc
    let (i, p) := ip
    if p = 0 then (best, some (start.getD i))
    else match start with
      | some s =>
        let len := i - s
        let best := match best with
          | some (_, l) => if len > l then some (s, len) else best
          | none => some (s, len)
        (best, none)
      | none => (best, none)
  let (best, start) := (pieces.zipIdx.map (fun (p, i) => (i, p))).foldl step (none, none)
  let best := match start with
    | some s =>
      let len := pieces.length - s
      match best with
      | some (_, l) => if len > l then some (s, len) else best
      | none => some (s, len)
    | none => best
  match best with
  | some (s, l) => if l ≥ 2 then some (s, l) else none
  | none => none

/-- The text of an IPv6 address, without brackets. -/
def ipv6Text (pieces : List Nat) : String :=
  match longestZeroRun pieces with
  | none => ":".intercalate (pieces.map hexLower)
  | some (s, l) =>
    ":".intercalate ((pieces.take s).map hexLower) ++ "::" ++
      ":".intercalate ((pieces.drop (s + l)).map hexLower)

/-- The text of a host. -/
def Host.text : Host → String
  | .domain d => d
  | .ipv4 a =>
    ".".intercalate [toString (a / 16777216 % 256), toString (a / 65536 % 256),
      toString (a / 256 % 256), toString (a % 256)]
  | .ipv6 p => "[" ++ ipv6Text p ++ "]"

/-- A number of an IPv4 address: `none` when it is not one, `some none` when it overflows 32
bits. -/
def ipv4Number (s : List Char) : Option (Option Nat) :=
  if s.isEmpty then none else
  let (digits, radix) :=
    match s with
    | '0' :: 'x' :: rest => (rest, 16)
    | '0' :: 'X' :: rest => (rest, 16)
    | '0' :: rest@(_ :: _) => (rest, 8)
    | _ => (s, 10)
  if digits.isEmpty then some (some 0) else
  let value (c : Char) : Option Nat :=
    if '0' ≤ c ∧ c ≤ '9' then some (c.toNat - 48)
    else if 'a' ≤ c ∧ c ≤ 'f' then some (c.toNat - 87)
    else if 'A' ≤ c ∧ c ≤ 'F' then some (c.toNat - 55)
    else none
  let vals := digits.map value
  if vals.all (fun v => match v with | some d => d < radix | none => false) then
    let n := vals.foldl (fun acc v => acc * radix + v.getD 0) 0
    if n < Nat.pow 2 32 then some (some n) else some none
  else none

/-- Whether a domain's last label (before a final dot) is a number, so it must be an IPv4
address: all digits, or a number in one of the three radixes, even one too large for 32 bits. -/
def endsInNumber (d : String) : Bool :=
  let parts := (d.splitOn ".").reverse
  let last? := match parts with
    | "" :: next :: _ => some next
    | [""] => none
    | last :: _ => some last
    | [] => none
  match last? with
  | none => false
  | some last =>
    (!last.isEmpty && last.toList.all Char.isDigit) ||
      (ipv4Number last.toList).isSome

/-- An IPv4 address from its text. -/
def parseIpv4 (d : String) : Except ParseError Nat := do
  let parts := d.splitOn "."
  let parts := if parts.getLast? = some "" then parts.dropLast else parts
  if parts.length > 4 then throw .invalidIpv4Address
  let nums ← parts.mapM fun p =>
    match ipv4Number p.toList with
    | some (some n) => pure n
    | _ => throw ParseError.invalidIpv4Address
  match nums.reverse with
  | [] => throw .invalidIpv4Address
  | last :: revFirst =>
    let first := revFirst.reverse
    if last ≥ Nat.pow 256 (4 - first.length) then throw .invalidIpv4Address
    if first.any (· > 255) then throw .invalidIpv4Address
    let (_, total) := first.foldl (fun (acc : Nat × Nat) n =>
      (acc.1 + 1, acc.2 + n * Nat.pow 256 (3 - acc.1))) (0, last)
    return total

/-- State of reading an IPv6 address: pieces so far, where `::` stood, and the octets left. -/
structure Ipv6Reading where
  pieces : List Nat
  compress : Option Nat
  rest : List Char

/-- Reads the dotted IPv4 tail of an IPv6 address into the last two pieces. -/
def ipv6Tail (pieces : List Nat) (chars : List Char) : Except ParseError (List Nat) := do
  if pieces.length > 6 then throw .invalidIpv6Address
  let parts := (String.ofList chars).splitOn "."
  if parts.length ≠ 4 then throw .invalidIpv6Address
  let nums ← parts.mapM fun p =>
    let cs := p.toList
    if cs.isEmpty || !cs.all Char.isDigit || (cs.length > 1 && cs.head? = some '0') then
      throw ParseError.invalidIpv6Address
    else
      let n : Nat := cs.foldl (fun a c => a * 10 + (c.toNat - 48)) 0
      if n > 255 then throw ParseError.invalidIpv6Address else pure n
  match nums with
  | [a, b, c, d] => return pieces ++ [a * 256 + b, c * 256 + d]
  | _ => throw .invalidIpv6Address

/-- Up to four hex digits, with their value and the characters after them. -/
def hexPiece : Nat → List Char → Nat → Nat × Nat × List Char
  | 0, cs, v => (v, 0, cs)
  | n + 1, c :: cs, v =>
    match ipv4Number ['0', 'x', c] with
    | some (some d) =>
      if ('0' ≤ c ∧ c ≤ '9') ∨ ('a' ≤ c ∧ c ≤ 'f') ∨ ('A' ≤ c ∧ c ≤ 'F') then
        let (w, k, rest) := hexPiece n cs (v * 16 + d)
        (w, k + 1, rest)
      else (v, 0, c :: cs)
    | _ => (v, 0, c :: cs)
  | _ + 1, [], v => (v, 0, [])

/-- Pieces of an IPv6 address. -/
def ipv6Pieces : Nat → List Nat → Option Nat → List Char →
    Except ParseError (List Nat × Option Nat)
  | 0, _, _, _ => throw .invalidIpv6Address
  | _ + 1, pieces, compress, [] => return (pieces, compress)
  | fuel + 1, pieces, compress, c :: cs => do
    if pieces.length = 8 then throw .invalidIpv6Address
    if c = ':' then
      if compress.isSome then throw .invalidIpv6Address
      -- the zeros that `::` stands for take at least one piece
      ipv6Pieces fuel (pieces ++ [0]) (some (pieces.length + 1)) cs
    else
      let (v, k, rest) := hexPiece 4 (c :: cs) 0
      match rest with
      | '.' :: _ =>
        if k = 0 then throw .invalidIpv6Address
        let all ← ipv6Tail pieces (c :: cs)
        return (all, compress)
      | ':' :: [] => throw .invalidIpv6Address
      | ':' :: more => ipv6Pieces fuel (pieces ++ [v]) compress more
      | [] => if k = 0 then throw .invalidIpv6Address else return (pieces ++ [v], compress)
      | _ => throw .invalidIpv6Address

/-- An IPv6 address from the text between its brackets. -/
def parseIpv6 (s : String) : Except ParseError (List Nat) := do
  let cs := s.toList
  if cs.length < 2 then throw .invalidIpv6Address
  let (start, compress, rest) ← match cs with
    | ':' :: ':' :: rest => pure ([0], some 1, rest)
    | ':' :: _ => throw ParseError.invalidIpv6Address
    | _ => pure ([], none, cs)
  let (pieces, compress) ← ipv6Pieces (cs.length + 2) start compress rest
  match compress with
  | some at_ =>
    let zeros := List.replicate (8 - pieces.length) 0
    return pieces.take at_ ++ zeros ++ pieces.drop at_
  | none => if pieces.length = 8 then return pieces else throw .invalidIpv6Address

/-- The host of a special scheme from its text. -/
def parseSpecialHost (s : String) : Except ParseError Host := do
  if s.startsWith "[" then
    if !s.endsWith "]" then throw .invalidIpv6Address
    let inner := String.ofList ((s.toList.drop 1).dropLast)
    return .ipv6 (← parseIpv6 inner)
  let decoded := Text.Utf8.decodeLossy (decodeOctets (Text.Utf8.encode s))
  let some d := domainToAscii decoded | throw .idnaError
  if d.isEmpty then throw .emptyHost
  if endsInNumber d then return .ipv4 (← parseIpv4 d)
  return .domain d

/-- Characters a host of a scheme that is not special may not hold. -/
def isForbiddenInOpaqueHost (c : Char) : Bool :=
  "\x00\t\n\r #/:<>?@[\\]^|".toList.contains c

/-- The host of a scheme that is not special from its text. -/
def parseOpaqueHost (s : String) : Except ParseError Host := do
  if s.startsWith "[" then
    if !s.endsWith "]" then throw .invalidIpv6Address
    let inner := String.ofList ((s.toList.drop 1).dropLast)
    return .ipv6 (← parseIpv6 inner)
  if s.toList.any isForbiddenInOpaqueHost then throw .invalidDomainCharacter
  return .domain (encode controlsSet s)

end CiClient.Url
