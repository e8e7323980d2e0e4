/-!
# UTF-8 octets

Characters as UTF-8 octets and back. Reading splits the octets into chunks: a well-formed
sequence gives its character, and a maximal prefix of a sequence that cannot be completed gives a
gap (one octet that starts no sequence is such a prefix too). The strict reading accepts only
octets without gaps; the lossy reading writes U+FFFD for every gap, which is the usual
"substitution of maximal subparts".

The reading is a machine over one octet at a time (`chunksFrom`), so statements about it go by
induction on the octets.
-/

namespace CiClient.Text.Utf8

/-- A continuation octet, `10xxxxxx`. -/
def isCont (b : UInt8) : Bool := 0x80 ≤ b && b ≤ 0xBF

/-- The octets of one character. -/
def encodeChar (c : Char) : List UInt8 :=
  let n := c.toNat
  if n < 0x80 then [n.toUInt8]
  else if n < 0x800 then [(0xC0 + n / 64).toUInt8, (0x80 + n % 64).toUInt8]
  else if n < 0x10000 then
    [(0xE0 + n / 4096).toUInt8, (0x80 + n / 64 % 64).toUInt8, (0x80 + n % 64).toUInt8]
  else
    [(0xF0 + n / 262144).toUInt8, (0x80 + n / 4096 % 64).toUInt8,
      (0x80 + n / 64 % 64).toUInt8, (0x80 + n % 64).toUInt8]

/-- The octets of a text. -/
def encode (s : String) : List UInt8 := s.toList.flatMap encodeChar

/-- Number of octets of a text. -/
def size (s : String) : Nat := (encode s).length

/-- For an octet that starts a sequence of more than one octet: how many follow it, and the
range the first of them must lie in. The others are plain continuation octets. -/
def lead (b : UInt8) : Option (Nat × UInt8 × UInt8) :=
  if 0xC2 ≤ b ∧ b ≤ 0xDF then some (1, 0x80, 0xBF)
  else if b = 0xE0 then some (2, 0xA0, 0xBF)
  else if 0xE1 ≤ b ∧ b ≤ 0xEC then some (2, 0x80, 0xBF)
  else if b = 0xED then some (2, 0x80, 0x9F)
  else if 0xEE ≤ b ∧ b ≤ 0xEF then some (2, 0x80, 0xBF)
  else if b = 0xF0 then some (3, 0x90, 0xBF)
  else if 0xF1 ≤ b ∧ b ≤ 0xF3 then some (3, 0x80, 0xBF)
  else if b = 0xF4 then some (3, 0x80, 0x8F)
  else none

/-- A sequence that has started and is not finished yet: the bits read so far, how many
continuation octets are still owed, and the range the next one must lie in. -/
structure Pending where
  code : Nat
  need : Nat
  lo : UInt8
  hi : UInt8

/-- What octet `b` does between characters: it finishes a character, is a gap of its own, or
starts a longer sequence. -/
def begin (b : UInt8) : List (Option Char) × Option Pending :=
  if b < 0x80 then ([some (Char.ofNat b.toNat)], none)
  else match lead b with
    | none => ([none], none)
    | some (n, lo, hi) =>
      let bits := if n = 1 then b.toNat % 32 else if n = 2 then b.toNat % 16 else b.toNat % 8
      ([], some ⟨bits, n, lo, hi⟩)

/-- The chunks of a run of octets, from a reading state: `some c` for a well-formed sequence,
`none` for a gap. An octet that breaks a started sequence ends the gap and is read again. -/
def chunksFrom : Option Pending → List UInt8 → List (Option Char)
  | none, [] => []
  | some _, [] => [none]
  | none, b :: r =>
    let (out, st) := begin b
    out ++ chunksFrom st r
  | some p, b :: r =>
    if p.lo ≤ b ∧ b ≤ p.hi then
      let code := p.code * 64 + b.toNat % 64
      if p.need = 1 then some (Char.ofNat code) :: chunksFrom none r
      else chunksFrom (some ⟨code, p.need - 1, 0x80, 0xBF⟩) r
    else
      let (out, st) := begin b
      none :: (out ++ chunksFrom st r)

/-- The chunks of a run of octets. -/
def chunks (bytes : List UInt8) : List (Option Char) := chunksFrom none bytes

/-- The text of well-formed octets, or `none` if some gap occurs. -/
def decode? (bytes : List UInt8) : Option String :=
  ((chunks bytes).mapM id).map String.ofList

/-- The length of the well-formed sequence at the start of a run of octets; `none` when the run
starts with a gap or is empty. -/
def sequenceLength : List UInt8 → Option Nat
  | [] => none
  | b :: r =>
    if b < 0x80 then some 1
    else match lead b, r with
      | some (n, lo, hi), c :: rest =>
        let tail := rest.take (n - 1)
        if lo ≤ c ∧ c ≤ hi ∧ tail.length = n - 1 ∧ tail.all isCont then some (n + 1) else none
      | _, _ => none

/-- How many octets of a run come before its first gap: all of them when it has none. -/
def validUpTo (bytes : List UInt8) : Nat :=
  go bytes.length bytes 0
where
  /-- Counts well-formed sequences; the fuel bounds the octets left. -/
  go : Nat → List UInt8 → Nat → Nat
    | 0, _, acc => acc
    | fuel + 1, bytes, acc =>
      match sequenceLength bytes with
      | some k => go fuel (bytes.drop k) (acc + k)
      | none => acc

/-- The text of any octets, with U+FFFD for each gap. -/
def decodeLossy (bytes : List UInt8) : String :=
  String.ofList ((chunks bytes).map fun c => c.getD '�')

/-- Whether octet offset `i` of a text lies on a character boundary: at its start or its end, or
right before an octet that is no continuation octet. -/
def isCharBoundary (s : String) (i : Nat) : Bool :=
  if i = 0 then true
  else match (encode s)[i]? with
    | some b => !isCont b
    | none => decide (i = size s)

/-- The nearest character boundary at or below offset `i`, stepping back one octet at a time. -/
def boundaryAtOrBelow (s : String) : Nat → Nat
  | 0 => 0
  | i + 1 => if isCharBoundary s (i + 1) then i + 1 else boundaryAtOrBelow s i

/-- The text of the first `i` octets of a text; the offset is meant to lie on a character
boundary, so that these octets are whole characters. -/
def sliceTo (s : String) (i : Nat) : String := decodeLossy ((encode s).take i)

/-- A text cut to at most `max` octets: a text that fits is kept; otherwise the cut steps back
from `max` to a character boundary and keeps the octets before it. -/
def truncate (s : String) (max : Nat) : String :=
  if size s ≤ max then s else sliceTo s (boundaryAtOrBelow s (Nat.min max (size s)))

end CiClient.Text.Utf8
