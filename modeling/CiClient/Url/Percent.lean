import CiClient.Text.Utf8
/-!
# Percent-encoding

A percent-encode set says which octets of a URL part are written as `%XX` (upper-case hex).
Octets outside ASCII are always encoded; the sets differ in the ASCII characters they add to the
controls (U+0000 to U+001F and U+007F). The sets used here are those of the URL standard for
fragments, queries (with `'` added for special schemes), paths, userinfo, and single path
segments (which also encode `/` and `%`, and `\` for special schemes).
-/

namespace CiClient.Url

/-- A percent-encode set, by the ASCII characters it adds to the controls. -/
structure EncodeSet where
  extra : List Char

/-- Whether an octet is written as `%XX` under a set. -/
def EncodeSet.encodes (set : EncodeSet) (b : UInt8) : Bool :=
  b < 0x20 || b ≥ 0x7F || set.extra.contains (Char.ofNat b.toNat)

/-- Controls only. -/
def controlsSet : EncodeSet := ⟨[]⟩

/-- The fragment set. -/
def fragmentSet : EncodeSet := ⟨[' ', '"', '<', '>', '`']⟩

/-- The query set. -/
def querySet : EncodeSet := ⟨[' ', '"', '#', '<', '>']⟩

/-- The query set of special schemes. -/
def specialQuerySet : EncodeSet := ⟨querySet.extra ++ ['\'']⟩

/-- The path set. -/
def pathSet : EncodeSet := ⟨fragmentSet.extra ++ ['#', '?', '{', '}']⟩

/-- The userinfo set. -/
def userinfoSet : EncodeSet :=
  ⟨pathSet.extra ++ ['/', ':', ';', '=', '@', '[', '\\', ']', '^', '|']⟩

/-- The set for one path segment. -/
def segmentSet : EncodeSet := ⟨pathSet.extra ++ ['/', '%']⟩

/-- The set for one path segment of a special scheme. -/
def specialSegmentSet : EncodeSet := ⟨segmentSet.extra ++ ['\\']⟩

/-- An upper-case hex digit. -/
def hexUpper (n : Nat) : Char := if n < 10 then Char.ofNat (48 + n) else Char.ofNat (55 + n)

/-- The text of one octet under a set. -/
def encodeOctet (set : EncodeSet) (b : UInt8) : String :=
  if set.encodes b then String.ofList ['%', hexUpper (b.toNat / 16), hexUpper (b.toNat % 16)]
  else String.ofList [Char.ofNat b.toNat]

/-- The text of one character under a set. -/
def encodeChar (set : EncodeSet) (c : Char) : String :=
  String.join ((Text.Utf8.encodeChar c).map (encodeOctet set))

/-- The text of a string under a set. -/
def encode (set : EncodeSet) (s : String) : String :=
  String.join (s.toList.map (encodeChar set))

/-- The value of a hex digit character. -/
def hexValue (c : UInt8) : Option Nat :=
  if 0x30 ≤ c ∧ c ≤ 0x39 then some (c.toNat - 0x30)
  else if 0x61 ≤ c ∧ c ≤ 0x66 then some (c.toNat - 0x57)
  else if 0x41 ≤ c ∧ c ≤ 0x46 then some (c.toNat - 0x37)
  else none

/-- Octets with every `%XX` of two hex digits replaced by its octet; any other `%` stays. -/
def decodeOctets : List UInt8 → List UInt8
  | [] => []
  | 0x25 :: h1 :: h2 :: rest =>
    match hexValue h1, hexValue h2 with
    | some a, some b => (a * 16 + b).toUInt8 :: decodeOctets rest
    | _, _ => 0x25 :: decodeOctets (h1 :: h2 :: rest)
  | b :: rest => b :: decodeOctets rest

end CiClient.Url
