import CiClient.Json.Error
import CiClient.Text.Utf8
/-!
# Numbers and strings in JSON text

Scanners for the scalar parts of JSON text. Each works on the octets not read yet and the
position reached, and returns what it read with the octets and position after it, or an error
placed at the octet that decided it.

Numbers: an integer that fits stays an integer (`Number.unsigned`, or `Number.signed` when
negative); any other number becomes a binary64 value computed the way a fast reader does it:
the decimal significand (its first nineteen or twenty digits, as many as fit below `2 ^ 64`) is
rounded to binary64 and then multiplied or divided, rounding once each time, by the binary64
value of `10 ^ |e|`, dividing by `10 ^ 308` first while `|e|` is past 308. This is not always
the binary64 value nearest to the decimal, and the reader is meant to give exactly these values.
An exponent that makes the result overflow is an error, and one past the range of a 32-bit
integer saturates.

Strings: octets up to the closing quote, with escapes decoded; a surrogate pair of `\u`
escapes makes one character and an unpaired surrogate is an error; the octets must be UTF-8.
The scanners that skip a value (`skipNumber`, `skipString`) are more lenient: they keep no
value, so they check no range and no UTF-8.
-/

namespace CiClient.Json.Scalar

open CiClient.Number

/-- Octets not read yet, with the position reached. -/
abbrev Rest := List UInt8 × Pos

/-- What a scanner returns. -/
abbrev Scan (α : Type) := Except Error (α × Rest)

/-- An ASCII digit. -/
def isDigit (b : UInt8) : Bool := 0x30 ≤ b && b ≤ 0x39

/-- The value of an ASCII digit. -/
def digit (b : UInt8) : Nat := b.toNat - 0x30

/-- The position after the next octet, if there is one: where a fault in it is reported. -/
def ahead : List UInt8 → Pos → Pos
  | [], p => p
  | b :: _, p => p.step b

/-- Appending digit `d` to `acc` would pass `limit`. -/
def overflows (acc d limit : Nat) : Bool :=
  acc ≥ limit / 10 && (acc > limit / 10 || d > limit % 10)

/-- The largest 32-bit signed integer. -/
def int32Max : Int := 2147483647

/-- Clamps to the 32-bit signed range, as a saturating sum does. -/
def saturate (e : Int) : Int := max (-int32Max - 1) (min int32Max e)

/-- `significand · 10 ^ exponent` by the rounding path of the module doc, with the sign
applied last; `none` when the product overflows. -/
def fromParts (positive : Bool) (significand : Nat) (exponent : Int) : Option Binary64 :=
  let rec go : Nat → Binary64 → Int → Option Binary64
    | 0, f, _ => some f
    | fuel + 1, f, e =>
      if e.natAbs ≤ 308 then
        let pow := Binary64.pow10 e.natAbs
        if 0 ≤ e then
          let g := f.mul pow
          if g.isInfinite then none else some g
        else some (f.div pow)
      else if f.isZero then some f
      else if 0 ≤ e then none
      else go fuel (f.div (Binary64.pow10 308)) (e + 308)
  (go 8 (Binary64.ofNat significand) exponent).map fun f => if positive then f else f.neg

/-- The number of an integer part that ended without a fraction or exponent. -/
def integerValue (positive : Bool) (significand : Nat) : Number :=
  if positive then .unsigned significand
  else if significand = 0 ∨ significand > Nat.pow 2 63 then .float (Binary64.ofNat significand).neg
  else .signed (-(significand : Int))

/-- The float of a finished number, or the out-of-range error at the position after it. -/
def finish (positive : Bool) (significand : Nat) (exponent : Int) (r : Rest) : Scan Number :=
  match fromParts positive significand exponent with
  | some f => .ok (.float f, r)
  | none => .error (Error.flawAt .numberOutOfRange r.2)

/-- Digits of an exponent whose value no longer fits: a nonzero number with a positive exponent
is out of range; otherwise the digits are skipped and the value is a zero. -/
def exponentOverflow (positive zero positiveExp : Bool) : List UInt8 → Pos → Scan Number
  | b :: r, p =>
    if !zero && positiveExp then .error (Error.flawAt .numberOutOfRange p)
    else if isDigit b then exponentOverflow positive zero positiveExp r (p.step b)
    else .ok (.float (Binary64.zero (!positive)), (b :: r, p))
  | [], p =>
    if !zero && positiveExp then .error (Error.flawAt .numberOutOfRange p)
    else .ok (.float (Binary64.zero (!positive)), ([], p))

/-- Further digits of an exponent. -/
def exponentDigits (positive : Bool) (significand : Nat) (start : Int) (positiveExp : Bool)
    (acc : Nat) : List UInt8 → Pos → Scan Number
  | b :: r, p =>
    if isDigit b then
      if overflows acc (digit b) int32Max.toNat then
        exponentOverflow positive (significand = 0) positiveExp r (p.step b)
      else exponentDigits positive significand start positiveExp (acc * 10 + digit b) r (p.step b)
    else
      let e := if positiveExp then saturate (start + acc) else saturate (start - acc)
      finish positive significand e (b :: r, p)
  | [], p =>
    let e := if positiveExp then saturate (start + acc) else saturate (start - acc)
    finish positive significand e ([], p)

/-- An exponent, starting at its `e` or `E`. -/
def exponentPart (positive : Bool) (significand : Nat) (start : Int) : List UInt8 → Pos →
    Scan Number
  | [], p => .error (Error.flawAt .eofWhileParsingValue p)
  | mark :: r0, p0 =>
    let p1 := p0.step mark
    let (positiveExp, r, p) := match r0 with
      | 0x2B :: r => (true, r, p1.step 0x2B)
      | 0x2D :: r => (false, r, p1.step 0x2D)
      | r => (true, r, p1)
    match r with
    | [] => .error (Error.flawAt .eofWhileParsingValue p)
    | b :: r' =>
      if isDigit b then exponentDigits positive significand start positiveExp (digit b) r' (p.step b)
      else .error (Error.flawAt .invalidNumber (p.step b))

/-- After the digits that still fit: further digits are skipped, then an exponent may follow. -/
def skipDigitsThen (positive : Bool) (significand : Nat) (exponent : Int) : List UInt8 → Pos →
    Scan Number
  | b :: r, p =>
    if isDigit b then skipDigitsThen positive significand exponent r (p.step b)
    else if b = 0x65 ∨ b = 0x45 then exponentPart positive significand exponent (b :: r) p
    else finish positive significand exponent (b :: r, p)
  | [], p => finish positive significand exponent ([], p)

/-- Digits after the decimal point; `after` counts them (negated). -/
def fractionDigits (positive : Bool) (significand : Nat) (before after : Int) :
    List UInt8 → Pos → Scan Number
  | b :: r, p =>
    if isDigit b then
      if overflows significand (digit b) (Nat.pow 2 64 - 1) then
        skipDigitsThen positive significand (before + after) (b :: r) p
      else fractionDigits positive (significand * 10 + digit b) before (after - 1) r (p.step b)
    else if after = 0 then .error (Error.flawAt .invalidNumber (p.step b))
    else if b = 0x65 ∨ b = 0x45 then exponentPart positive significand (before + after) (b :: r) p
    else finish positive significand (before + after) (b :: r, p)
  | [], p =>
    if after = 0 then .error (Error.flawAt .eofWhileParsingValue p)
    else finish positive significand (before + after) ([], p)

/-- Digits of an integer part too long for 64 bits: each one only scales the exponent. -/
def longInteger (positive : Bool) (significand : Nat) (exponent : Int) : List UInt8 → Pos →
    Scan Number
  | b :: r, p =>
    if isDigit b then longInteger positive significand (exponent + 1) r (p.step b)
    else if b = 0x2E then fractionDigits positive significand exponent 0 r (p.step b)
    else if b = 0x65 ∨ b = 0x45 then exponentPart positive significand exponent (b :: r) p
    else finish positive significand exponent (b :: r, p)
  | [], p => finish positive significand exponent ([], p)

/-- What follows a complete integer part: a fraction, an exponent, or the end of the number. -/
def afterInteger (positive : Bool) (significand : Nat) : List UInt8 → Pos → Scan Number
  | b :: r, p =>
    if b = 0x2E then fractionDigits positive significand 0 0 r (p.step b)
    else if b = 0x65 ∨ b = 0x45 then exponentPart positive significand 0 (b :: r) p
    else .ok (integerValue positive significand, (b :: r, p))
  | [], p => .ok (integerValue positive significand, ([], p))

/-- Further digits of the integer part. -/
def integerDigits (positive : Bool) (significand : Nat) : List UInt8 → Pos → Scan Number
  | b :: r, p =>
    if isDigit b then
      if overflows significand (digit b) (Nat.pow 2 64 - 1) then
        longInteger positive significand 0 (b :: r) p
      else integerDigits positive (significand * 10 + digit b) r (p.step b)
    else afterInteger positive significand (b :: r) p
  | [], p => afterInteger positive significand [] p

/-- A number after its sign (the `-` is already read when `positive` is false). -/
def number (positive : Bool) : List UInt8 → Pos → Scan Number
  | [], p => .error (Error.flawAt .eofWhileParsingValue p)
  | b :: r, p =>
    let p1 := p.step b
    if b = 0x30 then
      match r with
      | d :: _ => if isDigit d then .error (Error.flawAt .invalidNumber (p1.step d))
                  else afterInteger positive 0 r p1
      | [] => afterInteger positive 0 r p1
    else if isDigit b then integerDigits positive (digit b) r p1
    else .error (Error.flawAt .invalidNumber p1)

/-- Skips an exponent's digits. -/
def skipExponentDigits : List UInt8 → Pos → Scan Unit
  | b :: r, p => if isDigit b then skipExponentDigits r (p.step b) else .ok ((), (b :: r, p))
  | [], p => .ok ((), ([], p))

/-- Skips an exponent, starting at its `e` or `E`. -/
def skipExponent : List UInt8 → Pos → Scan Unit
  | [], p => .ok ((), ([], p))
  | mark :: r0, p0 =>
    let p1 := p0.step mark
    let (r, p) := match r0 with
      | 0x2B :: r => (r, p1.step 0x2B)
      | 0x2D :: r => (r, p1.step 0x2D)
      | r => (r, p1)
    match r with
    | b :: r' =>
      if isDigit b then skipExponentDigits r' (p.step b)
      else .error (Error.flawAt .invalidNumber (p.step b))
    | [] => .error (Error.flawAt .invalidNumber p)

/-- Skips the digits after a decimal point, at least one. -/
def skipFraction (seen : Bool) : List UInt8 → Pos → Scan Unit
  | b :: r, p =>
    if isDigit b then skipFraction true r (p.step b)
    else if !seen then .error (Error.flawAt .invalidNumber (p.step b))
    else if b = 0x65 ∨ b = 0x45 then skipExponent (b :: r) p
    else .ok ((), (b :: r, p))
  | [], p => if seen then .ok ((), ([], p)) else .error (Error.flawAt .invalidNumber p)

/-- Skips what follows an integer part. -/
def skipAfterInteger : List UInt8 → Pos → Scan Unit
  | b :: r, p =>
    if b = 0x2E then skipFraction false r (p.step b)
    else if b = 0x65 ∨ b = 0x45 then skipExponent (b :: r) p
    else .ok ((), (b :: r, p))
  | [], p => .ok ((), ([], p))

/-- Skips integer digits. -/
def skipIntegerDigits : List UInt8 → Pos → Scan Unit
  | b :: r, p => if isDigit b then skipIntegerDigits r (p.step b) else skipAfterInteger (b :: r) p
  | [], p => .ok ((), ([], p))

/-- Skips a number after its sign, without computing it. -/
def skipNumber : List UInt8 → Pos → Scan Unit
  | [], p => .error (Error.flawAt .invalidNumber p)
  | b :: r, p =>
    let p1 := p.step b
    if b = 0x30 then
      match r with
      | d :: _ => if isDigit d then .error (Error.flawAt .invalidNumber (p1.step d))
                  else skipAfterInteger r p1
      | [] => .ok ((), (r, p1))
    else if isDigit b then skipIntegerDigits r p1
    else .error (Error.flawAt .invalidNumber p1)

/-- The value of an ASCII hex digit. -/
def hexValue (b : UInt8) : Option Nat :=
  if isDigit b then some (digit b)
  else if 0x61 ≤ b ∧ b ≤ 0x66 then some (b.toNat - 0x57)
  else if 0x41 ≤ b ∧ b ≤ 0x46 then some (b.toNat - 0x37)
  else none

/-- Four hex digits of a `\u` escape. Fewer than four octets left is the end of the text
inside a string; four octets that are not all hex digits are an invalid escape. -/
def hex4 : List UInt8 → Pos → Scan Nat
  | a :: b :: c :: d :: r, p =>
    let p' := p.stepAll [a, b, c, d]
    match hexValue a, hexValue b, hexValue c, hexValue d with
    | some w, some x, some y, some z => .ok (((w * 16 + x) * 16 + y) * 16 + z, (r, p'))
    | _, _, _, _ => .error (Error.flawAt .invalidEscape p')
  | r, p => .error (Error.flawAt .eofWhileParsingString (p.stepAll r))

/-- The octets of a code point (not a surrogate). -/
def codePoint (n : Nat) : List UInt8 := Text.Utf8.encodeChar (Char.ofNat n)

/-- A `\u` escape after its `u`: a code point outside the surrogates, or a leading surrogate
followed by a `\u` escape of a trailing one. -/
def unicodeEscape (r : List UInt8) (p : Pos) : Scan (List UInt8) :=
  match hex4 r p with
  | .error e => .error e
  | .ok (n, r1, p1) =>
    if 0xDC00 ≤ n ∧ n ≤ 0xDFFF then .error (Error.flawAt .loneLeadingSurrogateInHexEscape p1)
    else if n < 0xD800 ∨ n > 0xDBFF then .ok (codePoint n, (r1, p1))
    else match r1 with
      | [] => .error (Error.flawAt .eofWhileParsingString p1)
      | x :: r2 =>
        if x ≠ 0x5C then .error (Error.flawAt .unexpectedEndOfHexEscape (p1.step x))
        else match r2 with
          | [] => .error (Error.flawAt .eofWhileParsingString (p1.step x))
          | y :: r3 =>
            if y ≠ 0x75 then .error (Error.flawAt .unexpectedEndOfHexEscape ((p1.step x).step y))
            else match hex4 r3 ((p1.step x).step y) with
              | .error e => .error e
              | .ok (n2, r4, p4) =>
                if n2 < 0xDC00 ∨ n2 > 0xDFFF then
                  .error (Error.flawAt .loneLeadingSurrogateInHexEscape p4)
                else .ok (codePoint (((n - 0xD800) * 1024 + (n2 - 0xDC00)) + 0x10000), (r4, p4))

/-- An escape after its backslash: the octets it stands for. -/
def escape : List UInt8 → Pos → Scan (List UInt8)
  | [], p => .error (Error.flawAt .eofWhileParsingString p)
  | e :: r, p =>
    let p1 := p.step e
    if e = 0x22 ∨ e = 0x5C ∨ e = 0x2F then .ok ([e], (r, p1))
    else if e = 0x62 then .ok ([0x08], (r, p1))
    else if e = 0x66 then .ok ([0x0C], (r, p1))
    else if e = 0x6E then .ok ([0x0A], (r, p1))
    else if e = 0x72 then .ok ([0x0D], (r, p1))
    else if e = 0x74 then .ok ([0x09], (r, p1))
    else if e = 0x75 then unicodeEscape r p1
    else .error (Error.flawAt .invalidEscape p1)

/-- The octets of a string's content, collected in reverse, up to its closing quote. A control
octet is an error at the position after it. The fuel bounds the octets left to read. -/
def stringOctets : Nat → List UInt8 → List UInt8 → Pos → Scan (List UInt8)
  | 0, _, _, p => .error (Error.flawAt .eofWhileParsingString p)
  | _ + 1, _, [], p => .error (Error.flawAt .eofWhileParsingString p)
  | fuel + 1, acc, b :: r, p =>
    if b = 0x22 then .ok (acc.reverse, (r, p.step b))
    else if b = 0x5C then
      match escape r (p.step b) with
      | .error e => .error e
      | .ok (bytes, r', p') => stringOctets fuel (bytes.reverse ++ acc) r' p'
    else if b < 0x20 then .error (Error.flawAt .controlCharacterWhileParsingString (p.step b))
    else stringOctets fuel (b :: acc) r (p.step b)

/-- A string after its opening quote. Its octets must be UTF-8, which is checked once the
closing quote is read; otherwise the error stands after the first octet of the first sequence
that is not well formed. Escapes write whole characters, so that sequence lies in the raw text.
The fuel must pass the number of octets left. -/
def string (fuel : Nat) (r : List UInt8) (p : Pos) : Scan String :=
  match stringOctets fuel [] r p with
  | .error e => .error e
  | .ok (bytes, r', p') =>
    match Text.Utf8.decode? bytes with
    | some s => .ok (s, (r', p'))
    | none =>
      let raw := r.take (r.length - r'.length - 1)
      .error (Error.flawAt .invalidUnicodeCodePoint
        (p.stepAll (raw.take (Text.Utf8.validUpTo raw + 1))))

/-- Skips an escape after its backslash, checking only its form. -/
def skipEscape : List UInt8 → Pos → Scan Unit
  | [], p => .error (Error.flawAt .eofWhileParsingString p)
  | e :: r, p =>
    let p1 := p.step e
    if e = 0x22 ∨ e = 0x5C ∨ e = 0x2F ∨ e = 0x62 ∨ e = 0x66 ∨ e = 0x6E ∨ e = 0x72 ∨ e = 0x74 then
      .ok ((), (r, p1))
    else if e = 0x75 then
      match hex4 r p1 with
      | .error err => .error err
      | .ok (_, rest) => .ok ((), rest)
    else .error (Error.flawAt .invalidEscape p1)

/-- Skips a string after its opening quote. A control octet is an error at its own position. -/
def skipString : Nat → List UInt8 → Pos → Scan Unit
  | 0, _, p => .error (Error.flawAt .eofWhileParsingString p)
  | _ + 1, [], p => .error (Error.flawAt .eofWhileParsingString p)
  | fuel + 1, b :: r, p =>
    if b = 0x22 then .ok ((), (r, p.step b))
    else if b = 0x5C then
      match skipEscape r (p.step b) with
      | .error e => .error e
      | .ok (_, r', p') => skipString fuel r' p'
    else if b < 0x20 then .error (Error.flawAt .controlCharacterWhileParsingString p)
    else skipString fuel r (p.step b)

end CiClient.Json.Scalar
