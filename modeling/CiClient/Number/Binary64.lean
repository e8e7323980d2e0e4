/-!
# Binary64 numbers

An IEEE 754 binary64 value is kept as its sixty-four bits, so that equality is equality of bits
and every operation is a function on natural numbers. The operations this library needs are
conversion from a natural number, multiplication and division, each rounded once to the nearest
representable value with ties to the even significand, as IEEE 754 prescribes.

`round` is the single rounding step: `ofNat`, `mul` and `div` compute the exact rational result
and hand it to `round`.
-/

namespace CiClient.Number

/-- An IEEE 754 binary64 value, by its bits. -/
structure Binary64 where
  bits : UInt64
  deriving DecidableEq, Repr, Inhabited

namespace Binary64

/-- The sign bit. -/
def negative (x : Binary64) : Bool := x.bits >>> 63 == 1

/-- The eleven exponent bits as a number. -/
def biasedExponent (x : Binary64) : Nat := ((x.bits >>> 52) &&& 0x7FF).toNat

/-- The fifty-two fraction bits as a number. -/
def fraction (x : Binary64) : Nat := (x.bits &&& 0xFFFFFFFFFFFFF).toNat

/-- Neither an infinity nor a NaN. -/
def isFinite (x : Binary64) : Bool := x.biasedExponent != 2047

/-- An infinity of either sign. -/
def isInfinite (x : Binary64) : Bool := x.biasedExponent == 2047 && x.fraction == 0

/-- A zero of either sign. -/
def isZero (x : Binary64) : Bool := x.biasedExponent == 0 && x.fraction == 0

/-- The integer significand `m` of a finite value, with `|x| = m · 2 ^ exponent x`. -/
def significand (x : Binary64) : Nat :=
  if x.biasedExponent = 0 then x.fraction else x.fraction + Nat.pow 2 52

/-- The exponent of the last significand place of a finite value. -/
def exponent (x : Binary64) : Int :=
  if x.biasedExponent = 0 then -1074 else (x.biasedExponent : Int) - 1075

/-- The value with the given sign, exponent bits and fraction bits. -/
def make (neg : Bool) (biased frac : Nat) : Binary64 :=
  ⟨UInt64.ofNat ((if neg then Nat.pow 2 63 else 0) + biased * Nat.pow 2 52 + frac)⟩

/-- Zero of the given sign. -/
def zero (neg : Bool) : Binary64 := make neg 0 0

/-- Infinity of the given sign. -/
def infinity (neg : Bool) : Binary64 := make neg 2047 0

/-- The same magnitude with the other sign. -/
def neg (x : Binary64) : Binary64 := ⟨x.bits ^^^ 0x8000000000000000⟩

/-- Numerator and denominator of `a · 2 ^ k` as a fraction of natural numbers. -/
def scaled (a : Nat) (k : Int) : Nat × Nat :=
  if 0 ≤ k then (a * Nat.pow 2 k.toNat, 1) else (a, Nat.pow 2 (-k).toNat)

/-- The value nearest to `num / den` with sign `neg`; a tie goes to the even significand, and a
magnitude past the largest finite value becomes infinity. `den` must be positive. -/
def round (neg : Bool) (num den : Nat) : Binary64 :=
  if num = 0 then zero neg else
  -- the place of the last significand digit: `2 ^ 52 ≤ num / (den · 2 ^ e) < 2 ^ 53`
  let e0 : Int := (Nat.log2 num : Int) - (Nat.log2 den : Int) - 52
  let floorAt (e : Int) : Nat :=
    let (n, d) := scaled num (-e)
    n / (d * den)
  let e1 := if floorAt e0 < Nat.pow 2 52 then e0 - 1 else e0
  let e := max e1 (-1074)
  let (n, d) := scaled num (-e)
  let d := d * den
  let q := n / d
  let r := n % d
  let q := if 2 * r > d ∨ (2 * r = d ∧ q % 2 = 1) then q + 1 else q
  let (q, e) := if q = Nat.pow 2 53 then (Nat.pow 2 52, e + 1) else (q, e)
  if e > 971 then infinity neg
  else if q < Nat.pow 2 52 then make neg 0 q
  else make neg (e + 1075).toNat (q - Nat.pow 2 52)

/-- The value nearest to a natural number. -/
def ofNat (n : Nat) : Binary64 := round false n 1

/-- The nearest value to `10 ^ k`, the way a decimal literal `1ek` is read. -/
def pow10 (k : Nat) : Binary64 := round false (Nat.pow 10 k) 1

/-- The product of two finite values, rounded once. -/
def mul (x y : Binary64) : Binary64 :=
  let (n, d) := scaled (x.significand * y.significand) (x.exponent + y.exponent)
  round (x.negative != y.negative) n d

/-- The quotient of a finite value by a finite nonzero value, rounded once. -/
def div (x y : Binary64) : Binary64 :=
  let (n1, d1) := scaled x.significand x.exponent
  let (n2, d2) := scaled y.significand y.exponent
  round (x.negative != y.negative) (n1 * d2) (d1 * n2)

end Binary64

end CiClient.Number
