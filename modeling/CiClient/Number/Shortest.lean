import CiClient.Number.Binary64
/-!
# Shortest decimal text of a binary64 value

The digits of a finite value are the fewest decimal digits that read back as the same value,
and of those the nearest to it. A decimal reads back as `x` when it lies in the interval of
reals that round to `x`: halfway to each neighbour, the ends included when the significand is
even, since ties go to the even significand. For each digit count the two candidates are the
neighbours of `x` on that decimal grid; if some grid point lies in the interval, one of the two
does.

How the digits are laid out (where positional notation stops, `.0`, the exponent mark) is a
`FloatStyle`, chosen by the format that writes the number.
-/

namespace CiClient.Number

namespace Binary64

/-- Compares `a · 2 ^ p` with `c · 10 ^ q` exactly. -/
def cmpScaled (a : Nat) (p : Int) (c : Nat) (q : Int) : Ordering :=
  let lhs := a * Nat.pow 2 p.toNat * Nat.pow 10 (-q).toNat
  let rhs := c * Nat.pow 10 q.toNat * Nat.pow 2 (-p).toNat
  compare lhs rhs

/-- The decimal exponent `t` of a positive value `m · 2 ^ e`: `10 ^ t ≤ m · 2 ^ e < 10 ^ (t + 1)`.
The estimate from the bit length is off by at most one either way. -/
def decimalExponent (m : Nat) (e : Int) : Int :=
  let guess : Int := (((Nat.log2 m : Int) + e) * 30103) / 100000
  let up (t : Int) : Int := if cmpScaled m e 1 (t + 1) != .lt then t + 1 else t
  let down (t : Int) : Int := if cmpScaled m e 1 t == .lt then t - 1 else t
  up (up (down (down guess)))

/-- Decimal digits `d` and exponent `k` of a finite nonzero value: `d · 10 ^ k` reads back as `x`,
no decimal with fewer digits does, and `d` is the nearest such to `x` (an exact tie goes to the
even `d`). `d` has no trailing zero. -/
def shortest (x : Binary64) : Nat × Int :=
  let m := x.significand
  let e := x.exponent
  -- interval ends in quarter units of the last place: `v = 4m`, `lo`, `hi`, over `2 ^ (e - 2)`
  let v := 4 * m
  let lo := if m = Nat.pow 2 52 ∧ x.biasedExponent > 1 then 4 * m - 1 else 4 * m - 2
  let hi := 4 * m + 2
  let inclusive := m % 2 = 0
  let inside (c : Nat) (k : Int) : Bool :=
    let a := cmpScaled lo (e - 2) c k
    let b := cmpScaled hi (e - 2) c k
    if inclusive then a != .gt && b != .lt else a == .lt && b == .gt
  let t := decimalExponent m e
  let attempt (n : Nat) : Option (Nat × Int) :=
    let k : Int := t - n + 1
    let (num, den) := (m * Nat.pow 2 e.toNat * Nat.pow 10 (-k).toNat, Nat.pow 2 (-e).toNat * Nat.pow 10 k.toNat)
    let below := num / den
    let above := below + 1
    match inside below k, inside above k with
    | true, true =>
      -- nearer of the two: compare `2v` with `(below + above) · 10 ^ k`
      match cmpScaled (2 * v) (e - 2) (below + above) k with
      | .lt => some (below, k)
      | .gt => some (above, k)
      | .eq => some (if below % 2 = 0 then below else above, k)
    | true, false => some (below, k)
    | false, true => some (above, k)
    | false, false => none
  let found := (List.range 17).findSome? fun i => attempt (i + 1)
  let (d, k) := found.getD (m, e)
  strip d k 20
where
  /-- Moves trailing zeros of the digits into the exponent. -/
  strip (d : Nat) (k : Int) : Nat → Nat × Int
    | 0 => (d, k)
    | fuel + 1 => if d ≠ 0 ∧ d % 10 = 0 then strip (d / 10) (k + 1) fuel else (d, k)

end Binary64

/-- How a finite binary64 value is laid out as text once its digits are known. -/
structure FloatStyle where
  /-- Smallest decimal exponent written positionally. -/
  minPositional : Int
  /-- Largest decimal exponent written positionally. -/
  maxPositional : Int
  /-- Positional integral values end in `.0`. -/
  pointZero : Bool
  /-- A positive exponent is written with `+`. -/
  plusSign : Bool

namespace Binary64

/-- The text of a finite value in the given style: shortest digits, positional within the
style's exponent range, otherwise one digit, a point, the rest, `e` and the exponent. Zero is
`0.0` (`-0.0` for negative zero) when the style keeps `.0`. -/
def toText (style : FloatStyle) (x : Binary64) : String :=
  let sign := if x.negative then "-" else ""
  if x.isZero then sign ++ (if style.pointZero then "0.0" else "0") else
  let (d, k) := x.shortest
  let ds := Nat.toDigits 10 d
  let n := ds.length
  -- decimal exponent of the first digit
  let s : Int := k + n - 1
  let body :=
    if style.minPositional ≤ s ∧ s ≤ style.maxPositional then
      if s ≥ n - 1 then
        String.ofList ds ++ String.ofList (List.replicate (s - (n - 1)).toNat '0') ++
          (if style.pointZero then ".0" else "")
      else if s ≥ 0 then
        String.ofList (ds.take (s.toNat + 1)) ++ "." ++ String.ofList (ds.drop (s.toNat + 1))
      else
        "0." ++ String.ofList (List.replicate ((-s).toNat - 1) '0') ++ String.ofList ds
    else
      let mant := match ds with
        | [] => "0"
        | [c] => String.ofList [c]
        | c :: rest => String.ofList [c] ++ "." ++ String.ofList rest
      let expText :=
        if s < 0 then "-" ++ toString (-s).toNat
        else (if style.plusSign then "+" else "") ++ toString s.toNat
      mant ++ "e" ++ expText
  sign ++ body

end Binary64

end CiClient.Number
