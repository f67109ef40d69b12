/-!
# Decimal — shortest digits of a double

A finite double is `m · 2^q` with a natural significand `m`. The reals that round to it under
round-to-nearest-even form an interval around it, closed when `m` is even. Its shortest decimal
text is the coarsest decimal grid `10^k` that has a point inside that interval, and on that grid
the point nearest the double (an exact tie goes to the even multiple).

Everything here is exact `Nat` arithmetic on the decoded bits; `Float` appears only at the two
ends (decoding `toBits`, and packing bits in `Decimal.nearestDouble`).
-/

namespace StreamDispatch.Decimal

/-! ## Decoding a double -/

/-- The parts of a finite, nonzero double: its sign, its significand `m` and binary exponent `q`
with value `m · 2^q`, and whether the gap to the next smaller double is half the gap above
(the significand is the smallest of a binade above the subnormals). -/
structure Binary where
  negative : Bool
  m : Nat
  q : Int
  narrowBelow : Bool
  deriving Repr, BEq

/-- The parts of a double, `none` for zero, infinities and NaN. -/
def Binary.ofFloat (x : Float) : Option Binary :=
  let bits : Nat := x.toBits.toNat
  let negative : Bool := bits / Nat.pow 2 63 % 2 == 1
  let e : Nat := bits / Nat.pow 2 52 % Nat.pow 2 11
  let f : Nat := bits % Nat.pow 2 52
  if e == 2047 then none
  else if e == 0 then
    if f == 0 then none else some ⟨negative, f, -1074, false⟩
  else
    some ⟨negative, f + Nat.pow 2 52, (e : Int) - 1075, f == 0 && e > 1⟩

/-! ## The rounding interval on a common denominator -/

/-- Four times the value and the two ends of its rounding interval, all over the denominator
`2^den`: the double is `mid / 2^den`, and exactly the reals in `[low, high] / 2^den` (ends
included iff `closed`) round to it. -/
structure Interval where
  low : Nat
  mid : Nat
  high : Nat
  den : Nat
  closed : Bool

/-- The rounding interval of a decoded double. -/
def Binary.interval (b : Binary) : Interval :=
  let lowGap := if b.narrowBelow then 1 else 2
  let e := b.q - 2
  if 0 ≤ e then
    let s := Nat.pow 2 e.toNat
    ⟨(4 * b.m - lowGap) * s, 4 * b.m * s, (4 * b.m + 2) * s, 0, b.m % 2 == 0⟩
  else
    ⟨4 * b.m - lowGap, 4 * b.m, 4 * b.m + 2, (-e).toNat, b.m % 2 == 0⟩

/-! ## Searching the decimal grids -/

/-- Scales for comparing a multiple `j · 10^k` with a value `x / 2^den`: the point is
`j * grid / scale` and the value `x * 1 / 2^den`, so both sides become integers after
multiplying by `scale * 2^den`. -/
def gridScales (den : Nat) (k : Int) : Nat × Nat :=
  if 0 ≤ k then (Nat.pow 10 k.toNat * Nat.pow 2 den, 1) else (Nat.pow 2 den, Nat.pow 10 (-k).toNat)

/-- Whether `j · 10^k` lies in the rounding interval. -/
def Interval.contains (iv : Interval) (k : Int) (j : Nat) : Bool :=
  let (g, a) := gridScales iv.den k
  let p := j * g
  if iv.closed then iv.low * a ≤ p && p ≤ iv.high * a
  else iv.low * a < p && p < iv.high * a

/-- The multiple of `10^k` in the interval nearest the value, if the interval holds one; of two
at the same distance the even one. -/
def Interval.nearestOnGrid (iv : Interval) (k : Int) : Option Nat :=
  let (g, a) := gridScales iv.den k
  let v := iv.mid * a
  let below := v / g
  let above := if below * g == v then below else below + 1
  let dBelow := v - below * g
  let dAbove := above * g - v
  let inBelow := below != 0 && iv.contains k below
  let inAbove := iv.contains k above
  match inBelow, inAbove with
  | true, true =>
    if dBelow < dAbove then some below
    else if dAbove < dBelow then some above
    else if below % 2 == 0 then some below else some above
  | true, false => some below
  | false, true => some above
  | false, false => none

/-- The exponent of the coarsest grid worth trying: the largest `k` with `10^k` at most the top
of the interval. -/
def Interval.topGrid (iv : Interval) : Int :=
  let whole := iv.high / Nat.pow 2 iv.den
  if whole > 0 then ((Nat.toDigits 10 whole).length : Int) - 1
  else
    -- the smallest `t` with `high · 10^t ≥ 2^den` gives the grid `10^(-t)`
    let rec go (fuel t : Nat) : Int :=
      match fuel with
      | 0 => -(t : Int)
      | fuel + 1 => if iv.high * Nat.pow 10 t ≥ Nat.pow 2 iv.den then -(t : Int) else go fuel (t + 1)
    go 400 1

/-- Tries the grids `10^k`, `10^(k-1)`, … for at most `fuel` steps and returns the first hit. -/
def Interval.firstHit (iv : Interval) : Nat → Int → Option (Nat × Int)
  | 0, _ => none
  | fuel + 1, k =>
    match iv.nearestOnGrid k with
    | some j => some (j, k)
    | none => iv.firstHit fuel (k - 1)

/-- The shortest decimal `j · 10^k` that rounds back to the double, nearest of the shortest.
Seventeen significant digits always suffice, so twenty grids below the top are enough. -/
def Binary.shortest (b : Binary) : Nat × Int :=
  let iv := b.interval
  (iv.firstHit 20 iv.topGrid).getD (b.m, b.q)

/-! ## From a decimal to the nearest double -/

/-- The double nearest to the natural number `n`, a tie going to the even significand, and
infinity past the largest double. -/
def nearestDouble (n : Nat) : Float :=
  if n < Nat.pow 2 53 then Float.ofNat n
  else
    let e := n.log2
    let sh := e - 52
    let q := n / Nat.pow 2 sh
    let r := n % Nat.pow 2 sh
    let half := Nat.pow 2 (sh - 1)
    let q := if r > half || (r == half && q % 2 == 1) then q + 1 else q
    let (q, sh) := if q == Nat.pow 2 53 then (q / 2, sh + 1) else (q, sh)
    let biased := sh + 52 + 1023
    if biased ≥ 2047 then Float.ofBits 0x7FF0000000000000
    else Float.ofBits (UInt64.ofNat (biased * Nat.pow 2 52 + (q - Nat.pow 2 52)))

/-- `10^k` rounded to the nearest double. -/
def powerOfTen (k : Nat) : Float := nearestDouble (Nat.pow 10 k)

/-- The double nearest to the fraction `num / den` of positive naturals, a tie going to the even
significand; below the least normal double the spacing stays `2^-1074`. The significand is the
quotient `num · 2^-e / den` for the exponent `e` that puts it in `[2^52, 2^53)`, found from the
bit lengths and corrected by one step either way. -/
def nearestRatio (num den : Nat) : Float :=
  if num == 0 || den == 0 then 0
  else
    let scaled (e : Int) : Nat × Nat :=
      if e < 0 then (num * Nat.pow 2 e.natAbs, den) else (num, den * Nat.pow 2 e.natAbs)
    let guess : Int := (num.log2 : Int) - den.log2 - 52
    let e := if (scaled guess).1 / (scaled guess).2 < Nat.pow 2 52 then guess - 1 else guess
    let e := if (scaled e).1 / (scaled e).2 ≥ Nat.pow 2 53 then e + 1 else e
    let e := max e (-1074)
    let (n, d) := scaled e
    let q := n / d
    let r := n % d
    let q := if 2 * r > d || (2 * r == d && q % 2 == 1) then q + 1 else q
    let (q, e) := if q == Nat.pow 2 53 then (q / 2, e + 1) else (q, e)
    if q < Nat.pow 2 52 then Float.ofBits (UInt64.ofNat q)
    else
      let biased := e + 1075
      if biased ≥ 2047 then Float.ofBits 0x7FF0000000000000
      else Float.ofBits (UInt64.ofNat (biased.toNat * Nat.pow 2 52 + (q - Nat.pow 2 52)))

/-- The double nearest to `sig · 10^exp`, rounded once. -/
def nearestScaled (sig : Nat) (exp : Int) : Float :=
  if exp < 0 then nearestRatio sig (Nat.pow 10 exp.natAbs)
  else nearestDouble (sig * Nat.pow 10 exp.natAbs)

end StreamDispatch.Decimal
