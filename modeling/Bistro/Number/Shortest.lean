import Bistro.Number.Binary64

/-!
# Bistro — shortest decimal digits of a double

A positive double stands for the interval of reals that round to it. The shortest decimal that
reads back is the first point of a decimal grid inside that interval, trying grids of 1, 2, …
17 significant digits. If a grid of `n` digits has a point in the interval, one of the value's
two neighbours on that grid is such a point, so only those two are tested; when both lie
inside, the nearer one wins. Everything is exact natural-number arithmetic on `s · 2^q`.
-/

namespace Bistro

/-- A decimal number written as a digit string `digits` with value `digits · 10^exp`. -/
structure DecimalDigits where
  digits : Nat
  exp : Int
  deriving DecidableEq, Repr

namespace Shortest

/-- The numbers that turn a comparison of `c · 10^k` with `x · 2^p` into one of naturals:
`c · 10^k ≤ x · 2^p` iff `c * fst ≤ x * snd`. -/
def crossScale (k p : Int) : Nat × Nat :=
  let a := Nat.pow 2 p.toNat
  let b := Nat.pow 2 (-p).toNat
  let t := Nat.pow 10 k.toNat
  let r := Nat.pow 10 (-k).toNat
  (t * b, a * r)

/-- `⌊log₁₀ (s · 2^q)⌋` for `s > 0`: an estimate from the binary length, corrected by exact
comparison with powers of ten. -/
def decimalExponent (s : Nat) (q : Int) : Int :=
  let est : Int := (((Nat.log2 s : Int) + q) * 78913) / 262144
  let atLeast (d : Int) : Bool :=
    let (l, r) := crossScale d q
    decide (l ≤ s * r)
  -- the estimate is at most one below the exponent and never above it by more than one
  let d := if atLeast (est + 1) then (if atLeast (est + 2) then est + 2 else est + 1)
    else if atLeast est then est else est - 1
  d

/-- The interval of reals that round to the positive double `s · 2^q`, scaled by four:
its ends are `lo · 2^(q-2)` and `hi · 2^(q-2)`, and `closed` says whether they belong to it.
The lower half-gap is a quarter step when `s` is the smallest normal significand of a binade
above the first. -/
structure Interval where
  lo : Nat
  mid : Nat
  hi : Nat
  closed : Bool

/-- The rounding interval of the positive double with significand `s` and exponent `q`. -/
def interval (s : Nat) (q : Int) : Interval :=
  let narrow := s = fractionCount && q > -1074
  { lo := 4 * s - (if narrow then 1 else 2), mid := 4 * s, hi := 4 * s + 2, closed := s % 2 = 0 }

/-- Whether `c · 10^k` lies in the scaled interval `iv` of exponent `q - 2`. -/
def inside (iv : Interval) (q : Int) (k : Int) (c : Nat) : Bool :=
  let (l, r) := crossScale k (q - 2)
  let x := c * l
  let above := x > iv.lo * r || (iv.closed && x == iv.lo * r)
  let below := x < iv.hi * r || (iv.closed && x == iv.hi * r)
  above && below

/-- The point of the grid `10^k` chosen for the interval, if one of the two neighbours of the
value lies in it; the nearer one when both do, the even one at an exact tie. -/
def gridHit? (iv : Interval) (q : Int) (k : Int) : Option Nat :=
  let (l, r) := crossScale k (q - 2)
  let c := (iv.mid * r) / l
  let inLow := inside iv q k c
  let inHigh := inside iv q k (c + 1)
  if inLow && inHigh then
    -- distances scaled by `l`: value − c·10^k and (c+1)·10^k − value
    let dLow := iv.mid * r - c * l
    let dHigh := (c + 1) * l - iv.mid * r
    if dLow < dHigh then some c
    else if dHigh < dLow then some (c + 1)
    else if c % 2 = 0 then some c else some (c + 1)
  else if inLow then some c
  else if inHigh then some (c + 1)
  else none

/-- Drop trailing zero digits, raising the exponent to match. -/
def trimZeros : Nat → DecimalDigits → DecimalDigits
  | 0, d => d
  | fuel + 1, d =>
    if d.digits ≠ 0 ∧ d.digits % 10 = 0 then trimZeros fuel ⟨d.digits / 10, d.exp + 1⟩ else d

/-- Search the grids of `n, n+1, …` significant digits, at most `fuel` of them. -/
def search (iv : Interval) (q d : Int) : Nat → Nat → Option DecimalDigits
  | 0, _ => none
  | fuel + 1, n =>
    let k := d - (n : Int) + 1
    match gridHit? iv q k with
    | some c => some ⟨c, k⟩
    | none => search iv q d fuel (n + 1)

end Shortest

/-- The shortest decimal that reads back as the positive double `s · 2^q` (with `s > 0`),
nearest to it among those of that length. Seventeen significant digits always suffice; the
fallback of that many digits is never reached. -/
def shortestDigits (s : Nat) (q : Int) : DecimalDigits :=
  let iv := Shortest.interval s q
  let d := Shortest.decimalExponent s q
  let found := (Shortest.search iv q d 17 1).getD
    ⟨(iv.mid * (Shortest.crossScale (d - 16) (q - 2)).2) / (Shortest.crossScale (d - 16) (q - 2)).1,
      d - 16⟩
  Shortest.trimZeros 20 found

end Bistro
