/-!
# Bistro — binary64 values

A double-precision value is kept as its three IEEE 754 fields: sign, biased exponent and
fraction. A finite value is read exactly as `significand · 2^exponent` in natural-number
arithmetic, and `ofRatio` rounds a nonnegative ratio to the nearest double, a tie going to the
even significand. Every decimal text, every integer and every exact quotient that becomes a
double in this library goes through `ofRatio`, so all of them round the same way.
-/

namespace Bistro

/-- Two to the fifty-second: the number of distinct fraction fields. -/
def fractionCount : Nat := 4503599627370496

/-- An IEEE 754 binary64 value. `finite neg e f` is `(-1)^neg · (2^52 + f) · 2^(e - 1075)` for a
biased exponent `e ≥ 1`, and `(-1)^neg · f · 2^(-1074)` for `e = 0`. -/
inductive Binary64 where
  | finite (neg : Bool) (e : Fin 2047) (f : Fin fractionCount)
  | infinite (neg : Bool)
  | nan
  deriving DecidableEq, Repr

/-- Round `num / den` to the nearest natural number, a tie going to the even one. -/
def roundHalfEven (num den : Nat) : Nat :=
  let q := num / den
  let r := num % den
  if 2 * r > den then q + 1
  else if 2 * r < den then q
  else if q % 2 = 0 then q else q + 1

/-- `⌊log₂ (num / den)⌋` for positive `num` and `den`. -/
def floorLog2Ratio (num den : Nat) : Int :=
  let k : Int := (Nat.log2 num : Int) - (Nat.log2 den : Int)
  let atLeast : Bool :=
    if 0 ≤ k then decide (den * Nat.pow 2 k.toNat ≤ num) else decide (den ≤ num * Nat.pow 2 (-k).toNat)
  if atLeast then k else k - 1

/-- `num / (den · 2^q)` rounded to the nearest natural number, ties to even. -/
def roundScaled (num den : Nat) (q : Int) : Nat :=
  if 0 ≤ q then roundHalfEven num (den * Nat.pow 2 q.toNat) else roundHalfEven (num * Nat.pow 2 (-q).toNat) den

namespace Binary64

/-- The zero with sign `neg`. -/
def signedZero (neg : Bool) : Binary64 := .finite neg ⟨0, by decide⟩ ⟨0, by decide⟩

/-- Positive zero. -/
def zero : Binary64 := signedZero false

/-- The value with sign `neg`, significand `s` and binary exponent `q`, for a significand that
already fits: `s < 2^53`, and `s ≥ 2^52` unless `q = -1074`. Exponents past the top give an
infinity. -/
def pack (neg : Bool) (s : Nat) (q : Int) : Binary64 :=
  if s < fractionCount then
    if hs : s < fractionCount then .finite neg 0 ⟨s, hs⟩ else .nan
  else if he : (q + 1075).toNat < 2047 then
    if hf : s - fractionCount < fractionCount then .finite neg ⟨(q + 1075).toNat, he⟩ ⟨s - fractionCount, hf⟩
    else .infinite neg
  else .infinite neg

/-- The double nearest to `(-1)^neg · num / den`, ties to an even significand; a magnitude that
rounds past the largest finite double is an infinity. A zero numerator keeps its sign. -/
def ofRatio (neg : Bool) (num den : Nat) : Binary64 :=
  if num = 0 ∨ den = 0 then signedZero neg
  else
    let q : Int := max (floorLog2Ratio num den - 52) (-1074)
    let s := roundScaled num den q
    let (s, q) := if s = 2 * fractionCount then (fractionCount, q + 1) else (s, q)
    if q > 971 then .infinite neg else pack neg s q

/-- The double nearest to an integer. -/
def ofInt (n : Int) : Binary64 := ofRatio (n < 0) n.natAbs 1

/-- The significand of a finite value with exponent field `e` and fraction `f`. -/
def significandOf (e f : Nat) : Nat := if e = 0 then f else fractionCount + f

/-- The binary exponent of a finite value with exponent field `e`. -/
def exponentOf (e : Nat) : Int := if e = 0 then -1074 else (e : Int) - 1075

/-- A finite value as sign, significand and binary exponent. -/
def parts? : Binary64 → Option (Bool × Nat × Int)
  | .finite neg e f => some (neg, significandOf e.val f.val, exponentOf e.val)
  | _ => none

/-- Whether the value is finite. -/
def isFinite : Binary64 → Bool
  | .finite .. => true
  | _ => false

/-- Whether the value is a zero of either sign. -/
def isZero : Binary64 → Bool
  | .finite _ e f => e.val = 0 && f.val = 0
  | _ => false

/-- Whether the sign bit is set. -/
def signBit : Binary64 → Bool
  | .finite neg _ _ => neg
  | .infinite neg => neg
  | .nan => false

/-- The value with its sign flipped. -/
def neg : Binary64 → Binary64
  | .finite n e f => .finite (!n) e f
  | .infinite n => .infinite (!n)
  | .nan => .nan

/-- Two finite values as integers over one power of two: `(a, b)` with `x = a · 2^k` and
`y = b · 2^k` for the smaller of their two exponents `k`. -/
def commonScale? (x y : Binary64) : Option (Int × Int) :=
  match x.parts?, y.parts? with
  | some (n, s, q), some (m, t, r) =>
    let k := min q r
    let a : Int := (s * Nat.pow 2 (q - k).toNat : Nat)
    let b : Int := (t * Nat.pow 2 (r - k).toNat : Nat)
    some (if n then -a else a, if m then -b else b)
  | _, _ => none

/-- Numeric order of two finite values, `-0` equal to `+0`; `none` when either is not finite. -/
def compareFinite? (x y : Binary64) : Option Ordering :=
  (commonScale? x y).map fun (a, b) => compare a b

/-- `x < y` as the arithmetic comparison of doubles has it: false whenever a NaN is involved. -/
def lt (x y : Binary64) : Bool :=
  match x, y with
  | .nan, _ => false
  | _, .nan => false
  | .infinite n, .infinite m => n && !m
  | .infinite n, _ => n
  | _, .infinite m => !m
  | _, _ => x.compareFinite? y == some .lt

/-- `x ≤ y` as the arithmetic comparison of doubles has it: false whenever a NaN is involved. -/
def le (x y : Binary64) : Bool :=
  match x, y with
  | .nan, _ => false
  | _, .nan => false
  | _, _ => lt x y || (x.compareFinite? y == some .eq) ||
      (match x, y with
       | .infinite n, .infinite m => n == m
       | _, _ => false)

/-- `x = y` as the arithmetic comparison of doubles has it: a NaN equals nothing and the two
zeros are equal. -/
def eq (x y : Binary64) : Bool := le x y && le y x

/-- The quotient `x / y` of two doubles, correctly rounded; only finite operands are divided
exactly, the rest follow the usual rules for infinities, zeros and NaN. -/
def div (x y : Binary64) : Binary64 :=
  match x.parts?, y.parts? with
  | some (n, s, q), some (m, t, r) =>
    let neg := n != m
    if t = 0 then
      if s = 0 then .nan else .infinite neg
    else
      let e := q - r
      if 0 ≤ e then ofRatio neg (s * Nat.pow 2 e.toNat) t else ofRatio neg s (t * Nat.pow 2 (-e).toNat)
  | _, _ =>
    match x, y with
    | .nan, _ => .nan
    | _, .nan => .nan
    | .infinite _, .infinite _ => .nan
    | .infinite n, _ => .infinite (n != y.signBit)
    | _, _ => signedZero (x.signBit != y.signBit)

/-- The least integer not below a finite value; an infinity and a NaN have none. -/
def ceil? (x : Binary64) : Option Int :=
  x.parts?.map fun (neg, s, q) =>
    if 0 ≤ q then
      let m : Int := (s * Nat.pow 2 q.toNat : Nat)
      if neg then -m else m
    else
      let d := Nat.pow 2 (-q).toNat
      if neg then -((s / d : Nat) : Int) else if s % d = 0 then ((s / d : Nat) : Int) else (s / d : Nat) + 1

end Binary64

end Bistro
