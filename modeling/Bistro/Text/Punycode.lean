/-!
# Bistro — Punycode

The Bootstring encoding of RFC 3492 with the Punycode parameters, which writes a label of any
script in the letters, digits and hyphen of a host name. The ASCII characters of the label come
first, then a hyphen when there were any, then each other code point in increasing order as a
variable-length number in base 36: the distance from the last insertion, with digit thresholds
set by a bias that adapts to the numbers already written.

Reading back takes the part before the last hyphen as the ASCII characters and inserts each
decoded code point at its place; a digit that is no base-36 digit, a number cut short or a code
point past U+10FFFF makes the text unreadable.
-/

namespace Bistro

namespace Punycode

/-- The character of a base-36 digit: `a` to `z`, then `0` to `9`. -/
def digitChar (d : Nat) : Char :=
  if d < 26 then Char.ofNat (0x61 + d) else Char.ofNat (0x30 + d - 26)

/-- The value of a base-36 digit, in either letter case. -/
def digitValue? (c : Char) : Option Nat :=
  let n := c.toNat
  if 0x61 ≤ n ∧ n ≤ 0x7A then some (n - 0x61)
  else if 0x41 ≤ n ∧ n ≤ 0x5A then some (n - 0x41)
  else if 0x30 ≤ n ∧ n ≤ 0x39 then some (n - 0x30 + 26)
  else none

/-- The threshold of the digit at weight position `k` (a multiple of 36): between 1 and 26. -/
def threshold (k bias : Nat) : Nat :=
  if k ≤ bias then 1 else if bias + 26 ≤ k then 26 else k - bias

theorem one_le_threshold (k bias : Nat) : 1 ≤ threshold k bias := by
  unfold threshold
  split
  · omega
  · split <;> omega

theorem threshold_le (k bias : Nat) : threshold k bias ≤ 26 := by
  unfold threshold
  split
  · omega
  · split <;> omega

/-- Divide a delta by 35 until it is at most 455, counting 36 for each division. -/
def shrink (delta k : Nat) : Nat × Nat :=
  if 455 < delta then shrink (delta / 35) (k + 36) else (delta, k)
termination_by delta
decreasing_by exact Nat.div_lt_self (by omega) (by omega)

/-- The bias after a delta, for a label that then has `points` code points. -/
def adapt (delta points : Nat) (first : Bool) : Nat :=
  let d := if first then delta / 700 else delta / 2
  let (d, k) := shrink (d + d / points) 0
  k + 36 * d / (d + 38)

/-- The digits of a number `q`, least significant first, from weight position `k`. -/
def numberDigits (bias k q : Nat) : List Char :=
  let t := threshold k bias
  if q < t then [digitChar q]
  else digitChar (t + (q - t) % (36 - t)) :: numberDigits bias (k + 36) ((q - t) / (36 - t))
termination_by q
decreasing_by
  have := one_le_threshold k bias
  have := threshold_le k bias
  exact Nat.lt_of_le_of_lt (Nat.div_le_self _ _) (by omega)

/-- What encoding has written so far: the digits, the running delta, the bias and how many
code points of the label are placed. -/
structure Encoder where
  out : List Char
  delta : Nat
  bias : Nat
  placed : Nat

/-- Pass one character of the label while inserting the code point `m`; `basic` is the number
of ASCII characters. -/
def Encoder.pass (basic m : Nat) (e : Encoder) (c : Char) : Encoder :=
  if c.toNat < m then { e with delta := e.delta + 1 }
  else if c.toNat = m then
    { out := e.out ++ numberDigits e.bias 36 e.delta, delta := 0,
      bias := adapt e.delta (e.placed + 1) (e.placed == basic), placed := e.placed + 1 }
  else e

/-- Insert the code points `ms`, in increasing order, after the code point `n`. -/
def Encoder.insertAll (label : List Char) (basic : Nat) : List Nat → Nat → Encoder → Encoder
  | [], _, e => e
  | m :: ms, n, e =>
    let e := label.foldl (Encoder.pass basic m) { e with delta := e.delta + (m - n) * (e.placed + 1) }
    Encoder.insertAll label basic ms (m + 1) { e with delta := e.delta + 1 }

/-- The distinct values of a list in increasing order. -/
def ascendingDistinct (ns : List Nat) : List Nat :=
  (ns.mergeSort fun a b => decide (a ≤ b)).eraseDups

/-- The Punycode text of a label. -/
def encode (label : List Char) : List Char :=
  let basic := label.filter (·.toNat < 0x80)
  let wide := ascendingDistinct ((label.filter (0x80 ≤ ·.toNat)).map Char.toNat)
  let e := Encoder.insertAll label basic.length wide 0x80
    { out := [], delta := 0, bias := 72, placed := basic.length }
  basic ++ (if basic.isEmpty then [] else ['-']) ++ e.out

/-- Read one variable-length number, adding to `i` with weight `w`; gives the sum and the rest
of the text. -/
def readNumber (bias : Nat) : List Char → Nat → Nat → Nat → Option (Nat × List Char)
  | [], _, _, _ => none
  | c :: rest, k, w, i => do
    let d ← digitValue? c
    let t := threshold k bias
    if d < t then some (i + d * w, rest)
    else readNumber bias rest (k + 36) (w * (36 - t)) (i + d * w)

/-- Insert the decoded code points into `out`, reading numbers from `cs`; `fuel` bounds the
numbers left to read, each of which takes at least one character. -/
def insertDecoded : Nat → List Char → List Nat → Nat → Nat → Nat → Option (List Nat)
  | 0, _, out, _, _, _ => some out
  | fuel + 1, cs, out, n, i, bias =>
    if cs.isEmpty then some out
    else do
      let (i', rest) ← readNumber bias cs 36 1 i
      let size := out.length + 1
      let n' := n + i' / size
      if n' > 0x10FFFF then none
      else
        let pos := i' % size
        let out' := out.take pos ++ [n'] ++ out.drop pos
        insertDecoded fuel rest out' n' (pos + 1) (adapt (i' - i) size (i == 0))

/-- The label a Punycode text stands for, or none when it is unreadable. -/
def decode (text : List Char) : Option (List Char) := do
  let (basic, ext) := match text.reverse.findIdx? (· == '-') with
    | some j => (text.take (text.length - j - 1), text.drop (text.length - j))
    | none => ([], text)
  if basic.any (0x80 ≤ ·.toNat) then none
  let points ← insertDecoded ext.length ext (basic.map Char.toNat) 0x80 0 72
  points.mapM fun p => if p < 0xD800 ∨ (0xE000 ≤ p ∧ p ≤ 0x10FFFF) then some (Char.ofNat p) else none

end Punycode

end Bistro
