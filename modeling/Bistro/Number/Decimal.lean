import Bistro.Number.FloatText
import Bistro.Text.Space

/-!
# Bistro — decimal numbers

A decimal is a sign, a natural coefficient and a power-of-ten exponent, or one of the values
without digits: an infinity, a quiet NaN or a signalling NaN. Reading a text keeps the
coefficient and exponent as written, so `0.00500` keeps its five places. Arithmetic is exact
and then rounded to a context of 28 significant digits, a tie going to the even neighbour;
`quantize` moves a value to a fixed exponent, rounding a half away from zero, and refuses a
result with more than 28 digits.

Money in this library is always such a decimal quantized to two places.
-/

namespace Bistro

/-- A decimal number: `finite neg c e` is `(-1)^neg · c · 10^e`. -/
inductive Decimal where
  | finite (neg : Bool) (coeff : Nat) (exp : Int)
  | infinite (neg : Bool)
  | nan (neg : Bool) (signaling : Bool) (payload : Nat)
  deriving DecidableEq, Repr

/-- The conditions under which a decimal operation gives no value. -/
inductive DecimalSignal where
  /-- The text is not a decimal number. -/
  | conversionSyntax
  /-- The operation has no meaningful result: too many digits, an infinity, a signalling NaN. -/
  | invalidOperation
  deriving DecidableEq, Repr

/-- How a coefficient is rounded when digits are dropped. -/
inductive Rounding where
  /-- A half goes away from zero. -/
  | halfUp
  /-- A half goes to the even neighbour. -/
  | halfEven
  deriving DecidableEq, Repr

/-- The number of decimal digits of `n`; zero has one. -/
def digitCount (n : Nat) : Nat := (natDigits n).length

/-- `c / 10^k` rounded to a natural number by `mode`. -/
def dropDigits (mode : Rounding) (c k : Nat) : Nat :=
  let p := Nat.pow 10 k
  let q := c / p
  let r := c % p
  match mode with
  | .halfUp => if 2 * r ≥ p then q + 1 else q
  | .halfEven => if 2 * r > p then q + 1 else if 2 * r < p then q else if q % 2 = 0 then q else q + 1

namespace Decimal

/-- The significant digits of the arithmetic context. -/
def precision : Nat := 28

/-- The zero `0` with exponent zero. -/
def zero : Decimal := .finite false 0 0

/-- Whether the value is a zero of either sign; only finite values can be. -/
def isZero : Decimal → Bool
  | .finite _ c _ => c == 0
  | _ => false

/-- Whether the value is a NaN, quiet or signalling. -/
def isNaN : Decimal → Bool
  | .nan .. => true
  | _ => false

/-! ## Reading -/

/-- Split off a leading sign. -/
def takeSign : List Char → Bool × List Char
  | '-' :: r => (true, r)
  | '+' :: r => (false, r)
  | r => (false, r)

/-- The ASCII lower-case form of a character list, for spelling checks. -/
def lowerAscii (cs : List Char) : List Char := cs.map Char.toLower

/-- Whether every character is an ASCII digit. -/
def allDigits (cs : List Char) : Bool := cs.all Char.isDigit

/-- The exponent part after the mark: an optional sign and at least one digit. -/
def readExponent? (cs : List Char) : Option Int :=
  let (neg, ds) := takeSign cs
  if ds.isEmpty || !allDigits ds then none
  else
    let v : Int := digitsValue ds
    some (if neg then -v else v)

/-- A numeric body: digits with at most one point and at least one digit, then an optional
exponent. -/
def readNumber? (neg : Bool) (cs : List Char) : Option Decimal :=
  let intPart := cs.takeWhile Char.isDigit
  let rest := cs.dropWhile Char.isDigit
  let (fracPart, rest) := match rest with
    | '.' :: r => (r.takeWhile Char.isDigit, r.dropWhile Char.isDigit)
    | r => ([], r)
  if intPart.isEmpty && fracPart.isEmpty then none
  else
    let coeff := digitsValue (intPart ++ fracPart)
    let shift : Int := fracPart.length
    match rest with
    | [] => some (.finite neg coeff (-shift))
    | c :: r =>
      if c = 'e' ∨ c = 'E' then
        (readExponent? r).map fun e => .finite neg coeff (e - shift)
      else none

/-- The first code points of the runs of ten decimal digits of the scripts of Unicode 14. -/
def digitZeros : List Nat :=
  [0x30, 0x660, 0x6F0, 0x7C0, 0x966, 0x9E6, 0xA66, 0xAE6, 0xB66, 0xBE6, 0xC66, 0xCE6, 0xD66,
    0xDE6, 0xE50, 0xED0, 0xF20, 0x1040, 0x1090, 0x17E0, 0x1810, 0x1946, 0x19D0, 0x1A80, 0x1A90,
    0x1B50, 0x1BB0, 0x1C40, 0x1C50, 0xA620, 0xA8D0, 0xA900, 0xA9D0, 0xA9F0, 0xAA50, 0xABF0,
    0xFF10, 0x104A0, 0x10D30, 0x11066, 0x110F0, 0x11136, 0x111D0, 0x112F0, 0x11450, 0x114D0,
    0x11650, 0x116C0, 0x11730, 0x118E0, 0x11950, 0x11C50, 0x11D50, 0x11DA0, 0x16A60, 0x16AC0,
    0x16B50, 0x1D7CE, 0x1D7D8, 0x1D7E2, 0x1D7EC, 0x1D7F6, 0x1E140, 0x1E2F0, 0x1E950, 0x1FBF0]

/-- The value of a decimal digit of any script. -/
def digitValue? (c : Char) : Option Nat :=
  (digitZeros.find? fun z => z ≤ c.toNat ∧ c.toNat < z + 10).map (c.toNat - ·)

/-- The ASCII form of a character of a number's text: ASCII stays, a blank is a space, a digit
of another script is its ASCII digit, and anything else (the NUL character too) has none. -/
def asciiChar? (c : Char) : Option Char :=
  if 0 < c.toNat ∧ c.toNat ≤ 127 then some c
  else if isBlank c then some ' '
  else (digitValue? c).map fun d => Char.ofNat (0x30 + d)

/-- The decimal a text stands for, or `none` when it is not one. Blanks around the text are
dropped first, then every underscore; digits of any script count as their ASCII digits.
`Inf`, `Infinity`, `NaN` and `sNaN` are read in any letter case, a NaN with an optional payload
of digits. -/
def parse? (s : String) : Option Decimal := do
  let cs ← ((trimChars s.toList).filter (· ≠ '_')).mapM asciiChar?
  let (neg, body) := takeSign cs
  let low := lowerAscii body
  if low = "inf".toList ∨ low = "infinity".toList then some (.infinite neg)
  else if low.take 3 = "nan".toList ∧ allDigits (low.drop 3) then
    some (.nan neg false (digitsValue (low.drop 3)))
  else if low.take 4 = "snan".toList ∧ allDigits (low.drop 4) then
    some (.nan neg true (digitsValue (low.drop 4)))
  else readNumber? neg body

/-- Read a text, signalling a syntax error when it is not a decimal. -/
def ofText (s : String) : Except DecimalSignal Decimal :=
  match parse? s with
  | some d => .ok d
  | none => .error .conversionSyntax

/-! ## Writing -/

/-- The text of a finite decimal: positional when the exponent is not positive and the value
has at most five zeros after the point before its first digit, scientific otherwise. -/
def finiteText (neg : Bool) (coeff : Nat) (exp : Int) : String :=
  let ds := natDigits coeff
  let n : Int := ds.length
  let left := exp + n
  let dot : Int := if exp ≤ 0 ∧ left > -6 then left else 1
  let body :=
    if dot ≤ 0 then ['0', '.'] ++ zeros (-dot).toNat ++ ds
    else if dot ≥ n then ds ++ zeros (dot - n).toNat
    else ds.take dot.toNat ++ ['.'] ++ ds.drop dot.toNat
  let e := left - dot
  let expText :=
    if e = 0 then [] else ['E', if e < 0 then '-' else '+'] ++ natDigits e.natAbs
  String.ofList ((if neg then ['-'] else []) ++ body ++ expText)

/-- The text of a decimal. -/
def toText : Decimal → String
  | .finite neg c e => finiteText neg c e
  | .infinite neg => (if neg then "-" else "") ++ "Infinity"
  | .nan neg sig p =>
    (if neg then "-" else "") ++ (if sig then "sNaN" else "NaN") ++ (if p = 0 then "" else String.ofList (natDigits p))

/-! ## Rounding and arithmetic -/

/-- A finite result rounded to the context precision, ties to even. -/
def fitPrecision (neg : Bool) (c : Nat) (e : Int) : Decimal :=
  let n := digitCount c
  if n ≤ precision then .finite neg c e
  else
    let k := n - precision
    let c' := dropDigits .halfEven c k
    -- a carry can add one digit
    if digitCount c' > precision then .finite neg (c' / 10) (e + k + 1)
    else .finite neg c' (e + k)

/-- The value moved to exponent `target`, rounding by `mode`, as a coefficient. -/
def rescale (mode : Rounding) (c : Nat) (e target : Int) : Nat :=
  if target ≤ e then c * Nat.pow 10 (e - target).toNat
  else dropDigits mode c (target - e).toNat

/-- A quiet NaN as a result in the context: its payload keeps only its last 28 digits. -/
def fitNaN (neg : Bool) (payload : Nat) : Decimal := .nan neg false (payload % Nat.pow 10 precision)

/-- The value moved to exponent `target` with a half going away from zero. A NaN stays a NaN
(a signalling one signals), an infinity signals, and so does a result of more than 28
digits. -/
def quantize (target : Int) : Decimal → Except DecimalSignal Decimal
  | .nan neg false p => .ok (fitNaN neg p)
  | .nan _ true _ => .error .invalidOperation
  | .infinite _ => .error .invalidOperation
  | .finite neg c e =>
    if c = 0 then .ok (.finite neg 0 target)
    else
      let adjusted : Int := e + digitCount c - 1
      if adjusted - target + 1 > precision then .error .invalidOperation
      else
        let c' := rescale .halfUp c e target
        if digitCount c' > precision then .error .invalidOperation
        else .ok (.finite neg c' target)

/-- A finite decimal as a signed integer over `10^(-k)`, scaled to the exponent `k`. -/
def scaledTo (neg : Bool) (c : Nat) (e k : Int) : Int :=
  let v : Int := (c * Nat.pow 10 (e - k).toNat : Nat)
  if neg then -v else v

/-- The sum of two decimals in the context; a NaN operand gives a NaN, infinities of opposite
signs signal. -/
def add : Decimal → Decimal → Except DecimalSignal Decimal
  | .nan _ true _, _ => .error .invalidOperation
  | _, .nan _ true _ => .error .invalidOperation
  | .nan n _ p, _ => .ok (fitNaN n p)
  | _, .nan n _ p => .ok (fitNaN n p)
  | .infinite n, .infinite m => if n == m then .ok (.infinite n) else .error .invalidOperation
  | .infinite n, _ => .ok (.infinite n)
  | _, .infinite m => .ok (.infinite m)
  | .finite n c e, .finite m d f =>
    let k := min e f
    let s := scaledTo n c e k + scaledTo m d f k
    if s = 0 then
      -- an exact zero is negative only when both operands are
      .ok (.finite (n && m) 0 k)
    else .ok (fitPrecision (s < 0) s.natAbs k)

/-- The product of two decimals in the context. -/
def mul : Decimal → Decimal → Except DecimalSignal Decimal
  | .nan _ true _, _ => .error .invalidOperation
  | _, .nan _ true _ => .error .invalidOperation
  | .nan n _ p, _ => .ok (fitNaN n p)
  | _, .nan n _ p => .ok (fitNaN n p)
  | .infinite n, .finite m d _ => if d = 0 then .error .invalidOperation else .ok (.infinite (n != m))
  | .finite n c _, .infinite m => if c = 0 then .error .invalidOperation else .ok (.infinite (n != m))
  | .infinite n, .infinite m => .ok (.infinite (n != m))
  | .finite n c e, .finite m d f => .ok (fitPrecision (n != m) (c * d) (e + f))

/-- The integer `n` as a decimal. -/
def ofInt (n : Int) : Decimal := .finite (n < 0) n.natAbs 0

/-- Numeric order of two decimals; `none` when a NaN is involved. -/
def compare? : Decimal → Decimal → Option Ordering
  | .nan .., _ => none
  | _, .nan .. => none
  | .infinite n, .infinite m => some (if n == m then .eq else if n then .lt else .gt)
  | .infinite n, _ => some (if n then .lt else .gt)
  | _, .infinite m => some (if m then .gt else .lt)
  | .finite n c e, .finite m d f =>
    let k := min e f
    some (compare (scaledTo n c e k) (scaledTo m d f k))

/-- Numeric equality; a NaN equals nothing. -/
def numEq (x y : Decimal) : Bool := compare? x y == some .eq

/-! ## Doubles -/

/-- The double nearest to a decimal. -/
def toBinary64 : Decimal → Binary64
  | .nan .. => .nan
  | .infinite n => .infinite n
  | .finite n c e => Binary64.ofDecimal n c e

/-- The decimal that the shortest text of a double reads as. -/
def ofBinary64 (x : Binary64) : Decimal :=
  match parse? (x.toText FloatStyle.plain) with
  | some d => d
  | none => .nan false false 0

/-- A double written with exactly two places, its exact binary value rounded with ties to
even, and read back as a decimal; the sign of a negative value that rounds to zero stays. -/
def ofBinary64Cents : Binary64 → Decimal
  | .nan => .nan false false 0
  | .infinite n => .infinite n
  | .finite neg e f =>
    let s := Binary64.significandOf e.val f.val
    let q := Binary64.exponentOf e.val
    -- |x| · 100 = s · 100 · 2^q
    let cents := if 0 ≤ q then s * 100 * Nat.pow 2 q.toNat else roundHalfEven (s * 100) (Nat.pow 2 (-q).toNat)
    .finite neg cents (-2)

end Decimal

end Bistro
