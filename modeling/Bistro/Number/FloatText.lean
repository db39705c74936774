import Bistro.Number.Shortest

/-!
# Bistro — doubles as text

Writing: a double is written with its shortest digits; a leading-digit exponent from `-4` to
`15` is written positionally, an integral positional value keeps a `.0`, and other values get an
exponent with a sign and at least two digits (`1e+16`, `1e-05`). The texts of infinities and
NaN depend on the output, so they form a `FloatStyle` record.

Reading: a decimal text is an exact ratio, and `Binary64.ofRatio` rounds it once.
-/

namespace Bistro

/-- The spellings of the values that have no digits. -/
structure FloatStyle where
  infinity : String
  nan : String

namespace FloatStyle

/-- Spelling of a double as plain text: `inf`, `-inf`, `nan`. -/
def plain : FloatStyle := ⟨"inf", "nan"⟩

/-- Spelling of a double inside a JSON document: `Infinity`, `-Infinity`, `NaN`. -/
def json : FloatStyle := ⟨"Infinity", "NaN"⟩

end FloatStyle

/-- The decimal digits of a natural number, most significant first. -/
def natDigits (n : Nat) : List Char := Nat.toDigits 10 n

/-- `n` copies of the digit zero. -/
def zeros (n : Nat) : List Char := List.replicate n '0'

/-- The positional or exponent text of a positive decimal `digits · 10^exp`, by the rule of the
module header. -/
def DecimalDigits.render (d : DecimalDigits) : List Char :=
  let ds := natDigits d.digits
  let n := ds.length
  -- value = 0.ds × 10^point
  let point : Int := d.exp + n
  if -4 < point ∧ point ≤ 16 then
    if point ≤ 0 then ['0', '.'] ++ zeros (-point).toNat ++ ds
    else if point.toNat < n then ds.take point.toNat ++ ['.'] ++ ds.drop point.toNat
    else ds ++ zeros (point.toNat - n) ++ ['.', '0']
  else
    let e := point - 1
    let mant := match ds with
      | [] => ['0']
      | [c] => [c]
      | c :: rest => c :: '.' :: rest
    let expDigits := natDigits e.natAbs
    let expDigits := if expDigits.length < 2 then '0' :: expDigits else expDigits
    mant ++ ['e', if e < 0 then '-' else '+'] ++ expDigits

namespace Binary64

/-- The text of a double in the given style: shortest digits, sign first. -/
def toText (style : FloatStyle) : Binary64 → String
  | .nan => style.nan
  | .infinite neg => (if neg then "-" else "") ++ style.infinity
  | .finite neg e f =>
    let s := significandOf e.val f.val
    let body := if s = 0 then ['0', '.', '0'] else (shortestDigits s (exponentOf e.val)).render
    String.ofList ((if neg then ['-'] else []) ++ body)

/-- The double nearest to `(-1)^neg · digits · 10^exp`. Exponents far outside the range of
doubles are settled without computing the power: the value is an infinity or a zero. -/
def ofDecimal (neg : Bool) (digits : Nat) (exp : Int) : Binary64 :=
  if digits = 0 then signedZero neg
  else
    let size : Int := exp + (natDigits digits).length
    if size > 400 then .infinite neg
    else if size < -400 then signedZero neg
    else if 0 ≤ exp then ofRatio neg (digits * Nat.pow 10 exp.toNat) 1
    else ofRatio neg digits (Nat.pow 10 (-exp).toNat)

end Binary64

/-- The value of a list of ASCII decimal digits. -/
def digitsValue (cs : List Char) : Nat :=
  cs.foldl (fun acc c => acc * 10 + (c.toNat - '0'.toNat)) 0

end Bistro
