import Bistro.Number.Decimal

/-!
# Bistro — money

An amount of money is a decimal with exactly two places. `toMoney` turns any price the service
holds into one: an absent or zero price is `0.00`, a double is read through its shortest text,
and the value is rounded to two places with a half going away from zero. A value of more than
28 digits, an infinity or a signalling NaN has no amount; a quiet NaN stays a NaN.
-/

namespace Bistro

/-- A price as it reaches the money rule. -/
inductive Amount where
  | absent
  | integer (n : Int)
  | double (x : Binary64)
  | exact (d : Decimal)
  /-- A price given as text, read when it is needed; the empty text is no price. -/
  | text (s : String)
  deriving DecidableEq, Repr

namespace Amount

/-- The decimal a price stands for, `0` for a price that is absent or zero. -/
def toDecimal : Amount → Except DecimalSignal Decimal
  | .absent => .ok Decimal.zero
  | .integer n => .ok (Decimal.ofInt n)
  | .double x => if x.isZero then .ok Decimal.zero else Decimal.ofText (x.toText FloatStyle.plain)
  | .exact d => if d.isZero then .ok Decimal.zero else .ok d
  | .text s => if s.isEmpty then .ok Decimal.zero else Decimal.ofText s

/-- The double a price is sent as. -/
def toBinary64 : Amount → Binary64
  | .absent => Binary64.zero
  | .integer n => Binary64.ofInt n
  | .double x => x
  | .exact d => d.toBinary64
  | .text s => match Decimal.parse? s with
    | some d => d.toBinary64
    | none => .nan

end Amount

/-- The two-place amount of a price. -/
def toMoney (a : Amount) : Except DecimalSignal Decimal :=
  a.toDecimal >>= Decimal.quantize (-2)

/-- The two-place zero that sums start from. -/
def moneyZero : Decimal := .finite false 0 (-2)

/-- The sum of the two-place amounts of some prices, starting from `0.00`. -/
def sumMoney (xs : List Amount) : Except DecimalSignal Decimal :=
  xs.foldlM (fun acc a => do
    let m ← toMoney a
    Decimal.add acc m) moneyZero

/-- The amount a money column reads back: the stored double rounded to two places, ties to
even. -/
def storedAmount (x : Binary64) : Decimal := Decimal.ofBinary64Cents x

/-- The double of the amount a money column reads back. -/
def storedDouble (x : Binary64) : Binary64 := (storedAmount x).toBinary64

end Bistro
