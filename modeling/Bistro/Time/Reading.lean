import Bistro.Time.Stamp
import Bistro.Payload.Field
import Bistro.Text.Utf8

/-!
# Bistro — reading stamps from payloads

A date-time field takes a text in the RFC 3339 shape, a bare date (read as midnight), or a number
of seconds since the epoch (a number above 2·10^10 in size counts milliseconds), read as UTC.

The text shape is `YYYY-MM-DD`, a separator `T`, `t`, `_` or a space, `HH:MM`, optionally `:SS`
and a fraction of one or more digits after `.` or `,` (digits past the sixth are dropped), and
optionally `Z`, `z` or a signed `HH:MM`, `HHMM` offset under 24 hours. A text that is not a
date-time is reported by what is wrong with it as a date: too short, a bad character in a
field, a separator, a field out of range, or characters after the date.
-/

namespace Bistro

/-- What is wrong with a text read as a date. -/
inductive DateFault where
  | tooShort
  | yearChar
  | separator
  | monthChar
  | dayChar
  | monthRange
  | dayRange
  | extra
  deriving DecidableEq, Repr

/-- The wording of a date fault. -/
def DateFault.message : DateFault → String
  | .tooShort => "input is too short"
  | .yearChar => "invalid character in year"
  | .separator => "invalid date separator, expected `-`"
  | .monthChar => "invalid character in month"
  | .dayChar => "invalid character in day"
  | .monthRange => "month value is outside expected range of 1-12"
  | .dayRange => "day value is outside expected range"
  | .extra => "unexpected extra characters at the end of the input"

namespace StampText

/-- The value of an ASCII digit byte. -/
def digit? (b : Nat) : Option Nat :=
  if 48 ≤ b ∧ b ≤ 57 then some (b - 48) else none

/-- The number of the digit bytes at positions `i` to `i + n - 1`, or `f` if one is not a digit. -/
def digitsAt (bs : List Nat) (i n : Nat) (f : DateFault) : Except DateFault Nat :=
  (List.range n).foldlM (fun acc k =>
    match bs[i + k]? with
    | some b => match digit? b with
      | some d => .ok (acc * 10 + d)
      | none => .error f
    | none => .error f) 0

/-- The byte at a position, if any. -/
def byteAt (bs : List Nat) (i : Nat) : Option Nat := bs[i]?

/-- The date of the first ten bytes. -/
def date (bs : List Nat) : Except DateFault (Int × Nat × Nat) := do
  if bs.length < 10 then throw .tooShort
  let y ← digitsAt bs 0 4 .yearChar
  if byteAt bs 4 != some 45 then throw .separator
  let m ← digitsAt bs 5 2 .monthChar
  if byteAt bs 7 != some 45 then throw .separator
  let d ← digitsAt bs 8 2 .dayChar
  let days := Stamp.daysInMonth y m
  if days = 0 then throw .monthRange
  if d < 1 ∨ d > days then throw .dayRange
  pure (y, m, d)

/-- A bare date: ten bytes and nothing after them. -/
def bareDate (bs : List Nat) : Except DateFault (Int × Nat × Nat) := do
  let d ← date bs
  if bs.length > 10 then throw .extra
  pure d

/-- The digits of a fraction from position `i`: their count and their value as microseconds. -/
def fraction (bs : List Nat) (i : Nat) : Nat × Nat :=
  let ds := (bs.drop i).takeWhile fun b => (digit? b).isSome
  let six := (ds.take 6).foldl (fun acc b => acc * 10 + ((digit? b).getD 0)) 0
  (ds.length, six * Nat.pow 10 (6 - min 6 ds.length))

/-- The offset at position `i` and the number of bytes it takes; `none` for no offset at all,
`some none` for one that is malformed. -/
def offsetAt (bs : List Nat) (i : Nat) : Option (Option (Int × Nat)) :=
  match byteAt bs i with
  | none => none
  | some b =>
    if b = 90 ∨ b = 122 then some (some (0, 1))
    else if b = 43 ∨ b = 45 then
      let sign : Int := if b = 43 then 1 else -1
      match digitsAt bs (i + 1) 2 .extra with
      | .error _ => some none
      | .ok h =>
        let (m?, len) :=
          if byteAt bs (i + 3) = some 58 then
            ((digitsAt bs (i + 4) 2 .extra).toOption, 6)
          else ((digitsAt bs (i + 3) 2 .extra).toOption, 5)
        match m? with
        | some m =>
          let total := h * 3600 + m * 60
          if total ≥ 86400 ∨ m > 59 then some none else some (some (sign * total, len))
        | none => some none
    else some none

/-- A full date-time text, or `none` when the text is not one. -/
def dateTime (bs : List Nat) : Option Stamp := do
  let (y, mo, d) ← (date bs).toOption
  let sep ← byteAt bs 10
  guard (sep = 84 ∨ sep = 116 ∨ sep = 32 ∨ sep = 95)
  guard (bs.length ≥ 16)
  let h ← (digitsAt bs 11 2 .extra).toOption
  guard (h ≤ 23)
  guard (byteAt bs 13 = some 58)
  let mi ← (digitsAt bs 14 2 .extra).toOption
  guard (mi ≤ 59)
  let (sec, micro, next) ← match byteAt bs 16 with
    | some 58 => do
      let s ← (digitsAt bs 17 2 .extra).toOption
      guard (s ≤ 59)
      match byteAt bs 19 with
      | some 46 | some 44 =>
        let (n, us) := fraction bs 20
        if n = 0 then none else some (s, us, 20 + n)
      | _ => some (s, 0, 19)
    | _ => some (0, 0, 16)
  let (offset, used) ← match offsetAt bs next with
    | none => some (none, 0)
    | some (some (o, len)) => some (some o, len)
    | some none => none
  guard (bs.length = next + used)
  pure { year := y, month := mo, day := d, hour := h, minute := mi, second := sec, micro := micro,
         offset := offset }

/-- The UTC stamp of a number of seconds since the epoch, as a ratio `num / den`; a number of
more than `2·10^10` in size counts milliseconds. -/
def ofEpochRatio (neg : Bool) (num den : Nat) : Except String Stamp :=
  let (num, den) := if num > 20000000000 * den then (num, den * 1000) else (num, den)
  let micros := (num * 1000000 + den / 2) / den
  let total : Int := if neg then -(micros : Int) else micros
  let secs := total.fdiv 1000000
  if secs > 253402300799 then .error "dates after 9999 are not supported as unix timestamps"
  else if secs < -11676096000 then .error "dates before 1600 are not supported as unix timestamps"
  else .ok { Stamp.ofEpoch secs (total - secs * 1000000).toNat with offset := some 0 }

/-- Whether a byte is an ASCII digit. -/
def isDigitByte (b : Nat) : Bool := (digit? b).isSome

/-- The stamp of a text that is a plain integer, read as seconds since the epoch. -/
def integerText? (bs : List Nat) : Option (Except String Stamp) :=
  let (neg, ds) := match bs with
    | 45 :: r => (true, r)
    | r => (false, r)
  if ds.isEmpty || !ds.all isDigitByte then none
  else some (ofEpochRatio neg (ds.foldl (fun acc b => acc * 10 + ((digit? b).getD 0)) 0) 1)

end StampText

namespace Field

/-- The wording of a date-time text that is neither a date-time nor a date. -/
def stampMessage (f : DateFault) : String := "Input should be a valid datetime or date, " ++ f.message

/-- A stamp read from a number of seconds, or the reason there is none. -/
def epochStamp : Except String Stamp → Validated Stamp
  | .ok t => .ok t
  | .error msg => .here ("Input should be a valid datetime, " ++ msg)

/-- A date-time field, by the rules of the module header. -/
def stamp : Json → Validated Stamp
  | .str s =>
    let bs := utf8Bytes s
    match StampText.dateTime bs with
    | some t => .ok t
    | none =>
      match StampText.integerText? bs with
      | some t => epochStamp t
      | none =>
        match StampText.bareDate bs with
        | .ok (y, m, d) => .ok { year := y, month := m, day := d, hour := 0, minute := 0, second := 0 }
        | .error f => .here (stampMessage f)
  | .int n => epochStamp (StampText.ofEpochRatio (n < 0) n.natAbs 1)
  | .float x =>
    match x.parts? with
    | some (neg, s, q) =>
      if 0 ≤ q then
        if q > 64 then epochStamp (.error "dates after 9999 are not supported as unix timestamps")
        else epochStamp (StampText.ofEpochRatio neg (s * Nat.pow 2 q.toNat) 1)
      else epochStamp (StampText.ofEpochRatio neg s (Nat.pow 2 (-q).toNat))
    | none => .here "Input should be a finite number"
  | _ => .here "Input should be a valid datetime"

end Field

end Bistro
