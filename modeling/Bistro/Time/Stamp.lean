import Bistro.Number.FloatText
import Bistro.Json.Value

/-!
# Bistro — civil time stamps

A `Stamp` is a date of the proleptic Gregorian calendar with a time of day to the microsecond,
and optionally an offset from UTC. A stamp without an offset is a wall time, the form in which
the database keeps every date: storing a stamp keeps its wall fields and drops the offset.

Days are counted from 1970-01-01 by the usual era arithmetic (400-year cycles of 146097 days), so
a stamp converts to seconds since the epoch and back. Stamps are written in the extended ISO 8601
form `YYYY-MM-DDTHH:MM:SS`, with six fraction digits only when the microseconds are not zero and
the offset as `+HH:MM`; the payload form writes a zero offset as `Z`.
-/

namespace Bistro

/-- A civil date and time; `offset` is in seconds east of UTC, `none` for a wall time. -/
structure Stamp where
  year : Int
  month : Nat
  day : Nat
  hour : Nat
  minute : Nat
  second : Nat
  micro : Nat := 0
  offset : Option Int := none
  deriving DecidableEq, Repr

namespace Stamp

/-- Whether a year of the Gregorian calendar has a 29th of February. -/
def isLeapYear (y : Int) : Bool := y % 4 == 0 && (y % 100 != 0 || y % 400 == 0)

/-- The number of days of a month, `0` for a month that does not exist. -/
def daysInMonth (y : Int) (m : Nat) : Nat :=
  if m = 2 then (if isLeapYear y then 29 else 28)
  else if m = 4 ∨ m = 6 ∨ m = 9 ∨ m = 11 then 30
  else if 1 ≤ m ∧ m ≤ 12 then 31
  else 0

/-- Days from 1970-01-01 to a civil date. -/
def daysFromCivil (y : Int) (m d : Nat) : Int :=
  let y := if m ≤ 2 then y - 1 else y
  let era := y.fdiv 400
  let yoe := y - era * 400
  let mp : Int := if m > 2 then (m : Int) - 3 else (m : Int) + 9
  let doy := (153 * mp + 2) / 5 + (d : Int) - 1
  let doe := yoe * 365 + yoe / 4 - yoe / 100 + doy
  era * 146097 + doe - 719468

/-- The civil date of a day counted from 1970-01-01. -/
def civilFromDays (z : Int) : Int × Nat × Nat :=
  let z := z + 719468
  let era := z.fdiv 146097
  let doe := z - era * 146097
  let yoe := (doe - doe / 1460 + doe / 36524 - doe / 146096) / 365
  let y := yoe + era * 400
  let doy := doe - (365 * yoe + yoe / 4 - yoe / 100)
  let mp := (5 * doy + 2) / 153
  let d := doy - (153 * mp + 2) / 5 + 1
  let m := if mp < 10 then mp + 3 else mp - 9
  ((if m ≤ 2 then y + 1 else y), m.toNat, d.toNat)

/-- The wall time `secs` seconds after 1970-01-01T00:00:00. -/
def ofEpoch (secs : Int) (micro : Nat := 0) : Stamp :=
  let days := secs.fdiv 86400
  let rest := (secs - days * 86400).toNat
  let (y, m, d) := civilFromDays days
  { year := y, month := m, day := d, hour := rest / 3600, minute := rest % 3600 / 60,
    second := rest % 60, micro := micro }

/-- Seconds from 1970-01-01T00:00:00 to the wall fields of a stamp, offset not applied. -/
def wallSeconds (s : Stamp) : Int :=
  daysFromCivil s.year s.month s.day * 86400 + (s.hour * 3600 + s.minute * 60 + s.second : Nat)

/-- The stamp moved by a number of seconds, offset kept. -/
def addSeconds (s : Stamp) (n : Int) : Stamp :=
  { ofEpoch (s.wallSeconds + n) s.micro with offset := s.offset }

/-- The wall time of a stamp as the database keeps it: same fields, no offset. -/
def wall (s : Stamp) : Stamp := { s with offset := none }

/-- The UTC wall time of a stamp: its offset taken away and dropped. -/
def toUtcWall (s : Stamp) : Stamp :=
  match s.offset with
  | some o => (s.addSeconds (-o)).wall
  | none => s

/-- Chronological order of wall times: by fields, year first. -/
def key (s : Stamp) : Int × Nat := (s.wallSeconds, s.micro)

/-- Microseconds from 1970-01-01T00:00:00 to the wall fields of a stamp, offset not applied: the
order of stored times. -/
def ordinal (s : Stamp) : Int := s.wallSeconds * 1000000 + s.micro

/-- Whether one wall time comes strictly before another. -/
def before (a b : Stamp) : Bool :=
  a.wallSeconds < b.wallSeconds || (a.wallSeconds == b.wallSeconds && a.micro < b.micro)

/-- A natural number written with at least `width` digits. -/
def padded (width n : Nat) : String :=
  let ds := natDigits n
  String.ofList (zeros (width - ds.length) ++ ds)

/-- The date and time fields as `YYYY-MM-DDTHH:MM:SS[.ffffff]`. -/
def fieldsText (s : Stamp) : String :=
  let year := (if s.year < 0 then "-" else "") ++ padded 4 s.year.natAbs
  let base := year ++ "-" ++ padded 2 s.month ++ "-" ++ padded 2 s.day ++ "T" ++ padded 2 s.hour ++
    ":" ++ padded 2 s.minute ++ ":" ++ padded 2 s.second
  if s.micro = 0 then base else base ++ "." ++ padded 6 s.micro

/-- An offset as `+HH:MM`. -/
def offsetText (o : Int) : String :=
  let m := o.natAbs / 60
  (if o < 0 then "-" else "+") ++ padded 2 (m / 60) ++ ":" ++ padded 2 (m % 60)

/-- The ISO text of a stamp, a zero offset written `+00:00`. -/
def isoText (s : Stamp) : String :=
  s.fieldsText ++ (match s.offset with | some o => offsetText o | none => "")

/-- The ISO text of a stamp in a response payload, a zero offset written `Z`. -/
def payloadText (s : Stamp) : String :=
  s.fieldsText ++ (match s.offset with | some 0 => "Z" | some o => offsetText o | none => "")

/-- The calendar date as `YYYYMMDD`. -/
def compactDate (s : Stamp) : String := padded 4 s.year.natAbs ++ padded 2 s.month ++ padded 2 s.day

end Stamp

/-- A stored time as a response shows it: its wall fields, without a zone. -/
def Stamp.json (s : Stamp) : Json := .str s.wall.fieldsText

/-- An optional stored time as a response shows it. -/
def Stamp.json? : Option Stamp → Json
  | some s => s.json
  | none => .null

end Bistro
