import Bistro.Text.Utf8

/-!
# Bistro — the size of a QR symbol

A QR symbol of version `v` (from 1 to 40) is a square of `4v + 17` modules. The text it holds
is cut into segments, each in the densest mode that can write it: digits, the alphanumeric set
(digits, upper-case letters and ` $%*+-./:`), or plain bytes of its UTF-8 encoding. A run is
given a mode of its own only when it is long enough to pay for its header: for a text of at
most `minimum` bytes only when the whole text is of that kind, for a longer one only for runs of
at least `minimum` bytes. Digits are taken out first, then alphanumeric runs from what is left.

Each segment costs a four-bit mode, a count whose width grows with the version in three steps
(below 10, below 27, from 27), and its data: ten bits per three digits, eleven per two
alphanumeric characters, eight per byte. The version of a text is the smallest whose capacity
at the medium error-correction level holds all its segments, the counts measured at the width
of the version found; a text that does not fit version 40 has no symbol.
-/

namespace Bistro

namespace Qr

/-- The mode of a segment. -/
inductive Mode where
  | numeric
  | alphanumeric
  | bytes
  deriving DecidableEq, Repr

/-- Whether a byte is a decimal digit. -/
def isDigitByte (b : Nat) : Bool := 0x30 ≤ b && b ≤ 0x39

/-- Whether a byte is of the alphanumeric set. -/
def isAlphanumericByte (b : Nat) : Bool :=
  isDigitByte b || (0x41 ≤ b && b ≤ 0x5A) || [0x20, 0x24, 0x25, 0x2A, 0x2B, 0x2D, 0x2E, 0x2F, 0x3A].contains b

/-- The maximal runs of bytes on which `p` agrees, with its value on each. -/
def runs (p : Nat → Bool) : List Nat → List (Bool × List Nat)
  | [] => []
  | b :: bs =>
    match runs p bs with
    | (q, r) :: rest => if q == p b then (q, b :: r) :: rest else (p b, [b]) :: (q, r) :: rest
    | [] => [(p b, [b])]

/-- Put a piece after the pieces so far, joining it to the last when neither is a long run. -/
def joinShort : List (Bool × List Nat) → Bool × List Nat → List (Bool × List Nat)
  | [], piece => [piece]
  | acc, (true, r) => acc ++ [(true, r)]
  | acc, (false, r) =>
    match acc.getLast? with
    | some (false, l) => acc.dropLast ++ [(false, l ++ r)]
    | _ => acc ++ [(false, r)]

/-- Cut bytes into the runs of `p` of at least `minimum` bytes (marked `true`) and the pieces
between them. -/
def splitLong (p : Nat → Bool) (minimum : Nat) (data : List Nat) : List (Bool × List Nat) :=
  ((runs p data).map fun (q, r) => (q && minimum ≤ r.length, r)).foldl joinShort []

/-- Cut bytes by `p`: the long runs when the whole text is longer than `minimum`, else the
whole text, marked by whether `p` holds on all of it. -/
def splitBy (p : Nat → Bool) (minimum whole : Nat) (data : List Nat) : List (Bool × List Nat) :=
  if data.isEmpty then []
  else if minimum < whole then splitLong p minimum data
  else [(data.all p, data)]

/-- The segments of a text, each with its mode and bytes. -/
def segments (text : String) (minimum : Nat := 20) : List (Mode × List Nat) :=
  let data := utf8Bytes text
  (splitBy isDigitByte minimum data.length data).flatMap fun (numeric, piece) =>
    if numeric then [(.numeric, piece)]
    else (splitBy isAlphanumericByte minimum data.length piece).map fun (alpha, sub) =>
      (if alpha then .alphanumeric else .bytes, sub)

/-- The step of the count width a version uses: 0 below 10, 1 below 27, 2 from 27. -/
def widthClass (version : Nat) : Nat :=
  if version < 10 then 0 else if version < 27 then 1 else 2

/-- The width of a segment's count in a width class. -/
def countBits : Mode → Nat → Nat
  | .numeric, c => [10, 12, 14].getD c 14
  | .alphanumeric, c => [9, 11, 13].getD c 13
  | .bytes, c => [8, 16, 16].getD c 16

/-- The bits of a segment's data of `n` characters. -/
def dataBits : Mode → Nat → Nat
  | .numeric, n => 10 * (n / 3) + [0, 4, 7].getD (n % 3) 0
  | .alphanumeric, n => 11 * (n / 2) + 6 * (n % 2)
  | .bytes, n => 8 * n

/-- The bits all segments take in a width class. -/
def neededBits (segs : List (Mode × List Nat)) (c : Nat) : Nat :=
  segs.foldl (fun acc (m, d) => acc + 4 + countBits m c + dataBits m d.length) 0

/-- The data codewords of versions 1 to 40 at the medium error-correction level. -/
def capacityWords : List Nat :=
  [16, 28, 44, 64, 86, 108, 124, 154, 182, 216, 254, 290, 334, 365, 415, 453, 507, 563, 627,
    669, 714, 782, 860, 914, 1000, 1062, 1128, 1193, 1267, 1373, 1455, 1541, 1631, 1725, 1812,
    1914, 1992, 2102, 2216, 2334]

/-- The data bits a version holds. -/
def capacity (version : Nat) : Nat := 8 * capacityWords.getD (version - 1) 0

/-- The smallest version from `start` that holds `needed` bits, if any up to 40. -/
def firstFit (needed start : Nat) : Option Nat :=
  ((List.range 40).map (· + 1)).find? fun v => start ≤ v && needed ≤ capacity v

/-- The version found from `start`, measured again at its own count width while that width
differs; the width only grows, so three rounds suffice. -/
def fitFrom (segs : List (Mode × List Nat)) : Nat → Nat → Option Nat
  | 0, _ => none
  | fuel + 1, start => do
    let v ← firstFit (neededBits segs (widthClass start)) start
    if widthClass v == widthClass start then some v else fitFrom segs fuel v

/-- The version of the symbol of a text, or none when it does not fit. -/
def version? (text : String) : Option Nat := fitFrom (segments text) 3 1

/-- The side of a symbol's image in pixels: its modules and a quiet zone of four on each side,
ten pixels to a module. -/
def imageSide (version : Nat) : Nat := (4 * version + 17 + 8) * 10

end Qr

end Bistro
