import Bistro.Text.Utf8

/-!
# Bistro — form encoding of query strings

A value is written into a query string byte by byte over its UTF-8 encoding: ASCII letters,
digits and `_ . - ~` stay, a space becomes `+`, and every other byte is `%` and two upper-case
hexadecimal digits. A query string is `key=value` pairs joined by `&`, both sides so encoded.
-/

namespace Bistro

/-- The bytes that stand for themselves in a query string. -/
def isUnreservedByte (b : Nat) : Bool :=
  (0x41 ≤ b && b ≤ 0x5A) || (0x61 ≤ b && b ≤ 0x7A) || (0x30 ≤ b && b ≤ 0x39) ||
    b == 0x5F || b == 0x2E || b == 0x2D || b == 0x7E

/-- An upper-case hexadecimal digit. -/
def hexDigitUpper (n : Nat) : Char :=
  if n < 10 then Char.ofNat (0x30 + n) else Char.ofNat (0x41 + n - 10)

/-- The encoded form of one byte. -/
def encodeFormByte (b : Nat) : List Char :=
  if isUnreservedByte b then [Char.ofNat b]
  else if b == 0x20 then ['+']
  else ['%', hexDigitUpper (b / 16), hexDigitUpper (b % 16)]

/-- A text encoded for a query string. -/
def formEncode (s : String) : String := String.ofList ((utf8Bytes s).flatMap encodeFormByte)

/-- A query string of the pairs, in order. -/
def formQuery (pairs : List (String × String)) : String :=
  "&".intercalate (pairs.map fun (k, v) => formEncode k ++ "=" ++ formEncode v)

end Bistro
