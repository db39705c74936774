/-!
# Bistro — base64

Bytes are written six bits to a character, from the standard alphabet (`+` and `/` as the last
two) or the URL-safe one (`-` and `_`). The standard form pads to a multiple of four characters
with `=`; the URL-safe form used in tokens leaves the padding off. Reading accepts either
padding, and refuses characters outside the alphabet and a final group of one character.
-/

namespace Bistro

namespace Base64

/-- The character of a six-bit value in the standard alphabet, or the URL-safe one. -/
def digit (urlSafe : Bool) (n : Nat) : Char :=
  if n < 26 then Char.ofNat (0x41 + n)
  else if n < 52 then Char.ofNat (0x61 + n - 26)
  else if n < 62 then Char.ofNat (0x30 + n - 52)
  else if n = 62 then (if urlSafe then '-' else '+')
  else (if urlSafe then '_' else '/')

/-- The six-bit value of a character of the alphabet. -/
def value? (urlSafe : Bool) (c : Char) : Option Nat :=
  if 'A' ≤ c ∧ c ≤ 'Z' then some (c.toNat - 0x41)
  else if 'a' ≤ c ∧ c ≤ 'z' then some (c.toNat - 0x61 + 26)
  else if '0' ≤ c ∧ c ≤ '9' then some (c.toNat - 0x30 + 52)
  else if c = (if urlSafe then '-' else '+') then some 62
  else if c = (if urlSafe then '_' else '/') then some 63
  else none

/-- Write bytes, three to four characters. -/
def encodeBytes (urlSafe pad : Bool) : List Nat → List Char
  | [] => []
  | [a] =>
    [digit urlSafe (a / 4), digit urlSafe ((a % 4) * 16)] ++ (if pad then ['=', '='] else [])
  | [a, b] =>
    [digit urlSafe (a / 4), digit urlSafe ((a % 4) * 16 + b / 16), digit urlSafe ((b % 16) * 4)] ++
      (if pad then ['='] else [])
  | a :: b :: c :: rest =>
    [digit urlSafe (a / 4), digit urlSafe ((a % 4) * 16 + b / 16),
      digit urlSafe ((b % 16) * 4 + c / 64), digit urlSafe (c % 64)] ++ encodeBytes urlSafe pad rest

/-- Read groups of six-bit values back into bytes. -/
def decodeValues : List Nat → Option (List Nat)
  | [] => some []
  | [_] => none
  | [a, b] => some [a * 4 + b / 16]
  | [a, b, c] => some [a * 4 + b / 16, (b % 16) * 16 + c / 4]
  | a :: b :: c :: d :: rest =>
    (decodeValues rest).map fun r => [a * 4 + b / 16, (b % 16) * 16 + c / 4, (c % 4) * 64 + d] ++ r

end Base64

/-- The standard padded base64 text of some bytes. -/
def base64Encode (bytes : List Nat) : String := String.ofList (Base64.encodeBytes false true bytes)

/-- The URL-safe unpadded base64 text of some bytes. -/
def base64UrlEncode (bytes : List Nat) : String := String.ofList (Base64.encodeBytes true false bytes)

/-- The bytes of a base64 text in the given alphabet, padding optional. -/
def base64Decode? (urlSafe : Bool) (s : String) : Option (List Nat) :=
  let cs := (s.toList.reverse.dropWhile (· == '=')).reverse
  (cs.mapM (Base64.value? urlSafe)).bind Base64.decodeValues

end Bistro
