/-!
# Bistro — UTF-8 bytes

The UTF-8 encoding of characters and texts, as byte values: one byte below `U+0080`, two below
`U+0800`, three below `U+10000` and four above.
-/

namespace Bistro

/-- The UTF-8 bytes of one character. -/
def utf8OfChar (c : Char) : List Nat :=
  let n := c.toNat
  if n < 0x80 then [n]
  else if n < 0x800 then [0xC0 + n / 64, 0x80 + n % 64]
  else if n < 0x10000 then [0xE0 + n / 4096, 0x80 + (n / 64) % 64, 0x80 + n % 64]
  else [0xF0 + n / 262144, 0x80 + (n / 4096) % 64, 0x80 + (n / 64) % 64, 0x80 + n % 64]

/-- The UTF-8 bytes of a text. -/
def utf8Bytes (s : String) : List Nat := s.toList.flatMap utf8OfChar

/-- Whether a byte continues a multi-byte sequence. -/
def isContinuation (b : Nat) : Bool := 0x80 ≤ b && b < 0xC0

/-- The character of a code point that a well-formed sequence may encode: not a surrogate, not
above `U+10FFFF`, and not encodable in fewer bytes than it took. -/
def codePoint? (n least : Nat) : Option Char :=
  if n < least || (0xD800 ≤ n && n < 0xE000) || n > 0x10FFFF then none else some (Char.ofNat n)

/-- The characters of well-formed UTF-8 bytes, `none` for any malformed sequence. -/
def utf8Chars : List Nat → Option (List Char)
  | [] => some []
  | a :: rest =>
    if a < 0x80 then (utf8Chars rest).map (Char.ofNat a :: ·)
    else if 0xC0 ≤ a && a < 0xE0 then
      match rest with
      | b :: r =>
        if isContinuation b then
          (codePoint? ((a - 0xC0) * 64 + (b - 0x80)) 0x80).bind fun c => (utf8Chars r).map (c :: ·)
        else none
      | _ => none
    else if 0xE0 ≤ a && a < 0xF0 then
      match rest with
      | b :: c :: r =>
        if isContinuation b && isContinuation c then
          (codePoint? ((a - 0xE0) * 4096 + (b - 0x80) * 64 + (c - 0x80)) 0x800).bind fun ch =>
            (utf8Chars r).map (ch :: ·)
        else none
      | _ => none
    else if 0xF0 ≤ a && a < 0xF8 then
      match rest with
      | b :: c :: d :: r =>
        if isContinuation b && isContinuation c && isContinuation d then
          (codePoint? ((a - 0xF0) * 262144 + (b - 0x80) * 4096 + (c - 0x80) * 64 + (d - 0x80))
            0x10000).bind fun ch => (utf8Chars r).map (ch :: ·)
        else none
      | _ => none
    else none

/-- The text of well-formed UTF-8 bytes. -/
def utf8Decode? (bs : List Nat) : Option String := (utf8Chars bs).map String.ofList

end Bistro
