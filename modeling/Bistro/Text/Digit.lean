/-!
# Bistro — decimal digit characters

The characters that are decimal digits in some script: ASCII `0`–`9` and the digit blocks of
the Arabic, Indic, South-East Asian, Mongolian and full-width forms. Each block holds ten
consecutive digits.
-/

namespace Bistro

/-- The first code point of each block of ten decimal digits. -/
def digitBlockStarts : List Nat :=
  [0x30, 0x660, 0x6F0, 0x7C0, 0x966, 0x9E6, 0xA66, 0xAE6, 0xB66, 0xBE6, 0xC66, 0xCE6, 0xD66,
    0xDE6, 0xE50, 0xED0, 0xF20, 0x1040, 0x1090, 0x17E0, 0x1810, 0x1946, 0x19D0, 0x1A80, 0x1A90,
    0x1B50, 0x1BB0, 0x1C40, 0x1C50, 0xA620, 0xA8D0, 0xA900, 0xA9D0, 0xA9F0, 0xAA50, 0xABF0,
    0xFF10]

/-- Whether a character is a decimal digit of some script. -/
def isDecimalDigit (c : Char) : Bool :=
  digitBlockStarts.any fun s => s ≤ c.toNat && c.toNat < s + 10

end Bistro
