import Bistro.Text.Base64

/-!
# Bistro — PNG image headers

A PNG file is its eight-byte signature and a list of chunks; each chunk is its length, its
four-letter type, its data and the CRC-32 of type and data. The header chunk `IHDR` gives the
width and height of the picture, its bit depth and colour type. A picture here is a two-colour
square, one bit a pixel in grey; only its header is written, which is all that a reader of its
size needs. An image travels as a `data:` address of its base64 text.
-/

namespace Bistro

namespace Png

/-- One bit of the reflected CRC-32 with the polynomial `0xEDB88320`. -/
def crcBit (c : UInt32) : UInt32 := if c &&& 1 == 1 then (c >>> 1) ^^^ 0xEDB88320 else c >>> 1

/-- Eight bits of the CRC-32 register. -/
def crcByte (c : UInt32) (b : Nat) : UInt32 :=
  (List.range 8).foldl (fun c _ => crcBit c) (c ^^^ b.toUInt32)

/-- The CRC-32 of some bytes. -/
def crc32 (bytes : List Nat) : Nat :=
  ((bytes.foldl crcByte 0xFFFFFFFF) ^^^ 0xFFFFFFFF).toNat

/-- A number as four bytes, most significant first. -/
def word (n : Nat) : List Nat := [n / 0x1000000 % 256, n / 0x10000 % 256, n / 0x100 % 256, n % 256]

/-- The bytes of a chunk of a type and data. -/
def chunk (kind : String) (data : List Nat) : List Nat :=
  let tagged := kind.toList.map Char.toNat ++ data
  word data.length ++ tagged ++ word (crc32 tagged)

/-- The signature that opens every PNG file. -/
def signature : List Nat := [0x89, 0x50, 0x4E, 0x47, 0x0D, 0x0A, 0x1A, 0x0A]

/-- The file of a two-colour picture of a width and height, as far as its header. -/
def header (width height : Nat) : List Nat :=
  signature ++ chunk "IHDR" (word width ++ word height ++ [1, 0, 0, 0, 0]) ++ chunk "IEND" []

/-- The address of a square two-colour picture of a side, as a base64 data address. -/
def squareDataUrl (side : Nat) : String :=
  "data:image/png;base64," ++ base64Encode (header side side)

end Png

end Bistro
