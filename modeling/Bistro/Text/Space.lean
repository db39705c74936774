/-!
# Bistro — blank characters and trimming

The blank characters are the Unicode spaces and separators together with the ASCII control
characters from tab to carriage return and the four information separators `U+001C`–`U+001F`.
Trimming removes them from both ends of a text and nothing else.
-/

namespace Bistro

/-- Whether a character is blank: tab, line feed, vertical tab, form feed, carriage return,
the information separators, space, next line, no-break space, and the Unicode space and
separator characters. -/
def isBlank (c : Char) : Bool :=
  let n := c.toNat
  (0x09 ≤ n ∧ n ≤ 0x0D) || (0x1C ≤ n ∧ n ≤ 0x20) || n == 0x85 || n == 0xA0 || n == 0x1680 ||
    (0x2000 ≤ n ∧ n ≤ 0x200A) || n == 0x2028 || n == 0x2029 || n == 0x202F || n == 0x205F ||
    n == 0x3000

/-- The characters without their leading blanks. -/
def dropBlanks (cs : List Char) : List Char := cs.dropWhile isBlank

/-- The characters without leading and trailing blanks. -/
def trimChars (cs : List Char) : List Char := (dropBlanks (dropBlanks cs).reverse).reverse

/-- The text without leading and trailing blanks. -/
def trim (s : String) : String := String.ofList (trimChars s.toList)

/-- Whether a text holds only blanks, the empty text included. -/
def isBlankText (s : String) : Bool := s.toList.all isBlank

end Bistro
