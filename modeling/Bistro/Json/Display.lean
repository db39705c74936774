import Bistro.Json.Value
import Bistro.Number.FloatText

/-!
# Bistro — values shown inside messages

When a value is written into a message or a URL it is shown as plain text: `None`, `True`,
`False`, integers in decimal, doubles by their shortest text, texts as they are, and lists and
objects in bracket notation with their items quoted. A quoted text uses single quotes unless it
holds a single quote and no double quote, and escapes the backslash, its quote, the named
controls and characters that do not print.
-/

namespace Bistro

namespace Display

/-- Characters that do not print: controls, format characters, separators other than the
space, and private-use characters. -/
def isUnprintable (n : Nat) : Bool :=
  n < 0x20 || (0x7F ≤ n && n ≤ 0xA0) || n == 0xAD || (0x600 ≤ n && n ≤ 0x605) || n == 0x61C ||
    n == 0x6DD || n == 0x70F || n == 0x1680 || n == 0x180E || (0x2000 ≤ n && n ≤ 0x200F) ||
    (0x2028 ≤ n && n ≤ 0x202F) || (0x205F ≤ n && n ≤ 0x2064) || (0x2066 ≤ n && n ≤ 0x206F) ||
    n == 0x3000 || (0xE000 ≤ n && n ≤ 0xF8FF) || n == 0xFEFF || (0xFFF9 ≤ n && n ≤ 0xFFFB) ||
    n == 0xFFFE || n == 0xFFFF

/-- Lower-case hexadecimal digits of `n`, padded to `w` places. -/
def hexPad (w n : Nat) : List Char :=
  let d := Nat.toDigits 16 n
  List.replicate (w - d.length) '0' ++ d

/-- One character inside a quoted text. -/
def quoteChar (q : Char) (c : Char) : List Char :=
  if c = '\\' then ['\\', '\\']
  else if c = q then ['\\', q]
  else if c = '\n' then ['\\', 'n']
  else if c = '\r' then ['\\', 'r']
  else if c = '\t' then ['\\', 't']
  else
    let n := c.toNat
    if isUnprintable n then
      if n < 0x100 then ['\\', 'x'] ++ hexPad 2 n
      else if n < 0x10000 then ['\\', 'u'] ++ hexPad 4 n
      else ['\\', 'U'] ++ hexPad 8 n
    else [c]

/-- A text in quotes. -/
def quoted (s : String) : String :=
  let cs := s.toList
  let q := if cs.contains '\'' && !cs.contains '"' then '"' else '\''
  String.ofList (q :: cs.flatMap (quoteChar q) ++ [q])

end Display

mutual

/-- The quoted form of a value: texts in quotes, everything else as `Json.show`. -/
def Json.showQuoted : Json → String
  | .str s => Display.quoted s
  | .null => "None"
  | .bool true => "True"
  | .bool false => "False"
  | .int n => toString n
  | .float x => x.toText FloatStyle.plain
  | .arr xs => "[" ++ ", ".intercalate (Json.showItems xs) ++ "]"
  | .obj fs => "\x7b" ++ ", ".intercalate (Json.showFields fs) ++ "\x7d"

/-- The quoted forms of list items. -/
def Json.showItems : List Json → List String
  | [] => []
  | x :: xs => x.showQuoted :: Json.showItems xs

/-- The quoted forms of object members. -/
def Json.showFields : List (String × Json) → List String
  | [] => []
  | (k, v) :: fs => (Display.quoted k ++ ": " ++ v.showQuoted) :: Json.showFields fs

end

/-- The plain form of a value: a text as it is, everything else as its quoted form. -/
def Json.show : Json → String
  | .str s => s
  | j => j.showQuoted

end Bistro
