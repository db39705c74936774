import Bistro.Json.Value
import Bistro.Number.FloatText

/-!
# Bistro — writing JSON text

Answers are written with object members sorted by key, `", "` between items and `": "` after
keys. Every character outside printable ASCII is escaped: the usual short escapes for quote,
backslash and the five named controls, `\uXXXX` in lower-case hexadecimal for the rest, and a
surrogate pair for characters beyond the basic plane. Doubles use their shortest text with
`NaN`, `Infinity` and `-Infinity` for the values without digits.
-/

namespace Bistro

namespace JsonWriter

/-- Four lower-case hexadecimal digits of a code unit. -/
def hex4 (n : Nat) : List Char :=
  let d := Nat.toDigits 16 n
  List.replicate (4 - d.length) '0' ++ d

/-- The escaped form of one character inside a string. -/
def escapeChar (c : Char) : List Char :=
  match c with
  | '"' => ['\\', '"']
  | '\\' => ['\\', '\\']
  | '\n' => ['\\', 'n']
  | '\r' => ['\\', 'r']
  | '\t' => ['\\', 't']
  | '\x08' => ['\\', 'b']
  | '\x0c' => ['\\', 'f']
  | _ =>
    let n := c.toNat
    if 0x20 ≤ n ∧ n ≤ 0x7E then [c]
    else if n < 0x10000 then ['\\', 'u'] ++ hex4 n
    else
      let v := n - 0x10000
      ['\\', 'u'] ++ hex4 (0xD800 + v / 0x400) ++ ['\\', 'u'] ++ hex4 (0xDC00 + v % 0x400)

/-- A string value with its quotes. -/
def quote (s : String) : String :=
  String.ofList ('"' :: (s.toList.flatMap escapeChar ++ ['"']))

/-- Insert a keyed text into a list sorted by key. -/
def insertSorted (kv : String × String) : List (String × String) → List (String × String)
  | [] => [kv]
  | x :: xs => if kv.1 < x.1 then kv :: x :: xs else x :: insertSorted kv xs

/-- Keyed texts sorted by key, equal keys in their given order. -/
def sortByKey (fs : List (String × String)) : List (String × String) :=
  fs.foldr insertSorted []

end JsonWriter

mutual

/-- The text of a JSON value in the answer format. -/
def Json.render : Json → String
  | .null => "null"
  | .bool true => "true"
  | .bool false => "false"
  | .int n => toString n
  | .float x => x.toText FloatStyle.json
  | .str s => JsonWriter.quote s
  | .arr xs => "[" ++ ", ".intercalate (Json.renderItems xs) ++ "]"
  | .obj fs =>
    "\x7b" ++ ", ".intercalate ((JsonWriter.sortByKey (Json.renderFields fs)).map fun (k, t) =>
      JsonWriter.quote k ++ ": " ++ t) ++ "\x7d"

/-- The texts of array items, in order. -/
def Json.renderItems : List Json → List String
  | [] => []
  | x :: xs => x.render :: Json.renderItems xs

/-- The texts of object members, keyed, in their stored order. -/
def Json.renderFields : List (String × Json) → List (String × String)
  | [] => []
  | (k, v) :: fs => (k, v.render) :: Json.renderFields fs

end

end Bistro
