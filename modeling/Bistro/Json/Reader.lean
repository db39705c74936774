import Bistro.Json.Value
import Bistro.Number.FloatText

/-!
# Bistro — reading JSON text

The reader accepts standard JSON plus the three constants `NaN`, `Infinity` and `-Infinity`.
A failure names what was expected and the character offset where reading stopped: the start
of a value that is missing, of a delimiter that is wrong, or the opening quote of a string
that never ends. Blanks between tokens are space, tab, line feed and carriage return.
-/

namespace Bistro

/-- Why a text is not a JSON document, and the character offset where that was found. -/
structure JsonError where
  message : String
  offset : Nat
  deriving Repr, DecidableEq

namespace JsonReader

/-- The characters that may separate tokens. -/
def isSep (c : Char) : Bool := c == ' ' || c == '\t' || c == '\n' || c == '\r'

/-- Input still to read, with the offset of its first character. -/
structure Cursor where
  rest : List Char
  pos : Nat

/-- Skip separators. -/
def skip (c : Cursor) : Cursor :=
  let n := (c.rest.takeWhile isSep).length
  ⟨c.rest.drop n, c.pos + n⟩

/-- Advance past `n` characters. -/
def advance (c : Cursor) (n : Nat) : Cursor := ⟨c.rest.drop n, c.pos + n⟩

/-- The result of reading one piece: the value and the cursor after it. -/
abbrev Step (α : Type) := Except JsonError (α × Cursor)

/-- The value of one hexadecimal digit. -/
def hexValue? (c : Char) : Option Nat :=
  if '0' ≤ c ∧ c ≤ '9' then some (c.toNat - '0'.toNat)
  else if 'a' ≤ c ∧ c ≤ 'f' then some (c.toNat - 'a'.toNat + 10)
  else if 'A' ≤ c ∧ c ≤ 'F' then some (c.toNat - 'A'.toNat + 10)
  else none

/-- The value of four hexadecimal digits. -/
def hex4? (cs : List Char) : Option Nat :=
  match cs with
  | [a, b, c, d] => do
    let a ← hexValue? a
    let b ← hexValue? b
    let c ← hexValue? c
    let d ← hexValue? d
    pure (((a * 16 + b) * 16 + c) * 16 + d)
  | _ => none

/-- The character with code point `n`; a lone surrogate becomes the replacement character. -/
def charOf (n : Nat) : Char :=
  if n < 0xD800 ∨ (0xDFFF < n ∧ n < 0x110000) then Char.ofNat n else '�'

/-- Read the characters of a string after its opening quote at offset `begin`, until the
closing quote. Each round consumes at least one character, so `fuel` of the input length
suffices. -/
def stringBody (begin : Nat) : Nat → Cursor → List Char → Step String
  | 0, _, _ => .error ⟨"Unterminated string starting at", begin⟩
  | fuel + 1, c, acc =>
    match c.rest with
    | [] => .error ⟨"Unterminated string starting at", begin⟩
    | '"' :: _ => .ok (String.ofList acc.reverse, advance c 1)
    | '\\' :: r =>
      match r with
      | [] => .error ⟨"Unterminated string starting at", begin⟩
      | 'u' :: r' =>
        -- four digits and at least one more character must follow
        if r'.length ≤ 4 then .error ⟨"Invalid \\uXXXX escape", c.pos + 1⟩
        else
          match hex4? (r'.take 4) with
          | none => .error ⟨"Invalid \\uXXXX escape", c.pos + 1⟩
          | some hi =>
            let after := r'.drop 4
            let pairLow : Option Nat :=
              if 0xD800 ≤ hi ∧ hi ≤ 0xDBFF ∧ after.length > 6 then
                match after with
                | '\\' :: 'u' :: more => hex4? (more.take 4)
                | _ => none
              else none
            match pairLow with
            | some lo =>
              if 0xDC00 ≤ lo ∧ lo ≤ 0xDFFF then
                let cp := 0x10000 + (hi - 0xD800) * 0x400 + (lo - 0xDC00)
                stringBody begin fuel (advance c 12) (charOf cp :: acc)
              else stringBody begin fuel (advance c 6) (charOf hi :: acc)
            | none =>
              if 0xD800 ≤ hi ∧ hi ≤ 0xDBFF ∧ after.length > 6 then
                match after with
                | '\\' :: 'u' :: _ => .error ⟨"Invalid \\uXXXX escape", c.pos + 7⟩
                | _ => stringBody begin fuel (advance c 6) (charOf hi :: acc)
              else stringBody begin fuel (advance c 6) (charOf hi :: acc)
      | e :: _ =>
        let decoded : Option Char :=
          match e with
          | '"' => some '"'
          | '\\' => some '\\'
          | '/' => some '/'
          | 'b' => some '\x08'
          | 'f' => some '\x0c'
          | 'n' => some '\n'
          | 'r' => some '\r'
          | 't' => some '\t'
          | _ => none
        match decoded with
        | some ch => stringBody begin fuel (advance c 2) (ch :: acc)
        | none => .error ⟨"Invalid \\escape", c.pos⟩
    | ch :: _ =>
      if ch.toNat ≤ 0x1F then .error ⟨"Invalid control character at", c.pos⟩
      else stringBody begin fuel (advance c 1) (ch :: acc)

/-- Read a string whose opening quote is at the cursor. -/
def string (c : Cursor) : Step String :=
  stringBody c.pos (c.rest.length + 1) (advance c 1) []

/-- Read a number at the cursor: an optional minus, an integer part without leading zeros, an
optional fraction with at least one digit and an optional exponent with at least one digit;
an exponent mark without digits is left unread. A number with a fraction or an exponent is a
double. -/
def number (c : Cursor) : Step Json :=
  let (neg, r) := match c.rest with
    | '-' :: r => (true, r)
    | r => (false, r)
  let intDigits : List Char := match r with
    | '0' :: _ => ['0']
    | d :: more => if '1' ≤ d ∧ d ≤ '9' then d :: more.takeWhile Char.isDigit else []
    | [] => []
  if intDigits.isEmpty then .error ⟨"Expecting value", c.pos⟩
  else
    let r := r.drop intDigits.length
    let fracDigits : List Char := match r with
      | '.' :: d :: more => if d.isDigit then d :: more.takeWhile Char.isDigit else []
      | _ => []
    let r := if fracDigits.isEmpty then r else r.drop (fracDigits.length + 1)
    let expPart : Option (Int × Nat) := match r with
      | m :: more =>
        if m = 'e' ∨ m = 'E' then
          let (eneg, signLen, ds) := match more with
            | '-' :: d => (true, 1, d.takeWhile Char.isDigit)
            | '+' :: d => (false, 1, d.takeWhile Char.isDigit)
            | d => (false, 0, d.takeWhile Char.isDigit)
          if ds.isEmpty then none
          else
            let v : Int := digitsValue ds
            some (if eneg then -v else v, 1 + signLen + ds.length)
        else none
      | [] => none
    let used := (if neg then 1 else 0) + intDigits.length +
      (if fracDigits.isEmpty then 0 else fracDigits.length + 1) +
      (match expPart with | some (_, n) => n | none => 0)
    let after := advance c used
    if fracDigits.isEmpty ∧ expPart.isNone then
      let v : Int := digitsValue intDigits
      .ok (.int (if neg then -v else v), after)
    else
      let e : Int := (match expPart with | some (e, _) => e | none => 0) - fracDigits.length
      .ok (.float (Binary64.ofDecimal neg (digitsValue (intDigits ++ fracDigits)) e), after)

/-- Whether the input at the cursor starts with the characters of `w`. -/
def startsWith (c : Cursor) (w : String) : Bool := w.toList.isPrefixOf c.rest

mutual

/-- Read one value at the cursor; `fuel` bounds the nesting depth. -/
def value : Nat → Cursor → Step Json
  | 0, c => .error ⟨"Expecting value", c.pos⟩
  | fuel + 1, c =>
    match c.rest with
    | [] => .error ⟨"Expecting value", c.pos⟩
    | '"' :: _ => (string c).map fun (s, c') => (.str s, c')
    | '{' :: _ => members fuel (skip (advance c 1)) [] true
    | '[' :: _ => items fuel (skip (advance c 1)) [] true
    | _ =>
      if startsWith c "null" then .ok (.null, advance c 4)
      else if startsWith c "true" then .ok (.bool true, advance c 4)
      else if startsWith c "false" then .ok (.bool false, advance c 5)
      else if startsWith c "NaN" then .ok (.float .nan, advance c 3)
      else if startsWith c "Infinity" then .ok (.float (.infinite false), advance c 8)
      else if startsWith c "-Infinity" then .ok (.float (.infinite true), advance c 9)
      else number c

/-- Read the members of an object after its opening brace and any separators; `first` says
that no member has been read yet, so a closing brace may end an empty object. -/
def members : Nat → Cursor → List (String × Json) → Bool → Step Json
  | 0, c, _, _ => .error ⟨"Expecting value", c.pos⟩
  | fuel + 1, c, acc, first =>
    match c.rest with
    | '}' :: _ =>
      if first then .ok (Json.ofFields acc.reverse, advance c 1)
      else .error ⟨"Expecting property name enclosed in double quotes", c.pos⟩
    | '"' :: _ =>
      match string c with
      | .error e => .error e
      | .ok (k, c1) =>
        let c2 := skip c1
        match c2.rest with
        | ':' :: _ =>
          match value fuel (skip (advance c2 1)) with
          | .error e => .error e
          | .ok (v, c3) =>
            let c4 := skip c3
            match c4.rest with
            | '}' :: _ => .ok (Json.ofFields ((k, v) :: acc).reverse, advance c4 1)
            | ',' :: _ => members fuel (skip (advance c4 1)) ((k, v) :: acc) false
            | _ => .error ⟨"Expecting ',' delimiter", c4.pos⟩
        | _ => .error ⟨"Expecting ':' delimiter", c2.pos⟩
    | _ => .error ⟨"Expecting property name enclosed in double quotes", c.pos⟩

/-- Read the items of an array after its opening bracket and any separators. -/
def items : Nat → Cursor → List Json → Bool → Step Json
  | 0, c, _, _ => .error ⟨"Expecting value", c.pos⟩
  | fuel + 1, c, acc, first =>
    match c.rest with
    | ']' :: _ =>
      if first then .ok (.arr [], advance c 1) else .error ⟨"Expecting value", c.pos⟩
    | _ =>
      match value fuel c with
      | .error e => .error e
      | .ok (v, c1) =>
        let c2 := skip c1
        match c2.rest with
        | ']' :: _ => .ok (.arr (v :: acc).reverse, advance c2 1)
        | ',' :: _ => items fuel (skip (advance c2 1)) (v :: acc) false
        | _ => .error ⟨"Expecting ',' delimiter", c2.pos⟩

end

end JsonReader

/-- Read a whole JSON document: one value, with separators allowed around it and nothing
else after it. -/
def Json.parse (s : String) : Except JsonError Json :=
  let cs := s.toList
  if cs.head? = some '﻿' then .error ⟨"Unexpected UTF-8 BOM (decode using utf-8-sig)", 0⟩
  else
    let c := JsonReader.skip ⟨cs, 0⟩
    -- nesting uses at least two characters per level
    match JsonReader.value (cs.length + 1) c with
    | .error e => .error e
    | .ok (v, c') =>
      let c'' := JsonReader.skip c'
      if c''.rest.isEmpty then .ok v else .error ⟨"Extra data", c''.pos⟩

end Bistro
