import Bistro.Payload.Validated
import Bistro.Number.FloatText
import Bistro.Text.Space

/-!
# Bistro — checks of single payload fields

Each check takes a JSON value and gives a typed value or one problem with the standard message
of that kind of field. The conversions are lenient in the usual way of JSON services: an integer
field takes an integral double, a boolean or a numeric text; a number field takes an integer, a
boolean or a numeric text; a boolean field takes `0`, `1` and the words yes/no, on/off,
true/false and their initials in any case. A text field takes only text.
-/

namespace Bistro

namespace Field

/-- A text field. -/
def text : Json → Validated String
  | .str s => .ok s
  | _ => .here "Input should be a valid string"

/-- A field that may also be `null`. -/
def nullable {α : Type} (check : Json → Validated α) : Json → Validated (Option α)
  | .null => .ok none
  | j => some <$> check j

/-- Whether a character is a blank in the sense of number texts. -/
def isNumberBlank (c : Char) : Bool :=
  let n := c.toNat
  (0x09 ≤ n ∧ n ≤ 0x0D) || n == 0x20 || n == 0x85 || n == 0xA0 || n == 0x1680 ||
    (0x2000 ≤ n ∧ n ≤ 0x200A) || n == 0x2028 || n == 0x2029 || n == 0x202F || n == 0x205F ||
    n == 0x3000

/-- A text without the blanks around it. -/
def trimNumberText (s : String) : List Char :=
  ((s.toList.dropWhile isNumberBlank).reverse.dropWhile isNumberBlank).reverse

/-- The integer of a text: an optional sign and decimal digits, optionally followed by a point
and zeros only. -/
def intOfText? (s : String) : Option Int :=
  let cs := trimNumberText s
  let cs := match cs.findIdx? (· == '.') with
    | some i => if (cs.drop (i + 1)).all (· == '0') then cs.take i else cs
    | none => cs
  let (neg, ds) := match cs with
    | '-' :: r => (true, r)
    | '+' :: r => (false, r)
    | r => (false, r)
  if ds.isEmpty || !ds.all Char.isDigit then none
  else
    let v : Int := digitsValue ds
    some (if neg then -v else v)

/-- The double of a number text: an optional sign, then `inf`, `infinity` or `nan` in any
case, or digits with an optional point and an optional exponent. -/
def floatOfText? (s : String) : Option Binary64 :=
  let cs := trimNumberText s
  let (neg, body) := match cs with
    | '-' :: r => (true, r)
    | '+' :: r => (false, r)
    | r => (false, r)
  let low := body.map Char.toLower
  if low = "inf".toList ∨ low = "infinity".toList then some (.infinite neg)
  else if low = "nan".toList then some .nan
  else
    let intPart := body.takeWhile Char.isDigit
    let rest := body.drop intPart.length
    let (fracPart, rest) := match rest with
      | '.' :: r => (r.takeWhile Char.isDigit, r.dropWhile Char.isDigit)
      | r => ([], r)
    if intPart.isEmpty && fracPart.isEmpty then none
    else
      let expPart : Option Int := match rest with
        | [] => some 0
        | m :: r =>
          if m = 'e' ∨ m = 'E' then
            let (eneg, ds) := match r with
              | '-' :: d => (true, d)
              | '+' :: d => (false, d)
              | d => (false, d)
            if ds.isEmpty || !ds.all Char.isDigit then none
            else
              let v : Int := digitsValue ds
              some (if eneg then -v else v)
          else none
      expPart.map fun e =>
        Binary64.ofDecimal neg (digitsValue (intPart ++ fracPart)) (e - fracPart.length)

/-- Whether a finite double has no fractional part. -/
def isIntegral (x : Binary64) : Bool :=
  match x.parts? with
  | some (_, s, q) => 0 ≤ q || s % Nat.pow 2 (-q).toNat == 0
  | none => false

/-- The integer value of an integral finite double. -/
def integralValue (x : Binary64) : Int :=
  match x.parts? with
  | some (n, s, q) =>
    let m : Int := if 0 ≤ q then (s * Nat.pow 2 q.toNat : Nat) else (s / Nat.pow 2 (-q).toNat : Nat)
    if n then -m else m
  | none => 0

/-- An integer field. -/
def integer : Json → Validated Int
  | .int n => .ok n
  | .bool b => .ok (if b then 1 else 0)
  | .float x =>
    if !x.isFinite then .here "Input should be a finite number"
    else if isIntegral x then .ok (integralValue x)
    else .here "Input should be a valid integer, got a number with a fractional part"
  | .str s =>
    match intOfText? s with
    | some n => .ok n
    | none => .here "Input should be a valid integer, unable to parse string as an integer"
  | _ => .here "Input should be a valid integer"

/-- A number field, read as a double. -/
def number : Json → Validated Binary64
  | .float x => .ok x
  | .int n => .ok (Binary64.ofInt n)
  | .bool b => .ok (Binary64.ofInt (if b then 1 else 0))
  | .str s =>
    match floatOfText? s with
    | some x => .ok x
    | none => .here "Input should be a valid number, unable to parse string as a number"
  | _ => .here "Input should be a valid number"

/-- The words read as `false`. -/
def falseWords : List String := ["0", "f", "n", "no", "off", "false"]

/-- The words read as `true`. -/
def trueWords : List String := ["1", "t", "y", "on", "yes", "true"]

/-- A boolean field. -/
def flag : Json → Validated Bool
  | .bool b => .ok b
  | .int n =>
    if n = 0 then .ok false else if n = 1 then .ok true
    else .here "Input should be a valid boolean, unable to interpret input"
  | .float x =>
    if x.isFinite && isIntegral x && integralValue x = 0 then .ok false
    else if x.isFinite && isIntegral x && integralValue x = 1 then .ok true
    else .here "Input should be a valid boolean, unable to interpret input"
  | .str s =>
    let w := String.map Char.toLower s
    if falseWords.contains w then .ok false
    else if trueWords.contains w then .ok true
    else .here "Input should be a valid boolean, unable to interpret input"
  | _ => .here "Input should be a valid boolean"

/-- The values of a choice field quoted and listed: `'A'`, `'A' or 'B'`, `'A', 'B' or 'C'`. -/
def choiceList (values : List String) : String :=
  let quoted := values.map fun v => "'" ++ v ++ "'"
  match quoted.reverse with
  | [] => ""
  | [x] => x
  | last :: init => ", ".intercalate init.reverse ++ " or " ++ last

/-- A field whose text must be one of `values`. -/
def choice (values : List String) (j : Json) : Validated String :=
  match j with
  | .str s => if values.contains s then .ok s else .here ("Input should be " ++ choiceList values)
  | _ => .here ("Input should be " ++ choiceList values)

/-- A list field. -/
def list {α : Type} (check : Json → Validated α) : Json → Validated (List α)
  | .arr xs => validateList check xs
  | _ => .here "Input should be a valid list"

/-- An object field holding any members. -/
def dict : Json → Validated (List (String × Json))
  | .obj fs => .ok fs
  | _ => .here "Input should be a valid dictionary"

/-- The noun of a length limit: one character, many characters. -/
def characters (n : Nat) : String := if n = 1 then "character" else "characters"

/-- A text of at least `n` characters. -/
def minLength (n : Nat) (s : String) : Validated String :=
  if s.length < n then .here ("String should have at least " ++ toString n ++ " " ++ characters n)
  else .ok s

/-- A text of at most `n` characters. -/
def maxLength (n : Nat) (s : String) : Validated String :=
  if s.length > n then .here ("String should have at most " ++ toString n ++ " " ++ characters n)
  else .ok s

/-- A text field with length limits. -/
def boundedText (lo : Nat) (hi : Option Nat) (j : Json) : Validated String :=
  (text j).andThen fun s =>
    (minLength lo s).andThen fun s =>
      match hi with
      | some h => maxLength h s
      | none => .ok s

/-- The noun of an item count. -/
def items (n : Nat) : String := if n = 1 then "item" else "items"

/-- A list of at least `n` items. -/
def minItems {α : Type} (n : Nat) (xs : List α) : Validated (List α) :=
  if xs.length < n then
    .here ("List should have at least " ++ toString n ++ " " ++ items n ++ " after validation, not " ++
      toString xs.length)
  else .ok xs

/-- An integer at least `lo`. -/
def atLeast (lo : Int) (n : Int) : Validated Int :=
  if n < lo then .here ("Input should be greater than or equal to " ++ toString lo) else .ok n

/-- An integer at most `hi`. -/
def atMost (hi : Int) (n : Int) : Validated Int :=
  if n > hi then .here ("Input should be less than or equal to " ++ toString hi) else .ok n

/-- A number not below `lo`; a NaN is below everything. -/
def numberAtLeast (lo : Int) (x : Binary64) : Validated Binary64 :=
  if Binary64.le (Binary64.ofInt lo) x then .ok x
  else .here ("Input should be greater than or equal to " ++ toString lo)

/-- A number above `lo`; a NaN is not. -/
def numberAbove (lo : Int) (x : Binary64) : Validated Binary64 :=
  if Binary64.lt (Binary64.ofInt lo) x then .ok x
  else .here ("Input should be greater than " ++ toString lo)

/-- A nested object, checked by `check` on its members. -/
def model {α : Type} (check : List (String × Json) → Validated α) : Json → Validated α
  | .obj fs => check fs
  | _ => .here "Input should be a valid dictionary or object to extract fields from"

/-- The member `key`: checked when present, `default` when absent, and a problem when absent
without a default. Its problems are placed under the key. -/
def member {α : Type} (fs : List (String × Json)) (key : String) (check : Json → Validated α)
    (default : Option α) : Validated α :=
  match fs.lookup key, default with
  | some j, _ => (check j).under (.key key)
  | none, some d => .ok d
  | none, none => Validated.here "Field required" |>.under (.key key)

/-- A required member. -/
def required {α : Type} (fs : List (String × Json)) (key : String) (check : Json → Validated α) :
    Validated α :=
  member fs key check none

/-- An optional member: absent and `null` are both `none`. -/
def optional {α : Type} (fs : List (String × Json)) (key : String) (check : Json → Validated α) :
    Validated (Option α) :=
  member fs key (nullable check) (some none)

/-- A member with a default for when it is absent. -/
def withDefault {α : Type} (fs : List (String × Json)) (key : String) (check : Json → Validated α)
    (d : α) : Validated α :=
  member fs key check (some d)

/-- A check that runs after the type check and reports a rejected value as a value error. -/
def refine {α β : Type} (check : Json → Validated α) (f : α → Except String β) (j : Json) :
    Validated β :=
  (check j).andThen fun a =>
    match f a with
    | .ok b => .ok b
    | .error msg => .here ("Value error, " ++ msg)

end Field

end Bistro
