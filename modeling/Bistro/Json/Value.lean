import Bistro.Number.Binary64

/-!
# Bistro — JSON values

A JSON document as the service reads and writes it: integers are exact, other numbers are
doubles, and an object keeps its members in the order they were first written, a repeated key
keeping its first place and its last value.
-/

namespace Bistro

/-- A JSON value. Integers and doubles are apart, as a number written with a point or an
exponent is a double and any other is an exact integer. -/
inductive Json where
  | null
  | bool (b : Bool)
  | int (n : Int)
  | float (x : Binary64)
  | str (s : String)
  | arr (items : List Json)
  | obj (fields : List (String × Json))
  deriving Repr, Inhabited

namespace Json

/-- The members with `k` set to `v`: a present key keeps its place and takes the new value, a
new key goes last. -/
def setField (fields : List (String × Json)) (k : String) (v : Json) : List (String × Json) :=
  if fields.any (·.1 == k) then fields.map fun (a, b) => if a == k then (a, v) else (a, b)
  else fields ++ [(k, v)]

/-- An object built from members in writing order, by the rule for repeated keys. -/
def ofFields (fields : List (String × Json)) : Json :=
  .obj (fields.foldl (fun acc (k, v) => setField acc k v) [])

/-- The member `k` of an object. -/
def field? : Json → String → Option Json
  | .obj fs, k => fs.lookup k
  | _, _ => none

/-- Whether an object has the member `k`. -/
def hasField (j : Json) (k : String) : Bool := (j.field? k).isSome

/-- The text of a string value. -/
def str? : Json → Option String
  | .str s => some s
  | _ => none

/-- The items of an array. -/
def arr? : Json → Option (List Json)
  | .arr xs => some xs
  | _ => none

/-- The members of an object. -/
def obj? : Json → Option (List (String × Json))
  | .obj fs => some fs
  | _ => none

/-- Whether the value is `null`. -/
def isNull : Json → Bool
  | .null => true
  | _ => false

/-- The falsy values: `null`, `false`, the zeros, the empty text, array and object. -/
def isFalsy : Json → Bool
  | .null => true
  | .bool b => !b
  | .int n => n == 0
  | .float x => x.isZero
  | .str s => s.isEmpty
  | .arr xs => xs.isEmpty
  | .obj fs => fs.isEmpty

/-- A text value, or `null` when absent. -/
def ofOption : Option String → Json
  | some s => .str s
  | none => .null

/-- A double as a response writes it: a value that is not finite is written `null`. -/
def ofNumber (x : Binary64) : Json := if x.isFinite then .float x else .null

/-- An optional double as a response writes it. -/
def ofNumber? : Option Binary64 → Json
  | some x => ofNumber x
  | none => .null

end Json

end Bistro
