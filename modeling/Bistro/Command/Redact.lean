import Bistro.Json.Value
import Bistro.Text.Base64
import Bistro.Text.Digit

/-!
# Bistro — redacting answers

Answers hide what depends on chance or time: an embedded PNG becomes its pixel size, a signed
token becomes `<jwt>`, the random part of an invoice number becomes `XXXXXXXX`, and each UUID
becomes `<id N>`, numbered by first appearance. A run of 32 lower-case hexadecimal digits that
touches no other letter or digit is a UUID without its hyphens and gets that UUID's number.

The answer is walked with object members in key order, each key before its value, and arrays in
order, so the numbering does not depend on how members happen to be stored.
-/

namespace Bistro

namespace Redact

/-- The UUIDs met so far, in order of first appearance. -/
abbrev IdTable := List String

/-- The number of a UUID, adding it to the table when new. -/
def number (t : IdTable) (u : String) : Nat × IdTable :=
  match t.idxOf? u with
  | some i => (i + 1, t)
  | none => (t.length + 1, t ++ [u])

/-- The text `<id N>`. -/
def idText (n : Nat) : List Char := ("<id " ++ toString n ++ ">").toList

/-- A lower-case hexadecimal digit. -/
def isHex (c : Char) : Bool := c.isDigit || ('a' ≤ c && c ≤ 'f')

/-- A letter or digit of ASCII. -/
def isAlnum (c : Char) : Bool := c.isDigit || ('a' ≤ c && c ≤ 'z') || ('A' ≤ c && c ≤ 'Z')

/-- A character of a token segment. -/
def isTokenChar (c : Char) : Bool := isAlnum c || c == '_' || c == '-'

/-- The length of a UUID at the start of the characters, if one is there. -/
def uuidAt (cs : List Char) : Bool :=
  let rec groups : List Nat → List Char → Bool
    | [], _ => true
    | [n], r => (r.take n).length == n && (r.take n).all isHex
    | n :: ns, r =>
      (r.take n).length == n && (r.take n).all isHex && (r.drop n).head? == some '-' &&
        groups ns (r.drop (n + 1))
  groups [8, 4, 4, 4, 12] cs

/-- Replace every UUID, numbering new ones. -/
def replaceUuids (t : IdTable) : List Char → List Char × IdTable
  | [] => ([], t)
  | c :: r =>
    if uuidAt (c :: r) then
      let (n, t') := number t (String.ofList ((c :: r).take 36))
      let (rest, t'') := replaceUuids t' ((c :: r).drop 36)
      (idText n ++ rest, t'')
    else
      let (rest, t') := replaceUuids t r
      (c :: rest, t')
termination_by cs => cs.length
decreasing_by all_goals (simp only [List.length_cons, List.length_drop]; omega)

/-- A hexadecimal run as the UUID it spells. -/
def uuidOfHex (h : List Char) : String :=
  String.ofList (h.take 8 ++ ['-'] ++ (h.drop 8).take 4 ++ ['-'] ++ (h.drop 12).take 4 ++ ['-'] ++
    (h.drop 16).take 4 ++ ['-'] ++ h.drop 20)

/-- Replace every isolated run of 32 hexadecimal digits; `prevAlnum` says whether the character
before the rest was a letter or digit. -/
def replaceHexRuns (t : IdTable) (prevAlnum : Bool) : List Char → List Char × IdTable
  | [] => ([], t)
  | c :: r =>
    let run := (c :: r).take 32
    let after := (c :: r).drop 32
    let fits := !prevAlnum && run.length == 32 && run.all isHex &&
      (match after.head? with | some d => !isAlnum d | none => true)
    if fits then
      let (n, t') := number t (uuidOfHex run)
      let (rest, t'') := replaceHexRuns t' false after
      (idText n ++ rest, t'')
    else
      let (rest, t') := replaceHexRuns t (isAlnum c) r
      (c :: rest, t')
termination_by cs => cs.length
decreasing_by all_goals (simp only [List.length_cons, List.length_drop]; omega)

/-- The length of a signed token at the start of the characters: `eyJ`, a segment, a dot, a
non-empty segment, a dot and a non-empty segment. -/
def tokenLength (cs : List Char) : Option Nat :=
  if "eyJ".toList.isPrefixOf cs then
    let r := cs.drop 3
    let a := (r.takeWhile isTokenChar).length
    match r.drop a with
    | '.' :: r2 =>
      let b := (r2.takeWhile isTokenChar).length
      match r2.drop b with
      | '.' :: r3 =>
        let c := (r3.takeWhile isTokenChar).length
        if b > 0 && c > 0 then some (3 + a + 1 + b + 1 + c) else none
      | _ => none
    | _ => none
  else none

/-- Replace every signed token by `<jwt>`. -/
def replaceTokens : List Char → List Char
  | [] => []
  | c :: r =>
    match tokenLength (c :: r) with
    | some n => "<jwt>".toList ++ replaceTokens ((c :: r).drop (max n 1))
    | none => c :: replaceTokens r
termination_by cs => cs.length
decreasing_by all_goals (simp only [List.length_cons, List.length_drop]; omega)

/-- Hide the random part of every invoice number `INV-<8 digits>-<8 hex>`. -/
def replaceInvoices : List Char → List Char
  | [] => []
  | c :: r =>
    let cs := c :: r
    let digits := (cs.drop 4).take 8
    let tail := (cs.drop 13).take 8
    if "INV-".toList.isPrefixOf cs && digits.length == 8 && digits.all isDecimalDigit &&
        (cs.drop 12).head? == some '-' && tail.length == 8 &&
        tail.all (fun d => d.isDigit || ('A' ≤ d && d ≤ 'F')) then
      "INV-".toList ++ digits ++ "-XXXXXXXX".toList ++ replaceInvoices (cs.drop 21)
    else c :: replaceInvoices r
termination_by cs => cs.length
decreasing_by all_goals (simp only [List.length_cons, List.length_drop]; omega)

/-- The pixel size of an embedded PNG: the width and height of its header chunk. -/
def pngSize? (data : String) : Option (Nat × Nat) := do
  let bytes ← base64Decode? false data
  let sig := [0x89, 0x50, 0x4E, 0x47, 0x0D, 0x0A, 0x1A, 0x0A]
  if bytes.take 8 != sig || (bytes.drop 12).take 4 != [0x49, 0x48, 0x44, 0x52] || bytes.length < 24 then
    none
  else
    let word (i : Nat) := (bytes.drop i).take 4 |>.foldl (fun acc b => acc * 256 + b) 0
    pure (word 16, word 20)

/-- The prefix of an embedded PNG. -/
def pngPrefix : String := "data:image/png;base64,"

/-- Redact one text. -/
def text (t : IdTable) (s : String) : String × IdTable :=
  if pngPrefix.toList.isPrefixOf s.toList then
    match pngSize? (String.ofList (s.toList.drop pngPrefix.length)) with
    | some (w, h) => ("<png " ++ toString w ++ "x" ++ toString h ++ ">", t)
    | none => ("<png invalid>", t)
  else
    let cs := replaceInvoices (replaceTokens s.toList)
    let (cs, t) := replaceUuids t cs
    let (cs, t) := replaceHexRuns t false cs
    (String.ofList cs, t)

/-- Insert a member into a list sorted by key. -/
def insertByKey (kv : String × Json) : List (String × Json) → List (String × Json)
  | [] => [kv]
  | x :: xs => if kv.1 < x.1 then kv :: x :: xs else x :: insertByKey kv xs

mutual

/-- Redact a value. -/
def value (t : IdTable) : Json → Json × IdTable
  | .str s => let (s', t') := text t s; (.str s', t')
  | .arr xs => let (ys, t') := items t xs; (.arr ys, t')
  | .obj fs =>
    let (gs, t') := members t fs
    (.obj gs, t')
  | j => (j, t)

/-- Redact array items in order. -/
def items (t : IdTable) : List Json → List Json × IdTable
  | [] => ([], t)
  | x :: xs =>
    let (y, t1) := value t x
    let (ys, t2) := items t1 xs
    (y :: ys, t2)

/-- Redact object members, each key before its value; the members must already be in key
order. -/
def members (t : IdTable) : List (String × Json) → List (String × Json) × IdTable
  | [] => ([], t)
  | (k, v) :: fs =>
    let (k', t1) := text t k
    let (v', t2) := value t1 v
    let (rest, t3) := members t2 fs
    ((k', v') :: rest, t3)

end

/-- Sort every object's members by key, all the way down. -/
def sortKeys : Json → Json
  | .arr xs => .arr (sortItems xs)
  | .obj fs => .obj ((sortFields fs).foldr insertByKey [])
  | j => j
where
  sortItems : List Json → List Json
    | [] => []
    | x :: xs => sortKeys x :: sortItems xs
  sortFields : List (String × Json) → List (String × Json)
    | [] => []
    | (k, v) :: fs => (k, sortKeys v) :: sortFields fs

end Redact

/-- Redact a whole answer with a fresh numbering of UUIDs. -/
def redactAnswer (j : Json) : Json := (Redact.value [] (Redact.sortKeys j)).1

end Bistro
