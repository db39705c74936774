import Bistro.Http.Message
import Bistro.Store.Session
import Bistro.Payload.Field
import Bistro.Json.Reader

/-!
# Bistro — reading request parameters

A route reads query parameters, a JSON body or form fields. A query parameter given twice counts
by its last value and an absent one takes its default. A route with a JSON body reads it first:
a body that is not JSON stops the request before anything else, an empty body is a missing one,
and a body of another kind is a value that is no object.

A form field that is empty counts as absent. A file whose name is empty arrives as a plain
field holding the file's content.

The problems of all parameters are collected and answered together, each as `loc: message` with
the location of the parameter inside the query or the body, or `request` for the body itself.
-/

namespace Bistro

/-- The body of a request as a route that reads JSON sees it. -/
inductive Payload where
  | missing
  | document (value : Json)
  /-- A body that is not JSON text. -/
  | other
  deriving Repr

/-- The value of a form field. -/
inductive FormValue where
  | text (s : String)
  | file (u : Upload)
  deriving Repr

namespace Input

/-- The text of a problem as a 400 answer lists it. -/
def problemText (e : FieldError) : String :=
  (if e.loc.isEmpty then "request" else ".".intercalate (e.loc.map PathStep.text)) ++ ": " ++ e.msg

/-- Take a checked value, or stop the request with all its problems. -/
def accept {α : Type} : Validated α → Txn α
  | .ok a => pure a
  | .fail es => Txn.fail (.invalid (es.map problemText))

/-- The last value of a query parameter. -/
def queryValue? (r : Request) (name : String) : Option String :=
  ((r.query.filter (·.1 == name)).getLast?).map (·.2)

/-- A query parameter checked as a text value, `default` when absent. -/
def query {α : Type} (r : Request) (name : String) (check : Json → Validated α) (default : α) :
    Validated α :=
  match queryValue? r name with
  | some v => (check (.str v)).under (.key name)
  | none => .ok default

/-- An optional query parameter. -/
def query? {α : Type} (r : Request) (name : String) (check : Json → Validated α) :
    Validated (Option α) :=
  query r name (fun j => some <$> check j) none

/-- A page number or size from the query: an integer of at least one, at most `hi` when given. -/
def pageParam (r : Request) (name : String) (hi : Option Int) (default : Int) : Validated Int :=
  query r name (fun j => (Field.integer j).andThen fun n =>
    (Field.atLeast 1 n).andThen fun n => match hi with
      | some h => Field.atMost h n
      | none => .ok n) default

/-- A text without a leading byte-order mark. -/
def dropMark (s : String) : String :=
  match s.toList with
  | '﻿' :: rest => String.ofList rest
  | _ => s

/-- The body of a route that reads JSON. A text that is not JSON stops the request. -/
def payload (r : Request) : Txn Payload :=
  match r.body with
  | .empty => pure .missing
  | .json j => pure (.document j)
  | .raw t =>
    if t.isEmpty then pure .missing
    else match Json.parse (dropMark t) with
      | .ok j => pure (.document j)
      | .error e => Txn.fail (.invalid [toString e.offset ++ ": JSON decode error"])
  | .form fs => pure (if fs.isEmpty then .missing else .other)
  | .multipart _ _ => pure .other

/-- The body checked as an object with `check`. -/
def model {α : Type} (p : Payload) (check : List (String × Json) → Validated α) : Validated α :=
  match p with
  | .missing => .here "Field required"
  | .document (.obj fs) => check fs
  | _ => .here "Input should be a valid dictionary or object to extract fields from"

/-- The fields of a form body, files included. -/
def formValues (r : Request) : List (String × FormValue) :=
  match r.body with
  | .form fs => fs.map fun (k, v) => (k, .text v)
  | .multipart fs files =>
    fs.map (fun (k, v) => (k, FormValue.text v)) ++
      files.map fun (k, u) => (k, if u.filename.isEmpty then .text u.data else .file u)
  | _ => []

/-- The last value of a form field, an empty text counting as absent. -/
def formValue? (r : Request) (name : String) : Option FormValue :=
  match ((formValues r).filter (·.1 == name)).getLast? with
  | some (_, .text "") => none
  | some (_, v) => some v
  | none => none

/-- A form field read as text, checked by `check`; `default` when absent, a problem when absent
without a default. -/
def formField {α : Type} (r : Request) (name : String) (check : Json → Validated α)
    (default : Option α) : Validated α :=
  let here : Validated α := match formValue? r name, default with
    | some (.text s), _ => check (.str s)
    | some (.file _), _ => .here "Input should be a valid string"
    | none, some d => .ok d
    | none, none => .here "Field required"
  here.under (.key name)

/-- An optional form field read as text. -/
def formField? {α : Type} (r : Request) (name : String) (check : Json → Validated α) :
    Validated (Option α) :=
  formField r name (fun j => some <$> check j) (some none)

/-- The message of a form field that should hold a file and holds text. -/
def notAFile : String := "Value error, Expected UploadFile, received: <class 'str'>"

/-- An optional file field. -/
def formFile? (r : Request) (name : String) : Validated (Option Upload) :=
  let here : Validated (Option Upload) := match formValue? r name with
    | some (.file u) => .ok (some u)
    | some (.text _) => .here notAFile
    | none => .ok none
  here.under (.key name)

/-- A required file field. -/
def formFile (r : Request) (name : String) : Validated Upload :=
  let here : Validated Upload := match formValue? r name with
    | some (.file u) => .ok u
    | some (.text _) => .here notAFile
    | none => .here "Field required"
  here.under (.key name)

end Input

end Bistro
