import Bistro.Json.Value

/-!
# Bistro — validated payloads

A payload is checked field by field, and every failing field reports, so one answer lists all
problems of a request. `Validated` is the result of such a check: a value, or the problems,
each with the location of the offending field (member names and list positions from the top of
the payload) and a message. Combining checks with `<*>` keeps the problems of both sides, in
field order.
-/

namespace Bistro

/-- One step of a location inside a payload: a member name or a list position. -/
inductive PathStep where
  | key (name : String)
  | index (i : Nat)
  deriving DecidableEq, Repr

/-- The text of a location step. -/
def PathStep.text : PathStep → String
  | .key k => k
  | .index i => toString i

/-- A problem with one field of a payload. -/
structure FieldError where
  loc : List PathStep
  msg : String
  deriving DecidableEq, Repr

/-- The text `loc: msg` of a problem, the location joined by dots. -/
def FieldError.text (e : FieldError) : String :=
  ".".intercalate (e.loc.map PathStep.text) ++ ": " ++ e.msg

/-- The result of checking a payload. -/
inductive Validated (α : Type) where
  | ok (a : α)
  | fail (errors : List FieldError)
  deriving Repr

namespace Validated

/-- Apply a function to a checked value. -/
def map {α β : Type} (f : α → β) : Validated α → Validated β
  | .ok a => .ok (f a)
  | .fail e => .fail e

/-- Continue with a check that needs the value; its problems replace nothing, as there are no
earlier ones. -/
def andThen {α β : Type} : Validated α → (α → Validated β) → Validated β
  | .ok a, f => f a
  | .fail e, _ => .fail e

/-- The problems, if any. -/
def errors {α : Type} : Validated α → List FieldError
  | .ok _ => []
  | .fail e => e

/-- A single problem at the top of the value being checked. -/
def here {α : Type} (msg : String) : Validated α := .fail [⟨[], msg⟩]

/-- Put every location under one more step. -/
def under {α : Type} (step : PathStep) : Validated α → Validated α
  | .ok a => .ok a
  | .fail e => .fail (e.map fun x => { x with loc := step :: x.loc })

/-- The value, or the problems as an `Except`. -/
def toExcept {α : Type} : Validated α → Except (List FieldError) α
  | .ok a => .ok a
  | .fail e => .error e

end Validated

instance : Functor Validated where
  map := Validated.map

instance : Applicative Validated where
  pure := .ok
  seq f x :=
    match f, x () with
    | .ok g, .ok a => .ok (g a)
    | .ok _, .fail e => .fail e
    | .fail e, .ok _ => .fail e
    | .fail e₁, .fail e₂ => .fail (e₁ ++ e₂)

/-- Check every item of a list, each under its position. -/
def validateList {α : Type} (check : Json → Validated α) (xs : List Json) : Validated (List α) :=
  let rec go : Nat → List Json → Validated (List α)
    | _, [] => .ok []
    | i, x :: rest => List.cons <$> (check x).under (.index i) <*> go (i + 1) rest
  go 0 xs

end Bistro
