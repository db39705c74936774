import Bistro.Store.Basic

/-!
# Bistro — request sessions

A request works on a session: the store with the request's writes so far, the store as of the
last commit, the clock, the source of fresh identifiers, and the objects put in the file store. A
request that fails leaves the store as of its last commit; one that succeeds commits all its
writes. Identifiers are never
given back, so no two rows ever share one.

A `Txn` is a step of a request: it reads and writes the session and may fail with a `Fault`,
which keeps the session as it was at the failure so that the commit point survives.
-/

namespace Bistro

/-- Why a request step fails. -/
inductive Fault where
  /-- A refusal with a status and a detail for the client; `challenge` asks for a bearer token. -/
  | http (status : Nat) (detail : String) (challenge : Bool)
  /-- The request does not fit the route's parameters; one message per problem. -/
  | invalid (messages : List String)
  /-- A write broke a constraint of the store. -/
  | integrity
  /-- Anything else that stops the request. -/
  | internal
  deriving Repr

/-- A refusal with a status and a detail. -/
def Fault.refuse (status : Nat) (detail : String) : Fault := .http status detail false

/-- The state a request works on. `uploads` names the objects the file store has taken during
the request; the file store is outside the store's transaction, so a failure does not take them
back. -/
structure Session where
  store : Store
  saved : Store
  nextId : Nat
  now : Stamp
  uploads : List String := []

/-- A step of a request. -/
abbrev Txn := ExceptT Fault (StateM Session)

namespace Txn

/-- Stop the request with a fault. -/
def fail {α : Type} (f : Fault) : Txn α := throw f

/-- Stop the request with a refusal. -/
def refuse {α : Type} (status : Nat) (detail : String) : Txn α := throw (Fault.refuse status detail)

/-- Take the result of a rule, or stop the request with its refusal under `status`. -/
def ensure {α : Type} (status : Nat) : Except String α → Txn α
  | .ok a => pure a
  | .error detail => refuse status detail

/-- The time a row records: the clock without its fraction of a second, as a wall time. -/
def rowTime : Txn Stamp := do pure { (← get).now with micro := 0, offset := none }

/-- The store as the request sees it. -/
def store : Txn Store := do pure (← get).store

/-- Change the store. -/
def modifyStore (f : Store → Store) : Txn Unit := modify fun s => { s with store := f s.store }

/-- The clock of the request, a UTC wall time. -/
def now : Txn Stamp := do pure (← get).now

/-- The text of a fresh identifier `n`: a version-4 shape whose first group counts. -/
def idText (n : Nat) : String :=
  let hex := String.ofList (Nat.toDigits 16 n)
  String.ofList (List.replicate (8 - hex.length) '0') ++ hex ++ "-0000-4000-8000-000000000000"

/-- A fresh identifier. -/
def freshId : Txn String := do
  let s ← get
  set { s with nextId := s.nextId + 1 }
  pure (idText s.nextId)

/-- Make the writes so far permanent, whatever happens later in the request. -/
def commit : Txn Unit := modify fun s => { s with saved := s.store }

/-- Undo the writes since the last commit. -/
def rollback : Txn Unit := modify fun s => { s with store := s.saved }

/-- Note that the file store took an object. -/
def putObject (name : String) : Txn Unit := modify fun s => { s with uploads := s.uploads ++ [name] }

/-- Run a step and turn a broken constraint into the fault `f`, after undoing the writes since
the last commit. -/
def onIntegrity {α : Type} (step : Txn α) (f : Fault) : Txn α :=
  tryCatch step fun e => match e with
    | .integrity => do rollback; throw f
    | e => throw e

/-- The smallest and largest integers a column holds. -/
def intRange : Int × Int := (-9223372036854775808, 9223372036854775807)

/-- Check that an integer fits a column. -/
def fitsColumn (n : Int) : Txn Unit :=
  if intRange.1 ≤ n ∧ n ≤ intRange.2 then pure () else fail .internal

/-- Check that a money value can be kept: a NaN is no value, and its column takes no absence. -/
def moneyColumn (x : Binary64) : Txn Unit :=
  match x with
  | .nan => fail .integrity
  | _ => pure ()

end Txn

end Bistro
