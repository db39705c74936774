import Bistro.Access.Token
import Bistro.Access.Gate
import Bistro.Http.Input
import Bistro.Json.Display
import Bistro.Config

/-!
# Bistro — signing in with a bearer token

A guarded route reads the `Authorization` header, which must be `Bearer ` and a token. The token
must be signed with the service key, unexpired at the time the request is handled, and name a
subject (`sub`) that is not empty;
the subject, as text, must be the id of an existing user. Every failure is a 401 that asks for a
bearer token: a missing or empty header, a header of another scheme, and otherwise one message
for every kind of bad token.
-/

namespace Bistro

namespace Guard

/-- A 401 answer that asks for a bearer token. -/
def unauthorized {α : Type} (detail : String) : Txn α := Txn.fail (.http 401 detail true)

/-- Whether a claim value counts as present: not null, false, zero or empty. -/
def isPresent (j : Json) : Bool := !j.isFalsy

/-- The claims of the request's bearer token. -/
def claims (r : Request) : Txn (List (String × Json)) := do
  let header := (r.header? "Authorization").getD ""
  if header.isEmpty then unauthorized "Missing authorization header"
  else if !"Bearer ".toList.isPrefixOf header.toList then unauthorized "Invalid authorization format"
  else
    let token := trim (String.ofList (header.toList.drop 7))
    match Token.verify Config.service.secretKey r.clock token with
    | .error _ => unauthorized "Invalid or expired token"
    | .ok cs =>
      match cs.lookup "sub" with
      | some sub => if isPresent sub then pure cs else unauthorized "Invalid or expired token"
      | none => unauthorized "Invalid or expired token"

/-- The signed-in user. -/
def currentUser (r : Request) : Txn User := do
  let cs ← claims r
  let sub := ((cs.lookup "sub").getD .null).show
  match (← Txn.store).user? sub with
  | some u => pure u
  | none => unauthorized "Invalid or expired token"

/-- What the gates know of a user. -/
def principal (s : Store) (u : User) : Principal :=
  match s.userRole? u with
  | some role =>
    { isStaff := u.isStaff, roleName := some role.name,
      permissions := (s.rolePermissions role.id).map (·.name) }
  | none => { isStaff := u.isStaff, roleName := none, permissions := [] }

/-- The signed-in user, let through `gate`, or a 403 with the gate's message. -/
def require (r : Request) (gate : Gate) : Txn User := do
  let u ← currentUser r
  match gate.check (principal (← Txn.store) u) with
  | .ok () => pure u
  | .error d => Txn.refuse 403 d.message

/-- A staff member. -/
def staff (r : Request) : Txn User := require r .staff

/-- An administrator. -/
def admin (r : Request) : Txn User := require r .admin

end Guard

end Bistro
