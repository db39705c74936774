import Bistro.Access.View
import Bistro.Access.Guard
import Bistro.Access.Token
import Bistro.Activity.Record
import Bistro.Text.Utf8
import Bistro.Http.Route

/-!
# Bistro — the sign-in routes

Signing in takes an email address and a password. The address finds the account whose stored
address, lowered in ASCII, is the given one trimmed and lowered; the password must have the
account's digest. A failed attempt is recorded, and the record stays although the request
fails; a successful one records the time of the sign-in, is audited, and answers a bearer token
whose claims name the account, its role and the role's permissions, and which expires the
configured lifetime after the time on the wall clock at which the request is handled.
-/

namespace Bistro

namespace Api

open Accounts

/-- How long a bearer token is accepted after it is issued, in seconds. -/
def tokenLifetime : Int := (Config.service.tokenMinutes : Int) * 60

/-- The claims of an account's bearer token issued at the time `clock`: it expires after the
configured lifetime. -/
def tokenClaims (s : Store) (u : User) (clock : Int) : List (String × Json) :=
  let role := s.userRole? u
  [("sub", .str u.id), ("user_id", .str u.id),
    ("role_id", Json.ofOption (role.map (·.id))), ("role_name", Json.ofOption (role.map (·.name))),
    ("is_staff", .bool u.isStaff),
    ("permissions", .arr (match role with
      | some r => (s.rolePermissions r.id).map fun p => .str p.name
      | none => [])),
    ("exp", .int (clock + tokenLifetime))]

/-- Whether a password has an account's digest; a password the hashing library does not take
cannot be compared and stops the request. -/
def passwordMatches (u : User) (password : String) : Txn Bool :=
  match u.passwordDigest with
  | none => pure false
  | some digest =>
    if passwordHashable password then pure (passwordDigest (utf8Bytes password) == digest)
    else Txn.fail .internal

/-- The fields of a sign-in: an email address and a password, neither empty. -/
def signInFields (fs : List (String × Json)) : Validated (String × String) :=
  (fun e p => (e, p))
    <$> Field.required fs "email" (Field.boundedText 1 none)
    <*> Field.required fs "password" (Field.boundedText 1 none)

/-- Sign in. -/
def login (r : Request) (_ : List String) : Txn Response := do
  let body ← Input.payload r
  let (email, password) ← Input.accept (Input.model body signInFields)
  let found := userByEmail? (← Txn.store) email
  let ok ← match found with
    | some u => passwordMatches u password
    | none => pure false
  match found, ok with
  | some u, true =>
    let u := { u with lastLoginAt := some (← Txn.rowTime) }
    Txn.modifyStore fun s => { s with users := Store.replaceRow (·.id) u s.users }
    let s ← Txn.store
    let token := Token.sign Config.service.secretKey (tokenClaims s u r.clock)
    let _ ← Txn.record
      { ActivityNote.audit "auth" "user.login" "user" "" with entityId := some u.id, userId := some u.id }
    Reply.ok "Login successful"
      (.obj [("token", .str token), ("token_type", .str "Bearer"), ("user", userJson s u)])
  | _, _ =>
    let _ ← Txn.record
      { level := "warn", source := "auth", action := "user.login_failed", entity := "user",
        description := some ("failed login for " ++ email), ipAddress := some Config.service.clientHost }
    Txn.commit
    Txn.fail (.http 401 "Invalid email or password" true)

/-- The signed-in account. -/
def me (r : Request) (_ : List String) : Txn Response := do
  let u ← Guard.currentUser r
  Reply.ok "User retrieved successfully" (userJson (← Txn.store) u)

/-- The sign-in routes. -/
def authRoutes : List Route :=
  [ Route.of "POST" "/api/v1/auth/login" login,
    Route.of "GET" "/api/v1/auth/me" me ]

end Api

end Bistro
