import Bistro.Store.Basic

/-!
# Bistro — accounts as responses show them

A user shows the id and name of a role beside its role id; a role shows its permissions. The
role a user shows is passed in, since a user whose role was just changed still shows the role
it was read with.
-/

namespace Bistro

namespace Accounts

/-- A permission. -/
def permissionJson (p : Permission) : Json :=
  .obj [("id", .str p.id), ("name", .str p.name), ("description", Json.ofOption p.description)]

/-- A role with its permissions. -/
def roleJson (s : Store) (r : Role) : Json :=
  .obj [("id", .str r.id), ("name", .str r.name), ("description", Json.ofOption r.description),
    ("permissions", .arr ((s.rolePermissions r.id).map permissionJson))]

/-- A user showing `role` as its role. -/
def userJsonWith (u : User) (role : Option Role) : Json :=
  .obj [("id", .str u.id), ("name", .str u.name), ("email", .str u.email),
    ("is_staff", .bool u.isStaff), ("role_id", Json.ofOption u.roleId),
    ("role", match role with
      | some r => .obj [("id", .str r.id), ("name", .str r.name)]
      | none => .null),
    ("created_at", u.createdAt.json), ("last_login_at", Stamp.json? u.lastLoginAt)]

/-- A user with its role as stored. -/
def userJson (s : Store) (u : User) : Json := userJsonWith u (s.userRole? u)

/-- The user whose stored email, lowered in ASCII, is the trimmed and lowered `email`. -/
def userByEmail? (s : Store) (email : String) : Option User :=
  s.users.find? fun u => asciiLower u.email == lower (trim email)

end Accounts

end Bistro
