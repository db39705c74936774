import Bistro.Access.View
import Bistro.Access.Email
import Bistro.Access.Guard
import Bistro.Access.Permission
import Bistro.Text.Utf8
import Bistro.Http.Route
import Bistro.Store.Sorting

/-!
# Bistro — the account, role and permission routes

Only administrators manage accounts, roles and permissions.

An email address identifies one account: it is stored lower-cased, and the address of a new or
changed account must not be one that another account has when compared without case. A
password is kept as its digest; a password the hashing library refuses, one longer than 4096
characters or holding a NUL character, cannot be digested and stops the request.

A role name is unique; a role holds permissions by id, and every id given must exist. A
comprehensive role holds the five permissions of each resource it names, made when missing, and
the standard management permissions. A permission name follows the permission grammar, and a
new one without a description describes itself.
-/

namespace Bistro

namespace Api

open Accounts

/-! ## Users -/

/-- A new account. -/
structure UserDraft where
  name : String
  email : String
  password : String
  isStaff : Bool
  roleId : Option String

/-- A change of an account. -/
structure UserPatch where
  name : Option String
  email : Option String
  password : Option String
  isStaff : Option Bool
  roleId : Option String

/-- Check a new account. -/
def UserDraft.validate (fs : List (String × Json)) : Validated UserDraft :=
  UserDraft.mk
    <$> Field.required fs "name" (Field.boundedText 1 none)
    <*> Field.required fs "email" Field.email
    <*> Field.required fs "password" (Field.boundedText 6 none)
    <*> Field.withDefault fs "is_staff" Field.flag false
    <*> Field.optional fs "role_id" Field.text

/-- Check a change of an account. -/
def UserPatch.validate (fs : List (String × Json)) : Validated UserPatch :=
  UserPatch.mk
    <$> Field.optional fs "name" (Field.boundedText 1 none)
    <*> Field.optional fs "email" Field.email
    <*> Field.optional fs "password" (Field.boundedText 6 none)
    <*> Field.optional fs "is_staff" Field.flag
    <*> Field.optional fs "role_id" Field.text

/-- The digest of a password; the hashing library fails on a password it does not take. -/
def digestOf (password : String) : Txn (List Nat) :=
  if passwordHashable password then pure (passwordDigest (utf8Bytes password))
  else Txn.fail .internal

/-- Refuse a role id that names no role; an empty id is not checked. -/
def requireRole (roleId : Option String) : Txn Unit := do
  match roleId with
  | some id =>
    if !id.isEmpty && ((← Txn.store).role? id).isNone then Txn.refuse 400 "Role not found"
  | none => pure ()

/-- Whether the rows an account names exist and its email is its own. -/
def userRowFits (s : Store) (u : User) : Bool :=
  (u.roleId.all fun r => (s.role? r).isSome) && !s.users.any fun v => v.id != u.id && v.email == u.email

/-- The user of a path, or a 404. -/
def userAt (id : String) : Txn User := do
  match (← Txn.store).user? id with
  | some u => pure u
  | none => Txn.refuse 404 "User not found"

/-- A page of accounts, oldest first. -/
def listUsers (r : Request) (_ : List String) : Txn Response := do
  let _ ← Guard.admin r
  let (skip, limit) ← Input.accept ((fun a b => (a, b))
    <$> Input.query r "skip" (fun j => (Field.integer j).andThen (Field.atLeast 0)) 0
    <*> Input.query r "limit" (fun j => (Field.integer j).andThen fun n =>
      (Field.atLeast 1 n).andThen (Field.atMost 500)) 100)
  Txn.fitsColumn skip
  let s ← Txn.store
  let rows := ((ascendingBy (·.createdAt.ordinal) s.users).drop skip.toNat).take limit.toNat
  Reply.ok "Users retrieved successfully" (.arr (rows.map (userJson s)))

/-- An account. -/
def getUser (r : Request) (ps : List String) : Txn Response := do
  let _ ← Guard.admin r
  let u ← userAt (Route.param ps)
  Reply.ok "User retrieved successfully" (userJson (← Txn.store) u)

/-- Make an account. -/
def createUser (r : Request) (_ : List String) : Txn Response := do
  let body ← Input.payload r
  let _ ← Guard.admin r
  let d ← Input.accept (Input.model body UserDraft.validate)
  if (userByEmail? (← Txn.store) d.email).isSome then Txn.refuse 409 "Email already exists"
  requireRole d.roleId
  let digest ← digestOf d.password
  let u ← Txn.onIntegrity (do
      let u : User :=
        { id := ← Txn.freshId, name := trim d.name, email := d.email, passwordDigest := some digest,
          isStaff := d.isStaff, roleId := d.roleId, createdAt := ← Txn.rowTime, lastLoginAt := none }
      if !userRowFits (← Txn.store) u then Txn.fail .integrity
      Txn.modifyStore fun s => { s with users := s.users ++ [u] }
      pure u)
    (Fault.refuse 409 "Email already exists")
  Reply.created "User created successfully" (userJson (← Txn.store) u)

/-- Change an account; the answer shows the role the account was read with. -/
def updateUser (r : Request) (ps : List String) : Txn Response := do
  let body ← Input.payload r
  let _ ← Guard.admin r
  let d ← Input.accept (Input.model body UserPatch.validate)
  let old ← userAt (Route.param ps)
  let s ← Txn.store
  match d.email with
  | some e =>
    if !e.isEmpty && e != old.email then
      if let some other := userByEmail? s e then
        if other.id != old.id then Txn.refuse 409 "Email already exists"
  | none => pure ()
  requireRole d.roleId
  let digest ← match d.password with
    | some p => if p.isEmpty then pure old.passwordDigest else some <$> digestOf p
    | none => pure old.passwordDigest
  let u : User :=
    { old with
      name := d.name.getD old.name
      email := d.email.getD old.email
      isStaff := d.isStaff.getD old.isStaff
      roleId := d.roleId.orElse fun _ => old.roleId
      passwordDigest := digest }
  Txn.onIntegrity (do
      if !userRowFits (← Txn.store) u then Txn.fail .integrity
      Txn.modifyStore fun s => { s with users := Store.replaceRow (·.id) u s.users })
    (Fault.refuse 409 "Email already exists")
  Reply.ok "User updated successfully" (userJsonWith u (s.userRole? old))

/-- Delete an account; its orders lose the link. -/
def deleteUser (r : Request) (ps : List String) : Txn Response := do
  let _ ← Guard.admin r
  let u ← userAt (Route.param ps)
  Txn.modifyStore fun s =>
    { s with
      users := s.users.filter (·.id != u.id)
      orders := s.orders.map fun o => if o.userId == some u.id then { o with userId := none } else o }
  Reply.ok "User deleted successfully" .null

/-! ## Roles -/

/-- A new role. -/
structure RoleDraft where
  name : String
  description : Option String
  permissions : List String

/-- A change of a role; permissions, when sent, replace the role's set. -/
structure RolePatch where
  name : Option String
  description : Option String
  permissions : Option (List String)

/-- A role to be made with the permissions of resources. -/
structure ComprehensiveDraft where
  name : String
  description : Option String
  resources : List String

/-- Check a role name. -/
def roleName : Json → Validated String := Field.boundedText 1 (some 100)

/-- Check a new role. -/
def RoleDraft.validate (fs : List (String × Json)) : Validated RoleDraft :=
  RoleDraft.mk
    <$> Field.required fs "name" roleName
    <*> Field.optional fs "description" Field.text
    <*> Field.withDefault fs "permissions" (Field.list Field.text) []

/-- Check a change of a role. -/
def RolePatch.validate (fs : List (String × Json)) : Validated RolePatch :=
  RolePatch.mk
    <$> Field.optional fs "name" roleName
    <*> Field.optional fs "description" Field.text
    <*> Field.optional fs "permissions" (Field.list Field.text)

/-- Check a comprehensive role. -/
def ComprehensiveDraft.validate (fs : List (String × Json)) : Validated ComprehensiveDraft :=
  ComprehensiveDraft.mk
    <$> Field.required fs "name" roleName
    <*> Field.optional fs "description" Field.text
    <*> Field.required fs "resources" (fun j => (Field.list Field.text j).andThen (Field.minItems 1))

/-- Check a list of permission ids to add or remove. -/
def permissionIds (fs : List (String × Json)) : Validated (List String) :=
  Field.required fs "permission_ids" (fun j => (Field.list Field.text j).andThen (Field.minItems 1))

/-- The role of a path, or a 404. -/
def roleAt (id : String) : Txn Role := do
  match (← Txn.store).role? id with
  | some r => pure r
  | none => Txn.refuse 404 "Role not found"

/-- Refuse a role name another role has. -/
def requireRoleNameFree (name : String) (self : Option String) : Txn Unit := do
  match (← Txn.store).roleNamed? name with
  | some other => if some other.id != self then Txn.refuse 409 "Role name already exists"
  | none => pure ()

/-- The permissions of some ids, each once; every id must name a permission. -/
def permissionsOf (ids : List String) : Txn (List Permission) := do
  let s ← Txn.store
  let found := s.permissions.filter fun p => ids.contains p.id
  if found.length != ids.eraseDups.length then Txn.refuse 400 "One or more permissions were not found"
  pure found

/-- Give a role exactly some permissions. -/
def setGrants (roleId : String) (ps : List Permission) : Txn Unit :=
  Txn.modifyStore fun s =>
    { s with grants := s.grants.filter (·.roleId != roleId) ++ ps.map fun p => { roleId := roleId, permissionId := p.id } }

/-- Store a new role with some permissions; a name another role has breaks the store's rule. -/
def addRole (name : String) (description : Option String) (ps : List Permission) : Txn Role := do
  let now ← Txn.rowTime
  let role : Role := { id := ← Txn.freshId, name := name, description := description, createdAt := now, updatedAt := now }
  if (← Txn.store).roles.any (·.name == role.name) then Txn.fail .integrity
  Txn.modifyStore fun s => { s with roles := s.roles ++ [role] }
  setGrants role.id ps
  pure role

/-- Every role, by name. -/
def listRoles (r : Request) (_ : List String) : Txn Response := do
  let _ ← Guard.admin r
  let s ← Txn.store
  Reply.ok "Roles retrieved successfully"
    (.arr ((s.roles.mergeSort fun a b => decide (a.name ≤ b.name)).map (roleJson s)))

/-- A role. -/
def getRole (r : Request) (ps : List String) : Txn Response := do
  let _ ← Guard.admin r
  let role ← roleAt (Route.param ps)
  Reply.ok "Role retrieved successfully" (roleJson (← Txn.store) role)

/-- Make a role. -/
def createRole (r : Request) (_ : List String) : Txn Response := do
  let body ← Input.payload r
  let _ ← Guard.admin r
  let d ← Input.accept (Input.model body RoleDraft.validate)
  requireRoleNameFree d.name none
  let ps ← permissionsOf d.permissions
  let role ← Txn.onIntegrity (addRole (trim d.name) d.description ps)
    (Fault.refuse 409 "Role name already exists")
  Reply.created "Role created successfully" (roleJson (← Txn.store) role)

/-- The permission of a name, made with a description when missing. -/
def ensurePermission (name description : String) : Txn Permission := do
  match (← Txn.store).permissionNamed? name with
  | some p => pure p
  | none =>
    let p : Permission := { id := ← Txn.freshId, name := name, description := some description }
    Txn.modifyStore fun s => { s with permissions := s.permissions ++ [p] }
    pure p

/-- Make a role with the permissions of resources. -/
def createComprehensiveRole (r : Request) (_ : List String) : Txn Response := do
  let body ← Input.payload r
  let _ ← Guard.admin r
  let d ← Input.accept (Input.model body ComprehensiveDraft.validate)
  requireRoleNameFree d.name none
  let ps ← (comprehensivePermissions d.resources).mapM fun (k, desc) => ensurePermission k desc
  let role ← addRole (trim d.name) d.description ps
  Reply.created "Role created successfully" (roleJson (← Txn.store) role)

/-- Change a role. -/
def updateRole (r : Request) (ps : List String) : Txn Response := do
  let body ← Input.payload r
  let _ ← Guard.admin r
  let d ← Input.accept (Input.model body RolePatch.validate)
  let role ← roleAt (Route.param ps)
  match d.name with
  | some n => if !n.isEmpty && n != role.name then requireRoleNameFree n (some role.id)
  | none => pure ()
  let name := match d.name with
    | some n => if n.isEmpty then role.name else trim n
    | none => role.name
  let description := d.description.orElse fun _ => role.description
  let granted ← match d.permissions with
    | some ids => some <$> permissionsOf ids
    | none => pure none
  let now ← Txn.rowTime
  let changed := name != role.name || description != role.description
  let role' := { role with
    name := name
    description := description
    updatedAt := if changed then now else role.updatedAt }
  Txn.onIntegrity (do
      if (← Txn.store).roles.any fun o => o.id != role.id && o.name == name then Txn.fail .integrity
      Txn.modifyStore fun s => { s with roles := Store.replaceRow (·.id) role' s.roles }
      match granted with
      | some g => setGrants role.id g
      | none => pure ())
    (Fault.refuse 409 "Role name already exists")
  Reply.ok "Role updated successfully" (roleJson (← Txn.store) role')

/-- Add permissions to a role. -/
def addRolePermissions (r : Request) (ps : List String) : Txn Response := do
  let body ← Input.payload r
  let _ ← Guard.admin r
  let ids ← Input.accept (Input.model body permissionIds)
  let role ← roleAt (Route.param ps)
  let current := ((← Txn.store).rolePermissions role.id)
  let fresh := (← permissionsOf ids).filter fun p => !current.any (·.id == p.id)
  setGrants role.id (current ++ fresh)
  Reply.ok "Permissions added to role" (roleJson (← Txn.store) role)

/-- Remove permissions from a role. -/
def removeRolePermissions (r : Request) (ps : List String) : Txn Response := do
  let body ← Input.payload r
  let _ ← Guard.admin r
  let ids ← Input.accept (Input.model body permissionIds)
  let role ← roleAt (Route.param ps)
  setGrants role.id (((← Txn.store).rolePermissions role.id).filter fun p => !ids.contains p.id)
  Reply.ok "Permissions removed from role" (roleJson (← Txn.store) role)

/-- Delete a role; its accounts lose it. -/
def deleteRole (r : Request) (ps : List String) : Txn Response := do
  let _ ← Guard.admin r
  let role ← roleAt (Route.param ps)
  Txn.modifyStore fun s =>
    { s with
      grants := s.grants.filter (·.roleId != role.id)
      roles := s.roles.filter (·.id != role.id)
      users := s.users.map fun u => if u.roleId == some role.id then { u with roleId := none } else u }
  Reply.ok "Role deleted successfully" .null

/-! ## Permissions -/

/-- Check a permission name: trimmed, it must follow the permission grammar. -/
def permissionName (j : Json) : Validated String :=
  Field.refine Field.text (fun s => match PermissionName.ofString (trim s) with
    | .ok p => .ok p.value
    | .error e => .error e.message) j

/-- A new permission, or a change of one. -/
structure PermissionDraft where
  name : Option String
  description : Option String

/-- Check a new permission. -/
def PermissionDraft.validateNew (fs : List (String × Json)) : Validated PermissionDraft :=
  (fun n d => PermissionDraft.mk (some n) d)
    <$> Field.required fs "name" permissionName
    <*> Field.optional fs "description" Field.text

/-- Check a change of a permission. -/
def PermissionDraft.validate (fs : List (String × Json)) : Validated PermissionDraft :=
  PermissionDraft.mk
    <$> Field.optional fs "name" permissionName
    <*> Field.optional fs "description" Field.text

/-- The permission of a path, or a 404. -/
def permissionAt (id : String) : Txn Permission := do
  match (← Txn.store).permission? id with
  | some p => pure p
  | none => Txn.refuse 404 "Permission not found"

/-- Every permission, by name. -/
def listPermissions (r : Request) (_ : List String) : Txn Response := do
  let _ ← Guard.admin r
  let s ← Txn.store
  Reply.ok "Permissions retrieved successfully"
    (.arr ((s.permissions.mergeSort fun a b => decide (a.name ≤ b.name)).map permissionJson))

/-- A permission. -/
def getPermission (r : Request) (ps : List String) : Txn Response := do
  let _ ← Guard.admin r
  Reply.ok "Permission retrieved successfully" (permissionJson (← permissionAt (Route.param ps)))

/-- Make a permission. -/
def createPermission (r : Request) (_ : List String) : Txn Response := do
  let body ← Input.payload r
  let _ ← Guard.admin r
  let d ← Input.accept (Input.model body PermissionDraft.validateNew)
  let name := d.name.getD ""
  if ((← Txn.store).permissionNamed? name).isSome then Txn.refuse 409 "Permission already exists"
  let description := match d.description with
    | some t => if t.isEmpty then describeKey name else t
    | none => describeKey name
  let p : Permission := { id := ← Txn.freshId, name := name, description := some description }
  Txn.modifyStore fun s => { s with permissions := s.permissions ++ [p] }
  Reply.created "Permission created successfully" (permissionJson p)

/-- Make, or take when they exist, the five permissions of a resource. -/
def generatePermissions (r : Request) (_ : List String) : Txn Response := do
  let body ← Input.payload r
  let _ ← Guard.admin r
  let resource ← Input.accept (Input.model body fun fs => Field.required fs "resource" (Field.boundedText 1 none))
  let name ← match normalizeResource resource with
    | .ok n => pure n
    | .error e => Txn.refuse 400 e.message
  let ps ← (resourcePermissions name).mapM fun spec => ensurePermission spec.key spec.description
  Reply.created "Permissions generated successfully"
    (.obj [("resource", .str name), ("permissions", .arr (ps.map permissionJson))])

/-- Change a permission; a new name without a new description describes itself. -/
def updatePermission (r : Request) (ps : List String) : Txn Response := do
  let body ← Input.payload r
  let _ ← Guard.admin r
  let d ← Input.accept (Input.model body PermissionDraft.validate)
  let p ← permissionAt (Route.param ps)
  let renamed := match d.name with
    | some n => !n.isEmpty && n != p.name
    | none => false
  if renamed && ((← Txn.store).permissionNamed? (d.name.getD "")).isSome then
    Txn.refuse 409 "Permission already exists"
  let description :=
    match d.description with
    | some t => some t
    | none => if renamed then some (describeKey (d.name.getD "")) else p.description
  let p' := { p with name := d.name.getD p.name, description := description }
  if (← Txn.store).permissions.any fun o => o.id != p.id && o.name == p'.name then Txn.fail .integrity
  Txn.modifyStore fun s => { s with permissions := Store.replaceRow (·.id) p' s.permissions }
  Reply.ok "Permission updated successfully" (permissionJson p')

/-- Delete a permission; the roles that held it lose it. -/
def deletePermission (r : Request) (ps : List String) : Txn Response := do
  let _ ← Guard.admin r
  let p ← permissionAt (Route.param ps)
  Txn.modifyStore fun s =>
    { s with
      grants := s.grants.filter (·.permissionId != p.id)
      permissions := s.permissions.filter (·.id != p.id) }
  Reply.ok "Permission deleted successfully" .null

/-- The account, role and permission routes, in the order they are tried. -/
def accessRoutes : List Route :=
  [ Route.of "GET" "/api/v1/users" listUsers,
    Route.of "GET" "/api/v1/users/\x7bid\x7d" getUser,
    Route.of "POST" "/api/v1/users" createUser,
    Route.of "PUT" "/api/v1/users/\x7bid\x7d" updateUser,
    Route.of "DELETE" "/api/v1/users/\x7bid\x7d" deleteUser,
    Route.of "GET" "/api/v1/roles" listRoles,
    Route.of "GET" "/api/v1/roles/\x7bid\x7d" getRole,
    Route.of "POST" "/api/v1/roles" createRole,
    Route.of "POST" "/api/v1/roles/comprehensive" createComprehensiveRole,
    Route.of "PUT" "/api/v1/roles/\x7bid\x7d" updateRole,
    Route.of "POST" "/api/v1/roles/\x7bid\x7d/permissions" addRolePermissions,
    Route.of "DELETE" "/api/v1/roles/\x7bid\x7d/permissions" removeRolePermissions,
    Route.of "DELETE" "/api/v1/roles/\x7bid\x7d" deleteRole,
    Route.of "GET" "/api/v1/permissions" listPermissions,
    Route.of "GET" "/api/v1/permissions/\x7bid\x7d" getPermission,
    Route.of "POST" "/api/v1/permissions" createPermission,
    Route.of "POST" "/api/v1/permissions/generate" generatePermissions,
    Route.of "PUT" "/api/v1/permissions/\x7bid\x7d" updatePermission,
    Route.of "DELETE" "/api/v1/permissions/\x7bid\x7d" deletePermission ]

end Api

end Bistro
