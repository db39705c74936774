import Bistro.Access.Permission

/-!
# Bistro — access gates

Three gates guard the service's routes. The staff gate lets through users flagged as staff; the
administrator gate lets through users whose role is System, Owner or Admin, whatever their staff
flag; the permission gate lets through users whose role holds the required permission or
`full:access`. A user without a role has no permissions and no administrator role.
-/

namespace Bistro

/-- What the gates know of a signed-in user. -/
structure Principal where
  isStaff : Bool
  roleName : Option String
  permissions : List String
  deriving DecidableEq, Repr

/-- The gates. -/
inductive Gate where
  | staff
  | admin
  | permission (required : String)
  deriving DecidableEq, Repr

/-- Why a gate refused a user. -/
inductive Denial where
  | notStaff
  | notAdmin
  | lacksPermission
  deriving DecidableEq, Repr

/-- The message of a refusal. -/
def Denial.message : Denial → String
  | .notStaff => "Staff access required"
  | .notAdmin => "Admin access required"
  | .lacksPermission => "Insufficient permissions"

/-- Whether a role name is one of the administrator roles. -/
def isAdminRole : Option String → Bool
  | some r => adminRoles.contains r
  | none => false

/-- Pass a user through a gate. -/
def Gate.check (p : Principal) : Gate → Except Denial Unit
  | .staff => if p.isStaff then .ok () else .error .notStaff
  | .admin => if isAdminRole p.roleName then .ok () else .error .notAdmin
  | .permission r => if hasPermission p.permissions r then .ok () else .error .lacksPermission

end Bistro
