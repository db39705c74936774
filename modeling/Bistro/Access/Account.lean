import Bistro.Time.Stamp

/-!
# Bistro — accounts, roles and permissions

A user account may hold one role, and a role holds a set of permissions through grants, each
grant joining one role to one permission. Passwords are kept as their digest only. The hashing
library takes a password of at most 4096 characters that holds no NUL character, and reads at
most its first 72 bytes; it fails on any other password.
-/

namespace Bistro

/-- A permission of the catalogue, such as `read:menu`. -/
structure Permission where
  id : String
  name : String
  description : Option String
  deriving Repr

/-- A role, such as `Cashier`. -/
structure Role where
  id : String
  name : String
  description : Option String
  createdAt : Stamp
  updatedAt : Stamp
  deriving Repr

/-- A grant of a permission to a role. -/
structure Grant where
  roleId : String
  permissionId : String
  deriving DecidableEq, Repr

/-- A user account. -/
structure User where
  id : String
  name : String
  email : String
  passwordDigest : Option (List Nat)
  isStaff : Bool
  roleId : Option String
  createdAt : Stamp
  lastLoginAt : Option Stamp
  deriving Repr

/-- The digest a password is kept as: bcrypt reads at most the first 72 bytes of a password, so
two passwords that agree on those bytes are the same password. -/
def passwordDigest (bytes : List Nat) : List Nat := bytes.take 72

/-- The most characters of a password the hashing library takes. -/
def passwordLimit : Nat := 4096

/-- Whether the hashing library takes a password: one of at most `passwordLimit` characters
(passlib refuses a longer one) and without a NUL character (bcrypt refuses one). -/
def passwordHashable (password : String) : Bool :=
  decide (password.length ≤ passwordLimit) && !password.toList.contains (Char.ofNat 0)

end Bistro
