import Bistro.Store.Session

/-!
# Bistro — the first state of the store

A new service holds the permission catalogue, in the order the predefined roles first use each
permission, and the six predefined roles, each granted the catalogue permissions it uses by
default.
-/

namespace Bistro

/-- Fill an empty store with the permission catalogue and the predefined roles. -/
def seedStore : Txn Unit := do
  for spec in defaultPermissions do
    let id ← Txn.freshId
    Txn.modifyStore fun s =>
      { s with permissions := s.permissions ++ [{ id := id, name := spec.key, description := some spec.description }] }
  for name in systemRoles do
    let id ← Txn.freshId
    let now ← Txn.now
    Txn.modifyStore fun s =>
      let granted := s.permissions.filter fun p => (roleDefaults name).contains p.name
      { s with
        roles := s.roles ++ [{ id := id, name := name, description := some ("Predefined " ++ name ++ " role"),
                                createdAt := now, updatedAt := now }]
        grants := s.grants ++ granted.map fun p => { roleId := id, permissionId := p.id } }

end Bistro
