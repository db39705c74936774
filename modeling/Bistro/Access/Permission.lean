import Bistro.Text.Space
import Bistro.Text.Case

/-!
# Bistro — permission names

A permission is named `action:resource`. A name is accepted when it starts with one of the
special prefixes `manage:`, `access:` or `full:` (anything may follow), or when it is a run of
lower-case letters, a colon and a run of lower-case letters and underscores, optionally ended
by one line feed, and the action is one of the fourteen standard actions. Its action is the
text before the first colon and its resource the text after it.

The module also holds the permission catalogue: the bundle of five permissions a resource
gets, the default permissions of the six predefined roles, and the check that a set of
permissions grants a required one, `full:access` granting everything.
-/

namespace Bistro

/-- The actions a standard permission may name, in the order error messages list them. -/
def standardActions : List String :=
  ["read", "create", "update", "delete", "manage", "approve", "reject", "export", "import",
    "assign", "view", "list", "access", "full"]

/-- The prefixes that make a permission special. -/
def specialPrefixes : List String := ["manage:", "access:", "full:"]

/-- The permission that grants every other. -/
def fullAccess : String := "full:access"

/-- Why a text is not a permission name. -/
inductive PermissionNameError where
  | empty
  | malformed
  | unknownAction (action : String)
  deriving DecidableEq, Repr

/-- The message of a rejected permission name. -/
def PermissionNameError.message : PermissionNameError → String
  | .empty => "permission name cannot be empty"
  | .malformed => "permission must follow format 'action:resource' (e.g., 'read:user')"
  | .unknownAction a =>
    "invalid action '" ++ a ++ "', must be one of: " ++ ", ".intercalate standardActions

/-- A lower-case ASCII letter. -/
def isLowerLetter (c : Char) : Bool := 'a' ≤ c && c ≤ 'z'

/-- A character of a standard resource: a lower-case letter or an underscore. -/
def isResourceChar (c : Char) : Bool := isLowerLetter c || c == '_'

/-- The action of a text of the standard shape `[a-z]+:[a-z_]+`, optionally followed by one
line feed; `none` for any other text. -/
def standardShape? (cs : List Char) : Option (List Char) :=
  let action := cs.takeWhile isLowerLetter
  match cs.drop action.length with
  | ':' :: r =>
    let res := r.takeWhile isResourceChar
    let tail := r.drop res.length
    if !action.isEmpty && !res.isEmpty && (tail.isEmpty || tail == ['\n']) then some action
    else none
  | _ => none

/-- Whether a text starts with a special prefix. -/
def hasSpecialPrefix (s : String) : Bool := specialPrefixes.any fun p => p.toList.isPrefixOf s.toList

/-- A permission name accepted by the grammar of the module header. -/
structure PermissionName where
  value : String
  deriving DecidableEq, Repr

namespace PermissionName

/-- Check a text against the permission grammar. -/
def ofString (s : String) : Except PermissionNameError PermissionName :=
  if s.isEmpty then .error .empty
  else if hasSpecialPrefix s then .ok ⟨s⟩
  else
    match standardShape? s.toList with
    | none => .error .malformed
    | some a =>
      let action := String.ofList a
      if standardActions.contains action then .ok ⟨s⟩ else .error (.unknownAction action)

/-- The text before the first colon. -/
def action (p : PermissionName) : String := String.ofList (p.value.toList.takeWhile (· ≠ ':'))

/-- The text after the first colon, empty when there is none. -/
def resource (p : PermissionName) : String :=
  match p.value.toList.dropWhile (· ≠ ':') with
  | _ :: r => String.ofList r
  | [] => ""

/-- Whether the name starts with a special prefix. -/
def isSpecial (p : PermissionName) : Bool := hasSpecialPrefix p.value

/-- The underscores of a resource read as spaces. -/
def label (resource : String) : String := resource.replace "_" " "

/-- The generated description of a permission. -/
def describe (p : PermissionName) : String :=
  if p.isSpecial then "Special permission to " ++ p.action ++ " " ++ p.resource
  else "Permission to " ++ p.action ++ " " ++ label p.resource

end PermissionName

/-- Why a text is not a resource name. -/
inductive ResourceNameError where
  | empty
  | badCharacters
  deriving DecidableEq, Repr

/-- The message of a rejected resource name. -/
def ResourceNameError.message : ResourceNameError → String
  | .empty => "resource name cannot be empty"
  | .badCharacters => "resource name must contain only letters, numbers, and underscores"

/-- A character of a normalised resource name. -/
def isResourceNameChar (c : Char) : Bool := isLowerLetter c || c.isDigit || c == '_'

/-- A space made an underscore; any other character kept. -/
def underscoreSpace (c : Char) : Char := if c = ' ' then '_' else c

/-- The text with each space replaced by an underscore. -/
def underscoreSpaces (s : String) : String := s.map underscoreSpace

/-- The resource name a text stands for: trimmed, lower-cased, spaces made underscores, and
then only lower-case letters, digits and underscores. -/
def normalizeResource (s : String) : Except ResourceNameError String :=
  let t := trim s
  if t.isEmpty then .error .empty
  else
    let f := underscoreSpaces (lower t)
    if f.toList.all isResourceNameChar then .ok f else .error .badCharacters

/-- A permission of the catalogue: its name and description. -/
structure PermissionSpec where
  key : String
  description : String
  deriving DecidableEq, Repr

/-- The four CRUD permissions of a normalised resource. -/
def crudPermissions (resource : String) : List PermissionSpec :=
  ["read", "create", "update", "delete"].map fun a =>
    ⟨a ++ ":" ++ resource, "Permission to " ++ a ++ " " ++ PermissionName.label resource⟩

/-- The management permission of a normalised resource. -/
def managementPermission (resource : String) : PermissionSpec :=
  ⟨"manage:" ++ resource, "Permission to manage all aspects of " ++ PermissionName.label resource⟩

/-- The five permissions of a resource: read, create, update, delete and manage. -/
def permissionBundle (name : String) : Except ResourceNameError (List PermissionSpec) :=
  (normalizeResource name).map fun r => crudPermissions r ++ [managementPermission r]

/-- The management permissions every comprehensive role receives. -/
def standardManagementPermissions : List String :=
  ["manage:users", "manage:roles", "manage:menu", "manage:orders", "manage:tables",
    "manage:inventory", "manage:reports", "manage:settings"]

/-- The predefined roles, in seeding order. -/
def systemRoles : List String := ["System", "Owner", "Admin", "Cashier", "Kitchen", "Waiter"]

/-- The roles that pass the administrator guard. -/
def adminRoles : List String := ["System", "Owner", "Admin"]

/-- The permissions `action:resource` for each of the actions. -/
def grants (resource : String) (actions : List String) : List String :=
  actions.map fun a => a ++ ":" ++ resource

/-- The default permissions of a role; a role that is not predefined has none. -/
def roleDefaults (role : String) : List String :=
  if role = "System" then [fullAccess]
  else if role = "Owner" then
    ["manage:users", "manage:roles", "manage:permissions", "access:system"] ++
      grants "report" ["read", "create"] ++ grants "user" ["read", "create", "update", "delete"] ++
      grants "role" ["read", "create", "update", "delete"] ++
      grants "menu" ["read", "create", "update", "delete"] ++
      grants "order" ["read", "create", "update", "delete"] ++
      grants "table" ["read", "create", "update", "delete"] ++
      grants "inventory" ["read", "create", "update", "delete"] ++ grants "setting" ["read", "update"]
  else if role = "Admin" then
    ["manage:users"] ++ grants "report" ["read", "create"] ++ grants "user" ["read", "create", "update"] ++
      grants "menu" ["read", "create", "update", "delete"] ++
      grants "order" ["read", "create", "update", "delete"] ++
      grants "table" ["read", "create", "update", "delete"] ++
      grants "inventory" ["read", "create", "update", "delete"] ++ grants "setting" ["read"]
  else if role = "Cashier" then
    grants "menu" ["read"] ++ grants "order" ["read", "create", "update"] ++ grants "table" ["read", "update"]
  else if role = "Kitchen" then
    grants "menu" ["read"] ++ grants "order" ["read", "update"] ++ grants "inventory" ["read", "update"]
  else if role = "Waiter" then
    grants "menu" ["read"] ++ grants "order" ["read", "update"] ++ grants "table" ["read", "update"]
  else []

/-- The description a catalogue key gets: that of its permission name. -/
def describeKey (key : String) : String := (PermissionName.mk key).describe

/-- The five permissions of a resource, none when its name is not one. -/
def resourcePermissions (name : String) : List PermissionSpec :=
  match permissionBundle name with
  | .ok b => b
  | .error _ => []

/-- The permissions a comprehensive role over `resources` holds, as key and description: each
key of the resources' bundles once, in order of first use, described as its first bundle
describes it, and then the standard management permissions that are not among them. -/
def comprehensivePermissions (resources : List String) : List (String × String) :=
  let specs := resources.flatMap resourcePermissions
  let keys := (specs.map (·.key)).eraseDups
  let extra := standardManagementPermissions.filter (!keys.contains ·)
  keys.filterMap (fun k => (specs.find? (·.key == k)).map fun p => (k, p.description)) ++
    extra.map fun k => (k, describeKey k)

/-- Every permission the predefined roles use, each once, in order of first use. -/
def defaultPermissions : List PermissionSpec :=
  let keys := (systemRoles.flatMap roleDefaults).foldl
    (fun acc k => if acc.contains k then acc else acc ++ [k]) []
  keys.map fun k => ⟨k, describeKey k⟩

/-- Whether a set of permissions grants `required`: it holds `full:access` or `required`. -/
def hasPermission (perms : List String) (required : String) : Bool :=
  perms.contains fullAccess || perms.contains required

end Bistro
