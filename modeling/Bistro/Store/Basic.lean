import Bistro.Access.Account
import Bistro.Access.Permission
import Bistro.Catalog.Basic
import Bistro.Order.Basic
import Bistro.Qr.Code
import Bistro.Theme.Basic
import Bistro.Activity.Entry

/-!
# Bistro — the store

The store holds every table of the service. Each table keeps its rows in the order they were
added, which is also the order in which a query with no order, or with a tie in its order,
returns them.

A fresh store holds the permission catalogue and the six predefined roles, each granted its
default permissions, and nothing else.
-/

namespace Bistro

/-- The tables of the service. -/
structure Store where
  permissions : List Permission := []
  roles : List Role := []
  grants : List Grant := []
  users : List User := []
  categories : List Category := []
  products : List Product := []
  variations : List Variation := []
  qrCodes : List QrCode := []
  orders : List Order := []
  lines : List OrderLine := []
  payments : List Payment := []
  invoices : List Invoice := []
  themes : List Theme := []
  logs : List LogEntry := []
  deriving Repr

namespace Store

/-- The permission with an id. -/
def permission? (s : Store) (id : String) : Option Permission := s.permissions.find? (·.id == id)

/-- The permission with a name. -/
def permissionNamed? (s : Store) (name : String) : Option Permission :=
  s.permissions.find? (·.name == name)

/-- The role with an id. -/
def role? (s : Store) (id : String) : Option Role := s.roles.find? (·.id == id)

/-- The role with a name. -/
def roleNamed? (s : Store) (name : String) : Option Role := s.roles.find? (·.name == name)

/-- The permissions granted to a role, in the order they were granted. -/
def rolePermissions (s : Store) (roleId : String) : List Permission :=
  (s.grants.filter (·.roleId == roleId)).filterMap fun g => s.permission? g.permissionId

/-- The user with an id. -/
def user? (s : Store) (id : String) : Option User := s.users.find? (·.id == id)

/-- The role of a user, if it has one that exists. -/
def userRole? (s : Store) (u : User) : Option Role := u.roleId.bind s.role?

/-- The category with an id. -/
def category? (s : Store) (id : String) : Option Category := s.categories.find? (·.id == id)

/-- The product with an id. -/
def product? (s : Store) (id : String) : Option Product := s.products.find? (·.id == id)

/-- The variation with an id. -/
def variation? (s : Store) (id : String) : Option Variation := s.variations.find? (·.id == id)

/-- The variations of a product, in the order they were added. -/
def productVariations (s : Store) (productId : String) : List Variation :=
  s.variations.filter (·.productId == productId)

/-- The table code with an id. -/
def qrCode? (s : Store) (id : String) : Option QrCode := s.qrCodes.find? (·.id == id)

/-- The order with an id. -/
def order? (s : Store) (id : String) : Option Order := s.orders.find? (·.id == id)

/-- The lines of an order, in the order they were added. -/
def orderLines (s : Store) (orderId : String) : List OrderLine := s.lines.filter (·.orderId == orderId)

/-- The payments of an order, in the order they were made. -/
def orderPayments (s : Store) (orderId : String) : List Payment :=
  s.payments.filter (·.orderId == orderId)

/-- The invoice of an order. -/
def orderInvoice? (s : Store) (orderId : String) : Option Invoice :=
  s.invoices.find? (·.orderId == some orderId)

/-- The theme with an id. -/
def theme? (s : Store) (id : String) : Option Theme := s.themes.find? (·.id == id)

/-- Replace the rows with the id of `row` by `row`. -/
def replaceRow {α : Type} (key : α → String) (row : α) (rows : List α) : List α :=
  rows.map fun r => if key r == key row then row else r

end Store

end Bistro
