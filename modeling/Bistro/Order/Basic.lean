import Bistro.Json.Value
import Bistro.Time.Stamp

/-!
# Bistro — orders, their lines, payments and invoices

An order belongs to a table and holds lines, payments and at most one invoice. Money columns keep
doubles. A line keeps the names and prices of the catalogue at ordering time, and an invoice
keeps snapshots of the customer and the lines when it was issued.
-/

namespace Bistro

/-- An order. -/
structure Order where
  id : String
  userId : Option String
  qrId : Option String
  customerName : String
  customerPhone : String
  tableNumber : Int
  status : String
  dishStatus : String
  totalAmount : Binary64
  notes : Option String
  createdAt : Stamp
  paidAt : Option Stamp
  cancelledAt : Option Stamp
  deriving Repr

/-- A line of an order. -/
structure OrderLine where
  id : String
  orderId : String
  productName : String
  variationName : Option String
  unitPrice : Binary64
  quantity : Int
  totalPrice : Binary64
  note : Option String
  productId : Option String
  variationId : Option String
  createdAt : Stamp
  updatedAt : Stamp
  deriving Repr

/-- A payment towards an order. -/
structure Payment where
  id : String
  orderId : String
  method : String
  amount : Binary64
  status : String
  transactionRef : Option String
  paidAt : Stamp
  createdAt : Stamp
  deriving Repr

/-- An invoice issued for an order. -/
structure Invoice where
  id : String
  orderId : Option String
  customerSnapshot : Json
  itemsSnapshot : Json
  total : Binary64
  invoiceNumber : String
  issuedAt : Stamp
  pdfUrl : Option String
  deriving Repr

/-- The states of an order. -/
def orderStatuses : List String := ["Pending", "Paid", "Cancelled"]

/-- The kitchen states of an order's dishes. -/
def dishStatuses : List String := ["In Process", "Completed", "Cancelled"]

/-- The ways to pay. -/
def paymentMethods : List String := ["Cash", "QRIS", "Debit", "Credit"]

/-- The states of a payment. -/
def paymentStatuses : List String := ["Pending", "Success", "Refunded"]

end Bistro
