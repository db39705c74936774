import Bistro.Store.Basic
import Bistro.Store.Sorting

/-!
# Bistro — orders as responses show them

Money shows as the stored double read back to cents. A line shows the image of the product it
names; an order in its detailed form shows its lines and payments, oldest first, and its
invoice.
-/

namespace Bistro

namespace Orders

/-- A money column as a response shows it. -/
def moneyJson (x : Binary64) : Json := Json.ofNumber (storedDouble x)

/-- A line of an order. -/
def lineJson (s : Store) (l : OrderLine) : Json :=
  .obj [("id", .str l.id), ("order_id", .str l.orderId), ("product_id", Json.ofOption l.productId),
    ("variation_id", Json.ofOption l.variationId), ("product_name", .str l.productName),
    ("variation_name", Json.ofOption l.variationName), ("unit_price", moneyJson l.unitPrice),
    ("quantity", .int l.quantity), ("total_price", moneyJson l.totalPrice),
    ("note", Json.ofOption l.note),
    ("image_url", Json.ofOption ((l.productId.bind s.product?).bind (·.imageUrl))),
    ("created_at", l.createdAt.json), ("updated_at", l.updatedAt.json)]

/-- A payment. -/
def paymentJson (p : Payment) : Json :=
  .obj [("id", .str p.id), ("order_id", .str p.orderId), ("method", .str p.method),
    ("amount", moneyJson p.amount), ("status", .str p.status),
    ("transaction_ref", Json.ofOption p.transactionRef), ("paid_at", p.paidAt.json),
    ("created_at", p.createdAt.json)]

/-- An invoice. -/
def invoiceJson (i : Invoice) : Json :=
  .obj [("id", .str i.id), ("order_id", Json.ofOption i.orderId),
    ("invoice_number", .str i.invoiceNumber), ("customer_snapshot", i.customerSnapshot),
    ("items_snapshot", i.itemsSnapshot), ("total", moneyJson i.total),
    ("issued_at", i.issuedAt.json), ("pdf_url", Json.ofOption i.pdfUrl)]

/-- The members of an order. -/
def orderFields (o : Order) : List (String × Json) :=
  [("id", .str o.id), ("user_id", Json.ofOption o.userId), ("qr_id", Json.ofOption o.qrId),
    ("customer_name", .str o.customerName), ("customer_phone", .str o.customerPhone),
    ("table_number", .int o.tableNumber), ("status", .str o.status),
    ("dish_status", .str o.dishStatus), ("total_amount", moneyJson o.totalAmount),
    ("notes", Json.ofOption o.notes), ("created_at", o.createdAt.json),
    ("paid_at", Stamp.json? o.paidAt), ("cancelled_at", Stamp.json? o.cancelledAt)]

/-- An order. -/
def orderJson (o : Order) : Json := .obj (orderFields o)

/-- The lines of an order, oldest first. -/
def sortedLines (s : Store) (orderId : String) : List OrderLine :=
  ascendingBy (fun l => l.createdAt.wallSeconds) (s.orderLines orderId)

/-- The payments of an order, oldest first. -/
def sortedPayments (s : Store) (orderId : String) : List Payment :=
  ascendingBy (fun p => p.createdAt.wallSeconds) (s.orderPayments orderId)

/-- An order with its lines, payments and invoice. -/
def orderDetailJson (s : Store) (o : Order) : Json :=
  .obj (orderFields o ++
    [("details", .arr ((sortedLines s o.id).map (lineJson s))),
      ("payments", .arr ((sortedPayments s o.id).map paymentJson)),
      ("invoice", match s.orderInvoice? o.id with
        | some i => invoiceJson i
        | none => .null)])

end Orders

end Bistro
