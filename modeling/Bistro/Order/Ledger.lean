import Bistro.Store.Basic
import Bistro.Order.Payload

/-!
# Bistro — the arithmetic and links of orders

Orders price their lines against the catalogue as the store holds it: a product's base price is
the stored price read back to cents. An order's total is the sum of its lines' two-place totals;
a line already stored counts with its total read back from the store, a line just priced with
its exact total.

An order is settled when the two-place sum of its successful payments reaches the two-place
total; a total that is not a number cannot be compared and stops the request.

A row may only name rows that exist: an order its user and table code, a line its product and
variation.
-/

namespace Bistro

namespace Orders

/-- The catalogue as order pricing reads it from the store. -/
def catalogOf (s : Store) : CatalogView :=
  { product? := fun id => (s.product? id).map fun p =>
      { id := p.id, name := p.name, basePrice := .double (storedDouble p.basePrice),
        isAvailable := p.isAvailable, imageUrl := p.imageUrl }
    variation? := fun id => (s.variation? id).map fun v =>
      { id := v.id, productId := v.productId, variationType := v.variationType,
        isAvailable := v.isAvailable, options := v.options } }

/-- The total of an order from the lines it keeps and the lines just priced. -/
def orderTotal (kept : List OrderLine) (added : List PricedLine) : Except DecimalSignal Decimal :=
  sumTotals (kept.map (fun l => storedAmount l.totalPrice) ++ added.map (·.totalPrice))

/-- The two-place sum of the successful payments among amounts paired with their states. -/
def paidAmount (payments : List (String × Decimal)) : Except DecimalSignal Decimal :=
  sumMoney ((payments.filter (·.1 == "Success")).map fun p => .exact p.2)

/-- Whether payments settle a total: their successful sum reaches it. -/
def settles (payments : List (String × Decimal)) (total : Decimal) : Except DecimalSignal Bool := do
  let paid ← paidAmount payments
  let due ← toMoney (.exact total)
  match Decimal.compare? paid due with
  | some o => pure (o != .lt)
  | none => throw .invalidOperation

/-- Whether the rows an order names exist. -/
def orderLinksExist (s : Store) (o : Order) : Bool :=
  (o.userId.all fun u => (s.user? u).isSome) && (o.qrId.all fun q => (s.qrCode? q).isSome)

/-- Whether the rows a line names exist. -/
def lineLinksExist (s : Store) (l : OrderLine) : Bool :=
  (s.order? l.orderId).isSome && (l.productId.all fun p => (s.product? p).isSome) &&
    (l.variationId.all fun v => (s.variation? v).isSome)

/-- A priced line as a stored row of an order. -/
def lineRow (l : PricedLine) (id orderId : String) (now : Stamp) : OrderLine :=
  { id := id, orderId := orderId, productName := l.productName, variationName := l.variationName,
    unitPrice := l.unitPrice.toBinary64, quantity := l.quantity,
    totalPrice := l.totalPrice.toBinary64, note := l.note, productId := l.productId,
    variationId := l.variationId, createdAt := now, updatedAt := now }

/-- The invoice number of an issue date and a fresh identifier:
`INV-YYYYMMDD-` and the identifier's first eight hexadecimal digits in capitals. -/
def invoiceNumber (issued : Stamp) (fresh : String) : String :=
  "INV-" ++ issued.compactDate ++ "-" ++
    asciiUpper (String.ofList ((fresh.toList.filter (· ≠ '-')).take 8))

/-- The eight hexadecimal digits, in capitals, of a number below `16^8`. -/
def hexPart (k : Nat) : String :=
  let hex := Nat.toDigits 16 k
  asciiUpper (String.ofList (List.replicate (8 - hex.length) '0' ++ hex))

/-- The first invoice number of an issue date, from the `k`-th on, that is not taken; `fuel`
numbers are tried. -/
def firstFreeNumber (taken : List String) (issued : Stamp) : Nat → Nat → Option String
  | 0, _ => none
  | fuel + 1, k =>
    let number := "INV-" ++ issued.compactDate ++ "-" ++ hexPart k
    if taken.contains number then firstFreeNumber taken issued fuel (k + 1) else some number

/-- The number of a new invoice: that of a fresh identifier when no invoice has it, and
otherwise another number of the issue date that is free, as drawing again until one is free
gives; none when every number of the date is taken. -/
def freeInvoiceNumber (taken : List String) (issued : Stamp) (fresh : String) : Option String :=
  let first := invoiceNumber issued fresh
  if taken.contains first then firstFreeNumber taken issued (Nat.pow 16 8) 0 else some first

/-- The customer of an order as an invoice keeps it. -/
def customerSnapshot (o : Order) : Json :=
  .obj [("name", .str o.customerName), ("phone", .str o.customerPhone),
    ("table_number", .int o.tableNumber)]

/-- The lines of an order as an invoice keeps them, prices read back from the store. -/
def itemsSnapshot (lines : List OrderLine) : Json :=
  .arr (lines.map fun l =>
    .obj [("product_id", Json.ofOption l.productId), ("product_name", .str l.productName),
      ("variation_name", Json.ofOption l.variationName), ("quantity", .int l.quantity),
      ("unit_price", Json.ofNumber (storedDouble l.unitPrice)),
      ("total_price", Json.ofNumber (storedDouble l.totalPrice)), ("note", Json.ofOption l.note)])

end Orders

end Bistro
