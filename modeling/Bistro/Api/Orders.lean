import Bistro.Order.Ledger
import Bistro.Order.View
import Bistro.Activity.Record
import Bistro.Access.Guard
import Bistro.Http.Route

/-!
# Bistro — the order, payment and invoice routes

Customers place orders from their table without signing in; everything else about orders takes
a member of staff. Placing an order commits it at once, so that the order stays even when the
request fails later on; an order that names a missing user or table code is refused and leaves
nothing behind.

A change of an order may edit its header, remove and add lines and record a payment; unless it
sets the state itself, the order is then settled when its successful payments reach its total,
and is pending otherwise. Cancelling refunds the payments; paying settles the order with one
payment of exactly its total.
-/

namespace Bistro

namespace Api

open Orders

/-- Take a money result, or stop the request when it has no two-place amount. -/
def moneyStep {α : Type} : Except DecimalSignal α → Txn α
  | .ok a => pure a
  | .error _ => Txn.fail .internal

/-- Price lines against the store's catalogue; a refused line is a 400. -/
def priceAll (items : List LineRequest) : Txn (List PricedLine) := do
  match priceLines (catalogOf (← Txn.store)) items with
  | .ok ls => pure ls
  | .error (.rejected detail) => Txn.refuse 400 detail
  | .error (.decimal _) => Txn.fail .internal

/-- Store a priced line of an order, checked as the store checks a row. -/
def insertLine (orderId : String) (l : PricedLine) : Txn OrderLine := do
  let row := lineRow l (← Txn.freshId) orderId (← Txn.rowTime)
  Txn.fitsColumn row.quantity
  Txn.moneyColumn row.unitPrice
  Txn.moneyColumn row.totalPrice
  if !lineLinksExist (← Txn.store) row then Txn.fail .integrity
  Txn.modifyStore fun s => { s with lines := s.lines ++ [row] }
  pure row

/-- Store the priced lines of an order, in turn. -/
def insertLines (orderId : String) (priced : List PricedLine) : Txn (List OrderLine) :=
  priced.mapM (insertLine orderId)

/-- Store a changed order, checked as the store checks a row. -/
def saveOrder (o : Order) : Txn Unit := do
  Txn.fitsColumn o.tableNumber
  Txn.moneyColumn o.totalAmount
  Txn.modifyStore fun s => { s with orders := Store.replaceRow (·.id) o s.orders }

/-- The order of a path, or a 404. -/
def orderAt (id : String) : Txn Order := do
  match (← Txn.store).order? id with
  | some o => pure o
  | none => Txn.refuse 404 "Order not found"

/-! ## Orders -/

/-- Place an order. -/
def createOrder (r : Request) (_ : List String) : Txn Response := do
  let body ← Input.payload r
  let d ← Input.accept (Input.model body OrderDraft.validate)
  if d.customerName.isEmpty || d.customerPhone.isEmpty then
    Txn.refuse 400 "customer name and phone are required"
  let priced ← priceAll d.lines
  let total ← moneyStep (sumTotals (priced.map (·.totalPrice)))
  let o ← Txn.onIntegrity (do
      let o : Order :=
        { id := ← Txn.freshId, userId := d.userId.filter (!·.isEmpty), qrId := d.qrId,
          customerName := d.customerName, customerPhone := d.customerPhone,
          tableNumber := d.tableNumber, status := "Pending", dishStatus := "In Process",
          totalAmount := total.toBinary64, notes := d.notes, createdAt := ← Txn.rowTime,
          paidAt := none, cancelledAt := none }
      Txn.fitsColumn o.tableNumber
      Txn.moneyColumn o.totalAmount
      if !orderLinksExist (← Txn.store) o then Txn.fail .integrity
      Txn.modifyStore fun s => { s with orders := s.orders ++ [o] }
      let _ ← insertLines o.id priced
      Txn.commit
      pure o)
    (Fault.refuse 400 "Order references a missing record")
  let _ ← Txn.record
    { level := "info", source := "orders", action := "create", entity := "order",
      description := some ("Order created for table " ++ toString d.tableNumber),
      entityId := some o.id,
      metadata := .obj [("total_amount", .str (storedAmount o.totalAmount).toText),
        ("items", .int priced.length)] }
  Reply.created "Order created successfully" (orderDetailJson (← Txn.store) o)

/-- A page of orders, newest first, of one state when asked. -/
def listOrders (r : Request) (_ : List String) : Txn Response := do
  let _ ← Guard.staff r
  let (page, perPage, status) ← Input.accept ((fun a b c => (a, b, c))
    <$> Input.pageParam r "page" none 1
    <*> Input.pageParam r "per_page" (some 100) 20
    <*> Input.query? r "status" (Field.choice orderStatuses))
  let s ← Txn.store
  let rows := match status with
    | some st => s.orders.filter (·.status == st)
    | none => s.orders
  let offset := (page - 1) * perPage
  Txn.fitsColumn offset
  let shown := ((descendingBy (fun o => o.createdAt.wallSeconds) rows).drop offset.toNat).take perPage.toNat
  Reply.page "Orders retrieved successfully" (.arr (shown.map (orderDetailJson s)))
    page perPage rows.length

/-- An order with its lines, payments and invoice. -/
def getOrder (r : Request) (ps : List String) : Txn Response := do
  let _ ← Guard.staff r
  let o ← orderAt (Route.param ps)
  Reply.ok "Order retrieved successfully" (orderDetailJson (← Txn.store) o)

/-- An order's header with the non-empty members of a change. -/
def mergeHeader (d : OrderPatch) (o : Order) : Order :=
  let filled (v : Option String) (old : String) : String :=
    match v with
    | some s => if s.isEmpty then old else s
    | none => old
  { o with
    customerName := filled d.customerName o.customerName
    customerPhone := filled d.customerPhone o.customerPhone
    tableNumber := match d.tableNumber with
      | some n => if n = 0 then o.tableNumber else n
      | none => o.tableNumber
    notes := match d.notes with
      | some n => if n.isEmpty then o.notes else some n
      | none => o.notes
    status := d.status.getD o.status
    dishStatus := d.dishStatus.getD o.dishStatus }

/-- How a change of an order records its payment: by changing the first of the order's payments,
or by a new payment when there is none. Gives the changed payment, the new one with its
amount, and the states and amounts that then count towards settling the order. -/
def paymentChange (had : List Payment) : Option PaymentInput →
    Except DecimalSignal (Option Payment × Option (PaymentInput × Decimal) × List (String × Decimal))
  | none => pure (none, none, had.map fun p => (p.status, storedAmount p.amount))
  | some pi => do
    let amount ← toMoney (.double pi.amount)
    match had with
    | first :: rest =>
      let first := { first with
        method := pi.method
        amount := amount.toBinary64
        transactionRef := pi.transactionRef }
      pure (some first, none,
        (first.status, amount) :: rest.map fun p => (p.status, storedAmount p.amount))
    | [] => pure (none, some (pi, amount), [("Success", amount)])

/-- The state a change leaves an order in: when the change sets no state, the order is not
cancelled and it has or gets a payment, paid at `now` when the payments settle its total, with
its dishes back in process unless the change names their state, and pending otherwise. -/
def settleChange (d : OrderPatch) (o : Order) (had : List Payment)
    (amounts : List (String × Decimal)) (total : Decimal) (now : Stamp) :
    Except DecimalSignal Order :=
  if d.status.isNone && o.status != "Cancelled" && (d.payment.isSome || !had.isEmpty) then do
    let paid ← settles amounts total
    pure (if paid then
      { o with
        status := "Paid"
        paidAt := some now
        dishStatus := if d.dishStatus.isNone then "In Process" else o.dishStatus }
    else { o with status := "Pending" })
  else pure o

/-- Store a change of an order: the order, without the lines the change deletes, with its new
lines, and with the payment of the change. -/
def writeChange (d : OrderPatch) (o : Order) (added : List PricedLine) (changed : Option Payment)
    (fresh : Option (PaymentInput × Decimal)) (now : Stamp) : Txn Unit := do
  saveOrder o
  Txn.modifyStore fun s =>
    { s with lines := s.lines.filter fun l => !(l.orderId == o.id && d.deletedItemIds.contains l.id) }
  let _ ← insertLines o.id added
  match changed with
  | some p => Txn.modifyStore fun s => { s with payments := Store.replaceRow (·.id) p s.payments }
  | none => pure ()
  match fresh with
  | some (pi, amount) =>
    let p : Payment :=
      { id := ← Txn.freshId, orderId := o.id, method := pi.method, amount := amount.toBinary64,
        status := "Success", transactionRef := pi.transactionRef, paidAt := now, createdAt := now }
    Txn.modifyStore fun s => { s with payments := s.payments ++ [p] }
  | none => pure ()

/-- Change an order. -/
def updateOrder (r : Request) (ps : List String) : Txn Response := do
  let body ← Input.payload r
  let _ ← Guard.staff r
  let d ← Input.accept (Input.model body OrderPatch.validate)
  let o := mergeHeader d (← orderAt (Route.param ps))
  let s ← Txn.store
  let kept := (sortedLines s o.id).filter fun l => !d.deletedItemIds.contains l.id
  let added ← priceAll d.items
  let total ← moneyStep (orderTotal kept added)
  let o := { o with totalAmount := total.toBinary64 }
  let now ← Txn.rowTime
  let had := sortedPayments s o.id
  let (changed, fresh, amounts) ← moneyStep (paymentChange had d.payment)
  let o ← moneyStep (settleChange d o had amounts total now)
  writeChange d o added changed fresh now
  Reply.ok "Order updated successfully" (orderDetailJson (← Txn.store) o)

/-- Cancel an order and refund its payments. -/
def cancelOrder (r : Request) (ps : List String) : Txn Response := do
  let u ← Guard.staff r
  let o ← orderAt (Route.param ps)
  if o.status == "Cancelled" then Txn.refuse 400 "order is already cancelled"
  if o.dishStatus == "Completed" then Txn.refuse 400 "cannot cancel order that is already completed"
  let o := { o with status := "Cancelled", dishStatus := "Cancelled", cancelledAt := some (← Txn.rowTime) }
  saveOrder o
  let refunded := ((← Txn.store).orderPayments o.id).length
  Txn.modifyStore fun s =>
    { s with payments := s.payments.map fun p => if p.orderId == o.id then { p with status := "Refunded" } else p }
  let _ ← Txn.record
    { ActivityNote.audit "orders" "cancel" "order"
        ("Order cancelled, " ++ toString refunded ++ " payment(s) refunded") with
      entityId := some o.id, userId := some u.id }
  Reply.ok "Order cancelled successfully" (orderJson o)

/-- Mark an order's dishes as completed. -/
def completeOrder (r : Request) (ps : List String) : Txn Response := do
  let _ ← Guard.staff r
  let o ← orderAt (Route.param ps)
  if o.dishStatus != "In Process" then
    Txn.refuse 400 ("dish status must be 'In Process' to mark as completed, current status: " ++ o.dishStatus)
  let o := { o with dishStatus := "Completed" }
  saveOrder o
  Reply.ok "Dish status updated to completed" (orderJson o)

/-- Settle an order with one payment of exactly its total. -/
def payOrder (r : Request) (ps : List String) : Txn Response := do
  let body ← Input.payload r
  let u ← Guard.staff r
  let d ← Input.accept (Input.model body PaymentInput.validateSettling)
  let o ← orderAt (Route.param ps)
  if o.status == "Paid" then Txn.refuse 400 "order already paid"
  if o.status == "Cancelled" then Txn.refuse 400 "cannot pay for cancelled order"
  let amount ← moneyStep (toMoney (.double d.amount))
  let total ← moneyStep (toMoney (.exact (storedAmount o.totalAmount)))
  if !Decimal.numEq amount total then
    Txn.refuse 400 ("payment amount (" ++ amount.toText ++ ") does not match order total (" ++
      total.toText ++ ")")
  let now ← Txn.rowTime
  let o := { o with status := "Paid", paidAt := some now }
  saveOrder o
  let p : Payment :=
    { id := ← Txn.freshId, orderId := o.id, method := d.method, amount := amount.toBinary64,
      status := "Success", transactionRef := d.transactionRef, paidAt := now, createdAt := now }
  Txn.modifyStore fun s => { s with payments := s.payments ++ [p] }
  let _ ← Txn.record
    { ActivityNote.audit "payments" "pay" "order" ("Payment of " ++ amount.toText ++ " via " ++ p.method) with
      entityId := some o.id, userId := some u.id,
      metadata := .obj [("payment_id", .str p.id), ("method", .str p.method)] }
  Reply.ok "Payment processed successfully" (paymentJson p)

/-- The payments of an order, oldest first. -/
def listOrderPayments (r : Request) (ps : List String) : Txn Response := do
  let _ ← Guard.staff r
  let o ← orderAt (Route.param ps)
  Reply.ok "Payments retrieved successfully" (.arr ((sortedPayments (← Txn.store) o.id).map paymentJson))

/-- The lines of an order, oldest first. -/
def listOrderLines (r : Request) (ps : List String) : Txn Response := do
  let _ ← Guard.staff r
  let o ← orderAt (Route.param ps)
  let s ← Txn.store
  Reply.ok "Order details retrieved successfully" (.arr ((sortedLines s o.id).map (lineJson s)))

/-- Add lines to an order that is not cancelled. -/
def addOrderLines (r : Request) (ps : List String) : Txn Response := do
  let body ← Input.payload r
  let _ ← Guard.staff r
  let items ← Input.accept (Input.model body addedLines)
  let o ← orderAt (Route.param ps)
  if o.status == "Cancelled" then Txn.refuse 400 "cannot add items to a cancelled order"
  let priced ← priceAll items
  let total ← moneyStep (orderTotal (sortedLines (← Txn.store) o.id) priced)
  saveOrder { o with totalAmount := total.toBinary64 }
  let rows ← insertLines o.id priced
  let s ← Txn.store
  Reply.created "Order details created successfully" (.arr (rows.map (lineJson s)))

/-! ## Invoices -/

/-- Issue the invoice of an order, with snapshots of its customer and lines. -/
def createInvoice (r : Request) (ps : List String) : Txn Response := do
  let _ ← Guard.staff r
  let o ← orderAt (Route.param ps)
  let s ← Txn.store
  if (s.orderInvoice? o.id).isSome then Txn.refuse 409 "Invoice already exists for this order"
  let now ← Txn.rowTime
  -- with every number of the day taken, the service would draw numbers for ever
  let number ← match freeInvoiceNumber (s.invoices.map (·.invoiceNumber)) now (← Txn.freshId) with
    | some n => pure n
    | none => Txn.fail .internal
  let inv : Invoice :=
    { id := ← Txn.freshId, orderId := some o.id, customerSnapshot := customerSnapshot o,
      itemsSnapshot := itemsSnapshot (sortedLines s o.id), total := storedDouble o.totalAmount,
      invoiceNumber := number, issuedAt := now, pdfUrl := none }
  Txn.modifyStore fun s => { s with invoices := s.invoices ++ [inv] }
  Reply.created "Invoice created successfully" (invoiceJson inv)

/-- The invoice of an order. -/
def getOrderInvoice (r : Request) (ps : List String) : Txn Response := do
  let _ ← Guard.staff r
  match (← Txn.store).orderInvoice? (Route.param ps) with
  | some i => Reply.ok "Invoice retrieved successfully" (invoiceJson i)
  | none => Txn.refuse 404 "Invoice not found"

/-- Every invoice, newest first. -/
def listInvoices (r : Request) (_ : List String) : Txn Response := do
  let _ ← Guard.staff r
  let s ← Txn.store
  Reply.ok "Invoices retrieved successfully"
    (.arr ((descendingBy (fun i => i.issuedAt.wallSeconds) s.invoices).map invoiceJson))

/-- An invoice. -/
def getInvoice (r : Request) (ps : List String) : Txn Response := do
  let _ ← Guard.staff r
  let id := Route.param ps
  match (← Txn.store).invoices.find? (·.id == id) with
  | some i => Reply.ok "Invoice retrieved successfully" (invoiceJson i)
  | none => Txn.refuse 404 "Invoice not found"

/-! ## Payments -/

/-- Every payment, newest first. -/
def listPayments (r : Request) (_ : List String) : Txn Response := do
  let _ ← Guard.staff r
  let s ← Txn.store
  Reply.ok "Payments retrieved successfully"
    (.arr ((descendingBy (fun p => p.createdAt.wallSeconds) s.payments).map paymentJson))

/-- Record a payment against an order directly, leaving the order as it is. -/
def createPayment (r : Request) (_ : List String) : Txn Response := do
  let body ← Input.payload r
  let _ ← Guard.staff r
  let d ← Input.accept (Input.model body PaymentRecord.validate)
  if ((← Txn.store).order? d.orderId).isNone then Txn.refuse 400 "order not found"
  let amount ← moneyStep (toMoney (.double d.payment.amount))
  let now ← Txn.rowTime
  let p : Payment :=
    { id := ← Txn.freshId, orderId := d.orderId, method := d.payment.method,
      amount := amount.toBinary64, status := d.status, transactionRef := d.payment.transactionRef,
      paidAt := now, createdAt := now }
  Txn.modifyStore fun s => { s with payments := s.payments ++ [p] }
  Reply.created "Payment created successfully" (paymentJson p)

/-- The order, payment and invoice routes, in the order they are tried. -/
def orderRoutes : List Route :=
  [ Route.of "POST" "/api/v1/orders" createOrder,
    Route.of "GET" "/api/v1/orders" listOrders,
    Route.of "GET" "/api/v1/orders/\x7bid\x7d" getOrder,
    Route.of "PUT" "/api/v1/orders/\x7bid\x7d" updateOrder,
    Route.of "POST" "/api/v1/orders/\x7bid\x7d/cancel" cancelOrder,
    Route.of "POST" "/api/v1/orders/\x7bid\x7d/complete" completeOrder,
    Route.of "POST" "/api/v1/orders/\x7bid\x7d/payment" payOrder,
    Route.of "GET" "/api/v1/orders/\x7bid\x7d/payments" listOrderPayments,
    Route.of "GET" "/api/v1/orders/\x7bid\x7d/details" listOrderLines,
    Route.of "POST" "/api/v1/orders/\x7bid\x7d/details" addOrderLines,
    Route.of "POST" "/api/v1/orders/\x7bid\x7d/invoice" createInvoice,
    Route.of "GET" "/api/v1/orders/\x7bid\x7d/invoice" getOrderInvoice,
    Route.of "GET" "/api/v1/payments" listPayments,
    Route.of "POST" "/api/v1/payments" createPayment,
    Route.of "GET" "/api/v1/invoices" listInvoices,
    Route.of "GET" "/api/v1/invoices/\x7bid\x7d" getInvoice ]

end Api

end Bistro
