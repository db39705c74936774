import Bistro.Order.LinePayload
import Bistro.Order.Basic

/-!
# Bistro — order request payloads

A new order names its customer and phone, at most 150 and 30 characters before they are
trimmed, a table number of at least one, optional notes and links, and at least one line. A
change of an order may replace its header, add lines, remove lines by id and record a payment.
A payment names a method, a non-negative amount and an optional reference; settling an order
takes an amount above zero.
-/

namespace Bistro

namespace Orders

/-- A new order. -/
structure OrderDraft where
  customerName : String
  customerPhone : String
  tableNumber : Int
  notes : Option String
  userId : Option String
  qrId : Option String
  lines : List LineRequest
  deriving Repr

/-- A payment as a request gives it. -/
structure PaymentInput where
  method : String
  amount : Binary64
  transactionRef : Option String
  deriving Repr

/-- A change of an order. -/
structure OrderPatch where
  customerName : Option String
  customerPhone : Option String
  tableNumber : Option Int
  notes : Option String
  status : Option String
  dishStatus : Option String
  items : List LineRequest
  deletedItemIds : List String
  payment : Option PaymentInput
  deriving Repr

/-- A payment recorded directly against an order. -/
structure PaymentRecord where
  payment : PaymentInput
  orderId : String
  status : String
  deriving Repr

/-- Check the lines of an order. -/
def lineListOf : Json → Validated (List LineRequest) := Field.list (Field.model LineRequest.validate)

/-- Check at least one line. -/
def someLines (j : Json) : Validated (List LineRequest) := (lineListOf j).andThen (Field.minItems 1)

/-- Check a text of at most `n` characters, then trim it. -/
def trimmedText (n : Nat) (j : Json) : Validated String := trim <$> Field.boundedText 0 (some n) j

/-- Check a new order. -/
def OrderDraft.validate (fs : List (String × Json)) : Validated OrderDraft :=
  OrderDraft.mk
    <$> Field.required fs "customer_name" (trimmedText 150)
    <*> Field.required fs "customer_phone" (trimmedText 30)
    <*> Field.required fs "table_number" (fun j => (Field.integer j).andThen (Field.atLeast 1))
    <*> Field.optional fs "notes" Field.text
    <*> Field.optional fs "user_id" Field.text
    <*> Field.optional fs "qr_id" Field.text
    <*> Field.required fs "details" someLines

/-- Check a payment whose amount passes `amount`. -/
def PaymentInput.validateWith (amount : Binary64 → Validated Binary64) (fs : List (String × Json)) :
    Validated PaymentInput :=
  PaymentInput.mk
    <$> Field.required fs "method" (Field.choice paymentMethods)
    <*> Field.required fs "amount" (fun j => (Field.number j).andThen amount)
    <*> Field.optional fs "transaction_ref" Field.text

/-- Check a payment of a non-negative amount. -/
def PaymentInput.validate : List (String × Json) → Validated PaymentInput :=
  PaymentInput.validateWith (Field.numberAtLeast 0)

/-- Check a payment that settles an order: its amount is above zero. -/
def PaymentInput.validateSettling : List (String × Json) → Validated PaymentInput :=
  PaymentInput.validateWith (Field.numberAbove 0)

/-- Check a change of an order. -/
def OrderPatch.validate (fs : List (String × Json)) : Validated OrderPatch :=
  OrderPatch.mk
    <$> Field.optional fs "customer_name" Field.text
    <*> Field.optional fs "customer_phone" Field.text
    <*> Field.optional fs "table_number" (fun j => (Field.integer j).andThen (Field.atLeast 1))
    <*> Field.optional fs "notes" Field.text
    <*> Field.optional fs "status" (Field.choice orderStatuses)
    <*> Field.optional fs "dish_status" (Field.choice dishStatuses)
    <*> Field.withDefault fs "items" lineListOf []
    <*> Field.withDefault fs "deleted_item_ids" (Field.list Field.text) []
    <*> Field.optional fs "payment" (Field.model PaymentInput.validate)

/-- Check a payment recorded directly. -/
def PaymentRecord.validate (fs : List (String × Json)) : Validated PaymentRecord :=
  PaymentRecord.mk
    <$> PaymentInput.validate fs
    <*> Field.required fs "order_id" Field.text
    <*> Field.withDefault fs "status" (Field.choice paymentStatuses) "Success"

/-- Check the lines added to an order. -/
def addedLines (fs : List (String × Json)) : Validated (List LineRequest) :=
  Field.required fs "details" someLines

end Orders

end Bistro
