import Bistro.Order.Pricing
import Bistro.Payload.Field

/-!
# Bistro — the order line payload

An order line names an optional product and variation, optional names, a unit price that is a
non-negative number (zero when absent), a quantity of at least one, and an optional note.
-/

namespace Bistro

/-- Check an order line payload. -/
def LineRequest.validate (fs : List (String × Json)) : Validated LineRequest :=
  LineRequest.mk
    <$> Field.optional fs "product_id" Field.text
    <*> Field.optional fs "variation_id" Field.text
    <*> Field.optional fs "product_name" Field.text
    <*> Field.optional fs "variation_name" Field.text
    <*> Field.withDefault fs "unit_price" (fun j => (Field.number j).andThen (Field.numberAtLeast 0))
      Binary64.zero
    <*> Field.required fs "quantity" (fun j => (Field.integer j).andThen (Field.atLeast 1))
    <*> Field.optional fs "note" Field.text

end Bistro
