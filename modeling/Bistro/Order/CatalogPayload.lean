import Bistro.Order.Pricing
import Bistro.Payload.Field

/-!
# Bistro — catalogue views as payloads

The catalogue's products and variations can also arrive as payloads: a variation option has a
label, optional numeric modifier and absolute price, and a default flag that is false when
absent; a variation view has an identity, its product, a type, an availability flag and a list
of options, empty when absent.
-/

namespace Bistro

/-- Check a variation option payload. -/
def PriceOption.validate (fs : List (String × Json)) : Validated PriceOption :=
  (fun label m a d => PriceOption.mk label m a d)
    <$> Field.required fs "label" Field.text
    <*> Field.optional fs "price_modifier" Field.number
    <*> Field.optional fs "price_absolute" Field.number
    <*> Field.withDefault fs "is_default" Field.flag false

/-- Check a variation view payload. -/
def VariationView.validate (fs : List (String × Json)) : Validated VariationView :=
  VariationView.mk
    <$> Field.required fs "id" Field.text
    <*> Field.required fs "product_id" Field.text
    <*> Field.required fs "variation_type" Field.text
    <*> Field.required fs "is_available" Field.flag
    <*> Field.withDefault fs "options" (Field.list (Field.model PriceOption.validate)) []

end Bistro
