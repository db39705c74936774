import Bistro.Money

/-!
# Bistro — pricing order lines

A line that names a product takes the product's name and price from the catalogue: the price is
the base price, replaced by the absolute price of the variation's default option, or shifted by
that option's modifier. A line without a product keeps the name, variation name and unit price
the customer sent. Either way the line total is the unit price times the quantity, and the
order total is the sum of the two-place amounts of the line totals.

The checks stop at the first line that fails: a variation without a product, a product-less
line without a name, a product or variation that does not exist, a variation of another
product.
-/

namespace Bistro

/-- One option of a variation, as pricing sees it. -/
structure PriceOption where
  label : String
  priceModifier : Option Binary64
  priceAbsolute : Option Binary64
  isDefault : Bool
  deriving DecidableEq, Repr

/-- A variation as other parts of the service see it. -/
structure VariationView where
  id : String
  productId : String
  variationType : String
  isAvailable : Bool
  options : List PriceOption
  deriving Repr

/-- A product as other parts of the service see it. -/
structure ProductView where
  id : String
  name : String
  basePrice : Amount
  isAvailable : Bool
  imageUrl : Option String
  deriving Repr

/-- Read access to the catalogue. -/
structure CatalogView where
  product? : String → Option ProductView
  variation? : String → Option VariationView

/-- An order line as the customer sends it. -/
structure LineRequest where
  productId : Option String
  variationId : Option String
  productName : Option String
  variationName : Option String
  unitPrice : Binary64
  quantity : Int
  note : Option String
  deriving Repr

/-- A priced line, ready to be stored. -/
structure PricedLine where
  productId : Option String
  variationId : Option String
  productName : String
  variationName : Option String
  unitPrice : Decimal
  quantity : Int
  totalPrice : Decimal
  note : Option String
  deriving Repr

/-- Why a line cannot be priced. -/
inductive PricingError where
  /-- The line is refused, with the reason given to the customer. -/
  | rejected (detail : String)
  /-- A price has no two-place amount. -/
  | decimal (signal : DecimalSignal)
  deriving DecidableEq, Repr

/-- The first option marked as default. -/
def defaultOption? (v : Option VariationView) : Option PriceOption :=
  v.bind fun v => v.options.find? (·.isDefault)

/-- The unit price of a product with a base price and an optional variation. -/
def unitPriceFor (base : Amount) (v : Option VariationView) : Except DecimalSignal Decimal :=
  match defaultOption? v with
  | some o =>
    match o.priceAbsolute, o.priceModifier with
    | some a, _ => toMoney (.double a)
    | none, some m => do
      let b ← toMoney base
      let d ← toMoney (.double m)
      Decimal.add b d
    | none, none => toMoney base
  | none => toMoney base

/-- Lift a money failure into a pricing failure. -/
def liftMoney {α : Type} : Except DecimalSignal α → Except PricingError α
  | .ok a => .ok a
  | .error s => .error (.decimal s)

/-- Whether an optional text is present and not empty. -/
def isFilled : Option String → Bool
  | some s => !s.isEmpty
  | none => false

/-- The variation a line names for its product: none for an absent or empty id; a variation that
does not exist, or belongs to another product, is refused. -/
def lineVariation (cat : CatalogView) (product : ProductView) :
    Option String → Except PricingError (Option VariationView)
  | some vid =>
    if vid.isEmpty then pure none
    else
      match cat.variation? vid with
      | none => .error (.rejected ("variation not found: " ++ vid))
      | some v =>
        if v.productId != product.id then .error (.rejected "variation does not belong to product")
        else pure (some v)
  | none => pure none

/-- The name, variation name and unit price of a line: from the catalogue for a line that names a
product, as sent for one that does not. -/
def lineHead (cat : CatalogView) (item : LineRequest) :
    Except PricingError (String × Option String × Decimal) :=
  match item.productId with
  | none =>
    if isFilled item.variationId then
      .error (.rejected "product_id is required when variation_id is set")
    else
      let name := trim (item.productName.getD "")
      if name.isEmpty then .error (.rejected "product_name is required for lines without a product")
      else do
        let u ← liftMoney (toMoney (.double item.unitPrice))
        pure (name, item.variationName, u)
  | some pid =>
    match cat.product? pid with
    | none => .error (.rejected ("product not found: " ++ pid))
    | some product => do
      let variation ← lineVariation cat product item.variationId
      let u ← liftMoney (unitPriceFor product.basePrice variation)
      pure (product.name, (defaultOption? variation).map (·.label), u)

/-- Price one line against the catalogue. -/
def priceLine (cat : CatalogView) (item : LineRequest) : Except PricingError PricedLine := do
  let (name, variationName, unit) ← lineHead cat item
  let total ← liftMoney (Decimal.mul unit (Decimal.ofInt item.quantity))
  pure {
    productId := item.productId
    variationId := item.variationId
    productName := name
    variationName := variationName
    unitPrice := unit
    quantity := item.quantity
    totalPrice := total
    note := item.note }

/-- Price every line, stopping at the first that fails. -/
def priceLines (cat : CatalogView) (items : List LineRequest) : Except PricingError (List PricedLine) :=
  items.mapM (priceLine cat)

/-- The order total of some line totals: the sum of their two-place amounts. -/
def sumTotals (totals : List Decimal) : Except DecimalSignal Decimal :=
  sumMoney (totals.map Amount.exact)

end Bistro
