import Bistro.Order.CatalogPayload

/-!
# Bistro — catalogue request payloads

The bodies that create and change catalogue rows. A creation body gives every field a default;
a change body leaves out what it does not change, and a member sent as `null` changes nothing
either. An option of a variation needs a label of at least one character.

A product may be sent with its variations: each variation of a change body names, by `id`, the
stored variation it changes, or none for a new one.
-/

namespace Bistro

namespace Catalog

/-- A new category. -/
structure CategoryDraft where
  name : String
  isActive : Bool
  position : Int
  deriving Repr

/-- A change of a category. -/
structure CategoryPatch where
  name : Option String
  isActive : Option Bool
  position : Option Int
  deriving Repr

/-- A new product. -/
structure ProductDraft where
  categoryId : Option String
  name : String
  description : Option String
  imageUrl : Option String
  basePrice : Binary64
  isAvailable : Bool
  position : Int
  deriving Repr

/-- A change of a product. -/
structure ProductPatch where
  categoryId : Option String
  name : Option String
  description : Option String
  imageUrl : Option String
  basePrice : Option Binary64
  isAvailable : Option Bool
  position : Option Int
  deriving Repr

/-- A new variation of a product. -/
structure VariationDraft where
  isDefault : Bool
  isAvailable : Bool
  isRequired : Bool
  variationType : String
  options : List PriceOption
  productId : String
  deriving Repr

/-- A change of a variation; sent with its product, `id` names the variation it changes. -/
structure VariationPatch where
  isDefault : Option Bool
  isAvailable : Option Bool
  isRequired : Option Bool
  variationType : Option String
  options : Option (List PriceOption)
  id : Option String := none
  deriving Repr

/-- A new product with its variations. -/
structure ProductBundle where
  product : ProductDraft
  variations : List VariationPatch
  deriving Repr

/-- A change of a product and its variations; `prune` removes the variations not named. -/
structure ProductBundlePatch where
  product : ProductPatch
  variations : List VariationPatch
  prune : Bool
  deriving Repr

/-- Check an option of a variation. -/
def optionOf (fs : List (String × Json)) : Validated PriceOption :=
  PriceOption.mk
    <$> Field.required fs "label" (Field.boundedText 1 none)
    <*> Field.optional fs "price_modifier" Field.number
    <*> Field.optional fs "price_absolute" Field.number
    <*> Field.withDefault fs "is_default" Field.flag false

/-- Check a list of variation options. -/
def optionsOf : Json → Validated (List PriceOption) := Field.list (Field.model optionOf)

/-- Check a new category. -/
def CategoryDraft.validate (fs : List (String × Json)) : Validated CategoryDraft :=
  CategoryDraft.mk
    <$> Field.withDefault fs "name" Field.text ""
    <*> Field.withDefault fs "is_active" Field.flag true
    <*> Field.withDefault fs "position" Field.integer 0

/-- Check a change of a category. -/
def CategoryPatch.validate (fs : List (String × Json)) : Validated CategoryPatch :=
  CategoryPatch.mk
    <$> Field.optional fs "name" Field.text
    <*> Field.optional fs "is_active" Field.flag
    <*> Field.optional fs "position" Field.integer

/-- Check a new product. -/
def ProductDraft.validate (fs : List (String × Json)) : Validated ProductDraft :=
  ProductDraft.mk
    <$> Field.optional fs "category_id" Field.text
    <*> Field.withDefault fs "name" Field.text ""
    <*> Field.optional fs "description" Field.text
    <*> Field.optional fs "image_url" Field.text
    <*> Field.withDefault fs "base_price" Field.number Binary64.zero
    <*> Field.withDefault fs "is_available" Field.flag true
    <*> Field.withDefault fs "position" Field.integer 0

/-- Check a change of a product. -/
def ProductPatch.validate (fs : List (String × Json)) : Validated ProductPatch :=
  ProductPatch.mk
    <$> Field.optional fs "category_id" Field.text
    <*> Field.optional fs "name" Field.text
    <*> Field.optional fs "description" Field.text
    <*> Field.optional fs "image_url" Field.text
    <*> Field.optional fs "base_price" Field.number
    <*> Field.optional fs "is_available" Field.flag
    <*> Field.optional fs "position" Field.integer

/-- Check a new variation. -/
def VariationDraft.validate (fs : List (String × Json)) : Validated VariationDraft :=
  VariationDraft.mk
    <$> Field.withDefault fs "is_default" Field.flag false
    <*> Field.withDefault fs "is_available" Field.flag true
    <*> Field.withDefault fs "is_required" Field.flag false
    <*> Field.withDefault fs "variation_type" Field.text ""
    <*> Field.withDefault fs "options" optionsOf []
    <*> Field.required fs "product_id" Field.text

/-- Check a change of a variation. -/
def VariationPatch.validate (fs : List (String × Json)) : Validated VariationPatch :=
  (fun d a r t o => VariationPatch.mk d a r t o none)
    <$> Field.optional fs "is_default" Field.flag
    <*> Field.optional fs "is_available" Field.flag
    <*> Field.optional fs "is_required" Field.flag
    <*> Field.optional fs "variation_type" Field.text
    <*> Field.optional fs "options" optionsOf

/-- Check a variation sent with its product. -/
def VariationPatch.validateNamed (fs : List (String × Json)) : Validated VariationPatch :=
  (fun (p : VariationPatch) i => { p with id := i })
    <$> VariationPatch.validate fs
    <*> Field.optional fs "id" Field.text

/-- Check the variations sent with a product. -/
def variationsOf : Json → Validated (List VariationPatch) :=
  Field.list (Field.model VariationPatch.validateNamed)

/-- Check a new product with its variations. -/
def ProductBundle.validate (fs : List (String × Json)) : Validated ProductBundle :=
  ProductBundle.mk
    <$> ProductDraft.validate fs
    <*> Field.withDefault fs "variations" variationsOf []

/-- Check a change of a product and its variations. -/
def ProductBundlePatch.validate (fs : List (String × Json)) : Validated ProductBundlePatch :=
  ProductBundlePatch.mk
    <$> ProductPatch.validate fs
    <*> Field.withDefault fs "variations" variationsOf []
    <*> Field.withDefault fs "remove_other_variations" Field.flag false

end Catalog

end Bistro
