import Bistro.Catalog.Rules
import Bistro.Store.Sorting

/-!
# Bistro — catalogue rows as responses show them

A product shows its category's name beside the category's id and, in its detailed form, its
variations in the order they were made. A variation shows its options with every member, an
absent price as `null`, and its times without a zone. A category may show its products, by
position.

The price a product shows is passed in, as a product just made shows the price it was sent
with while one read from the store shows the price rounded to cents.
-/

namespace Bistro

namespace Catalog

/-- A variation option. -/
def optionJson (o : PriceOption) : Json :=
  .obj [("label", .str o.label), ("price_modifier", Json.ofNumber? o.priceModifier),
    ("price_absolute", Json.ofNumber? o.priceAbsolute), ("is_default", .bool o.isDefault)]

/-- A variation. -/
def variationJson (v : Variation) : Json :=
  .obj [("is_default", .bool v.isDefault), ("is_available", .bool v.isAvailable),
    ("is_required", .bool v.isRequired), ("variation_type", .str v.variationType),
    ("options", .arr (v.options.map optionJson)), ("id", .str v.id),
    ("product_id", .str v.productId), ("created_at", v.createdAt.json),
    ("updated_at", v.updatedAt.json)]

/-- The members of a product showing `price` as its base price. -/
def productFields (s : Store) (p : Product) (price : Binary64) : List (String × Json) :=
  [("id", .str p.id), ("category_id", Json.ofOption p.categoryId),
    ("category_name", Json.ofOption ((p.categoryId.bind s.category?).map (·.name))),
    ("name", .str p.name), ("description", Json.ofOption p.description),
    ("image_url", Json.ofOption p.imageUrl), ("base_price", Json.ofNumber price),
    ("is_available", .bool p.isAvailable), ("position", .int p.position)]

/-- A product showing `price` as its base price. -/
def productJsonAt (s : Store) (p : Product) (price : Binary64) : Json := .obj (productFields s p price)

/-- A product as read from the store. -/
def productJson (s : Store) (p : Product) : Json := productJsonAt s p (storedDouble p.basePrice)

/-- A product as read from the store, with its variations. -/
def productDetailJson (s : Store) (p : Product) : Json :=
  .obj (productFields s p (storedDouble p.basePrice) ++
    [("variations", .arr ((s.productVariations p.id).map variationJson))])

/-- The members of a category. -/
def categoryFields (c : Category) : List (String × Json) :=
  [("id", .str c.id), ("name", .str c.name), ("is_active", .bool c.isActive),
    ("position", .int c.position)]

/-- A category. -/
def categoryJson (c : Category) : Json := .obj (categoryFields c)

/-- A category with its products by position. -/
def categoryDetailJson (s : Store) (c : Category) : Json :=
  .obj (categoryFields c ++
    [("products", .arr ((ascendingBy (·.position) (categoryProducts s c.id)).map (productDetailJson s)))])

end Catalog

end Bistro
