import Bistro.Catalog.Payload
import Bistro.Catalog.Basic
import Bistro.Text.Space

/-!
# Bistro — applying change bodies to catalogue rows

A change body replaces the members it sends and keeps the others; a member sent as `null` keeps
the stored value, so a change never clears a field. A category's new name is trimmed, a
product's is kept as sent.

A variation records when it last changed: its time moves only when some value really differs,
compared as the store compares them, so a NaN price in an option differs from every value,
itself included.
-/

namespace Bistro

namespace Catalog

/-- Apply a change to a category. -/
def CategoryPatch.apply (d : CategoryPatch) (c : Category) : Category :=
  { c with
    name := (d.name.map trim).getD c.name
    isActive := d.isActive.getD c.isActive
    position := d.position.getD c.position }

/-- Apply a change to a product. -/
def ProductPatch.apply (d : ProductPatch) (p : Product) : Product :=
  { p with
    categoryId := d.categoryId.orElse fun _ => p.categoryId
    name := d.name.getD p.name
    description := d.description.orElse fun _ => p.description
    imageUrl := d.imageUrl.orElse fun _ => p.imageUrl
    basePrice := d.basePrice.getD p.basePrice
    isAvailable := d.isAvailable.getD p.isAvailable
    position := d.position.getD p.position }

/-- Apply a change to a variation; its times are left as they are. -/
def VariationPatch.apply (d : VariationPatch) (v : Variation) : Variation :=
  { v with
    isDefault := d.isDefault.getD v.isDefault
    isAvailable := d.isAvailable.getD v.isAvailable
    isRequired := d.isRequired.getD v.isRequired
    variationType := d.variationType.getD v.variationType
    options := d.options.getD v.options }

/-- Whether two optional prices are equal as the store compares them. -/
def samePrice : Option Binary64 → Option Binary64 → Bool
  | none, none => true
  | some x, some y => Binary64.eq x y
  | _, _ => false

/-- Whether two options are equal as the store compares them. -/
def sameOption (a b : PriceOption) : Bool :=
  a.label == b.label && samePrice a.priceModifier b.priceModifier &&
    samePrice a.priceAbsolute b.priceAbsolute && a.isDefault == b.isDefault

/-- Whether two option lists are equal as the store compares them. -/
def sameOptions : List PriceOption → List PriceOption → Bool
  | [], [] => true
  | a :: as, b :: bs => sameOption a b && sameOptions as bs
  | _, _ => false

/-- Whether a variation's stored values are all unchanged. -/
def sameVariation (a b : Variation) : Bool :=
  a.isDefault == b.isDefault && a.isAvailable == b.isAvailable && a.isRequired == b.isRequired &&
    a.variationType == b.variationType && sameOptions a.options b.options

/-- A changed variation as stored at `now`: its time moves when a value differs. -/
def touch (old new : Variation) (now : Stamp) : Variation :=
  if sameVariation old new then new else { new with updatedAt := now }

/-- A new variation of a product from a body sent with the product; absent flags take their
defaults and the type is trimmed. -/
def VariationPatch.create (d : VariationPatch) (id productId : String) (now : Stamp) : Variation :=
  { id := id, productId := productId, isDefault := d.isDefault.getD false,
    isAvailable := d.isAvailable.getD true, isRequired := d.isRequired.getD false,
    variationType := trim (d.variationType.getD ""), options := d.options.getD [],
    createdAt := now, updatedAt := now }

end Catalog

end Bistro
