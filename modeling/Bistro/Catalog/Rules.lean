import Bistro.Store.Basic
import Bistro.Text.Space
import Bistro.Text.Case

/-!
# Bistro — the rules of the catalogue

Every write of a catalogue row is checked against the store first; a refused write gives the
text of the first rule it breaks, and the request answers it as a 400.

* A category needs a name that is not blank, a position that is not negative, and a name that
  no other category has. Names are compared with the stored name lowered in ASCII only and the
  new name trimmed and lowered in full.
* A product needs a category that exists, a name that is not blank and a base price above
  zero; a price that is not a number is not refused here.
* A variation needs a product that exists, a type that is not blank and at least one option,
  each with a label that is not blank.
* A category with products, and a product with variations, cannot be deleted.

A price read back from the store is the stored double rounded to cents.
-/

namespace Bistro

namespace Catalog

/-- Whether a category other than `except` already has a name. -/
def nameTaken (s : Store) (name : String) (except : Option String) : Bool :=
  s.categories.any fun c => asciiLower c.name == lower (trim name) && some c.id != except

/-- Check a category about to be written; `except` is its own id when it is already stored. -/
def checkCategory (s : Store) (c : Category) (except : Option String) : Except String Unit := do
  if isBlankText c.name then throw "category name is required"
  if c.position < 0 then throw "category position cannot be negative"
  if nameTaken s c.name except then throw "category name already exists"

/-- Check a product about to be written. -/
def checkProduct (s : Store) (p : Product) : Except String Unit := do
  match p.categoryId with
  | none => throw "category_id is required"
  | some cid =>
    if cid.isEmpty then throw "category_id is required"
    if (s.category? cid).isNone then throw "category not found"
  if isBlankText p.name then throw "product name is required"
  if Binary64.le p.basePrice Binary64.zero then throw "base price must be greater than zero"

/-- Check a variation about to be written. -/
def checkVariation (s : Store) (v : Variation) : Except String Unit := do
  if v.productId.isEmpty || (s.product? v.productId).isNone then throw "product not found"
  if isBlankText v.variationType then throw "variation type is required"
  if v.options.isEmpty then throw "at least one option is required"
  if v.options.any (fun o => isBlankText o.label) then throw "every option needs a label"

/-- The products of a category. -/
def categoryProducts (s : Store) (categoryId : String) : List Product :=
  s.products.filter (·.categoryId == some categoryId)

/-- Check that a category can be deleted: it has no products. -/
def checkCategoryDeletable (s : Store) (categoryId : String) : Except String Unit :=
  let n := (categoryProducts s categoryId).length
  if n > 0 then throw ("cannot delete category: " ++ toString n ++ " associated products found")
  else pure ()

/-- Check that a product can be deleted: it has no variations. -/
def checkProductDeletable (s : Store) (productId : String) : Except String Unit :=
  let n := (s.productVariations productId).length
  if n > 0 then throw ("cannot delete product: " ++ toString n ++ " associated variations found")
  else pure ()

end Catalog

end Bistro
