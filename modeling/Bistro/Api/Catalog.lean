import Bistro.Catalog.View
import Bistro.Catalog.Change
import Bistro.Access.Guard
import Bistro.Media.Upload
import Bistro.Http.Route

/-!
# Bistro — the catalogue routes

Anyone may read the catalogue; writing it takes an administrator. A write is checked by the
rules of the catalogue before it is stored, and a product's image is published to the file
store before the product records its address.

A route that writes reads its body first, then checks the caller, then the body's fields.
-/

namespace Bistro

namespace Api

open Catalog

/-! ## Categories -/

/-- The categories by position and name, with their products when asked. -/
def listCategories (r : Request) (_ : List String) : Txn Response := do
  let full ← Input.accept (Input.query r "include_products" Field.flag false)
  let s ← Txn.store
  let rows := byPositionName (·.position) (·.name) s.categories
  Reply.ok "Categories retrieved successfully"
    (.arr (rows.map fun c => if full then categoryDetailJson s c else categoryJson c))

/-- The category of a path, or a 404. -/
def categoryAt (id : String) : Txn Category := do
  match (← Txn.store).category? id with
  | some c => pure c
  | none => Txn.refuse 404 "Category not found"

/-- A category, with its products when asked. -/
def getCategory (r : Request) (ps : List String) : Txn Response := do
  let full ← Input.accept (Input.query r "include_products" Field.flag false)
  let c ← categoryAt (Route.param ps)
  let s ← Txn.store
  Reply.ok "Category retrieved successfully" (if full then categoryDetailJson s c else categoryJson c)

/-- Make a category. -/
def createCategory (r : Request) (_ : List String) : Txn Response := do
  let body ← Input.payload r
  let _ ← Guard.admin r
  let d ← Input.accept (Input.model body CategoryDraft.validate)
  let c : Category := { id := "", name := trim d.name, isActive := d.isActive, position := d.position }
  Txn.ensure 400 (checkCategory (← Txn.store) c none)
  let c := { c with id := ← Txn.freshId }
  Txn.fitsColumn c.position
  Txn.modifyStore fun s => { s with categories := s.categories ++ [c] }
  Reply.created "Category created successfully" (categoryJson c)

/-- Change a category. -/
def updateCategory (r : Request) (ps : List String) : Txn Response := do
  let body ← Input.payload r
  let _ ← Guard.admin r
  let d ← Input.accept (Input.model body CategoryPatch.validate)
  let c := d.apply (← categoryAt (Route.param ps))
  Txn.ensure 400 (checkCategory (← Txn.store) c (some c.id))
  Txn.fitsColumn c.position
  Txn.modifyStore fun s => { s with categories := Store.replaceRow (·.id) c s.categories }
  Reply.ok "Category updated successfully" (categoryJson c)

/-- Delete a category without products. -/
def deleteCategory (r : Request) (ps : List String) : Txn Response := do
  let _ ← Guard.admin r
  let c ← categoryAt (Route.param ps)
  Txn.ensure 400 (checkCategoryDeletable (← Txn.store) c.id)
  Txn.modifyStore fun s => { s with categories := s.categories.filter (·.id != c.id) }
  Reply.ok "Category deleted successfully" .null

/-! ## Products -/

/-- A page of products by position and name, of one category when asked. -/
def listProducts (r : Request) (_ : List String) : Txn Response := do
  let (page, perPage, cat) ← Input.accept ((fun a b c => (a, b, c))
    <$> Input.pageParam r "page" none 1
    <*> Input.pageParam r "per_page" (some 100) 10
    <*> Input.query? r "category_id" Field.text)
  let s ← Txn.store
  let rows := match cat with
    | some c => if c.isEmpty then s.products else s.products.filter (·.categoryId == some c)
    | none => s.products
  let offset := (page - 1) * perPage
  Txn.fitsColumn offset
  let shown := ((byPositionName (·.position) (·.name) rows).drop offset.toNat).take perPage.toNat
  Reply.page "Products retrieved successfully" (.arr (shown.map (productJson s)))
    page perPage rows.length

/-- The product of a path, or a 404. -/
def productAt (id : String) : Txn Product := do
  match (← Txn.store).product? id with
  | some p => pure p
  | none => Txn.refuse 404 "Product not found"

/-- A product with its variations. -/
def getProduct (_ : Request) (ps : List String) : Txn Response := do
  let p ← productAt (Route.param ps)
  Reply.ok "Product retrieved successfully" (productDetailJson (← Txn.store) p)

/-- The variations of a product, oldest first. -/
def listProductVariations (_ : Request) (ps : List String) : Txn Response := do
  let p ← productAt (Route.param ps)
  let s ← Txn.store
  Reply.ok "Variations retrieved successfully"
    (.arr ((ascendingBy (fun v => v.createdAt.wallSeconds) (s.productVariations p.id)).map variationJson))

/-- Store a new product made from a body, checked by the rules. -/
def addProduct (d : ProductDraft) : Txn Product := do
  let p : Product :=
    { id := "", categoryId := d.categoryId, name := trim d.name, description := d.description,
      imageUrl := d.imageUrl, basePrice := d.basePrice, isAvailable := d.isAvailable,
      position := d.position }
  Txn.ensure 400 (checkProduct (← Txn.store) p)
  let p := { p with id := ← Txn.freshId }
  Txn.fitsColumn p.position
  Txn.moneyColumn p.basePrice
  Txn.modifyStore fun s => { s with products := s.products ++ [p] }
  pure p

/-- Store a changed product, checked by the rules. -/
def saveProduct (p : Product) : Txn Unit := do
  Txn.ensure 400 (checkProduct (← Txn.store) p)
  Txn.fitsColumn p.position
  Txn.moneyColumn p.basePrice
  Txn.modifyStore fun s => { s with products := Store.replaceRow (·.id) p s.products }

/-- A stored product as a change starts from: its price as read back. -/
def storedProductAt (id : String) : Txn Product := do
  let p ← productAt id
  pure { p with basePrice := storedDouble p.basePrice }

/-- Store a new variation, checked by the rules. -/
def addVariation (v : Variation) : Txn Variation := do
  Txn.ensure 400 (checkVariation (← Txn.store) v)
  let v := { v with id := ← Txn.freshId }
  Txn.modifyStore fun s => { s with variations := s.variations ++ [v] }
  pure v

/-- Store a changed variation, checked by the rules; its time moves when a value differs. -/
def saveVariation (old new : Variation) : Txn Variation := do
  Txn.ensure 400 (checkVariation (← Txn.store) new)
  let v := touch old new (← Txn.rowTime)
  Txn.modifyStore fun s => { s with variations := Store.replaceRow (·.id) v s.variations }
  pure v

/-- Delete a variation; order lines that named it keep their copy and lose the link. -/
def dropVariation (id : String) : Txn Unit :=
  Txn.modifyStore fun s =>
    { s with
      variations := s.variations.filter (·.id != id)
      lines := s.lines.map fun l => if l.variationId == some id then { l with variationId := none } else l }

/-- Make a product. -/
def createProduct (r : Request) (_ : List String) : Txn Response := do
  let body ← Input.payload r
  let _ ← Guard.admin r
  let d ← Input.accept (Input.model body ProductDraft.validate)
  let p ← addProduct d
  Reply.created "Product created successfully" (productJsonAt (← Txn.store) p d.basePrice)

/-- Make a product with its variations. -/
def createProductBundle (r : Request) (_ : List String) : Txn Response := do
  let body ← Input.payload r
  let _ ← Guard.admin r
  let d ← Input.accept (Input.model body ProductBundle.validate)
  let p ← addProduct d.product
  for item in d.variations do
    let _ ← addVariation (item.create "" p.id (← Txn.rowTime))
  Reply.created "Product created successfully" (productDetailJson (← Txn.store) p)

/-- Change a product. -/
def updateProduct (r : Request) (ps : List String) : Txn Response := do
  let body ← Input.payload r
  let _ ← Guard.admin r
  let d ← Input.accept (Input.model body ProductPatch.validate)
  let p := d.apply (← storedProductAt (Route.param ps))
  saveProduct p
  Reply.ok "Product updated successfully" (productJson (← Txn.store) p)

/-- Apply one variation body sent with a product: change the stored variation it names, which
must be one the product had, or make a new one. Gives the id kept. -/
def applyVariation (p : Product) (had : List String) (item : VariationPatch) : Txn String := do
  match item.id with
  | some vid =>
    if vid.isEmpty then
      let v ← addVariation (item.create "" p.id (← Txn.rowTime))
      pure v.id
    else if had.contains vid then
      match (← Txn.store).variation? vid with
      | some old =>
        let _ ← saveVariation old (item.apply old)
        pure vid
      | none => Txn.refuse 400 ("variation " ++ vid ++ " does not belong to this product")
    else Txn.refuse 400 ("variation " ++ vid ++ " does not belong to this product")
  | none =>
    let v ← addVariation (item.create "" p.id (← Txn.rowTime))
    pure v.id

/-- Change a product and its variations. -/
def updateProductBundle (r : Request) (ps : List String) : Txn Response := do
  let body ← Input.payload r
  let _ ← Guard.admin r
  let d ← Input.accept (Input.model body ProductBundlePatch.validate)
  let p := d.product.apply (← storedProductAt (Route.param ps))
  saveProduct p
  let had := ((← Txn.store).productVariations p.id).map (·.id)
  let kept ← d.variations.mapM (applyVariation p had)
  if d.prune then
    for vid in had do
      if !kept.contains vid then dropVariation vid
  Reply.ok "Product updated successfully" (productDetailJson (← Txn.store) p)

/-- Publish a product's image and record its address. -/
def uploadProductImage (r : Request) (ps : List String) : Txn Response := do
  let _ ← Guard.admin r
  let file ← Input.accept (Input.formFile r "file")
  let p ← storedProductAt (Route.param ps)
  let url ← Media.publish file "products" r.storageFails
  let p := { p with imageUrl := some url }
  Txn.modifyStore fun s => { s with products := Store.replaceRow (·.id) p s.products }
  Reply.ok "Product image uploaded successfully" (productJson (← Txn.store) p)

/-- Delete a product without variations; order lines that named it lose the link. -/
def deleteProduct (r : Request) (ps : List String) : Txn Response := do
  let _ ← Guard.admin r
  let p ← productAt (Route.param ps)
  Txn.ensure 400 (checkProductDeletable (← Txn.store) p.id)
  Txn.modifyStore fun s =>
    { s with
      products := s.products.filter (·.id != p.id)
      lines := s.lines.map fun l => if l.productId == some p.id then { l with productId := none } else l }
  Reply.ok "Product deleted successfully" .null

/-! ## Variations -/

/-- Every variation, oldest first. -/
def listVariations (_ : Request) (_ : List String) : Txn Response := do
  let s ← Txn.store
  Reply.ok "Variations retrieved successfully"
    (.arr ((ascendingBy (fun v => v.createdAt.wallSeconds) s.variations).map variationJson))

/-- The variation of a path, or a 404. -/
def variationAt (id : String) : Txn Variation := do
  match (← Txn.store).variation? id with
  | some v => pure v
  | none => Txn.refuse 404 "Variation not found"

/-- A variation. -/
def getVariation (_ : Request) (ps : List String) : Txn Response := do
  Reply.ok "Variation retrieved successfully" (variationJson (← variationAt (Route.param ps)))

/-- Make a variation. -/
def createVariation (r : Request) (_ : List String) : Txn Response := do
  let body ← Input.payload r
  let _ ← Guard.admin r
  let d ← Input.accept (Input.model body VariationDraft.validate)
  let now ← Txn.rowTime
  let v ← addVariation
    { id := "", productId := d.productId, isDefault := d.isDefault, isAvailable := d.isAvailable,
      isRequired := d.isRequired, variationType := trim d.variationType, options := d.options,
      createdAt := now, updatedAt := now }
  Reply.created "Variation created successfully" (variationJson v)

/-- Change a variation. -/
def updateVariation (r : Request) (ps : List String) : Txn Response := do
  let body ← Input.payload r
  let _ ← Guard.admin r
  let d ← Input.accept (Input.model body VariationPatch.validate)
  let old ← variationAt (Route.param ps)
  let v ← saveVariation old (d.apply old)
  Reply.ok "Variation updated successfully" (variationJson v)

/-- Delete a variation. -/
def deleteVariation (r : Request) (ps : List String) : Txn Response := do
  let _ ← Guard.admin r
  let v ← variationAt (Route.param ps)
  dropVariation v.id
  Reply.ok "Variation deleted successfully" .null

/-- The catalogue routes, in the order they are tried. -/
def catalogRoutes : List Route :=
  [ Route.of "GET" "/api/v1/categories" listCategories,
    Route.of "GET" "/api/v1/categories/\x7bid\x7d" getCategory,
    Route.of "POST" "/api/v1/categories" createCategory,
    Route.of "PUT" "/api/v1/categories/\x7bid\x7d" updateCategory,
    Route.of "DELETE" "/api/v1/categories/\x7bid\x7d" deleteCategory,
    Route.of "GET" "/api/v1/products" listProducts,
    Route.of "GET" "/api/v1/products/\x7bid\x7d" getProduct,
    Route.of "GET" "/api/v1/products/\x7bid\x7d/variations" listProductVariations,
    Route.of "POST" "/api/v1/products" createProduct,
    Route.of "POST" "/api/v1/products/with-variations" createProductBundle,
    Route.of "PUT" "/api/v1/products/\x7bid\x7d" updateProduct,
    Route.of "PUT" "/api/v1/products/\x7bid\x7d/with-variations" updateProductBundle,
    Route.of "POST" "/api/v1/products/\x7bid\x7d/image" uploadProductImage,
    Route.of "DELETE" "/api/v1/products/\x7bid\x7d" deleteProduct,
    Route.of "GET" "/api/v1/variations" listVariations,
    Route.of "GET" "/api/v1/variations/\x7bid\x7d" getVariation,
    Route.of "POST" "/api/v1/variations" createVariation,
    Route.of "PUT" "/api/v1/variations/\x7bid\x7d" updateVariation,
    Route.of "DELETE" "/api/v1/variations/\x7bid\x7d" deleteVariation ]

end Api

end Bistro
