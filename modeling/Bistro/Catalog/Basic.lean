import Bistro.Order.Pricing
import Bistro.Time.Stamp

/-!
# Bistro — catalogue rows

The menu is made of categories, products and their variations. A product's base price is kept
as a double; a variation keeps its options, each with a label, an optional price modifier or
absolute price, and a default flag.
-/

namespace Bistro

/-- A menu category. -/
structure Category where
  id : String
  name : String
  isActive : Bool
  position : Int
  deriving Repr

/-- A product of the menu. -/
structure Product where
  id : String
  categoryId : Option String
  name : String
  description : Option String
  imageUrl : Option String
  basePrice : Binary64
  isAvailable : Bool
  position : Int
  deriving Repr

/-- A variation of a product, such as its sizes. -/
structure Variation where
  id : String
  productId : String
  isDefault : Bool
  isAvailable : Bool
  isRequired : Bool
  variationType : String
  options : List PriceOption
  createdAt : Stamp
  updatedAt : Stamp
  deriving Repr

end Bistro
