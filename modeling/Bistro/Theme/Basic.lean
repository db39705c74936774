/-!
# Bistro — storefront themes

A theme names the colours and images of a storefront. At most one theme is the default.
-/

namespace Bistro

/-- A storefront theme. -/
structure Theme where
  id : String
  name : String
  primaryColor : Option String
  secondaryColor : Option String
  accentColor : Option String
  backgroundColor : Option String
  logoUrl : Option String
  faviconUrl : Option String
  isDefault : Bool
  deriving Repr

end Bistro
