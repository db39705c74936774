import Bistro.Time.Stamp

/-!
# Bistro — table codes

A table code links a table of a store to the menu: it has a public code, the menu address it
points to, an optional expiry in UTC wall time, and the image of its QR symbol.

The image is the picture the QR encoder draws of a text, and the encoder draws one picture for
one text; an image is kept here as the text its symbol encodes, and drawn when it is shown.
-/

namespace Bistro

/-- The image of a QR symbol, kept as the text the symbol encodes. -/
structure QrImage where
  text : String
  deriving DecidableEq, Repr

/-- A table code. -/
structure QrCode where
  id : String
  code : String
  storeId : String
  tableNumber : String
  kind : String
  menuUrl : String
  expiresAt : Option Stamp
  image : QrImage
  createdAt : Stamp
  deriving Repr

end Bistro
