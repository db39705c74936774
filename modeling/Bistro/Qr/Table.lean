import Bistro.Qr.Code
import Bistro.Qr.Payload
import Bistro.Qr.Symbol
import Bistro.Media.Png
import Bistro.Text.Url
import Bistro.Config

/-!
# Bistro — table codes and their images

A table code's symbol holds the address of its table: the menu address with the store and the
table number as a query. A code without a menu address of its own leads to the service's menu.
Its image is the symbol of that address, and a text too long for any symbol has no image. An
answer shows an image as a PNG data address of the symbol's size.

A change of a code keeps what it does not name; the image is drawn again only when the menu
address, the store or the table changes.
-/

namespace Bistro

namespace Qr

/-- The menu address a code leads to: its own, or the service's when it has none. -/
def menuOf (menuUrl : Option String) : String :=
  match menuUrl with
  | some u => if u.isEmpty then Config.service.menuBaseUrl else u
  | none => Config.service.menuBaseUrl

/-- The address of a table of a store on a menu. -/
def tableAddress (menuUrl storeId tableNumber : String) : String :=
  menuUrl ++ "?" ++ formQuery [("store_id", storeId), ("table_number", tableNumber)]

/-- Whether a text fits a symbol, of version 40 at most. -/
def Drawable (text : String) : Prop := (version? text).isSome

instance (text : String) : Decidable (Drawable text) :=
  inferInstanceAs (Decidable ((version? text).isSome = true))

end Qr

/-- An image as an answer shows it: a PNG data address of the size of its symbol. Only the
size of the picture is drawn, not its modules. -/
def QrImage.dataUrl (i : QrImage) : String :=
  match Qr.version? i.text with
  | some v => Png.squareDataUrl (Qr.imageSide v)
  | none => ""

/-- What a code's image shows: its menu address, store and table. -/
def QrCode.target (q : QrCode) : String × String × String := (q.menuUrl, q.storeId, q.tableNumber)

/-- A code with the changes of a patch; sent values replace stored ones. -/
def Qr.QrPatch.apply (p : QrPatch) (q : QrCode) : QrCode :=
  { q with
    kind := p.kind.getD q.kind
    menuUrl := p.menuUrl.getD q.menuUrl
    expiresAt := p.expiresAt.orElse fun _ => q.expiresAt
    storeId := p.storeId.getD q.storeId
    tableNumber := p.tableNumber.getD q.tableNumber }

/-- A table code as an answer shows it. -/
def QrCode.json (q : QrCode) : Json :=
  .obj [("id", .str q.id), ("code", .str q.code), ("store_id", .str q.storeId),
    ("table_number", .str q.tableNumber), ("type", .str q.kind), ("menu_url", .str q.menuUrl),
    ("expires_at", Stamp.json? q.expiresAt), ("image", .str q.image.dataUrl),
    ("created_at", q.createdAt.json)]

/-- Codes newest first, codes of one time by table number. -/
def QrCode.listed (rows : List QrCode) : List QrCode :=
  rows.mergeSort fun a b =>
    decide (b.createdAt.ordinal < a.createdAt.ordinal) ||
      (decide (a.createdAt.ordinal = b.createdAt.ordinal) && decide (a.tableNumber ≤ b.tableNumber))

end Bistro
