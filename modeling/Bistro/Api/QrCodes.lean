import Bistro.Qr.Table
import Bistro.Access.Guard
import Bistro.Http.Route

/-!
# Bistro — the table code routes

A customer at a table opens its code's page by the code alone; a code past its expiry is gone.
Everything else takes a member of staff: listing the codes a page at a time, of all stores or of
one, reading, creating one or a batch, changing and deleting them. A deleted code leaves its
orders without a table code.

A new code draws its public code when it is made and its id when it is stored, so a batch draws
all its codes before any of its ids.
-/

namespace Bistro

namespace Api

open Qr

/-- The code of an id, or a 404. -/
def qrCodeAt (id : String) : Txn QrCode := do
  match (← Txn.store).qrCode? id with
  | some q => pure q
  | none => Txn.refuse 404 "QR code not found"

/-- The image of a table's address, or a failure when it fits no symbol. -/
def tableImage (menuUrl storeId tableNumber : String) : Txn QrImage :=
  let text := tableAddress menuUrl storeId tableNumber
  if Drawable text then pure ⟨text⟩ else Txn.fail .internal

/-- A code for a table, its id still to be drawn. -/
def buildQrCode (kind : String) (menuUrl : Option String) (expiresAt : Option Stamp)
    (storeId tableNumber : String) : Txn QrCode := do
  let code ← Txn.freshId
  let menu := menuOf menuUrl
  let image ← tableImage menu storeId tableNumber
  pure { id := "", code := code, storeId := storeId, tableNumber := tableNumber,
         kind := if kind.isEmpty then "menu" else kind, menuUrl := menu, expiresAt := expiresAt,
         image := image, createdAt := ← Txn.rowTime }

/-- Store new codes, drawing their ids in order. -/
def storeQrCodes (qs : List QrCode) : Txn (List QrCode) := do
  let stored ← qs.mapM fun q => do pure { q with id := ← Txn.freshId }
  Txn.modifyStore fun s => { s with qrCodes := s.qrCodes ++ stored }
  pure stored

/-- The page of a code by its public code. -/
def getQrCodeByCode (_ : Request) (ps : List String) : Txn Response := do
  let code := Route.param ps
  match (← Txn.store).qrCodes.find? (·.code == code) with
  | none => Txn.refuse 404 "QR code not found"
  | some q =>
    let now ← Txn.rowTime
    if q.expiresAt.any (·.ordinal < now.ordinal) then Txn.refuse 410 "QR code has expired"
    else Reply.ok "QR code retrieved successfully" q.json

/-- A page of codes, of one store when one is named. -/
def qrCodePage (r : Request) (store : Option String) : Txn Response := do
  let _ ← Guard.staff r
  let (page, perPage) ← Input.accept (Prod.mk
    <$> Input.pageParam r "page" none 1
    <*> Input.pageParam r "per_page" (some 200) 20)
  let rows := (← Txn.store).qrCodes.filter fun q => store.all (· == q.storeId)
  let offset := (page - 1) * perPage
  Txn.fitsColumn offset
  let shown := ((QrCode.listed rows).drop offset.toNat).take perPage.toNat
  Reply.page "QR codes retrieved successfully" (.arr (shown.map QrCode.json))
    page perPage rows.length

/-- A page of all codes. -/
def listQrCodes (r : Request) (_ : List String) : Txn Response := qrCodePage r none

/-- A page of the codes of a store. -/
def listStoreQrCodes (r : Request) (ps : List String) : Txn Response :=
  qrCodePage r (some (Route.param ps))

/-- A code by its id. -/
def getQrCode (r : Request) (ps : List String) : Txn Response := do
  let _ ← Guard.staff r
  Reply.ok "QR code retrieved successfully" (← qrCodeAt (Route.param ps)).json

/-- Create the code of a table. -/
def createQrCode (r : Request) (_ : List String) : Txn Response := do
  let body ← Input.payload r
  let _ ← Guard.staff r
  let d ← Input.accept (Input.model body QrDraft.validate)
  let q ← buildQrCode d.kind d.menuUrl d.expiresAt d.storeId d.tableNumber
  match ← storeQrCodes [q] with
  | [q] => Reply.created "QR code created successfully" q.json
  | _ => Txn.fail .internal

/-- Create the codes of a run of tables. -/
def createQrCodes (r : Request) (_ : List String) : Txn Response := do
  let body ← Input.payload r
  let _ ← Guard.staff r
  let b ← Input.accept (Input.model body QrBatch.validate)
  let qs ← b.tableNumbers.mapM (buildQrCode b.kind b.menuUrl b.expiresAt b.storeId)
  let stored ← storeQrCodes qs
  Reply.created "QR codes created successfully" (.arr (stored.map QrCode.json))

/-- Change a code, drawing its image again when what it shows changes. -/
def updateQrCode (r : Request) (ps : List String) : Txn Response := do
  let body ← Input.payload r
  let _ ← Guard.staff r
  let p ← Input.accept (Input.model body QrPatch.validate)
  let old ← qrCodeAt (Route.param ps)
  let q := p.apply old
  let q ← if q.target == old.target then pure q
    else do pure { q with image := ← tableImage (menuOf (some q.menuUrl)) q.storeId q.tableNumber }
  Txn.modifyStore fun s => { s with qrCodes := Store.replaceRow (·.id) q s.qrCodes }
  Reply.ok "QR code updated successfully" q.json

/-- Delete a code; its orders keep no table code. -/
def deleteQrCode (r : Request) (ps : List String) : Txn Response := do
  let _ ← Guard.staff r
  let q ← qrCodeAt (Route.param ps)
  Txn.modifyStore fun s =>
    { s with
      qrCodes := s.qrCodes.filter (·.id != q.id)
      orders := s.orders.map fun o => if o.qrId == some q.id then { o with qrId := none } else o }
  Reply.ok "QR code deleted successfully" .null

/-- The table code routes. -/
def qrRoutes : List Route :=
  [ Route.of "GET" "/api/v1/qr-codes/code/\x7bcode\x7d" getQrCodeByCode,
    Route.of "GET" "/api/v1/qr-codes" listQrCodes,
    Route.of "GET" "/api/v1/qr-codes/store/\x7bstore_id\x7d" listStoreQrCodes,
    Route.of "GET" "/api/v1/qr-codes/\x7bqr_id\x7d" getQrCode,
    Route.of "POST" "/api/v1/qr-codes" createQrCode,
    Route.of "POST" "/api/v1/qr-codes/bulk" createQrCodes,
    Route.of "PUT" "/api/v1/qr-codes/\x7bqr_id\x7d" updateQrCode,
    Route.of "DELETE" "/api/v1/qr-codes/\x7bqr_id\x7d" deleteQrCode ]

end Api

end Bistro
