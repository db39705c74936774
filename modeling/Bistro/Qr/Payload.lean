import Bistro.Payload.Field
import Bistro.Time.Reading

/-!
# Bistro — table code request payloads

The bodies that create and change table codes. Every body may give the kind of code, the menu
address it leads to and an expiry; an expiry with a zone is kept as its UTC wall time, one
without a zone as it is. A new code names its store and table, a table number being one to
twenty characters; a batch names its store, how many tables (one to five hundred) and the first
table number (at least one, one by default). A change leaves out what it does not change.
-/

namespace Bistro

namespace Qr

/-- A new table code. -/
structure QrDraft where
  kind : String
  menuUrl : Option String
  expiresAt : Option Stamp
  storeId : String
  tableNumber : String
  deriving Repr

/-- Codes for a run of consecutive tables of a store. -/
structure QrBatch where
  kind : String
  menuUrl : Option String
  expiresAt : Option Stamp
  storeId : String
  tableCount : Int
  startNumber : Int
  deriving Repr

/-- A change of a table code. -/
structure QrPatch where
  kind : Option String
  menuUrl : Option String
  expiresAt : Option Stamp
  storeId : Option String
  tableNumber : Option String
  deriving Repr

/-- An expiry, kept as a UTC wall time. -/
def expiry (j : Json) : Validated Stamp := (Field.stamp j).map Stamp.toUtcWall

/-- A table number. -/
def tableNumberField : Json → Validated String := Field.boundedText 1 (some 20)

/-- Check a new table code. -/
def QrDraft.validate (fs : List (String × Json)) : Validated QrDraft :=
  QrDraft.mk
    <$> Field.withDefault fs "type" Field.text "menu"
    <*> Field.optional fs "menu_url" Field.text
    <*> Field.optional fs "expires_at" expiry
    <*> Field.required fs "store_id" Field.text
    <*> Field.required fs "table_number" tableNumberField

/-- Check a batch of table codes. -/
def QrBatch.validate (fs : List (String × Json)) : Validated QrBatch :=
  QrBatch.mk
    <$> Field.withDefault fs "type" Field.text "menu"
    <*> Field.optional fs "menu_url" Field.text
    <*> Field.optional fs "expires_at" expiry
    <*> Field.required fs "store_id" Field.text
    <*> Field.required fs "table_count"
      (fun j => (Field.integer j).andThen fun n => (Field.atLeast 1 n).andThen (Field.atMost 500))
    <*> Field.withDefault fs "start_number" (fun j => (Field.integer j).andThen (Field.atLeast 1)) 1

/-- Check a change of a table code. -/
def QrPatch.validate (fs : List (String × Json)) : Validated QrPatch :=
  QrPatch.mk
    <$> Field.optional fs "type" Field.text
    <*> Field.optional fs "menu_url" Field.text
    <*> Field.optional fs "expires_at" expiry
    <*> Field.optional fs "store_id" Field.text
    <*> Field.optional fs "table_number" tableNumberField

/-- The table numbers of a batch, in order. -/
def QrBatch.tableNumbers (b : QrBatch) : List String :=
  (List.range b.tableCount.toNat).map fun (i : Nat) => toString (b.startNumber + Int.ofNat i)

end Qr

end Bistro
