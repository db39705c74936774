import Bistro.Theme.Form
import Bistro.Access.Guard
import Bistro.Media.Upload
import Bistro.Text.Space
import Bistro.Http.Route

/-!
# Bistro — the theme routes

Anyone may read the themes, by name; writing them takes a member of staff. A theme's name is
trimmed and must not be empty, and no two themes share a name up to the case of its ASCII
letters; the store itself refuses two themes of exactly one name. Making a theme the default
takes the flag from every other theme. A logo is published only once the theme is stored.

A change that makes a theme the default stores the theme while taking the flag from the others,
before the store's refusal of a taken name could be answered as a conflict.
-/

namespace Bistro

namespace Api

open Themes

/-- The theme of an id, or a 404. -/
def themeAt (id : String) : Txn Theme := do
  match (← Txn.store).theme? id with
  | some t => pure t
  | none => Txn.refuse 404 "Theme not found"

/-- A theme's name trimmed, refused when nothing is left or when the first theme of that name up
to case is another one. -/
def themeName (name : String) (own : Option String) : Txn String := do
  let name := trim name
  if name.isEmpty then Txn.refuse 400 "theme name is required"
  match (← Txn.store).themes.find? fun t => asciiLower t.name == lower name with
  | some t => if some t.id != own then Txn.refuse 409 "Theme name already exists" else pure name
  | none => pure name

/-- Store a theme's row, new or changed; another row of exactly its name breaks the store's
constraint. -/
def saveTheme (t : Theme) : Txn Unit := do
  let s ← Txn.store
  if s.themes.any fun o => o.name == t.name && o.id != t.id then Txn.fail .integrity
  if (s.theme? t.id).isSome then
    Txn.modifyStore fun s => { s with themes := Store.replaceRow (·.id) t s.themes }
  else Txn.modifyStore fun s => { s with themes := s.themes ++ [t] }

/-- Take the default flag from every theme but `own`. -/
def clearDefault (own : Option String) : Txn Unit :=
  Txn.modifyStore fun s =>
    { s with themes := s.themes.map fun t => if some t.id == own then t else { t with isDefault := false } }

/-- The conflict of a taken theme name. -/
def themeNameTaken : Fault := Fault.refuse 409 "Theme name already exists"

/-- Publish a theme's logo, when one is sent, and record its address. -/
def attachLogo (r : Request) (t : Theme) : Option Upload → Txn Theme
  | none => pure t
  | some u => do
    let t := { t with logoUrl := some (← Media.publish u "themes" r.storageFails) }
    saveTheme t
    pure t

/-- All themes by name. -/
def listThemes (_ : Request) (_ : List String) : Txn Response := do
  let rows := (← Txn.store).themes.mergeSort fun a b => decide (a.name ≤ b.name)
  Reply.ok "Themes retrieved successfully" (.arr (rows.map Theme.json))

/-- A theme by its id. -/
def getTheme (_ : Request) (ps : List String) : Txn Response := do
  Reply.ok "Theme retrieved successfully" (← themeAt (Route.param ps)).json

/-- Create a theme. -/
def createTheme (r : Request) (_ : List String) : Txn Response := do
  let _ ← Guard.staff r
  let d ← Input.accept (ThemeDraft.ofForm r)
  let name ← themeName d.name none
  if d.isDefault then clearDefault none
  let t : Theme :=
    { id := ← Txn.freshId, name := name, primaryColor := d.primaryColor,
      secondaryColor := d.secondaryColor, accentColor := d.accentColor,
      backgroundColor := d.backgroundColor, logoUrl := none, faviconUrl := d.faviconUrl,
      isDefault := d.isDefault }
  Txn.onIntegrity (saveTheme t) themeNameTaken
  let t ← attachLogo r t d.logo
  Reply.created "Theme created successfully" t.json

/-- Change a theme. -/
def updateTheme (r : Request) (ps : List String) : Txn Response := do
  let _ ← Guard.staff r
  let p ← Input.accept (ThemePatch.ofForm r)
  let old ← themeAt (Route.param ps)
  let name ← match p.name with
    | some n => some <$> themeName n (some old.id)
    | none => pure none
  let t := { p with name := name }.apply old
  if p.isDefault == some true then
    saveTheme t
    clearDefault (some t.id)
  Txn.onIntegrity (saveTheme t) themeNameTaken
  let t ← attachLogo r t p.logo
  Reply.ok "Theme updated successfully" t.json

/-- Delete a theme. -/
def deleteTheme (r : Request) (ps : List String) : Txn Response := do
  let _ ← Guard.staff r
  let t ← themeAt (Route.param ps)
  Txn.modifyStore fun s => { s with themes := s.themes.filter (·.id != t.id) }
  Reply.ok "Theme deleted successfully" .null

/-- The theme routes. -/
def themeRoutes : List Route :=
  [ Route.of "GET" "/api/v1/themes" listThemes,
    Route.of "GET" "/api/v1/themes/\x7btheme_id\x7d" getTheme,
    Route.of "POST" "/api/v1/themes" createTheme,
    Route.of "PUT" "/api/v1/themes/\x7btheme_id\x7d" updateTheme,
    Route.of "DELETE" "/api/v1/themes/\x7btheme_id\x7d" deleteTheme ]

end Api

end Bistro
