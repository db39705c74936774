import Bistro.Theme.Basic
import Bistro.Http.Input

/-!
# Bistro — theme forms

A theme is created and changed by a form: its name, its four colours, a favicon address, whether
it is the default, and optionally a logo file. A new theme needs a name and is not the default
unless the form says so; a change keeps every field the form leaves out or leaves empty.
-/

namespace Bistro

namespace Themes

/-- A new theme as a form gives it. -/
structure ThemeDraft where
  name : String
  primaryColor : Option String
  secondaryColor : Option String
  accentColor : Option String
  backgroundColor : Option String
  faviconUrl : Option String
  isDefault : Bool
  logo : Option Upload
  deriving Repr

/-- A change of a theme as a form gives it. -/
structure ThemePatch where
  name : Option String
  primaryColor : Option String
  secondaryColor : Option String
  accentColor : Option String
  backgroundColor : Option String
  faviconUrl : Option String
  isDefault : Option Bool
  logo : Option Upload
  deriving Repr

/-- Read a new theme from a form. -/
def ThemeDraft.ofForm (r : Request) : Validated ThemeDraft :=
  ThemeDraft.mk
    <$> Input.formField r "name" Field.text none
    <*> Input.formField? r "primary_color" Field.text
    <*> Input.formField? r "secondary_color" Field.text
    <*> Input.formField? r "accent_color" Field.text
    <*> Input.formField? r "background_color" Field.text
    <*> Input.formField? r "favicon_url" Field.text
    <*> Input.formField r "is_default" Field.flag (some false)
    <*> Input.formFile? r "logo"

/-- Read a change of a theme from a form. -/
def ThemePatch.ofForm (r : Request) : Validated ThemePatch :=
  ThemePatch.mk
    <$> Input.formField? r "name" Field.text
    <*> Input.formField? r "primary_color" Field.text
    <*> Input.formField? r "secondary_color" Field.text
    <*> Input.formField? r "accent_color" Field.text
    <*> Input.formField? r "background_color" Field.text
    <*> Input.formField? r "favicon_url" Field.text
    <*> Input.formField? r "is_default" Field.flag
    <*> Input.formFile? r "logo"

/-- A theme with the changes of a form, its name already trimmed. -/
def ThemePatch.apply (p : ThemePatch) (t : Theme) : Theme :=
  { t with
    name := p.name.getD t.name
    primaryColor := p.primaryColor.orElse fun _ => t.primaryColor
    secondaryColor := p.secondaryColor.orElse fun _ => t.secondaryColor
    accentColor := p.accentColor.orElse fun _ => t.accentColor
    backgroundColor := p.backgroundColor.orElse fun _ => t.backgroundColor
    faviconUrl := p.faviconUrl.orElse fun _ => t.faviconUrl
    isDefault := p.isDefault.getD t.isDefault }

end Themes

/-- A theme as an answer shows it. -/
def Theme.json (t : Theme) : Json :=
  .obj [("id", .str t.id), ("name", .str t.name), ("primary_color", Json.ofOption t.primaryColor),
    ("secondary_color", Json.ofOption t.secondaryColor), ("accent_color", Json.ofOption t.accentColor),
    ("background_color", Json.ofOption t.backgroundColor), ("logo_url", Json.ofOption t.logoUrl),
    ("favicon_url", Json.ofOption t.faviconUrl), ("is_default", .bool t.isDefault)]

end Bistro
