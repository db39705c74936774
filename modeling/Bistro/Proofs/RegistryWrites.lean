import Bistro.Proofs.Registry
import Bistro.Proofs.ScenarioRuns

/-!
# Bistro — what the routes that write the registry do

`Bistro.Proofs.Registry` sets apart eleven routes that write the registry. This module says, for
each of them, what a request it answers leaves of the registry: one effect per route, stating
the permissions, categories and themes after a success in terms of the store before. A failure
of any of them leaves the commit point, which is the store it found.

Making permissions in a loop, as generating a resource's permissions and building a
comprehensive role do, is read once (`Txn.AddsPermissions`): every run appends permissions
whose names come from the list it is given, and changes nothing else of the store.
-/

open Std.Do

set_option mvcgen.warning false

namespace Bistro

/-! ## §1 — Steps that add permissions -/

namespace Txn

/-- A step that appends to the permissions only rows whose names pass `P`, changes nothing else
of the store, keeps the commit point and moves the counter only on. -/
def AddsPermissions {α : Type} (t : Txn α) (P : String → Prop) : Prop :=
  ∀ σ, (t.exec σ).2.saved = σ.saved ∧ σ.nextId ≤ (t.exec σ).2.nextId ∧
    (t.exec σ).2.store = { σ.store with permissions := (t.exec σ).2.store.permissions } ∧
    σ.store.permissions <+: (t.exec σ).2.store.permissions ∧
    ∀ q ∈ (t.exec σ).2.store.permissions, q ∈ σ.store.permissions ∨ P q.name

theorem AddsPermissions.pure {α : Type} (a : α) (P : String → Prop) :
    AddsPermissions (pure a : Txn α) P :=
  fun _ => ⟨rfl, le_refl _, rfl, List.prefix_refl _, fun _ hq => .inl hq⟩

theorem AddsPermissions.mono {α : Type} {t : Txn α} {P Q : String → Prop}
    (h : AddsPermissions t P) (hPQ : ∀ n, P n → Q n) : AddsPermissions t Q := by
  intro σ
  obtain ⟨hs, hn, hst, hpre, hnew⟩ := h σ
  exact ⟨hs, hn, hst, hpre, fun q hq => (hnew q hq).imp_right (hPQ _)⟩

theorem AddsPermissions.bind {α β : Type} {x : Txn α} {f : α → Txn β} {P : String → Prop}
    (hx : AddsPermissions x P) (hf : ∀ a, AddsPermissions (f a) P) :
    AddsPermissions (x >>= f) P := by
  intro σ
  rw [exec_bind]
  obtain ⟨hs₁, hn₁, hst₁, hpre₁, hnew₁⟩ := hx σ
  rcases hr : x.exec σ with ⟨_ | a, σ'⟩ <;> rw [hr] at hs₁ hn₁ hst₁ hpre₁ hnew₁
  · exact ⟨hs₁, hn₁, hst₁, hpre₁, hnew₁⟩
  · obtain ⟨hs₂, hn₂, hst₂, hpre₂, hnew₂⟩ := hf a σ'
    refine ⟨hs₂.trans hs₁, hn₁.trans hn₂, ?_, hpre₁.trans hpre₂, ?_⟩
    · rw [hst₂, hst₁]
    · -- a row after both steps was there after the first, or the second made it
      intro q hq
      rcases hnew₂ q hq with hq' | hP
      · exact hnew₁ q hq'
      · exact .inr hP

/-- A loop whose every step adds permissions named by its item adds permissions named by the
items of the list. -/
theorem AddsPermissions.mapM {α β : Type} {f : α → Txn β} (key : α → String)
    (hf : ∀ a, AddsPermissions (f a) (· = key a)) :
    ∀ xs : List α, AddsPermissions (xs.mapM f) (· ∈ xs.map key)
  | [] => AddsPermissions.pure _ _
  | x :: xs => by
    rw [List.mapM_cons]
    refine ((hf x).mono fun n hn => ?_).bind fun _ =>
      ((AddsPermissions.mapM key hf xs).mono fun n hn => ?_).bind fun _ =>
        AddsPermissions.pure _ _
    · simp [hn]
    · exact List.mem_cons_of_mem _ hn

/-- The triple of a step that adds permissions, run from the session `σ₀`, read on the
registry. -/
theorem AddsPermissions.spec {α : Type} {t : Txn α} {P : String → Prop}
    (h : AddsPermissions t P) (σ₀ : Session) :
    ⦃fun σ => ⌜σ = σ₀⌝⦄ t
    ⦃post⟨fun _ σ => ⌜σ.saved = σ₀.saved ∧ σ₀.nextId ≤ σ.nextId ∧
        σ.store.categories = σ₀.store.categories ∧ σ.store.themes = σ₀.store.themes ∧
        σ₀.store.permissions <+: σ.store.permissions ∧
        ∀ q ∈ σ.store.permissions, q ∈ σ₀.store.permissions ∨ P q.name⌝,
      fun _ σ => ⌜σ.saved = σ₀.saved ∧ σ₀.nextId ≤ σ.nextId⌝⟩⦄ := by
  refine triple_iff.2 fun σ hσ => ?_
  subst hσ
  obtain ⟨hs, hn, hst, hpre, hnew⟩ := h σ
  have hcat : (t.exec σ).2.store.categories = σ.store.categories := by rw [hst]
  have hthm : (t.exec σ).2.store.themes = σ.store.themes := by rw [hst]
  rcases hx : t.exec σ with ⟨_ | _, σ'⟩ <;> rw [hx] at hs hn hpre hnew hcat hthm
  · exact ⟨hs, hn⟩
  · exact ⟨hs, hn, hcat, hthm, hpre, hnew⟩

end Txn

namespace Api

/-- **Finding or making a permission** keeps the store, or appends that one permission. -/
theorem ensurePermission_adds (name description : String) :
    Txn.AddsPermissions (ensurePermission name description) (· = name) := by
  intro σ
  unfold ensurePermission
  rw [Txn.exec_bind, Txn.exec_store]
  dsimp only
  cases σ.store.permissionNamed? name with
  | some p => exact ⟨rfl, le_refl _, rfl, List.prefix_refl _, fun _ hq => .inl hq⟩
  | none =>
    refine ⟨rfl, Nat.le_succ _, rfl, List.prefix_append _ _, fun q hq => ?_⟩
    change q ∈ σ.store.permissions ++ [_] at hq
    rcases List.mem_append.1 hq with hq | hq
    · exact .inl hq
    · exact .inr (by rw [List.mem_singleton.1 hq])

/-- Making the five permissions of a resource, one spec after the other. -/
theorem generateLoop_spec (specs : List PermissionSpec) (σ₀ : Session) :
    ⦃fun σ => ⌜σ = σ₀⌝⦄ specs.mapM (fun spec => ensurePermission spec.key spec.description)
    ⦃post⟨fun _ σ => ⌜σ.saved = σ₀.saved ∧ σ₀.nextId ≤ σ.nextId ∧
        σ.store.categories = σ₀.store.categories ∧ σ.store.themes = σ₀.store.themes ∧
        σ₀.store.permissions <+: σ.store.permissions ∧
        ∀ q ∈ σ.store.permissions, q ∈ σ₀.store.permissions ∨ q.name ∈ specs.map (·.key)⌝,
      fun _ σ => ⌜σ.saved = σ₀.saved ∧ σ₀.nextId ≤ σ.nextId⌝⟩⦄ :=
  (Txn.AddsPermissions.mapM (·.key)
    (fun s : PermissionSpec => ensurePermission_adds s.key s.description) specs).spec σ₀

/-- Making the permissions a comprehensive role wants, one named pair after the other. -/
theorem wantedLoop_spec (wanted : List (String × String)) (σ₀ : Session) :
    ⦃fun σ => ⌜σ = σ₀⌝⦄ wanted.mapM (fun (k, desc) => ensurePermission k desc)
    ⦃post⟨fun _ σ => ⌜σ.saved = σ₀.saved ∧ σ₀.nextId ≤ σ.nextId ∧
        σ.store.categories = σ₀.store.categories ∧ σ.store.themes = σ₀.store.themes ∧
        σ₀.store.permissions <+: σ.store.permissions ∧
        ∀ q ∈ σ.store.permissions, q ∈ σ₀.store.permissions ∨ q.name ∈ wanted.map (·.1)⌝,
      fun _ σ => ⌜σ.saved = σ₀.saved ∧ σ₀.nextId ≤ σ.nextId⌝⟩⦄ :=
  (Txn.AddsPermissions.mapM (·.1)
    (fun w : String × String => ensurePermission_adds w.1 w.2) wanted).spec σ₀

/-! ## §2 — The permission routes -/

/-- **Making a permission**: a permission named as the body says, which no permission has yet,
is added. -/
def AddsPermission (r : Request) (_ : List String) (_ : Stamp) (S : Store) (k : Nat) (S' : Store)
    (k' : Nat) : Prop :=
  ∃ d p, Input.bodyAs r PermissionDraft.validateNew = some d ∧
    S'.permissions = S.permissions ++ [p] ∧ p.name = d.name.getD "" ∧
    S.permissionNamed? p.name = none ∧ S'.categories = S.categories ∧ S'.themes = S.themes ∧
    k ≤ k'

theorem createPermission_does : Does createPermission AddsPermission := by
  intro r ps t S k
  mvcgen -trivial [createPermission]
  all_goals simp_all +zetaDelta [AddsPermission, Input.bodyAs]

/-- **Changing a permission**: the permission of the path is replaced by a row of its id,
named as the body says or as it was. -/
def RenamesPermission (r : Request) (ps : List String) (_ : Stamp) (S : Store) (k : Nat)
    (S' : Store) (k' : Nat) : Prop :=
  ∃ d p p', Input.bodyAs r PermissionDraft.validate = some d ∧
    S.permission? (Route.param ps) = some p ∧
    S'.permissions = Store.replaceRow (·.id) p' S.permissions ∧ p'.id = p.id ∧
    p'.name = d.name.getD p.name ∧ S'.categories = S.categories ∧ S'.themes = S.themes ∧ k ≤ k'

theorem updatePermission_does : Does updatePermission RenamesPermission := by
  intro r ps t S k
  mvcgen -trivial [updatePermission]
  all_goals simp_all +zetaDelta [RenamesPermission, Input.bodyAs]
  all_goals exact ⟨_, rfl, rfl, rfl⟩

/-- **Deleting a permission**: the permission of the path is removed. -/
def DropsPermission (_ : Request) (ps : List String) (_ : Stamp) (S : Store) (k : Nat)
    (S' : Store) (k' : Nat) : Prop :=
  ∃ p, S.permission? (Route.param ps) = some p ∧
    S'.permissions = S.permissions.filter (·.id != p.id) ∧ S'.categories = S.categories ∧
    S'.themes = S.themes ∧ k ≤ k'

theorem deletePermission_does : Does deletePermission DropsPermission := by
  intro r ps t S k
  mvcgen -trivial [deletePermission]
  all_goals simp_all +zetaDelta [DropsPermission]

/-- **Generating a resource's permissions**: permissions are appended, each named by a
permission of the bundle of the normalised resource name of the body. -/
def GeneratesPermissions (r : Request) (_ : List String) (_ : Stamp) (S : Store) (k : Nat)
    (S' : Store) (k' : Nat) : Prop :=
  ∃ x name, Input.bodyAs r (fun fs => Field.required fs "resource" (Field.boundedText 1 none)) =
      some x ∧ normalizeResource x = .ok name ∧ S.permissions <+: S'.permissions ∧
    (∀ q ∈ S'.permissions, q ∈ S.permissions ∨ q.name ∈ (resourcePermissions name).map (·.key)) ∧
    S'.categories = S.categories ∧ S'.themes = S.themes ∧ k ≤ k'

theorem generatePermissions_does : Does generatePermissions GeneratesPermissions := by
  intro r ps t S k
  mvcgen -trivial [generatePermissions, -Txn.mapM_registryAt, -Txn.mapM_bookAt,
    -Txn.mapM_keepsAt, generateLoop_spec]
  all_goals simp_all +zetaDelta [GeneratesPermissions, Input.bodyAs]

/-- **Making a comprehensive role**: permissions are appended, each named by a key of the
permissions a comprehensive role over the body's resources holds. -/
def BuildsRole (r : Request) (_ : List String) (_ : Stamp) (S : Store) (k : Nat) (S' : Store)
    (k' : Nat) : Prop :=
  ∃ d, Input.bodyAs r ComprehensiveDraft.validate = some d ∧ S.permissions <+: S'.permissions ∧
    (∀ q ∈ S'.permissions,
      q ∈ S.permissions ∨ q.name ∈ (comprehensivePermissions d.resources).map (·.1)) ∧
    S'.categories = S.categories ∧ S'.themes = S.themes ∧ k ≤ k'

theorem createComprehensiveRole_does : Does createComprehensiveRole BuildsRole := by
  intro r ps t S k
  mvcgen -trivial [createComprehensiveRole, -Txn.mapM_registryAt, -Txn.mapM_bookAt,
    -Txn.mapM_keepsAt, wantedLoop_spec]
  all_goals simp_all +zetaDelta [BuildsRole, Input.bodyAs, Store.registry_eq_iff]
  -- what is left is the counter, moved on by the loop and the new role
  all_goals
    intros
    casesm* _ ∧ _
    omega

/-! ## §3 — The category routes -/

open Catalog

/-- **Making a category**: a category named by the trimmed name of the body, which passed the
checks of a new category, is added under a fresh id. -/
def AddsCategory (r : Request) (_ : List String) (_ : Stamp) (S : Store) (k : Nat) (S' : Store)
    (k' : Nat) : Prop :=
  ∃ d, Input.bodyAs r CategoryDraft.validate = some d ∧
    checkCategory S ⟨"", trim d.name, d.isActive, d.position⟩ none = .ok () ∧
    S'.categories = S.categories ++ [⟨Txn.idText k, trim d.name, d.isActive, d.position⟩] ∧
    S'.permissions = S.permissions ∧ S'.themes = S.themes ∧ k < k'

theorem createCategory_does : Does createCategory AddsCategory := by
  intro r ps t S k
  mvcgen -trivial [createCategory]
  all_goals simp_all +zetaDelta [AddsCategory, Input.bodyAs]

/-- **Changing a category**: the category of the path is replaced by its changed row, which
passed the checks of a category beside the others. -/
def ChangesCategory (r : Request) (ps : List String) (_ : Stamp) (S : Store) (k : Nat)
    (S' : Store) (k' : Nat) : Prop :=
  ∃ d c, Input.bodyAs r CategoryPatch.validate = some d ∧ S.category? (Route.param ps) = some c ∧
    checkCategory S (d.apply c) (some c.id) = .ok () ∧
    S'.categories = Store.replaceRow (·.id) (d.apply c) S.categories ∧
    S'.permissions = S.permissions ∧ S'.themes = S.themes ∧ k ≤ k'

theorem updateCategory_does : Does updateCategory ChangesCategory := by
  intro r ps t S k
  mvcgen -trivial [updateCategory]
  all_goals simp_all +zetaDelta [ChangesCategory, Input.bodyAs, CategoryPatch.apply]

/-- **Deleting a category**: the category of the path is removed. -/
def DropsCategory (_ : Request) (ps : List String) (_ : Stamp) (S : Store) (k : Nat)
    (S' : Store) (k' : Nat) : Prop :=
  ∃ c, S.category? (Route.param ps) = some c ∧
    S'.categories = S.categories.filter (·.id != c.id) ∧ S'.permissions = S.permissions ∧
    S'.themes = S.themes ∧ k ≤ k'

theorem deleteCategory_does : Does deleteCategory DropsCategory := by
  intro r ps t S k
  mvcgen -trivial [deleteCategory]
  all_goals simp_all +zetaDelta [DropsCategory]

end Api

/-! ## §4 — The theme routes

The rules of the theme table read three things of a theme: its id, its name and its default
flag (`ThemeTag`). A theme route's effect is stated on those tags, since the logo a route
publishes changes the row it has just stored, but none of its tags. -/

namespace Store

/-- Store `row` under its key: replace the rows of its key, or append it when there is none. -/
def upsert {α : Type} (key : α → String) (row : α) (rows : List α) : List α :=
  if rows.any (key · == key row) then replaceRow key row rows else rows ++ [row]

theorem map_replaceRow {α β : Type} {key : α → String} {key' : β → String} {f : α → β}
    (hk : ∀ x, key' (f x) = key x) (row : α) (rows : List α) :
    (replaceRow key row rows).map f = replaceRow key' (f row) (rows.map f) := by
  simp only [replaceRow, List.map_map]
  apply List.map_congr_left
  intro x _
  simp only [Function.comp, hk]
  split <;> rfl

theorem map_upsert {α β : Type} {key : α → String} {key' : β → String} {f : α → β}
    (hk : ∀ x, key' (f x) = key x) (row : α) (rows : List α) :
    (upsert key row rows).map f = upsert key' (f row) (rows.map f) := by
  simp only [upsert, List.any_map, Function.comp_def, hk]
  split
  · exact map_replaceRow hk row rows
  · simp

theorem replaceRow_replaceRow {α : Type} (key : α → String) (row : α) (rows : List α) :
    replaceRow key row (replaceRow key row rows) = replaceRow key row rows := by
  simp only [replaceRow, List.map_map]
  apply List.map_congr_left
  intro x _
  by_cases h : key x = key row <;> simp [h]

/-- Storing a row twice stores it once. -/
@[simp] theorem upsert_upsert {α : Type} (key : α → String) (row : α) (rows : List α) :
    upsert key row (upsert key row rows) = upsert key row rows := by
  unfold upsert
  by_cases h : rows.any (key · == key row)
  · have h' : (replaceRow key row rows).any (key · == key row) := by
      obtain ⟨x, hx, hkx⟩ := List.any_eq_true.1 h
      refine List.any_eq_true.2 ⟨row, ?_, by simp⟩
      exact List.mem_map.2 ⟨x, hx, by simp_all⟩
    simp [h, h', replaceRow_replaceRow]
  · -- the row is new: after appending it, it is the only row of its key
    have hnone : ∀ x ∈ rows, key x ≠ key row := by simpa using h
    have hkeep : replaceRow key row (rows ++ [row]) = rows ++ [row] := by
      simp only [replaceRow, List.map_append]
      conv => rhs; rw [← List.map_id rows]
      congr 1
      · apply List.map_congr_left
        intro x hx
        simp [hnone x hx]
      · simp
    rw [if_neg h, if_pos (by simp), hkeep]

end Store

/-- What the rules of the theme table read of a theme. -/
structure ThemeTag where
  id : String
  name : String
  isDefault : Bool
  deriving DecidableEq, Repr

/-- The tag of a theme. -/
def Theme.tag (t : Theme) : ThemeTag := ⟨t.id, t.name, t.isDefault⟩

@[simp] theorem Theme.tag_def (t : Theme) : t.tag = ⟨t.id, t.name, t.isDefault⟩ := rfl

/-- The tag of a theme after every theme but `own` lost its default flag. -/
def ThemeTag.clear (own : Option String) (g : ThemeTag) : ThemeTag :=
  if some g.id == own then g else { g with isDefault := false }

@[simp] theorem ThemeTag.clear_none (g : ThemeTag) :
    ThemeTag.clear none g = { g with isDefault := false } := rfl

@[simp] theorem Theme.map_tag_upsert (t : Theme) (ts : List Theme) :
    (Store.upsert (·.id) t ts).map Theme.tag = Store.upsert (·.id) t.tag (ts.map Theme.tag) :=
  @Store.map_upsert Theme ThemeTag (·.id) (·.id) Theme.tag (fun _ => rfl) t ts

/-- A theme after every theme but `own` lost its default flag. -/
def Theme.cleared (own : Option String) (t : Theme) : Theme :=
  if some t.id == own then t else { t with isDefault := false }

@[simp] theorem Theme.cleared_id (own : Option String) (t : Theme) : (t.cleared own).id = t.id := by
  unfold Theme.cleared
  split <;> rfl

@[simp] theorem Theme.cleared_name (own : Option String) (t : Theme) :
    (t.cleared own).name = t.name := by
  unfold Theme.cleared
  split <;> rfl

@[simp] theorem Theme.map_tag_cleared (own : Option String) (ts : List Theme) :
    (ts.map (Theme.cleared own)).map Theme.tag = (ts.map Theme.tag).map (ThemeTag.clear own) := by
  simp only [List.map_map]
  apply List.map_congr_left
  intro t _
  by_cases h : some t.id = own <;> simp [Theme.cleared, ThemeTag.clear, h]

/-- The tag a changed theme gets: the name of the change, trimmed, and its default flag, each
when the change has one. -/
def ThemeTag.ofPatch (p : Themes.ThemePatch) (old : Theme) : ThemeTag :=
  ⟨old.id, (p.name.map trim).getD old.name, p.isDefault.getD old.isDefault⟩

namespace Api

open Themes

/-- **Reading a theme name** trims it, refuses it when nothing is left, and otherwise answers
it when the first theme of that name up to the case of ASCII letters, if any, is `own`. -/
@[spec 6000] theorem themeName_spec (name : String) (own : Option String) (σ₀ : Session) :
    ⦃fun σ => ⌜σ = σ₀⌝⦄ themeName name own
    ⦃post⟨fun n σ => ⌜σ = σ₀ ∧ n = trim name ∧ (trim name).isEmpty = false ∧ ∀ o,
        σ₀.store.themes.find? (fun t => asciiLower t.name == lower (trim name)) = some o →
          some o.id = own⌝,
      fun _ σ => ⌜σ = σ₀⌝⟩⦄ := by
  mvcgen -trivial [themeName, -themeName_keepsAt, -themeName_bookAt, -themeName_registryAt]
  all_goals simp_all +zetaDelta [-List.find?_eq_none]

/-- **Storing a theme** stores its row under its id, when no other theme has exactly its name;
otherwise it breaks the store's rule and writes nothing. -/
@[spec 6000] theorem saveTheme_spec (t : Theme) (σ₀ : Session) :
    ⦃fun σ => ⌜σ = σ₀⌝⦄ saveTheme t
    ⦃post⟨fun _ σ => ⌜σ = { σ₀ with store :=
          { σ₀.store with themes := Store.upsert (·.id) t σ₀.store.themes } } ∧
        ∀ o ∈ σ₀.store.themes, o.name = t.name → o.id = t.id⌝,
      fun e σ => ⌜e = .integrity ∧ σ = σ₀⌝⟩⦄ := by
  mvcgen -trivial [saveTheme, -saveTheme_keepsAt, -saveTheme_bookAt]
  all_goals simp_all +zetaDelta [Store.upsert, Store.theme?]

/-- **Taking the default flag** from every theme but `own`. -/
@[spec 6000] theorem clearDefault_spec (own : Option String) (σ₀ : Session) :
    ⦃fun σ => ⌜σ = σ₀⌝⦄ clearDefault own
    ⦃post⟨fun _ σ => ⌜σ = { σ₀ with store :=
          { σ₀.store with themes := σ₀.store.themes.map (Theme.cleared own) } }⌝,
      fun _ _ => ⌜False⌝⟩⦄ := by
  mvcgen -trivial [clearDefault, -clearDefault_keepsAt, -clearDefault_bookAt]
  all_goals simp_all +zetaDelta [Theme.cleared]

/-- **Attaching a logo** answers a theme of the same tag, and stores it again when a logo was
sent; it writes nothing else of the registry. -/
@[spec 6000] theorem attachLogo_spec (r : Request) (t : Theme) (u : Option Upload)
    (σ₀ : Session) :
    ⦃fun σ => ⌜σ = σ₀⌝⦄ attachLogo r t u
    ⦃post⟨fun t' σ => ⌜t'.tag = t.tag ∧ σ.saved = σ₀.saved ∧ σ₀.nextId ≤ σ.nextId ∧
        σ.store.permissions = σ₀.store.permissions ∧ σ.store.categories = σ₀.store.categories ∧
        σ.store.themes.map Theme.tag = (if u.isSome then Store.upsert (·.id) t σ₀.store.themes
          else σ₀.store.themes).map Theme.tag⌝,
      fun _ σ => ⌜σ.saved = σ₀.saved ∧ σ₀.nextId ≤ σ.nextId⌝⟩⦄ := by
  cases u with
  | none =>
    mvcgen -trivial [attachLogo, -attachLogo_keepsAt, -attachLogo_bookAt]
    all_goals simp_all
  | some u =>
    mvcgen -trivial [attachLogo, -attachLogo_keepsAt, -attachLogo_bookAt]
    all_goals simp_all +zetaDelta [Store.registry_eq_iff]

/-- **Making a theme**: the trimmed name of the form is not empty, no theme has it up to the
case of ASCII letters, and no other theme has it exactly; the theme is stored under a fresh id,
after every other theme lost its default flag when the new one is the default. -/
def CreatesTheme (r : Request) (_ : List String) (_ : Stamp) (S : Store) (k : Nat) (S' : Store)
    (k' : Nat) : Prop :=
  ∃ d, ThemeDraft.ofForm r = .ok d ∧ (trim d.name).isEmpty = false ∧
    (∀ o ∈ S.themes, asciiLower o.name ≠ lower (trim d.name)) ∧
    (∀ o ∈ S.themes, o.name = trim d.name → o.id = Txn.idText k) ∧
    S'.themes.map Theme.tag = Store.upsert (·.id) ⟨Txn.idText k, trim d.name, d.isDefault⟩
      (if d.isDefault then (S.themes.map Theme.tag).map (ThemeTag.clear none)
        else S.themes.map Theme.tag) ∧
    S'.permissions = S.permissions ∧ S'.categories = S.categories ∧ k < k'

theorem createTheme_does : Does createTheme CreatesTheme := by
  intro r ps t S k
  mvcgen -trivial [createTheme]
  all_goals simp_all +zetaDelta [CreatesTheme, -List.map_map,
    ← Option.eq_none_iff_forall_ne_some]
  -- what is left is the counter, moved on by the fresh id
  all_goals
    intros
    omega

/-- **Changing a theme**: a new name, trimmed, is not empty and its first theme up to the case
of ASCII letters, if any, is the theme itself, and no other theme has it exactly. The theme's
row is stored again with the change; when the change makes it the default, every other theme
loses the flag first. -/
def ChangesTheme (r : Request) (ps : List String) (_ : Stamp) (S : Store) (k : Nat) (S' : Store)
    (k' : Nat) : Prop :=
  ∃ p old, ThemePatch.ofForm r = .ok p ∧ S.theme? (Route.param ps) = some old ∧
    (∀ n, p.name = some n → (trim n).isEmpty = false ∧ ∀ o,
      S.themes.find? (fun t => asciiLower t.name == lower (trim n)) = some o → o.id = old.id) ∧
    (∀ o ∈ S.themes, o.name = (ThemeTag.ofPatch p old).name → o.id = old.id) ∧
    S'.themes.map Theme.tag = Store.upsert (·.id) (ThemeTag.ofPatch p old)
      (if p.isDefault = some true then
        (Store.upsert (·.id) (ThemeTag.ofPatch p old) (S.themes.map Theme.tag)).map
          (ThemeTag.clear (some old.id))
      else S.themes.map Theme.tag) ∧
    S'.permissions = S.permissions ∧ S'.categories = S.categories ∧ k ≤ k'

theorem updateTheme_does : Does updateTheme ChangesTheme := by
  intro r ps t S k
  mvcgen -trivial [updateTheme]
  all_goals simp_all +zetaDelta [ChangesTheme, ThemeTag.ofPatch, ThemePatch.apply, -List.map_map]

/-- **Deleting a theme**: the theme of the path is removed. -/
def DropsTheme (_ : Request) (ps : List String) (_ : Stamp) (S : Store) (k : Nat) (S' : Store)
    (k' : Nat) : Prop :=
  ∃ t, S.theme? (Route.param ps) = some t ∧ S'.themes = S.themes.filter (·.id != t.id) ∧
    S'.permissions = S.permissions ∧ S'.categories = S.categories ∧ k ≤ k'

theorem deleteTheme_does : Does deleteTheme DropsTheme := by
  intro r ps t S k
  mvcgen -trivial [deleteTheme]
  all_goals simp_all +zetaDelta [DropsTheme]

end Api

/-! ## §5 — What a request does to the registry -/

namespace Api

/-- The routes that write the registry, each with its effect. -/
def registryWrites : List Writer :=
  [ ⟨Route.of "POST" "/api/v1/permissions" createPermission, AddsPermission,
      createPermission_does⟩,
    ⟨Route.of "POST" "/api/v1/permissions/generate" generatePermissions, GeneratesPermissions,
      generatePermissions_does⟩,
    ⟨Route.of "PUT" "/api/v1/permissions/\x7bid\x7d" updatePermission, RenamesPermission,
      updatePermission_does⟩,
    ⟨Route.of "DELETE" "/api/v1/permissions/\x7bid\x7d" deletePermission, DropsPermission,
      deletePermission_does⟩,
    ⟨Route.of "POST" "/api/v1/roles/comprehensive" createComprehensiveRole, BuildsRole,
      createComprehensiveRole_does⟩,
    ⟨Route.of "POST" "/api/v1/categories" createCategory, AddsCategory, createCategory_does⟩,
    ⟨Route.of "PUT" "/api/v1/categories/\x7bid\x7d" updateCategory, ChangesCategory,
      updateCategory_does⟩,
    ⟨Route.of "DELETE" "/api/v1/categories/\x7bid\x7d" deleteCategory, DropsCategory,
      deleteCategory_does⟩,
    ⟨Route.of "POST" "/api/v1/themes" createTheme, CreatesTheme, createTheme_does⟩,
    ⟨Route.of "PUT" "/api/v1/themes/\x7btheme_id\x7d" updateTheme, ChangesTheme,
      updateTheme_does⟩,
    ⟨Route.of "DELETE" "/api/v1/themes/\x7btheme_id\x7d" deleteTheme, DropsTheme,
      deleteTheme_does⟩ ]

/-- The registry's writers are the routes set apart as writing it. -/
theorem registryWrites_routes : registryWrites.map (·.route) = registryWriters := rfl

end Api

/-- **Every request leaves the registry as it was, or has the effect of the registry writer that
answers it.** -/
theorem serve_registry_cases (s : Store) (n : Nat) (now : Stamp) (r : Request) :
    ((serve Api.routes s n now r).store.registry = s.registry ∧
        n ≤ (serve Api.routes s n now r).nextId) ∨
      ∃ w ∈ Api.registryWrites, ∃ ps, Route.select Api.routes r = .ok (w.route, ps) ∧
        w.effect r ps now s n (serve Api.routes s n now r).store
          (serve Api.routes s n now r).nextId := by
  rcases hsel : Route.select Api.routes r with f | ⟨route, ps⟩
  · have hout : (serve Api.routes s n now r).store = s ∧
        (serve Api.routes s n now r).nextId = n := serve_unrouted hsel
    exact .inl ⟨by rw [hout.1], hout.2.ge⟩
  · rcases Api.routes_registry_frame route (Route.select_mem hsel) with hframe | hw
    · exact .inl (serve_registry_frame hsel hframe)
    · -- a writer: it failed and left the store, or it had its effect
      rw [← Api.registryWrites_routes, List.mem_map] at hw
      obtain ⟨w, hw, rfl⟩ := hw
      rcases serve_does hsel w.does with ⟨hs, hn⟩ | heff
      · exact .inl ⟨by rw [hs], hn⟩
      · exact .inr ⟨w, hw, ps, rfl, heff⟩

namespace Scenario

/-- Adding a user writes the users and nothing else of the store. -/
theorem addUser_store (w : World) (fs : List (String × Json)) :
    (addUser w fs).2.store = { w.store with users := (addUser w fs).2.store.users } := by
  unfold addUser
  dsimp only
  split <;> rfl

/-- **A step of a scenario keeps the registry, or is a request served from the world's store
and counter.** -/
theorem step_registry_cases (w : World) (j : Json) :
    ((step w j).2.store.registry = w.store.registry ∧ w.nextId ≤ (step w j).2.nextId) ∨
      ∃ now r, (step w j).2.store = (serve Api.routes w.store w.nextId now r).store ∧
        (step w j).2.nextId = (serve Api.routes w.store w.nextId now r).nextId := by
  unfold step
  split
  · split
    · exact .inl ⟨by rw [addUser_store]; rfl, (addUser_keeps_book w _).2⟩
    · exact .inl ⟨rfl, le_refl _⟩
    · exact .inl ⟨rfl, le_refl _⟩
    · exact .inr (request_outcome w _)
    · exact .inl ⟨rfl, le_refl _⟩
  · exact .inl ⟨rfl, le_refl _⟩

end Scenario

/-- **Induction over the worlds a scenario reaches, read on the registry**: a property of the
registry and the counter that the fresh world has, that a larger counter keeps, and that every
registry writer's effect keeps, holds in every reachable world. -/
theorem Reachable.registry_induction (P : Registry → Nat → Prop)
    (hfresh : P Scenario.fresh.store.registry Scenario.fresh.nextId)
    (hmono : ∀ R k k', P R k → k ≤ k' → P R k')
    (hwrite : ∀ w ∈ Api.registryWrites, ∀ r ps now S k S' k',
      Route.select Api.routes r = .ok (w.route, ps) → w.effect r ps now S k S' k' →
        P S.registry k → P S'.registry k')
    {w : World} (hw : Reachable w) : P w.store.registry w.nextId := by
  induction hw with
  | fresh => exact hfresh
  | step j _ ih =>
    rcases Scenario.step_registry_cases _ j with ⟨hreg, hn⟩ | ⟨now, r, hs, hn⟩
    · rw [hreg]
      exact hmono _ _ _ ih hn
    · rw [hs, hn]
      rcases serve_registry_cases _ _ now r with ⟨hreg, hn'⟩ | ⟨wr, hwr, ps, hsel, heff⟩
      · rw [hreg]
        exact hmono _ _ _ ih hn'
      · exact hwrite wr hwr _ _ _ _ _ _ _ hsel heff ih

end Bistro
