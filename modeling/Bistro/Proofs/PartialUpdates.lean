import Bistro.Proofs.RolePermissionSets
import Bistro.Proofs.ObjectUploads

/-!
# Bistro — partial updates keep what the body leaves out

A change of one row of the store — a category, a product (alone or with its variations), a
variation, a user, a theme, a table code, a permission or a role — reads a body whose members
are all optional. A member the body leaves out, or sends as `null`, reads as `none`
(`Field.optional_unsent`), and a field whose member reads as `none` keeps its value: the row
stored is the old row with the members sent merged in (`Merges`), after the normalisation of the
validator or of the route (names trimmed, emails lowered, expiries made UTC wall times).

The fields that change without being sent are derived from others, and each `ChangedBy` says
how: the image of a table code, drawn again when what the code shows changes; the description of
a renamed permission; the digest of a password; the logo address of a theme; the default flag of
the other themes; the time of a role or variation whose values change; and the grants of a role
when permissions are sent. The base price of a product is kept as the money column reads it back.

## Contents

* §1 Merged fields — `Merges`, `Field.optional_unsent`.
* §2 What a change writes — one `ChangedBy` per table.
* §3 Storing themes — storing a row twice, and `attachLogo_stores`.
* §4 The routes — `Updates`, one triple per route.
* §5 What a request does — `PartialUpdates`, `partial_updates_merge`.
-/

open Std.Do

set_option mvcgen.warning false

namespace Bistro

open Catalog Accounts Themes Qr

/-! ## §1 — Merged fields -/

/-- A field of a row merged from a change: the value sent, or the old one when nothing is
sent. -/
def Merges {α : Type} (sent : Option α) (old new : α) : Prop := new = sent.getD old

/-- An optional column merged from a member that sends a value or nothing. -/
@[simp] theorem getD_map_some {α : Type} (o x : Option α) : (o.map some).getD x = o.or x := by
  cases o <;> rfl

/-- **A member left out or sent as `null` reads as nothing**, whatever its check. -/
theorem Field.optional_unsent {α : Type} {fs : List (String × Json)} {key : String}
    {check : Json → Validated α} (h : fs.lookup key = none ∨ fs.lookup key = some .null) :
    Field.optional fs key check = .ok none := by
  unfold Field.optional Field.member
  rcases h with h | h <;> simp [h, Field.nullable, Validated.under]

/-! ## §2 — What a change writes

Each predicate lists every field of the row: those kept, those merged from the change, and those
derived. -/

/-- A category changed by a body: a name sent is trimmed. -/
def Category.ChangedBy (d : CategoryPatch) (old new : Category) : Prop :=
  new.id = old.id ∧ Merges (d.name.map trim) old.name new.name ∧
    Merges d.isActive old.isActive new.isActive ∧ Merges d.position old.position new.position

/-- A product changed by a body; a price not sent is kept as the money column reads it back. -/
def Product.ChangedBy (d : ProductPatch) (old new : Product) : Prop :=
  new.id = old.id ∧ Merges (d.categoryId.map some) old.categoryId new.categoryId ∧
    Merges d.name old.name new.name ∧ Merges (d.description.map some) old.description new.description ∧
    Merges (d.imageUrl.map some) old.imageUrl new.imageUrl ∧
    Merges d.basePrice (storedDouble old.basePrice) new.basePrice ∧
    Merges d.isAvailable old.isAvailable new.isAvailable ∧ Merges d.position old.position new.position

/-- A variation changed by a body at the row time `t`: the options sent replace the old ones, and
the time moves when a value differs. -/
def Variation.ChangedBy (d : VariationPatch) (t : Stamp) (old new : Variation) : Prop :=
  new.id = old.id ∧ new.productId = old.productId ∧ new.createdAt = old.createdAt ∧
    Merges d.isDefault old.isDefault new.isDefault ∧
    Merges d.isAvailable old.isAvailable new.isAvailable ∧
    Merges d.isRequired old.isRequired new.isRequired ∧
    Merges d.variationType old.variationType new.variationType ∧
    Merges d.options old.options new.options ∧
    new.updatedAt = if sameVariation old new then old.updatedAt else t

/-- A user changed by a body: the digest changes only with a password sent that is not empty. -/
def User.ChangedBy (d : Api.UserPatch) (old new : User) : Prop :=
  new.id = old.id ∧ new.createdAt = old.createdAt ∧ new.lastLoginAt = old.lastLoginAt ∧
    Merges d.name old.name new.name ∧ Merges d.email old.email new.email ∧
    Merges d.isStaff old.isStaff new.isStaff ∧ Merges (d.roleId.map some) old.roleId new.roleId ∧
    Merges ((d.password.filter fun p => !p.isEmpty).map
        fun p => some (Bistro.passwordDigest (utf8Bytes p)))
      old.passwordDigest new.passwordDigest

/-- A theme changed by a form: a name sent is trimmed, and a logo sent is published under the id
counter `k`. -/
def Theme.ChangedBy (p : ThemePatch) (k : Nat) (old new : Theme) : Prop :=
  new.id = old.id ∧ Merges (p.name.map trim) old.name new.name ∧
    Merges (p.primaryColor.map some) old.primaryColor new.primaryColor ∧
    Merges (p.secondaryColor.map some) old.secondaryColor new.secondaryColor ∧
    Merges (p.accentColor.map some) old.accentColor new.accentColor ∧
    Merges (p.backgroundColor.map some) old.backgroundColor new.backgroundColor ∧
    Merges (p.faviconUrl.map some) old.faviconUrl new.faviconUrl ∧
    Merges p.isDefault old.isDefault new.isDefault ∧
    Merges (p.logo.map fun u => some (Media.objectUrl (Media.objectName u "themes" k)))
      old.logoUrl new.logoUrl

/-- A table code changed by a body: its image is kept while what it shows is kept, and shows its
new table otherwise. -/
def QrCode.ChangedBy (p : QrPatch) (old new : QrCode) : Prop :=
  new.id = old.id ∧ new.code = old.code ∧ new.createdAt = old.createdAt ∧
    Merges p.kind old.kind new.kind ∧ Merges p.menuUrl old.menuUrl new.menuUrl ∧
    Merges (p.expiresAt.map some) old.expiresAt new.expiresAt ∧
    Merges p.storeId old.storeId new.storeId ∧ Merges p.tableNumber old.tableNumber new.tableNumber ∧
    (new.target = old.target → new.image = old.image) ∧ (new.target ≠ old.target → new.Drawn)

/-- A permission changed by a body: a rename without a description describes the new name. -/
def Permission.ChangedBy (d : Api.PermissionDraft) (old new : Permission) : Prop :=
  new.id = old.id ∧ Merges d.name old.name new.name ∧
    Merges (d.description.map some)
      (if d.name.any fun n => !n.isEmpty && n != old.name then some (describeKey (d.name.getD ""))
        else old.description) new.description

/-- A role changed by a body at the row time `t`: a name sent is trimmed, an empty one is
ignored, and the time moves when the name or description differs. -/
def Role.ChangedBy (d : Api.RolePatch) (t : Stamp) (old new : Role) : Prop :=
  new.id = old.id ∧ new.createdAt = old.createdAt ∧
    Merges ((d.name.filter fun n => !n.isEmpty).map trim) old.name new.name ∧
    Merges (d.description.map some) old.description new.description ∧
    new.updatedAt = if (new.name != old.name || new.description != old.description) then t
      else old.updatedAt

theorem ProductPatch.changedBy_merged (d : ProductPatch) (old : Product) :
    Product.ChangedBy d old (mergedProduct d old) := by
  simp [Product.ChangedBy, Merges, mergedProduct, ProductPatch.apply]

/-- The variation a change stores at `t`, its time moved when a value differs. -/
theorem VariationPatch.changedBy_touch (d : VariationPatch) (t : Stamp) (old : Variation) :
    Variation.ChangedBy d t old (touch old (d.apply old) t) := by
  unfold touch
  by_cases hsame : sameVariation old (d.apply old) = true
  · rw [if_pos hsame]
    exact ⟨rfl, rfl, rfl, rfl, rfl, rfl, rfl, rfl, by rw [if_pos hsame]; rfl⟩
  · rw [if_neg hsame]
    -- the comparison reads the values alone, so moving the time changes nothing of it
    have hvals : sameVariation old { d.apply old with updatedAt := t } =
        sameVariation old (d.apply old) := rfl
    exact ⟨rfl, rfl, rfl, rfl, rfl, rfl, rfl, rfl, by rw [hvals, if_neg hsame]⟩

/-! ## §3 — Storing themes

A theme change stores its row up to three times: before taking the default flag from the other
themes, after it, and with its logo. -/

namespace Store

variable {α : Type} {key : α → String}

theorem replaceRow_replaceRow_of_key {a b : α} (h : key a = key b) (rows : List α) :
    replaceRow key b (replaceRow key a rows) = replaceRow key b rows := by
  simp only [replaceRow, List.map_map]
  apply List.map_congr_left
  intro x _
  by_cases hx : key x = key b <;> simp [hx, h]

theorem mem_replaceRow_of_key {row y : α} {rows : List α} (hy : y ∈ rows) (hk : key y = key row) :
    row ∈ replaceRow key row rows :=
  List.mem_map.2 ⟨y, hy, by simp [hk]⟩

/-- Storing two rows of one key one after the other stores the second. -/
theorem upsert_upsert_of_key {a b : α} (h : key a = key b) (rows : List α) :
    upsert key b (upsert key a rows) = upsert key b rows := by
  by_cases hk : ∃ y ∈ rows, key y = key a
  · obtain ⟨y, hy, hky⟩ := hk
    have hb : ∃ y ∈ replaceRow key a rows, key y = key b := ⟨a, mem_replaceRow_of_key hy hky, h⟩
    rw [upsert_of_mem ⟨y, hy, hky⟩, upsert_of_mem hb, upsert_of_mem ⟨y, hy, hky.trans h⟩,
      replaceRow_replaceRow_of_key h]
  · -- the key is new: the first row is appended, and the second takes its place
    have hne : ∀ y ∈ rows, key y ≠ key b := fun y hy hyb => hk ⟨y, hy, hyb.trans h.symm⟩
    rw [upsert_of_forall_ne (fun y hy hya => hk ⟨y, hy, hya⟩), upsert_of_mem ⟨a, by simp, h⟩,
      upsert_of_forall_ne hne]
    simp only [replaceRow, List.map_append, List.map_cons, List.map_nil, h, beq_self_eq_true,
      if_true, List.append_cancel_right_eq]
    conv => rhs; rw [← List.map_id rows]
    apply List.map_congr_left
    intro y hy
    simp [hne y hy]

end Store

/-- The theme with the address its logo gets when the form sends one, the id counter at `k`. -/
def Theme.withLogo (k : Nat) (logo : Option Upload) (t : Theme) : Theme :=
  { t with logoUrl :=
      (logo.map fun u => some (Media.objectUrl (Media.objectName u "themes" k))).getD t.logoUrl }

@[simp] theorem Theme.withLogo_id (k : Nat) (logo : Option Upload) (t : Theme) :
    (t.withLogo k logo).id = t.id := rfl

/-- Storing a changed theme, then again with its logo when one is sent, stores the second. -/
@[simp] theorem Theme.upsert_withLogo (k : Nat) (logo : Option Upload) (t : Theme)
    (ts : List Theme) :
    (if logo.isSome then Store.upsert (·.id) (t.withLogo k logo) (Store.upsert (·.id) t ts)
      else Store.upsert (·.id) t ts) = Store.upsert (·.id) (t.withLogo k logo) ts := by
  cases logo with
  | none => rfl
  | some u =>
    simp only [Option.isSome_some, if_true]
    exact Store.upsert_upsert_of_key (Theme.withLogo_id k _ t).symm ts

/-- Taking the default flag from all themes but one commutes with storing that one. -/
@[simp] theorem Theme.cleared_upsert (t : Theme) (ts : List Theme) :
    (Store.upsert (·.id) t ts).map (Theme.cleared (some t.id)) =
      Store.upsert (·.id) t (ts.map (Theme.cleared (some t.id))) := by
  rw [Store.map_upsert (Theme.cleared_id _)]
  simp [Theme.cleared]

theorem Media.publish_spec (u : Upload) (folder : String) (fails : Bool) (σ₀ : Session) :
    ⦃fun σ => ⌜σ = σ₀⌝⦄ Media.publish u folder fails
    ⦃post⟨fun url σ => ⌜url = Media.objectUrl (Media.objectName u folder σ₀.nextId) ∧
        σ.store = σ₀.store ∧ σ.saved = σ₀.saved⌝,
      fun _ σ => ⌜σ.saved = σ₀.saved⌝⟩⦄ := by
  rw [Txn.triple_iff]
  rintro σ rfl
  have hout := publish_outcome u folder fails σ
  generalize (Media.publish u folder fails).exec σ = run at hout ⊢
  rcases run with ⟨_ | url, σ'⟩
  · exact hout.2.1
  · obtain ⟨-, rfl, rfl⟩ := hout
    exact ⟨rfl, rfl, rfl⟩

namespace Api

/-- **Attaching a logo** stores the theme again with the address of the logo, when one is sent;
the address is the one of the id counter the step starts from. -/
theorem attachLogo_stores (r : Request) (t : Theme) (u : Option Upload) (σ₀ : Session) :
    ⦃fun σ => ⌜σ = σ₀⌝⦄ attachLogo r t u
    ⦃post⟨fun t' σ => ⌜t' = t.withLogo σ₀.nextId u ∧ σ.saved = σ₀.saved ∧
        σ.store = { σ₀.store with themes :=
          if u.isSome then Store.upsert (·.id) t' σ₀.store.themes else σ₀.store.themes }⌝,
      fun _ σ => ⌜σ.saved = σ₀.saved⌝⟩⦄ := by
  cases u with
  | none =>
    mvcgen -trivial [attachLogo, -attachLogo_spec, -attachLogo_withinAt, -attachLogo_logsAt,
      -attachLogo_keepsAt, -attachLogo_bookAt]
    simp_all [Theme.withLogo]
  | some u =>
    mvcgen -trivial [attachLogo, -attachLogo_spec, -attachLogo_withinAt, -attachLogo_logsAt,
      -attachLogo_keepsAt, -attachLogo_bookAt, Media.publish_spec, -publish_withinAt,
      -publish_keepsAt, -publish_logsAt, -publish_bookAt, -publish_registryAt]
    all_goals simp_all +zetaDelta [Theme.withLogo]

end Api

/-! ## §4 — The routes -/

/-- **One row changed**: the input reads as the change `d`, the path names the row `old`, and
the store is the one `write` makes with the row `new` that `d` makes of `old`. -/
def RowChanged {δ α : Type} (read : δ → Prop) (row : Option α) (changed : δ → α → α → Prop)
    (write : δ → α → α → Store) (S' : Store) : Prop :=
  ∃ d old new, read d ∧ row = some old ∧ changed d old new ∧ S' = write d old new

/-- **A route that changes rows**: run from the store `S`, with the id counter at `k`, at the
time `t`, it answers 200 with a store its effect describes, or fails with the commit point
kept. -/
def Updates (h : Request → List String → Txn Response)
    (E : Request → List String → Stamp → Store → Nat → Store → Prop) : Prop :=
  ∀ r ps t S k, ⦃fun σ => ⌜σ.saved = S ∧ σ.store = S ∧ σ.nextId = k ∧ σ.now = t⌝⦄ h r ps
    ⦃post⟨fun resp σ => ⌜resp.status = 200 ∧ E r ps t S k σ.store⌝, fun _ σ => ⌜σ.saved = S⌝⟩⦄

theorem Txn.triple_post_mono {α : Type} {t : Txn α} {P : Session → Prop}
    {ok ok' : α → Session → Prop} {err err' : Fault → Session → Prop}
    (h : ⦃fun σ => ⌜P σ⌝⦄ t ⦃post⟨fun a σ => ⌜ok a σ⌝, fun e σ => ⌜err e σ⌝⟩⦄)
    (hok : ∀ a σ, ok a σ → ok' a σ) (herr : ∀ e σ, err e σ → err' e σ) :
    ⦃fun σ => ⌜P σ⌝⦄ t ⦃post⟨fun a σ => ⌜ok' a σ⌝, fun e σ => ⌜err' e σ⌝⟩⦄ := by
  rw [Txn.triple_iff] at h ⊢
  intro σ hσ
  have hrun := h σ hσ
  generalize t.exec σ = run at hrun ⊢
  rcases run with ⟨e | a, σ'⟩
  · exact herr e σ' hrun
  · exact hok a σ' hrun

namespace Api

/-- A category changed as its body says. -/
def CategoryChange (r : Request) (ps : List String) (_ : Stamp) (S : Store) (_ : Nat) :
    Store → Prop :=
  RowChanged (Input.bodyAs r CategoryPatch.validate = some ·) (S.category? (Route.param ps))
    Category.ChangedBy fun _ _ c => { S with categories := Store.replaceRow (·.id) c S.categories }

/-- A product changed as its body says. -/
def ProductChange (r : Request) (ps : List String) (_ : Stamp) (S : Store) (_ : Nat) :
    Store → Prop :=
  RowChanged (Input.bodyAs r ProductPatch.validate = some ·) (S.product? (Route.param ps))
    Product.ChangedBy fun _ _ p => { S with products := Store.replaceRow (·.id) p S.products }

/-- A product changed with its variations: the product as its part of the body says, then the
variation bodies applied in turn, a variation the product had being merged as
`VariationPatch.changedBy_touch` says, then the variations no body kept deleted when asked. -/
def BundleChange (r : Request) (ps : List String) (t : Stamp) (S : Store) (k : Nat)
    (S' : Store) : Prop :=
  ∃ d old new kept T k', Input.bodyAs r ProductBundlePatch.validate = some d ∧
    S.product? (Route.param ps) = some old ∧ Product.ChangedBy d.product old new ∧
    ItemsApplied new (S.variationIds (Route.param ps)) t.row
      ({ S with products := Store.replaceRow (·.id) new S.products }, k) d.variations kept (T, k') ∧
    S' = if d.prune then
      T.withoutVariations ((S.variationIds (Route.param ps)).filter fun vid => !kept.contains vid)
      else T

/-- A variation changed as its body says. -/
def VariationChange (r : Request) (ps : List String) (t : Stamp) (S : Store) (_ : Nat) :
    Store → Prop :=
  RowChanged (Input.bodyAs r VariationPatch.validate = some ·) (S.variation? (Route.param ps))
    (fun d => Variation.ChangedBy d t.row)
    fun _ _ v => { S with variations := Store.replaceRow (·.id) v S.variations }

/-- A user changed as the body says. -/
def UserChange (r : Request) (ps : List String) (_ : Stamp) (S : Store) (_ : Nat) :
    Store → Prop :=
  RowChanged (Input.bodyAs r UserPatch.validate = some ·) (S.user? (Route.param ps))
    User.ChangedBy fun _ _ u => { S with users := Store.replaceRow (·.id) u S.users }

/-- A theme changed as its form says; a default theme takes the flag from the others. -/
def ThemeChange (r : Request) (ps : List String) (_ : Stamp) (S : Store) (k : Nat) :
    Store → Prop :=
  RowChanged (ThemePatch.ofForm r = .ok ·) (S.theme? (Route.param ps)) (fun p => Theme.ChangedBy p k)
    fun p old t => { S with themes := Store.upsert (·.id) t (if p.isDefault = some true then
      S.themes.map (Theme.cleared (some old.id)) else S.themes) }

/-- A table code changed as its body says. -/
def CodeChange (r : Request) (ps : List String) (_ : Stamp) (S : Store) (_ : Nat) :
    Store → Prop :=
  RowChanged (Input.bodyAs r QrPatch.validate = some ·) (S.qrCode? (Route.param ps))
    QrCode.ChangedBy fun _ _ q => { S with qrCodes := Store.replaceRow (·.id) q S.qrCodes }

/-- A permission changed as its body says. -/
def PermissionChange (r : Request) (ps : List String) (_ : Stamp) (S : Store) (_ : Nat) :
    Store → Prop :=
  RowChanged (Input.bodyAs r PermissionDraft.validate = some ·) (S.permission? (Route.param ps))
    Permission.ChangedBy
    fun _ _ p => { S with permissions := Store.replaceRow (·.id) p S.permissions }

/-- A role changed as its body says; permissions sent replace its grants. -/
def RoleChange (r : Request) (ps : List String) (t : Stamp) (S : Store) (_ : Nat) :
    Store → Prop :=
  RowChanged (Input.bodyAs r RolePatch.validate = some ·) (S.role? (Route.param ps))
    (fun d => Role.ChangedBy d t.row)
    fun d old role => { S with roles := Store.replaceRow (·.id) role S.roles, grants :=
      (d.permissions.map fun ids => regrant S.grants old.id (S.found ids)).getD S.grants }

theorem updateCategory_updates : Updates updateCategory CategoryChange := by
  intro r ps t S k
  mvcgen -trivial [updateCategory]
  all_goals simp_all +zetaDelta [Input.bodyAs, CategoryChange, RowChanged]
  all_goals refine ⟨_, ?_, rfl⟩
  all_goals simp_all [Category.ChangedBy, Merges, CategoryPatch.apply]

theorem updateProduct_updates : Updates updateProduct ProductChange := by
  intro r ps t S k
  mvcgen -trivial [updateProduct, storedProductAt, saveProduct, -storedProductAt_bookAt,
    -storedProductAt_keepsAt, -storedProductAt_logsAt, -storedProductAt_registryAt,
    -storedProductAt_withinAt, -saveProduct_bookAt, -saveProduct_keepsAt, -saveProduct_logsAt,
    -saveProduct_registryAt, -saveProduct_withinAt]
  all_goals simp_all +zetaDelta [Input.bodyAs, ProductChange, RowChanged]
  all_goals refine ⟨_, ?_, rfl⟩
  all_goals exact ProductPatch.changedBy_merged _ _

theorem updateProductBundle_updates : Updates updateProductBundle BundleChange := by
  intro r ps t S k
  refine Txn.triple_post_mono (updateProductBundle_answers r ps S k t) ?_ fun _ _ h => h.1
  rintro resp σ ⟨h200, d, old, kept, T, k', hd, -, hold, -, happlied, hstore⟩
  exact ⟨h200, d, old, _, kept, T, k', hd, hold, ProductPatch.changedBy_merged _ _, happlied,
    hstore⟩

theorem updateVariation_updates : Updates updateVariation VariationChange := by
  intro r ps t S k
  mvcgen -trivial [updateVariation, saveVariation, -saveVariation_bookAt, -saveVariation_keepsAt,
    -saveVariation_logsAt, -saveVariation_registryAt, -saveVariation_withinAt]
  all_goals simp_all +zetaDelta [Input.bodyAs, VariationChange, RowChanged, Stamp.row]
  all_goals refine ⟨_, ?_, rfl⟩
  all_goals exact VariationPatch.changedBy_touch _ _ _

theorem updateUser_updates : Updates updateUser UserChange := by
  intro r ps t S k
  mvcgen -trivial [updateUser]
  all_goals simp_all +zetaDelta [Input.bodyAs, UserChange, RowChanged]
  -- the changed row is the one stored; each of its fields is merged
  all_goals refine ⟨_, ?_, rfl⟩
  all_goals simp_all [User.ChangedBy, Merges, Option.filter_some]

theorem updateTheme_updates : Updates updateTheme ThemeChange := by
  intro r ps t S k
  mvcgen -trivial [updateTheme, -attachLogo_spec, -attachLogo_withinAt, -attachLogo_logsAt,
    -attachLogo_keepsAt, -attachLogo_bookAt, attachLogo_stores]
  all_goals simp_all +zetaDelta [ThemeChange, RowChanged]
  -- the row stored is the changed theme with its logo
  all_goals refine ⟨_, ?_, rfl⟩
  all_goals simp_all [Theme.ChangedBy, Merges, Theme.withLogo, ThemePatch.apply]

theorem updateQrCode_updates : Updates updateQrCode CodeChange := by
  intro r ps t S k
  mvcgen -trivial [updateQrCode, qrCodeAt]
  all_goals simp_all +zetaDelta [Input.bodyAs, CodeChange, RowChanged]
  all_goals refine ⟨_, ?_, rfl⟩
  all_goals simp_all [QrCode.ChangedBy, Merges, QrPatch.apply, QrCode.Drawn, QrCode.address,
    QrCode.target]

theorem updatePermission_updates : Updates updatePermission PermissionChange := by
  intro r ps t S k
  mvcgen -trivial [updatePermission]
  all_goals simp_all +zetaDelta [Input.bodyAs, PermissionChange, RowChanged]
  all_goals refine ⟨_, ?_, rfl⟩
  all_goals
    simp only [Permission.ChangedBy, Merges, getD_map_some, true_and]
    -- the route tests a rename with a match where the change reads `Option.any`
    split
    next t ht => simp [ht]
    next ht =>
      simp only [ht, Option.none_or]
      split
      next hr =>
        split at hr
        next n hn => simp_all
        next => exact absurd hr (by decide)
      next hr =>
        split at hr
        next n hn => simp_all
        next hn => simp [hn]

theorem updateRole_updates : Updates updateRole RoleChange := by
  intro r ps t S k
  mvcgen -trivial [updateRole, -permissionsOf_keepsAt, -permissionsOf_bookAt,
    -permissionsOf_registryAt, -permissionsOf_spec, permissionsOf_found_spec, setGrants,
    -setGrants_keepsAt, -setGrants_bookAt, -setGrants_registryAt, -setGrants_logsAt,
    -setGrants_withinAt]
  all_goals simp_all +zetaDelta [Input.bodyAs, regrant, Store.found, RoleChange, RowChanged]
  all_goals refine ⟨_, ?_, rfl⟩
  all_goals simp_all [Role.ChangedBy, Merges, Option.filter_some, Stamp.row]
  -- an empty name sent leaves the name as it was
  all_goals split_ifs <;> rfl

/-- **Renaming a role to a free name** answers 200 and stores the name trimmed. -/
theorem updateRole_trims_name (r : Request) (ps : List String) (S : Store) (u : User)
    (d : RolePatch) (role : Role) (n : String) (hpass : Guard.decision S r .admin = .ok u)
    (hd : Input.bodyAs r RolePatch.validate = some d)
    (hrole : S.role? (Route.param ps) = some role) (hn : d.name = some n)
    (hne : n.isEmpty = false) (hperms : d.permissions = none) (hsent : S.roleNamed? n = none)
    (hfree : (S.roles.any fun o => o.id != role.id && o.name == trim n) = false) :
    ⦃fun σ => ⌜σ.saved = S ∧ σ.store = S⌝⦄ updateRole r ps
    ⦃post⟨fun resp σ => ⌜resp.status = 200 ∧ ∃ new, σ.store.roles =
        Store.replaceRow (·.id) new S.roles ∧ new.id = role.id ∧ new.name = trim n⌝,
      fun _ _ => ⌜False⌝⟩⦄ := by
  obtain ⟨p, hp, hm⟩ := Input.bodyAs_eq_some hd
  mvcgen -trivial [updateRole]
  -- the name check stays a test over the roles, so that it meets the hypothesis as it is
  all_goals simp_all +zetaDelta [-List.any_eq_true, -List.any_eq_false]
  all_goals exact ⟨_, rfl, rfl, by simp_all⟩

end Api

/-! ## §5 — What a request does -/

/-- **What a request leaves**: a failure answered with the store it found, or a 200 with a
store `E` describes. -/
def Answered (S : Store) (now : Stamp) (out : Outcome) (E : Store → Prop) : Prop :=
  (out.store = S ∧ ∃ e, out.response = Route.faultResponse now e) ∨
    (out.response.status = 200 ∧ E out.store)

/-- A request that a changing route answers is answered as its effect says. -/
theorem serve_updates {S : Store} {n : Nat} {now : Stamp} {r : Request} {route : Route}
    {ps : List String} {E : Request → List String → Stamp → Store → Nat → Store → Prop}
    (hsel : Route.select Api.routes r = .ok (route, ps)) (h : Updates route.handle E) :
    Answered S now (serve Api.routes S n now r) (E r ps now S n) := by
  rcases serve_of_triple n now hsel ⟨rfl, rfl, rfl, rfl⟩ (h r ps now S n)
    with ⟨σ, ⟨h200, heff⟩, hout⟩ | ⟨e, σ, hsaved, hresp, hout⟩
  · exact .inr ⟨h200, hout ▸ heff⟩
  · exact .inl ⟨hout.trans hsaved, e, hresp⟩

/-- **The partial updates of the store**, for a request `r` served from the store `S` with the
id counter at `n` at the time `now`: each route that changes a row answers as its change says. -/
structure PartialUpdates (S : Store) (n : Nat) (now : Stamp) (r : Request) : Prop where
  category : ∀ ps, Route.select Api.routes r =
      .ok (Route.of "PUT" "/api/v1/categories/\x7bid\x7d" Api.updateCategory, ps) →
    Answered S now (serve Api.routes S n now r) (Api.CategoryChange r ps now S n)
  product : ∀ ps, Route.select Api.routes r =
      .ok (Route.of "PUT" "/api/v1/products/\x7bid\x7d" Api.updateProduct, ps) →
    Answered S now (serve Api.routes S n now r) (Api.ProductChange r ps now S n)
  productBundle : ∀ ps, Route.select Api.routes r = .ok
      (Route.of "PUT" "/api/v1/products/\x7bid\x7d/with-variations" Api.updateProductBundle, ps) →
    Answered S now (serve Api.routes S n now r) (Api.BundleChange r ps now S n)
  variation : ∀ ps, Route.select Api.routes r =
      .ok (Route.of "PUT" "/api/v1/variations/\x7bid\x7d" Api.updateVariation, ps) →
    Answered S now (serve Api.routes S n now r) (Api.VariationChange r ps now S n)
  user : ∀ ps, Route.select Api.routes r =
      .ok (Route.of "PUT" "/api/v1/users/\x7bid\x7d" Api.updateUser, ps) →
    Answered S now (serve Api.routes S n now r) (Api.UserChange r ps now S n)
  theme : ∀ ps, Route.select Api.routes r =
      .ok (Route.of "PUT" "/api/v1/themes/\x7btheme_id\x7d" Api.updateTheme, ps) →
    Answered S now (serve Api.routes S n now r) (Api.ThemeChange r ps now S n)
  qrCode : ∀ ps, Route.select Api.routes r =
      .ok (Route.of "PUT" "/api/v1/qr-codes/\x7bqr_id\x7d" Api.updateQrCode, ps) →
    Answered S now (serve Api.routes S n now r) (Api.CodeChange r ps now S n)
  permission : ∀ ps, Route.select Api.routes r =
      .ok (Route.of "PUT" "/api/v1/permissions/\x7bid\x7d" Api.updatePermission, ps) →
    Answered S now (serve Api.routes S n now r) (Api.PermissionChange r ps now S n)
  role : ∀ ps, Route.select Api.routes r =
      .ok (Route.of "PUT" "/api/v1/roles/\x7bid\x7d" Api.updateRole, ps) →
    Answered S now (serve Api.routes S n now r) (Api.RoleChange r ps now S n)

/-- **Partial updates merge what is sent and keep what is not.** Every request that one of the
nine changing routes answers, from any store, either fails, leaving the store as it was, or
answers 200 with the row of its path changed as that table's `ChangedBy` says and nothing else
of the store written but the derived rows: the other themes' default flags, the grants of a role,
and the variations a product change sends. -/
theorem partial_updates_merge (S : Store) (n : Nat) (now : Stamp) (r : Request) :
    PartialUpdates S n now r where
  category _ hsel := serve_updates hsel Api.updateCategory_updates
  product _ hsel := serve_updates hsel Api.updateProduct_updates
  productBundle _ hsel := serve_updates hsel Api.updateProductBundle_updates
  variation _ hsel := serve_updates hsel Api.updateVariation_updates
  user _ hsel := serve_updates hsel Api.updateUser_updates
  theme _ hsel := serve_updates hsel Api.updateTheme_updates
  qrCode _ hsel := serve_updates hsel Api.updateQrCode_updates
  permission _ hsel := serve_updates hsel Api.updatePermission_updates
  role _ hsel := serve_updates hsel Api.updateRole_updates

/-- A request of the administrator `u1` to rename the role `r2` to ` Cook `. -/
def cookRename : Request :=
  { method := "PUT", path := "/api/v1/roles/r2", headers := staffHeaders, query := [],
    body := .json (.obj [("name", .str " Cook ")]), storageFails := false, clock := 0 }

theorem cookRename_selects : Route.select Api.routes cookRename =
    .ok (Route.of "PUT" "/api/v1/roles/\x7bid\x7d" Api.updateRole, ["r2"]) := rfl

theorem cook_rename_answered :
    Answered adminBesideAdminRole (Stamp.ofEpoch 60)
      (serve Api.routes adminBesideAdminRole 0 (Stamp.ofEpoch 60) cookRename)
      (Api.RoleChange cookRename ["r2"] (Stamp.ofEpoch 60) adminBesideAdminRole 0) :=
  (partial_updates_merge adminBesideAdminRole 0 (Stamp.ofEpoch 60) cookRename).role ["r2"]
    cookRename_selects

/-- **A role name sent with blanks is stored trimmed**: renaming the role `r2` to ` Cook `
answers 200 and stores the name `Cook`. -/
theorem spaced_role_rename_trimmed :
    (serve Api.routes adminBesideAdminRole 0 (Stamp.ofEpoch 60) cookRename).response.status = 200 ∧
      ∃ role ∈ (serve Api.routes adminBesideAdminRole 0 (Stamp.ofEpoch 60) cookRename).store.roles,
        role.id = "r2" ∧ role.name = "Cook" := by
  have hadmitted : (Guard.decision adminBesideAdminRole cookRename .admin).isOk = true := by
    rw [Guard.decision, staffHeaders_userOf rfl (by decide) rfl]
    rfl
  obtain ⟨u, hu⟩ := Guard.passes_of_isOk hadmitted
  have hrole : adminBesideAdminRole.role? "r2" =
      some ⟨"r2", "Admin", none, Stamp.ofEpoch 0, Stamp.ofEpoch 0⟩ := rfl
  have hfree : (adminBesideAdminRole.roles.any
      fun o => o.id != "r2" && o.name == trim " Cook ") = false := by
    decide
  rcases serve_of_triple (s := adminBesideAdminRole) 0 (Stamp.ofEpoch 60) cookRename_selects
      ⟨rfl, rfl⟩
      (Api.updateRole_trims_name cookRename ["r2"] adminBesideAdminRole u ⟨some " Cook ", none, none⟩
        _ " Cook " (Guard.decision_eq_ok.2 hu) rfl hrole rfl rfl rfl (by decide) hfree)
    with ⟨σ, ⟨h200, new, hnew, hid, hname⟩, hout⟩ | ⟨e, σ, hfalse, -⟩
  · have hmem : new ∈ σ.store.roles := by
      rw [hnew]
      exact Store.mem_replaceRow_of_key (by simp [adminBesideAdminRole]) hid.symm
    rw [hout]
    exact ⟨h200, new, hmem, hid, hname.trans (by decide)⟩
  · exact hfalse.elim

end Bistro
