import Bistro.Proofs.ActivityLog
import Bistro.Proofs.OrderHeaders

/-!
# Bistro — the footprint of every route

A route writes a few tables of the store, and three of them put objects in the file store. This
module names, for each route, the parts of the state it may write, and proves that it leaves
every other part alone, whether it answers or fails:

* `Part` and `Store.outside` — the tables of the store and the file store; a store with the
  tables of a footprint emptied is what a run keeps;
* `Session.Within ps σ₀ σ` — a run from `σ₀` to `σ` that writes at most `ps`, and `Txn.Stays` —
  a step every run of which is such a run, with its sequencing and loops;
* the shared steps as triples of that kind (`Txn.WithinAt`), registered with `spec` above every
  frame set aside before, so that `mvcgen` takes each as one step;
* `Footprint ps h` — a handler run from a store answers with a store, or fails with a commit
  point, that agrees with the store outside `ps`, and puts nothing in the file store unless
  `ps` holds it; proved of every handler;
* `Api.footprints` and `routes_footprint` — every route with its footprint;
* `serve_outside` — so a request leaves the store as it was outside the footprint of the route
  that answers it, and puts no object in the file store unless that footprint holds it.

The loops of the handlers that write the catalogue are taken together: a loop over the
variations of a product may write the variations and the lines that name them.
-/

open Std.Do

set_option mvcgen.warning false

namespace Bistro

/-! ## §1 — Parts of the state -/

/-- The parts of the state a request may write: the tables of the store, and the file store. -/
inductive Part
  | permissions | roles | grants | users | categories | products | variations | qrCodes
  | orders | lines | payments | invoices | themes | logs | files
  deriving DecidableEq, Repr

/-- A table of the store as a run that writes `ps` keeps it: emptied when `ps` holds it. -/
def Part.keep {α : Type} (ps : List Part) (p : Part) (xs : List α) : List α :=
  if p ∈ ps then [] else xs

/-- What a footprint keeps of a table, it keeps under every larger footprint. -/
theorem Part.keep_mono {α : Type} {ps qs : List Part} (h : ∀ p ∈ ps, p ∈ qs) {p : Part}
    {xs ys : List α} (hs : p.keep ps xs = p.keep ps ys) : p.keep qs xs = p.keep qs ys := by
  by_cases hq : p ∈ qs
  · simp [Part.keep, hq]
  · have hp : p ∉ ps := fun hp => hq (h p hp)
    simpa [Part.keep, hp, hq] using hs

/-- The store with the tables of `ps` emptied: what a run that writes only `ps` keeps. -/
def Store.outside (ps : List Part) (s : Store) : Store where
  permissions := Part.permissions.keep ps s.permissions
  roles := Part.roles.keep ps s.roles
  grants := Part.grants.keep ps s.grants
  users := Part.users.keep ps s.users
  categories := Part.categories.keep ps s.categories
  products := Part.products.keep ps s.products
  variations := Part.variations.keep ps s.variations
  qrCodes := Part.qrCodes.keep ps s.qrCodes
  orders := Part.orders.keep ps s.orders
  lines := Part.lines.keep ps s.lines
  payments := Part.payments.keep ps s.payments
  invoices := Part.invoices.keep ps s.invoices
  themes := Part.themes.keep ps s.themes
  logs := Part.logs.keep ps s.logs

/-- Two stores that agree outside `ps` agree outside every footprint that holds `ps`. -/
theorem Store.outside_mono {ps qs : List Part} (h : ∀ p ∈ ps, p ∈ qs) {s s' : Store}
    (hs : s'.outside ps = s.outside ps) : s'.outside qs = s.outside qs := by
  simp only [Store.outside, Store.mk.injEq] at hs ⊢
  obtain ⟨h₁, h₂, h₃, h₄, h₅, h₆, h₇, h₈, h₉, h₁₀, h₁₁, h₁₂, h₁₃, h₁₄⟩ := hs
  exact ⟨Part.keep_mono h h₁, Part.keep_mono h h₂, Part.keep_mono h h₃, Part.keep_mono h h₄,
    Part.keep_mono h h₅, Part.keep_mono h h₆, Part.keep_mono h h₇, Part.keep_mono h h₈,
    Part.keep_mono h h₉, Part.keep_mono h h₁₀, Part.keep_mono h h₁₁, Part.keep_mono h h₁₂,
    Part.keep_mono h h₁₃, Part.keep_mono h h₁₄⟩

/-- **A run that writes at most `ps`**: from `σ₀` to `σ`, the commit point and the clock stay,
every table outside `ps` stays, the file store takes nothing unless `ps` holds it, and the
counter of identifiers only moves on. -/
def Session.Within (ps : List Part) (σ₀ σ : Session) : Prop :=
  σ.saved = σ₀.saved ∧ σ.now = σ₀.now ∧ σ.store.outside ps = σ₀.store.outside ps ∧
    (Part.files ∉ ps → σ.uploads = σ₀.uploads) ∧ σ₀.nextId ≤ σ.nextId

namespace Session

variable {ps : List Part}

theorem Within.refl (σ : Session) : σ.Within ps σ :=
  ⟨rfl, rfl, rfl, fun _ => rfl, le_refl _⟩

theorem Within.trans {σ₀ σ₁ σ₂ : Session} (h₁ : σ₀.Within ps σ₁) (h₂ : σ₁.Within ps σ₂) :
    σ₀.Within ps σ₂ :=
  ⟨h₂.1.trans h₁.1, h₂.2.1.trans h₁.2.1, h₂.2.2.1.trans h₁.2.2.1,
    fun hf => (h₂.2.2.2.1 hf).trans (h₁.2.2.2.1 hf), h₁.2.2.2.2.trans h₂.2.2.2.2⟩

theorem Within.mono {qs : List Part} (h : ∀ p ∈ ps, p ∈ qs) {σ₀ σ : Session}
    (hw : σ₀.Within ps σ) : σ₀.Within qs σ :=
  ⟨hw.1, hw.2.1, Store.outside_mono h hw.2.2.1, fun hf => hw.2.2.2.1 fun hp => hf (h _ hp),
    hw.2.2.2.2⟩

end Session

/-! ## §2 — Steps that write within a footprint -/

namespace Txn

/-- A step every run of which writes at most `ps`. -/
def Stays {α : Type} (ps : List Part) (t : Txn α) : Prop := ∀ σ : Session, σ.Within ps (t.exec σ).2

/-- The triple of a step that writes at most `ps`, run from `σ₀`. -/
abbrev WithinAt {α : Type} (ps : List Part) (t : Txn α) (σ₀ : Session) : Prop :=
  ⦃fun σ => ⌜σ = σ₀⌝⦄ t ⦃post⟨fun _ σ => ⌜σ₀.Within ps σ⌝, fun _ σ => ⌜σ₀.Within ps σ⌝⟩⦄

section Stays

variable {ps : List Part}

theorem Stays.withinAt {α : Type} {t : Txn α} (h : Stays ps t) (σ₀ : Session) :
    WithinAt ps t σ₀ := by
  refine triple_iff.2 fun σ hσ => ?_
  subst hσ
  have hw := h σ
  rcases hx : t.exec σ with ⟨_ | _, σ'⟩ <;> rw [hx] at hw <;> exact hw

theorem Stays.of_withinAt {α : Type} {t : Txn α} (h : ∀ σ₀, WithinAt ps t σ₀) : Stays ps t := by
  intro σ
  have ho := triple_iff.1 (h σ) σ rfl
  rcases hx : t.exec σ with ⟨_ | _, σ'⟩ <;> rw [hx] at ho <;> exact ho

theorem Stays.pure {α : Type} (a : α) : Stays ps (pure a : Txn α) :=
  fun σ => Session.Within.refl σ

theorem Stays.bind {α γ : Type} {x : Txn α} {f : α → Txn γ} (hx : Stays ps x)
    (hf : ∀ a, Stays ps (f a)) : Stays ps (x >>= f) := by
  intro σ
  rw [exec_bind]
  have h₁ := hx σ
  rcases hr : x.exec σ with ⟨_ | a, σ'⟩ <;> rw [hr] at h₁
  · exact h₁
  · exact h₁.trans (hf a σ')

theorem Stays.mapM {α γ : Type} {f : α → Txn γ} (hf : ∀ a, Stays ps (f a)) :
    ∀ xs : List α, Stays ps (xs.mapM f)
  | [] => Stays.pure _
  | x :: xs => by
    rw [List.mapM_cons]
    exact (hf x).bind fun _ => (Stays.mapM hf xs).bind fun _ => Stays.pure _

theorem Stays.forIn {α γ : Type} {f : α → γ → Txn (ForInStep γ)}
    (hf : ∀ a b, Stays ps (f a b)) : ∀ (xs : List α) (b : γ), Stays ps (forIn xs b f)
  | [] => fun b => Stays.pure b
  | x :: xs => fun b => by
    rw [List.forIn_cons]
    refine (hf x b).bind fun step => ?_
    cases step with
    | done b' => exact Stays.pure b'
    | yield b' => exact Stays.forIn hf xs b'

end Stays

/-- The loops of the catalogue handlers write variations and the lines that name them: `forIn`
runs only there. -/
@[spec 9000] theorem forIn_withinAt {α β : Type} (xs : List α) (b : β)
    (f : α → β → Txn (ForInStep β)) (σ₀ : Session)
    (hf : ∀ a b σ, WithinAt [.variations, .lines] (f a b) σ) :
    WithinAt [.variations, .lines] (forIn xs b f) σ₀ :=
  (Stays.forIn (fun a b => Stays.of_withinAt (hf a b)) xs b).withinAt σ₀

end Txn

/-! ## §3 — The shared steps

Each is proved by `mvcgen` on the step itself, with the triples it has had so far set aside.
The loops are not registered: the handlers that run one name its triple, since a triple of
`List.mapM` taken for every loop would not know which tables the loop writes. -/

namespace Api

open Catalog Themes Orders

@[spec 9000] theorem tableImage_withinAt (menuUrl storeId tableNumber : String) (σ₀ : Session) :
    Txn.WithinAt [] (tableImage menuUrl storeId tableNumber) σ₀ := by
  mvcgen -trivial [tableImage, -tableImage_keepsAt, -tableImage_bookAt, -tableImage_registryAt,
    -tableImage_logsAt]
  all_goals simp_all +zetaDelta [Session.Within, Store.outside, Part.keep]

@[spec 9000] theorem buildQrCode_withinAt (kind : String) (menuUrl : Option String)
    (expiresAt : Option Stamp) (storeId tableNumber : String) (σ₀ : Session) :
    Txn.WithinAt [] (buildQrCode kind menuUrl expiresAt storeId tableNumber) σ₀ := by
  mvcgen -trivial [buildQrCode, -buildQrCode_keepsAt, -buildQrCode_bookAt,
    -buildQrCode_registryAt, -buildQrCode_logsAt]
  all_goals
    intros
    simp_all +zetaDelta [Session.Within, Store.outside, Part.keep]
  all_goals omega

/-- The loop that builds the codes of a run of tables. -/
theorem buildQrCodes_withinAt (kind : String) (menuUrl : Option String)
    (expiresAt : Option Stamp) (storeId : String) (tables : List String) (σ₀ : Session) :
    Txn.WithinAt [] (tables.mapM (buildQrCode kind menuUrl expiresAt storeId)) σ₀ :=
  (Txn.Stays.mapM (fun t => Txn.Stays.of_withinAt (buildQrCode_withinAt kind menuUrl expiresAt
    storeId t)) tables).withinAt σ₀

@[spec 9000] theorem storeQrCodes_withinAt (qs : List QrCode) (σ₀ : Session) :
    Txn.WithinAt [.qrCodes] (storeQrCodes qs) σ₀ := by
  have hstays : Txn.Stays [.qrCodes] (storeQrCodes qs) := by
    unfold storeQrCodes
    refine Txn.Stays.bind (Txn.Stays.mapM (fun q => ?_) qs) fun stored => ?_
    · -- drawing an id moves only the counter
      refine Txn.Stays.of_withinAt fun σ₁ => ?_
      mvcgen -trivial
      all_goals simp_all [Session.Within]
    · refine Txn.Stays.of_withinAt fun σ₁ => ?_
      mvcgen -trivial
      all_goals simp_all +zetaDelta [Session.Within, Store.outside, Part.keep]
  exact hstays.withinAt σ₀

theorem insertLine_withinAt (oid : String) (l : PricedLine) (σ₀ : Session) :
    Txn.WithinAt [.lines] (insertLine oid l) σ₀ := by
  mvcgen -trivial [insertLine]
  all_goals simp_all +zetaDelta [Session.Within, Store.outside, Part.keep]

@[spec 9000] theorem insertLines_withinAt (oid : String) (priced : List PricedLine)
    (σ₀ : Session) : Txn.WithinAt [.lines] (insertLines oid priced) σ₀ :=
  (Txn.Stays.mapM (fun l => Txn.Stays.of_withinAt (insertLine_withinAt oid l)) priced).withinAt σ₀

@[spec 9000] theorem writeChange_withinAt (d : OrderPatch) (o : Order) (added : List PricedLine)
    (changed : Option Payment) (fresh : Option (PaymentInput × Decimal)) (now : Stamp)
    (σ₀ : Session) :
    Txn.WithinAt [.orders, .lines, .payments] (writeChange d o added changed fresh now) σ₀ := by
  mvcgen -trivial [writeChange, -writeChange_spec, -writeChange_registryAt, -writeChange_logsAt]
  all_goals
    intros
    simp_all +zetaDelta [Session.Within, Store.outside, Part.keep]
  all_goals omega

@[spec 9000] theorem addProduct_withinAt (d : ProductDraft) (σ₀ : Session) :
    Txn.WithinAt [.products] (addProduct d) σ₀ := by
  mvcgen -trivial [addProduct, -addProduct_keepsAt, -addProduct_bookAt, -addProduct_registryAt,
    -addProduct_logsAt]
  all_goals simp_all +zetaDelta [Session.Within, Store.outside, Part.keep]

@[spec 9000] theorem saveProduct_withinAt (p : Product) (σ₀ : Session) :
    Txn.WithinAt [.products] (saveProduct p) σ₀ := by
  mvcgen -trivial [saveProduct, -saveProduct_keepsAt, -saveProduct_bookAt,
    -saveProduct_registryAt, -saveProduct_logsAt]
  all_goals simp_all +zetaDelta [Session.Within, Store.outside, Part.keep]

@[spec 9000] theorem storedProductAt_withinAt (id : String) (σ₀ : Session) :
    Txn.WithinAt [] (storedProductAt id) σ₀ := by
  mvcgen -trivial [storedProductAt, -storedProductAt_keepsAt, -storedProductAt_bookAt,
    -storedProductAt_registryAt, -storedProductAt_logsAt]
  all_goals simp_all +zetaDelta [Session.Within, Store.outside, Part.keep]

@[spec 9000] theorem addVariation_withinAt (v : Variation) (σ₀ : Session) :
    Txn.WithinAt [.variations] (addVariation v) σ₀ := by
  mvcgen -trivial [addVariation, -addVariation_keepsAt, -addVariation_bookAt,
    -addVariation_registryAt, -addVariation_logsAt]
  all_goals simp_all +zetaDelta [Session.Within, Store.outside, Part.keep]

@[spec 9000] theorem saveVariation_withinAt (old new : Variation) (σ₀ : Session) :
    Txn.WithinAt [.variations] (saveVariation old new) σ₀ := by
  mvcgen -trivial [saveVariation, -saveVariation_keepsAt, -saveVariation_bookAt,
    -saveVariation_registryAt, -saveVariation_logsAt]
  all_goals simp_all +zetaDelta [Session.Within, Store.outside, Part.keep]

@[spec 9000] theorem dropVariation_withinAt (id : String) (σ₀ : Session) :
    Txn.WithinAt [.variations, .lines] (dropVariation id) σ₀ := by
  mvcgen -trivial [dropVariation, -dropVariation_keepsAt, -dropVariation_registryAt,
    -dropVariation_logsAt]
  all_goals simp_all +zetaDelta [Session.Within, Store.outside, Part.keep]

@[spec 9000] theorem applyVariation_withinAt (p : Product) (had : List String)
    (item : VariationPatch) (σ₀ : Session) :
    Txn.WithinAt [.variations] (applyVariation p had item) σ₀ := by
  mvcgen -trivial [applyVariation, -applyVariation_keepsAt, -applyVariation_bookAt,
    -applyVariation_registryAt, -applyVariation_logsAt]
  all_goals
    intros
    simp_all +zetaDelta [Session.Within, Store.outside, Part.keep]

/-- The loop that applies the variation bodies sent with a product. -/
theorem applyVariations_withinAt (p : Product) (had : List String) (items : List VariationPatch)
    (σ₀ : Session) : Txn.WithinAt [.variations] (items.mapM (applyVariation p had)) σ₀ :=
  (Txn.Stays.mapM (fun item => Txn.Stays.of_withinAt (applyVariation_withinAt p had item))
    items).withinAt σ₀

@[spec 9000] theorem publish_withinAt (u : Upload) (folder : String) (storageFails : Bool)
    (σ₀ : Session) : Txn.WithinAt [.files] (Media.publish u folder storageFails) σ₀ := by
  mvcgen -trivial [Media.publish, -publish_keepsAt, -publish_bookAt, -publish_registryAt,
    -publish_logsAt]
  all_goals simp_all +zetaDelta [Session.Within, Store.outside, Part.keep]

@[spec 9000] theorem attachLogo_withinAt (r : Request) (t : Theme) (u : Option Upload)
    (σ₀ : Session) : Txn.WithinAt [.themes, .files] (attachLogo r t u) σ₀ := by
  mvcgen -trivial [attachLogo, -attachLogo_spec, -attachLogo_keepsAt, -attachLogo_bookAt,
    -attachLogo_logsAt]
  all_goals
    intros
    simp_all +zetaDelta [Session.Within, Store.outside, Part.keep]

@[spec 9000] theorem setGrants_withinAt (roleId : String) (ps : List Permission) (σ₀ : Session) :
    Txn.WithinAt [.grants] (setGrants roleId ps) σ₀ := by
  mvcgen -trivial [setGrants, -setGrants_keepsAt, -setGrants_bookAt, -setGrants_registryAt,
    -setGrants_logsAt]
  all_goals simp_all +zetaDelta [Session.Within, Store.outside, Part.keep]

@[spec 9000] theorem ensurePermission_withinAt (name description : String) (σ₀ : Session) :
    Txn.WithinAt [.permissions] (ensurePermission name description) σ₀ := by
  mvcgen -trivial [ensurePermission, -ensurePermission_keepsAt, -ensurePermission_bookAt,
    -ensurePermission_logsAt]
  all_goals simp_all +zetaDelta [Session.Within, Store.outside, Part.keep]

/-- The loop that makes the permissions of a comprehensive role. -/
theorem wantedLoop_withinAt (wanted : List (String × String)) (σ₀ : Session) :
    Txn.WithinAt [.permissions] (wanted.mapM fun (k, desc) => ensurePermission k desc) σ₀ :=
  (Txn.Stays.mapM (fun (k, desc) => Txn.Stays.of_withinAt (ensurePermission_withinAt k desc))
    wanted).withinAt σ₀

/-- The loop that makes the permissions of a resource. -/
theorem generateLoop_withinAt (specs : List PermissionSpec) (σ₀ : Session) :
    Txn.WithinAt [.permissions]
      (specs.mapM fun spec => ensurePermission spec.key spec.description) σ₀ := by
  have hloop : Txn.Stays [.permissions]
      (specs.mapM fun spec => ensurePermission spec.key spec.description) :=
    Txn.Stays.mapM (fun (p : PermissionSpec) =>
      Txn.Stays.of_withinAt (ensurePermission_withinAt p.key p.description))
      specs
  exact hloop.withinAt σ₀

@[spec 9000] theorem addRole_withinAt (name : String) (description : Option String)
    (ps : List Permission) (σ₀ : Session) :
    Txn.WithinAt [.roles, .grants] (addRole name description ps) σ₀ := by
  mvcgen -trivial [addRole, -addRole_spec, -addRole_keepsAt, -addRole_bookAt,
    -addRole_registryAt, -addRole_logsAt]
  all_goals
    intros
    simp_all +zetaDelta [Session.Within, Store.outside, Part.keep]
  -- what is left is the counter, moved on by the id of the new role
  all_goals omega

end Api

/-! ## §4 — The footprint of each handler -/

/-- **The footprint of a handler**: run from a session whose store is its commit point `S`,
whose file store has taken `U` and whose counter is at `k`, it answers with a store, or fails
with a commit point, that agrees with `S` outside `ps`; the file store takes nothing more unless
`ps` holds it, and the counter only moves on. -/
def Footprint (ps : List Part) (h : Request → List String → Txn Response) : Prop :=
  ∀ r params S U k, ⦃fun σ => ⌜σ.saved = S ∧ σ.store = S ∧ σ.uploads = U ∧ σ.nextId = k⌝⦄
    h r params
    ⦃post⟨fun _ σ => ⌜σ.store.outside ps = S.outside ps ∧ (Part.files ∉ ps → σ.uploads = U) ∧
        k ≤ σ.nextId⌝,
      fun _ σ => ⌜σ.saved.outside ps = S.outside ps ∧ (Part.files ∉ ps → σ.uploads = U) ∧
        k ≤ σ.nextId⌝⟩⦄

namespace Api

open Catalog Themes

/-- The status routes answer a fixed document. -/
@[simp] theorem bare_footprint (data : Json) (plain : Bool) : Footprint [] fun _ _ => Reply.bare data plain := by
  intro r params S U k
  mvcgen -trivial
  all_goals simp_all

/-! ### Sign-in -/

@[simp] theorem login_footprint : Footprint [.users, .logs] login := by
  intro r params S U k
  mvcgen -trivial [login]
  all_goals
    intros
    simp_all +zetaDelta [Store.outside, Part.keep]

@[simp] theorem me_footprint : Footprint [] me := by
  intro r params S U k
  mvcgen -trivial [me]
  all_goals simp_all +zetaDelta [Store.outside, Part.keep]

/-! ### The catalogue -/

@[simp] theorem listCategories_footprint : Footprint [] listCategories := by
  intro r params S U k
  mvcgen -trivial [listCategories]
  all_goals simp_all +zetaDelta [Store.outside, Part.keep]

@[simp] theorem getCategory_footprint : Footprint [] getCategory := by
  intro r params S U k
  mvcgen -trivial [getCategory]
  all_goals simp_all +zetaDelta [Store.outside, Part.keep]

@[simp] theorem createCategory_footprint : Footprint [.categories] createCategory := by
  intro r params S U k
  mvcgen -trivial [createCategory]
  all_goals simp_all +zetaDelta [Store.outside, Part.keep]

@[simp] theorem updateCategory_footprint : Footprint [.categories] updateCategory := by
  intro r params S U k
  mvcgen -trivial [updateCategory]
  all_goals simp_all +zetaDelta [Store.outside, Part.keep]

@[simp] theorem deleteCategory_footprint : Footprint [.categories] deleteCategory := by
  intro r params S U k
  mvcgen -trivial [deleteCategory]
  all_goals simp_all +zetaDelta [Store.outside, Part.keep]

@[simp] theorem listProducts_footprint : Footprint [] listProducts := by
  intro r params S U k
  mvcgen -trivial [listProducts]
  all_goals simp_all +zetaDelta [Store.outside, Part.keep]

@[simp] theorem getProduct_footprint : Footprint [] getProduct := by
  intro r params S U k
  mvcgen -trivial [getProduct]
  all_goals simp_all +zetaDelta [Store.outside, Part.keep]

@[simp] theorem listProductVariations_footprint : Footprint [] listProductVariations := by
  intro r params S U k
  mvcgen -trivial [listProductVariations]
  all_goals simp_all +zetaDelta [Store.outside, Part.keep]

@[simp] theorem createProduct_footprint : Footprint [.products] createProduct := by
  intro r params S U k
  mvcgen -trivial [createProduct]
  all_goals
    intros
    simp_all +zetaDelta [Session.Within, Store.outside, Part.keep]

@[simp] theorem createProductBundle_footprint :
    Footprint [.products, .variations, .lines] createProductBundle := by
  intro r params S U k
  mvcgen -trivial [createProductBundle]
  all_goals
    intros
    simp_all +zetaDelta [Session.Within, Store.outside, Part.keep]
  -- what is left is the counter, moved on by the fresh ids the handler draws
  all_goals omega

@[simp] theorem updateProduct_footprint : Footprint [.products] updateProduct := by
  intro r params S U k
  mvcgen -trivial [updateProduct]
  all_goals
    intros
    simp_all +zetaDelta [Session.Within, Store.outside, Part.keep]
  -- what is left is the counter, moved on by the fresh ids the handler draws
  all_goals omega

@[simp] theorem updateProductBundle_footprint :
    Footprint [.products, .variations, .lines] updateProductBundle := by
  intro r params S U k
  mvcgen -trivial [updateProductBundle, -Txn.mapM_keepsAt, -Txn.mapM_bookAt,
    -Txn.mapM_registryAt, -Txn.mapM_logsAt, applyVariations_withinAt]
  all_goals
    intros
    simp_all +zetaDelta [Session.Within, Store.outside, Part.keep]
  -- what is left is the counter, moved on by the fresh ids the handler draws
  all_goals omega

@[simp] theorem uploadProductImage_footprint :
    Footprint [.products, .files] uploadProductImage := by
  intro r params S U k
  mvcgen -trivial [uploadProductImage]
  all_goals
    intros
    simp_all +zetaDelta [Session.Within, Store.outside, Part.keep]
  -- what is left is the counter, moved on by the fresh ids the handler draws
  all_goals omega

@[simp] theorem deleteProduct_footprint : Footprint [.products, .lines] deleteProduct := by
  intro r params S U k
  mvcgen -trivial [deleteProduct]
  all_goals simp_all +zetaDelta [Store.outside, Part.keep]

@[simp] theorem listVariations_footprint : Footprint [] listVariations := by
  intro r params S U k
  mvcgen -trivial [listVariations]
  all_goals simp_all +zetaDelta [Store.outside, Part.keep]

@[simp] theorem getVariation_footprint : Footprint [] getVariation := by
  intro r params S U k
  mvcgen -trivial [getVariation]
  all_goals simp_all +zetaDelta [Store.outside, Part.keep]

@[simp] theorem createVariation_footprint : Footprint [.variations] createVariation := by
  intro r params S U k
  mvcgen -trivial [createVariation]
  all_goals
    intros
    simp_all +zetaDelta [Session.Within, Store.outside, Part.keep]

@[simp] theorem updateVariation_footprint : Footprint [.variations] updateVariation := by
  intro r params S U k
  mvcgen -trivial [updateVariation]
  all_goals
    intros
    simp_all +zetaDelta [Session.Within, Store.outside, Part.keep]

@[simp] theorem deleteVariation_footprint : Footprint [.variations, .lines] deleteVariation := by
  intro r params S U k
  mvcgen -trivial [deleteVariation]
  all_goals
    intros
    simp_all +zetaDelta [Session.Within, Store.outside, Part.keep]

/-! ### Orders, payments and invoices -/

@[simp] theorem createOrder_footprint : Footprint [.orders, .lines, .logs] createOrder := by
  intro r params S U k
  mvcgen -trivial [createOrder]
  all_goals simp_all +zetaDelta [Session.Within, Store.outside, Part.keep]
  -- what is left is the counter, moved on by the fresh ids the handler draws
  all_goals omega

@[simp] theorem listOrders_footprint : Footprint [] listOrders := by
  intro r params S U k
  mvcgen -trivial [listOrders]
  all_goals simp_all +zetaDelta [Store.outside, Part.keep]

@[simp] theorem getOrder_footprint : Footprint [] getOrder := by
  intro r params S U k
  mvcgen -trivial [getOrder]
  all_goals simp_all +zetaDelta [Store.outside, Part.keep]

@[simp] theorem updateOrder_footprint : Footprint [.orders, .lines, .payments] updateOrder := by
  intro r params S U k
  mvcgen -trivial [updateOrder]
  all_goals
    intros
    simp_all +zetaDelta [Session.Within, Store.outside, Part.keep]

@[simp] theorem cancelOrder_footprint : Footprint [.orders, .payments, .logs] cancelOrder := by
  intro r params S U k
  mvcgen -trivial [cancelOrder]
  all_goals
    intros
    simp_all +zetaDelta [Store.outside, Part.keep]

@[simp] theorem completeOrder_footprint : Footprint [.orders] completeOrder := by
  intro r params S U k
  mvcgen -trivial [completeOrder]
  all_goals
    intros
    simp_all +zetaDelta [Store.outside, Part.keep]

@[simp] theorem payOrder_footprint : Footprint [.orders, .payments, .logs] payOrder := by
  intro r params S U k
  mvcgen -trivial [payOrder]
  all_goals
    intros
    simp_all +zetaDelta [Store.outside, Part.keep]
  -- what is left is the counter, moved on by the fresh ids the handler draws
  all_goals omega

@[simp] theorem listOrderPayments_footprint : Footprint [] listOrderPayments := by
  intro r params S U k
  mvcgen -trivial [listOrderPayments]
  all_goals simp_all +zetaDelta [Store.outside, Part.keep]

@[simp] theorem listOrderLines_footprint : Footprint [] listOrderLines := by
  intro r params S U k
  mvcgen -trivial [listOrderLines]
  all_goals simp_all +zetaDelta [Store.outside, Part.keep]

@[simp] theorem addOrderLines_footprint : Footprint [.orders, .lines] addOrderLines := by
  intro r params S U k
  mvcgen -trivial [addOrderLines]
  all_goals
    intros
    simp_all +zetaDelta [Session.Within, Store.outside, Part.keep]

@[simp] theorem createInvoice_footprint : Footprint [.invoices] createInvoice := by
  intro r params S U k
  mvcgen -trivial [createInvoice]
  all_goals simp_all +zetaDelta [Store.outside, Part.keep]
  -- what is left is the counter, moved on by the fresh ids the handler draws
  all_goals omega

@[simp] theorem getOrderInvoice_footprint : Footprint [] getOrderInvoice := by
  intro r params S U k
  mvcgen -trivial [getOrderInvoice]
  all_goals simp_all +zetaDelta [Store.outside, Part.keep]

@[simp] theorem listPayments_footprint : Footprint [] listPayments := by
  intro r params S U k
  mvcgen -trivial [listPayments]
  all_goals simp_all +zetaDelta [Store.outside, Part.keep]

@[simp] theorem createPayment_footprint : Footprint [.payments] createPayment := by
  intro r params S U k
  mvcgen -trivial [createPayment]
  all_goals simp_all +zetaDelta [Store.outside, Part.keep]

@[simp] theorem listInvoices_footprint : Footprint [] listInvoices := by
  intro r params S U k
  mvcgen -trivial [listInvoices]
  all_goals simp_all +zetaDelta [Store.outside, Part.keep]

@[simp] theorem getInvoice_footprint : Footprint [] getInvoice := by
  intro r params S U k
  mvcgen -trivial [getInvoice]
  all_goals simp_all +zetaDelta [Store.outside, Part.keep]

/-! ### Table codes -/

@[simp] theorem getQrCodeByCode_footprint : Footprint [] getQrCodeByCode := by
  intro r params S U k
  mvcgen -trivial [getQrCodeByCode]
  all_goals simp_all +zetaDelta [Store.outside, Part.keep]

@[simp] theorem listQrCodes_footprint : Footprint [] listQrCodes := by
  intro r params S U k
  mvcgen -trivial [listQrCodes, qrCodePage]
  all_goals simp_all +zetaDelta [Store.outside, Part.keep]

@[simp] theorem listStoreQrCodes_footprint : Footprint [] listStoreQrCodes := by
  intro r params S U k
  mvcgen -trivial [listStoreQrCodes, qrCodePage]
  all_goals simp_all +zetaDelta [Store.outside, Part.keep]

@[simp] theorem getQrCode_footprint : Footprint [] getQrCode := by
  intro r params S U k
  mvcgen -trivial [getQrCode]
  all_goals simp_all +zetaDelta [Store.outside, Part.keep]

@[simp] theorem createQrCode_footprint : Footprint [.qrCodes] createQrCode := by
  intro r params S U k
  mvcgen -trivial [createQrCode]
  all_goals
    intros
    simp_all +zetaDelta [Session.Within, Store.outside, Part.keep]
  -- what is left is the counter, moved on by the fresh ids the handler draws
  all_goals omega

@[simp] theorem createQrCodes_footprint : Footprint [.qrCodes] createQrCodes := by
  intro r params S U k
  mvcgen -trivial [createQrCodes, -Txn.mapM_keepsAt, -Txn.mapM_bookAt, -Txn.mapM_registryAt,
    -Txn.mapM_logsAt, buildQrCodes_withinAt]
  all_goals
    intros
    simp_all +zetaDelta [Session.Within, Store.outside, Part.keep]
  -- what is left is the counter, moved on by the fresh ids the handler draws
  all_goals omega

@[simp] theorem updateQrCode_footprint : Footprint [.qrCodes] updateQrCode := by
  intro r params S U k
  mvcgen -trivial [updateQrCode]
  all_goals
    intros
    simp_all +zetaDelta [Session.Within, Store.outside, Part.keep]

@[simp] theorem deleteQrCode_footprint : Footprint [.qrCodes, .orders] deleteQrCode := by
  intro r params S U k
  mvcgen -trivial [deleteQrCode]
  all_goals simp_all +zetaDelta [Store.outside, Part.keep]

/-! ### Themes -/

@[simp] theorem listThemes_footprint : Footprint [] listThemes := by
  intro r params S U k
  mvcgen -trivial [listThemes]
  all_goals simp_all +zetaDelta [Store.outside, Part.keep]

@[simp] theorem getTheme_footprint : Footprint [] getTheme := by
  intro r params S U k
  mvcgen -trivial [getTheme]
  all_goals simp_all +zetaDelta [Store.outside, Part.keep]

@[simp] theorem createTheme_footprint : Footprint [.themes, .files] createTheme := by
  intro r params S U k
  mvcgen -trivial [createTheme]
  all_goals
    intros
    simp_all +zetaDelta [Session.Within, Store.outside, Part.keep]
  -- what is left is the counter, moved on by the fresh ids the handler draws
  all_goals omega

@[simp] theorem updateTheme_footprint : Footprint [.themes, .files] updateTheme := by
  intro r params S U k
  mvcgen -trivial [updateTheme]
  all_goals
    intros
    simp_all +zetaDelta [Session.Within, Store.outside, Part.keep]

@[simp] theorem deleteTheme_footprint : Footprint [.themes] deleteTheme := by
  intro r params S U k
  mvcgen -trivial [deleteTheme]
  all_goals simp_all +zetaDelta [Store.outside, Part.keep]

/-! ### Accounts, roles and permissions -/

@[simp] theorem listUsers_footprint : Footprint [] listUsers := by
  intro r params S U k
  mvcgen -trivial [listUsers]
  all_goals simp_all +zetaDelta [Store.outside, Part.keep]

@[simp] theorem getUser_footprint : Footprint [] getUser := by
  intro r params S U k
  mvcgen -trivial [getUser]
  all_goals simp_all +zetaDelta [Store.outside, Part.keep]

@[simp] theorem createUser_footprint : Footprint [.users] createUser := by
  intro r params S U k
  mvcgen -trivial [createUser]
  all_goals
    intros
    simp_all +zetaDelta [Store.outside, Part.keep]

@[simp] theorem updateUser_footprint : Footprint [.users] updateUser := by
  intro r params S U k
  mvcgen -trivial [updateUser]
  all_goals
    intros
    simp_all +zetaDelta [Store.outside, Part.keep]

@[simp] theorem deleteUser_footprint : Footprint [.users, .orders] deleteUser := by
  intro r params S U k
  mvcgen -trivial [deleteUser]
  all_goals simp_all +zetaDelta [Store.outside, Part.keep]

@[simp] theorem listRoles_footprint : Footprint [] listRoles := by
  intro r params S U k
  mvcgen -trivial [listRoles]
  all_goals simp_all +zetaDelta [Store.outside, Part.keep]

@[simp] theorem getRole_footprint : Footprint [] getRole := by
  intro r params S U k
  mvcgen -trivial [getRole]
  all_goals simp_all +zetaDelta [Store.outside, Part.keep]

@[simp] theorem createRole_footprint : Footprint [.roles, .grants] createRole := by
  intro r params S U k
  mvcgen -trivial [createRole]
  all_goals
    intros
    simp_all +zetaDelta [Session.Within, Store.outside, Part.keep]

@[simp] theorem createComprehensiveRole_footprint :
    Footprint [.permissions, .roles, .grants] createComprehensiveRole := by
  intro r params S U k
  mvcgen -trivial [createComprehensiveRole, -Txn.mapM_keepsAt, -Txn.mapM_bookAt,
    -Txn.mapM_registryAt, -Txn.mapM_logsAt, wantedLoop_withinAt]
  all_goals
    intros
    simp_all +zetaDelta [Session.Within, Store.outside, Part.keep]
  -- what is left is the counter, moved on by the fresh ids the handler draws
  all_goals omega

@[simp] theorem updateRole_footprint : Footprint [.roles, .grants] updateRole := by
  intro r params S U k
  mvcgen -trivial [updateRole]
  all_goals
    intros
    simp_all +zetaDelta [Session.Within, Store.outside, Part.keep]

@[simp] theorem addRolePermissions_footprint : Footprint [.grants] addRolePermissions := by
  intro r params S U k
  mvcgen -trivial [addRolePermissions]
  all_goals
    intros
    simp_all +zetaDelta [Session.Within, Store.outside, Part.keep]

@[simp] theorem removeRolePermissions_footprint : Footprint [.grants] removeRolePermissions := by
  intro r params S U k
  mvcgen -trivial [removeRolePermissions]
  all_goals
    intros
    simp_all +zetaDelta [Session.Within, Store.outside, Part.keep]

@[simp] theorem deleteRole_footprint : Footprint [.roles, .grants, .users] deleteRole := by
  intro r params S U k
  mvcgen -trivial [deleteRole]
  all_goals simp_all +zetaDelta [Store.outside, Part.keep]

@[simp] theorem listPermissions_footprint : Footprint [] listPermissions := by
  intro r params S U k
  mvcgen -trivial [listPermissions]
  all_goals simp_all +zetaDelta [Store.outside, Part.keep]

@[simp] theorem getPermission_footprint : Footprint [] getPermission := by
  intro r params S U k
  mvcgen -trivial [getPermission]
  all_goals simp_all +zetaDelta [Store.outside, Part.keep]

@[simp] theorem createPermission_footprint : Footprint [.permissions] createPermission := by
  intro r params S U k
  mvcgen -trivial [createPermission]
  all_goals simp_all +zetaDelta [Store.outside, Part.keep]

@[simp] theorem generatePermissions_footprint : Footprint [.permissions] generatePermissions := by
  intro r params S U k
  mvcgen -trivial [generatePermissions, -Txn.mapM_keepsAt, -Txn.mapM_bookAt,
    -Txn.mapM_registryAt, -Txn.mapM_logsAt, generateLoop_withinAt]
  all_goals
    intros
    simp_all +zetaDelta [Session.Within, Store.outside, Part.keep]

@[simp] theorem updatePermission_footprint : Footprint [.permissions] updatePermission := by
  intro r params S U k
  mvcgen -trivial [updatePermission]
  all_goals simp_all +zetaDelta [Store.outside, Part.keep]

@[simp] theorem deletePermission_footprint :
    Footprint [.permissions, .grants] deletePermission := by
  intro r params S U k
  mvcgen -trivial [deletePermission]
  all_goals simp_all +zetaDelta [Store.outside, Part.keep]

/-! ### The activity log -/

@[simp] theorem createLog_footprint : Footprint [.logs] createLog := by
  intro r params S U k
  mvcgen -trivial [createLog]
  all_goals simp_all +zetaDelta [Store.outside, Part.keep]

@[simp] theorem listLogs_footprint : Footprint [] listLogs := by
  intro r params S U k
  mvcgen -trivial [listLogs]
  all_goals simp_all +zetaDelta [Store.outside, Part.keep]

end Api

/-! ## §5 — The routing table -/

namespace Api

/-- **Every route with its footprint**, in the order the routes are tried. -/
def footprinted : List (Route × List Part) :=
  [ (Route.of "GET" "/"
      fun _ _ => Reply.bare (.obj [("status", .str "ok"), ("message", .str "API is running")]),
      []),
    (Route.of "GET" "/health" fun _ _ => Reply.bare (.obj [("status", .str "healthy")]), []),
    (Route.of "GET" "/api/v1/monitoring/metrics"
      fun _ _ => Reply.bare (.str Metrics.exposition) true,
      []),
    (Route.of "POST" "/api/v1/auth/login" login, [.users, .logs]),
    (Route.of "GET" "/api/v1/auth/me" me, []),
    (Route.of "GET" "/api/v1/categories" listCategories, []),
    (Route.of "GET" "/api/v1/categories/\x7bid\x7d" getCategory, []),
    (Route.of "POST" "/api/v1/categories" createCategory, [.categories]),
    (Route.of "PUT" "/api/v1/categories/\x7bid\x7d" updateCategory, [.categories]),
    (Route.of "DELETE" "/api/v1/categories/\x7bid\x7d" deleteCategory, [.categories]),
    (Route.of "GET" "/api/v1/products" listProducts, []),
    (Route.of "GET" "/api/v1/products/\x7bid\x7d" getProduct, []),
    (Route.of "GET" "/api/v1/products/\x7bid\x7d/variations" listProductVariations, []),
    (Route.of "POST" "/api/v1/products" createProduct, [.products]),
    (Route.of "POST" "/api/v1/products/with-variations"
      createProductBundle,
      [.products, .variations, .lines]),
    (Route.of "PUT" "/api/v1/products/\x7bid\x7d" updateProduct, [.products]),
    (Route.of "PUT" "/api/v1/products/\x7bid\x7d/with-variations"
      updateProductBundle,
      [.products, .variations, .lines]),
    (Route.of "POST" "/api/v1/products/\x7bid\x7d/image" uploadProductImage, [.products, .files]),
    (Route.of "DELETE" "/api/v1/products/\x7bid\x7d" deleteProduct, [.products, .lines]),
    (Route.of "GET" "/api/v1/variations" listVariations, []),
    (Route.of "GET" "/api/v1/variations/\x7bid\x7d" getVariation, []),
    (Route.of "POST" "/api/v1/variations" createVariation, [.variations]),
    (Route.of "PUT" "/api/v1/variations/\x7bid\x7d" updateVariation, [.variations]),
    (Route.of "DELETE" "/api/v1/variations/\x7bid\x7d" deleteVariation, [.variations, .lines]),
    (Route.of "POST" "/api/v1/orders" createOrder, [.orders, .lines, .logs]),
    (Route.of "GET" "/api/v1/orders" listOrders, []),
    (Route.of "GET" "/api/v1/orders/\x7bid\x7d" getOrder, []),
    (Route.of "PUT" "/api/v1/orders/\x7bid\x7d" updateOrder, [.orders, .lines, .payments]),
    (Route.of "POST" "/api/v1/orders/\x7bid\x7d/cancel" cancelOrder, [.orders, .payments, .logs]),
    (Route.of "POST" "/api/v1/orders/\x7bid\x7d/complete" completeOrder, [.orders]),
    (Route.of "POST" "/api/v1/orders/\x7bid\x7d/payment" payOrder, [.orders, .payments, .logs]),
    (Route.of "GET" "/api/v1/orders/\x7bid\x7d/payments" listOrderPayments, []),
    (Route.of "GET" "/api/v1/orders/\x7bid\x7d/details" listOrderLines, []),
    (Route.of "POST" "/api/v1/orders/\x7bid\x7d/details" addOrderLines, [.orders, .lines]),
    (Route.of "POST" "/api/v1/orders/\x7bid\x7d/invoice" createInvoice, [.invoices]),
    (Route.of "GET" "/api/v1/orders/\x7bid\x7d/invoice" getOrderInvoice, []),
    (Route.of "GET" "/api/v1/payments" listPayments, []),
    (Route.of "POST" "/api/v1/payments" createPayment, [.payments]),
    (Route.of "GET" "/api/v1/invoices" listInvoices, []),
    (Route.of "GET" "/api/v1/invoices/\x7bid\x7d" getInvoice, []),
    (Route.of "GET" "/api/v1/qr-codes/code/\x7bcode\x7d" getQrCodeByCode, []),
    (Route.of "GET" "/api/v1/qr-codes" listQrCodes, []),
    (Route.of "GET" "/api/v1/qr-codes/store/\x7bstore_id\x7d" listStoreQrCodes, []),
    (Route.of "GET" "/api/v1/qr-codes/\x7bqr_id\x7d" getQrCode, []),
    (Route.of "POST" "/api/v1/qr-codes" createQrCode, [.qrCodes]),
    (Route.of "POST" "/api/v1/qr-codes/bulk" createQrCodes, [.qrCodes]),
    (Route.of "PUT" "/api/v1/qr-codes/\x7bqr_id\x7d" updateQrCode, [.qrCodes]),
    (Route.of "DELETE" "/api/v1/qr-codes/\x7bqr_id\x7d" deleteQrCode, [.qrCodes, .orders]),
    (Route.of "GET" "/api/v1/themes" listThemes, []),
    (Route.of "GET" "/api/v1/themes/\x7btheme_id\x7d" getTheme, []),
    (Route.of "POST" "/api/v1/themes" createTheme, [.themes, .files]),
    (Route.of "PUT" "/api/v1/themes/\x7btheme_id\x7d" updateTheme, [.themes, .files]),
    (Route.of "DELETE" "/api/v1/themes/\x7btheme_id\x7d" deleteTheme, [.themes]),
    (Route.of "GET" "/api/v1/users" listUsers, []),
    (Route.of "GET" "/api/v1/users/\x7bid\x7d" getUser, []),
    (Route.of "POST" "/api/v1/users" createUser, [.users]),
    (Route.of "PUT" "/api/v1/users/\x7bid\x7d" updateUser, [.users]),
    (Route.of "DELETE" "/api/v1/users/\x7bid\x7d" deleteUser, [.users, .orders]),
    (Route.of "GET" "/api/v1/roles" listRoles, []),
    (Route.of "GET" "/api/v1/roles/\x7bid\x7d" getRole, []),
    (Route.of "POST" "/api/v1/roles" createRole, [.roles, .grants]),
    (Route.of "POST" "/api/v1/roles/comprehensive"
      createComprehensiveRole,
      [.permissions, .roles, .grants]),
    (Route.of "PUT" "/api/v1/roles/\x7bid\x7d" updateRole, [.roles, .grants]),
    (Route.of "POST" "/api/v1/roles/\x7bid\x7d/permissions" addRolePermissions, [.grants]),
    (Route.of "DELETE" "/api/v1/roles/\x7bid\x7d/permissions" removeRolePermissions, [.grants]),
    (Route.of "DELETE" "/api/v1/roles/\x7bid\x7d" deleteRole, [.roles, .grants, .users]),
    (Route.of "GET" "/api/v1/permissions" listPermissions, []),
    (Route.of "GET" "/api/v1/permissions/\x7bid\x7d" getPermission, []),
    (Route.of "POST" "/api/v1/permissions" createPermission, [.permissions]),
    (Route.of "POST" "/api/v1/permissions/generate" generatePermissions, [.permissions]),
    (Route.of "PUT" "/api/v1/permissions/\x7bid\x7d" updatePermission, [.permissions]),
    (Route.of "DELETE" "/api/v1/permissions/\x7bid\x7d" deletePermission, [.permissions, .grants]),
    (Route.of "POST" "/api/v1/logs" createLog, [.logs]),
    (Route.of "GET" "/api/v1/logs" listLogs, []) ]

theorem routes_eq_footprinted : routes = footprinted.map Prod.fst := rfl

/-- **Every route writes within its footprint.** -/
theorem footprinted_footprint : ∀ p ∈ footprinted, Footprint p.2 p.1.handle := by
  simp only [footprinted, List.forall_mem_cons, List.not_mem_nil, IsEmpty.forall_iff,
    implies_true, and_true]
  simp [Route.of]

/-- The route that answers a request is in the table with its footprint. -/
theorem exists_footprinted {r : Request} {route : Route} {ps : List String}
    (hsel : Route.select routes r = .ok (route, ps)) : ∃ parts, (route, parts) ∈ footprinted := by
  have hmem := Route.select_mem hsel
  rw [routes_eq_footprinted, List.mem_map] at hmem
  obtain ⟨⟨route', parts⟩, hp, rfl⟩ := hmem
  exact ⟨parts, hp⟩

end Api

/-! ## §6 — Requests within their footprint -/

/-- **A request answers as its handler's triple says**, with the objects the file store took: a
success the handler's post-condition describes, with the store, the counter and the objects where
it ended; or the answer of a failure the other describes, with the commit point, the counter and
the objects where it ended. -/
theorem serve_of_session_triple {routes : List Route} (n : Nat) (now : Stamp) {s : Store}
    {r : Request} {route : Route} {ps : List String} {P : Session → Prop}
    {ok : Response → Session → Prop} {err : Fault → Session → Prop}
    (hsel : Route.select routes r = .ok (route, ps))
    (hP : P { store := s, saved := s, nextId := n, now := now })
    (h : ⦃fun σ => ⌜P σ⌝⦄ route.handle r ps ⦃post⟨fun resp σ => ⌜ok resp σ⌝,
      fun e σ => ⌜err e σ⌝⟩⦄) :
    (∃ σ, ok (serve routes s n now r).response σ ∧ (serve routes s n now r).store = σ.store ∧
        (serve routes s n now r).nextId = σ.nextId ∧ (serve routes s n now r).uploads = σ.uploads) ∨
      ∃ e σ, err e σ ∧ (serve routes s n now r).response = Route.faultResponse now e ∧
        (serve routes s n now r).store = σ.saved ∧ (serve routes s n now r).nextId = σ.nextId ∧
        (serve routes s n now r).uploads = σ.uploads := by
  rw [serve_eq, Route.dispatch_eq_handle hsel]
  have hrun := Txn.triple_iff.1 h _ hP
  generalize (route.handle r ps).exec { store := s, saved := s, nextId := n, now := now } = run
    at hrun ⊢
  rcases run with ⟨e | resp, σ'⟩
  · exact .inr ⟨e, σ', hrun, rfl, rfl, rfl, rfl⟩
  · exact .inl ⟨σ', hrun, rfl, rfl, rfl⟩

/-- **A request leaves the store as it was outside the footprint of its route**, whether it
succeeds or fails; the file store takes no object unless that footprint holds it, and the
counter only moves on. -/
theorem serve_outside {s : Store} {n : Nat} {now : Stamp} {r : Request} {route : Route}
    {ps : List String} {parts : List Part} (hsel : Route.select Api.routes r = .ok (route, ps))
    (hfoot : Footprint parts route.handle) :
    (serve Api.routes s n now r).store.outside parts = s.outside parts ∧
      (Part.files ∉ parts → (serve Api.routes s n now r).uploads = []) ∧
      n ≤ (serve Api.routes s n now r).nextId := by
  rcases serve_of_session_triple n now hsel ⟨rfl, rfl, rfl, rfl⟩ (hfoot r ps s [] n) with
    ⟨σ, hpost, hstore, hn, hups⟩ | ⟨e, σ, hpost, -, hstore, hn, hups⟩ <;>
  · rw [hstore, hn, hups]
    exact hpost

/-- **Every request stays within the footprint of the route that answers it**; a request that
no route answers changes nothing. -/
theorem serve_within_footprint (s : Store) (n : Nat) (now : Stamp) (r : Request) :
    ((serve Api.routes s n now r).store = s ∧ (serve Api.routes s n now r).uploads = [] ∧
        (serve Api.routes s n now r).nextId = n) ∨
      ∃ route ps parts, Route.select Api.routes r = .ok (route, ps) ∧
        (route, parts) ∈ Api.footprinted ∧
        (serve Api.routes s n now r).store.outside parts = s.outside parts ∧
        (Part.files ∉ parts → (serve Api.routes s n now r).uploads = []) ∧
        n ≤ (serve Api.routes s n now r).nextId := by
  rcases hsel : Route.select Api.routes r with f | ⟨route, ps⟩
  · left
    rw [serve_eq]
    simp [Route.dispatch, hsel]
  · obtain ⟨parts, hp⟩ := Api.exists_footprinted hsel
    exact .inr ⟨route, ps, parts, rfl, hp,
      serve_outside hsel (Api.footprinted_footprint _ hp)⟩

end Bistro
