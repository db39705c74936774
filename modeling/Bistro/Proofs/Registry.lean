import Bistro.Proofs.OrderWrites

/-!
# Bistro — the registry, and the routes that leave it alone

The registry of a store is the part of it that is named and administered: its permissions, its
menu categories and its storefront themes. Each of these tables keeps a rule about the names
of its rows (a grammar, or uniqueness), and few routes write them: the five permission routes
that create, generate, change and delete permissions or build a comprehensive role, and the
create, change and delete routes of categories and of themes (`registryWriters`).

This module proves that every other route keeps the registry and never moves the counter of
fresh identifiers back:

* `Txn.KeepsRegistry t` — every run of `t` keeps the commit point and the registry, and only
  moves the counter on; `Txn.RegistryAt` is the same as a triple, registered with `spec` above
  the book triples, so that `mvcgen` takes a shared step as one step;
* `RegistryFrame h` — a handler run from a store keeps that store's registry, whether it
  answers or fails;
* `routes_registry_frame` — every route keeps the registry or is one of `registryWriters`;
* `serve_registry_frame` — so a request that such a route answers leaves the registry as it was.
-/

open Std.Do

set_option mvcgen.warning false

namespace Bistro

/-! ## §1 — The registry -/

/-- The named tables of a store. -/
structure Registry where
  permissions : List Permission
  categories : List Category
  themes : List Theme

/-- The registry of a store. -/
def Store.registry (s : Store) : Registry := ⟨s.permissions, s.categories, s.themes⟩

theorem Store.registry_eq_iff {s s' : Store} :
    s'.registry = s.registry ↔
      s'.permissions = s.permissions ∧ s'.categories = s.categories ∧ s'.themes = s.themes := by
  simp [Store.registry]

/-! ## §2 — Steps that keep the registry -/

namespace Txn

/-- A step that keeps the commit point and the registry, and only moves the counter on. -/
def KeepsRegistry {α : Type} (t : Txn α) : Prop :=
  ∀ σ, (t.exec σ).2.saved = σ.saved ∧ (t.exec σ).2.store.registry = σ.store.registry ∧
    σ.nextId ≤ (t.exec σ).2.nextId

/-- The triple of a step that keeps the commit point `S`, the registry `R`, and a counter of at
least `k`. -/
abbrev RegistryAt {α : Type} (t : Txn α) (S : Store) (R : Registry) (k : Nat) : Prop :=
  ⦃fun σ => ⌜σ.saved = S ∧ σ.store.registry = R ∧ σ.nextId = k⌝⦄ t
  ⦃post⟨fun _ σ => ⌜σ.saved = S ∧ σ.store.registry = R ∧ k ≤ σ.nextId⌝,
    fun _ σ => ⌜σ.saved = S ∧ σ.store.registry = R ∧ k ≤ σ.nextId⌝⟩⦄

theorem KeepsRegistry.registryAt {α : Type} {t : Txn α} (h : KeepsRegistry t) (S : Store)
    (R : Registry) (k : Nat) : RegistryAt t S R k := by
  refine triple_iff.2 fun σ ⟨hS, hR, hk⟩ => ?_
  obtain ⟨h₁, h₂, h₃⟩ := h σ
  rcases hx : t.exec σ with ⟨_ | _, σ'⟩ <;> rw [hx] at h₁ h₂ h₃ <;>
    exact ⟨h₁.trans hS, h₂.trans hR, hk ▸ h₃⟩

theorem KeepsRegistry.of_registryAt {α : Type} {t : Txn α} (h : ∀ S R k, RegistryAt t S R k) :
    KeepsRegistry t := by
  intro σ
  have ho := triple_iff.1 (h σ.saved σ.store.registry σ.nextId) σ ⟨rfl, rfl, rfl⟩
  rcases hx : t.exec σ with ⟨_ | _, σ'⟩ <;> rw [hx] at ho <;> exact ho

theorem KeepsRegistry.pure {α : Type} (a : α) : KeepsRegistry (pure a : Txn α) :=
  fun _ => ⟨rfl, rfl, le_refl _⟩

theorem KeepsRegistry.bind {α β : Type} {x : Txn α} {f : α → Txn β} (hx : KeepsRegistry x)
    (hf : ∀ a, KeepsRegistry (f a)) : KeepsRegistry (x >>= f) := by
  intro σ
  rw [exec_bind]
  have h₁ := hx σ
  rcases hr : x.exec σ with ⟨_ | a, σ'⟩ <;> rw [hr] at h₁
  · exact h₁
  · obtain ⟨h₂, h₃, h₄⟩ := hf a σ'
    exact ⟨h₂.trans h₁.1, h₃.trans h₁.2.1, h₁.2.2.trans h₄⟩

/-- A loop whose every step keeps the registry keeps it. -/
theorem KeepsRegistry.mapM {α β : Type} {f : α → Txn β} (hf : ∀ a, KeepsRegistry (f a)) :
    ∀ xs : List α, KeepsRegistry (xs.mapM f)
  | [] => KeepsRegistry.pure _
  | x :: xs => by
    rw [List.mapM_cons]
    exact (hf x).bind fun _ => (KeepsRegistry.mapM hf xs).bind fun _ => KeepsRegistry.pure _

/-- A loop over a list whose every step keeps the registry keeps it. -/
theorem KeepsRegistry.forIn {α β : Type} {f : α → β → Txn (ForInStep β)}
    (hf : ∀ a b, KeepsRegistry (f a b)) : ∀ (xs : List α) (b : β), KeepsRegistry (forIn xs b f)
  | [] => fun b => KeepsRegistry.pure b
  | x :: xs => fun b => by
    rw [List.forIn_cons]
    refine (hf x b).bind fun step => ?_
    cases step with
    | done b' => exact KeepsRegistry.pure b'
    | yield b' => exact KeepsRegistry.forIn hf xs b'

@[spec 5000] theorem mapM_registryAt {α β : Type} (xs : List α) (f : α → Txn β) (S : Store)
    (R : Registry) (k : Nat) (hf : ∀ a S' R' k', RegistryAt (f a) S' R' k') :
    RegistryAt (xs.mapM f) S R k :=
  (KeepsRegistry.mapM (fun a => KeepsRegistry.of_registryAt (hf a)) xs).registryAt S R k

@[spec 5000] theorem forIn_registryAt {α β : Type} (xs : List α) (b : β)
    (f : α → β → Txn (ForInStep β)) (S : Store) (R : Registry) (k : Nat)
    (hf : ∀ a b S' R' k', RegistryAt (f a b) S' R' k') : RegistryAt (forIn xs b f) S R k :=
  (KeepsRegistry.forIn (fun a b => KeepsRegistry.of_registryAt (hf a b)) xs b).registryAt S R k

end Txn

/-! ## §3 — The shared steps that keep the registry

Each is proved by `mvcgen` on the step itself, with its commit-point and book triples set aside.
The order steps whose exact triples name the whole store after them (`priceAll`, `saveOrder`)
need none here; those of storing lines and of writing a change are stated for the book. -/

namespace Api

open Catalog Themes Orders

@[spec 5000] theorem insertLines_registryAt (oid : String) (priced : List PricedLine)
    (S : Store) (R : Registry) (k : Nat) : Txn.RegistryAt (insertLines oid priced) S R k := by
  mvcgen -trivial [insertLines, insertLine, -insertLines_spec, -insertLines_keepsAt]
  all_goals simp_all +zetaDelta [Store.registry]

@[spec 5000] theorem writeChange_registryAt (d : OrderPatch) (o : Order) (added : List PricedLine)
    (changed : Option Payment) (fresh : Option (PaymentInput × Decimal)) (now : Stamp)
    (S : Store) (R : Registry) (k : Nat) :
    Txn.RegistryAt (writeChange d o added changed fresh now) S R k := by
  mvcgen -trivial [writeChange, -writeChange_spec]
  all_goals simp_all +zetaDelta [Store.registry]
  -- what is left is the counter, moved on by the id of a new payment
  all_goals exact Nat.le_succ_of_le ‹_ ∧ _ ∧ k ≤ _›.2.2

@[spec 5000] theorem addProduct_registryAt (d : ProductDraft) (S : Store) (R : Registry)
    (k : Nat) : Txn.RegistryAt (addProduct d) S R k := by
  mvcgen -trivial [addProduct, -addProduct_keepsAt, -addProduct_bookAt]
  all_goals simp_all +zetaDelta [Store.registry]

@[spec 5000] theorem saveProduct_registryAt (p : Product) (S : Store) (R : Registry) (k : Nat) :
    Txn.RegistryAt (saveProduct p) S R k := by
  mvcgen -trivial [saveProduct, -saveProduct_keepsAt, -saveProduct_bookAt]
  all_goals simp_all +zetaDelta [Store.registry]

@[spec 5000] theorem storedProductAt_registryAt (id : String) (S : Store) (R : Registry)
    (k : Nat) : Txn.RegistryAt (storedProductAt id) S R k := by
  mvcgen -trivial [storedProductAt, -storedProductAt_keepsAt, -storedProductAt_bookAt]
  all_goals simp_all +zetaDelta

@[spec 5000] theorem addVariation_registryAt (v : Variation) (S : Store) (R : Registry)
    (k : Nat) : Txn.RegistryAt (addVariation v) S R k := by
  mvcgen -trivial [addVariation, -addVariation_keepsAt, -addVariation_bookAt]
  all_goals simp_all +zetaDelta [Store.registry]

@[spec 5000] theorem saveVariation_registryAt (old new : Variation) (S : Store) (R : Registry)
    (k : Nat) : Txn.RegistryAt (saveVariation old new) S R k := by
  mvcgen -trivial [saveVariation, -saveVariation_keepsAt, -saveVariation_bookAt]
  all_goals simp_all +zetaDelta [Store.registry]

@[spec 5000] theorem dropVariation_registryAt (id : String) (S : Store) (R : Registry)
    (k : Nat) : Txn.RegistryAt (dropVariation id) S R k := by
  mvcgen -trivial [dropVariation, -dropVariation_keepsAt]
  all_goals simp_all +zetaDelta [Store.registry]

@[spec 5000] theorem applyVariation_registryAt (p : Product) (had : List String)
    (item : VariationPatch) (S : Store) (R : Registry) (k : Nat) :
    Txn.RegistryAt (applyVariation p had item) S R k := by
  mvcgen -trivial [applyVariation, -applyVariation_keepsAt, -applyVariation_bookAt]
  all_goals simp_all +zetaDelta

@[spec 5000] theorem tableImage_registryAt (menuUrl storeId tableNumber : String) (S : Store)
    (R : Registry) (k : Nat) : Txn.RegistryAt (tableImage menuUrl storeId tableNumber) S R k := by
  mvcgen -trivial [tableImage, -tableImage_keepsAt, -tableImage_bookAt]
  all_goals simp_all +zetaDelta

@[spec 5000] theorem buildQrCode_registryAt (kind : String) (menuUrl : Option String)
    (expiresAt : Option Stamp) (storeId tableNumber : String) (S : Store) (R : Registry)
    (k : Nat) : Txn.RegistryAt (buildQrCode kind menuUrl expiresAt storeId tableNumber) S R k := by
  mvcgen -trivial [buildQrCode, -buildQrCode_keepsAt, -buildQrCode_bookAt]
  all_goals simp_all +zetaDelta
  all_goals omega

@[spec 5000] theorem storeQrCodes_registryAt (qs : List QrCode) (S : Store) (R : Registry)
    (k : Nat) : Txn.RegistryAt (storeQrCodes qs) S R k := by
  mvcgen -trivial [storeQrCodes, -storeQrCodes_keepsAt, -storeQrCodes_bookAt]
  all_goals simp_all +zetaDelta [Store.registry]

@[spec 5000] theorem themeName_registryAt (name : String) (own : Option String) (S : Store)
    (R : Registry) (k : Nat) : Txn.RegistryAt (themeName name own) S R k := by
  mvcgen -trivial [themeName, -themeName_keepsAt, -themeName_bookAt]
  all_goals simp_all +zetaDelta

@[spec 5000] theorem publish_registryAt (u : Upload) (folder : String) (storageFails : Bool)
    (S : Store) (R : Registry) (k : Nat) :
    Txn.RegistryAt (Media.publish u folder storageFails) S R k := by
  mvcgen -trivial [Media.publish, -publish_keepsAt, -publish_bookAt]
  all_goals simp_all +zetaDelta

@[spec 5000] theorem digestOf_registryAt (password : String) (S : Store) (R : Registry)
    (k : Nat) : Txn.RegistryAt (digestOf password) S R k := by
  mvcgen -trivial [digestOf, -digestOf_keepsAt, -digestOf_bookAt]
  all_goals simp_all +zetaDelta

@[spec 5000] theorem requireRole_registryAt (roleId : Option String) (S : Store) (R : Registry)
    (k : Nat) : Txn.RegistryAt (requireRole roleId) S R k := by
  mvcgen -trivial [requireRole, -requireRole_keepsAt, -requireRole_bookAt]
  all_goals simp_all +zetaDelta

@[spec 5000] theorem requireRoleNameFree_registryAt (name : String) (self : Option String)
    (S : Store) (R : Registry) (k : Nat) :
    Txn.RegistryAt (requireRoleNameFree name self) S R k := by
  mvcgen -trivial [requireRoleNameFree, -requireRoleNameFree_keepsAt, -requireRoleNameFree_bookAt]
  all_goals simp_all +zetaDelta

@[spec 5000] theorem permissionsOf_registryAt (ids : List String) (S : Store) (R : Registry)
    (k : Nat) : Txn.RegistryAt (permissionsOf ids) S R k := by
  mvcgen -trivial [permissionsOf, -permissionsOf_keepsAt, -permissionsOf_bookAt]
  all_goals simp_all +zetaDelta

@[spec 5000] theorem setGrants_registryAt (roleId : String) (ps : List Permission) (S : Store)
    (R : Registry) (k : Nat) : Txn.RegistryAt (setGrants roleId ps) S R k := by
  mvcgen -trivial [setGrants, -setGrants_keepsAt, -setGrants_bookAt]
  all_goals simp_all +zetaDelta [Store.registry]

@[spec 5000] theorem addRole_registryAt (name : String) (description : Option String)
    (ps : List Permission) (S : Store) (R : Registry) (k : Nat) :
    Txn.RegistryAt (addRole name description ps) S R k := by
  mvcgen -trivial [addRole, -addRole_keepsAt, -addRole_bookAt]
  all_goals simp_all +zetaDelta [Store.registry]
  all_goals omega

end Api

/-! ## §4 — Handlers that keep the registry -/

/-- **A handler that keeps the registry**: run from a session whose store and commit point are
`S`, it answers with a store, or fails with a commit point, whose registry is that of `S`, and
with a counter no smaller than it found. -/
def RegistryFrame (h : Request → List String → Txn Response) : Prop :=
  ∀ r ps S k, ⦃fun σ => ⌜σ.saved = S ∧ σ.store = S ∧ σ.nextId = k⌝⦄ h r ps
    ⦃post⟨fun _ σ => ⌜σ.store.registry = S.registry ∧ k ≤ σ.nextId⌝,
      fun _ σ => ⌜σ.saved.registry = S.registry ∧ k ≤ σ.nextId⌝⟩⦄

namespace Api

open Catalog Themes

/-- The status routes answer a fixed document. -/
@[simp] theorem bare_registry_frame (data : Json) (plain : Bool) :
    RegistryFrame fun _ _ => Reply.bare data plain := by
  intro r ps S k
  mvcgen -trivial
  all_goals simp_all +zetaDelta

/-! ### Sign-in, accounts and roles -/

@[simp] theorem login_registry_frame : RegistryFrame login := by
  intro r ps S k
  mvcgen -trivial [login]
  all_goals simp_all +zetaDelta [Store.registry]

@[simp] theorem me_registry_frame : RegistryFrame me := by
  intro r ps S k
  mvcgen -trivial [me]
  all_goals simp_all +zetaDelta

@[simp] theorem listUsers_registry_frame : RegistryFrame listUsers := by
  intro r ps S k
  mvcgen -trivial [listUsers]
  all_goals simp_all +zetaDelta

@[simp] theorem getUser_registry_frame : RegistryFrame getUser := by
  intro r ps S k
  mvcgen -trivial [getUser]
  all_goals simp_all +zetaDelta

@[simp] theorem createUser_registry_frame : RegistryFrame createUser := by
  intro r ps S k
  mvcgen -trivial [createUser]
  all_goals simp_all +zetaDelta [Store.registry]
  all_goals omega

@[simp] theorem updateUser_registry_frame : RegistryFrame updateUser := by
  intro r ps S k
  mvcgen -trivial [updateUser]
  all_goals simp_all +zetaDelta [Store.registry]
  all_goals omega

@[simp] theorem deleteUser_registry_frame : RegistryFrame deleteUser := by
  intro r ps S k
  mvcgen -trivial [deleteUser]
  all_goals simp_all +zetaDelta [Store.registry]

@[simp] theorem listRoles_registry_frame : RegistryFrame listRoles := by
  intro r ps S k
  mvcgen -trivial [listRoles]
  all_goals simp_all +zetaDelta

@[simp] theorem getRole_registry_frame : RegistryFrame getRole := by
  intro r ps S k
  mvcgen -trivial [getRole]
  all_goals simp_all +zetaDelta

@[simp] theorem createRole_registry_frame : RegistryFrame createRole := by
  intro r ps S k
  mvcgen -trivial [createRole]
  all_goals simp_all +zetaDelta [Store.registry]
  all_goals omega

@[simp] theorem updateRole_registry_frame : RegistryFrame updateRole := by
  intro r ps S k
  mvcgen -trivial [updateRole]
  all_goals simp_all +zetaDelta [Store.registry]
  all_goals omega

@[simp] theorem addRolePermissions_registry_frame : RegistryFrame addRolePermissions := by
  intro r ps S k
  mvcgen -trivial [addRolePermissions]
  all_goals simp_all +zetaDelta [Store.registry]
  all_goals omega

@[simp] theorem removeRolePermissions_registry_frame : RegistryFrame removeRolePermissions := by
  intro r ps S k
  mvcgen -trivial [removeRolePermissions]
  all_goals simp_all +zetaDelta [Store.registry]

@[simp] theorem deleteRole_registry_frame : RegistryFrame deleteRole := by
  intro r ps S k
  mvcgen -trivial [deleteRole]
  all_goals simp_all +zetaDelta [Store.registry]

@[simp] theorem listPermissions_registry_frame : RegistryFrame listPermissions := by
  intro r ps S k
  mvcgen -trivial [listPermissions]
  all_goals simp_all +zetaDelta

@[simp] theorem getPermission_registry_frame : RegistryFrame getPermission := by
  intro r ps S k
  mvcgen -trivial [getPermission]
  all_goals simp_all +zetaDelta

/-! ### The catalogue, less the categories -/

@[simp] theorem listCategories_registry_frame : RegistryFrame listCategories := by
  intro r ps S k
  mvcgen -trivial [listCategories]
  all_goals simp_all +zetaDelta

@[simp] theorem getCategory_registry_frame : RegistryFrame getCategory := by
  intro r ps S k
  mvcgen -trivial [getCategory]
  all_goals simp_all +zetaDelta

@[simp] theorem listProducts_registry_frame : RegistryFrame listProducts := by
  intro r ps S k
  mvcgen -trivial [listProducts]
  all_goals simp_all +zetaDelta

@[simp] theorem getProduct_registry_frame : RegistryFrame getProduct := by
  intro r ps S k
  mvcgen -trivial [getProduct]
  all_goals simp_all +zetaDelta

@[simp] theorem listProductVariations_registry_frame : RegistryFrame listProductVariations := by
  intro r ps S k
  mvcgen -trivial [listProductVariations]
  all_goals simp_all +zetaDelta

@[simp] theorem createProduct_registry_frame : RegistryFrame createProduct := by
  intro r ps S k
  mvcgen -trivial [createProduct]
  all_goals simp_all +zetaDelta

@[simp] theorem createProductBundle_registry_frame : RegistryFrame createProductBundle := by
  intro r ps S k
  mvcgen -trivial [createProductBundle]
  all_goals simp_all +zetaDelta
  all_goals omega

@[simp] theorem updateProduct_registry_frame : RegistryFrame updateProduct := by
  intro r ps S k
  mvcgen -trivial [updateProduct]
  all_goals simp_all +zetaDelta
  all_goals omega

@[simp] theorem updateProductBundle_registry_frame : RegistryFrame updateProductBundle := by
  intro r ps S k
  mvcgen -trivial [updateProductBundle]
  all_goals simp_all +zetaDelta [Store.registry]
  all_goals omega

@[simp] theorem uploadProductImage_registry_frame : RegistryFrame uploadProductImage := by
  intro r ps S k
  mvcgen -trivial [uploadProductImage]
  all_goals simp_all +zetaDelta [Store.registry]
  all_goals omega

@[simp] theorem deleteProduct_registry_frame : RegistryFrame deleteProduct := by
  intro r ps S k
  mvcgen -trivial [deleteProduct]
  all_goals simp_all +zetaDelta [Store.registry]

@[simp] theorem listVariations_registry_frame : RegistryFrame listVariations := by
  intro r ps S k
  mvcgen -trivial [listVariations]
  all_goals simp_all +zetaDelta

@[simp] theorem getVariation_registry_frame : RegistryFrame getVariation := by
  intro r ps S k
  mvcgen -trivial [getVariation]
  all_goals simp_all +zetaDelta

@[simp] theorem createVariation_registry_frame : RegistryFrame createVariation := by
  intro r ps S k
  mvcgen -trivial [createVariation]
  all_goals simp_all +zetaDelta

@[simp] theorem updateVariation_registry_frame : RegistryFrame updateVariation := by
  intro r ps S k
  mvcgen -trivial [updateVariation]
  all_goals simp_all +zetaDelta

@[simp] theorem deleteVariation_registry_frame : RegistryFrame deleteVariation := by
  intro r ps S k
  mvcgen -trivial [deleteVariation]
  all_goals simp_all +zetaDelta [Store.registry]

/-! ### Orders, payments and invoices -/

@[simp] theorem createOrder_registry_frame : RegistryFrame createOrder := by
  intro r ps S k
  mvcgen -trivial [createOrder]
  all_goals simp_all +zetaDelta [Store.registry]
  all_goals omega

@[simp] theorem listOrders_registry_frame : RegistryFrame listOrders := by
  intro r ps S k
  mvcgen -trivial [listOrders]
  all_goals simp_all +zetaDelta

@[simp] theorem getOrder_registry_frame : RegistryFrame getOrder := by
  intro r ps S k
  mvcgen -trivial [getOrder]
  all_goals simp_all +zetaDelta

@[simp] theorem updateOrder_registry_frame : RegistryFrame updateOrder := by
  intro r ps S k
  mvcgen -trivial [updateOrder]
  all_goals simp_all +zetaDelta [Store.registry]

@[simp] theorem cancelOrder_registry_frame : RegistryFrame cancelOrder := by
  intro r ps S k
  mvcgen -trivial [cancelOrder]
  all_goals simp_all +zetaDelta [Store.registry]

@[simp] theorem completeOrder_registry_frame : RegistryFrame completeOrder := by
  intro r ps S k
  mvcgen -trivial [completeOrder]
  all_goals simp_all +zetaDelta [Store.registry]

@[simp] theorem payOrder_registry_frame : RegistryFrame payOrder := by
  intro r ps S k
  mvcgen -trivial [payOrder]
  all_goals simp_all +zetaDelta [Store.registry]
  all_goals omega

@[simp] theorem listOrderPayments_registry_frame : RegistryFrame listOrderPayments := by
  intro r ps S k
  mvcgen -trivial [listOrderPayments]
  all_goals simp_all +zetaDelta

@[simp] theorem listOrderLines_registry_frame : RegistryFrame listOrderLines := by
  intro r ps S k
  mvcgen -trivial [listOrderLines]
  all_goals simp_all +zetaDelta

@[simp] theorem addOrderLines_registry_frame : RegistryFrame addOrderLines := by
  intro r ps S k
  mvcgen -trivial [addOrderLines]
  all_goals simp_all +zetaDelta [Store.registry]

@[simp] theorem createInvoice_registry_frame : RegistryFrame createInvoice := by
  intro r ps S k
  mvcgen -trivial [createInvoice]
  all_goals simp_all +zetaDelta [Store.registry]
  all_goals omega

@[simp] theorem getOrderInvoice_registry_frame : RegistryFrame getOrderInvoice := by
  intro r ps S k
  mvcgen -trivial [getOrderInvoice]
  all_goals simp_all +zetaDelta

@[simp] theorem listPayments_registry_frame : RegistryFrame listPayments := by
  intro r ps S k
  mvcgen -trivial [listPayments]
  all_goals simp_all +zetaDelta

@[simp] theorem createPayment_registry_frame : RegistryFrame createPayment := by
  intro r ps S k
  mvcgen -trivial [createPayment]
  all_goals simp_all +zetaDelta [Store.registry]

@[simp] theorem listInvoices_registry_frame : RegistryFrame listInvoices := by
  intro r ps S k
  mvcgen -trivial [listInvoices]
  all_goals simp_all +zetaDelta

@[simp] theorem getInvoice_registry_frame : RegistryFrame getInvoice := by
  intro r ps S k
  mvcgen -trivial [getInvoice]
  all_goals simp_all +zetaDelta

/-! ### Table codes, themes that are read, and the activity log -/

@[simp] theorem getQrCodeByCode_registry_frame : RegistryFrame getQrCodeByCode := by
  intro r ps S k
  mvcgen -trivial [getQrCodeByCode]
  all_goals simp_all +zetaDelta

@[simp] theorem listQrCodes_registry_frame : RegistryFrame listQrCodes := by
  intro r ps S k
  mvcgen -trivial [listQrCodes, qrCodePage]
  all_goals simp_all +zetaDelta

@[simp] theorem listStoreQrCodes_registry_frame : RegistryFrame listStoreQrCodes := by
  intro r ps S k
  mvcgen -trivial [listStoreQrCodes, qrCodePage]
  all_goals simp_all +zetaDelta

@[simp] theorem getQrCode_registry_frame : RegistryFrame getQrCode := by
  intro r ps S k
  mvcgen -trivial [getQrCode]
  all_goals simp_all +zetaDelta

@[simp] theorem createQrCode_registry_frame : RegistryFrame createQrCode := by
  intro r ps S k
  mvcgen -trivial [createQrCode]
  all_goals simp_all +zetaDelta
  all_goals omega

@[simp] theorem createQrCodes_registry_frame : RegistryFrame createQrCodes := by
  intro r ps S k
  mvcgen -trivial [createQrCodes]
  all_goals simp_all +zetaDelta
  all_goals omega

@[simp] theorem updateQrCode_registry_frame : RegistryFrame updateQrCode := by
  intro r ps S k
  mvcgen -trivial [updateQrCode]
  all_goals simp_all +zetaDelta [Store.registry]

@[simp] theorem deleteQrCode_registry_frame : RegistryFrame deleteQrCode := by
  intro r ps S k
  mvcgen -trivial [deleteQrCode]
  all_goals simp_all +zetaDelta [Store.registry]

@[simp] theorem listThemes_registry_frame : RegistryFrame listThemes := by
  intro r ps S k
  mvcgen -trivial [listThemes]
  all_goals simp_all +zetaDelta

@[simp] theorem getTheme_registry_frame : RegistryFrame getTheme := by
  intro r ps S k
  mvcgen -trivial [getTheme]
  all_goals simp_all +zetaDelta

@[simp] theorem createLog_registry_frame : RegistryFrame createLog := by
  intro r ps S k
  mvcgen -trivial [createLog]
  all_goals simp_all +zetaDelta [Store.registry]

@[simp] theorem listLogs_registry_frame : RegistryFrame listLogs := by
  intro r ps S k
  mvcgen -trivial [listLogs]
  all_goals simp_all +zetaDelta

/-! ## §5 — The routing table -/

/-- **The routes that write the registry**: those that create, generate, change or delete
permissions or build a comprehensive role, and those that create, change or delete categories
and themes. -/
def registryWriters : List Route :=
  [ Route.of "POST" "/api/v1/permissions" createPermission,
    Route.of "POST" "/api/v1/permissions/generate" generatePermissions,
    Route.of "PUT" "/api/v1/permissions/\x7bid\x7d" updatePermission,
    Route.of "DELETE" "/api/v1/permissions/\x7bid\x7d" deletePermission,
    Route.of "POST" "/api/v1/roles/comprehensive" createComprehensiveRole,
    Route.of "POST" "/api/v1/categories" createCategory,
    Route.of "PUT" "/api/v1/categories/\x7bid\x7d" updateCategory,
    Route.of "DELETE" "/api/v1/categories/\x7bid\x7d" deleteCategory,
    Route.of "POST" "/api/v1/themes" createTheme,
    Route.of "PUT" "/api/v1/themes/\x7btheme_id\x7d" updateTheme,
    Route.of "DELETE" "/api/v1/themes/\x7btheme_id\x7d" deleteTheme ]

/-- **Every route keeps the registry, or writes it on purpose.** -/
theorem routes_registry_frame :
    ∀ route ∈ routes, RegistryFrame route.handle ∨ route ∈ registryWriters := by
  simp only [routes, statusRoutes, authRoutes, catalogRoutes, orderRoutes, qrRoutes, themeRoutes,
    accessRoutes, logRoutes, List.cons_append, List.nil_append, List.forall_mem_cons,
    List.not_mem_nil, IsEmpty.forall_iff, implies_true, and_true]
  simp [Route.of, registryWriters]

end Api

/-! ## §6 — Requests that keep the registry -/

/-- **A request that a route keeping the registry answers leaves the registry as it was**, and
moves the counter of fresh identifiers only on, whether it succeeds or fails. -/
theorem serve_registry_frame {s : Store} {n : Nat} {now : Stamp} {r : Request} {route : Route}
    {ps : List String} (hsel : Route.select Api.routes r = .ok (route, ps))
    (hframe : RegistryFrame route.handle) :
    (serve Api.routes s n now r).store.registry = s.registry ∧
      n ≤ (serve Api.routes s n now r).nextId := by
  rw [serve_eq, Route.dispatch_eq_handle hsel]
  have hrun := Txn.triple_iff.1 (hframe r ps s n) { store := s, saved := s, nextId := n, now := now }
    ⟨rfl, rfl, rfl⟩
  generalize (route.handle r ps).exec { store := s, saved := s, nextId := n, now := now } = run at hrun ⊢
  rcases run with ⟨_ | _, σ'⟩ <;> exact hrun

end Bistro
