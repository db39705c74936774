import Bistro.Proofs.Atomicity

/-!
# Bistro — the order book, and the routes that leave it alone

The order book of a store is the part of it that orders are about: its orders, less the links to
a user and a table code that deleting those rows clears, its lines, its payments and its
invoices. Few routes write it: the eight order routes that place, change, cancel, complete, pay,
extend or invoice an order or record a payment, and the three catalogue routes that delete
products or variations, which clear the links of the lines that named them (`bookWriters`).

This module proves that every other route keeps the book and never moves the counter of fresh
identifiers back:

* `Txn.KeepsBook t` — every run of `t` keeps the commit point and the book, and only moves the
  counter on; `Txn.BookAt` is the same as a triple, registered with `spec` at a priority above
  the commit-point triples, so that `mvcgen` takes a shared step as one step and keeps the book;
* `BookFrame h` — a handler run from a store keeps that store's book, whether it answers or fails;
* `routes_book_frame` — every route keeps the book or is one of `bookWriters`;
* `serve_book_frame` — so a request that such a route answers leaves the book as it was.
-/

open Std.Do

set_option mvcgen.warning false

namespace Bistro

/-! ## §1 — The order book -/

/-- An order less its links to a user and a table code. -/
def Order.unlinked (o : Order) : Order := { o with userId := none, qrId := none }

/-- What the store holds about orders. -/
structure OrderBook where
  orders : List Order
  lines : List OrderLine
  payments : List Payment
  invoices : List Invoice

/-- The order book of a store. -/
def Store.book (s : Store) : OrderBook := ⟨s.orders.map Order.unlinked, s.lines, s.payments, s.invoices⟩

/-- Clearing the user link of an order does not change it unlinked. -/
@[simp] theorem Order.unlinked_clear_user (o : Order) :
    ({ o with userId := none } : Order).unlinked = o.unlinked := rfl

/-- Clearing the table-code link of an order does not change it unlinked. -/
@[simp] theorem Order.unlinked_clear_qr (o : Order) :
    ({ o with qrId := none } : Order).unlinked = o.unlinked := rfl

theorem Store.book_eq_iff {s s' : Store} :
    s'.book = s.book ↔ s'.orders.map Order.unlinked = s.orders.map Order.unlinked ∧
      s'.lines = s.lines ∧ s'.payments = s.payments ∧ s'.invoices = s.invoices := by
  simp [Store.book]

/-! ## §2 — Steps that keep the book -/

namespace Txn

/-- A step that keeps the commit point and the book, and only moves the counter on. -/
def KeepsBook {α : Type} (t : Txn α) : Prop :=
  ∀ σ, (t.exec σ).2.saved = σ.saved ∧ (t.exec σ).2.store.book = σ.store.book ∧
    σ.nextId ≤ (t.exec σ).2.nextId

/-- The triple of a step that keeps the commit point `S`, the book `B`, and a counter of at
least `k`. -/
abbrev BookAt {α : Type} (t : Txn α) (S : Store) (B : OrderBook) (k : Nat) : Prop :=
  ⦃fun σ => ⌜σ.saved = S ∧ σ.store.book = B ∧ σ.nextId = k⌝⦄ t
  ⦃post⟨fun _ σ => ⌜σ.saved = S ∧ σ.store.book = B ∧ k ≤ σ.nextId⌝,
    fun _ σ => ⌜σ.saved = S ∧ σ.store.book = B ∧ k ≤ σ.nextId⌝⟩⦄

theorem KeepsBook.bookAt {α : Type} {t : Txn α} (h : KeepsBook t) (S : Store) (B : OrderBook)
    (k : Nat) : BookAt t S B k := by
  refine triple_iff.2 fun σ ⟨hS, hB, hk⟩ => ?_
  obtain ⟨h₁, h₂, h₃⟩ := h σ
  rcases hx : t.exec σ with ⟨_ | _, σ'⟩ <;> rw [hx] at h₁ h₂ h₃ <;>
    exact ⟨h₁.trans hS, h₂.trans hB, hk ▸ h₃⟩

theorem KeepsBook.of_bookAt {α : Type} {t : Txn α} (h : ∀ S B k, BookAt t S B k) :
    KeepsBook t := by
  intro σ
  have ho := triple_iff.1 (h σ.saved σ.store.book σ.nextId) σ ⟨rfl, rfl, rfl⟩
  rcases hx : t.exec σ with ⟨_ | _, σ'⟩ <;> rw [hx] at ho <;> exact ho

theorem KeepsBook.pure {α : Type} (a : α) : KeepsBook (pure a : Txn α) :=
  fun _ => ⟨rfl, rfl, le_refl _⟩

theorem KeepsBook.bind {α β : Type} {x : Txn α} {f : α → Txn β} (hx : KeepsBook x)
    (hf : ∀ a, KeepsBook (f a)) : KeepsBook (x >>= f) := by
  intro σ
  rw [exec_bind]
  have h₁ := hx σ
  rcases hr : x.exec σ with ⟨_ | a, σ'⟩ <;> rw [hr] at h₁
  · exact h₁
  · obtain ⟨h₂, h₃, h₄⟩ := hf a σ'
    exact ⟨h₂.trans h₁.1, h₃.trans h₁.2.1, h₁.2.2.trans h₄⟩

/-- A loop whose every step keeps the book keeps it. -/
theorem KeepsBook.mapM {α β : Type} {f : α → Txn β} (hf : ∀ a, KeepsBook (f a)) :
    ∀ xs : List α, KeepsBook (xs.mapM f)
  | [] => KeepsBook.pure _
  | x :: xs => by
    rw [List.mapM_cons]
    exact (hf x).bind fun _ => (KeepsBook.mapM hf xs).bind fun _ => KeepsBook.pure _

/-- A loop over a list whose every step keeps the book keeps it. -/
theorem KeepsBook.forIn {α β : Type} {f : α → β → Txn (ForInStep β)}
    (hf : ∀ a b, KeepsBook (f a b)) : ∀ (xs : List α) (b : β), KeepsBook (forIn xs b f)
  | [] => fun b => KeepsBook.pure b
  | x :: xs => fun b => by
    rw [List.forIn_cons]
    refine (hf x b).bind fun step => ?_
    cases step with
    | done b' => exact KeepsBook.pure b'
    | yield b' => exact KeepsBook.forIn hf xs b'

@[spec 3000] theorem mapM_bookAt {α β : Type} (xs : List α) (f : α → Txn β) (S : Store)
    (B : OrderBook) (k : Nat) (hf : ∀ a S' B' k', BookAt (f a) S' B' k') :
    BookAt (xs.mapM f) S B k :=
  (KeepsBook.mapM (fun a => KeepsBook.of_bookAt (hf a)) xs).bookAt S B k

@[spec 3000] theorem forIn_bookAt {α β : Type} (xs : List α) (b : β)
    (f : α → β → Txn (ForInStep β)) (S : Store) (B : OrderBook) (k : Nat)
    (hf : ∀ a b S' B' k', BookAt (f a b) S' B' k') : BookAt (forIn xs b f) S B k :=
  (KeepsBook.forIn (fun a b => KeepsBook.of_bookAt (hf a b)) xs b).bookAt S B k

end Txn

/-! ## §3 — The shared steps that keep the book

Each is proved by `mvcgen` on the step itself, with its commit-point triple set aside. -/

namespace Api

open Catalog Themes

@[spec 3000] theorem priceAll_bookAt (items : List LineRequest) (S : Store) (B : OrderBook)
    (k : Nat) : Txn.BookAt (priceAll items) S B k := by
  mvcgen -trivial [priceAll, -priceAll_keepsAt]
  all_goals simp_all +zetaDelta

@[spec 3000] theorem addProduct_bookAt (d : ProductDraft) (S : Store) (B : OrderBook) (k : Nat) :
    Txn.BookAt (addProduct d) S B k := by
  mvcgen -trivial [addProduct, -addProduct_keepsAt]
  all_goals simp_all +zetaDelta [Store.book]

@[spec 3000] theorem saveProduct_bookAt (p : Product) (S : Store) (B : OrderBook) (k : Nat) :
    Txn.BookAt (saveProduct p) S B k := by
  mvcgen -trivial [saveProduct, -saveProduct_keepsAt]
  all_goals simp_all +zetaDelta [Store.book]

@[spec 3000] theorem storedProductAt_bookAt (id : String) (S : Store) (B : OrderBook) (k : Nat) :
    Txn.BookAt (storedProductAt id) S B k := by
  mvcgen -trivial [storedProductAt, -storedProductAt_keepsAt]
  all_goals simp_all +zetaDelta

@[spec 3000] theorem addVariation_bookAt (v : Variation) (S : Store) (B : OrderBook) (k : Nat) :
    Txn.BookAt (addVariation v) S B k := by
  mvcgen -trivial [addVariation, -addVariation_keepsAt]
  all_goals simp_all +zetaDelta [Store.book]

@[spec 3000] theorem saveVariation_bookAt (old new : Variation) (S : Store) (B : OrderBook)
    (k : Nat) : Txn.BookAt (saveVariation old new) S B k := by
  mvcgen -trivial [saveVariation, -saveVariation_keepsAt]
  all_goals simp_all +zetaDelta [Store.book]

@[spec 3000] theorem applyVariation_bookAt (p : Product) (had : List String)
    (item : VariationPatch) (S : Store) (B : OrderBook) (k : Nat) :
    Txn.BookAt (applyVariation p had item) S B k := by
  mvcgen -trivial [applyVariation, -applyVariation_keepsAt]
  all_goals simp_all +zetaDelta

@[spec 3000] theorem tableImage_bookAt (menuUrl storeId tableNumber : String) (S : Store)
    (B : OrderBook) (k : Nat) : Txn.BookAt (tableImage menuUrl storeId tableNumber) S B k := by
  mvcgen -trivial [tableImage, -tableImage_keepsAt]
  all_goals simp_all +zetaDelta

@[spec 3000] theorem buildQrCode_bookAt (kind : String) (menuUrl : Option String)
    (expiresAt : Option Stamp) (storeId tableNumber : String) (S : Store) (B : OrderBook)
    (k : Nat) : Txn.BookAt (buildQrCode kind menuUrl expiresAt storeId tableNumber) S B k := by
  mvcgen -trivial [buildQrCode, -buildQrCode_keepsAt]
  all_goals simp_all +zetaDelta
  all_goals omega

@[spec 3000] theorem storeQrCodes_bookAt (qs : List QrCode) (S : Store) (B : OrderBook)
    (k : Nat) : Txn.BookAt (storeQrCodes qs) S B k := by
  mvcgen -trivial [storeQrCodes, -storeQrCodes_keepsAt]
  all_goals simp_all +zetaDelta [Store.book]

@[spec 3000] theorem themeName_bookAt (name : String) (own : Option String) (S : Store)
    (B : OrderBook) (k : Nat) : Txn.BookAt (themeName name own) S B k := by
  mvcgen -trivial [themeName, -themeName_keepsAt]
  all_goals simp_all +zetaDelta

@[spec 3000] theorem saveTheme_bookAt (t : Theme) (S : Store) (B : OrderBook) (k : Nat) :
    Txn.BookAt (saveTheme t) S B k := by
  mvcgen -trivial [saveTheme, -saveTheme_keepsAt]
  all_goals simp_all +zetaDelta [Store.book]

@[spec 3000] theorem clearDefault_bookAt (own : Option String) (S : Store) (B : OrderBook)
    (k : Nat) : Txn.BookAt (clearDefault own) S B k := by
  mvcgen -trivial [clearDefault, -clearDefault_keepsAt]
  all_goals simp_all +zetaDelta [Store.book]

@[spec 3000] theorem publish_bookAt (u : Upload) (folder : String) (storageFails : Bool)
    (S : Store) (B : OrderBook) (k : Nat) :
    Txn.BookAt (Media.publish u folder storageFails) S B k := by
  mvcgen -trivial [Media.publish, -publish_keepsAt]
  all_goals simp_all +zetaDelta

@[spec 3000] theorem attachLogo_bookAt (r : Request) (t : Theme) (u : Option Upload) (S : Store)
    (B : OrderBook) (k : Nat) : Txn.BookAt (attachLogo r t u) S B k := by
  mvcgen -trivial [attachLogo, -attachLogo_keepsAt]
  all_goals simp_all +zetaDelta
  all_goals omega

@[spec 3000] theorem digestOf_bookAt (password : String) (S : Store) (B : OrderBook) (k : Nat) :
    Txn.BookAt (digestOf password) S B k := by
  mvcgen -trivial [digestOf, -digestOf_keepsAt]
  all_goals simp_all +zetaDelta

@[spec 3000] theorem requireRole_bookAt (roleId : Option String) (S : Store) (B : OrderBook)
    (k : Nat) : Txn.BookAt (requireRole roleId) S B k := by
  mvcgen -trivial [requireRole, -requireRole_keepsAt]
  all_goals simp_all +zetaDelta

@[spec 3000] theorem requireRoleNameFree_bookAt (name : String) (self : Option String)
    (S : Store) (B : OrderBook) (k : Nat) : Txn.BookAt (requireRoleNameFree name self) S B k := by
  mvcgen -trivial [requireRoleNameFree, -requireRoleNameFree_keepsAt]
  all_goals simp_all +zetaDelta

@[spec 3000] theorem permissionsOf_bookAt (ids : List String) (S : Store) (B : OrderBook)
    (k : Nat) : Txn.BookAt (permissionsOf ids) S B k := by
  mvcgen -trivial [permissionsOf, -permissionsOf_keepsAt]
  all_goals simp_all +zetaDelta

@[spec 3000] theorem setGrants_bookAt (roleId : String) (ps : List Permission) (S : Store)
    (B : OrderBook) (k : Nat) : Txn.BookAt (setGrants roleId ps) S B k := by
  mvcgen -trivial [setGrants, -setGrants_keepsAt]
  all_goals simp_all +zetaDelta [Store.book]

@[spec 3000] theorem addRole_bookAt (name : String) (description : Option String)
    (ps : List Permission) (S : Store) (B : OrderBook) (k : Nat) :
    Txn.BookAt (addRole name description ps) S B k := by
  mvcgen -trivial [addRole, -addRole_keepsAt]
  all_goals simp_all +zetaDelta [Store.book]
  all_goals omega

@[spec 3000] theorem ensurePermission_bookAt (name description : String) (S : Store)
    (B : OrderBook) (k : Nat) : Txn.BookAt (ensurePermission name description) S B k := by
  mvcgen -trivial [ensurePermission, -ensurePermission_keepsAt]
  all_goals simp_all +zetaDelta [Store.book]

end Api

/-! ## §4 — Handlers that keep the book -/

/-- **A handler that keeps the book**: run from a session whose store and commit point are `S`,
it answers with a store, or fails with a commit point, whose book is that of `S`, and with a
counter no smaller than it found. -/
def BookFrame (h : Request → List String → Txn Response) : Prop :=
  ∀ r ps S k, ⦃fun σ => ⌜σ.saved = S ∧ σ.store = S ∧ σ.nextId = k⌝⦄ h r ps
    ⦃post⟨fun _ σ => ⌜σ.store.book = S.book ∧ k ≤ σ.nextId⌝,
      fun _ σ => ⌜σ.saved.book = S.book ∧ k ≤ σ.nextId⌝⟩⦄

namespace Api

open Catalog Themes

/-- The status routes answer a fixed document. -/
@[simp] theorem bare_book_frame (data : Json) (plain : Bool) : BookFrame fun _ _ => Reply.bare data plain := by
  intro r ps S k
  mvcgen -trivial
  all_goals simp_all +zetaDelta

/-! ### Sign-in and accounts -/

@[simp] theorem login_book_frame : BookFrame login := by
  intro r ps S k
  mvcgen -trivial [login]
  all_goals simp_all +zetaDelta [Store.book]

@[simp] theorem me_book_frame : BookFrame me := by
  intro r ps S k
  mvcgen -trivial [me]
  all_goals simp_all +zetaDelta

@[simp] theorem listUsers_book_frame : BookFrame listUsers := by
  intro r ps S k
  mvcgen -trivial [listUsers]
  all_goals simp_all +zetaDelta

@[simp] theorem getUser_book_frame : BookFrame getUser := by
  intro r ps S k
  mvcgen -trivial [getUser]
  all_goals simp_all +zetaDelta

@[simp] theorem createUser_book_frame : BookFrame createUser := by
  intro r ps S k
  mvcgen -trivial [createUser]
  all_goals simp_all +zetaDelta [Store.book]
  all_goals omega

@[simp] theorem updateUser_book_frame : BookFrame updateUser := by
  intro r ps S k
  mvcgen -trivial [updateUser]
  all_goals simp_all +zetaDelta [Store.book]
  all_goals omega

/-- Deleting a user clears the user link of its orders, which the book leaves out. -/
@[simp] theorem deleteUser_book_frame : BookFrame deleteUser := by
  intro r ps S k
  mvcgen -trivial [deleteUser]
  all_goals simp_all +zetaDelta [Store.book, apply_ite Order.unlinked]

@[simp] theorem listRoles_book_frame : BookFrame listRoles := by
  intro r ps S k
  mvcgen -trivial [listRoles]
  all_goals simp_all +zetaDelta

@[simp] theorem getRole_book_frame : BookFrame getRole := by
  intro r ps S k
  mvcgen -trivial [getRole]
  all_goals simp_all +zetaDelta

@[simp] theorem createRole_book_frame : BookFrame createRole := by
  intro r ps S k
  mvcgen -trivial [createRole]
  all_goals simp_all +zetaDelta [Store.book]
  all_goals omega

@[simp] theorem createComprehensiveRole_book_frame : BookFrame createComprehensiveRole := by
  intro r ps S k
  mvcgen -trivial [createComprehensiveRole]
  all_goals simp_all +zetaDelta [Store.book]
  all_goals omega

@[simp] theorem updateRole_book_frame : BookFrame updateRole := by
  intro r ps S k
  mvcgen -trivial [updateRole]
  all_goals simp_all +zetaDelta [Store.book]
  all_goals omega

@[simp] theorem addRolePermissions_book_frame : BookFrame addRolePermissions := by
  intro r ps S k
  mvcgen -trivial [addRolePermissions]
  all_goals simp_all +zetaDelta [Store.book]
  all_goals omega

@[simp] theorem removeRolePermissions_book_frame : BookFrame removeRolePermissions := by
  intro r ps S k
  mvcgen -trivial [removeRolePermissions]
  all_goals simp_all +zetaDelta [Store.book]

@[simp] theorem deleteRole_book_frame : BookFrame deleteRole := by
  intro r ps S k
  mvcgen -trivial [deleteRole]
  all_goals simp_all +zetaDelta [Store.book]

@[simp] theorem listPermissions_book_frame : BookFrame listPermissions := by
  intro r ps S k
  mvcgen -trivial [listPermissions]
  all_goals simp_all +zetaDelta

@[simp] theorem getPermission_book_frame : BookFrame getPermission := by
  intro r ps S k
  mvcgen -trivial [getPermission]
  all_goals simp_all +zetaDelta

@[simp] theorem createPermission_book_frame : BookFrame createPermission := by
  intro r ps S k
  mvcgen -trivial [createPermission]
  all_goals simp_all +zetaDelta [Store.book]

@[simp] theorem generatePermissions_book_frame : BookFrame generatePermissions := by
  intro r ps S k
  mvcgen -trivial [generatePermissions]
  all_goals simp_all +zetaDelta [Store.book]

@[simp] theorem updatePermission_book_frame : BookFrame updatePermission := by
  intro r ps S k
  mvcgen -trivial [updatePermission]
  all_goals simp_all +zetaDelta [Store.book]

@[simp] theorem deletePermission_book_frame : BookFrame deletePermission := by
  intro r ps S k
  mvcgen -trivial [deletePermission]
  all_goals simp_all +zetaDelta [Store.book]

/-! ### The catalogue -/

@[simp] theorem listCategories_book_frame : BookFrame listCategories := by
  intro r ps S k
  mvcgen -trivial [listCategories]
  all_goals simp_all +zetaDelta

@[simp] theorem getCategory_book_frame : BookFrame getCategory := by
  intro r ps S k
  mvcgen -trivial [getCategory]
  all_goals simp_all +zetaDelta

@[simp] theorem createCategory_book_frame : BookFrame createCategory := by
  intro r ps S k
  mvcgen -trivial [createCategory]
  all_goals simp_all +zetaDelta [Store.book]

@[simp] theorem updateCategory_book_frame : BookFrame updateCategory := by
  intro r ps S k
  mvcgen -trivial [updateCategory]
  all_goals simp_all +zetaDelta [Store.book]

@[simp] theorem deleteCategory_book_frame : BookFrame deleteCategory := by
  intro r ps S k
  mvcgen -trivial [deleteCategory]
  all_goals simp_all +zetaDelta [Store.book]

@[simp] theorem listProducts_book_frame : BookFrame listProducts := by
  intro r ps S k
  mvcgen -trivial [listProducts]
  all_goals simp_all +zetaDelta

@[simp] theorem getProduct_book_frame : BookFrame getProduct := by
  intro r ps S k
  mvcgen -trivial [getProduct]
  all_goals simp_all +zetaDelta

@[simp] theorem listProductVariations_book_frame : BookFrame listProductVariations := by
  intro r ps S k
  mvcgen -trivial [listProductVariations]
  all_goals simp_all +zetaDelta

@[simp] theorem createProduct_book_frame : BookFrame createProduct := by
  intro r ps S k
  mvcgen -trivial [createProduct]
  all_goals simp_all +zetaDelta

@[simp] theorem createProductBundle_book_frame : BookFrame createProductBundle := by
  intro r ps S k
  mvcgen -trivial [createProductBundle]
  all_goals simp_all +zetaDelta
  all_goals omega

@[simp] theorem updateProduct_book_frame : BookFrame updateProduct := by
  intro r ps S k
  mvcgen -trivial [updateProduct]
  all_goals simp_all +zetaDelta
  all_goals omega

@[simp] theorem uploadProductImage_book_frame : BookFrame uploadProductImage := by
  intro r ps S k
  mvcgen -trivial [uploadProductImage]
  all_goals simp_all +zetaDelta [Store.book]
  all_goals omega

@[simp] theorem listVariations_book_frame : BookFrame listVariations := by
  intro r ps S k
  mvcgen -trivial [listVariations]
  all_goals simp_all +zetaDelta

@[simp] theorem getVariation_book_frame : BookFrame getVariation := by
  intro r ps S k
  mvcgen -trivial [getVariation]
  all_goals simp_all +zetaDelta

@[simp] theorem createVariation_book_frame : BookFrame createVariation := by
  intro r ps S k
  mvcgen -trivial [createVariation]
  all_goals simp_all +zetaDelta

@[simp] theorem updateVariation_book_frame : BookFrame updateVariation := by
  intro r ps S k
  mvcgen -trivial [updateVariation]
  all_goals simp_all +zetaDelta

/-! ### Orders, payments and invoices that only read -/

@[simp] theorem listOrders_book_frame : BookFrame listOrders := by
  intro r ps S k
  mvcgen -trivial [listOrders]
  all_goals simp_all +zetaDelta

@[simp] theorem getOrder_book_frame : BookFrame getOrder := by
  intro r ps S k
  mvcgen -trivial [getOrder]
  all_goals simp_all +zetaDelta

@[simp] theorem listOrderPayments_book_frame : BookFrame listOrderPayments := by
  intro r ps S k
  mvcgen -trivial [listOrderPayments]
  all_goals simp_all +zetaDelta

@[simp] theorem listOrderLines_book_frame : BookFrame listOrderLines := by
  intro r ps S k
  mvcgen -trivial [listOrderLines]
  all_goals simp_all +zetaDelta

@[simp] theorem getOrderInvoice_book_frame : BookFrame getOrderInvoice := by
  intro r ps S k
  mvcgen -trivial [getOrderInvoice]
  all_goals simp_all +zetaDelta

@[simp] theorem listPayments_book_frame : BookFrame listPayments := by
  intro r ps S k
  mvcgen -trivial [listPayments]
  all_goals simp_all +zetaDelta

@[simp] theorem listInvoices_book_frame : BookFrame listInvoices := by
  intro r ps S k
  mvcgen -trivial [listInvoices]
  all_goals simp_all +zetaDelta

@[simp] theorem getInvoice_book_frame : BookFrame getInvoice := by
  intro r ps S k
  mvcgen -trivial [getInvoice]
  all_goals simp_all +zetaDelta

/-! ### Table codes -/

@[simp] theorem getQrCodeByCode_book_frame : BookFrame getQrCodeByCode := by
  intro r ps S k
  mvcgen -trivial [getQrCodeByCode]
  all_goals simp_all +zetaDelta

@[simp] theorem listQrCodes_book_frame : BookFrame listQrCodes := by
  intro r ps S k
  mvcgen -trivial [listQrCodes, qrCodePage]
  all_goals simp_all +zetaDelta

@[simp] theorem listStoreQrCodes_book_frame : BookFrame listStoreQrCodes := by
  intro r ps S k
  mvcgen -trivial [listStoreQrCodes, qrCodePage]
  all_goals simp_all +zetaDelta

@[simp] theorem getQrCode_book_frame : BookFrame getQrCode := by
  intro r ps S k
  mvcgen -trivial [getQrCode]
  all_goals simp_all +zetaDelta

@[simp] theorem createQrCode_book_frame : BookFrame createQrCode := by
  intro r ps S k
  mvcgen -trivial [createQrCode]
  all_goals simp_all +zetaDelta
  all_goals omega

@[simp] theorem createQrCodes_book_frame : BookFrame createQrCodes := by
  intro r ps S k
  mvcgen -trivial [createQrCodes]
  all_goals simp_all +zetaDelta
  all_goals omega

@[simp] theorem updateQrCode_book_frame : BookFrame updateQrCode := by
  intro r ps S k
  mvcgen -trivial [updateQrCode]
  all_goals simp_all +zetaDelta [Store.book]

/-- Deleting a table code clears the code link of its orders, which the book leaves out. -/
@[simp] theorem deleteQrCode_book_frame : BookFrame deleteQrCode := by
  intro r ps S k
  mvcgen -trivial [deleteQrCode]
  all_goals simp_all +zetaDelta [Store.book, apply_ite Order.unlinked]

/-! ### Themes and the activity log -/

@[simp] theorem listThemes_book_frame : BookFrame listThemes := by
  intro r ps S k
  mvcgen -trivial [listThemes]
  all_goals simp_all +zetaDelta

@[simp] theorem getTheme_book_frame : BookFrame getTheme := by
  intro r ps S k
  mvcgen -trivial [getTheme]
  all_goals simp_all +zetaDelta

@[simp] theorem createTheme_book_frame : BookFrame createTheme := by
  intro r ps S k
  mvcgen -trivial [createTheme]
  all_goals simp_all +zetaDelta
  all_goals omega

@[simp] theorem updateTheme_book_frame : BookFrame updateTheme := by
  intro r ps S k
  mvcgen -trivial [updateTheme]
  all_goals simp_all +zetaDelta
  all_goals omega

@[simp] theorem deleteTheme_book_frame : BookFrame deleteTheme := by
  intro r ps S k
  mvcgen -trivial [deleteTheme]
  all_goals simp_all +zetaDelta [Store.book]

@[simp] theorem createLog_book_frame : BookFrame createLog := by
  intro r ps S k
  mvcgen -trivial [createLog]
  all_goals simp_all +zetaDelta [Store.book]

@[simp] theorem listLogs_book_frame : BookFrame listLogs := by
  intro r ps S k
  mvcgen -trivial [listLogs]
  all_goals simp_all +zetaDelta

/-! ## §5 — The routing table -/

/-- **The routes that write the order book**: the order routes that place, change, cancel,
complete, pay, extend or invoice an order or record a payment, and the catalogue routes that
delete products or variations. -/
def bookWriters : List Route :=
  [ Route.of "POST" "/api/v1/orders" createOrder,
    Route.of "PUT" "/api/v1/orders/\x7bid\x7d" updateOrder,
    Route.of "POST" "/api/v1/orders/\x7bid\x7d/cancel" cancelOrder,
    Route.of "POST" "/api/v1/orders/\x7bid\x7d/complete" completeOrder,
    Route.of "POST" "/api/v1/orders/\x7bid\x7d/payment" payOrder,
    Route.of "POST" "/api/v1/orders/\x7bid\x7d/details" addOrderLines,
    Route.of "POST" "/api/v1/orders/\x7bid\x7d/invoice" createInvoice,
    Route.of "POST" "/api/v1/payments" createPayment,
    Route.of "PUT" "/api/v1/products/\x7bid\x7d/with-variations" updateProductBundle,
    Route.of "DELETE" "/api/v1/products/\x7bid\x7d" deleteProduct,
    Route.of "DELETE" "/api/v1/variations/\x7bid\x7d" deleteVariation ]

/-- **Every route keeps the order book, or writes it on purpose.** -/
theorem routes_book_frame : ∀ route ∈ routes, BookFrame route.handle ∨ route ∈ bookWriters := by
  simp only [routes, statusRoutes, authRoutes, catalogRoutes, orderRoutes, qrRoutes, themeRoutes,
    accessRoutes, logRoutes, List.cons_append, List.nil_append, List.forall_mem_cons,
    List.not_mem_nil, IsEmpty.forall_iff, implies_true, and_true]
  simp [Route.of, bookWriters]

end Api

/-! ## §6 — Requests that keep the book -/

/-- **A request that a route keeping the book answers leaves the book as it was**, and moves the
counter of fresh identifiers only on, whether it succeeds or fails. -/
theorem serve_book_frame {s : Store} {n : Nat} {now : Stamp} {r : Request} {route : Route}
    {ps : List String} (hsel : Route.select Api.routes r = .ok (route, ps))
    (hframe : BookFrame route.handle) :
    (serve Api.routes s n now r).store.book = s.book ∧ n ≤ (serve Api.routes s n now r).nextId := by
  rw [serve_eq, Route.dispatch_eq_handle hsel]
  have hrun := Txn.triple_iff.1 (hframe r ps s n) { store := s, saved := s, nextId := n, now := now }
    ⟨rfl, rfl, rfl⟩
  generalize (route.handle r ps).exec { store := s, saved := s, nextId := n, now := now } = run at hrun ⊢
  rcases run with ⟨_ | _, σ'⟩ <;> exact hrun

/-- A request that no route answers changes nothing. -/
theorem serve_unrouted {s : Store} {n : Nat} {now : Stamp} {r : Request} {f : Fault}
    (hsel : Route.select Api.routes r = .error f) :
    (serve Api.routes s n now r).store = s ∧ (serve Api.routes s n now r).nextId = n := by
  rw [serve_eq]
  simp [Route.dispatch, hsel]

end Bistro
