import Bistro.Proofs.AccessControl
import Bistro.Proofs.AccountConflicts
import Bistro.Proofs.DefaultTheme
import Bistro.Proofs.InvoiceSnapshots
import Bistro.Proofs.LineSnapshots

/-!
# Bistro — the activity log, and the routes that leave it alone

The activity log of a store is written in two ways: a step records a note about what it did
(`Txn.record`), or a client posts an entry. Five routes do either: sign-in, which records a
successful and a failed attempt alike, placing, cancelling and paying an order, and posting an
entry (`logWriters`).

This module proves that every other route leaves the log as it found it:

* `Txn.PartAt Store.logs` — the triples of the shared steps that keep the log, registered with
  `spec` above the triples of the registry, so that `mvcgen` takes each as one step;
* `LogFrame h` — a handler run from a store answers with a store, or fails with a commit point,
  that has that store's log;
* `routes_log_frame` — every route keeps the log or is one of `logWriters`;
* `serve_log_frame` — so a request that such a route answers leaves the log as it was.

The shared steps listed here are those whose highest triple says nothing of the log; the others
(pricing, saving an order, the steps of themes, roles and accounts) have exact triples already.
-/

open Std.Do

set_option mvcgen.warning false

namespace Bistro

/-! ## §1 — The shared steps that keep the log

Each is proved by `mvcgen` on the step itself, with the triples it has already set aside; the loops first, so that the steps
run in a loop are taken one at a time. -/

namespace Txn

@[spec 5500] theorem mapM_logsAt {α β : Type} (xs : List α) (f : α → Txn β) (S : Store)
    (L : List LogEntry) (k : Nat) (hf : ∀ a S' L' k', PartAt Store.logs (f a) S' L' k') :
    PartAt Store.logs (xs.mapM f) S L k :=
  (KeepsPart.mapM (fun a => KeepsPart.of_partAt (hf a)) xs).partAt S L k

@[spec 5500] theorem forIn_logsAt {α β : Type} (xs : List α) (b : β)
    (f : α → β → Txn (ForInStep β)) (S : Store) (L : List LogEntry) (k : Nat)
    (hf : ∀ a b S' L' k', PartAt Store.logs (f a b) S' L' k') :
    PartAt Store.logs (forIn xs b f) S L k :=
  (KeepsPart.forIn (fun a b => KeepsPart.of_partAt (hf a b)) xs b).partAt S L k

end Txn

namespace Api

open Catalog Themes Orders

@[spec 5500] theorem insertLines_logsAt (oid : String) (priced : List PricedLine) (S : Store)
    (L : List LogEntry) (k : Nat) : Txn.PartAt Store.logs (insertLines oid priced) S L k := by
  mvcgen -trivial [insertLines, insertLine, -insertLines_spec, -insertLines_keepsAt,
    -insertLines_registryAt]
  all_goals simp_all +zetaDelta

@[spec 5500] theorem writeChange_logsAt (d : OrderPatch) (o : Order) (added : List PricedLine)
    (changed : Option Payment) (fresh : Option (PaymentInput × Decimal)) (now : Stamp)
    (S : Store) (L : List LogEntry) (k : Nat) :
    Txn.PartAt Store.logs (writeChange d o added changed fresh now) S L k := by
  mvcgen -trivial [writeChange, -writeChange_spec, -writeChange_registryAt]
  all_goals simp_all +zetaDelta
  -- what is left is the counter, moved on by the id of a new payment
  all_goals exact Nat.le_succ_of_le ‹_ ∧ _ ∧ k ≤ _›.2.2

@[spec 5500] theorem addProduct_logsAt (d : ProductDraft) (S : Store)
    (L : List LogEntry) (k : Nat) : Txn.PartAt Store.logs (addProduct d) S L k := by
  mvcgen -trivial [addProduct, -addProduct_keepsAt, -addProduct_bookAt, -addProduct_registryAt]
  all_goals simp_all +zetaDelta

@[spec 5500] theorem saveProduct_logsAt (p : Product) (S : Store)
    (L : List LogEntry) (k : Nat) : Txn.PartAt Store.logs (saveProduct p) S L k := by
  mvcgen -trivial [saveProduct, -saveProduct_keepsAt, -saveProduct_bookAt, -saveProduct_registryAt]
  all_goals simp_all +zetaDelta

@[spec 5500] theorem storedProductAt_logsAt (id : String) (S : Store)
    (L : List LogEntry) (k : Nat) : Txn.PartAt Store.logs (storedProductAt id) S L k := by
  mvcgen -trivial [storedProductAt, -storedProductAt_keepsAt, -storedProductAt_bookAt, -storedProductAt_registryAt]
  all_goals simp_all +zetaDelta

@[spec 5500] theorem addVariation_logsAt (v : Variation) (S : Store)
    (L : List LogEntry) (k : Nat) : Txn.PartAt Store.logs (addVariation v) S L k := by
  mvcgen -trivial [addVariation, -addVariation_keepsAt, -addVariation_bookAt, -addVariation_registryAt]
  all_goals simp_all +zetaDelta

@[spec 5500] theorem saveVariation_logsAt (old new : Variation) (S : Store)
    (L : List LogEntry) (k : Nat) : Txn.PartAt Store.logs (saveVariation old new) S L k := by
  mvcgen -trivial [saveVariation, -saveVariation_keepsAt, -saveVariation_bookAt, -saveVariation_registryAt]
  all_goals simp_all +zetaDelta

@[spec 5500] theorem dropVariation_logsAt (id : String) (S : Store)
    (L : List LogEntry) (k : Nat) : Txn.PartAt Store.logs (dropVariation id) S L k := by
  mvcgen -trivial [dropVariation, -dropVariation_keepsAt, -dropVariation_registryAt]
  all_goals simp_all +zetaDelta

@[spec 5500] theorem applyVariation_logsAt (p : Product) (had : List String)
    (item : VariationPatch) (S : Store)
    (L : List LogEntry) (k : Nat) : Txn.PartAt Store.logs (applyVariation p had item) S L k := by
  mvcgen -trivial [applyVariation, -applyVariation_keepsAt, -applyVariation_bookAt, -applyVariation_registryAt]
  all_goals simp_all +zetaDelta

@[spec 5500] theorem tableImage_logsAt (menuUrl storeId tableNumber : String) (S : Store)
    (L : List LogEntry) (k : Nat) : Txn.PartAt Store.logs (tableImage menuUrl storeId tableNumber) S L k := by
  mvcgen -trivial [tableImage, -tableImage_keepsAt, -tableImage_bookAt, -tableImage_registryAt]
  all_goals simp_all +zetaDelta

@[spec 5500] theorem buildQrCode_logsAt (kind : String) (menuUrl : Option String)
    (expiresAt : Option Stamp) (storeId tableNumber : String) (S : Store)
    (L : List LogEntry) (k : Nat) : Txn.PartAt Store.logs (buildQrCode kind menuUrl expiresAt storeId tableNumber) S L k := by
  mvcgen -trivial [buildQrCode, -buildQrCode_keepsAt, -buildQrCode_bookAt, -buildQrCode_registryAt]
  all_goals simp_all +zetaDelta
  all_goals omega

@[spec 5500] theorem storeQrCodes_logsAt (qs : List QrCode) (S : Store)
    (L : List LogEntry) (k : Nat) : Txn.PartAt Store.logs (storeQrCodes qs) S L k := by
  mvcgen -trivial [storeQrCodes, -storeQrCodes_keepsAt, -storeQrCodes_bookAt, -storeQrCodes_registryAt]
  all_goals simp_all +zetaDelta

@[spec 5500] theorem publish_logsAt (u : Upload) (folder : String) (storageFails : Bool) (S : Store)
    (L : List LogEntry) (k : Nat) : Txn.PartAt Store.logs (Media.publish u folder storageFails) S L k := by
  mvcgen -trivial [Media.publish, -publish_keepsAt, -publish_bookAt, -publish_registryAt]
  all_goals simp_all +zetaDelta

@[spec 5500] theorem setGrants_logsAt (roleId : String) (ps : List Permission) (S : Store)
    (L : List LogEntry) (k : Nat) : Txn.PartAt Store.logs (setGrants roleId ps) S L k := by
  mvcgen -trivial [setGrants, -setGrants_keepsAt, -setGrants_bookAt, -setGrants_registryAt]
  all_goals simp_all +zetaDelta

@[spec 5500] theorem ensurePermission_logsAt (name description : String) (S : Store)
    (L : List LogEntry) (k : Nat) : Txn.PartAt Store.logs (ensurePermission name description) S L k := by
  mvcgen -trivial [ensurePermission, -ensurePermission_keepsAt, -ensurePermission_bookAt]
  all_goals simp_all +zetaDelta

/-- Adding a role and attaching a logo have exact triples that describe the roles and the themes
only; their log triples stand above them. -/
@[spec 6500] theorem addRole_logsAt (name : String) (description : Option String)
    (ps : List Permission) (S : Store) (L : List LogEntry) (k : Nat) :
    Txn.PartAt Store.logs (addRole name description ps) S L k := by
  mvcgen -trivial [addRole, -addRole_spec, -addRole_keepsAt, -addRole_bookAt, -addRole_registryAt]
  all_goals simp_all +zetaDelta
  all_goals omega

@[spec 6500] theorem attachLogo_logsAt (r : Request) (t : Theme) (u : Option Upload) (S : Store)
    (L : List LogEntry) (k : Nat) : Txn.PartAt Store.logs (attachLogo r t u) S L k := by
  mvcgen -trivial [attachLogo, -attachLogo_spec, -attachLogo_keepsAt, -attachLogo_bookAt]
  all_goals simp_all +zetaDelta

end Api

/-! ## §2 — Handlers that keep the log -/

/-- **A handler that keeps the log**: run from a session whose store and commit point are `S`, it
answers with a store, or fails with a commit point, whose log is that of `S`. -/
def LogFrame (h : Request → List String → Txn Response) : Prop :=
  ∀ r ps S, ⦃fun σ => ⌜σ.saved = S ∧ σ.store = S⌝⦄ h r ps
    ⦃post⟨fun _ σ => ⌜σ.store.logs = S.logs⌝, fun _ σ => ⌜σ.saved.logs = S.logs⌝⟩⦄

namespace Api

open Catalog Themes

/-- The status routes answer a fixed document. -/
@[simp] theorem bare_log_frame (data : Json) (plain : Bool) : LogFrame fun _ _ => Reply.bare data plain := by
  intro r ps S
  mvcgen -trivial
  all_goals simp_all

/-! ### Sign-in, accounts and roles -/

@[simp] theorem me_log_frame : LogFrame me := by
  intro r ps S
  mvcgen -trivial [me]
  all_goals simp_all +zetaDelta

@[simp] theorem listUsers_log_frame : LogFrame listUsers := by
  intro r ps S
  mvcgen -trivial [listUsers]
  all_goals simp_all +zetaDelta

@[simp] theorem getUser_log_frame : LogFrame getUser := by
  intro r ps S
  mvcgen -trivial [getUser]
  all_goals simp_all +zetaDelta

@[simp] theorem createUser_log_frame : LogFrame createUser := by
  intro r ps S
  mvcgen -trivial [createUser]
  all_goals simp_all +zetaDelta

@[simp] theorem updateUser_log_frame : LogFrame updateUser := by
  intro r ps S
  mvcgen -trivial [updateUser]
  all_goals simp_all +zetaDelta

@[simp] theorem deleteUser_log_frame : LogFrame deleteUser := by
  intro r ps S
  mvcgen -trivial [deleteUser]
  all_goals simp_all +zetaDelta

@[simp] theorem listRoles_log_frame : LogFrame listRoles := by
  intro r ps S
  mvcgen -trivial [listRoles]
  all_goals simp_all +zetaDelta

@[simp] theorem getRole_log_frame : LogFrame getRole := by
  intro r ps S
  mvcgen -trivial [getRole]
  all_goals simp_all +zetaDelta

@[simp] theorem createRole_log_frame : LogFrame createRole := by
  intro r ps S
  mvcgen -trivial [createRole]
  all_goals simp_all +zetaDelta

@[simp] theorem createComprehensiveRole_log_frame : LogFrame createComprehensiveRole := by
  intro r ps S
  mvcgen -trivial [createComprehensiveRole]
  all_goals simp_all +zetaDelta

@[simp] theorem updateRole_log_frame : LogFrame updateRole := by
  intro r ps S
  mvcgen -trivial [updateRole]
  all_goals simp_all +zetaDelta

@[simp] theorem addRolePermissions_log_frame : LogFrame addRolePermissions := by
  intro r ps S
  mvcgen -trivial [addRolePermissions]
  all_goals simp_all +zetaDelta

@[simp] theorem removeRolePermissions_log_frame : LogFrame removeRolePermissions := by
  intro r ps S
  mvcgen -trivial [removeRolePermissions]
  all_goals simp_all +zetaDelta

@[simp] theorem deleteRole_log_frame : LogFrame deleteRole := by
  intro r ps S
  mvcgen -trivial [deleteRole]
  all_goals simp_all +zetaDelta

@[simp] theorem listPermissions_log_frame : LogFrame listPermissions := by
  intro r ps S
  mvcgen -trivial [listPermissions]
  all_goals simp_all +zetaDelta

@[simp] theorem getPermission_log_frame : LogFrame getPermission := by
  intro r ps S
  mvcgen -trivial [getPermission]
  all_goals simp_all +zetaDelta

@[simp] theorem createPermission_log_frame : LogFrame createPermission := by
  intro r ps S
  mvcgen -trivial [createPermission]
  all_goals simp_all +zetaDelta

@[simp] theorem generatePermissions_log_frame : LogFrame generatePermissions := by
  intro r ps S
  mvcgen -trivial [generatePermissions]
  all_goals simp_all +zetaDelta

@[simp] theorem updatePermission_log_frame : LogFrame updatePermission := by
  intro r ps S
  mvcgen -trivial [updatePermission]
  all_goals simp_all +zetaDelta

@[simp] theorem deletePermission_log_frame : LogFrame deletePermission := by
  intro r ps S
  mvcgen -trivial [deletePermission]
  all_goals simp_all +zetaDelta

/-! ### The catalogue -/

@[simp] theorem listCategories_log_frame : LogFrame listCategories := by
  intro r ps S
  mvcgen -trivial [listCategories]
  all_goals simp_all +zetaDelta

@[simp] theorem getCategory_log_frame : LogFrame getCategory := by
  intro r ps S
  mvcgen -trivial [getCategory]
  all_goals simp_all +zetaDelta

@[simp] theorem createCategory_log_frame : LogFrame createCategory := by
  intro r ps S
  mvcgen -trivial [createCategory]
  all_goals simp_all +zetaDelta

@[simp] theorem updateCategory_log_frame : LogFrame updateCategory := by
  intro r ps S
  mvcgen -trivial [updateCategory]
  all_goals simp_all +zetaDelta

@[simp] theorem deleteCategory_log_frame : LogFrame deleteCategory := by
  intro r ps S
  mvcgen -trivial [deleteCategory]
  all_goals simp_all +zetaDelta

@[simp] theorem listProducts_log_frame : LogFrame listProducts := by
  intro r ps S
  mvcgen -trivial [listProducts]
  all_goals simp_all +zetaDelta

@[simp] theorem getProduct_log_frame : LogFrame getProduct := by
  intro r ps S
  mvcgen -trivial [getProduct]
  all_goals simp_all +zetaDelta

@[simp] theorem listProductVariations_log_frame : LogFrame listProductVariations := by
  intro r ps S
  mvcgen -trivial [listProductVariations]
  all_goals simp_all +zetaDelta

@[simp] theorem createProduct_log_frame : LogFrame createProduct := by
  intro r ps S
  mvcgen -trivial [createProduct]
  all_goals simp_all +zetaDelta

@[simp] theorem createProductBundle_log_frame : LogFrame createProductBundle := by
  intro r ps S
  mvcgen -trivial [createProductBundle]
  all_goals simp_all +zetaDelta

@[simp] theorem updateProduct_log_frame : LogFrame updateProduct := by
  intro r ps S
  mvcgen -trivial [updateProduct]
  all_goals simp_all +zetaDelta

@[simp] theorem updateProductBundle_log_frame : LogFrame updateProductBundle := by
  intro r ps S
  mvcgen -trivial [updateProductBundle]
  all_goals simp_all +zetaDelta

@[simp] theorem uploadProductImage_log_frame : LogFrame uploadProductImage := by
  intro r ps S
  mvcgen -trivial [uploadProductImage]
  all_goals simp_all +zetaDelta

@[simp] theorem deleteProduct_log_frame : LogFrame deleteProduct := by
  intro r ps S
  mvcgen -trivial [deleteProduct]
  all_goals simp_all +zetaDelta

@[simp] theorem listVariations_log_frame : LogFrame listVariations := by
  intro r ps S
  mvcgen -trivial [listVariations]
  all_goals simp_all +zetaDelta

@[simp] theorem getVariation_log_frame : LogFrame getVariation := by
  intro r ps S
  mvcgen -trivial [getVariation]
  all_goals simp_all +zetaDelta

@[simp] theorem createVariation_log_frame : LogFrame createVariation := by
  intro r ps S
  mvcgen -trivial [createVariation]
  all_goals simp_all +zetaDelta

@[simp] theorem updateVariation_log_frame : LogFrame updateVariation := by
  intro r ps S
  mvcgen -trivial [updateVariation]
  all_goals simp_all +zetaDelta

@[simp] theorem deleteVariation_log_frame : LogFrame deleteVariation := by
  intro r ps S
  mvcgen -trivial [deleteVariation]
  all_goals simp_all +zetaDelta

/-! ### Orders, payments and invoices -/

@[simp] theorem listOrders_log_frame : LogFrame listOrders := by
  intro r ps S
  mvcgen -trivial [listOrders]
  all_goals simp_all +zetaDelta

@[simp] theorem getOrder_log_frame : LogFrame getOrder := by
  intro r ps S
  mvcgen -trivial [getOrder]
  all_goals simp_all +zetaDelta

@[simp] theorem updateOrder_log_frame : LogFrame updateOrder := by
  intro r ps S
  mvcgen -trivial [updateOrder]
  all_goals simp_all +zetaDelta

@[simp] theorem completeOrder_log_frame : LogFrame completeOrder := by
  intro r ps S
  mvcgen -trivial [completeOrder]
  all_goals simp_all +zetaDelta

@[simp] theorem listOrderPayments_log_frame : LogFrame listOrderPayments := by
  intro r ps S
  mvcgen -trivial [listOrderPayments]
  all_goals simp_all +zetaDelta

@[simp] theorem listOrderLines_log_frame : LogFrame listOrderLines := by
  intro r ps S
  mvcgen -trivial [listOrderLines]
  all_goals simp_all +zetaDelta

@[simp] theorem addOrderLines_log_frame : LogFrame addOrderLines := by
  intro r ps S
  mvcgen -trivial [addOrderLines]
  all_goals simp_all +zetaDelta

@[simp] theorem createInvoice_log_frame : LogFrame createInvoice := by
  intro r ps S
  mvcgen -trivial [createInvoice]
  all_goals simp_all +zetaDelta

@[simp] theorem getOrderInvoice_log_frame : LogFrame getOrderInvoice := by
  intro r ps S
  mvcgen -trivial [getOrderInvoice]
  all_goals simp_all +zetaDelta

@[simp] theorem listPayments_log_frame : LogFrame listPayments := by
  intro r ps S
  mvcgen -trivial [listPayments]
  all_goals simp_all +zetaDelta

@[simp] theorem createPayment_log_frame : LogFrame createPayment := by
  intro r ps S
  mvcgen -trivial [createPayment]
  all_goals simp_all +zetaDelta

@[simp] theorem listInvoices_log_frame : LogFrame listInvoices := by
  intro r ps S
  mvcgen -trivial [listInvoices]
  all_goals simp_all +zetaDelta

@[simp] theorem getInvoice_log_frame : LogFrame getInvoice := by
  intro r ps S
  mvcgen -trivial [getInvoice]
  all_goals simp_all +zetaDelta

/-! ### Table codes, themes and the log itself -/

@[simp] theorem getQrCodeByCode_log_frame : LogFrame getQrCodeByCode := by
  intro r ps S
  mvcgen -trivial [getQrCodeByCode]
  all_goals simp_all +zetaDelta

@[simp] theorem listQrCodes_log_frame : LogFrame listQrCodes := by
  intro r ps S
  mvcgen -trivial [listQrCodes, qrCodePage]
  all_goals simp_all +zetaDelta

@[simp] theorem listStoreQrCodes_log_frame : LogFrame listStoreQrCodes := by
  intro r ps S
  mvcgen -trivial [listStoreQrCodes, qrCodePage]
  all_goals simp_all +zetaDelta

@[simp] theorem getQrCode_log_frame : LogFrame getQrCode := by
  intro r ps S
  mvcgen -trivial [getQrCode]
  all_goals simp_all +zetaDelta

@[simp] theorem createQrCode_log_frame : LogFrame createQrCode := by
  intro r ps S
  mvcgen -trivial [createQrCode]
  all_goals simp_all +zetaDelta

@[simp] theorem createQrCodes_log_frame : LogFrame createQrCodes := by
  intro r ps S
  mvcgen -trivial [createQrCodes]
  all_goals simp_all +zetaDelta

@[simp] theorem updateQrCode_log_frame : LogFrame updateQrCode := by
  intro r ps S
  mvcgen -trivial [updateQrCode]
  all_goals simp_all +zetaDelta

@[simp] theorem deleteQrCode_log_frame : LogFrame deleteQrCode := by
  intro r ps S
  mvcgen -trivial [deleteQrCode]
  all_goals simp_all +zetaDelta

@[simp] theorem listThemes_log_frame : LogFrame listThemes := by
  intro r ps S
  mvcgen -trivial [listThemes]
  all_goals simp_all +zetaDelta

@[simp] theorem getTheme_log_frame : LogFrame getTheme := by
  intro r ps S
  mvcgen -trivial [getTheme]
  all_goals simp_all +zetaDelta

@[simp] theorem createTheme_log_frame : LogFrame createTheme := by
  intro r ps S
  mvcgen -trivial [createTheme]
  all_goals simp_all +zetaDelta

@[simp] theorem updateTheme_log_frame : LogFrame updateTheme := by
  intro r ps S
  mvcgen -trivial [updateTheme]
  all_goals simp_all +zetaDelta

@[simp] theorem deleteTheme_log_frame : LogFrame deleteTheme := by
  intro r ps S
  mvcgen -trivial [deleteTheme]
  all_goals simp_all +zetaDelta

@[simp] theorem listLogs_log_frame : LogFrame listLogs := by
  intro r ps S
  mvcgen -trivial [listLogs]
  all_goals simp_all +zetaDelta

/-! ## §3 — The routing table -/

/-- **The routes that write the log**: sign-in, placing, cancelling and paying an order, and
posting an entry. -/
def logWriters : List Route :=
  [ Route.of "POST" "/api/v1/auth/login" login,
    Route.of "POST" "/api/v1/orders" createOrder,
    Route.of "POST" "/api/v1/orders/\x7bid\x7d/cancel" cancelOrder,
    Route.of "POST" "/api/v1/orders/\x7bid\x7d/payment" payOrder,
    Route.of "POST" "/api/v1/logs" createLog ]

/-- **Every route keeps the log, or writes it on purpose.** -/
theorem routes_log_frame : ∀ route ∈ routes, LogFrame route.handle ∨ route ∈ logWriters := by
  simp only [routes, statusRoutes, authRoutes, catalogRoutes, orderRoutes, qrRoutes, themeRoutes,
    accessRoutes, logRoutes, List.cons_append, List.nil_append, List.forall_mem_cons,
    List.not_mem_nil, IsEmpty.forall_iff, implies_true, and_true]
  simp [Route.of, logWriters]

end Api

/-! ## §4 — Requests that keep the log -/

/-- **A request that a route keeping the log answers leaves the log as it was**, whether it
succeeds or fails. -/
theorem serve_log_frame {s : Store} {n : Nat} {now : Stamp} {r : Request} {route : Route}
    {ps : List String} (hsel : Route.select Api.routes r = .ok (route, ps))
    (hframe : LogFrame route.handle) : (serve Api.routes s n now r).store.logs = s.logs := by
  rcases serve_of_triple n now hsel ⟨rfl, rfl⟩ (hframe r ps s) with ⟨σ, hlogs, hstore⟩ |
    ⟨e, σ, hlogs, -, hstore⟩ <;> rw [hstore, hlogs]

end Bistro
