import Bistro.Proofs.CommitPoint

/-!
# Bistro — a failed request changes nothing

A request works on a session whose commit point is the store it found, and a failure answers
with the commit point. So a request that fails leaves the store as it was unless some step
commits before the failure. Two handlers commit: placing an order, which commits its rows as its
last step, and a failed sign-in, which commits the record of the failure and then fails on
purpose.

Main statement, `failed_request_keeps_store`: for every store and every request, an answer with a
status of 400 or more leaves the store as it was, except on the sign-in route, where it may add
one `warn` entry of the activity log, with action `user.login_failed`, and nothing else.

The proof states once what a handler must do (`FailsClean`: every answer is a success, and every
failure keeps the commit point) and proves it of every handler but sign-in with `mvcgen`, which
takes the shared steps through their triples of `Bistro.Proofs.CommitPoint`. Sign-in has its own
triple (`login_spec`), and `routes_fail_clean` reads the routing table once.
-/

open Std.Do

set_option mvcgen.warning false

namespace Bistro

/-- **A handler that fails cleanly**: run from a session with commit point `S`, every answer it
gives is a success, and every failure keeps the commit point. -/
def FailsClean (h : Request → List String → Txn Response) : Prop :=
  ∀ r ps S, ⦃fun σ => ⌜σ.saved = S⌝⦄ h r ps
    ⦃post⟨fun resp _ => ⌜resp.status < 400⌝, fun _ σ => ⌜σ.saved = S⌝⟩⦄

/-- What a sign-in leaves at the commit point when it fails: the store it found, or that store
with one more entry of the activity log, a warning that a sign-in failed. -/
def SignInCommit (S saved : Store) : Prop :=
  saved = S ∨ ∃ e : LogEntry, e.level = "warn" ∧ e.action = "user.login_failed" ∧
    saved = { S with logs := S.logs ++ [e] }

namespace Api

open Catalog Themes

/-! ## §1 — Every handler but sign-in fails cleanly

One lemma per handler, tagged `simp` so that the routing table below is read with them. -/

/-- The status routes answer a fixed document. -/
@[simp] theorem bare_fails_clean (data : Json) (plain : Bool) : FailsClean fun _ _ => Reply.bare data plain := by
  intro r ps S
  mvcgen -trivial
  all_goals simp_all +zetaDelta

/-! ### Orders, payments and invoices -/

@[simp] theorem createOrder_fails_clean : FailsClean createOrder := by
  intro r ps S
  mvcgen -trivial [createOrder]
  all_goals simp_all +zetaDelta

@[simp] theorem listOrders_fails_clean : FailsClean listOrders := by
  intro r ps S
  mvcgen -trivial [listOrders]
  all_goals simp_all +zetaDelta

@[simp] theorem getOrder_fails_clean : FailsClean getOrder := by
  intro r ps S
  mvcgen -trivial [getOrder]
  all_goals simp_all +zetaDelta

@[simp] theorem updateOrder_fails_clean : FailsClean updateOrder := by
  intro r ps S
  mvcgen -trivial [updateOrder, writeChange]
  all_goals simp_all +zetaDelta

@[simp] theorem cancelOrder_fails_clean : FailsClean cancelOrder := by
  intro r ps S
  mvcgen -trivial [cancelOrder]
  all_goals simp_all +zetaDelta

@[simp] theorem completeOrder_fails_clean : FailsClean completeOrder := by
  intro r ps S
  mvcgen -trivial [completeOrder]
  all_goals simp_all +zetaDelta

@[simp] theorem payOrder_fails_clean : FailsClean payOrder := by
  intro r ps S
  mvcgen -trivial [payOrder]
  all_goals simp_all +zetaDelta

@[simp] theorem listOrderPayments_fails_clean : FailsClean listOrderPayments := by
  intro r ps S
  mvcgen -trivial [listOrderPayments]
  all_goals simp_all +zetaDelta

@[simp] theorem listOrderLines_fails_clean : FailsClean listOrderLines := by
  intro r ps S
  mvcgen -trivial [listOrderLines]
  all_goals simp_all +zetaDelta

@[simp] theorem addOrderLines_fails_clean : FailsClean addOrderLines := by
  intro r ps S
  mvcgen -trivial [addOrderLines]
  all_goals simp_all +zetaDelta

@[simp] theorem createInvoice_fails_clean : FailsClean createInvoice := by
  intro r ps S
  mvcgen -trivial [createInvoice]
  all_goals simp_all +zetaDelta

@[simp] theorem getOrderInvoice_fails_clean : FailsClean getOrderInvoice := by
  intro r ps S
  mvcgen -trivial [getOrderInvoice]
  all_goals simp_all +zetaDelta

@[simp] theorem listPayments_fails_clean : FailsClean listPayments := by
  intro r ps S
  mvcgen -trivial [listPayments]
  all_goals simp_all +zetaDelta

@[simp] theorem createPayment_fails_clean : FailsClean createPayment := by
  intro r ps S
  mvcgen -trivial [createPayment]
  all_goals simp_all +zetaDelta

@[simp] theorem listInvoices_fails_clean : FailsClean listInvoices := by
  intro r ps S
  mvcgen -trivial [listInvoices]
  all_goals simp_all +zetaDelta

@[simp] theorem getInvoice_fails_clean : FailsClean getInvoice := by
  intro r ps S
  mvcgen -trivial [getInvoice]
  all_goals simp_all +zetaDelta

/-! ### The catalogue -/

@[simp] theorem listCategories_fails_clean : FailsClean listCategories := by
  intro r ps S
  mvcgen -trivial [listCategories]
  all_goals simp_all +zetaDelta

@[simp] theorem getCategory_fails_clean : FailsClean getCategory := by
  intro r ps S
  mvcgen -trivial [getCategory]
  all_goals simp_all +zetaDelta

@[simp] theorem createCategory_fails_clean : FailsClean createCategory := by
  intro r ps S
  mvcgen -trivial [createCategory]
  all_goals simp_all +zetaDelta

@[simp] theorem updateCategory_fails_clean : FailsClean updateCategory := by
  intro r ps S
  mvcgen -trivial [updateCategory]
  all_goals simp_all +zetaDelta

@[simp] theorem deleteCategory_fails_clean : FailsClean deleteCategory := by
  intro r ps S
  mvcgen -trivial [deleteCategory]
  all_goals simp_all +zetaDelta

@[simp] theorem listProducts_fails_clean : FailsClean listProducts := by
  intro r ps S
  mvcgen -trivial [listProducts]
  all_goals simp_all +zetaDelta

@[simp] theorem getProduct_fails_clean : FailsClean getProduct := by
  intro r ps S
  mvcgen -trivial [getProduct]
  all_goals simp_all +zetaDelta

@[simp] theorem listProductVariations_fails_clean : FailsClean listProductVariations := by
  intro r ps S
  mvcgen -trivial [listProductVariations]
  all_goals simp_all +zetaDelta

@[simp] theorem createProduct_fails_clean : FailsClean createProduct := by
  intro r ps S
  mvcgen -trivial [createProduct]
  all_goals simp_all +zetaDelta

@[simp] theorem createProductBundle_fails_clean : FailsClean createProductBundle := by
  intro r ps S
  mvcgen -trivial [createProductBundle]
  all_goals simp_all +zetaDelta

@[simp] theorem updateProduct_fails_clean : FailsClean updateProduct := by
  intro r ps S
  mvcgen -trivial [updateProduct]
  all_goals simp_all +zetaDelta

@[simp] theorem updateProductBundle_fails_clean : FailsClean updateProductBundle := by
  intro r ps S
  mvcgen -trivial [updateProductBundle]
  all_goals simp_all +zetaDelta

@[simp] theorem uploadProductImage_fails_clean : FailsClean uploadProductImage := by
  intro r ps S
  mvcgen -trivial [uploadProductImage]
  all_goals simp_all +zetaDelta

@[simp] theorem deleteProduct_fails_clean : FailsClean deleteProduct := by
  intro r ps S
  mvcgen -trivial [deleteProduct]
  all_goals simp_all +zetaDelta

@[simp] theorem listVariations_fails_clean : FailsClean listVariations := by
  intro r ps S
  mvcgen -trivial [listVariations]
  all_goals simp_all +zetaDelta

@[simp] theorem getVariation_fails_clean : FailsClean getVariation := by
  intro r ps S
  mvcgen -trivial [getVariation]
  all_goals simp_all +zetaDelta

@[simp] theorem createVariation_fails_clean : FailsClean createVariation := by
  intro r ps S
  mvcgen -trivial [createVariation]
  all_goals simp_all +zetaDelta

@[simp] theorem updateVariation_fails_clean : FailsClean updateVariation := by
  intro r ps S
  mvcgen -trivial [updateVariation]
  all_goals simp_all +zetaDelta

@[simp] theorem deleteVariation_fails_clean : FailsClean deleteVariation := by
  intro r ps S
  mvcgen -trivial [deleteVariation]
  all_goals simp_all +zetaDelta

/-! ### Table codes -/

@[simp] theorem getQrCodeByCode_fails_clean : FailsClean getQrCodeByCode := by
  intro r ps S
  mvcgen -trivial [getQrCodeByCode]
  all_goals simp_all +zetaDelta

@[simp] theorem listQrCodes_fails_clean : FailsClean listQrCodes := by
  intro r ps S
  mvcgen -trivial [listQrCodes, qrCodePage]
  all_goals simp_all +zetaDelta

@[simp] theorem listStoreQrCodes_fails_clean : FailsClean listStoreQrCodes := by
  intro r ps S
  mvcgen -trivial [listStoreQrCodes, qrCodePage]
  all_goals simp_all +zetaDelta

@[simp] theorem getQrCode_fails_clean : FailsClean getQrCode := by
  intro r ps S
  mvcgen -trivial [getQrCode]
  all_goals simp_all +zetaDelta

@[simp] theorem createQrCode_fails_clean : FailsClean createQrCode := by
  intro r ps S
  mvcgen -trivial [createQrCode]
  all_goals simp_all +zetaDelta

@[simp] theorem createQrCodes_fails_clean : FailsClean createQrCodes := by
  intro r ps S
  mvcgen -trivial [createQrCodes]
  all_goals simp_all +zetaDelta

@[simp] theorem updateQrCode_fails_clean : FailsClean updateQrCode := by
  intro r ps S
  mvcgen -trivial [updateQrCode]
  all_goals simp_all +zetaDelta

@[simp] theorem deleteQrCode_fails_clean : FailsClean deleteQrCode := by
  intro r ps S
  mvcgen -trivial [deleteQrCode]
  all_goals simp_all +zetaDelta

/-! ### Themes -/

@[simp] theorem listThemes_fails_clean : FailsClean listThemes := by
  intro r ps S
  mvcgen -trivial [listThemes]
  all_goals simp_all +zetaDelta

@[simp] theorem getTheme_fails_clean : FailsClean getTheme := by
  intro r ps S
  mvcgen -trivial [getTheme]
  all_goals simp_all +zetaDelta

@[simp] theorem createTheme_fails_clean : FailsClean createTheme := by
  intro r ps S
  mvcgen -trivial [createTheme]
  all_goals simp_all +zetaDelta

@[simp] theorem updateTheme_fails_clean : FailsClean updateTheme := by
  intro r ps S
  mvcgen -trivial [updateTheme]
  all_goals simp_all +zetaDelta

@[simp] theorem deleteTheme_fails_clean : FailsClean deleteTheme := by
  intro r ps S
  mvcgen -trivial [deleteTheme]
  all_goals simp_all +zetaDelta

/-! ### Accounts, roles and permissions -/

@[simp] theorem me_fails_clean : FailsClean me := by
  intro r ps S
  mvcgen -trivial [me]
  all_goals simp_all +zetaDelta

@[simp] theorem listUsers_fails_clean : FailsClean listUsers := by
  intro r ps S
  mvcgen -trivial [listUsers]
  all_goals simp_all +zetaDelta

@[simp] theorem getUser_fails_clean : FailsClean getUser := by
  intro r ps S
  mvcgen -trivial [getUser]
  all_goals simp_all +zetaDelta

@[simp] theorem createUser_fails_clean : FailsClean createUser := by
  intro r ps S
  mvcgen -trivial [createUser]
  all_goals simp_all +zetaDelta

@[simp] theorem updateUser_fails_clean : FailsClean updateUser := by
  intro r ps S
  mvcgen -trivial [updateUser]
  all_goals simp_all +zetaDelta

@[simp] theorem deleteUser_fails_clean : FailsClean deleteUser := by
  intro r ps S
  mvcgen -trivial [deleteUser]
  all_goals simp_all +zetaDelta

@[simp] theorem listRoles_fails_clean : FailsClean listRoles := by
  intro r ps S
  mvcgen -trivial [listRoles]
  all_goals simp_all +zetaDelta

@[simp] theorem getRole_fails_clean : FailsClean getRole := by
  intro r ps S
  mvcgen -trivial [getRole]
  all_goals simp_all +zetaDelta

@[simp] theorem createRole_fails_clean : FailsClean createRole := by
  intro r ps S
  mvcgen -trivial [createRole]
  all_goals simp_all +zetaDelta

@[simp] theorem createComprehensiveRole_fails_clean : FailsClean createComprehensiveRole := by
  intro r ps S
  mvcgen -trivial [createComprehensiveRole]
  all_goals simp_all +zetaDelta

@[simp] theorem updateRole_fails_clean : FailsClean updateRole := by
  intro r ps S
  mvcgen -trivial [updateRole]
  all_goals simp_all +zetaDelta

@[simp] theorem addRolePermissions_fails_clean : FailsClean addRolePermissions := by
  intro r ps S
  mvcgen -trivial [addRolePermissions]
  all_goals simp_all +zetaDelta

@[simp] theorem removeRolePermissions_fails_clean : FailsClean removeRolePermissions := by
  intro r ps S
  mvcgen -trivial [removeRolePermissions]
  all_goals simp_all +zetaDelta

@[simp] theorem deleteRole_fails_clean : FailsClean deleteRole := by
  intro r ps S
  mvcgen -trivial [deleteRole]
  all_goals simp_all +zetaDelta

@[simp] theorem listPermissions_fails_clean : FailsClean listPermissions := by
  intro r ps S
  mvcgen -trivial [listPermissions]
  all_goals simp_all +zetaDelta

@[simp] theorem getPermission_fails_clean : FailsClean getPermission := by
  intro r ps S
  mvcgen -trivial [getPermission]
  all_goals simp_all +zetaDelta

@[simp] theorem createPermission_fails_clean : FailsClean createPermission := by
  intro r ps S
  mvcgen -trivial [createPermission]
  all_goals simp_all +zetaDelta

@[simp] theorem generatePermissions_fails_clean : FailsClean generatePermissions := by
  intro r ps S
  mvcgen -trivial [generatePermissions]
  all_goals simp_all +zetaDelta

@[simp] theorem updatePermission_fails_clean : FailsClean updatePermission := by
  intro r ps S
  mvcgen -trivial [updatePermission]
  all_goals simp_all +zetaDelta

@[simp] theorem deletePermission_fails_clean : FailsClean deletePermission := by
  intro r ps S
  mvcgen -trivial [deletePermission]
  all_goals simp_all +zetaDelta

/-! ### The activity log -/

@[simp] theorem createLog_fails_clean : FailsClean createLog := by
  intro r ps S
  mvcgen -trivial [createLog]
  all_goals simp_all +zetaDelta

@[simp] theorem listLogs_fails_clean : FailsClean listLogs := by
  intro r ps S
  mvcgen -trivial [listLogs]
  all_goals simp_all +zetaDelta

/-! ## §2 — Sign-in -/

/-- Checking a password reads the session and writes nothing. -/
theorem passwordMatches_reads (u : User) (password : String) :
    Txn.Reads (passwordMatches u password) := by
  intro σ
  unfold passwordMatches
  split
  · rfl
  · split <;> rfl

@[spec] theorem passwordMatches_spec (u : User) (password : String) (σ₀ : Session) :
    Txn.KeepsSession (passwordMatches u password) σ₀ :=
  (passwordMatches_reads u password).keepsSession σ₀

/-- **Sign-in**, run on the store of its last commit: every answer is a success, and a failure
leaves at the commit point that store, or that store with the warning of a failed sign-in. -/
theorem login_spec (r : Request) (ps : List String) (S : Store) :
    ⦃fun σ => ⌜σ.saved = S ∧ σ.store = S⌝⦄ login r ps
    ⦃post⟨fun resp _ => ⌜resp.status < 400⌝, fun _ σ => ⌜SignInCommit S σ.saved⌝⟩⦄ := by
  mvcgen -trivial [login]
  all_goals simp_all +zetaDelta [SignInCommit, ActivityNote.entry]

/-! ## §3 — The routing table -/

/-- **Every route but sign-in fails cleanly.** -/
theorem routes_fail_clean :
    ∀ route ∈ routes, FailsClean route.handle ∨ route = Route.of "POST" "/api/v1/auth/login" login := by
  simp only [routes, statusRoutes, authRoutes, catalogRoutes, orderRoutes, qrRoutes, themeRoutes,
    accessRoutes, logRoutes, List.cons_append, List.nil_append, List.forall_mem_cons,
    List.not_mem_nil, IsEmpty.forall_iff, implies_true, and_true]
  simp [Route.of]

end Api

/-! ## §4 — Failed requests -/

/-- **A failed request changes nothing**: whatever the store, a request answered with a status of
400 or more leaves the store as it was, except on the sign-in route, where it may add one warning
of a failed sign-in to the activity log and nothing else. -/
theorem failed_request_keeps_store (s : Store) (n : Nat) (now : Stamp) (r : Request)
    (hfail : 400 ≤ (serve Api.routes s n now r).response.status) :
    (serve Api.routes s n now r).store = s ∨
      (Route.target Api.routes r = some ("POST", Segment.parse "/api/v1/auth/login") ∧
        ∃ e : LogEntry, e.level = "warn" ∧ e.action = "user.login_failed" ∧
          (serve Api.routes s n now r).store = { s with logs := s.logs ++ [e] }) := by
  rw [serve_eq] at hfail ⊢
  generalize hσ : ({ store := s, saved := s, nextId := n, now := now } : Session) = σ at hfail ⊢
  have hsaved : σ.saved = s := hσ ▸ rfl
  cases hsel : Route.select Api.routes r with
  | error f =>
    -- no route answers: the routing fails before any handler runs
    left
    simp only [Route.dispatch, hsel, Txn.exec_throw]
    exact hsaved
  | ok hit =>
    obtain ⟨route, ps⟩ := hit
    rw [Route.dispatch_eq_handle hsel] at hfail ⊢
    rcases Api.routes_fail_clean route (Route.select_mem hsel) with hclean | rfl
    · have hrun := Txn.triple_iff.1 (hclean r ps s) σ hsaved
      generalize (route.handle r ps).exec σ = run at hrun hfail ⊢
      rcases run with ⟨f | resp, σ'⟩
      · exact .inl hrun
      · exact absurd hrun (Nat.not_lt.2 hfail)
    · have htarget :
          Route.target Api.routes r = some ("POST", Segment.parse "/api/v1/auth/login") := by
        simp only [Route.target, hsel, Route.of]
      have hrun := Txn.triple_iff.1 (Api.login_spec r ps s) σ ⟨hsaved, hσ ▸ rfl⟩
      dsimp only [Route.of] at hfail ⊢
      generalize (Api.login r ps).exec σ = run at hrun hfail ⊢
      rcases run with ⟨f | resp, σ'⟩
      · rcases hrun with hsame | hwarn
        · exact .inl hsame
        · exact .inr ⟨htarget, hwarn⟩
      · exact absurd hrun (Nat.not_lt.2 hfail)

/-- A sign-in with an address no account has, on the empty store. -/
def unknownSignIn : Request :=
  { method := "POST", path := "/api/v1/auth/login", headers := [], query := [],
    body := .json (.obj [("email", .str "ghost@example.com"), ("password", .str "secret")]),
    storageFails := false, clock := 0 }

theorem unknown_sign_in_logged :
    400 ≤ (serve Api.routes {} 0 (Stamp.ofEpoch 0) unknownSignIn).response.status ∧
      ((serve Api.routes {} 0 (Stamp.ofEpoch 0) unknownSignIn).store = {} ∨
        (Route.target Api.routes unknownSignIn = some ("POST", Segment.parse "/api/v1/auth/login") ∧
          ∃ e : LogEntry, e.level = "warn" ∧ e.action = "user.login_failed" ∧
            (serve Api.routes {} 0 (Stamp.ofEpoch 0) unknownSignIn).store =
              { ({} : Store) with logs := ({} : Store).logs ++ [e] })) := by
  have hfail : 400 ≤ (serve Api.routes {} 0 (Stamp.ofEpoch 0) unknownSignIn).response.status := by
    decide +kernel
  exact ⟨hfail, failed_request_keeps_store {} 0 (Stamp.ofEpoch 0) unknownSignIn hfail⟩

end Bistro
