import Bistro.Proofs.Guard

/-!
# Bistro — access control over every route

The access rules put a gate on a route by its method and path. Staff alone manage orders (all
but placing one), payments, invoices and table codes (all but reading a code by its text), and
change themes; administrators alone change the catalogue and manage users, roles and permissions,
and read the activity log.

Main statement, `guarded_request_refused`: whatever the store, a request answered by a route that
the rules put behind a gate, and that does not pass that gate, changes nothing and is refused: with
a 401 that asks for a bearer token when nobody is signed in, with a 403 when the signed-in user is
not admitted, or, for a route that reads a JSON body first, with the 400 of a body that is not
JSON. So a guarded route answers a success or writes only for a request that passes its gate.

The proof goes route by route once (`routes_guarded`): each route the rules guard has a handler
that starts with the guard, possibly after reading its body, and such a handler is guarded
(`Guard.guarded_of_require`, `Guard.guarded_of_payload_require`).
-/

namespace Bistro

namespace Access

/-! ## §1 — The access rules -/

/-- The routes that only staff reach, by method and path. -/
def staffRoutes : List (String × String) :=
  [ ("GET", "/api/v1/orders"),
    ("GET", "/api/v1/orders/\x7bid\x7d"),
    ("PUT", "/api/v1/orders/\x7bid\x7d"),
    ("POST", "/api/v1/orders/\x7bid\x7d/cancel"),
    ("POST", "/api/v1/orders/\x7bid\x7d/complete"),
    ("POST", "/api/v1/orders/\x7bid\x7d/payment"),
    ("GET", "/api/v1/orders/\x7bid\x7d/payments"),
    ("GET", "/api/v1/orders/\x7bid\x7d/details"),
    ("POST", "/api/v1/orders/\x7bid\x7d/details"),
    ("POST", "/api/v1/orders/\x7bid\x7d/invoice"),
    ("GET", "/api/v1/orders/\x7bid\x7d/invoice"),
    ("GET", "/api/v1/payments"),
    ("POST", "/api/v1/payments"),
    ("GET", "/api/v1/invoices"),
    ("GET", "/api/v1/invoices/\x7bid\x7d"),
    ("GET", "/api/v1/qr-codes"),
    ("GET", "/api/v1/qr-codes/store/\x7bstore_id\x7d"),
    ("GET", "/api/v1/qr-codes/\x7bqr_id\x7d"),
    ("POST", "/api/v1/qr-codes"),
    ("POST", "/api/v1/qr-codes/bulk"),
    ("PUT", "/api/v1/qr-codes/\x7bqr_id\x7d"),
    ("DELETE", "/api/v1/qr-codes/\x7bqr_id\x7d"),
    ("POST", "/api/v1/themes"),
    ("PUT", "/api/v1/themes/\x7btheme_id\x7d"),
    ("DELETE", "/api/v1/themes/\x7btheme_id\x7d") ]

/-- The routes that only administrators reach, by method and path. -/
def adminRoutes : List (String × String) :=
  [ ("POST", "/api/v1/categories"),
    ("PUT", "/api/v1/categories/\x7bid\x7d"),
    ("DELETE", "/api/v1/categories/\x7bid\x7d"),
    ("POST", "/api/v1/products"),
    ("POST", "/api/v1/products/with-variations"),
    ("PUT", "/api/v1/products/\x7bid\x7d"),
    ("PUT", "/api/v1/products/\x7bid\x7d/with-variations"),
    ("POST", "/api/v1/products/\x7bid\x7d/image"),
    ("DELETE", "/api/v1/products/\x7bid\x7d"),
    ("POST", "/api/v1/variations"),
    ("PUT", "/api/v1/variations/\x7bid\x7d"),
    ("DELETE", "/api/v1/variations/\x7bid\x7d"),
    ("GET", "/api/v1/users"),
    ("GET", "/api/v1/users/\x7bid\x7d"),
    ("POST", "/api/v1/users"),
    ("PUT", "/api/v1/users/\x7bid\x7d"),
    ("DELETE", "/api/v1/users/\x7bid\x7d"),
    ("GET", "/api/v1/roles"),
    ("GET", "/api/v1/roles/\x7bid\x7d"),
    ("POST", "/api/v1/roles"),
    ("POST", "/api/v1/roles/comprehensive"),
    ("PUT", "/api/v1/roles/\x7bid\x7d"),
    ("POST", "/api/v1/roles/\x7bid\x7d/permissions"),
    ("DELETE", "/api/v1/roles/\x7bid\x7d/permissions"),
    ("DELETE", "/api/v1/roles/\x7bid\x7d"),
    ("GET", "/api/v1/permissions"),
    ("GET", "/api/v1/permissions/\x7bid\x7d"),
    ("POST", "/api/v1/permissions"),
    ("POST", "/api/v1/permissions/generate"),
    ("PUT", "/api/v1/permissions/\x7bid\x7d"),
    ("DELETE", "/api/v1/permissions/\x7bid\x7d"),
    ("GET", "/api/v1/logs") ]

/-- Whether a table of routes holds a method and a path pattern. -/
def listsRoute (table : List (String × String)) (method : String) (pattern : List Segment) : Bool :=
  table.any fun (m, p) => m == method && Segment.parse p == pattern

/-- The gate the rules put on a route, by its method and path pattern. -/
def routeGate (method : String) (pattern : List Segment) : Option Gate :=
  if listsRoute staffRoutes method pattern then some .staff
  else if listsRoute adminRoutes method pattern then some .admin
  else none

/-- The gate the rules put on the route that answers a request, if any. -/
def requestGate (r : Request) : Option Gate :=
  match Route.select Api.routes r with
  | .ok (route, _) => routeGate route.method route.pattern
  | .error _ => none

/-- **How a guarded route turns a request away**: a 401 that asks for a bearer token when nobody
is signed in, a 403 when the signed-in user is not admitted, or the 400 of a body that is not
JSON. -/
def TurnedAway (now : Stamp) (s : Store) (r : Request) (g : Gate) (resp : Response) : Prop :=
  ((¬ ∃ u, Guard.Authenticated s r u) ∧ resp.status = 401 ∧ resp.challenge = true) ∨
    ((∃ u, Guard.Authenticated s r u ∧ ¬ g.Admits s u) ∧ resp.status = 403) ∨
    (Guard.Unreadable r ∧ ∃ ms, resp = Route.faultResponse now (.invalid ms))

/-! ## §2 — Every guarded route has a guarded handler -/

/-- The gate the rules put on each route of the table, in the table's order. -/
theorem route_gates :
    Api.routes.map (fun route => routeGate route.method route.pattern) =
      [none, none, none, none, none, none, none, some .admin, some .admin, some .admin, none, none,
        none, some .admin, some .admin, some .admin, some .admin, some .admin, some .admin, none,
        none, some .admin, some .admin, some .admin, none, some .staff, some .staff, some .staff,
        some .staff, some .staff, some .staff, some .staff, some .staff, some .staff, some .staff,
        some .staff, some .staff, some .staff, some .staff, some .staff, none, some .staff,
        some .staff, some .staff, some .staff, some .staff, some .staff, some .staff, none, none,
        some .staff, some .staff, some .staff, some .admin, some .admin, some .admin, some .admin,
        some .admin, some .admin, some .admin, some .admin, some .admin, some .admin, some .admin,
        some .admin, some .admin, some .admin, some .admin, some .admin, some .admin, some .admin,
        some .admin, none, some .admin] := by
  decide +kernel

/-- A table of routes keeps to the rules when each route's handler is guarded by the gate listed
for it. -/
theorem guarded_of_forall₂ {routes : List Route} {gates : List (Option Gate)}
    (hmap : routes.map (fun route => routeGate route.method route.pattern) = gates)
    (hpair : List.Forall₂ (fun route gate => ∀ g, gate = some g → Guard.Guarded g route.handle)
      routes gates) :
    ∀ route ∈ routes, ∀ g, routeGate route.method route.pattern = some g →
      Guard.Guarded g route.handle := by
  induction hpair with
  | nil => simp
  | cons hhead _ ih =>
    simp only [List.map_cons, List.cons.injEq] at hmap
    intro route hmem g hg
    rcases List.mem_cons.1 hmem with rfl | hmem
    · exact hhead g (hmap.1 ▸ hg)
    · exact ih hmap.2 route hmem g hg

section Table

-- Seen as opaque steps, the body reader and the guard tell the two handler shapes apart at once.
attribute [local irreducible] Input.payload Guard.require

/-- **The routing table keeps to the rules**: the handler of every route that the rules put
behind a gate is guarded by that gate. -/
theorem routes_guarded :
    ∀ route ∈ Api.routes, ∀ g, routeGate route.method route.pattern = some g →
      Guard.Guarded g route.handle := by
  refine guarded_of_forall₂ route_gates ?_
  simp only [Api.routes, Api.statusRoutes, Api.authRoutes, Api.catalogRoutes, Api.orderRoutes,
    Api.qrRoutes, Api.themeRoutes, Api.accessRoutes, Api.logRoutes, List.cons_append,
    List.nil_append, List.forall₂_cons, Route.of, reduceCtorEq, false_implies, implies_true,
    Option.some.injEq, forall_eq', true_and, and_true, List.Forall₂.nil]
  and_intros
  -- each guarded route's handler opens with its gate, possibly after reading the body
  all_goals first
    | exact Guard.guarded_of_require fun _ _ => ⟨_, rfl⟩
    | exact Guard.guarded_of_payload_require fun _ _ => ⟨_, rfl⟩

end Table

/-! ## §3 — Requests to guarded routes -/

/-- A guarded request that does not pass its gate changes nothing and is turned away. -/
theorem guarded_request_refused (s : Store) (n : Nat) (now : Stamp) (r : Request) (g : Gate)
    (hg : requestGate r = some g) (hno : ¬ Guard.Passes s r g) :
    (serve Api.routes s n now r).store = s ∧
      TurnedAway now s r g (serve Api.routes s n now r).response := by
  unfold requestGate at hg
  split at hg
  · rename_i route ps hsel
    let σ : Session := { store := s, saved := s, nextId := n, now := now }
    obtain ⟨f, hf, hrefuse⟩ :=
      routes_guarded route (Route.select_mem hsel) g hg r ps σ hno
    rw [serve_eq, Route.dispatch_eq_handle hsel, hf]
    refine ⟨rfl, ?_⟩
    -- the guard's two refusals and the body's one, as answers
    rcases hrefuse with (⟨nobody, d, rfl⟩ | ⟨⟨u, hu, hadm⟩, d, rfl⟩) | ⟨hbody, ms, rfl⟩
    · exact .inl ⟨nobody, rfl, rfl⟩
    · exact .inr (.inl ⟨⟨u, hu, hadm⟩, rfl⟩)
    · exact .inr (.inr ⟨hbody, ms, rfl⟩)
  · cases hg

/-- A request without an `Authorization` header to delete a category, on the empty store. -/
def anonymousCategoryDelete : Request :=
  { method := "DELETE", path := "/api/v1/categories/c1", headers := [], query := [],
    body := .empty, storageFails := false, clock := 0 }

theorem anonymous_category_delete_refused :
    requestGate anonymousCategoryDelete = some .admin ∧
      ¬ Guard.Passes {} anonymousCategoryDelete .admin ∧
      (serve Api.routes {} 0 (Stamp.ofEpoch 0) anonymousCategoryDelete).store = {} ∧
      TurnedAway (Stamp.ofEpoch 0) {} anonymousCategoryDelete .admin
        (serve Api.routes {} 0 (Stamp.ofEpoch 0) anonymousCategoryDelete).response := by
  have hg : requestGate anonymousCategoryDelete = some .admin := by decide +kernel
  have hno : ¬ Guard.Passes {} anonymousCategoryDelete .admin := by
    rintro ⟨u, ⟨cs, sub, ⟨tk, _, hh, -⟩, -⟩, -⟩
    cases hh
  exact ⟨hg, hno, guarded_request_refused {} 0 (Stamp.ofEpoch 0) anonymousCategoryDelete .admin hg hno⟩

end Access

end Bistro
