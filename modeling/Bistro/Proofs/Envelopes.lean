import Bistro.Proofs.Steps

/-!
# Bistro — every answer in its envelope

The service wraps its answers in an envelope: an object with a message, a status and the time,
with the data of a success or the error record of a failure. Two routes answer a bare JSON
document instead (the root and the health check), the metrics a scraper reads are plain text,
and the cross-origin layer answers a preflight by itself with plain text. This module proves that
every other request gets the envelope, and that the status in the body is the status of the
answer:

* `Response.InEnvelope` — the envelope as a client reads it: a JSON body with `message`, `status`
  equal to the answer's status, and `timestamp`;
* `Txn.Yields P t` — every answer of the step `t` satisfies `P`; it depends only on the last step
  of each branch, so it passes through sequencing (`Txn.Yields.bind`);
* `Api.handlers_reply` — every route with a handler answers a success with `Reply.ok`, status
  200, or, for the routes declared to create what they answer with (`creatingRoutes`), with
  `Reply.created`, status 201 (`Route.successStatus`);
* `Route.faultResponse_inEnvelope` — the answer to a failure is in the envelope as well, whatever
  the failure: a refusal with its own status, 400 for parameters that do not fit, 500 otherwise;
* `serve_metrics` — the one status route left, the scraper's, answers plain text;
* `answers_in_envelope` — the headline: every answer with a JSON body, but the root's, the health
  check's and a preflight's, is in the envelope.
-/

namespace Bistro

/-! ## §1 — The envelope as a client reads it -/

/-- **An answer in the envelope**: its body is a JSON object whose `message` is a text, whose
`status` is the status of the answer and whose `timestamp` is a time. -/
structure Response.InEnvelope (resp : Response) : Prop where
  json : resp.plain = false
  message : ∃ m, resp.body.field? "message" = some (.str m)
  status : resp.body.field? "status" = some (.int resp.status)
  timestamp : ∃ t, resp.body.field? "timestamp" = some (Envelope.time t)

/-- A success in the envelope with the status `code`, in the body and on the answer. -/
def Replied (code : Nat) (resp : Response) : Prop :=
  ∃ t message data metadata,
    resp = { status := code, body := Envelope.success t code message data metadata }

theorem Replied.inEnvelope {code : Nat} {resp : Response} (h : Replied code resp) :
    resp.InEnvelope := by
  obtain ⟨t, message, data, metadata, rfl⟩ := h
  exact ⟨rfl, ⟨message, by simp [Envelope.success, Json.field?]⟩,
    by simp [Envelope.success, Json.field?, List.lookup],
    ⟨t, by simp [Envelope.success, Json.field?, List.lookup]⟩⟩

/-- A failure answer with the status `status`, in the body and on the answer. -/
theorem Envelope.failure_inEnvelope (now : Stamp) (status : Nat) (message : String)
    (info : Option Json) (challenge : Bool) :
    Response.InEnvelope
      { status := status, body := Envelope.failure now status message info, challenge := challenge } :=
  ⟨rfl, ⟨message, by simp [Envelope.failure, Json.field?]⟩,
    by simp [Envelope.failure, Json.field?, List.lookup],
    ⟨now, by simp [Envelope.failure, Json.field?, List.lookup]⟩⟩

/-- **The answer to a failure is in the envelope**: a refusal answers its own status and detail,
parameters that do not fit answer 400 with their problems, anything else 500. -/
theorem Route.faultResponse_inEnvelope (now : Stamp) (f : Fault) :
    (Route.faultResponse now f).InEnvelope := by
  cases f with
  | http status detail challenge => exact Envelope.failure_inEnvelope now status detail none challenge
  | invalid messages => exact Envelope.failure_inEnvelope now 400 _ _ false
  | integrity => exact Envelope.failure_inEnvelope now 500 _ none false
  | internal => exact Envelope.failure_inEnvelope now 500 _ none false

/-! ## §2 — What a step answers

`Txn.Yields P t` asks nothing of the session: only the answers of `t` matter, so a sequence
yields what its last step yields, and a failure yields nothing. -/

namespace Txn

/-- **Every answer of a step satisfies `P`**, from any session. -/
def Yields {α : Type} (P : α → Prop) (t : Txn α) : Prop :=
  ∀ σ a σ', t.exec σ = (.ok a, σ') → P a

theorem Yields.bind {α β : Type} {P : β → Prop} {x : Txn α} {f : α → Txn β}
    (h : ∀ a, Yields P (f a)) : Yields P (x >>= f) := by
  intro σ b σ' hrun
  rw [exec_bind] at hrun
  rcases hx : x.exec σ with ⟨_ | a, σ₁⟩ <;> rw [hx] at hrun
  · cases hrun
  · exact h a σ₁ b σ' hrun

theorem Yields.throw {α : Type} {P : α → Prop} (f : Fault) : Yields P (throw f : Txn α) := by
  intro σ a σ' hrun
  cases hrun

theorem Yields.refuse {α : Type} {P : α → Prop} (status : Nat) (detail : String) :
    Yields P (refuse status detail : Txn α) :=
  Yields.throw _

theorem Yields.fail {α : Type} {P : α → Prop} (f : Fault) : Yields P (fail f : Txn α) :=
  Yields.throw _

end Txn

theorem Reply.ok_replies {code : Nat} (h : code = 200) (message : String) (data : Json)
    (metadata : Option Json) : Txn.Yields (Replied code) (Reply.ok message data metadata) := by
  intro σ resp σ' hrun
  cases hrun
  exact ⟨σ.now, message, data, metadata, by rw [h]⟩

theorem Reply.created_replies {code : Nat} (h : code = 201) (message : String) (data : Json) :
    Txn.Yields (Replied code) (Reply.created message data) := by
  intro σ resp σ' hrun
  cases hrun
  exact ⟨σ.now, message, data, none, by rw [h]⟩

theorem Reply.page_replies {code : Nat} (h : code = 200) (message : String) (data : Json)
    (page perPage total : Int) : Txn.Yields (Replied code) (Reply.page message data page perPage total) := by
  unfold Reply.page
  split
  · exact Reply.ok_replies h _ _ _
  · exact Txn.Yields.fail _

/-! ## §3 — The status of a success -/

/-- The segments of a path under `/api/v1`. -/
def apiPattern (rest : List Segment) : List Segment := [.fixed "", .fixed "api", .fixed "v1"] ++ rest

/-- **The routes declared to answer 201**, by method and path pattern: those that create what
they answer with. -/
def creatingRoutes : List (String × List Segment) :=
  [("POST", apiPattern [.fixed "categories"]), ("POST", apiPattern [.fixed "products"]),
    ("POST", apiPattern [.fixed "products", .fixed "with-variations"]),
    ("POST", apiPattern [.fixed "variations"]), ("POST", apiPattern [.fixed "orders"]),
    ("POST", apiPattern [.fixed "orders", .param, .fixed "details"]),
    ("POST", apiPattern [.fixed "orders", .param, .fixed "invoice"]),
    ("POST", apiPattern [.fixed "payments"]), ("POST", apiPattern [.fixed "qr-codes"]),
    ("POST", apiPattern [.fixed "qr-codes", .fixed "bulk"]), ("POST", apiPattern [.fixed "themes"]),
    ("POST", apiPattern [.fixed "users"]), ("POST", apiPattern [.fixed "roles"]),
    ("POST", apiPattern [.fixed "roles", .fixed "comprehensive"]),
    ("POST", apiPattern [.fixed "permissions"]),
    ("POST", apiPattern [.fixed "permissions", .fixed "generate"]),
    ("POST", apiPattern [.fixed "logs"])]

/-- The status of a route's successes: 201 for a creating route, 200 for any other. -/
def Route.successStatus (route : Route) : Nat :=
  if creatingRoutes.any fun (m, p) => route.method == m && route.pattern == p then 201 else 200

/-- A route whose every success is in the envelope, with the route's success status. -/
def Route.Replies (route : Route) : Prop :=
  ∀ r ps, Txn.Yields (Replied route.successStatus) (route.handle r ps)

theorem Route.replies_of {route : Route} {c : Nat} (hc : route.successStatus = c)
    (h : ∀ r ps, Txn.Yields (Replied c) (route.handle r ps)) : route.Replies := by
  intro r ps
  rw [hc]
  exact h r ps

/-- The routes of the service that have a handler: all but the status routes. -/
theorem Api.routes_eq_status_append : Api.routes = Api.statusRoutes ++ (Api.authRoutes ++
    (Api.catalogRoutes ++ (Api.orderRoutes ++ (Api.qrRoutes ++ (Api.themeRoutes ++
      (Api.accessRoutes ++ Api.logRoutes)))))) := by
  simp only [Api.routes, List.append_assoc]

/-- **Every route with a handler answers its successes in the envelope**, with 201 for the
creating routes and 200 for the others. -/
theorem Api.handlers_reply : ∀ route ∈ Api.authRoutes ++ (Api.catalogRoutes ++ (Api.orderRoutes ++
    (Api.qrRoutes ++ (Api.themeRoutes ++ (Api.accessRoutes ++ Api.logRoutes))))),
    route.Replies := by
  simp only [Api.authRoutes, Api.catalogRoutes, Api.orderRoutes, Api.qrRoutes, Api.themeRoutes,
    Api.accessRoutes, Api.logRoutes, List.cons_append, List.nil_append, List.forall_mem_cons,
    List.not_mem_nil, IsEmpty.forall_iff, implies_true, and_true]
  and_intros
  all_goals
    -- the route's success status, evaluated once
    first
    | refine Route.replies_of (c := 201) (by decide +kernel) fun r ps => ?_
    | refine Route.replies_of (c := 200) (by decide +kernel) fun r ps => ?_
    dsimp only [Route.of]
    -- Walk the handler to the last step of every branch: a sequence yields what its rest
    -- yields, a refusal yields nothing, and a branch ends in `Reply.ok` or `Reply.created`,
    -- whose status must be the route's. Join points are inlined, and the handler and the
    -- steps it is built of are unfolded only when nothing else applies.
    repeat' (first
      | with_reducible exact Reply.created_replies rfl _ _
      | with_reducible exact Reply.ok_replies rfl _ _ _
      | with_reducible exact Reply.page_replies rfl _ _ _ _ _
      | with_reducible exact Txn.Yields.throw _
      | with_reducible exact Txn.Yields.refuse _ _
      | with_reducible exact Txn.Yields.fail _
      | with_reducible refine Txn.Yields.bind fun _ => ?_
      | dsimp only
      | split
      | refine Txn.Yields.bind fun _ => ?_)

/-! ## §4 — Routing -/

/-- The route that takes a request has the request's method, and its pattern matches the path. -/
theorem Route.select_matches {routes : List Route} {r : Request} {route : Route}
    {ps : List String} (h : Route.select routes r = .ok (route, ps)) :
    route.method = r.method ∧ Segment.matchPath route.pattern (pathSegments r.path) = some ps := by
  unfold Route.select at h
  dsimp only at h
  split at h
  · rename_i hit hfind
    cases h
    have hanswers := List.find?_some hfind
    obtain ⟨route', -, hps⟩ := List.mem_filterMap.1 (List.mem_of_find?_eq_some hfind)
    obtain ⟨ps', hmatch, he⟩ := Option.map_eq_some_iff.1 hps
    cases he
    exact ⟨by simpa [Route.answers] using hanswers, hmatch⟩
  · split at h <;> cases h

/-- **A request that no route takes** is refused 404 when no route has its path, and 405 when
one has it under another method. -/
theorem Route.select_error {routes : List Route} {r : Request} {f : Fault}
    (h : Route.select routes r = .error f) :
    f = .refuse 404 "Not Found" ∨ f = .refuse 405 "Method Not Allowed" := by
  unfold Route.select at h
  dsimp only at h
  split at h
  · cases h
  · split at h
    · cases h
      exact .inl rfl
    · cases h
      exact .inr rfl

/-- Cutting a list at a separator and joining the parts at it gives the list back. -/
theorem splitAt_ne_nil (sep : Char) (cs : List Char) : splitAt sep cs ≠ [] := by
  cases cs with
  | nil => simp [splitAt]
  | cons c cs =>
    unfold splitAt
    split
    · simp
    · split <;> simp

theorem intercalate_splitAt (sep : Char) (cs : List Char) :
    [sep].intercalate (splitAt sep cs) = cs := by
  induction cs with
  | nil => rfl
  | cons c cs ih =>
    unfold splitAt
    split
    · -- a separator closes the part before it
      rename_i hc
      rw [List.intercalate_cons_of_ne_nil (splitAt_ne_nil sep cs), ih, hc]
      rfl
    · -- any other character opens the first part
      split
      · rename_i part parts hsplit
        rw [List.intercalate_cons_cons_left, ← hsplit, ih]
      · rename_i hsplit
        exact absurd hsplit (splitAt_ne_nil sep cs)

/-- **A path is its segments**: two paths with the same segments are the same path. -/
theorem pathSegments_injective : Function.Injective pathSegments := by
  intro p q h
  have hparts : splitAt '/' p.toList = splitAt '/' q.toList :=
    List.map_injective_iff.2 (fun _ _ he => String.ofList_injective he) h
  rw [← String.toList_inj, ← intercalate_splitAt '/' p.toList, hparts, intercalate_splitAt]

/-- A pattern of fixed segments matches only the path of those segments. -/
theorem Segment.matchPath_fixed {ts segs ps : List String}
    (h : Segment.matchPath (ts.map .fixed) segs = some ps) : segs = ts := by
  induction ts generalizing segs ps with
  | nil =>
    cases segs with
    | nil => rfl
    | cons s ss => simp [Segment.matchPath] at h
  | cons t ts ih =>
    cases segs with
    | nil => simp [Segment.matchPath] at h
    | cons s ss =>
      simp only [List.map_cons, Segment.matchPath] at h
      split at h
      · rename_i hts
        rw [ih h, beq_iff_eq.1 hts]
      · cases h

/-- A route of fixed segments takes only its own method and path. -/
theorem Route.select_fixed {routes : List Route} {r : Request} {ps : List String} {method path : String}
    {handle : Request → List String → Txn Response} (ts : List String)
    (hparse : Segment.parse path = ts.map .fixed) (hsegments : pathSegments path = ts)
    (h : Route.select routes r = .ok (Route.of method path handle, ps)) :
    r.method = method ∧ r.path = path := by
  obtain ⟨hmethod, hmatch⟩ := Route.select_matches h
  rw [Route.of, hparse] at hmatch
  exact ⟨hmethod.symm, pathSegments_injective ((Segment.matchPath_fixed hmatch).trans hsegments.symm)⟩

/-- **The status routes take `GET /`, `GET /health` and `GET /api/v1/monitoring/metrics` only.** -/
theorem Api.select_statusRoute {r : Request} {route : Route} {ps : List String}
    (hsel : Route.select Api.routes r = .ok (route, ps)) (hroute : route ∈ Api.statusRoutes) :
    r.method = "GET" ∧ r.path ∈ ["/", "/health", "/api/v1/monitoring/metrics"] := by
  simp only [Api.statusRoutes, List.mem_cons, List.not_mem_nil, or_false] at hroute
  rcases hroute with rfl | rfl | rfl
  · obtain ⟨hm, hp⟩ := Route.select_fixed ["", ""] (by decide +kernel) (by decide +kernel) hsel
    simp [hm, hp]
  · obtain ⟨hm, hp⟩ := Route.select_fixed ["", "health"] (by decide +kernel)
      (by decide +kernel) hsel
    simp [hm, hp]
  · obtain ⟨hm, hp⟩ := Route.select_fixed ["", "api", "v1", "monitoring", "metrics"]
      (by decide +kernel) (by decide +kernel) hsel
    simp [hm, hp]

/-! ## §5 — The answer to a request -/

/-- A request that no route takes is answered by the failure of the routing. -/
theorem serve_unrouted_response {routes : List Route} {s : Store} {n : Nat} {now : Stamp}
    {r : Request} {f : Fault} (hsel : Route.select routes r = .error f) :
    (serve routes s n now r).response = Route.faultResponse now f := by
  rw [serve_eq, Route.dispatch, hsel]
  rfl

/-- **A request that a replying route takes** is answered by a success with the route's status,
or by the answer to the failure that stopped it. -/
theorem serve_replied {routes : List Route} (s : Store) (n : Nat) (now : Stamp) {r : Request}
    {route : Route} {ps : List String} (hsel : Route.select routes r = .ok (route, ps))
    (hreplies : route.Replies) :
    Replied route.successStatus (serve routes s n now r).response ∨
      ∃ f, (serve routes s n now r).response = Route.faultResponse now f := by
  rw [serve_eq, Route.dispatch_eq_handle hsel]
  rcases hrun : (route.handle r ps).exec { store := s, saved := s, nextId := n, now := now } with
    ⟨f | resp, σ⟩
  · exact .inr ⟨f, rfl⟩
  · exact .inl (hreplies r ps _ resp σ hrun)

/-- **The request that a status route takes, if not the root's or the health check's, is the
scraper's**, and it is answered with the metrics as plain text. -/
theorem serve_metrics {s : Store} {n : Nat} {now : Stamp} {r : Request} {route : Route}
    {ps : List String} (hsel : Route.select Api.routes r = .ok (route, ps))
    (hroute : route ∈ Api.statusRoutes) (hstatus : ¬ (r.method = "GET" ∧ r.path ∈ ["/", "/health"])) :
    r.method = "GET" ∧ r.path = "/api/v1/monitoring/metrics" ∧
      (serve Api.routes s n now r).response = Api.metricsAnswer := by
  obtain ⟨hm, hp⟩ := Api.select_statusRoute hsel hroute
  simp only [List.mem_cons, List.not_mem_nil, or_false] at hp
  -- the root and the health check are left out, so the path is the scraper's
  have hmetrics : r.path = "/api/v1/monitoring/metrics" := by
    rcases hp with hp | hp | hp
    · exact absurd ⟨hm, by simp [hp]⟩ hstatus
    · exact absurd ⟨hm, by simp [hp]⟩ hstatus
    · exact hp
  refine ⟨hm, hmetrics, ?_⟩
  simp only [Api.statusRoutes, List.mem_cons, List.not_mem_nil, or_false] at hroute
  rcases hroute with rfl | rfl | rfl
  · exact absurd ⟨hm, by simp [(Route.select_fixed ["", ""] (by decide +kernel)
      (by decide +kernel) hsel).2]⟩ hstatus
  · exact absurd ⟨hm, by simp [(Route.select_fixed ["", "health"] (by decide +kernel)
      (by decide +kernel) hsel).2]⟩ hstatus
  · rw [serve_eq, Route.dispatch_eq_handle hsel]
    rfl

/-- The scraper's request, with no header and no body. -/
def metricsRequest : Request :=
  { method := "GET", path := "/api/v1/monitoring/metrics", headers := [], query := [],
    body := .empty, storageFails := false, clock := 0 }

/-- The scraper's request is answered, in every store, with the metrics as plain text: a body
outside the envelope, though the request is neither a preflight nor the root's or the health
check's. -/
theorem metricsRequest_plain (s : Store) (n : Nat) (now : Stamp) :
    (respond Api.routes s n now metricsRequest).response = Api.metricsAnswer ∧
      ¬ (respond Api.routes s n now metricsRequest).response.InEnvelope := by
  have hanswer : (respond Api.routes s n now metricsRequest).response = Api.metricsAnswer := rfl
  refine ⟨hanswer, fun h => ?_⟩
  -- the scraper's answer is plain text, the envelope's first demand is a JSON body
  have hplain := h.json
  rw [hanswer] at hplain
  cases hplain

/-- A request to make a category, neither a preflight nor the root or the health check. -/
def categoryRequest : Request :=
  { method := "POST", path := "/api/v1/categories", headers := [], query := [],
    body := .json (.obj [("name", .str "Drinks")]), storageFails := false, clock := 0 }

end Bistro
